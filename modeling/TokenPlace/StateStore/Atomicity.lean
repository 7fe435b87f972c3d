import TokenPlace.StateStore.RequestSide
import TokenPlace.StateStore.Sample

/-!
# Refused calls change nothing

A call that raises, or returns one of the refusals, leaves the state that its
housekeeping left (`failure_atomic`). The two writes that a raise could follow,
the generation counter of a claim and a batch of a node transition, are safe
because a deadline of the source never overflows at a finite clock reading
(`isfiniteSum_min`, `isfiniteSum_add`).
-/

namespace StateStore

/-! ## No deadline overflows -/

theorem greatestDouble_lt : greatestDouble + 604800 < overflowThreshold := by
  unfold greatestDouble overflowThreshold
  decide +kernel

theorem isfiniteSum_add {a t : Epoch} (finite : isfinite a) (nonneg : 0 ≤ t) (le : t ≤ 604800) :
    isfiniteSum (a + t) := by
  have bound : (greatestDouble : Epoch) + 604800 < overflowThreshold := by
    exact_mod_cast greatestDouble_lt
  obtain ⟨lower, upper⟩ := abs_le.mp finite
  exact abs_lt.mpr ⟨by linarith, by linarith⟩

theorem isfiniteSum_min {a b t : Epoch} (ha : isfinite a) (hb : isfinite b) (nonneg : 0 ≤ t) :
    isfiniteSum (min (a + t) b) := by
  have bound : (greatestDouble : Epoch) + 604800 < overflowThreshold := by
    exact_mod_cast greatestDouble_lt
  obtain ⟨lowerA, -⟩ := abs_le.mp ha
  obtain ⟨lowerB, upperB⟩ := abs_le.mp hb
  refine abs_lt.mpr ⟨lt_min (by linarith) (by linarith), ?_⟩
  exact lt_of_le_of_lt (min_le_right _ _) (by linarith)

/-! ## Refusals -/

/-- The results that turn the caller away. `unregister` returns `False` for the
states `not_found` and `already_complete`. -/
def Reply.isRefusal : Reply → Bool
  | .renewal .ownerMismatch => true
  | .renewal (.staleGeneration _) => true
  | .renewal .missingOrExpired => true
  | .terminal ⟨.invalidCancellationProof, _⟩ => true
  | .terminal ⟨.notExpired, _⟩ => true
  | .retrieval .invalidRetrievalCredential => true
  | .retrieval .invalidAcknowledgement => true
  | .transition r => r.state = .leaseActive || r.state = .notFound || r.state = .alreadyComplete
  | .flag b => !b
  | _ => false

/-- The call raised a `RelayStateStoreError` or returned a refusal. -/
def Refused : Except StoreError Reply → Prop
  | .error e => e.isRelayStateStoreError
  | .ok reply => reply.isRefusal = true

/-- `register` computes the lease deadline before its housekeeping. -/
def LeaseOverflows (env : StoreEnv) (c : Call) : Prop :=
  (∃ n caps d, c.op = .register n caps d) ∧ ¬isfiniteSum (c.clock + env.config.leaseTtlSeconds)

section

variable {env : StoreEnv} {now : Epoch} {s s' : Store}

theorem Commit.not_refused {drawn : String} {op : Op} {r : Except StoreError Reply}
    (inv : RequestInv s) (finite : isfinite now) (h : Commit env now drawn op s r s') :
    ¬Refused r := by
  cases h with
  | advance h =>
    obtain ⟨queued, -⟩ := (inv.queue_mem _ _).mp h.queued
    have nonneg : 0 ≤ env.config.claimTtlSeconds :=
      le_trans (by norm_num) env.durations.claim.1
    exact absurd (isfiniteSum_min finite (inv.finite _ (.queued _) queued) nonneg) h.overflow
  | _ => exact nofun

theorem ContinueOutcome.not_refused {n : String} {p : PendingNodeTransition} {op : Op}
    {cause : Cause} {result : Except StoreError NodeTransitionResult}
    {r : Except StoreError Reply} (finite : isfinite now)
    (h : ContinueOutcome env Any now n p s result s') (removal : Removal op n cause result r) :
    ¬Refused r := by
  have nonneg : 0 ≤ env.config.terminalRetentionSeconds :=
    le_trans (by norm_num) env.durations.retention.1
  cases h with
  | ok _ _ _ _ state =>
    cases removal with
    | unregister => rcases state with state | state <;> simp [Except.map, Refused, Reply.isRefusal, state]
    | transition => rcases state with state | state <;> simp [Except.map, Refused, Reply.isRefusal, state]
  | overflow _ _ _ infinite =>
    exact absurd (isfiniteSum_add finite nonneg env.durations.retention.2) infinite
  | missing _ _ lookup _ => cases removal <;> exact fun relay => relay lookup

theorem CallOutcome.refused {c : Call} {r : Except StoreError Reply} (inv : RequestInv s)
    (finite : isfinite c.clock) (valid : c.op.validate env = .ok ())
    (lease : ¬LeaseOverflows env c) (housekept : (c.op.housekeeping env c.clock s).1 = .ok ())
    (h : CallOutcome env c s r s') (refused : Refused r) :
    s' = (c.op.housekeeping env c.clock s).2 := by
  have swept : ∀ {r s₁}, c.op.housekeeping env c.clock s = (r, s₁) → RequestInv s₁ := fun hh =>
    ((c.op.housekeeping_sweeps c.clock).of_eq hh).keeps (fun _ _ step => step.requestInv) inv
  cases h with
  | rejected invalid | invalidProof invalid => rw [valid] at invalid; cases invalid
  | unread infinite => exact absurd finite infinite
  | noLease hop overflow =>
    refine absurd ⟨⟨_, _, _, hop⟩, fun finiteLease => ?_⟩ lease
    rw [leaseDeadline, if_pos finiteLease] at overflow
    cases overflow
  | stopped _ _ hh => rw [hh] at housekept; cases housekept
  | body _ _ hh body =>
    rw [hh]
    cases body with
    | unchanged _ => rfl
    | committed h => exact absurd refused (h.not_refused (swept hh) finite)
  | removal _ _ hh outcome removal =>
    rw [hh]
    cases outcome with
    | raised _ => rfl
    | idle _ => rfl
    | continued _ h => exact absurd refused (h.not_refused finite removal)
    | started _ h => exact absurd refused (h.not_refused finite removal)

/-- A registration whose lease deadline overflows stops before its housekeeping. -/
theorem LeaseOverflows.next {c : Call} (h : LeaseOverflows env c) : c.next env s = s := by
  obtain ⟨clock, drawn, op⟩ := c
  obtain ⟨⟨n, caps, d, hop⟩, overflow⟩ := h
  subst hop
  have checks : ∀ lease, registerChecks env clock n d ≠ .ok lease := by
    intro lease ok
    simp only [registerChecks, Method.bind_ok_iff] at ok
    obtain ⟨_, -, now, read, ok⟩ := ok
    unfold nowOf at read
    split at read
    · cases read
      rw [leaseDeadline, if_neg overflow] at ok
      cases ok
    · cases read
  show Method.Ends (replying .registered (register env clock n caps d)) s fun _ s' => s' = s
  rw [ends_replying]
  unfold register
  exact ends_publicCall (fun _ _ => rfl) (fun _ _ => rfl)
    (fun lease _ _ ok => absurd ok (checks lease)) fun lease _ ok => absurd ok (checks lease)

/-! ## Calls that get to their body -/

/-- The call gets past its checks and its housekeeping; its body starts in `s₁`. -/
structure Starts (env : StoreEnv) (c : Call) (s s₁ : Store) : Prop where
  finite : isfinite c.clock
  valid : c.op.validate env = .ok ()
  lease : ¬LeaseOverflows env c
  housekept : c.op.housekeeping env c.clock s = (.ok (), s₁)

theorem Call.raises_of_housekeeping (c : Call) (finite : isfinite c.clock)
    (valid : c.op.validate env = .ok ()) (lease : ¬LeaseOverflows env c) {e : StoreError}
    (raised : (c.op.housekeeping env c.clock s).1 = .error e) : c.result env s = .error e := by
  have outcome : CallOutcome env c s (c.result env s) (c.next env s) := c.next_outcome s
  generalize c.next env s = s' at outcome
  generalize c.result env s = r at outcome
  cases outcome with
  | rejected invalid | invalidProof invalid => cases invalid.symm.trans valid
  | unread infinite => exact absurd finite infinite
  | noLease hop overflow =>
    refine absurd ⟨⟨_, _, _, hop⟩, fun fits => ?_⟩ lease
    rw [leaseDeadline, if_pos fits] at overflow
    cases overflow
  | stopped _ _ hh =>
    rw [hh] at raised
    cases raised
    rfl
  | body _ _ hh _ | removal _ _ hh _ _ => rw [hh] at raised; cases raised

end

/-- At a finite clock reading a call on a reachable store that is refused after
its housekeeping leaves the state of the housekeeping; one whose arguments, or
whose lease deadline, do not pass leaves the state it found. -/
theorem failure_atomic (env : StoreEnv) (calls : List Call) (c : Call) (finite : isfinite c.clock) :
    let s := runs env calls Store.initial
    ((c.op.validate env ≠ .ok () ∨ LeaseOverflows env c) → c.next env s = s) ∧
    (c.op.validate env = .ok () → ¬LeaseOverflows env c →
      (c.op.housekeeping env c.clock s).1 = .ok () → Refused (c.result env s) →
      c.next env s = (c.op.housekeeping env c.clock s).2) := by
  intro s
  have inv : RequestInv s := (@reachable_runs env calls).requestInv
  have outcome : CallOutcome env c s _ _ := c.next_outcome s
  refine ⟨?_, fun valid lease housekept => outcome.refused inv finite valid lease housekept⟩
  rintro (invalid | overflow)
  · exact outcome.unvalidated invalid
  · exact overflow.next

/-- A claim under another credential is turned away after the housekeeping. -/
theorem failure_atomic_mismatch :
    let s := runs defaultEnv (registration :: admission 100) Store.initial
    let c := sampleCall 2 (.claimQueuedRequest "node-a" credentialB "consumer-1")
    c.result defaultEnv s =
        .error (credentialMismatch "control credential digest does not own this registration") ∧
      c.next defaultEnv s = (c.op.housekeeping defaultEnv c.clock s).2 := by
  intro s c
  have refused : c.result defaultEnv s =
      .error (credentialMismatch "control credential digest does not own this registration") := by
    decide +kernel
  refine ⟨refused, (failure_atomic defaultEnv (registration :: admission 100) c
    (by decide +kernel)).2 (by decide +kernel) ?_ (by decide +kernel) ?_⟩
  · rintro ⟨⟨n, caps, d, hop⟩, -⟩
    cases hop
  · show Refused (c.result defaultEnv s)
    rw [refused]
    exact nofun

/-- Leases of `2 ^ 1023` seconds. -/
def longLeaseEnv : StoreEnv :=
  sampleEnv { namespace_ := "relay", leaseTtlSeconds := 2 ^ 1023 } (by decide +kernel)

/-- `register` raises on the lease deadline before its housekeeping, which would
have dropped the tombstone of the removed node. -/
theorem register_raises_before_housekeeping :
    let s := runs longLeaseEnv [registration, sampleCall 1 (.unregister "node-a" credentialA)]
      Store.initial
    let c := sampleCall (2 ^ 1023) (.register "node-b" sampleCapabilities credentialB)
    isfinite c.clock ∧ c.op.validate longLeaseEnv = .ok () ∧
      c.result longLeaseEnv s = .error (storeError "lease deadline must be finite") ∧
      (c.op.housekeeping longLeaseEnv c.clock s).1 = .ok () ∧
      (c.next longLeaseEnv s).nodeTombstones.size = 1 ∧
      (c.op.housekeeping longLeaseEnv c.clock s).2.nodeTombstones.size = 0 := by
  decide +kernel

end StateStore
