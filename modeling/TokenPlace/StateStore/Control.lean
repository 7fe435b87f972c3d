import TokenPlace.StateStore.Availability
import TokenPlace.StateStore.Fencing
import TokenPlace.StateStore.Removal

/-!
# Stop instructions

A claim that is unexpired when its request ends without a response leaves a
control tombstone, and the tombstone is the answer to its owner for as long as it
lasts: it outlives the claim, the registration and the queue entry, and the
terminal record outlives it.

* `Stopping`: a tombstone and the terminal record that outlives it;
* `Stopped.stopping`: the end of a claimed request leaves one;
* `stop_delivered`: what the owner and anyone else reads, in every run.
-/

namespace StateStore

open Method

section

variable {env : StoreEnv} {P : TerminalPolicy} {now : Epoch} {s s' : Store} {id : Identity}

/-! ## Removals cancel -/

/-- Every started removal cancels the work of its node. -/
def PendingCancels (s : Store) : Prop :=
  ∀ n p, s.pendingNodeTransitions.get? n = some p → p.status = .cancelled

theorem Sweep.pendingCancels (h : Sweep env P now s s') (inv : PendingCancels s) :
    PendingCancels s' := by
  rcases h.registry with ⟨-, -, pending⟩ | ⟨m, record, cause, starts⟩ | ⟨m, p, a, finishes⟩
  · unfold PendingCancels
    rw [pending]
    exact inv
  · intro n p hp
    rw [starts.post] at hp
    have found := (OrderedDict.get?_set ..).symm.trans hp
    split at found
    · cases found
      rfl
    · exact inv n p found
  · intro n q hq
    rw [finishes.post] at hq
    exact inv n q ((some_of_removed fun k => OrderedDict.get?_erase ..).mp hq).2

theorem Reachable.pendingCancels (h : Reachable env s) : PendingCancels s := by
  refine h.invariant (I := PendingCancels) nofun (fun _ _ _ step => step.pendingCancels) ?_
  intro now drawn op a r b commit inv
  unfold PendingCancels
  rw [commit.pending]
  exact inv

/-! ## A tombstone and its terminal record -/

/-- The tombstone stands, up to its acknowledgement, and its terminal record outlives it. -/
structure Stopping (id : Identity) (tombstone : ControlTombstoneRecord) (s : Store) : Prop where
  standing : ∃ b, s.controlTombstones.get? id = some { tombstone with acknowledged := b }
  terminal : ∃ t, s.terminals.get? id = some t ∧ tombstone.expiresAtEpoch ≤ t.expiresAtEpoch

variable {tombstone : ControlTombstoneRecord}

theorem Stopping.keeps_terminal (stopping : Stopping id tombstone s)
    (early : now < tombstone.expiresAtEpoch)
    (fate : ∀ t, s.terminals.get? id = some t → TerminalFate now t (s'.terminals.get? id)) :
    ∃ t, s'.terminals.get? id = some t ∧ tombstone.expiresAtEpoch ≤ t.expiresAtEpoch := by
  obtain ⟨t, ht, later⟩ := stopping.terminal
  have fate := fate t ht
  cases ht' : s'.terminals.get? id with
  | none =>
    rw [ht'] at fate
    cases fate with
    | reaped elapsed => exact absurd elapsed (not_le.mpr (lt_of_lt_of_le early later))
  | some t' =>
    rw [ht'] at fate
    cases fate with
    | kept evolves => exact ⟨t', rfl, evolves.expires ▸ later⟩

theorem Stopping.of_same (stopping : Stopping id tombstone s)
    (early : now < tombstone.expiresAtEpoch)
    (fate : ∀ t, s.terminals.get? id = some t → TerminalFate now t (s'.terminals.get? id))
    (same : s'.controlTombstones = s.controlTombstones) : Stopping id tombstone s' :=
  ⟨same ▸ stopping.standing, stopping.keeps_terminal early fate⟩

variable {claim : ClaimRecord} {t : TerminalOutcomeRecord} {r : Except StoreError Reply}
  {req : OwnerRequest} {status : Outcome} {reason : Reason} {drawn : String} {force : Bool}
  {w : Work} {op : Op}

theorem Terminalizes.stopping {k : Identity}
    (h : Terminalizes env P now k w status reason force s s')
    (early : now < tombstone.expiresAtEpoch) (stopping : Stopping id tombstone s) :
    Stopping id tombstone s' := by
  refine ⟨?_, stopping.keeps_terminal early fun _ => h.fate⟩
  have hne : id ≠ k := by
    rintro rfl
    obtain ⟨t, ht, -⟩ := stopping.terminal
    exact h.not_terminal (OrderedDict.mem_of_get? ht)
  rw [h.post, writeTerminal_controlTombstones]
  cases tombstoneClaim s k w status now force with
  | none => exact stopping.standing
  | some c =>
    obtain ⟨b, hb⟩ := stopping.standing
    exact ⟨b, ((OrderedDict.get?_set ..).trans (if_neg hne)).trans hb⟩

theorem Sweep.stopping (h : Sweep env P now s s') (early : now < tombstone.expiresAtEpoch)
    (stopping : Stopping id tombstone s) : Stopping id tombstone s' := by
  have fate := fun t (ht : s.terminals.get? id = some t) => h.terminal_fate ht
  cases h with
  | reapRetained =>
    refine ⟨?_, stopping.keeps_terminal early fate⟩
    obtain ⟨b, hb⟩ := stopping.standing
    refine ⟨b, ?_⟩
    rw [reapRetained_controlTombstones, OrderedDict.get?_filter, hb]
    simp [Option.filter, early]
  | terminalize h => exact h.stopping early stopping
  | defer h | touchFences h | finishRemoval h => exact stopping.of_same early fate (by rw [h.post])
  | lapse h | startRemoval h | discardWork h =>
    exact stopping.of_same early fate (by rw [h.post]; rfl)

theorem Commit.stopping
    (h : Commit env now drawn op s r s') (early : now < tombstone.expiresAtEpoch)
    (stopping : Stopping id tombstone s) : Stopping id tombstone s' := by
  have fate := fun t (ht : s.terminals.get? id = some t) => h.terminal_fate ht
  cases h with
  | register h | reregister _ h | renew h | setScheduler h | advance h | claim _ _ h
  | renewClaim _ h | acknowledgeResponse _ h | repair _ h =>
    exact stopping.of_same early fate (by rw [h.post])
  | reserve _ h | enqueue _ h | accept _ h =>
    exact stopping.of_same early fate (by rw [h.post]; rfl)
  | @acknowledgeControl n d consumer client request generation acknowledge req t _ _ _ h =>
    refine ⟨?_, stopping.keeps_terminal early fate⟩
    obtain ⟨b, hb⟩ := stopping.standing
    rw [h.post]
    rcases eq_or_ne id req.identity with rfl | hne
    · -- the record that is acknowledged is this tombstone
      rw [h.present] at hb
      cases hb
      exact ⟨true, (OrderedDict.get?_set ..).trans (if_pos rfl)⟩
    · exact ⟨b, ((OrderedDict.get?_set ..).trans (if_neg hne)).trans hb⟩
  | cancel _ h => exact h.stopping early stopping

theorem Call.stopping (c : Call) (early : c.clock < tombstone.expiresAtEpoch)
    (stopping : Stopping id tombstone s) : Stopping id tombstone (c.next env s) :=
  (c.next_outcome s).keeps (fun _ _ step => step.stopping early)
    (fun _ _ _ commit => commit.stopping early) stopping

theorem runs_stopping {calls : List Call}
    (early : ∀ c ∈ calls, c.clock < tombstone.expiresAtEpoch)
    (stopping : Stopping id tombstone s) : Stopping id tombstone (runs env calls s) := by
  induction calls generalizing s with
  | nil => exact stopping
  | cons c calls ih =>
    exact ih (fun k hk => early k (List.mem_cons_of_mem c hk))
      (c.stopping (early c List.mem_cons_self) stopping)

/-! ## The end of a claimed request -/

/-- A claim that is owed a stop instruction when its request ends with this outcome. -/
def Owed (now : Epoch) (claim : ClaimRecord) (outcome : Outcome) : Prop :=
  outcome ≠ .completed ∧ (now < claim.leaseExpiresAtEpoch ∨
    (outcome = .expired ∧ claim.requestDeadlineEpoch ≤ claim.leaseExpiresAtEpoch))

/-- The call ends the request of the claim with the terminal record `t`. -/
structure Stopped (env : StoreEnv) (c : Call) (s : Store) (id : Identity) (claim : ClaimRecord)
    (t : TerminalOutcomeRecord) : Prop where
  claimed : s.claims.get? id = some claim
  terminal : (c.next env s).terminals.get? id = some t
  owed : Owed c.clock claim t.outcome

/-- The tombstone that the claim is owed. -/
def stopFor (env : StoreEnv) (now : Epoch) (id : Identity) (claim : ClaimRecord)
    (t : TerminalOutcomeRecord) : ControlTombstoneRecord :=
  controlTombstoneOf env id t.outcome t.reason now claim

theorem controlTtl_pos (env : StoreEnv) : 0 < env.config.controlTombstoneTtlSeconds :=
  lt_of_lt_of_le (by norm_num) env.durations.control.1

/-- The tombstone lasts beyond the reading and at most until the terminal record expires. -/
theorem stopFor_expires :
    now < (stopFor env now id claim t).expiresAtEpoch ∧
      (stopFor env now id claim t).expiresAtEpoch ≤
        now + env.config.terminalRetentionSeconds := by
  show now < min (now + env.config.controlTombstoneTtlSeconds) (now + 300) ∧
    min (now + env.config.controlTombstoneTtlSeconds) (now + 300) ≤ _
  refine ⟨lt_min (lt_add_of_pos_right now (controlTtl_pos env)) (lt_add_of_pos_right now
    (by norm_num)), (min_le_left _ _).trans ?_⟩
  exact add_le_add (le_refl now) env.durations.control_le

theorem Terminalizes.stops (h : Terminalizes env P now id w status reason force s s')
    (requests : RequestInv s) (cancels : PendingCancels s)
    (claimed : s.claims.get? id = some claim) (owed : Owed now claim status) :
    tombstoneClaim s id w status now force = some claim := by
  obtain ⟨q, queued, -, -, -, deadline⟩ := requests.claim_queued id claim claimed
  have record : w = .queued q := requests.work_unique h.live (v := .queued q) queued
  have due : w.requestDeadlineEpoch = claim.requestDeadlineEpoch := by
    rw [record, deadline]
    rfl
  unfold tombstoneClaim
  rw [claimed, Option.filter_some]
  refine if_pos ?_
  obtain ⟨-, lease | ⟨rfl, reaches⟩⟩ := owed
  · cases h.origin with
    | deadline elapsed => simp [(elapsed.trans (le_of_lt lease))]
    | requester => simp [lease]
    | node hp => simp [cancels _ _ hp, lease]
  · simp [due, reaches]

/-- The claim has got what it is owed, if its request has ended. -/
def Answered (env : StoreEnv) (now : Epoch) (id : Identity) (claim : ClaimRecord) (s : Store) :
    Prop :=
  ∀ t, s.terminals.get? id = some t → Owed now claim t.outcome →
    Stopping id (stopFor env now id claim t) s

/-- What the sweeps of one call make of a claim: its request goes on or has just ended. -/
structure ClaimFate (env : StoreEnv) (now : Epoch) (id : Identity) (claim : ClaimRecord)
    (s : Store) : Prop where
  answered : Answered env now id claim s
  held : s.claims.get? id = some claim ∨
    ∃ t, s.terminals.get? id = some t ∧ now < t.expiresAtEpoch

theorem Answered.keeps (answered : Answered env now id claim s) (ht : s.terminals.get? id = some t)
    (fate : TerminalFate now t (s'.terminals.get? id))
    (kept : ∀ tombstone, now < tombstone.expiresAtEpoch → Stopping id tombstone s →
      Stopping id tombstone s') : Answered env now id claim s' := by
  intro t' ht' owed
  rw [ht'] at fate
  cases fate with
  | kept evolves =>
    have same : t'.outcome = t.outcome ∧ t'.reason = t.reason := by
      cases evolves <;> exact ⟨rfl, rfl⟩
    unfold stopFor
    rw [same.1, same.2]
    exact kept _ stopFor_expires.1 (answered t ht (same.1 ▸ owed))

theorem Terminalizes.claimFate {k : Identity}
    (h : Terminalizes env P now k w status reason force s s') (requests : RequestInv s)
    (cancels : PendingCancels s) (claimed : s.claims.get? id = some claim) :
    ClaimFate env now id claim s' := by
  have terminals := h.terminals id
  rcases eq_or_ne id k with rfl | hne
  · rw [if_pos rfl] at terminals
    refine ⟨fun t ht owed => ?_, .inr ⟨_, terminals, ?_⟩⟩
    · rw [terminals] at ht
      cases ht
      refine ⟨⟨false, ?_⟩, _, terminals, stopFor_expires.2⟩
      rw [h.post, writeTerminal_controlTombstones, h.stops requests cancels claimed owed]
      exact (OrderedDict.get?_set ..).trans (if_pos rfl)
    · exact lt_add_of_pos_right now (retention_pos env)
  · have kept : s'.claims.get? id = some claim := by
      rw [h.post, writeTerminal_claims, if_neg fun both => hne both.1]
      exact claimed
    obtain ⟨q, queued, -⟩ := requests.claim_queued id claim claimed
    refine ⟨fun t ht => ?_, .inl kept⟩
    rw [terminals, if_neg hne] at ht
    exact absurd (OrderedDict.mem_of_get? ht) (requests.live_not_terminal id (.queued q) queued)

theorem ClaimFate.of_claims (requests : RequestInv s)
    (claimed : s.claims.get? id = some claim) : ClaimFate env now id claim s := by
  obtain ⟨q, queued, -⟩ := requests.claim_queued id claim claimed
  refine ⟨fun t ht => ?_, .inl claimed⟩
  exact absurd (OrderedDict.mem_of_get? ht) (requests.live_not_terminal id (.queued q) queued)

theorem Sweep.claimFate (h : Sweep env P now s s') (requests : RequestInv s)
    (cancels : PendingCancels s) (fate : ClaimFate env now id claim s) :
    ClaimFate env now id claim s' := by
  rcases fate.held with claimed | ⟨t, ht, fresh⟩
  · have held : s'.claims = s.claims → ClaimFate env now id claim s' := fun same =>
      .of_claims (h.requestInv requests) (same ▸ claimed)
    cases h with
    | reapRetained => exact held (by rw [reapRetained_eq])
    | terminalize h => exact h.claimFate requests cancels claimed
    | defer h | touchFences h | finishRemoval h => exact held (by rw [h.post])
    | lapse h | startRemoval h | discardWork h => exact held (by rw [h.post]; rfl)
  · have later := h.terminal_fate ht
    refine ⟨fate.answered.keeps ht later fun _ early => h.stopping early, .inr ?_⟩
    exact later.fresh fresh

/-- The call asks for the end of the request with this identity. -/
def Cancels (env : StoreEnv) (op : Op) (id : Identity) (status : Outcome)
    (reason : Reason) : Prop :=
  ∃ client request token, op = .cancelOrExpireRequest client request token status reason ∧
    identityOf env client request = .ok id

theorem Commit.ends_request
    (h : Commit env now drawn op s r s') (absent : s.terminals.get? id = none)
    (ht : s'.terminals.get? id = some t) :
    (t.outcome = .completed ∧ ∃ c, s.claims.get? id = some c ∧ now < c.requestDeadlineEpoch) ∨
      ∃ k w status reason, Cancels env op k status reason ∧
        Terminalizes env Any now k w status reason false s s' := by
  have same : s'.terminals = s.terminals →
      (t.outcome = .completed ∧ ∃ c, s.claims.get? id = some c ∧ now < c.requestDeadlineEpoch) ∨
      ∃ k w status reason, Cancels env op k status reason ∧
        Terminalizes env Any now k w status reason false s s' := by
    intro heq
    rw [heq, absent] at ht
    cases ht
  cases h with
  | register h | reregister _ h | renew h | setScheduler h | advance h | claim _ _ h
  | renewClaim _ h | acknowledgeControl _ h => exact same (by rw [h.post])
  | reserve _ h | enqueue _ h => exact same (by rw [h.post]; rfl)
  | accept _ h =>
    rw [h.post] at ht
    have found := (OrderedDict.get?_set ..).symm.trans ht
    split at found
    · rename_i hid
      cases found
      exact .inl ⟨rfl, _, hid ▸ h.claimed, h.unexpired⟩
    · rw [absent] at found
      cases found
  | acknowledgeResponse _ h | repair _ h =>
    rw [h.post] at ht
    have present := mem_of_set_present h.present (OrderedDict.mem_of_get? ht)
    exact absurd present (OrderedDict.not_mem_iff.mpr absent)
  | cancel identity h => exact .inr ⟨_, _, _, _, ⟨_, _, _, rfl, identity⟩, h⟩

theorem Commit.answered (h : Commit env now drawn op s r s') (requests : RequestInv s)
    (cancels : PendingCancels s) (fate : ClaimFate env now id claim s) :
    Answered env now id claim s' := by
  rcases fate.held with claimed | ⟨t, ht, -⟩
  · obtain ⟨q, queued, -⟩ := requests.claim_queued id claim claimed
    have absent : s.terminals.get? id = none :=
      OrderedDict.not_mem_iff.mp (requests.live_not_terminal id (.queued q) queued)
    intro t ht owed
    rcases h.ends_request absent ht with ⟨completed, -⟩ | ⟨k, w, status, reason, -, terminalizes⟩
    · exact absurd completed owed.1
    · exact (terminalizes.claimFate requests cancels claimed).answered t ht owed
  · exact fate.answered.keeps ht (h.terminal_fate ht) fun _ early => h.stopping early

/-- The end of a claimed request leaves the tombstone that the claim is owed. -/
theorem Stopped.stopping {c : Call} (reachable : Reachable env s) (h : Stopped env c s id claim t) :
    Stopping id (stopFor env c.clock id claim t) (c.next env s) := by
  have answered : Answered env c.clock id claim (c.next env s) := by
    refine (c.next_outcome s).reaches (I := fun x => RequestInv x ∧ PendingCancels x ∧
      ClaimFate env c.clock id claim x) ?_ ?_ (fun _ inv => inv.2.2.answered)
      ⟨reachable.requestInv, reachable.pendingCancels, .of_claims reachable.requestInv h.claimed⟩
    · rintro a b step ⟨requests, cancels, fate⟩
      exact ⟨step.requestInv requests, step.pendingCancels cancels,
        step.claimFate requests cancels fate⟩
    · rintro a r b commit ⟨requests, cancels, fate⟩
      exact commit.answered requests cancels fate
  exact answered t h.terminal h.owed

/-! ## Reading a tombstone -/

/-- The answer of a tombstone to its owner, and what the answer writes. -/
theorem Starts.renewal {c : Call} {n d consumer client request : String} {generation : Nat}
    {acknowledge : Bool} {s₁ : Store} (h : Starts env c s s₁)
    (hop : c.op = .renewClaimOrReadControl n d consumer client request generation acknowledge)
    (valid : validateOwner env n d consumer client request generation = .ok req) :
    c.run env s = replying .renewal (renewClaimLocked env req acknowledge c.clock) s₁ := by
  obtain ⟨clock, drawn, op⟩ := c
  subst hop
  have housekept : reapLocked env clock s = (.ok (), s₁) := h.housekept
  have called : renewClaimOrReadControl env clock n d consumer client request generation acknowledge
      s = renewClaimLocked env req acknowledge clock s₁ :=
    publicCall_eq valid h.finite housekept
  show andThen _ _ s = andThen _ _ s₁
  unfold andThen
  rw [called]

/-- A tombstone with its flag set to `b`, in the store where it stands. -/
def flagged (id : Identity) (tombstone : ControlTombstoneRecord) (b : Bool) (s : Store) : Store :=
  { s with
    controlTombstones := s.controlTombstones.set id { tombstone with acknowledged := b } }

theorem renewClaimLocked_present {acknowledge : Bool}
    {t : ControlTombstoneRecord} (present : s.controlTombstones.get? req.identity = some t) :
    renewClaimLocked env req acknowledge now s = readControlLocked req acknowledge t s := by
  unfold renewClaimLocked
  show andThen getState _ s = _
  unfold andThen
  dsimp only [getState]
  rw [present]

theorem renewClaimLocked_owner {acknowledge b : Bool}
    (present : s.controlTombstones.get? req.identity = some { tombstone with acknowledged := b })
    (owner : tombstone.selectedNodeId = req.nodeId ∧ tombstone.generation = req.generation ∧
      tombstone.controlCredentialDigest = req.digest ∧
      tombstone.consumerIdentityDigest = req.consumer) :
    replying .renewal (renewClaimLocked env req acknowledge now) s =
      (.ok (.renewal (.control tombstone.status req.generation tombstone.reason (b || acknowledge))),
        flagged req.identity tombstone (b || acknowledge) s) := by
  have untouched : flagged req.identity tombstone b s = s := by
    unfold flagged
    rw [OrderedDict.set_of_get? present]
  show andThen _ _ s = _
  unfold andThen
  rw [renewClaimLocked_present present]
  unfold readControlLocked
  rw [if_neg (not_not.mpr owner)]
  cases b with
  | true =>
    rw [if_neg (by simp), Bool.true_or, untouched]
    rfl
  | false =>
    cases acknowledge with
    | false =>
      rw [if_neg (by simp), Bool.or_false, untouched]
      rfl
    | true =>
      rw [if_pos ⟨rfl, rfl⟩]
      rfl

theorem renewClaimLocked_other {acknowledge b : Bool}
    (present : s.controlTombstones.get? req.identity = some { tombstone with acknowledged := b })
    (other : ¬(tombstone.selectedNodeId = req.nodeId ∧ tombstone.generation = req.generation ∧
      tombstone.controlCredentialDigest = req.digest ∧
      tombstone.consumerIdentityDigest = req.consumer)) :
    replying .renewal (renewClaimLocked env req acknowledge now) s =
      (.ok (.renewal .ownerMismatch), s) := by
  show andThen _ _ s = _
  unfold andThen
  rw [renewClaimLocked_present present]
  unfold readControlLocked
  rw [if_pos other]
  rfl

end

/-- The reading of a control answer by a call of the owner or of anyone else. -/
structure Delivered (env : StoreEnv) (id : Identity) (stop : ControlTombstoneRecord)
    (owner : Prop) (acknowledge : Bool) (k : Call) (x s₁ : Store) : Prop where
  reads : owner → ∃ b, s₁.controlTombstones.get? id = some { stop with acknowledged := b } ∧
    k.result env x = .ok (.renewal (.control stop.status stop.generation stop.reason
      (b || acknowledge))) ∧
    k.next env x = flagged id stop (b || acknowledge) s₁
  other : ¬owner → k.result env x = .ok (.renewal .ownerMismatch) ∧ k.next env x = s₁

/-- In every run with a clock that never goes back, from the call that ends the request
of a claim which is owed a stop instruction and until its tombstone expires: a renewal
by exactly the owner of the claim reads the status or the acknowledgement, if and only
if every expired registration finds room when the sweep of that renewal comes to it;
any other renewal that gets to its body learns nothing and writes nothing. -/
theorem stop_delivered (env : StoreEnv) (collisionFree : env.runtime.CollisionFree)
    (before rest : List Call) (c : Call) (id : Identity) (claim : ClaimRecord)
    (t : TerminalOutcomeRecord) (consumer : String)
    (clock : ClockNondecreasing (before ++ c :: rest))
    (stopped : Stopped env c (stateAfter env before) id claim t)
    (claimant : consumerDigest env consumer = .ok claim.consumerIdentityDigest)
    (mid : List Call) (k : Call) (split : mid ++ [k] <+: rest)
    (n d consumer' client request : String) (generation : Nat) (acknowledge : Bool)
    (hop : k.op = .renewClaimOrReadControl n d consumer' client request generation acknowledge)
    (hid : identityOf env client request = .ok id) (valid : k.op.validate env = .ok ())
    (finite : isfinite k.clock)
    (early : k.clock < min (c.clock + env.config.controlTombstoneTtlSeconds) (c.clock + 300)) :
    let x := runs env (c :: mid) (stateAfter env before)
    let stop := stopFor env c.clock id claim t
    let owner := (n, d, consumer', generation) =
      (claim.selectedNodeId, claim.controlCredentialDigest, consumer, claim.generation)
    (owner → ((∃ b, k.result env x = .ok (.renewal (.control t.outcome claim.generation t.reason b)))
      ↔ k.op.SweepsFreely env k.clock x)) ∧
    ∀ s₁, k.op.housekeeping env k.clock x = (.ok (), s₁) →
      Delivered env id stop owner acknowledge k x s₁ := by
  intro x stop owner
  have reachable : Reachable env x := (reachable_runs before).runs (c :: mid)
  have ordered : ClockNondecreasing (c :: rest) := (List.pairwise_append.mp clock).2.1
  have notLease : ¬LeaseOverflows env k := by
    rintro ⟨⟨n, caps, d, heq⟩, -⟩
    cases hop.symm.trans heq
  -- the tombstone stands until the renewal, whose clock no earlier call exceeds
  have standing : Stopping id stop x := by
    have later : ∀ j ∈ mid, j.clock < stop.expiresAtEpoch := by
      intro j hj
      have le : j.clock ≤ k.clock := by
        have tail := (List.pairwise_cons.mp ordered).2.sublist split.sublist
        exact (List.pairwise_append.mp tail).2.2 j hj k List.mem_cons_self
      exact lt_of_le_of_lt le early
    have ended : Stopping id stop (c.next env (stateAfter env before)) :=
      stopped.stopping (reachable_runs before)
    show Stopping id stop (runs env mid (c.next env (stateAfter env before)))
    exact runs_stopping later ended
  have delivered : ∀ s₁, k.op.housekeeping env k.clock x = (.ok (), s₁) →
      Delivered env id stop owner acknowledge k x s₁ := by
    intro s₁ housekept
    have starts : Starts env k x s₁ := ⟨finite, valid, notLease, housekept⟩
    obtain ⟨req, checked⟩ : ∃ req, validateOwner env n d consumer' client request generation =
        .ok req := by
      have checks : discarding (validateOwner env n d consumer' client request generation) =
          .ok () := by
        rw [hop] at valid
        exact valid
      cases hv : validateOwner env n d consumer' client request generation with
      | error e => rw [hv] at checks; cases checks
      | ok req => exact ⟨req, rfl⟩
    obtain ⟨node, digest, number, hconsumer, identity⟩ := validateOwner_ok checked
    have same : req.identity = id := Except.ok.inj (identity.symm.trans hid)
    have swept := (k.op.housekeeping_sweeps k.clock).of_eq housekept
    obtain ⟨b, present⟩ := (swept.keeps (fun _ _ step => step.stopping early) standing).standing
    have ran := starts.renewal hop checked
    rw [← same] at present
    have result : k.result env x =
        (replying .renewal (renewClaimLocked env req acknowledge k.clock) s₁).1 :=
      congrArg Prod.fst ran
    have next : k.next env x =
        (replying .renewal (renewClaimLocked env req acknowledge k.clock) s₁).2 :=
      congrArg Prod.snd ran
    -- the texts that the owner supplies are those of the claim exactly when the digests match
    have matches_iff : owner ↔ (stop.selectedNodeId = req.nodeId ∧
        stop.generation = req.generation ∧ stop.controlCredentialDigest = req.digest ∧
        stop.consumerIdentityDigest = req.consumer) := by
      rw [node, digest, number]
      constructor
      · intro own
        cases own
        exact ⟨rfl, rfl, rfl, Except.ok.inj (claimant.symm.trans hconsumer)⟩
      · rintro ⟨rfl, rfl, rfl, sameConsumer⟩
        rw [← sameConsumer] at hconsumer
        obtain rfl := consumerDigest_injective collisionFree hconsumer claimant
        rfl
    refine ⟨fun own => ⟨b, same ▸ present, ?_, ?_⟩, fun other => ?_⟩
    · rw [result, renewClaimLocked_owner present (matches_iff.mp own), (matches_iff.mp own).2.1]
    · rw [next, renewClaimLocked_owner present (matches_iff.mp own), same]
    · rw [result, next, renewClaimLocked_other present fun own => other (matches_iff.mpr own)]
      exact ⟨rfl, rfl⟩
  refine ⟨fun own => ?_, delivered⟩
  have sweeps : k.op.sweepsLeases = true := by
    rw [hop]
    rfl
  have swept : SweepResult env k.clock (k.op.sweepStart env k.clock x)
      (k.op.housekeeping env k.clock x).1 :=
    k.op.housekeeping_result sweeps finite reachable.requestInv reachable.nodeInv
  rcases swept with ⟨free, ok⟩ | ⟨blocked, e, error, -⟩
  · refine ⟨fun _ => free, fun _ => ?_⟩
    obtain ⟨b, -, result, -⟩ := (delivered _ (Prod.ext ok rfl)).reads own
    exact ⟨b || acknowledge, result⟩
  · refine ⟨fun ⟨b, read⟩ => ?_, fun free => absurd free blocked⟩
    rw [k.raises_of_housekeeping finite valid notLease error] at read
    cases read

/-! ## Concrete runs -/

/-- The claim of the sample request. -/
def sampleClaim : ClaimRecord :=
  ⟨sampleIdentity.1, sampleIdentity.2,
    "a189adf08d9ab62c95bb4abeddf1ec8e59769519aa65b6ddbfbf8f4c6fb22b60", "node-a", credentialA, 100,
    requestEnvelope, 1, 1, 31⟩

/-- The requester cancels the sample request while it is claimed. -/
def cancelling : Call :=
  sampleCall 2 (.cancelOrExpireRequest "client-1" "request-1" (some "cancel-1") .cancelled
    .requesterCancelled)

/-- The record of the cancellation. -/
def cancelledTerminal : TerminalOutcomeRecord where
  clientIdentityDigest := sampleIdentity.1
  requestIdentityDigest := sampleIdentity.2
  selectedNodeId := "node-a"
  controlCredentialDigest := credentialA
  consumerIdentityDigest := sampleClaim.consumerIdentityDigest
  generation := 1
  responseDigest := ""
  acceptedAtEpoch := 2
  replayExpiresAtEpoch := 2
  expiresAtEpoch := 3602
  outcome := .cancelled
  retrievalState := .completedUnavailable
  reason := .requesterCancelled
  cancellationTokenDigest := "1e39a394d5bd02ea85384a116b57e2f14ec248bc9f7181942855a1c2ec488863"

/-- The owner of the claim reads its stop instruction. -/
def reading (clock : Epoch) (acknowledge : Bool) : Call :=
  sampleCall clock (.renewClaimOrReadControl "node-a" credentialA "consumer-1" "client-1"
    "request-1" 1 acknowledge)

/-- The owner reads the cancellation after its node was unregistered. -/
theorem stop_delivered_unregistered :
    let before := registration :: admission 100 ++ [claiming]
    let mid := [sampleCall 3 (.unregister "node-a" credentialA)]
    let k := reading 4 false
    let x := runs defaultEnv (cancelling :: mid) (stateAfter defaultEnv before)
    "node-a" ∉ x.records ∧
      ∃ b, k.result defaultEnv x =
        .ok (.renewal (.control .cancelled 1 .requesterCancelled b)) := by
  intro before mid k x
  have stopped : Stopped defaultEnv cancelling (stateAfter defaultEnv before) sampleIdentity
      sampleClaim cancelledTerminal :=
    ⟨by decide +kernel, by decide +kernel, nofun, .inl (by decide +kernel)⟩
  refine ⟨by decide +kernel, ((stop_delivered defaultEnv sampleRuntime_collisionFree before
    (mid ++ [k]) cancelling sampleIdentity sampleClaim cancelledTerminal "consumer-1"
    (by decide +kernel) stopped (by decide +kernel) mid k (List.prefix_refl _) "node-a" credentialA
    "consumer-1" "client-1" "request-1" 1 false rfl (by decide +kernel) (by decide +kernel)
    (by decide +kernel) (by decide +kernel)).1 rfl).mpr (by decide +kernel)⟩

/-- The lease of another node runs out while one node tombstone is all the store may
hold: the owner of the stopped claim gets a capacity error. -/
theorem stop_blocked_by_eviction :
    let x := stateAfter oneTombstoneEnv
      ([registration] ++ admission 100 ++ [claiming,
        sampleCall 1 (.register "node-b" sampleCapabilities credentialA), cancelling,
        sampleCall 3 (.unregister "node-a" credentialA)])
    (x.controlTombstones.get? sampleIdentity).map (·.expiresAtEpoch) = some 302 ∧
      Call.result oneTombstoneEnv (reading 31 false) x =
        .error (capacityExceeded "node tombstone capacity reached") := by
  decide +kernel

end StateStore
