import TokenPlace.StateStore.Tokens

/-!
# Deferred deadlines

The set of deferred identities has keys of the reservations and the queue only, as long as no
response to a deferred request is accepted before the deadline: `accept_encrypted_response` ends
the lifecycle of a request, but leaves its identity in the set.

Results:
1. `deferred_members`: the set holds no stale members, and a reservation that has lapsed is released
   before its request is due.
2. `deferred_member_left`: after the clock went back, an accepted response leaves a stale member,
   and the next reservation of the identity is not released.
-/

namespace StateStore

open Method

section

variable {env : StoreEnv} {s : Store} {now : Epoch} {id : Identity}

/-- Every deferred identity is a key of the reservations or of the queue. -/
def DeferredLive (s : Store) : Prop :=
  ∀ id ∈ s.deferredDeadlineIdentities, id ∈ s.reservations ∨ id ∈ s.queued

/-- A call that answers a deferred request reads the clock at its deadline or later. -/
def Call.Orderly (env : StoreEnv) (c : Call) (s : Store) : Prop :=
  ∀ id ∈ s.deferredDeadlineIdentities, ∀ q, s.queued.get? id = some q → c.op.AnswersTo env id →
    q.requestDeadlineEpoch ≤ c.clock

/-- Every call of the run is orderly. -/
def OrderlyRun (env : StoreEnv) (calls : List Call) : Prop :=
  ∀ before c after, calls = before ++ c :: after → c.Orderly env (stateAfter env before)

theorem OrderlyRun.init {calls more : List Call} (orderly : OrderlyRun env (calls ++ more)) :
    OrderlyRun env calls := fun before c after split =>
  orderly before c (after ++ more) (by rw [split, List.append_assoc, List.cons_append])

theorem deferredLive_iff : DeferredLive s ↔ DeferredWith (fun _ _ => True) s := by
  refine forall₂_congr fun id _ => ?_
  constructor
  · rintro (here | here) <;> obtain ⟨record, found⟩ := OrderedDict.mem_def.mp here
    · exact ⟨.reservation record, found, trivial⟩
    · exact ⟨.queued record, found, trivial⟩
  · rintro ⟨w, live, -⟩
    cases w with
    | reservation r => exact .inl (OrderedDict.mem_of_get? live)
    | queued q => exact .inr (OrderedDict.mem_of_get? live)

theorem DeferredWith.live {P : Identity → Work → Prop} (h : DeferredWith P s) : DeferredLive s :=
  deferredLive_iff.mpr fun id deferred =>
    let ⟨w, live, _⟩ := h id deferred
    ⟨w, live, trivial⟩

theorem orderlyRun_of_monotone {calls : List Call} (monotone : ClockNondecreasing calls) :
    OrderlyRun env calls := by
  rintro before c after rfl id deferred q found -
  obtain ⟨earlier, -, forward⟩ := List.pairwise_append.mp monotone
  have elapsed : DeferredOver c.clock (stateAfter env before) :=
    deferredOver_runs before (fun d member => forward d member c List.mem_cons_self) earlier
  obtain ⟨w, live, due⟩ := elapsed id deferred
  obtain rfl := (reachable_runs before).requestInv.work_unique live (v := .queued q) found
  exact due

/-- What is known of a deferred identity while a call runs: it was deferred before or is due, and
if the call answers its request it is due. -/
def Call.Known (env : StoreEnv) (c : Call) (s : Store) (id : Identity) (w : Work) : Prop :=
  (id ∈ s.deferredDeadlineIdentities ∨ w.requestDeadlineEpoch ≤ c.clock) ∧
    ∀ q, w = .queued q → c.op.AnswersTo env id → q.requestDeadlineEpoch ≤ c.clock

variable {r : ReservationRecord} {c : Call}

theorem Call.Orderly.known (orderly : c.Orderly env s) (live : DeferredLive s) :
    DeferredWith (c.Known env s) s := by
  intro id deferred
  obtain ⟨w, here, -⟩ := deferredLive_iff.mp live id deferred
  refine ⟨w, here, .inl deferred, ?_⟩
  rintro q rfl answers
  exact orderly id deferred q here answers

theorem Call.known_due (id : Identity) (w : Work)
    (due : w.requestDeadlineEpoch ≤ c.clock) : c.Known env s id w :=
  ⟨.inr due, by
    rintro q rfl -
    exact due⟩

theorem Call.Orderly.next (orderly : c.Orderly env s) (reachable : Reachable env s)
    (live : DeferredLive s) : DeferredWith (c.Known env s) (c.next env s) := by
  refine DeferredWith.next reachable Call.known_due ⟨fun id r q other same holds => ?_, ?_⟩
    (orderly.known live)
  · exact ⟨holds.1.imp_right fun due => le_of_eq_of_le same.symm due,
      fun _ _ answers => absurd answers other⟩
  · exact fun id q answers holds => holds.2 q rfl answers

theorem deferredLive_runs (calls : List Call) (orderly : OrderlyRun env calls) :
    DeferredLive (stateAfter env calls) := by
  induction calls using List.reverseRecOn with
  | nil => exact nofun
  | append_singleton calls c ih =>
    rw [stateAfter_snoc]
    exact ((orderly calls c [] rfl).next (reachable_runs calls) (ih orderly.init)).live

theorem GrantsRecord.fresh (granted : GrantsRecord env c s id r)
    (reachable : Reachable env s) (live : DeferredLive s) :
    id ∉ (c.next env s).deferredDeadlineIdentities := by
  obtain ⟨req, n, evicted, s₁, -, grants, rfl, rfl⟩ := granted
  have sweeps : Sweeps env Any c.clock s s₁ := reapLocked_sweeps.of_eq grants.swept
  obtain ⟨-, kept⟩ := sweeps.deferredWith reachable.requestInv (fun _ _ _ => trivial)
    (deferredLive_iff.mp live)
  rw [grants.post]
  intro deferred
  rcases kept.live _ deferred with reserved | queued
  · exact OrderedDict.not_mem_iff.mpr grants.new.not_reserved reserved
  · exact OrderedDict.not_mem_iff.mpr grants.new.not_queued queued

theorem not_deferred {before after : List Call} (orderly : OrderlyRun env (before ++ c :: after))
    (granted : GrantsRecord env c (stateAfter env before) id r)
    (standing : ∀ a b, after = a ++ b →
      (stateAfter env (before ++ c :: a)).reservations.get? id = some r)
    (early : ∀ e ∈ after, e.clock < r.requestDeadlineEpoch) :
    id ∉ (stateAfter env (before ++ c :: after)).deferredDeadlineIdentities := by
  induction after using List.reverseRecOn with
  | nil =>
    rw [stateAfter_snoc]
    exact granted.fresh (reachable_runs before) (deferredLive_runs before orderly.init)
  | append_singleton after e ih =>
    have split : before ++ c :: (after ++ [e]) = (before ++ c :: after) ++ [e] := by simp
    rw [split] at orderly ⊢
    have earlier := ih orderly.init (fun a b whole => standing a (b ++ [e]) (by simp [whole]))
      fun d member => early d (List.mem_append_left _ member)
    have here := standing (after ++ [e]) [] (List.append_nil _).symm
    rw [split, stateAfter_snoc] at here
    rw [stateAfter_snoc]
    intro deferred
    have reached : Reachable env (stateAfter env (before ++ c :: after)) := reachable_runs _
    obtain ⟨w, live, known, -⟩ := (orderly _ e [] rfl).next reached
      (deferredLive_runs _ orderly.init) id deferred
    obtain rfl := (reached.step e).requestInv.work_unique live (v := .reservation r) here
    exact known.elim earlier fun due =>
      absurd (early e (List.mem_append_right _ List.mem_cons_self)) (not_lt.mpr due)

theorem reapLocked_releases {s₁ : Store} (requests : RequestInv s)
    (live : DeferredLive s) (found : s.reservations.get? id = some r)
    (kept : id ∉ s.deferredDeadlineIdentities) (lapsed : r.reservationExpiresAtEpoch ≤ now)
    (early : now < r.requestDeadlineEpoch) (swept : reapLocked env now s = (.ok (), s₁)) :
    s₁.reservations.get? id = none := by
  have sweeps : Sweeps env Any now s s₁ := reapLocked_sweeps.of_eq swept
  cases left : s₁.reservations.get? id with
  | none => rfl
  | some r' =>
    have same := found.symm.trans (sweeps.shrinks.work id (.reservation r') left)
    cases same
    have deferred := reapLocked_lapsed.of_eq swept rfl id r left lapsed
    have before : DeferredWith (fun id w => id ∈ s.deferredDeadlineIdentities ∨
        w.requestDeadlineEpoch ≤ now) s := fun id deferred =>
      let ⟨w, live, _⟩ := deferredLive_iff.mp live id deferred
      ⟨w, live, .inl deferred⟩
    obtain ⟨requests₁, after⟩ := sweeps.deferredWith requests (fun _ _ due => .inr due) before
    obtain ⟨w, live, known⟩ := after id deferred
    obtain rfl := requests₁.work_unique live (v := .reservation r) left
    exact absurd known (not_or.mpr ⟨kept, not_le.mpr early⟩)

/-- In an orderly run the set of deferred identities has no stale members, and whatever ended the
earlier lifecycles of an identity, its reservation is released once it has lapsed, before the
request is due. -/
theorem deferred_members (env : StoreEnv) (calls : List Call) (orderly : OrderlyRun env calls) :
    DeferredLive (stateAfter env calls) ∧
      ∀ id r, (stateAfter env calls).reservations.get? id = some r →
        ∃ before c after, calls = before ++ c :: after ∧
          GrantsRecord env c (stateAfter env before) id r ∧
          ∀ now s₁, (∀ e ∈ after, e.clock < r.requestDeadlineEpoch) →
            r.reservationExpiresAtEpoch ≤ now → now < r.requestDeadlineEpoch →
            reapLocked env now (stateAfter env calls) = (.ok (), s₁) →
            s₁.reservations.get? id = none := by
  have live := deferredLive_runs calls orderly
  refine ⟨live, fun id r found => ?_⟩
  obtain ⟨before, c, after, rfl, granted, standing⟩ := stands calls found
  refine ⟨before, c, after, rfl, granted, fun now s₁ early lapsed due swept => ?_⟩
  exact reapLocked_releases (reachable_runs _).requestInv live found
    (not_deferred orderly granted standing early) lapsed due swept

end

/-! ## A stale member -/

/-- A node has room for one control tombstone. -/
def fullNodeEnv : StoreEnv :=
  sampleEnv { namespace_ := "relay", maxControlTombstonesPerNode := 1 } (by decide +kernel)

/-- `"request-2"` is claimed and cancelled, and leaves a tombstone. `"request-1"` is claimed and due
at 5, where it is deferred. -/
def deferringRun : List Call :=
  [registration,
   ⟨1, String.ofList (List.replicate 64 '2'),
    .selectAndReserve "client-1" "request-2" "model" "8k-fast" 100 (some "cancel-1")⟩,
   sampleCall 1 (.enqueueEncryptedRequest "client-1" "request-2"
    (String.ofList (List.replicate 64 '2')) "node-a" "model" "8k-fast" 100 requestEnvelope
    "cancel-1"),
   claiming,
   sampleCall 1
    (.cancelOrExpireRequest "client-1" "request-2" (some "cancel-1") .cancelled
      .requesterCancelled)] ++
  admission 5 ++ [claiming, sampleCall 5 .listReservations]

/-- The response to `"request-1"`, after the clock went back. -/
def answeredAt (clock : Epoch) : Call :=
  sampleCall clock (.acceptEncryptedResponse "node-a" credentialA "consumer-1" "client-1"
    "request-1" 2 responseEnvelope)

/-- The same request again, when everything of the first one is over. -/
def secondLifecycle : List Call :=
  [sampleCall 4000 (.register "node-b" sampleCapabilities credentialB),
   sampleCall 4000 (.selectAndReserve "client-1" "request-1" "model" "8k-fast" 4100
    (some "cancel-1"))]

/-- A response that comes at the deadline is refused, and the request stays deferred. -/
theorem deferred_members_late :
    DeferredLive (stateAfter fullNodeEnv (deferringRun ++ [answeredAt 5])) ∧
      sampleIdentity ∈
        (stateAfter fullNodeEnv (deferringRun ++ [answeredAt 5])).deferredDeadlineIdentities :=
  ⟨(deferred_members fullNodeEnv _ (orderlyRun_of_monotone (by decide +kernel))).1,
    by decide +kernel⟩

theorem not_deferredLive {s : Store} (id : Identity) (member : id ∈ s.deferredDeadlineIdentities)
    (reserved : id ∉ s.reservations) (queued : id ∉ s.queued) : ¬DeferredLive s := fun live =>
  (live id member).elim reserved queued

/-- A response that is accepted after the clock went back leaves a stale member, and the next
reservation of the identity is still there when it has lapsed. -/
theorem deferred_member_left :
    ¬DeferredLive (stateAfter fullNodeEnv (deferringRun ++ [answeredAt 1])) ∧
      (stateAfter fullNodeEnv (deferringRun ++ [answeredAt 1] ++ secondLifecycle ++
        [sampleCall 4020 .listReservations])).reservations.values.map
          (fun r => (r.reservationExpiresAtEpoch, r.requestDeadlineEpoch)) = [(4015, 4100)] := by
  refine ⟨not_deferredLive sampleIdentity ?_ ?_ ?_, ?_⟩ <;> decide +kernel

end StateStore
