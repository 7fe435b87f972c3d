import TokenPlace.StateStore.Calls

/-!
# The tables of the request lifecycles

`RequestInv` ties together the tables that are kept by hand for each lifecycle:
reservations, queued requests and terminal records, the node queues, the work
index, the token digests and the claims.

An effect leaves these tables alone (`SameRequests`), takes one identity out of
all of them (`Removed`), or admits, queues or claims one; each of these keeps the
invariant, hence `Reachable.requestInv` and, table by table,
`request_tables_agree`.
-/

namespace StateStore

/-- The tables of the request lifecycles agree. -/
structure RequestInv (s : Store) : Prop where
  reservation_key : ∀ id r, s.reservations.get? id = some r → r.identity = id
  queued_key : ∀ id q, s.queued.get? id = some q → q.identity = id
  reservation_not_queued : ∀ id, id ∈ s.reservations → id ∉ s.queued
  live_not_terminal : ∀ id w, s.HasWork id w → id ∉ s.terminals
  finite : ∀ id w, s.HasWork id w → isfinite w.requestDeadlineEpoch
  queue_mem : ∀ n q, q ∈ s.queueOf n ↔ s.queued.get? q.identity = some q ∧ q.selectedNodeId = n
  queue_sorted : ∀ n, (s.queueOf n).Pairwise fun a b => a.sequence < b.sequence
  queue_nonempty : ∀ n l, s.nodeQueues.get? n = some l → l ≠ []
  sequence_le : ∀ id q, s.queued.get? id = some q → q.sequence ≤ s.nextQueueSequence
  work_mem : ∀ n id, id ∈ s.workOf n ↔ ∃ w, s.HasWork id w ∧ w.selectedNodeId = n
  work_nonempty : ∀ n d, s.nodeWorkIdentities.get? n = some d → d.entries ≠ []
  token_iff : ∀ id, id ∈ s.queuedTokenDigests ↔ id ∈ s.queued
  queued_cancellation : ∀ id, id ∈ s.queued → id ∈ s.cancellationTokenDigests
  cancellation_live : ∀ id, id ∈ s.cancellationTokenDigests → id ∈ s.queued ∨ id ∈ s.reservations
  claim_queued : ∀ id c, s.claims.get? id = some c → ∃ q, s.queued.get? id = some q ∧
    c.selectedNodeId = q.selectedNodeId ∧ c.sequence = q.sequence ∧ c.envelope = q.envelope ∧
    c.requestDeadlineEpoch = q.requestDeadlineEpoch

theorem requestInv_initial : RequestInv Store.initial where
  reservation_key := nofun
  queued_key := nofun
  reservation_not_queued := nofun
  live_not_terminal := fun _ _ _ => nofun
  finite := fun _ w hw => by cases w <;> cases hw
  queue_mem := fun _ _ => ⟨nofun, nofun⟩
  queue_sorted := fun _ => List.Pairwise.nil
  queue_nonempty := nofun
  sequence_le := nofun
  work_mem := fun _ _ => ⟨nofun, fun ⟨w, hw, _⟩ => by cases w <;> cases hw⟩
  work_nonempty := nofun
  token_iff := fun _ => ⟨nofun, nofun⟩
  queued_cancellation := nofun
  cancellation_live := nofun
  claim_queued := nofun

namespace RequestInv

variable {s s' : Store}
variable {id : Identity} {n : String}

theorem work_unique (inv : RequestInv s) {w v : Work} (hw : s.HasWork id w)
    (hv : s.HasWork id v) : w = v := by
  have apart : ∀ r q, s.reservations.get? id = some r → s.queued.get? id = some q → False :=
    fun r q hr hq => inv.reservation_not_queued id (OrderedDict.mem_of_get? hr)
      (OrderedDict.mem_of_get? hq)
  cases w with
  | reservation r =>
    cases v with
    | reservation r' => exact congrArg _ (Option.some.inj (hw.symm.trans hv))
    | queued q => exact (apart r q hw hv).elim
  | queued q =>
    cases v with
    | reservation r => exact (apart r q hv hw).elim
    | queued q' => exact congrArg _ (Option.some.inj (hw.symm.trans hv))

/-- `_reservations.get(identity) or _queued.get(identity)` finds the live record. -/
theorem workRecord (inv : RequestInv s) {w : Work} (hw : s.HasWork id w) :
    s.workRecord id = some w := by
  unfold Store.workRecord
  cases w with
  | reservation r => rw [show s.reservations.get? id = some r from hw]
  | queued q =>
    have unreserved : s.reservations.get? id = none := OrderedDict.not_mem_iff.mp fun reserved =>
      inv.reservation_not_queued id reserved (OrderedDict.mem_of_get? hw)
    rw [unreserved, show s.queued.get? id = some q from hw]
    rfl

theorem queue_identity (inv : RequestInv s) {q item : QueuedRequest}
    (hq : s.queued.get? id = some q) (hm : item ∈ s.queueOf n) : item.identity = id ↔ item = q := by
  obtain ⟨found, -⟩ := (inv.queue_mem n item).mp hm
  constructor
  · rintro rfl
    exact Option.some.inj (found.symm.trans hq)
  · rintro rfl
    exact inv.queued_key id item hq

theorem not_in_queue (inv : RequestInv s) {item : QueuedRequest}
    (hq : s.queued.get? id = none) (hm : item ∈ s.queueOf n) : item.identity ≠ id := by
  rintro rfl
  rw [((inv.queue_mem n item).mp hm).1] at hq
  cases hq

theorem claims_none (inv : RequestInv s) (hq : s.queued.get? id = none) :
    s.claims.get? id = none := by
  cases hc : s.claims.get? id with
  | none => rfl
  | some c =>
    obtain ⟨q, found, -⟩ := inv.claim_queued id c hc
    rw [hq] at found
    cases found

end RequestInv

/-! ## Effects that leave the lifecycles alone -/

/-- The lifecycle tables are the same, and no identity is newly terminal. -/
structure SameRequests (s s' : Store) : Prop where
  reservations : s'.reservations = s.reservations
  queued : s'.queued = s.queued
  tokens : s'.queuedTokenDigests = s.queuedTokenDigests
  cancellation : s'.cancellationTokenDigests = s.cancellationTokenDigests
  nodeQueues : s'.nodeQueues = s.nodeQueues
  claims : s'.claims = s.claims
  index : s'.nodeWorkIdentities = s.nodeWorkIdentities
  sequence : s'.nextQueueSequence = s.nextQueueSequence
  terminals : ∀ id, id ∈ s'.terminals → id ∈ s.terminals

theorem SameRequests.hasWork {s s' : Store} (h : SameRequests s s') {id : Identity} {w : Work} :
    s'.HasWork id w ↔ s.HasWork id w := by
  cases w with
  | reservation r => rw [Store.HasWork, Store.HasWork, h.reservations]
  | queued q => rw [Store.HasWork, Store.HasWork, h.queued]

theorem SameRequests.keeps {s s' : Store} (h : SameRequests s s') (inv : RequestInv s) :
    RequestInv s' where
  reservation_key := by rw [h.reservations]; exact inv.reservation_key
  queued_key := by rw [h.queued]; exact inv.queued_key
  reservation_not_queued := by
    rw [h.reservations, h.queued]
    exact inv.reservation_not_queued
  live_not_terminal := fun id w hw ht =>
    inv.live_not_terminal id w (h.hasWork.mp hw) (h.terminals id ht)
  finite := fun id w hw => inv.finite id w (h.hasWork.mp hw)
  queue_mem := by
    unfold Store.queueOf
    rw [h.nodeQueues, h.queued]
    exact inv.queue_mem
  queue_sorted := by
    unfold Store.queueOf
    rw [h.nodeQueues]
    exact inv.queue_sorted
  queue_nonempty := by rw [h.nodeQueues]; exact inv.queue_nonempty
  sequence_le := by rw [h.queued, h.sequence]; exact inv.sequence_le
  work_mem := fun n id => by
    unfold Store.workOf
    simp only [h.index, h.hasWork]
    exact inv.work_mem n id
  work_nonempty := by rw [h.index]; exact inv.work_nonempty
  token_iff := by rw [h.tokens, h.queued]; exact inv.token_iff
  queued_cancellation := by rw [h.queued, h.cancellation]; exact inv.queued_cancellation
  cancellation_live := by
    rw [h.queued, h.cancellation, h.reservations]
    exact inv.cancellation_live
  claim_queued := by rw [h.claims, h.queued]; exact inv.claim_queued

theorem reapRetained_sameRequests {s : Store} {now : Epoch} :
    SameRequests s (reapRetainedLocked now s) := by
  have terminals : ∀ id, id ∈ (reapRetainedLocked now s).terminals → id ∈ s.terminals := by
    intro id hid
    obtain ⟨t, ht⟩ := OrderedDict.mem_def.mp hid
    rw [reapRetained_terminals] at ht
    obtain ⟨t', ht', -⟩ := Option.map_eq_some_iff.mp (Option.filter_eq_some_iff.mp ht).1
    exact OrderedDict.mem_of_get? ht'
  rw [reapRetained_eq] at terminals ⊢
  exact ⟨rfl, rfl, rfl, rfl, rfl, rfl, rfl, rfl, terminals⟩

/-! ## Effects that take one identity out -/

/-- The identity has left every lifecycle table; nothing else has changed there. -/
structure Removed (id : Identity) (s s' : Store) : Prop where
  reservations : ∀ k, s'.reservations.get? k = if k = id then none else s.reservations.get? k
  queued : ∀ k, s'.queued.get? k = if k = id then none else s.queued.get? k
  tokens : ∀ k, s'.queuedTokenDigests.get? k =
    if k = id then none else s.queuedTokenDigests.get? k
  cancellation : ∀ k, s'.cancellationTokenDigests.get? k =
    if k = id then none else s.cancellationTokenDigests.get? k
  claims : ∀ k, s'.claims.get? k = if k = id then none else s.claims.get? k
  queue : ∀ n, s'.queueOf n = (s.queueOf n).filter fun q => q.identity ≠ id
  queue_nonempty : ∀ n l, s'.nodeQueues.get? n = some l → l ≠ []
  index : ∀ n k, k ∈ s'.workOf n ↔ k ∈ s.workOf n ∧ k ≠ id
  index_nonempty : ∀ n d, s'.nodeWorkIdentities.get? n = some d → d.entries ≠ []
  sequence : s'.nextQueueSequence = s.nextQueueSequence
  terminals : ∀ k, k ≠ id → k ∈ s'.terminals → k ∈ s.terminals

variable {r : ReservationRecord} {q : QueuedRequest} {k : Identity}
  {P : TerminalPolicy} {status : Outcome} {reason : Reason} {c : ClaimRecord}

theorem some_of_removed {K V : Type} [DecidableEq K] {d d' : OrderedDict K V} {id : K}
    (h : ∀ k, d'.get? k = if k = id then none else d.get? k) {k : K} {v : V} :
    d'.get? k = some v ↔ k ≠ id ∧ d.get? k = some v := by
  rw [h]
  by_cases hk : k = id <;> simp [hk]

theorem mem_of_removed {K V : Type} [DecidableEq K] {d d' : OrderedDict K V} {id : K}
    (h : ∀ k, d'.get? k = if k = id then none else d.get? k) {k : K} :
    k ∈ d' ↔ k ≠ id ∧ k ∈ d := by
  rw [OrderedDict.mem_def, OrderedDict.mem_def]
  simp only [some_of_removed h, exists_and_left]

theorem Removed.hasWork {id : Identity} {s s' : Store} (h : Removed id s s')
    {w : Work} : s'.HasWork k w ↔ k ≠ id ∧ s.HasWork k w := by
  cases w with
  | reservation r => exact some_of_removed h.reservations
  | queued q => exact some_of_removed h.queued

theorem Removed.keeps {id : Identity} {s s' : Store} (h : Removed id s s') (inv : RequestInv s) :
    RequestInv s' where
  reservation_key := fun k r hr =>
    inv.reservation_key k r ((some_of_removed h.reservations).mp hr).2
  queued_key := fun k q hq => inv.queued_key k q ((some_of_removed h.queued).mp hq).2
  reservation_not_queued := fun k hr hq => inv.reservation_not_queued k
    ((mem_of_removed h.reservations).mp hr).2 ((mem_of_removed h.queued).mp hq).2
  live_not_terminal := by
    intro k w hw ht
    obtain ⟨hk, hw⟩ := h.hasWork.mp hw
    exact inv.live_not_terminal k w hw (h.terminals k hk ht)
  finite := fun k w hw => inv.finite k w (h.hasWork.mp hw).2
  queue_mem := by
    intro n q
    rw [h.queue, List.mem_filter, inv.queue_mem, some_of_removed h.queued, decide_eq_true_iff]
    constructor
    · rintro ⟨⟨found, node⟩, hne⟩
      exact ⟨⟨hne, found⟩, node⟩
    · rintro ⟨⟨hne, found⟩, node⟩
      exact ⟨⟨found, node⟩, hne⟩
  queue_sorted := fun n => by
    rw [h.queue]
    exact (inv.queue_sorted n).filter _
  queue_nonempty := h.queue_nonempty
  sequence_le := fun k q hq => by
    rw [h.sequence]
    exact inv.sequence_le k q ((some_of_removed h.queued).mp hq).2
  work_mem := by
    intro n k
    rw [h.index, inv.work_mem]
    simp only [h.hasWork]
    constructor
    · rintro ⟨⟨w, hw, node⟩, hk⟩
      exact ⟨w, ⟨hk, hw⟩, node⟩
    · rintro ⟨w, ⟨hk, hw⟩, node⟩
      exact ⟨⟨w, hw, node⟩, hk⟩
  work_nonempty := h.index_nonempty
  token_iff := fun k => by
    rw [mem_of_removed h.tokens, mem_of_removed h.queued, inv.token_iff]
  queued_cancellation := by
    intro k hq
    obtain ⟨hk, hq⟩ := (mem_of_removed h.queued).mp hq
    exact (mem_of_removed h.cancellation).mpr ⟨hk, inv.queued_cancellation k hq⟩
  cancellation_live := by
    intro k hc
    obtain ⟨hk, hc⟩ := (mem_of_removed h.cancellation).mp hc
    exact (inv.cancellation_live k hc).imp (fun hq => (mem_of_removed h.queued).mpr ⟨hk, hq⟩)
      fun hr => (mem_of_removed h.reservations).mpr ⟨hk, hr⟩
  claim_queued := by
    intro k c hc
    obtain ⟨hk, hc⟩ := (some_of_removed h.claims).mp hc
    obtain ⟨q, hq, same⟩ := inv.claim_queued k c hc
    exact ⟨q, (some_of_removed h.queued).mpr ⟨hk, hq⟩, same⟩

theorem RequestInv.queue_dropped {s : Store} (inv : RequestInv s) {id : Identity}
    (hq : s.queued.get? id = some q) (n : String) :
    ((dropFromQueue q s).get? n).getD [] =
      (s.queueOf n).filter fun item => item.identity ≠ id := by
  rw [queueOf_dropFromQueue]
  split
  · refine List.filter_congr fun item hm => ?_
    rw [decide_eq_decide, not_iff_not]
    exact (inv.queue_identity hq hm).symm
  · next hn =>
    refine (List.filter_eq_self.mpr fun item hm => ?_).symm
    refine decide_eq_true_iff.mpr fun heq => hn ?_
    rw [← ((inv.queue_mem n item).mp hm).2, (inv.queue_identity hq hm).mp heq]

theorem RequestInv.queue_untouched {s : Store} (inv : RequestInv s) {id : Identity}
    (hq : s.queued.get? id = none) (n : String) :
    s.queueOf n = (s.queueOf n).filter fun item => item.identity ≠ id :=
  (List.filter_eq_self.mpr fun _ hm => decide_eq_true (inv.not_in_queue hq hm)).symm

theorem RequestInv.index_discarded {s : Store} (inv : RequestInv s) {id : Identity} {w : Work}
    (hw : s.HasWork id w) (n : String) (k : Identity) :
    k ∈ indexed (discardWork w.selectedNodeId id s.nodeWorkIdentities) n ↔
      k ∈ s.workOf n ∧ k ≠ id := by
  rw [mem_discardWork, ← workOf_eq]
  constructor
  · rintro ⟨hk, hne⟩
    refine ⟨hk, ?_⟩
    rintro rfl
    obtain ⟨v, hv, node⟩ := (inv.work_mem n k).mp hk
    rw [inv.work_unique hv hw] at node
    exact hne ⟨node.symm, rfl⟩
  · rintro ⟨hk, hne⟩
    exact ⟨hk, fun h => hne h.2⟩

theorem writeTerminal_removed {env : StoreEnv} {now : Epoch} {id : Identity} {w : Work}
    {claim : Option ClaimRecord} {s : Store}
    (live : s.HasWork id w) (inv : RequestInv s) :
    Removed id s (writeTerminal env id w status reason now claim s) := by
  have index : ∀ n k, k ∈ (writeTerminal env id w status reason now claim s).workOf n ↔
      k ∈ s.workOf n ∧ k ≠ id := by
    intro n k
    rw [workOf_eq, writeTerminal_index]
    cases hq : s.queued.get? id with
    | none => exact inv.index_discarded live n k
    | some q =>
      have hw : w = .queued q := inv.work_unique live hq
      have inner := inv.index_discarded (w := .queued q) hq n k
      rw [hw, mem_discardWork]
      exact ⟨fun hk => inner.mp hk.1, fun hk => ⟨inner.mpr hk, fun heq => hk.2 heq.2⟩⟩
  constructor
  · intro k
    rw [writeTerminal_reservations, OrderedDict.get?_erase]
  · exact writeTerminal_queued
  · exact writeTerminal_tokens
  · exact writeTerminal_cancellation
  · intro k
    rw [writeTerminal_claims]
    by_cases hk : k = id
    · subst hk
      cases hq : s.queued.get? k with
      | none => simp [inv.claims_none hq]
      | some q => simp
    · rw [if_neg fun hc => hk hc.1, if_neg hk]
  · intro n
    unfold Store.queueOf
    rw [writeTerminal_nodeQueues]
    cases hq : s.queued.get? id with
    | none => exact inv.queue_untouched hq n
    | some q => exact inv.queue_dropped hq n
  · intro n l hl
    rw [writeTerminal_nodeQueues] at hl
    cases hq : s.queued.get? id with
    | none =>
      rw [hq] at hl
      exact inv.queue_nonempty n l hl
    | some q =>
      rw [hq] at hl
      exact dropFromQueue_nonempty inv.queue_nonempty hl
  · exact index
  · intro n d hd
    rw [writeTerminal_index] at hd
    refine discardWork_nonempty ?_ hd
    cases s.queued.get? id with
    | none => exact inv.work_nonempty
    | some q => exact fun m d => discardWork_nonempty inv.work_nonempty
  · exact writeTerminal_sequence
  · intro k hk ht
    rw [writeTerminal_terminals, OrderedDict.mem_set] at ht
    exact ht.resolve_left hk

theorem Terminalizes.removed {env : StoreEnv} {now : Epoch} {id : Identity}
    {w : Work} {force : Bool} {s s' : Store}
    (h : Terminalizes env P now id w status reason force s s') (inv : RequestInv s) :
    Removed id s s' := by
  rw [h.post]
  exact writeTerminal_removed h.live inv

theorem Lapses.removed {now : Epoch} {id : Identity} {s s' : Store}
    (h : Lapses now id r s s') (inv : RequestInv s) : Removed id s s' := by
  have hq : s.queued.get? id = none :=
    OrderedDict.not_mem_iff.mp (inv.reservation_not_queued id (OrderedDict.mem_of_get? h.live))
  have none_of {V : Type} {d : OrderedDict Identity V} (hd : d.get? id = none) (k : Identity) :
      d.get? k = if k = id then none else d.get? k := by
    by_cases hk : k = id
    · rw [if_pos hk, hk, hd]
    · rw [if_neg hk]
  have token : s.queuedTokenDigests.get? id = none := OrderedDict.not_mem_iff.mp fun hm =>
    OrderedDict.not_mem_iff.mpr hq ((inv.token_iff id).mp hm)
  rw [h.post]
  exact
    { reservations := fun k => OrderedDict.get?_erase ..
      queued := none_of hq
      tokens := none_of token
      cancellation := fun k => OrderedDict.get?_erase ..
      claims := none_of (inv.claims_none hq)
      queue := inv.queue_untouched hq
      queue_nonempty := inv.queue_nonempty
      index := inv.index_discarded (w := .reservation r) h.live
      index_nonempty := fun n d => discardWork_nonempty inv.work_nonempty
      sequence := rfl
      terminals := fun k _ ht => ht }

theorem Accepts.removed {env : StoreEnv} {now : Epoch} {req : OwnerRequest}
    {envelope : EncryptedEnvelope} {digest : String} {registration : ComputeNodeRegistration}
    {retrieval cancellation : String} {s s' : Store}
    (h : Accepts env now req envelope digest registration c q retrieval cancellation s s')
    (inv : RequestInv s) : Removed req.identity s s' := by
  have reserved : s.reservations.get? req.identity = none := OrderedDict.not_mem_iff.mp fun hm =>
    inv.reservation_not_queued _ hm (OrderedDict.mem_of_get? h.queued)
  rw [h.post]
  exact
    { reservations := fun k => by
        show s.reservations.get? k = _
        by_cases hk : k = req.identity
        · rw [if_pos hk, hk, reserved]
        · rw [if_neg hk]
      queued := fun k => OrderedDict.get?_erase ..
      tokens := fun k => OrderedDict.get?_erase ..
      cancellation := fun k => OrderedDict.get?_erase ..
      claims := fun k => OrderedDict.get?_erase ..
      queue := inv.queue_dropped h.queued
      queue_nonempty := fun n l => dropFromQueue_nonempty inv.queue_nonempty
      index := inv.index_discarded (w := .queued q) h.queued
      index_nonempty := fun n d => discardWork_nonempty inv.work_nonempty
      sequence := rfl
      terminals := fun k hk ht => (OrderedDict.mem_set.mp ht).resolve_left hk }

/-! ## Effects that admit, queue or claim -/

section

variable {env : StoreEnv} {now : Epoch} {s s' : Store}
variable {req : EnqueueRequest} {record : ReservationRecord} {evicted : Option String}

theorem Reserves.hasWork {req : SelectionRequest} (h : Reserves env now req record evicted s s')
    {w : Work} :
    s'.HasWork k w ↔ (k = req.identity ∧ w = .reservation record) ∨ s.HasWork k w := by
  rw [h.post]
  cases w with
  | reservation r =>
    show (s.reservations.set req.identity record).get? k = some r ↔
      _ ∨ s.reservations.get? k = some r
    rw [OrderedDict.get?_set]
    by_cases hk : k = req.identity
    · subst hk
      simp [h.not_reserved, eq_comm]
    · simp [hk]
  | queued q =>
    show s.queued.get? k = some q ↔ _ ∨ s.queued.get? k = some q
    simp

theorem Reserves.keeps {req : SelectionRequest} (h : Reserves env now req record evicted s s')
    (inv : RequestInv s) : RequestInv s' := by
  have cancellation : ∀ k, k ∈ s'.cancellationTokenDigests ↔
      (k = req.identity ∧ req.cancellationDigest.isSome) ∨ k ∈ s.cancellationTokenDigests := by
    intro k
    rw [h.post]
    unfold writeReservation
    cases req.cancellationDigest with
    | none => simp
    | some d => simp [OrderedDict.mem_set]
  have work : ∀ n k, k ∈ s'.workOf n ↔
      (k = req.identity ∧ record.selectedNodeId = n) ∨ k ∈ s.workOf n := by
    intro n k
    rw [h.post, workOf_eq]
    unfold writeReservation
    rw [mem_indexed_set]
    by_cases hn : n = record.selectedNodeId
    · subst hn
      simp [OrderedDict.mem_set]
    · simp [hn, Ne.symm hn, workOf_eq]
  have reservations : s'.reservations = s.reservations.set req.identity record := by
    rw [h.post]
    rfl
  constructor
  · intro k r hr
    rw [reservations, OrderedDict.get?_set] at hr
    split at hr
    · next hk =>
      cases hr
      rw [hk, h.identity]
    · exact inv.reservation_key k r hr
  · rw [h.post]
    exact inv.queued_key
  · intro k hr
    rw [reservations, OrderedDict.mem_set] at hr
    rw [h.post]
    rcases hr with rfl | hr
    · exact OrderedDict.not_mem_iff.mpr h.not_queued
    · exact inv.reservation_not_queued k hr
  · intro k w hw
    have terminals : s'.terminals = s.terminals := by rw [h.post]; rfl
    rw [terminals]
    rcases h.hasWork.mp hw with ⟨rfl, -⟩ | hw
    · exact h.not_terminal
    · exact inv.live_not_terminal k w hw
  · intro k w hw
    rcases h.hasWork.mp hw with ⟨-, rfl⟩ | hw
    · show isfinite record.requestDeadlineEpoch
      rw [h.deadline]
      exact h.finite
    · exact inv.finite k w hw
  · rw [h.post]
    exact inv.queue_mem
  · rw [h.post]
    exact inv.queue_sorted
  · rw [h.post]
    exact inv.queue_nonempty
  · rw [h.post]
    exact inv.sequence_le
  · intro n k
    rw [work, inv.work_mem]
    simp only [h.hasWork]
    constructor
    · rintro (⟨rfl, node⟩ | ⟨w, hw, node⟩)
      · exact ⟨_, .inl ⟨rfl, rfl⟩, node⟩
      · exact ⟨w, .inr hw, node⟩
    · rintro ⟨w, ⟨rfl, rfl⟩ | hw, node⟩
      · exact .inl ⟨rfl, node⟩
      · exact .inr ⟨w, hw, node⟩
  · intro n d hd
    rw [h.post] at hd
    rcases eq_or_ne n record.selectedNodeId with rfl | hn
    · have : d = (s.workOf record.selectedNodeId).set req.identity () := by
        have found := (OrderedDict.get?_set ..).symm.trans hd
        rw [if_pos rfl] at found
        exact (Option.some.inj found).symm
      rintro hnil
      exact not_mem_of_entries_nil (this ▸ hnil) req.identity (OrderedDict.mem_set.mpr (.inl rfl))
    · have found := (OrderedDict.get?_set ..).symm.trans hd
      rw [if_neg hn] at found
      exact inv.work_nonempty n d found
  · rw [h.post]
    exact inv.token_iff
  · intro k hq
    rw [cancellation]
    rw [h.post] at hq
    exact .inr (inv.queued_cancellation k hq)
  · intro k hc
    rw [reservations, OrderedDict.mem_set]
    have queued : s'.queued = s.queued := by rw [h.post]; rfl
    rw [queued]
    rcases (cancellation k).mp hc with ⟨rfl, -⟩ | hc
    · exact .inr (.inl rfl)
    · exact (inv.cancellation_live k hc).imp_right .inr
  · rw [h.post]
    exact inv.claim_queued

theorem Enqueues.hasWork (h : Enqueues env now req r s s') {w : Work} :
    s'.HasWork k w ↔
      (k = req.identity ∧ w = .queued (queuedOf req now (s.nextQueueSequence + 1))) ∨
        (k ≠ req.identity ∧ s.HasWork k w) := by
  rw [h.post]
  cases w with
  | reservation r' =>
    show (s.reservations.erase req.identity).get? k = some r' ↔
      _ ∨ _ ∧ s.reservations.get? k = some r'
    rw [OrderedDict.get?_erase]
    by_cases hk : k = req.identity <;> simp [hk]
  | queued q =>
    show (s.queued.set req.identity _).get? k = some q ↔ _ ∨ _ ∧ s.queued.get? k = some q
    rw [OrderedDict.get?_set]
    by_cases hk : k = req.identity <;> simp [hk, eq_comm]

theorem Enqueues.queueOf (h : Enqueues env now req r s s') (n : String) :
    s'.queueOf n = if n = req.selectedNodeId then
      s.queueOf n ++ [queuedOf req now (s.nextQueueSequence + 1)] else s.queueOf n := by
  rw [h.post]
  unfold Store.queueOf writeQueued
  dsimp only
  rw [OrderedDict.get?_set]
  split
  · next hn =>
    rw [hn]
    rfl
  · rfl

theorem Enqueues.keeps (h : Enqueues env now req r s s') (inv : RequestInv s) : RequestInv s' := by
  have queued : s'.queued =
      s.queued.set req.identity (queuedOf req now (s.nextQueueSequence + 1)) := by
    rw [h.post]
    rfl
  have reservations : s'.reservations = s.reservations.erase req.identity := by
    rw [h.post]
    rfl
  have sequence : s'.nextQueueSequence = s.nextQueueSequence + 1 := by
    rw [h.post]
    rfl
  have older : ∀ n item, item ∈ s.queueOf n → item.sequence ≤ s.nextQueueSequence :=
    fun n item hm => inv.sequence_le _ item ((inv.queue_mem n item).mp hm).1
  constructor
  · intro k r' hr
    rw [reservations] at hr
    exact inv.reservation_key k r' ((some_of_removed fun k => OrderedDict.get?_erase ..).mp hr).2
  · intro k q hq
    rw [queued, OrderedDict.get?_set] at hq
    split at hq
    · next hk =>
      cases hq
      exact hk.symm
    · exact inv.queued_key k q hq
  · intro k hr hq
    rw [reservations, OrderedDict.mem_erase] at hr
    rw [queued, OrderedDict.mem_set] at hq
    exact inv.reservation_not_queued k hr.2 (hq.resolve_left hr.1)
  · intro k w hw
    have terminals : s'.terminals = s.terminals := by rw [h.post]; rfl
    rw [terminals]
    rcases h.hasWork.mp hw with ⟨rfl, -⟩ | ⟨-, hw⟩
    · exact h.not_terminal
    · exact inv.live_not_terminal k w hw
  · intro k w hw
    rcases h.hasWork.mp hw with ⟨-, rfl⟩ | ⟨-, hw⟩
    · have reserved := inv.finite req.identity (.reservation r) h.reserved
      show isfinite req.deadline
      rw [← h.deadline]
      exact reserved
    · exact inv.finite k w hw
  · intro n q
    have fresh : ∀ item, item ∈ s.queueOf n → item.identity ≠ req.identity :=
      fun item => inv.not_in_queue h.not_queued
    rw [h.queueOf, queued, OrderedDict.get?_set]
    by_cases hk : q.identity = req.identity
    · rw [if_pos hk, Option.some.injEq]
      constructor
      · intro hm
        by_cases hn : n = req.selectedNodeId
        · rw [if_pos hn] at hm
          rcases List.mem_append.mp hm with hm | hm
          · exact absurd hk (fresh q hm)
          · rw [List.mem_singleton.mp hm]
            exact ⟨rfl, hn.symm⟩
        · rw [if_neg hn] at hm
          exact absurd hk (fresh q hm)
      · rintro ⟨rfl, node⟩
        have hn : n = req.selectedNodeId := node.symm
        rw [if_pos hn]
        exact List.mem_append_right _ (List.mem_singleton.mpr rfl)
    · rw [if_neg hk, ← inv.queue_mem]
      split
      · rw [List.mem_append, List.mem_singleton]
        refine ⟨fun hm => hm.resolve_right ?_, .inl⟩
        rintro rfl
        exact hk rfl
      · exact Iff.rfl
  · intro n
    rw [h.queueOf]
    split
    · refine List.pairwise_append.mpr ⟨inv.queue_sorted n, List.pairwise_singleton _ _, ?_⟩
      intro item hm q hq
      rw [List.mem_singleton.mp hq]
      exact Nat.lt_succ_of_le (older n item hm)
    · exact inv.queue_sorted n
  · intro n l hl
    rw [h.post] at hl
    have found := (OrderedDict.get?_set ..).symm.trans hl
    split at found
    · cases found
      simp
    · exact inv.queue_nonempty n l found
  · intro k q hq
    rw [sequence]
    rw [queued, OrderedDict.get?_set] at hq
    split at hq
    · cases hq
      exact Nat.le_refl _
    · exact Nat.le_succ_of_le (inv.sequence_le k q hq)
  · intro n k
    have index : s'.workOf n = s.workOf n := by rw [h.post]; rfl
    rw [index, inv.work_mem]
    simp only [h.hasWork]
    constructor
    · rintro ⟨w, hw, node⟩
      rcases eq_or_ne k req.identity with rfl | hk
      · have same : w = .reservation r := inv.work_unique hw h.reserved
        rw [same] at node
        exact ⟨_, .inl ⟨rfl, rfl⟩, h.node.symm.trans node⟩
      · exact ⟨w, .inr ⟨hk, hw⟩, node⟩
    · rintro ⟨w, ⟨rfl, rfl⟩ | ⟨-, hw⟩, node⟩
      · exact ⟨.reservation r, h.reserved, h.node.trans node⟩
      · exact ⟨w, hw, node⟩
  · rw [h.post]
    exact inv.work_nonempty
  · intro k
    rw [queued, OrderedDict.mem_set]
    rw [h.post]
    show k ∈ s.queuedTokenDigests.set _ _ ↔ _
    rw [OrderedDict.mem_set, inv.token_iff]
  · intro k hq
    rw [queued, OrderedDict.mem_set] at hq
    rw [h.post]
    show k ∈ s.cancellationTokenDigests.set _ _
    rw [OrderedDict.mem_set]
    exact hq.imp_right (inv.queued_cancellation k)
  · intro k hc
    rw [h.post] at hc
    rw [queued, reservations, OrderedDict.mem_set, OrderedDict.mem_erase]
    rcases eq_or_ne k req.identity with rfl | hk
    · exact .inl (.inl rfl)
    · have stored := (OrderedDict.mem_set.mp hc).resolve_left hk
      exact (inv.cancellation_live k stored).imp .inr fun hr => ⟨hk, hr⟩
  · intro k c hc
    rw [h.post] at hc
    obtain ⟨q, hq, same⟩ := inv.claim_queued k c hc
    refine ⟨q, ?_, same⟩
    have hk : k ≠ req.identity := by
      rintro rfl
      rw [h.not_queued] at hq
      cases hq
    rw [queued, OrderedDict.get?_set, if_neg hk]
    exact hq

theorem RequestInv.setClaim (inv : RequestInv s) {id : Identity}
    {generation : Nat} (hq : s.queued.get? id = some q)
    (hc : c.selectedNodeId = q.selectedNodeId ∧ c.sequence = q.sequence ∧
      c.envelope = q.envelope ∧ c.requestDeadlineEpoch = q.requestDeadlineEpoch) :
    RequestInv { s with
      nextClaimGeneration := generation
      claims := s.claims.set id c } :=
  { inv with
    claim_queued := by
      intro k c' hc'
      have found := (OrderedDict.get?_set ..).symm.trans hc'
      split at found
      · next hk =>
        cases found
        subst hk
        exact ⟨q, hq, hc⟩
      · exact inv.claim_queued k c' found
    live_not_terminal := fun k w hw => inv.live_not_terminal k w (by cases w <;> exact hw)
    finite := fun k w hw => inv.finite k w (by cases w <;> exact hw)
    work_mem := fun n k => by
      refine (inv.work_mem n k).trans (exists_congr fun w => and_congr_left fun _ => ?_)
      cases w <;> exact Iff.rfl }

theorem RequestInv.not_indexed (inv : RequestInv s) {id : Identity}
    (h : id ∈ s.terminals ∨ s.workRecord id = none) (n : String) : id ∉ s.workOf n := by
  intro hm
  obtain ⟨w, hw, -⟩ := (inv.work_mem n id).mp hm
  rcases h with terminal | absent
  · exact inv.live_not_terminal id w hw terminal
  · unfold Store.workRecord at absent
    cases w with
    | reservation r =>
      rw [show s.reservations.get? id = some r from hw] at absent
      cases absent
    | queued q =>
      have reserved : s.reservations.get? id = none := OrderedDict.not_mem_iff.mp fun hr =>
        inv.reservation_not_queued id hr (OrderedDict.mem_of_get? hw)
      rw [reserved, show s.queued.get? id = some q from hw] at absent
      cases absent

theorem DiscardsWork.keeps {n : String} {id : Identity} (h : DiscardsWork n id s s')
    (inv : RequestInv s) : RequestInv s' := by
  have absent := inv.not_indexed h.dead
  rw [h.post]
  exact
    { inv with
      work_mem := fun m k => by
        have same : k ∈ indexed (discardWork n id s.nodeWorkIdentities) m ↔ k ∈ s.workOf m := by
          rw [mem_discardWork, ← workOf_eq]
          refine ⟨And.left, fun hk => ⟨hk, ?_⟩⟩
          rintro ⟨rfl, rfl⟩
          exact absent m hk
        refine same.trans ((inv.work_mem m k).trans
          (exists_congr fun w => and_congr_left fun _ => ?_))
        cases w <;> exact Iff.rfl
      work_nonempty := fun m d => discardWork_nonempty inv.work_nonempty
      live_not_terminal := fun k w hw => inv.live_not_terminal k w (by cases w <;> exact hw)
      finite := fun k w hw => inv.finite k w (by cases w <;> exact hw) }

/-! ## Every run -/

theorem Sweep.requestInv (h : Sweep env P now s s') (inv : RequestInv s) :
    RequestInv s' := by
  cases h with
  | reapRetained => exact reapRetained_sameRequests.keeps inv
  | terminalize h | lapse h => exact (h.removed inv).keeps inv
  | defer h | startRemoval h | touchFences h | finishRemoval h =>
    refine SameRequests.keeps ?_ inv
    rw [h.post]
    exact ⟨rfl, rfl, rfl, rfl, rfl, rfl, rfl, rfl, fun _ ht => ht⟩
  | discardWork h => exact h.keeps inv

theorem mem_of_set_present {K V : Type} [DecidableEq K] {d : OrderedDict K V} {k : K} {v w : V}
    (h : d.get? k = some v) {k' : K} (hm : k' ∈ d.set k w) : k' ∈ d := by
  rcases OrderedDict.mem_set.mp hm with rfl | hm
  · exact OrderedDict.mem_of_get? h
  · exact hm

theorem Commit.requestInv {drawn : String} {op : Op} {r : Except StoreError Reply}
    (h : Commit env now drawn op s r s') (inv : RequestInv s) : RequestInv s' := by
  cases h with
  | register h | reregister _ h | renew h | setScheduler h | advance h | acknowledgeControl _ h =>
    refine SameRequests.keeps ?_ inv
    rw [h.post]
    exact ⟨rfl, rfl, rfl, rfl, rfl, rfl, rfl, rfl, fun _ ht => ht⟩
  | reserve _ h | enqueue _ h => exact h.keeps inv
  | claim _ _ h =>
    obtain ⟨queued, node⟩ := (inv.queue_mem _ _).mp h.queued
    rw [h.post]
    exact inv.setClaim queued ⟨node.symm, rfl, rfl, rfl⟩
  | renewClaim _ h =>
    obtain ⟨q, queued, same⟩ := inv.claim_queued _ _ h.claimed
    rw [h.post]
    exact inv.setClaim queued same
  | accept _ h | cancel _ h => exact (h.removed inv).keeps inv
  | acknowledgeResponse _ h | repair _ h =>
    refine SameRequests.keeps ?_ inv
    rw [h.post]
    exact ⟨rfl, rfl, rfl, rfl, rfl, rfl, rfl, rfl, fun _ => mem_of_set_present h.present⟩

theorem Reachable.requestInv (h : Reachable env s) : RequestInv s :=
  h.invariant requestInv_initial (fun _ _ _ step => step.requestInv)
    fun _ _ _ _ _ _ step => step.requestInv

end

/-- After any calls at any clock readings the tables of the lifecycles agree. -/
theorem request_tables_agree (env : StoreEnv) (calls : List Call) :
    let s := runs env calls Store.initial
    (∀ id, ¬(id ∈ s.reservations ∧ id ∈ s.queued) ∧ ¬(id ∈ s.reservations ∧ id ∈ s.terminals) ∧
      ¬(id ∈ s.queued ∧ id ∈ s.terminals)) ∧
    (∀ n, (∀ q, q ∈ s.queueOf n ↔ q ∈ s.queued.values ∧ q.selectedNodeId = n) ∧
      (s.queueOf n).Nodup ∧ ((s.queueOf n).Pairwise fun a b => a.sequence < b.sequence) ∧
      s.nodeQueues.get? n ≠ some []) ∧
    (∀ n, (∀ id, id ∈ s.workOf n ↔
        (∃ r, s.reservations.get? id = some r ∧ r.selectedNodeId = n) ∨
          ∃ q, s.queued.get? id = some q ∧ q.selectedNodeId = n) ∧
      ∀ d, s.nodeWorkIdentities.get? n = some d → d.entries ≠ []) ∧
    (∀ id, id ∈ s.queuedTokenDigests ↔ id ∈ s.queued) ∧
    (∀ id, (id ∈ s.queued → id ∈ s.cancellationTokenDigests) ∧
      (id ∈ s.cancellationTokenDigests → id ∈ s.queued ∨ id ∈ s.reservations)) ∧
    (∀ id c, s.claims.get? id = some c → ∃ q, s.queued.get? id = some q ∧
      c.selectedNodeId = q.selectedNodeId ∧ c.sequence = q.sequence ∧ c.envelope = q.envelope ∧
      c.requestDeadlineEpoch = q.requestDeadlineEpoch) := by
  intro s
  have inv : RequestInv s := (@reachable_runs env calls).requestInv
  refine ⟨fun id => ⟨?_, ?_, ?_⟩, fun n => ⟨fun q => ?_, ?_, inv.queue_sorted n, ?_⟩,
    fun n => ⟨fun id => ?_, inv.work_nonempty n⟩, inv.token_iff,
    fun id => ⟨inv.queued_cancellation id, inv.cancellation_live id⟩, inv.claim_queued⟩
  · rintro ⟨hr, hq⟩
    exact inv.reservation_not_queued id hr hq
  · rintro ⟨hr, ht⟩
    obtain ⟨r, hr⟩ := OrderedDict.mem_def.mp hr
    exact inv.live_not_terminal id (.reservation r) hr ht
  · rintro ⟨hq, ht⟩
    obtain ⟨q, hq⟩ := OrderedDict.mem_def.mp hq
    exact inv.live_not_terminal id (.queued q) hq ht
  · rw [inv.queue_mem, OrderedDict.mem_values]
    constructor
    · rintro ⟨hq, node⟩
      exact ⟨⟨_, hq⟩, node⟩
    · rintro ⟨⟨id, hq⟩, node⟩
      obtain rfl := inv.queued_key id q hq
      exact ⟨hq, node⟩
  · refine (inv.queue_sorted n).imp fun {a b} hlt => ?_
    rintro rfl
    exact Nat.lt_irrefl _ hlt
  · exact fun hnil => inv.queue_nonempty n [] hnil rfl
  · rw [inv.work_mem]
    constructor
    · rintro ⟨w, hw, node⟩
      cases w with
      | reservation r => exact .inl ⟨r, hw, node⟩
      | queued q => exact .inr ⟨q, hw, node⟩
    · rintro (⟨r, hr, node⟩ | ⟨q, hq, node⟩)
      · exact ⟨.reservation r, hr, node⟩
      · exact ⟨.queued q, hq, node⟩

end StateStore
