import TokenPlace.StateStore.Effects

/-!
# What a lookup sees after a write

One lemma per write and table. The writes of `_terminalize_locked` and
`_remove_queued_identity_locked` leave every table of the nodes alone
(`SameNodes`), and a lookup of another identity sees no difference.
-/

namespace StateStore

/-! ## The index of node work -/

/-- The work identities that an index lists for a node. -/
def indexed (index : OrderedDict String (OrderedDict Identity Unit)) (n : String) :
    OrderedDict Identity Unit :=
  (index.get? n).getD .empty

theorem workOf_eq (s : Store) (n : String) : s.workOf n = indexed s.nodeWorkIdentities n := rfl

variable {index : OrderedDict String (OrderedDict Identity Unit)} {e : Identity × ResponseRecord}
  {n m : String}

theorem mem_indexed_set {d : OrderedDict Identity Unit} :
    indexed (index.set n d) m = if m = n then d else indexed index m := by
  unfold indexed
  rw [OrderedDict.get?_set]
  split <;> rfl

theorem indexed_erase :
    indexed (index.erase n) m = if m = n then .empty else indexed index m := by
  unfold indexed
  rw [OrderedDict.get?_erase]
  split <;> rfl

theorem not_mem_of_entries_nil {K V : Type} [DecidableEq K] {d : OrderedDict K V}
    (h : d.entries = []) (k : K) : k ∉ d := by
  rw [← OrderedDict.mem_keys, OrderedDict.keys, h]
  simp

theorem mem_discardWork {id k : Identity} :
    k ∈ indexed (discardWork n id index) m ↔ k ∈ indexed index m ∧ ¬(m = n ∧ k = id) := by
  unfold discardWork
  cases h : index.get? n with
  | none =>
    refine ⟨fun hk => ⟨hk, ?_⟩, And.left⟩
    rintro ⟨rfl, -⟩
    rw [indexed, h] at hk
    obtain ⟨_, hv⟩ := OrderedDict.mem_def.mp hk
    cases hv
  | some ids =>
    have hn : indexed index n = ids := by rw [indexed, h]; rfl
    show k ∈ indexed (if (ids.erase id).entries = [] then index.erase n
      else index.set n (ids.erase id)) m ↔ _
    by_cases hm : m = n
    · subst hm
      have same : k ∈ indexed index m ∧ ¬(m = m ∧ k = id) ↔ k ∈ ids.erase id := by
        rw [hn, OrderedDict.mem_erase]
        constructor
        · rintro ⟨hk, hne⟩
          exact ⟨fun heq => hne ⟨rfl, heq⟩, hk⟩
        · rintro ⟨hne, hk⟩
          exact ⟨hk, fun heq => hne heq.2⟩
      rw [same]
      split
      · next hnil =>
        rw [indexed_erase, if_pos rfl]
        exact ⟨fun hk => absurd hk (not_mem_of_entries_nil rfl k),
          fun hk => absurd hk (not_mem_of_entries_nil hnil k)⟩
      · rw [mem_indexed_set, if_pos rfl]
    · have other : indexed (if (ids.erase id).entries = [] then index.erase n
          else index.set n (ids.erase id)) m = indexed index m := by
        split
        · rw [indexed_erase, if_neg hm]
        · rw [mem_indexed_set, if_neg hm]
      rw [other]
      exact ⟨fun hk => ⟨hk, fun heq => hm heq.1⟩, And.left⟩

theorem discardWork_nonempty {n : String}
    {id : Identity} (h : ∀ m d, index.get? m = some d → d.entries ≠ []) {m : String}
    {d : OrderedDict Identity Unit} (hd : (discardWork n id index).get? m = some d) :
    d.entries ≠ [] := by
  unfold discardWork at hd
  cases hn : index.get? n with
  | none =>
    rw [hn] at hd
    exact h m d hd
  | some ids =>
    rw [hn] at hd
    dsimp only at hd
    split at hd
    · rw [OrderedDict.get?_erase] at hd
      split at hd
      · cases hd
      · exact h m d hd
    · next hne =>
      rw [OrderedDict.get?_set] at hd
      split at hd
      · cases hd
        exact hne
      · exact h m d hd

/-! ## The node queues -/

theorem queueOf_dropFromQueue {s : Store} {q : QueuedRequest} {n : String} :
    ((dropFromQueue q s).get? n).getD [] =
      if n = q.selectedNodeId then (s.queueOf n).filter (fun item => item ≠ q)
      else s.queueOf n := by
  unfold dropFromQueue
  by_cases hn : n = q.selectedNodeId
  · subst hn
    rw [if_pos rfl]
    dsimp only
    split
    · next hnil => rw [OrderedDict.get?_erase, if_pos rfl, hnil]; rfl
    · rw [OrderedDict.get?_set, if_pos rfl]; rfl
  · rw [if_neg hn]
    dsimp only
    split
    · rw [OrderedDict.get?_erase, if_neg hn]; rfl
    · rw [OrderedDict.get?_set, if_neg hn]; rfl

theorem dropFromQueue_nonempty {s : Store} {q : QueuedRequest}
    (h : ∀ n l, s.nodeQueues.get? n = some l → l ≠ []) {n : String} {l : List QueuedRequest}
    (hl : (dropFromQueue q s).get? n = some l) : l ≠ [] := by
  unfold dropFromQueue at hl
  dsimp only at hl
  split at hl
  · rw [OrderedDict.get?_erase] at hl
    split at hl
    · cases hl
    · exact h n l hl
  · next hne =>
    rw [OrderedDict.get?_set] at hl
    split at hl
    · cases hl
      exact hne
    · exact h n l hl

/-! ## Writes that leave the nodes alone -/

/-- The tables and counters of the nodes are the same. -/
structure SameNodes (s s' : Store) : Prop where
  records : s'.records = s.records
  schedulerStates : s'.schedulerStates = s.schedulerStates
  registrationOrder : s'.registrationOrder = s.registrationOrder
  nextRegistrationOrder : s'.nextRegistrationOrder = s.nextRegistrationOrder
  nodeTombstones : s'.nodeTombstones = s.nodeTombstones
  pending : s'.pendingNodeTransitions = s.pendingNodeTransitions
  fences : s'.formerNodeAuthorities = s.formerNodeAuthorities
  cursors : s'.fairnessCursors = s.fairnessCursors

theorem SameNodes.refl (s : Store) : SameNodes s s := ⟨rfl, rfl, rfl, rfl, rfl, rfl, rfl, rfl⟩

theorem SameNodes.trans {a b c : Store} (h : SameNodes a b) (h' : SameNodes b c) :
    SameNodes a c :=
  ⟨h'.records.trans h.records, h'.schedulerStates.trans h.schedulerStates,
    h'.registrationOrder.trans h.registrationOrder,
    h'.nextRegistrationOrder.trans h.nextRegistrationOrder,
    h'.nodeTombstones.trans h.nodeTombstones, h'.pending.trans h.pending,
    h'.fences.trans h.fences, h'.cursors.trans h.cursors⟩

section

variable {env : StoreEnv} {id : Identity} {w : Work} {status : Outcome} {reason : Reason}
  {now : Epoch} {claim : Option ClaimRecord} {s : Store}

theorem writeTerminal_sameNodes :
    SameNodes s (writeTerminal env id w status reason now claim s) := by
  unfold writeTerminal
  cases claim <;> dsimp only <;> cases s.queued.get? id <;>
    exact ⟨rfl, rfl, rfl, rfl, rfl, rfl, rfl, rfl⟩

@[simp] theorem writeTerminal_terminals :
    (writeTerminal env id w status reason now claim s).terminals =
      s.terminals.set id (terminalOf env s id w status reason now claim) := by
  unfold writeTerminal
  cases claim <;> dsimp only <;> cases s.queued.get? id <;> rfl

@[simp] theorem writeTerminal_responses :
    (writeTerminal env id w status reason now claim s).responses = s.responses := by
  unfold writeTerminal
  cases claim <;> dsimp only <;> cases s.queued.get? id <;> rfl

@[simp] theorem writeTerminal_generation :
    (writeTerminal env id w status reason now claim s).nextClaimGeneration =
      s.nextClaimGeneration := by
  unfold writeTerminal
  cases claim <;> dsimp only <;> cases s.queued.get? id <;> rfl

@[simp] theorem writeTerminal_sequence :
    (writeTerminal env id w status reason now claim s).nextQueueSequence =
      s.nextQueueSequence := by
  unfold writeTerminal
  cases claim <;> dsimp only <;> cases s.queued.get? id <;> rfl

@[simp] theorem writeTerminal_deferred :
    (writeTerminal env id w status reason now claim s).deferredDeadlineIdentities =
      s.deferredDeadlineIdentities.erase id := by
  unfold writeTerminal
  cases claim <;> dsimp only <;> cases s.queued.get? id <;> rfl

@[simp] theorem writeTerminal_reservations :
    (writeTerminal env id w status reason now claim s).reservations =
      s.reservations.erase id := by
  unfold writeTerminal
  cases claim <;> dsimp only <;> cases s.queued.get? id <;> rfl

theorem writeTerminal_controlTombstones :
    (writeTerminal env id w status reason now claim s).controlTombstones =
      match claim with
      | some c => s.controlTombstones.set id (controlTombstoneOf env id status reason now c)
      | none => s.controlTombstones := by
  unfold writeTerminal
  cases claim <;> dsimp only <;> cases s.queued.get? id <;> rfl

@[simp] theorem writeTerminal_queued (k : Identity) :
    (writeTerminal env id w status reason now claim s).queued.get? k =
      if k = id then none else s.queued.get? k := by
  have closed : (writeTerminal env id w status reason now claim s).queued =
      if (s.queued.get? id).isSome then s.queued.erase id else s.queued := by
    unfold writeTerminal
    cases claim <;> dsimp only <;> cases s.queued.get? id <;> rfl
  rw [closed]
  cases h : s.queued.get? id with
  | some q => exact OrderedDict.get?_erase _ _ _
  | none =>
    show s.queued.get? k = if k = id then none else s.queued.get? k
    by_cases hk : k = id
    · rw [if_pos hk, hk, h]
    · rw [if_neg hk]

@[simp] theorem writeTerminal_tokens (k : Identity) :
    (writeTerminal env id w status reason now claim s).queuedTokenDigests.get? k =
      if k = id then none else s.queuedTokenDigests.get? k := by
  unfold writeTerminal
  cases claim <;> dsimp only <;> cases s.queued.get? id <;> by_cases h : k = id <;>
    simp [removeQueuedIdentityLocked, discardNodeWorkIdentityLocked, h]

@[simp] theorem writeTerminal_cancellation (k : Identity) :
    (writeTerminal env id w status reason now claim s).cancellationTokenDigests.get? k =
      if k = id then none else s.cancellationTokenDigests.get? k := by
  unfold writeTerminal
  cases claim <;> dsimp only <;> cases s.queued.get? id <;> by_cases h : k = id <;>
    simp [removeQueuedIdentityLocked, discardNodeWorkIdentityLocked, h]

theorem writeTerminal_claims (k : Identity) :
    (writeTerminal env id w status reason now claim s).claims.get? k =
      if k = id ∧ (s.queued.get? id).isSome then none else s.claims.get? k := by
  unfold writeTerminal
  cases claim <;> dsimp only <;> cases s.queued.get? id <;>
    simp [removeQueuedIdentityLocked, discardNodeWorkIdentityLocked]

theorem writeTerminal_nodeQueues :
    (writeTerminal env id w status reason now claim s).nodeQueues =
      match s.queued.get? id with
      | some q => dropFromQueue q s
      | none => s.nodeQueues := by
  unfold writeTerminal
  cases claim <;> dsimp only <;> cases s.queued.get? id <;> rfl

theorem writeTerminal_index :
    (writeTerminal env id w status reason now claim s).nodeWorkIdentities =
      discardWork w.selectedNodeId id
        (match s.queued.get? id with
        | some q => discardWork q.selectedNodeId id s.nodeWorkIdentities
        | none => s.nodeWorkIdentities) := by
  unfold writeTerminal
  cases claim <;> dsimp only <;> cases s.queued.get? id <;> rfl

theorem writeTerminal_hasWork {k : Identity} {v : Work} :
    (writeTerminal env id w status reason now claim s).HasWork k v ↔ k ≠ id ∧ s.HasWork k v := by
  cases v with
  | reservation r =>
    show (writeTerminal env id w status reason now claim s).reservations.get? k = some r ↔
      k ≠ id ∧ s.reservations.get? k = some r
    rw [writeTerminal_reservations, OrderedDict.get?_erase]
    by_cases h : k = id <;> simp [h]
  | queued q =>
    show (writeTerminal env id w status reason now claim s).queued.get? k = some q ↔
      k ≠ id ∧ s.queued.get? k = some q
    rw [writeTerminal_queued]
    by_cases h : k = id <;> simp [h]

end

/-! ## Retention -/

/-- What the loss of its response does to a terminal record. -/
def expireRetrieval (t : TerminalOutcomeRecord) : TerminalOutcomeRecord :=
  if t.retrievalState = .responseReady then { t with retrievalState := .retrievalExpired } else t

theorem expireRetrieval_idem (t : TerminalOutcomeRecord) :
    expireRetrieval (expireRetrieval t) = expireRetrieval t := by
  unfold expireRetrieval
  split <;> simp_all

/-- Some listed response of the identity has reached its replay deadline. -/
def replayOver (now : Epoch) (l : List (Identity × ResponseRecord)) (k : Identity) : Bool :=
  l.any fun e => e.1 = k && e.2.replayExpiresAtEpoch ≤ now

theorem replayOver_cons {now : Epoch} {l : List (Identity × ResponseRecord)} {k : Identity} :
    replayOver now (e :: l) k = ((e.1 = k && e.2.replayExpiresAtEpoch ≤ now) || replayOver now l k) :=
  rfl

section

variable {now : Epoch} {s : Store}

theorem reapResponse_responses (k : Identity) :
    (reapResponse now s e).responses.get? k =
      if e.1 = k ∧ e.2.replayExpiresAtEpoch ≤ now then none else s.responses.get? k := by
  unfold reapResponse
  by_cases h : e.2.replayExpiresAtEpoch ≤ now
  · rw [if_pos h]
    by_cases hk : e.1 = k
    · simp [h, hk]
    · simp [h, hk, Ne.symm hk]
  · rw [if_neg h, if_neg fun hk => h hk.2]

theorem reapResponse_terminals (k : Identity) :
    (reapResponse now s e).terminals.get? k =
      if e.1 = k ∧ e.2.replayExpiresAtEpoch ≤ now then (s.terminals.get? k).map expireRetrieval
      else s.terminals.get? k := by
  unfold reapResponse
  by_cases h : e.2.replayExpiresAtEpoch ≤ now
  · rw [if_pos h]
    dsimp only
    by_cases hk : e.1 = k
    · subst hk
      rw [if_pos ⟨rfl, h⟩]
      cases ht : s.terminals.get? e.1 with
      | none => exact ht
      | some t =>
        unfold expireRetrieval
        by_cases hr : t.retrievalState = .responseReady <;> simp [hr, ht]
    · rw [if_neg fun hc => hk hc.1]
      cases ht : s.terminals.get? e.1 with
      | none => rfl
      | some t =>
        dsimp only
        split
        · rw [OrderedDict.get?_set, if_neg (Ne.symm hk)]
        · rfl
  · rw [if_neg h, if_neg fun hk => h hk.2]

theorem reapResponse_eq :
    reapResponse now s e = { s with
      responses := (reapResponse now s e).responses
      terminals := (reapResponse now s e).terminals } := by
  unfold reapResponse
  split <;> rfl

theorem foldl_reapResponse_eq (l : List (Identity × ResponseRecord)) :
    l.foldl (reapResponse now) s = { s with
      responses := (l.foldl (reapResponse now) s).responses
      terminals := (l.foldl (reapResponse now) s).terminals } := by
  induction l generalizing s with
  | nil => rfl
  | cons e l ih =>
    have rest := ih (s := reapResponse now s e)
    rw [List.foldl_cons]
    generalize l.foldl (reapResponse now) (reapResponse now s e) = result at rest ⊢
    exact rest.trans (by rw [reapResponse_eq])

theorem foldl_reapResponse_responses (l : List (Identity × ResponseRecord)) (k : Identity) :
    (l.foldl (reapResponse now) s).responses.get? k =
      if replayOver now l k then none else s.responses.get? k := by
  induction l generalizing s with
  | nil => rfl
  | cons e l ih =>
    rw [List.foldl_cons, ih, reapResponse_responses, replayOver_cons]
    by_cases hl : replayOver now l k
    · simp [hl]
    · by_cases he : e.1 = k ∧ e.2.replayExpiresAtEpoch ≤ now
      · simp [hl, he]
      · simp [hl, he]

theorem foldl_reapResponse_terminals (l : List (Identity × ResponseRecord)) (k : Identity) :
    (l.foldl (reapResponse now) s).terminals.get? k =
      if replayOver now l k then (s.terminals.get? k).map expireRetrieval
      else s.terminals.get? k := by
  induction l generalizing s with
  | nil => rfl
  | cons e l ih =>
    rw [List.foldl_cons, ih, reapResponse_terminals, replayOver_cons]
    by_cases hl : replayOver now l k
    · by_cases he : e.1 = k ∧ e.2.replayExpiresAtEpoch ≤ now
      · cases ht : s.terminals.get? k with
        | none => simp [hl, he]
        | some t => simp [hl, he, expireRetrieval_idem]
      · simp [hl, he]
    · by_cases he : e.1 = k ∧ e.2.replayExpiresAtEpoch ≤ now
      · simp [hl, he]
      · simp [hl, he]

theorem replayOver_entries {k : Identity} : replayOver now s.responses.entries k = true ↔
    ∃ r, s.responses.get? k = some r ∧ r.replayExpiresAtEpoch ≤ now := by
  unfold replayOver
  rw [List.any_eq_true]
  constructor
  · rintro ⟨⟨k', r⟩, hm, he⟩
    simp only [Bool.and_eq_true, decide_eq_true_eq] at he
    obtain ⟨rfl, hr⟩ := he
    exact ⟨r, OrderedDict.mem_entries.mp hm, hr⟩
  · rintro ⟨r, hk, hr⟩
    exact ⟨(k, r), OrderedDict.mem_entries.mpr hk, by simp [hr]⟩

theorem reapRetained_responses (k : Identity) :
    (reapRetainedLocked now s).responses.get? k =
      (s.responses.get? k).filter fun r => now < r.replayExpiresAtEpoch := by
  show (s.responses.entries.foldl (reapResponse now) s).responses.get? k = _
  rw [foldl_reapResponse_responses]
  cases hk : s.responses.get? k with
  | none => simp
  | some r =>
    by_cases hr : r.replayExpiresAtEpoch ≤ now
    · have elapsed : replayOver now s.responses.entries k = true := replayOver_entries.mpr ⟨r, hk, hr⟩
      simp [elapsed, Option.filter, not_lt.mpr hr]
    · have elapsed : replayOver now s.responses.entries k ≠ true := by
        intro h
        obtain ⟨r', hk', hr'⟩ := replayOver_entries.mp h
        rw [hk] at hk'
        cases hk'
        exact hr hr'
      simp [elapsed, Option.filter, not_le.mp hr]

/-- After retention a terminal record is there exactly when its expiry is ahead; it has lost
its response when the replay deadline was reached. -/
theorem reapRetained_terminals (k : Identity) :
    (reapRetainedLocked now s).terminals.get? k =
      ((s.terminals.get? k).map fun t =>
        if replayOver now s.responses.entries k then expireRetrieval t else t).filter
          fun t => now < t.expiresAtEpoch := by
  show ((s.responses.entries.foldl (reapResponse now) s).terminals.filter _).get? k = _
  rw [OrderedDict.get?_filter, foldl_reapResponse_terminals]
  by_cases h : replayOver now s.responses.entries k <;> simp [h, not_le]

theorem reapRetained_controlTombstones :
    (reapRetainedLocked now s).controlTombstones =
      s.controlTombstones.filter fun _ t => ¬t.expiresAtEpoch ≤ now := by
  unfold reapRetainedLocked
  rw [foldl_reapResponse_eq]

theorem reapRetained_nodeTombstones :
    (reapRetainedLocked now s).nodeTombstones =
      s.nodeTombstones.filter fun _ t => ¬t.expiresAtEpoch ≤ now := by
  unfold reapRetainedLocked
  rw [foldl_reapResponse_eq]

theorem reapRetained_formerNodeAuthorities :
    (reapRetainedLocked now s).formerNodeAuthorities =
      (s.formerNodeAuthorities.mapValues fun digest authorities =>
        authorities.filter fun owner a =>
          ¬(a.expiresAtEpoch ≤ now ∧ pendingOwner s digest ≠ some owner)).filter
        fun _ authorities => authorities.entries ≠ [] := by
  unfold reapRetainedLocked
  rw [foldl_reapResponse_eq]
  rfl

theorem reapRetained_eq : reapRetainedLocked now s = { s with
    responses := (reapRetainedLocked now s).responses
    terminals := (reapRetainedLocked now s).terminals
    controlTombstones := (reapRetainedLocked now s).controlTombstones
    nodeTombstones := (reapRetainedLocked now s).nodeTombstones
    formerNodeAuthorities := (reapRetainedLocked now s).formerNodeAuthorities } := by
  unfold reapRetainedLocked
  dsimp only
  have rest := @foldl_reapResponse_eq now s s.responses.entries
  generalize s.responses.entries.foldl (reapResponse now) s = result at rest ⊢
  rw [rest]

theorem get?_filter_nonempty {K V : Type} [DecidableEq K] (o : Option (OrderedDict K V)) (k : K) :
    ((o.filter fun d => d.entries ≠ []).getD .empty).get? k = (o.getD .empty).get? k := by
  cases o with
  | none => rfl
  | some d =>
    by_cases he : d.entries = []
    · have absent : d.get? k = none := OrderedDict.not_mem_iff.mp (not_mem_of_entries_nil he k)
      simp [Option.filter, he, absent]
    · simp [Option.filter, he]

/-- A fence survives retention while it is unexpired or a removal still needs it. -/
theorem reapRetained_fence (digest owner : String) :
    ((reapRetainedLocked now s).fencesOf digest).get? owner =
      ((s.fencesOf digest).get? owner).filter fun a =>
        now < a.expiresAtEpoch ∨ pendingOwner s digest = some owner := by
  unfold Store.fencesOf
  rw [reapRetained_formerNodeAuthorities, OrderedDict.get?_filter, get?_filter_nonempty,
    OrderedDict.get?_mapValues]
  cases s.formerNodeAuthorities.get? digest with
  | none => rfl
  | some d =>
    simp only [Option.map_some, Option.getD_some, OrderedDict.get?_filter]
    congr 1
    funext a
    rw [decide_eq_decide, not_and_or, not_le, not_not]

end

end StateStore
