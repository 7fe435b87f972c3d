import TokenPlace.StateStore.RequestSide

/-!
# What one batch of a removal does

The batch loop of `_transition_node_locked` goes through identities that the index
of the node lists. It terminalizes them one by one and ends early at the first that
a bound stops.

* `removeIdentity`: the write for one identity;
* `transitionBatch_drains`: the loop is a fold of it over a prefix of the batch, and
  its counters are counted in the state in which the batch starts;
* `continueTransition_drains`: the same for the whole call.
-/

namespace StateStore

open Method

/-- What the batch loop writes for an identity that no bound stops. -/
def removeIdentity (env : StoreEnv) (p : PendingNodeTransition) (now : Epoch) (s : Store)
    (id : Identity) : Store :=
  match s.workRecord id with
  | some w => writeTerminal env id w p.status p.reason now (s.claims.get? id) s
  | none => s

/-- The counters after the identities `done`, all of them live in `s`. -/
def BatchCounts.plus (c : BatchCounts) (s : Store) (done : List Identity) : BatchCounts where
  processed := c.processed + done.length
  reservations := c.reservations + done.countP (· ∈ s.reservations)
  queued := c.queued + done.countP (· ∈ s.queued)
  claims := c.claims + done.countP (· ∈ s.claims)
  outcomes := c.outcomes + done.length

section

variable {env : StoreEnv} {now : Epoch} {s s' : Store} {id : Identity} {n : String}
  {p : PendingNodeTransition}

/-! ## One identity -/

theorem indexed_discardWork {index : OrderedDict String (OrderedDict Identity Unit)} {m : String} :
    indexed (discardWork n id index) m =
      if m = n then (indexed index n).erase id else indexed index m := by
  unfold discardWork
  cases found : index.get? n with
  | none =>
    have absent : indexed index n = .empty := by rw [indexed, found]; rfl
    dsimp only
    split
    · next same => rw [same, absent]; rfl
    · rfl
  | some ids =>
    have present : indexed index n = ids := by rw [indexed, found]; rfl
    dsimp only
    rw [present]
    split
    · next emptied =>
      have gone : ids.erase id = .empty := OrderedDict.ext_entries emptied
      rw [indexed_erase, gone]
    · rw [mem_indexed_set]

/-- The identity is live on the node `n`. -/
structure LiveOn (s : Store) (n : String) (id : Identity) (w : Work) : Prop where
  live : s.HasWork id w
  node : w.selectedNodeId = n

theorem RequestInv.liveOn (inv : RequestInv s) (listed : id ∈ s.workOf n) :
    ∃ w, LiveOn s n id w :=
  let ⟨w, live, node⟩ := (inv.work_mem n id).mp listed
  ⟨w, live, node⟩

theorem removeIdentity_eq (inv : RequestInv s) {w : Work} (on : LiveOn s n id w) :
    removeIdentity env p now s id =
      writeTerminal env id w p.status p.reason now (s.claims.get? id) s := by
  unfold removeIdentity
  rw [inv.workRecord on.live]

theorem removeIdentity_workOf (inv : RequestInv s) (listed : id ∈ s.workOf n) {m : String} :
    (removeIdentity env p now s id).workOf m =
      if m = n then (s.workOf n).erase id else s.workOf m := by
  obtain ⟨w, on⟩ := inv.liveOn listed
  rw [removeIdentity_eq inv on, workOf_eq, writeTerminal_index, on.node]
  cases found : s.queued.get? id with
  | none => exact indexed_discardWork
  | some q =>
    have same : w = .queued q := inv.work_unique on.live found
    subst same
    have node : q.selectedNodeId = n := on.node
    dsimp only
    rw [node, indexed_discardWork, indexed_discardWork, indexed_discardWork, if_pos rfl,
      OrderedDict.erase_erase]
    split <;> rfl

theorem removeIdentity_removed (inv : RequestInv s) (listed : id ∈ s.workOf n) :
    Removed id s (removeIdentity env p now s id) := by
  obtain ⟨w, on⟩ := inv.liveOn listed
  rw [removeIdentity_eq inv on]
  exact writeTerminal_removed on.live inv

theorem removeIdentity_terminalizes (inv : RequestInv s) (listed : id ∈ s.workOf n)
    (hp : s.pendingNodeTransitions.get? n = some p) (room : HasRoom env s id) :
    ∃ w, LiveOn s n id w ∧ Terminalizes env Any now id w p.status p.reason
      (s.claims.get? id).isSome s (removeIdentity env p now s id) := by
  obtain ⟨w, on⟩ := inv.liveOn listed
  have forced : tombstoneClaim s id w p.status now (s.claims.get? id).isSome = s.claims.get? id := by
    unfold tombstoneClaim
    cases s.claims.get? id <;> rfl
  refine ⟨w, on, .node hp, trivial, on.live, inv.live_not_terminal id w on.live, room.terminal,
    ?_, ?_⟩
  · rw [forced]
    exact room.tombstone
  · rw [forced, removeIdentity_eq inv on]

/-! ## The loop -/

/-- Distinct identities that the index lists for the node. -/
structure Listed (s : Store) (n : String) (l : List Identity) : Prop where
  distinct : l.Nodup
  listed : ∀ id ∈ l, id ∈ s.workOf n

theorem Listed.tail {l : List Identity} (h : Listed s n (id :: l)) (inv : RequestInv s) :
    Listed (removeIdentity env p now s id) n l := by
  obtain ⟨fresh, distinct⟩ := List.nodup_cons.mp h.distinct
  refine ⟨distinct, fun k hk => ?_⟩
  rw [removeIdentity_workOf inv (h.listed id List.mem_cons_self), if_pos rfl, OrderedDict.mem_erase]
  exact ⟨fun same => fresh (same ▸ hk), h.listed k (List.mem_cons_of_mem _ hk)⟩

/-- The first counters of a batch count `id`, the others are counted without it. -/
theorem BatchCounts.plus_cons (inv : RequestInv s) {l : List Identity}
    (h : Listed s n (id :: l)) (c : BatchCounts) {done : List Identity} (sub : done ⊆ l) :
    (c.plus s [id]).plus (removeIdentity env p now s id) done = c.plus s (id :: done) := by
  have other : ∀ k ∈ done, k ≠ id := by
    rintro k hk rfl
    exact (List.nodup_cons.mp h.distinct).1 (sub hk)
  have removed : Removed id s (removeIdentity env p now s id) :=
    removeIdentity_removed inv (h.listed id List.mem_cons_self)
  have same : ∀ {V : Type} {d d' : OrderedDict Identity V},
      (∀ k, d'.get? k = if k = id then none else d.get? k) →
      done.countP (· ∈ d') = done.countP (· ∈ d) := fun after => List.countP_congr fun k hk => by
    simp only [decide_eq_true_eq, OrderedDict.mem_def, after, if_neg (other k hk)]
  unfold BatchCounts.plus
  rw [same removed.reservations, same removed.queued, same removed.claims]
  simp only [List.countP_cons, List.countP_nil, List.length_cons, List.length_nil]
  congr 1 <;> omega

/-- How a batch over `l` ends: some first identities are terminalized, and the next one, if
there is one, meets a bound. -/
structure Drains (env : StoreEnv) (p : PendingNodeTransition) (now : Epoch) (l : List Identity)
    (s : Store) (done : List Identity) (s' : Store) : Prop where
  split : ∃ rest, l = done ++ rest ∧ ∀ k, rest.head? = some k → ¬HasRoom env s' k
  room : ∀ before k after, done = before ++ k :: after →
    HasRoom env (before.foldl (removeIdentity env p now) s) k
  post : s' = done.foldl (removeIdentity env p now) s

theorem removeIdentity_sameNodes : SameNodes s (removeIdentity env p now s id) := by
  unfold removeIdentity
  split
  · exact writeTerminal_sameNodes
  · exact SameNodes.refl s

theorem Drains.sameNodes {l done : List Identity} (h : Drains env p now l s done s') :
    SameNodes s s' := by
  rw [h.post]
  clear h
  induction done generalizing s with
  | nil => exact SameNodes.refl s
  | cons id done ih => exact removeIdentity_sameNodes.trans ih

/-- What a batch leaves of the work of the nodes. -/
structure WorkLeft (n : String) (done : List Identity) (s s' : Store) : Prop where
  requests : RequestInv s'
  others : ∀ m, m ≠ n → s'.workOf m = s.workOf m
  keys : (s'.workOf n).keys = (s.workOf n).keys.filter fun k => k ∉ done

theorem foldl_removeIdentity_work (inv : RequestInv s) {done : List Identity}
    (h : Listed s n done) : WorkLeft n done s (done.foldl (removeIdentity env p now) s) := by
  induction done generalizing s with
  | nil => exact ⟨inv, fun _ _ => rfl, by simp⟩
  | cons id done ih =>
    have listed := h.listed id List.mem_cons_self
    have inv₁ : RequestInv (removeIdentity env p now s id) :=
      (removeIdentity_removed inv listed).keeps inv
    have left := ih inv₁ (h.tail inv)
    refine ⟨left.requests, fun m hm => ?_, ?_⟩
    · refine (left.others m hm).trans ?_
      rw [removeIdentity_workOf inv listed, if_neg hm]
    · refine left.keys.trans ?_
      rw [removeIdentity_workOf inv listed, if_pos rfl, OrderedDict.keys_erase, List.filter_filter]
      refine List.filter_congr fun k _ => ?_
      simp only [List.mem_cons, not_or, decide_not, Bool.decide_and]
      exact Bool.and_comm ..

theorem Listed.of_append {done rest : List Identity} (h : Listed s n (done ++ rest)) :
    Listed s n done :=
  ⟨h.distinct.sublist (List.sublist_append_left done rest),
    fun k hk => h.listed k (List.mem_append_left rest hk)⟩

theorem Drains.work {l done : List Identity} (h : Drains env p now l s done s')
    (inv : RequestInv s) (listed : Listed s n l) : WorkLeft n done s s' := by
  obtain ⟨rest, rfl, -⟩ := h.split
  rw [h.post]
  exact foldl_removeIdentity_work inv listed.of_append

theorem found_length {V : Type} (d : OrderedDict Identity V) :
    (d.get? id).toList.length = [id].countP (· ∈ d) := by
  cases found : d.get? id <;> simp [OrderedDict.mem_def, found]

theorem transitionBatch_drains (l : List Identity) (counts : BatchCounts) (inv : RequestInv s)
    (hp : s.pendingNodeTransitions.get? n = some p) (h : Listed s n l) :
    Ends (transitionBatch env n p now l counts) s fun r s' =>
      ∃ done, Drains env p now l s done s' ∧ r = .ok (counts.plus s done) := by
  induction l generalizing s counts with
  | nil => exact ends_pure.mpr ⟨[], ⟨⟨[], rfl, nofun⟩, by simp, rfl⟩, rfl⟩
  | cons id l ih =>
    have listed := h.listed id List.mem_cons_self
    obtain ⟨w, on⟩ := inv.liveOn listed
    unfold transitionBatch
    simp only [ends_bind, ends_getState, follow_ok]
    rw [ends_ite]
    refine ⟨fun terminal => absurd terminal (inv.live_not_terminal id w on.live), fun _ => ?_⟩
    rw [inv.workRecord on.live]
    dsimp only
    rw [ends_bind, ends_catching, ends_bind]
    refine terminalizeLocked_ends.mono ?_
    intro r s₁ outcome
    cases outcome with
    | full kind full =>
      simp only [follow_error, ends_ite, kind, ends_pure, follow_ok, forall_const, not_true,
        false_implies, and_true]
      refine ⟨[], ⟨⟨id :: l, rfl, ?_⟩, by simp, rfl⟩, rfl⟩
      rintro _ ⟨⟩
      exact TerminalizeOutcome.not_hasRoom full
    | done room tombstones =>
      have hasRoom : HasRoom env s id := hasRoom_of_forced room tombstones
      have terminalizes : ∃ w', LiveOn s n id w' ∧ Terminalizes env Any now id w' p.status p.reason
          (s.claims.get? id).isSome s (removeIdentity env p now s id) :=
        removeIdentity_terminalizes inv listed hp hasRoom
      obtain ⟨w', on', terminalizes⟩ := terminalizes
      obtain rfl : w' = w := inv.work_unique on'.live on.live
      rw [← terminalizes.post]
      have inv₁ : RequestInv (removeIdentity env p now s id) :=
        (Sweep.terminalize terminalizes).requestInv inv
      have pending₁ : (removeIdentity env p now s id).pendingNodeTransitions.get? n = some p := by
        rw [terminalizes.post, writeTerminal_sameNodes.pending]
        exact hp
      simp only [follow_ok, ends_pure]
      refine (ih _ inv₁ pending₁ (h.tail inv)).mono ?_
      rintro _ s' ⟨done, ⟨⟨rest, rfl, blocked⟩, later, post⟩, rfl⟩
      have turns : ∀ before k after, id :: done = before ++ k :: after →
          HasRoom env (before.foldl (removeIdentity env p now) s) k := by
        rintro (_ | ⟨first, before⟩) k after split
        · obtain ⟨rfl, -⟩ := List.cons.inj split
          exact hasRoom
        · obtain ⟨rfl, others⟩ := List.cons.inj split
          exact later before k after others
      refine ⟨id :: done, ⟨⟨rest, rfl, blocked⟩, turns, post⟩, congrArg Except.ok ?_⟩
      rw [← BatchCounts.plus_cons inv h counts (List.subset_append_left done rest)]
      rw [found_length, found_length, found_length]
      rfl

/-! ## The call -/

/-- The node is done: its fence and its tombstone are written for the last time. -/
def completeTransition (env : StoreEnv) (n : String) (p : PendingNodeTransition) (now : Epoch)
    (authority : FormerNodeAuthority) (s : Store) : Store :=
  { s with
    formerNodeAuthorities := s.formerNodeAuthorities.set p.nodeIdentityDigest
      ((s.fencesOf p.nodeIdentityDigest).set p.controlCredentialDigest
        { authority with expiresAtEpoch := now + env.config.terminalRetentionSeconds })
    pendingNodeTransitions := s.pendingNodeTransitions.erase n
    nodeTombstones :=
      match s.nodeTombstones.get? p.nodeIdentityDigest with
      | some tombstone =>
        s.nodeTombstones.set p.nodeIdentityDigest { tombstone with completed := true }
      | none => s.nodeTombstones }

/-- The result of a batch with these counters. -/
def batchResult (p : PendingNodeTransition) (c : BatchCounts) (continuation : Bool) :
    NodeTransitionResult :=
  ⟨if continuation then .transitioning else .complete, p.cause, some p.transitionEpoch,
    c.processed, c.reservations, c.queued, c.claims, c.outcomes, continuation⟩

theorem validateIntBounds_pos {l : List (Nat × String × Nat)}
    (valid : RelayStateStoreConfig.validateIntBounds l = .ok ()) : ∀ e ∈ l, 1 ≤ e.1 := by
  induction l with
  | nil => exact nofun
  | cons e l ih =>
    obtain ⟨bound, rest⟩ := require_bind_ok.mp valid
    intro e' he'
    rcases List.mem_cons.mp he' with rfl | he'
    · exact bound.1
    · exact ih rest e' he'

theorem batchSize_pos (env : StoreEnv) : 1 ≤ env.config.nodeTransitionBatchSize := by
  have valid := env.config_ok
  simp only [RelayStateStoreConfig.postInit, RelayStateStoreConfig.validateFloatBound,
    require_bind_ok] at valid
  obtain ⟨-, -, -, -, -, -, -, -, -, -, -, -, -, -, bounds⟩ := valid
  exact validateIntBounds_pos bounds (env.config.nodeTransitionBatchSize,
    "node-transition batch bound", 10000) (by simp [RelayStateStoreConfig.intBounds])

/-- The batch that one call takes from the index of the node. -/
def nodeBatch (env : StoreEnv) (s : Store) (n : String) : List Identity :=
  (s.workOf n).keys.take env.config.nodeTransitionBatchSize

theorem nodeBatch_listed : Listed s n (nodeBatch env s n) :=
  ⟨(s.workOf n).nodup.sublist (List.take_sublist ..),
    fun _ hk => OrderedDict.mem_keys.mp (List.mem_of_mem_take hk)⟩

/-- How one call on a pending node ends: work is left, the node is done, or the batch was
drained and the fence could not be written. -/
inductive Continues (env : StoreEnv) (n : String) (p : PendingNodeTransition) (now : Epoch)
    (s : Store) : Except StoreError NodeTransitionResult → Store → Prop
  | goesOn {done : List Identity} {s₁ : Store} : Drains env p now (nodeBatch env s n) s done s₁ →
      (s₁.workOf n).entries ≠ [] →
      Continues env n p now s (.ok (batchResult p (BatchCounts.plus {} s done) true)) s₁
  | finishes {done : List Identity} {s₁ : Store} {authority : FormerNodeAuthority} :
      Drains env p now (nodeBatch env s n) s done s₁ → (s₁.workOf n).entries = [] →
      (s₁.fencesOf p.nodeIdentityDigest).get? p.controlCredentialDigest = some authority →
      Continues env n p now s (.ok (batchResult p (BatchCounts.plus {} s done) false))
        (completeTransition env n p now authority s₁)
  | raises {done : List Identity} {s₁ s' : Store} {e : StoreError} :
      Drains env p now (nodeBatch env s n) s done s₁ →
      s'.nodeWorkIdentities = s₁.nodeWorkIdentities →
      (¬isfiniteSum (now + env.config.terminalRetentionSeconds) ∨
        (s₁.fencesOf p.nodeIdentityDigest).get? p.controlCredentialDigest = none) →
      Continues env n p now s (.error e) s'

theorem continueTransition_drains (inv : RequestInv s)
    (hp : s.pendingNodeTransitions.get? n = some p) :
    Ends (continueTransition env n p now) s (Continues env n p now s) := by
  unfold continueTransition
  simp only [ends_bind, ends_getState, follow_ok]
  refine (transitionBatch_drains _ {} inv hp nodeBatch_listed).mono ?_
  rintro _ s₁ ⟨done, drains, rfl⟩
  simp only [follow_ok, ends_bind, ends_getState]
  by_cases emptied : (s₁.workOf n).entries = []
  · simp only [emptied, ne_eq, not_true, decide_false, Bool.false_eq_true, if_false]
    unfold finishTransition
    simp only [ends_bind, ends_raiseIf, follow_error, follow_ok, ends_modifyState, ends_getState,
      fencesOf_set, if_true]
    refine ⟨fun infinite => .raises drains rfl (.inl infinite), fun _ => ?_⟩
    cases fence : (s₁.fencesOf p.nodeIdentityDigest).get? p.controlCredentialDigest with
    | none => exact .raises drains rfl (.inr fence)
    | some authority =>
      simp only [ends_modifyState, follow_ok, ends_pure]
      rw [OrderedDict.set_set]
      exact .finishes drains emptied fence
  · simp only [emptied, ne_eq, not_false_eq_true, decide_true, if_true, ends_bind,
      ends_modifyState, follow_ok, ends_pure]
    have pending₁ : s₁.pendingNodeTransitions.get? n = some p := by
      rw [drains.sameNodes.pending]
      exact hp
    rw [OrderedDict.set_of_get? pending₁]
    exact .goesOn drains emptied

theorem Continues.drains {r : Except StoreError NodeTransitionResult}
    (h : Continues env n p now s r s') : ∃ done s₁, Drains env p now (nodeBatch env s n) s done s₁ ∧
      s'.nodeWorkIdentities = s₁.nodeWorkIdentities := by
  cases h with
  | goesOn drains _ | finishes drains _ _ => exact ⟨_, _, drains, rfl⟩
  | raises drains same _ => exact ⟨_, _, drains, same⟩

theorem Continues.sameRecords {a : NodeTransitionResult} (h : Continues env n p now s (.ok a) s') :
    s'.records = s.records := by
  cases h with
  | goesOn drains _ | finishes drains _ _ => exact drains.sameNodes.records

/-- A batch of a removal that has its fence does not raise at a finite reading. -/
theorem Continues.ok {r : Except StoreError NodeTransitionResult}
    (h : Continues env n p now s r s')
    (fits : isfiniteSum (now + env.config.terminalRetentionSeconds))
    (fenced : p.controlCredentialDigest ∈ s.fencesOf p.nodeIdentityDigest) :
    ∃ result, r = .ok result := by
  cases h with
  | goesOn _ _ | finishes _ _ _ => exact ⟨_, rfl⟩
  | raises drains _ reason =>
    refine reason.elim (absurd fits) fun absent => absurd fenced (OrderedDict.not_mem_iff.mpr ?_)
    rw [← absent, Store.fencesOf, Store.fencesOf, drains.sameNodes.fences]

end

end StateStore
