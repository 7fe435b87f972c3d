import TokenPlace.StateStore.Quiescence

/-!
# Which sweeps make progress on the started removals

`expire` advances one started removal: the least node id, and of its work the
identities from the first one on until one meets a bound. Work that has room does not
get its turn while the first identity of the first node is stopped.

* `HeadAdvances`: the sweep comes to a node that was pending before it, and the first
  identity of its index has room;
* `teardown_progress_iff`: `expire` takes work off the pending nodes exactly then.
-/

namespace StateStore

open Method

/-- The number of work identities of the nodes. -/
def workCount (nodes : List String) (s : Store) : Nat := (nodes.map fun n => (s.workOf n).size).sum

/-- Some work identity of a pending node could be terminalized at this reading. -/
def RoomLeft (env : StoreEnv) (now : Epoch) (s : Store) : Prop :=
  ∃ n ∈ s.pendingNodeTransitions, ∃ id ∈ s.workOf n, HasRoom env (reapRetainedLocked now s) id

/-- The state in which the sweep turns to the started removals: after retention, and after
the eviction of the registrations whose lease has run out. -/
def continuationStart (env : StoreEnv) (now : Epoch) (s : Store) : Store :=
  (forEach (expiredRecords s now) (evictLocked env now) (reapRetainedLocked now s)).2

/-- The sweep gets to the started removals, the least node id among them is not one that it
has just evicted, and the first identity of its index has room. -/
structure HeadAdvances (env : StoreEnv) (now : Epoch) (s : Store) : Prop where
  evicts : EvictsFreely env now (expiredRecords s now) (reapRetainedLocked now s)
  head : ∃ n id, ((continuationStart env now s).pendingNodeTransitions.keys.insertionSort
      (· ≤ ·)).head? = some n ∧ (∀ r ∈ expiredRecords s now, r.nodeId ≠ n) ∧
    ((continuationStart env now s).workOf n).keys.head? = some id ∧
    HasRoom env (continuationStart env now s) id

section

variable {env : StoreEnv} {now : Epoch} {s s' : Store} {id : Identity} {n : String}

/-! ## Counting the work -/

theorem size_le_of_subset {V : Type} {d d' : OrderedDict Identity V} (h : ∀ k, k ∈ d' → k ∈ d) :
    d'.size ≤ d.size := by
  have sub : d'.keys ⊆ d.keys := fun k hk => OrderedDict.mem_keys.mpr (h k (OrderedDict.mem_keys.mp hk))
  have le := (List.subperm_of_subset d'.nodup sub).length_le
  unfold OrderedDict.keys at le
  rwa [List.length_map, List.length_map] at le

theorem size_lt_of_subset {V : Type} {d d' : OrderedDict Identity V} (h : ∀ k, k ∈ d' → k ∈ d)
    (member : id ∈ d) (gone : id ∉ d') : d'.size < d.size := by
  have sub : id :: d'.keys ⊆ d.keys := by
    intro k hk
    refine OrderedDict.mem_keys.mpr ?_
    rcases List.mem_cons.mp hk with rfl | hk
    · exact member
    · exact h k (OrderedDict.mem_keys.mp hk)
  have distinct : (id :: d'.keys).Nodup :=
    List.nodup_cons.mpr ⟨fun hk => gone (OrderedDict.mem_keys.mp hk), d'.nodup⟩
  have le := (List.subperm_of_subset distinct sub).length_le
  unfold OrderedDict.keys at le
  rw [List.length_cons, List.length_map, List.length_map] at le
  exact le

theorem workCount_lt_iff (shrinks : ∀ m k, k ∈ s'.workOf m → k ∈ s.workOf m) (nodes : List String) :
    workCount nodes s' < workCount nodes s ↔
      ∃ m ∈ nodes, ∃ k, k ∈ s.workOf m ∧ k ∉ s'.workOf m := by
  unfold workCount
  constructor
  · intro less
    by_contra none
    have kept : ∀ m ∈ nodes, (s.workOf m).size ≤ (s'.workOf m).size := by
      refine fun m hm => size_le_of_subset fun k hk => ?_
      by_contra gone
      exact none ⟨m, hm, k, hk, gone⟩
    exact absurd less (not_lt.mpr (List.sum_le_sum kept))
  · rintro ⟨m, hm, k, member, gone⟩
    exact List.sum_lt_sum _ _ (fun m _ => size_le_of_subset (shrinks m))
      ⟨m, hm, size_lt_of_subset (shrinks m) member gone⟩

/-! ## The evictions -/

theorem Evicts.otherWork {r : ComputeNodeRegistration} {result : Except StoreError Unit}
    (h : Evicts env now r s result s') (requests : RequestInv s) {m : String} (hm : m ≠ r.nodeId) :
    s'.workOf m = s.workOf m := by
  cases h with
  | full _ _ => rfl
  | starts _ starts continues =>
    obtain ⟨done, s₂, drains, same⟩ := continues.drains
    have requests₁ := (Sweep.startRemoval (P := Any) starts).requestInv requests
    rw [workOf_eq, same, ← workOf_eq, (drains.work requests₁ nodeBatch_listed).others m hm,
      starts.post]
    rfl

/-- What the eviction loop leaves of the nodes that it does not visit. -/
structure Unvisited (l : List ComputeNodeRegistration) (s s' : Store) : Prop where
  work : ∀ m, (∀ r ∈ l, r.nodeId ≠ m) → s'.workOf m = s.workOf m
  pending : ∀ m, (∀ r ∈ l, r.nodeId ≠ m) →
    s'.pendingNodeTransitions.get? m = s.pendingNodeTransitions.get? m

theorem forEach_evictLocked_unvisited (l : List ComputeNodeRegistration) (requests : RequestInv s)
    (inv : NodeInv env s) (visit : ToEvict now l s) :
    Ends (forEach l (evictLocked env now)) s fun _ s' =>
      Sweeps env Any now s s' ∧ Unvisited l s s' := by
  induction l generalizing s with
  | nil => exact ⟨Sweeps.refl s, fun _ _ => rfl, fun _ _ => rfl⟩
  | cons r l ih =>
    have evicts := evictLocked_evicts requests inv (visit.registered r List.mem_cons_self)
      (visit.expired r List.mem_cons_self)
    have ended : Ends (evictLocked env now r) s fun _ s' =>
        Sweeps env Any now s s' ∧ OtherNodes r.nodeId s s' := evictLocked_others r
    refine ends_bind.mpr ((Ends.and evicts ended).mono ?_)
    rintro result s₁ ⟨evicts, sweeps, others⟩
    have first : Unvisited (r :: l) s s₁ :=
      ⟨fun m hm => evicts.otherWork requests (hm r List.mem_cons_self).symm,
        fun m hm => others.pending m (hm r List.mem_cons_self).symm⟩
    rcases result with e | _
    · exact ⟨sweeps, first⟩
    obtain ⟨requests₁, inv₁⟩ := sweeps.nodeInv requests inv
    rw [follow_ok]
    refine (ih requests₁ inv₁ (visit.tail others)).mono ?_
    rintro result s' ⟨sweeps', rest⟩
    have tail : ∀ {m}, (∀ q ∈ r :: l, q.nodeId ≠ m) → ∀ q ∈ l, q.nodeId ≠ m :=
      fun hm q hq => hm q (List.mem_cons_of_mem r hq)
    exact ⟨sweeps.trans sweeps', fun m hm => (rest.work m (tail hm)).trans (first.work m hm),
      fun m hm => (rest.pending m (tail hm)).trans (first.pending m hm)⟩

/-! ## The continuation -/

/-- A call on a pending node takes work off it exactly when the first identity of its index
has room. -/
theorem Continues.progress {p : PendingNodeTransition} {r : Except StoreError NodeTransitionResult}
    (h : Continues env n p now s r s') (requests : RequestInv s) :
    (∀ k, (s.workOf n).keys.head? = some k → HasRoom env s k → k ∉ s'.workOf n) ∧
      ((∀ k, (s.workOf n).keys.head? = some k → ¬HasRoom env s k) →
        ∀ m, s'.workOf m = s.workOf m) := by
  obtain ⟨done, s₁, drains, same⟩ := h.drains
  have work := drains.work requests nodeBatch_listed
  have index : ∀ m, s'.workOf m = s₁.workOf m := fun m => by rw [workOf_eq, same, ← workOf_eq]
  obtain ⟨rest, split, blocked⟩ := drains.split
  have first : ∀ k, (s.workOf n).keys.head? = some k → (nodeBatch env s n).head? = some k := by
    intro k head
    unfold nodeBatch
    rw [List.head?_take, if_neg (Nat.ne_of_gt (batchSize_pos env)), head]
  constructor
  · intro k head room
    rw [index]
    have listed := first k head
    rw [split] at listed
    rcases done with _ | ⟨k', done⟩
    · -- nothing was drained, so the first identity was stopped
      have stopped := blocked k listed
      rw [drains.post] at stopped
      exact absurd room stopped
    · obtain rfl : k' = k := Option.some.inj listed
      rw [← OrderedDict.mem_keys, work.keys]
      simp
  · intro stopped m
    rw [index, drains.post]
    rcases done with _ | ⟨k, done⟩
    · rfl
    · -- the first identity that was drained had room
      have head : (s.workOf n).keys.head? = some k := by
        have member : (nodeBatch env s n).head? = some k := by rw [split]; rfl
        unfold nodeBatch at member
        rw [List.head?_take, if_neg (Nat.ne_of_gt (batchSize_pos env))] at member
        exact member
      exact absurd (drains.room [] k done rfl) (stopped k head)

theorem transitionNodeLocked_pending {p : PendingNodeTransition} (requests : RequestInv s)
    (hp : s.pendingNodeTransitions.get? n = some p) :
    Ends (transitionNodeLocked env n
      (if p.cause = .explicitUnregister then some p.controlCredentialDigest else none) p.cause now) s
      (Continues env n p now s) := by
  unfold transitionNodeLocked
  simp only [ends_bind, ends_getState, follow_ok, hp, ends_raiseIf, follow_error]
  refine ⟨fun other => absurd rfl other, fun _ => ⟨fun rejects => ?_, fun _ => ?_⟩⟩
  · rw [if_pos rejects.1] at rejects
    exact absurd rfl rejects.2
  · exact continueTransition_drains requests hp

/-- What `expire` does to the work of the nodes that are pending before it. -/
structure Sweeping (env : StoreEnv) (now : Epoch) (s s' : Store) : Prop where
  advances : HeadAdvances env now s →
    ∃ m ∈ s.pendingNodeTransitions, ∃ k, k ∈ s.workOf m ∧ k ∉ s'.workOf m
  stays : ¬HeadAdvances env now s → ∀ m ∈ s.pendingNodeTransitions, s'.workOf m = s.workOf m

theorem expireLocked_sweeping (finite : isfinite now) (requests : RequestInv s)
    (inv : NodeInv env s) :
    Ends (expireLocked env now true) s fun _ s' => Sweeping env now s s' := by
  have reaped : Sweeps env Any now s (reapRetainedLocked now s) := .one (.reapRetained s)
  have pendingReaped :
      (reapRetainedLocked now s).pendingNodeTransitions = s.pendingNodeTransitions := by
    rw [reapRetained_eq]
  have workReaped : ∀ m, (reapRetainedLocked now s).workOf m = s.workOf m := fun m => by
    rw [reapRetained_eq]
    rfl
  obtain ⟨requests₁, inv₁⟩ := reaped.nodeInv requests inv
  have visit : ToEvict now (expiredRecords s now) (reapRetainedLocked now s) := by
    rw [← expiredRecords_reapRetained]
    exact expiredRecords_toEvict inv₁
  -- a node that is already being removed is not registered
  have standing : ∀ m ∈ s.pendingNodeTransitions, ∀ r ∈ expiredRecords s now, r.nodeId ≠ m := by
    rintro _ hm r hr rfl
    refine inv₁.not_pending r.nodeId (OrderedDict.mem_of_get? (visit.registered r hr)) ?_
    rw [pendingReaped]
    exact hm
  have loop := forEach_evictLocked_unvisited _ requests₁ inv₁ visit
  have raised := forEach_evictLocked finite _ requests₁ inv₁ visit
  have start : Ends (forEach (expiredRecords s now) (evictLocked env now))
      (reapRetainedLocked now s) fun _ s₂ => s₂ = continuationStart env now s := rfl
  unfold expireLocked
  simp only [ends_bind, ends_modifyState, ends_getState, follow_ok, expiredRecords_reapRetained]
  refine ((loop.and raised).and start).mono ?_
  rintro result s₂ ⟨⟨⟨sweeps, unvisited⟩, raised⟩, rfl⟩
  have work : ∀ m ∈ s.pendingNodeTransitions, (continuationStart env now s).workOf m = s.workOf m :=
    fun m hm => (unvisited.work m (standing m hm)).trans (workReaped m)
  have idle : (¬HeadAdvances env now s) → Sweeping env now s (continuationStart env now s) :=
    fun stopped => ⟨fun advances => absurd advances stopped, fun _ => work⟩
  rcases result with e | _
  · refine idle fun advances => ?_
    rcases raised with ⟨-, ok⟩ | ⟨blocked, -⟩
    · cases ok
    · exact blocked advances.evicts
  simp only [follow_ok, if_true]
  obtain ⟨requests₂, inv₂⟩ := sweeps.nodeInv requests₁ inv₁
  unfold continuePendingLocked
  simp only [ends_bind, ends_getState, follow_ok]
  cases head : ((continuationStart env now s).pendingNodeTransitions.keys.insertionSort
      (· ≤ ·)).head? with
  | none =>
    refine idle fun advances => ?_
    obtain ⟨n, _, found, -⟩ := advances.head
    cases head.symm.trans found
  | some n =>
    dsimp only
    rw [ends_ite]
    constructor
    · rintro ⟨r, hr, same⟩
      refine idle fun advances => ?_
      obtain ⟨n', _, found, fresh, -⟩ := advances.head
      obtain rfl : n = n' := Option.some.inj (head.symm.trans found)
      exact fresh r hr same
    · intro fresh
      have unvisited_n : ∀ r ∈ expiredRecords s now, r.nodeId ≠ n :=
        fun r hr same => fresh ⟨r, hr, same⟩
      have listed : n ∈ (continuationStart env now s).pendingNodeTransitions :=
        OrderedDict.mem_keys.mp (head?_insertionSort head).1
      obtain ⟨p, hp⟩ := OrderedDict.mem_def.mp listed
      have before : n ∈ s.pendingNodeTransitions := by
        refine OrderedDict.mem_of_get? (v := p) ?_
        rw [← pendingReaped, ← unvisited.pending n unvisited_n]
        exact hp
      rw [hp]
      simp only [ends_bind]
      refine (transitionNodeLocked_pending requests₂ hp).mono ?_
      intro result s₃ continues
      have progress := continues.progress requests₂
      have moved : Sweeping env now s s₃ := by
        refine ⟨fun advances => ?_, fun stopped m hm => ?_⟩
        · obtain ⟨n', k, found, -, first, room⟩ := advances.head
          obtain rfl : n = n' := Option.some.inj (head.symm.trans found)
          have member := OrderedDict.mem_keys.mp (List.mem_of_mem_head? first)
          exact ⟨n, before, k, work n before ▸ member, progress.1 k first room⟩
        · rw [progress.2 ?_ m, work m hm]
          intro k first room
          refine stopped ⟨?_, n, k, head, unvisited_n, first, room⟩
          rcases raised with ⟨evicts, -⟩ | ⟨-, e, error, -⟩
          · exact evicts
          · cases error
      cases result <;> exact moved

theorem expire_sweeping {c : Call} (expires : c.op = .expire) (finite : isfinite c.clock)
    (requests : RequestInv s) (inv : NodeInv env s) :
    (∀ m k, k ∈ (c.next env s).workOf m → k ∈ s.workOf m) ∧
      Sweeping env c.clock s (c.next env s) := by
  obtain ⟨clock, drawn, op⟩ := c
  subst expires
  have ended : Ends (replying .registrations (expire env clock)) s fun _ s' =>
      (∀ m k, k ∈ s'.workOf m → k ∈ s.workOf m) ∧ Sweeping env clock s s' := by
    rw [ends_replying]
    unfold expire nowOf
    rw [if_pos finite, ends_bind, ends_ofExcept, follow_ok]
    have shrinks : Ends (expireLocked env clock true) s fun _ s' => Sweeps env Any clock s s' :=
      expireLocked_sweeps
    refine (shrinks.and (expireLocked_sweeping finite requests inv)).mono ?_
    exact fun _ _ ⟨sweeps, sweeping⟩ => ⟨sweeps.shrinks.index, sweeping⟩
  exact ended

end

/-- In every reachable state and at every finite reading, when some work of the pending nodes
has room, `expire` takes work off them exactly when the sweep gets to the started removals, the
least node id among them was pending before, and the first identity of its index has room then.
Without expired registrations that state is the one after retention. -/
theorem teardown_progress_iff (env : StoreEnv) (calls : List Call) (c : Call)
    (expires : c.op = .expire) (finite : isfinite c.clock) :
    let s := stateAfter env calls
    let nodes := s.pendingNodeTransitions.keys
    ((RoomLeft env c.clock s → workCount nodes (c.next env s) < workCount nodes s) ↔
      (RoomLeft env c.clock s → HeadAdvances env c.clock s)) ∧
    (expiredRecords s c.clock = [] →
      continuationStart env c.clock s = reapRetainedLocked c.clock s) := by
  intro s nodes
  have reachable : Reachable env s := reachable_runs calls
  obtain ⟨shrinks, sweeping⟩ := expire_sweeping expires finite reachable.requestInv
    reachable.nodeInv
  have counted : workCount nodes (c.next env s) < workCount nodes s ↔ HeadAdvances env c.clock s := by
    rw [workCount_lt_iff shrinks]
    constructor
    · rintro ⟨m, hm, k, member, gone⟩
      by_contra stopped
      rw [sweeping.stays stopped m (OrderedDict.mem_keys.mp hm)] at gone
      exact gone member
    · intro advances
      obtain ⟨m, hm, moved⟩ := sweeping.advances advances
      exact ⟨m, OrderedDict.mem_keys.mpr hm, moved⟩
  refine ⟨by rw [counted], fun none => ?_⟩
  unfold continuationStart
  rw [none]
  rfl

/-! ## A client at its bound -/

/-- One identity a batch, one terminal record a client. -/
def narrowEnv : StoreEnv :=
  sampleEnv { namespace_ := "relay", nodeTransitionBatchSize := 1, maxTerminalRecordsPerClient := 1 }
    (by decide +kernel)

/-- A reservation by the client, at 1. -/
def reserving (client request : String) : Call :=
  sampleCall 1 (.selectAndReserve client request "model" "8k-fast" 100 none)

/-- Two reservations and the removal of their node, which terminalizes the first one. -/
def removing (second : String) : List Call :=
  [registration, reserving "client-1" "request-1", reserving second "request-2",
   reserving "client-2" "request-3", sampleCall 1 (.unregister "node-a" credentialA)]

/-- The identity that the index of the node lists last. -/
def lastWork (s : Store) : Identity := (s.workOf "node-a").keys.getLastD ("", "")

theorem hasRoom_of_unclaimed {env : StoreEnv} {s : Store} {id : Identity}
    (terminal : ¬terminalCapacityReached env s id.1) (unclaimed : s.claims.get? id = none) :
    HasRoom env s id := by
  refine ⟨terminal, fun c hc => ?_⟩
  cases unclaimed.symm.trans hc

/-- Three clients, and the sweep takes the next request off the node. -/
theorem teardown_progress_iff_sample :
    let s := stateAfter narrowEnv (removing "client-3")
    workCount s.pendingNodeTransitions.keys (Call.next narrowEnv (sampleCall 2 .expire) s) <
      workCount s.pendingNodeTransitions.keys s := by
  intro s
  have least : EvictsFreely narrowEnv 2 (expiredRecords s 2) (reapRetainedLocked 2 s) ∧
      ((continuationStart narrowEnv 2 s).pendingNodeTransitions.keys.insertionSort
        (· ≤ ·)).head? = some "node-a" ∧ (∀ r ∈ expiredRecords s 2, r.nodeId ≠ "node-a") := by
    decide +kernel
  have first : ((continuationStart narrowEnv 2 s).workOf "node-a").keys.head? =
        some ((s.workOf "node-a").keys.headD ("", "")) ∧
      ¬terminalCapacityReached narrowEnv (continuationStart narrowEnv 2 s)
        ((s.workOf "node-a").keys.headD ("", "")).1 ∧
      (continuationStart narrowEnv 2 s).claims.get? ((s.workOf "node-a").keys.headD ("", "")) =
        none := by
    decide +kernel
  have left : "node-a" ∈ s.pendingNodeTransitions ∧ lastWork s ∈ s.workOf "node-a" ∧
      ¬terminalCapacityReached narrowEnv (reapRetainedLocked 2 s) (lastWork s).1 ∧
      (reapRetainedLocked 2 s).claims.get? (lastWork s) = none := by
    decide +kernel
  obtain ⟨evicts, sorted, kept⟩ := least
  obtain ⟨head, room, unclaimed⟩ := first
  obtain ⟨pending, last, roomLast, unclaimedLast⟩ := left
  refine (teardown_progress_iff narrowEnv (removing "client-3") (sampleCall 2 .expire) rfl
    (by decide +kernel)).1.mpr (fun _ => ⟨evicts, "node-a", _, sorted, kept, head,
      hasRoom_of_unclaimed room unclaimed⟩) ?_
  exact ⟨"node-a", pending, lastWork s, last, hasRoom_of_unclaimed roomLast unclaimedLast⟩

/-- The first client has its one terminal record, so the sweep stops at its second request;
the request of the other client has room and stays on the node. -/
theorem head_of_line_blocks :
    let s := stateAfter narrowEnv (removing "client-1")
    RoomLeft narrowEnv 2 s ∧
      ¬workCount s.pendingNodeTransitions.keys (Call.next narrowEnv (sampleCall 2 .expire) s) <
        workCount s.pendingNodeTransitions.keys s := by
  intro s
  have left : "node-a" ∈ s.pendingNodeTransitions ∧ lastWork s ∈ s.workOf "node-a" ∧
      ¬terminalCapacityReached narrowEnv (reapRetainedLocked 2 s) (lastWork s).1 ∧
      (reapRetainedLocked 2 s).claims.get? (lastWork s) = none ∧
      ¬workCount s.pendingNodeTransitions.keys (Call.next narrowEnv (sampleCall 2 .expire) s) <
        workCount s.pendingNodeTransitions.keys s := by
    decide +kernel
  obtain ⟨pending, last, room, unclaimed, blocked⟩ := left
  exact ⟨⟨"node-a", pending, lastWork s, last, hasRoom_of_unclaimed room unclaimed⟩, blocked⟩

end StateStore
