import TokenPlace.StateStore.Progress

/-!
# A whole teardown

`unregister_node_and_transition_work` removes a node in batches. When there is room
for all its work, the calls one after the other at one reading take the index of the
node apart from the front, and the last one completes the removal.

* `RoomFor`: the terminal and tombstone tables have room for all the listed work;
* `Underway`: a removal between two calls at one reading;
* `calls_complete`: what the calls that are still needed do from there;
* `teardown_exact`: from the first call on.
-/

namespace StateStore

open Method

/-- The terminal and tombstone tables have room for all these identities. -/
structure RoomFor (env : StoreEnv) (n : String) (l : List Identity) (s : Store) : Prop where
  terminals : s.terminals.size + l.length ≤ env.config.maxTerminalRecords
  clients : ∀ id ∈ l, (s.terminals.count fun _ t => t.clientIdentityDigest = id.1) +
    l.countP (fun k => k.1 = id.1) ≤ env.config.maxTerminalRecordsPerClient
  tombstones : (∃ id ∈ l, id ∈ s.claims) →
    s.controlTombstones.size + l.countP (· ∈ s.claims) ≤ env.config.maxControlTombstones
  nodes : (∃ id ∈ l, id ∈ s.claims) →
    (s.controlTombstones.count fun _ t => t.selectedNodeId = n) + l.countP (· ∈ s.claims) ≤
      env.config.maxControlTombstonesPerNode

instance (env : StoreEnv) (n : String) (l : List Identity) (s : Store) :
    Decidable (RoomFor env n l s) :=
  decidable_of_iff
    (s.terminals.size + l.length ≤ env.config.maxTerminalRecords ∧
      (∀ id ∈ l, (s.terminals.count fun _ t => t.clientIdentityDigest = id.1) +
        l.countP (fun k => k.1 = id.1) ≤ env.config.maxTerminalRecordsPerClient) ∧
      ((∃ id ∈ l, id ∈ s.claims) →
        s.controlTombstones.size + l.countP (· ∈ s.claims) ≤ env.config.maxControlTombstones) ∧
      ((∃ id ∈ l, id ∈ s.claims) →
        (s.controlTombstones.count fun _ t => t.selectedNodeId = n) + l.countP (· ∈ s.claims) ≤
          env.config.maxControlTombstonesPerNode))
    ⟨fun ⟨terminals, clients, tombstones, nodes⟩ => ⟨terminals, clients, tombstones, nodes⟩,
      fun room => ⟨room.terminals, room.clients, room.tombstones, room.nodes⟩⟩

section

variable {env : StoreEnv} {now : Epoch} {s s' : Store} {id : Identity} {n : String}
  {p : PendingNodeTransition}

/-! ## Room for all -/

theorem RequestInv.claim_node (inv : RequestInv s) (listed : id ∈ s.workOf n) {c : ClaimRecord}
    (hc : s.claims.get? id = some c) : c.selectedNodeId = n := by
  obtain ⟨w, on⟩ := inv.liveOn listed
  obtain ⟨q, hq, node, -⟩ := inv.claim_queued id c hc
  rw [node, ← on.node, inv.work_unique on.live (v := .queued q) hq]
  rfl

variable {owner : String} {l : List Identity} {authority : FormerNodeAuthority} {c : Call}
  {done rest : List Identity} {m : String} {s₀ : Store} {b w : Nat}

theorem RoomFor.hasRoom (h : RoomFor env n (id :: l) s) (inv : RequestInv s)
    (listed : id ∈ s.workOf n) : HasRoom env s id := by
  constructor
  · have global := h.terminals
    have client := h.clients id List.mem_cons_self
    rw [List.length_cons] at global
    rw [List.countP_cons_of_pos (by simp)] at client
    unfold terminalCapacityReached
    omega
  · intro c hc
    have claimed : ∃ k ∈ id :: l, k ∈ s.claims :=
      ⟨id, List.mem_cons_self, OrderedDict.mem_of_get? hc⟩
    have global := h.tombstones claimed
    have node := h.nodes claimed
    have counted : 0 < (id :: l).countP (· ∈ s.claims) := by
      rw [List.countP_pos_iff]
      exact ⟨id, List.mem_cons_self, decide_eq_true (OrderedDict.mem_of_get? hc)⟩
    unfold controlTombstoneCapacityReached
    rw [inv.claim_node listed hc]
    omega

theorem removeIdentity_terminals (inv : RequestInv s) (listed : id ∈ s.workOf n) :
    ∃ t : TerminalOutcomeRecord, t.clientIdentityDigest = id.1 ∧ t.outcome = p.status ∧
      t.reason = p.reason ∧
      (removeIdentity env p now s id).terminals = s.terminals.set id t := by
  obtain ⟨w, on⟩ := inv.liveOn listed
  rw [removeIdentity_eq inv on, writeTerminal_terminals]
  exact ⟨_, rfl, rfl, rfl, rfl⟩

theorem removeIdentity_controlTombstones (inv : RequestInv s) (listed : id ∈ s.workOf n) :
    (removeIdentity env p now s id).controlTombstones =
      match s.claims.get? id with
      | some c => s.controlTombstones.set id (controlTombstoneOf env id p.status p.reason now c)
      | none => s.controlTombstones := by
  obtain ⟨w, on⟩ := inv.liveOn listed
  rw [removeIdentity_eq inv on]
  exact writeTerminal_controlTombstones

theorem RoomFor.tail (h : RoomFor env n (id :: l) s) (inv : RequestInv s)
    (work : Listed s n (id :: l)) (tombstones : ∀ k, k ∈ s.controlTombstones → k ∈ s.terminals) :
    RoomFor env n l (removeIdentity env p now s id) := by
  have listed := work.listed id List.mem_cons_self
  obtain ⟨w, on⟩ := inv.liveOn listed
  have not_terminal := inv.live_not_terminal id w on.live
  have terminals : ∃ t : TerminalOutcomeRecord, t.clientIdentityDigest = id.1 ∧
      t.outcome = p.status ∧ t.reason = p.reason ∧
      (removeIdentity env p now s id).terminals = s.terminals.set id t :=
    removeIdentity_terminals inv listed
  obtain ⟨t, client, -, -, terminals⟩ := terminals
  have removed : Removed id s (removeIdentity env p now s id) := removeIdentity_removed inv listed
  have claims : ∀ k ∈ l, k ∈ (removeIdentity env p now s id).claims ↔ k ∈ s.claims := fun k hk => by
    have other : k ≠ id := fun same => (List.nodup_cons.mp work.distinct).1 (same ▸ hk)
    rw [OrderedDict.mem_def, OrderedDict.mem_def, removed.claims, if_neg other]
  have counted : l.countP (· ∈ (removeIdentity env p now s id).claims) = l.countP (· ∈ s.claims) :=
    List.countP_congr fun k hk => by simp only [decide_eq_true_eq, claims k hk]
  -- what is written adds to the counts what it no longer takes from the list
  have written : ∀ q : ControlTombstoneRecord → Bool,
      ((removeIdentity env p now s id).controlTombstones.count fun _ t => q t) +
        l.countP (· ∈ s.claims) ≤
      (s.controlTombstones.count fun _ t => q t) + (id :: l).countP (· ∈ s.claims) := by
    intro q
    rw [removeIdentity_controlTombstones inv listed, List.countP_cons]
    cases hc : s.claims.get? id with
    | none => dsimp only; omega
    | some c =>
      have claimed : id ∈ s.claims := OrderedDict.mem_of_get? hc
      dsimp only
      rw [OrderedDict.count_set_new fun hm => not_terminal (tombstones id hm)]
      simp only [claimed, decide_true, if_true]
      split <;> omega
  have still : (∃ k ∈ l, k ∈ (removeIdentity env p now s id).claims) →
      ∃ k ∈ id :: l, k ∈ s.claims := fun ⟨k, hk, claimed⟩ =>
    ⟨k, List.mem_cons_of_mem id hk, (claims k hk).mp claimed⟩
  constructor
  · have global := h.terminals
    rw [List.length_cons] at global
    rw [terminals, OrderedDict.size_eq_count, OrderedDict.count_set_new not_terminal,
      ← OrderedDict.size_eq_count]
    simp only [if_true]
    omega
  · intro k hk
    have bound := h.clients k (List.mem_cons_of_mem id hk)
    rw [List.countP_cons] at bound
    rw [terminals, OrderedDict.count_set_new not_terminal, client]
    omega
  · intro claimed
    have bound := h.tombstones (still claimed)
    have added := written fun _ => true
    rw [← OrderedDict.size_eq_count, ← OrderedDict.size_eq_count] at added
    rw [counted]
    omega
  · intro claimed
    have bound := h.nodes (still claimed)
    have added := written fun t => t.selectedNodeId = n
    rw [counted]
    omega

/-! ## The fold over the work -/

/-- The records of the identity are the same. -/
structure SameRecord (id : Identity) (s s' : Store) : Prop where
  reservations : s'.reservations.get? id = s.reservations.get? id
  queued : s'.queued.get? id = s.queued.get? id
  tokens : s'.queuedTokenDigests.get? id = s.queuedTokenDigests.get? id
  cancellation : s'.cancellationTokenDigests.get? id = s.cancellationTokenDigests.get? id
  claims : s'.claims.get? id = s.claims.get? id
  responses : s'.responses.get? id = s.responses.get? id
  terminals : s'.terminals.get? id = s.terminals.get? id
  tombstones : s'.controlTombstones.get? id = s.controlTombstones.get? id

theorem SameRecord.trans {a b c : Store} (h : SameRecord id a b) (h' : SameRecord id b c) :
    SameRecord id a c :=
  ⟨h'.reservations.trans h.reservations, h'.queued.trans h.queued, h'.tokens.trans h.tokens,
    h'.cancellation.trans h.cancellation, h'.claims.trans h.claims,
    h'.responses.trans h.responses, h'.terminals.trans h.terminals,
    h'.tombstones.trans h.tombstones⟩

/-- The registration, the removal and the work of the node are the same. -/
structure SameNode (env : StoreEnv) (m : String) (s s' : Store) : Prop where
  records : s'.records.get? m = s.records.get? m
  schedulerStates : s'.schedulerStates.get? m = s.schedulerStates.get? m
  registrationOrder : s'.registrationOrder.get? m = s.registrationOrder.get? m
  pending : s'.pendingNodeTransitions.get? m = s.pendingNodeTransitions.get? m
  work : s'.workOf m = s.workOf m
  queue : s'.queueOf m = s.queueOf m
  tombstone : s'.nodeTombstones.get? (nodeDigest env m) = s.nodeTombstones.get? (nodeDigest env m)
  fences : s'.fencesOf (nodeDigest env m) = s.fencesOf (nodeDigest env m)

theorem SameNode.trans {a b c : Store} (h : SameNode env m a b)
    (h' : SameNode env m b c) : SameNode env m a c :=
  ⟨h'.records.trans h.records, h'.schedulerStates.trans h.schedulerStates,
    h'.registrationOrder.trans h.registrationOrder, h'.pending.trans h.pending,
    h'.work.trans h.work, h'.queue.trans h.queue, h'.tombstone.trans h.tombstone,
    h'.fences.trans h.fences⟩

/-- The identity has ended by the removal. -/
structure EndedBy (p : PendingNodeTransition) (id : Identity) (s : Store) : Prop where
  terminal : ∃ t, s.terminals.get? id = some t ∧ t.outcome = p.status ∧ t.reason = p.reason
  reservations : s.reservations.get? id = none
  queued : s.queued.get? id = none
  claims : s.claims.get? id = none

theorem SameRecord.endedBy (h : SameRecord id s s') (ended : EndedBy p id s) : EndedBy p id s' :=
  ⟨by rw [h.terminals]; exact ended.terminal, h.reservations.trans ended.reservations,
    h.queued.trans ended.queued, h.claims.trans ended.claims⟩

/-- What terminalizing the listed identities of the node leaves. -/
structure Torn (env : StoreEnv) (n : String) (p : PendingNodeTransition) (l : List Identity)
    (s s' : Store) : Prop where
  ended : ∀ id ∈ l, EndedBy p id s'
  others : ∀ id, id ∉ l → SameRecord id s s'
  nodes : ∀ m, m ≠ n → SameNode env m s s'

theorem removeIdentity_torn (inv : RequestInv s) (listed : id ∈ s.workOf n) :
    Torn env n p [id] s (removeIdentity env p now s id) := by
  have terminals : ∃ t : TerminalOutcomeRecord, t.clientIdentityDigest = id.1 ∧
      t.outcome = p.status ∧ t.reason = p.reason ∧
      (removeIdentity env p now s id).terminals = s.terminals.set id t :=
    removeIdentity_terminals inv listed
  obtain ⟨t, -, outcome, reason, terminals⟩ := terminals
  have removed : Removed id s (removeIdentity env p now s id) := removeIdentity_removed inv listed
  have nodes : SameNodes s (removeIdentity env p now s id) := removeIdentity_sameNodes
  obtain ⟨w, on⟩ := inv.liveOn listed
  constructor
  · intro k hk
    obtain rfl := List.mem_singleton.mp hk
    refine ⟨⟨t, ?_, outcome, reason⟩, ?_, ?_, ?_⟩
    · rw [terminals, OrderedDict.get?_set, if_pos rfl]
    · rw [removed.reservations, if_pos rfl]
    · rw [removed.queued, if_pos rfl]
    · rw [removed.claims, if_pos rfl]
  · intro k hk
    have other : k ≠ id := fun same => hk (List.mem_singleton.mpr same)
    refine ⟨?_, ?_, ?_, ?_, ?_, ?_, ?_, ?_⟩
    · rw [removed.reservations, if_neg other]
    · rw [removed.queued, if_neg other]
    · rw [removed.tokens, if_neg other]
    · rw [removed.cancellation, if_neg other]
    · rw [removed.claims, if_neg other]
    · rw [removeIdentity_eq inv on, writeTerminal_responses]
    · rw [terminals, OrderedDict.get?_set, if_neg other]
    · rw [removeIdentity_controlTombstones inv listed]
      split
      · rw [OrderedDict.get?_set, if_neg other]
      · rfl
  · intro m hm
    refine ⟨by rw [nodes.records], by rw [nodes.schedulerStates], by rw [nodes.registrationOrder],
      by rw [nodes.pending], ?_, ?_, by rw [nodes.nodeTombstones],
      by rw [Store.fencesOf, nodes.fences, ← Store.fencesOf]⟩
    · rw [removeIdentity_workOf inv listed, if_neg hm]
    · rw [removed.queue]
      refine List.filter_eq_self.mpr fun q hq => decide_eq_true ?_
      rintro rfl
      obtain ⟨queued, node⟩ := (inv.queue_mem m q).mp hq
      refine hm ?_
      rw [← node, ← on.node, inv.work_unique on.live (v := .queued q) queued]
      rfl

theorem foldl_removeIdentity_torn (l : List Identity) (inv : RequestInv s) (h : Listed s n l) :
    Torn env n p l s (l.foldl (removeIdentity env p now) s) := by
  induction l generalizing s with
  | nil => exact ⟨nofun, fun _ _ => ⟨rfl, rfl, rfl, rfl, rfl, rfl, rfl, rfl⟩,
      fun _ _ => ⟨rfl, rfl, rfl, rfl, rfl, rfl, rfl, rfl⟩⟩
  | cons id l ih =>
    have listed := h.listed id List.mem_cons_self
    have first : Torn env n p [id] s (removeIdentity env p now s id) :=
      removeIdentity_torn inv listed
    have inv₁ : RequestInv (removeIdentity env p now s id) :=
      (removeIdentity_removed inv listed).keeps inv
    have rest : Torn env n p l (removeIdentity env p now s id) _ := ih inv₁ (h.tail inv)
    have fresh := (List.nodup_cons.mp h.distinct).1
    refine ⟨fun k hk => ?_, fun k hk => ?_, fun m hm => (first.nodes m hm).trans (rest.nodes m hm)⟩
    · rcases List.mem_cons.mp hk with rfl | hk
      · exact (rest.others k fresh).endedBy (first.ended k List.mem_cons_self)
      · exact rest.ended k hk
    · obtain ⟨other, hk⟩ := not_or.mp (mt List.mem_cons.mpr hk)
      exact (first.others k (mt List.mem_singleton.mp other)).trans (rest.others k hk)

/-! ## Between two calls -/

/-- A removal by its owner between two calls at one reading, with room for all its work. -/
structure Underway (env : StoreEnv) (now : Epoch) (n : String) (p : PendingNodeTransition)
    (s : Store) : Prop where
  pending : s.pendingNodeTransitions.get? n = some p
  fenced : p.controlCredentialDigest ∈ s.fencesOf p.nodeIdentityDigest
  requests : RequestInv s
  nodes : NodeInv env s
  tombstones : TombstoneInv s
  retained : Retained now s
  removals : RemovalRetained now s
  full : FencesFull s
  room : RoomFor env n (s.workOf n).keys s

theorem TombstoneInv.terminal (inv : TombstoneInv s) (h : id ∈ s.controlTombstones) :
    id ∈ s.terminals := by
  obtain ⟨c, hc⟩ := OrderedDict.mem_def.mp h
  obtain ⟨t, ht, -⟩ := inv id c hc
  exact OrderedDict.mem_of_get? ht

theorem workOf_listed : Listed s n (s.workOf n).keys :=
  ⟨(s.workOf n).nodup, fun _ hk => OrderedDict.mem_keys.mp hk⟩

theorem Underway.step {rest : List Identity} (h : Underway env now n p s)
    (front : (s.workOf n).keys = id :: rest) :
    HasRoom env s id ∧ Underway env now n p (removeIdentity env p now s id) ∧
      ((removeIdentity env p now s id).workOf n).keys = rest := by
  have work : Listed s n (id :: rest) := front ▸ workOf_listed
  have listed := work.listed id List.mem_cons_self
  have room : RoomFor env n (id :: rest) s := front ▸ h.room
  have hasRoom := room.hasRoom h.requests listed
  have terminalizes : ∃ w, LiveOn s n id w ∧ Terminalizes env Any now id w p.status p.reason
      (s.claims.get? id).isSome s (removeIdentity env p now s id) :=
    removeIdentity_terminalizes h.requests listed h.pending hasRoom
  obtain ⟨w, -, terminalizes⟩ := terminalizes
  have sweep : Sweep env Any now s (removeIdentity env p now s id) := .terminalize terminalizes
  have nodes : SameNodes s (removeIdentity env p now s id) := removeIdentity_sameNodes
  have keys : ((removeIdentity env p now s id).workOf n).keys = rest := by
    rw [removeIdentity_workOf h.requests listed, if_pos rfl, OrderedDict.keys_erase, front,
      List.filter_cons_of_neg (by simp)]
    refine List.filter_eq_self.mpr fun k hk => decide_eq_true ?_
    rintro rfl
    exact (List.nodup_cons.mp work.distinct).1 hk
  refine ⟨hasRoom, ⟨?_, ?_, sweep.requestInv h.requests, sweep.nodeInv h.requests h.nodes,
    sweep.tombstoneInv h.tombstones, sweep.retained_fresh h.retained,
    sweep.removalRetained h.removals, ?_, ?_⟩, keys⟩
  · rw [nodes.pending]
    exact h.pending
  · rw [Store.fencesOf, nodes.fences]
    exact h.fenced
  · unfold FencesFull
    rw [nodes.fences]
    exact h.full
  · rw [keys]
    exact room.tail h.requests work fun k hk => h.tombstones.terminal hk

theorem Underway.fold (h : Underway env now n p s) (front : (s.workOf n).keys = done ++ rest) :
    Underway env now n p (done.foldl (removeIdentity env p now) s) ∧
      ((done.foldl (removeIdentity env p now) s).workOf n).keys = rest := by
  induction done generalizing s with
  | nil => exact ⟨h, front⟩
  | cons id done ih =>
    obtain ⟨-, after, keys⟩ := h.step front
    exact ih after keys

theorem Underway.drains {done : List Identity} (h : Underway env now n p s)
    (drains : Drains env p now (nodeBatch env s n) s done s') : done = nodeBatch env s n := by
  obtain ⟨rest, split, blocked⟩ := drains.split
  rcases rest with _ | ⟨k, rest⟩
  · rw [split, List.append_nil]
  · have front : (s.workOf n).keys =
        done ++ k :: (rest ++ (s.workOf n).keys.drop env.config.nodeTransitionBatchSize) := by
      conv_lhs => rw [← List.take_append_drop env.config.nodeTransitionBatchSize (s.workOf n).keys]
      rw [show (s.workOf n).keys.take _ = done ++ k :: rest from split]
      simp
    obtain ⟨after, keys⟩ := h.fold front
    rw [← drains.post] at after keys
    exact absurd (after.step keys).1 (blocked k rfl)

/-! ## One call -/

/-- The call goes on with the removal from the state `s₀`. -/
def Resumes (env : StoreEnv) (c : Call) (n : String) (p : PendingNodeTransition) (s s₀ : Store) :
    Prop :=
  c.run env s = replying .transition (continueTransition env n p c.clock) s₀

/-- A call by the owner. -/
structure OwnerCall (env : StoreEnv) (c : Call) (n owner : String) : Prop where
  op : c.op = .unregisterNodeAndTransitionWork n (some owner) .explicitUnregister
  finite : isfinite c.clock
  valid : c.op.validate env = .ok ()

theorem OwnerCall.run (h : OwnerCall env c n owner) :
    c.run env s = replying .transition
      (transitionNodeLocked env n (some owner) .explicitUnregister c.clock)
        (reapRetainedLocked c.clock s) := by
  obtain ⟨clock, drawn, op⟩ := c
  obtain ⟨rfl, finite, valid⟩ := h
  have called : unregisterNodeAndTransitionWork env clock n (some owner) .explicitUnregister s =
      transitionNodeLocked env n (some owner) .explicitUnregister clock
        (reapRetainedLocked clock s) := publicCall_eq valid finite rfl
  show andThen _ _ s = andThen _ _ _
  unfold andThen
  rw [called]

theorem OwnerCall.resumes_pending (h : OwnerCall env c n owner)
    (hp : s.pendingNodeTransitions.get? n = some p) (explicit : p.cause = .explicitUnregister)
    (owned : p.controlCredentialDigest = owner) :
    Resumes env c n p s (reapRetainedLocked c.clock s) := by
  have pending : (reapRetainedLocked c.clock s).pendingNodeTransitions.get? n = some p := by
    rw [reapRetained_eq]
    exact hp
  have goes : transitionNodeLocked env n (some owner) .explicitUnregister c.clock
      (reapRetainedLocked c.clock s) =
        continueTransition env n p c.clock (reapRetainedLocked c.clock s) := by
    unfold transitionNodeLocked
    show andThen getState _ _ = _
    unfold andThen getState
    dsimp only
    rw [pending]
    dsimp only
    unfold raiseIf
    rw [if_neg (by rw [explicit]; exact not_not.mpr rfl),
      if_neg (by rw [owned]; exact fun both => both.2 rfl)]
    rfl
  unfold Resumes
  rw [h.run]
  show andThen _ _ _ = andThen _ _ _
  unfold andThen
  rw [goes]

theorem OwnerCall.resumes_registered (h : OwnerCall env c n owner)
    {record : ComputeNodeRegistration} (registered : s.records.get? n = some record)
    (owned : record.controlCredentialDigest = owner) (nodes : NodeInv env s)
    (room : RemovalRoom env (reapRetainedLocked c.clock s) record) :
    ∃ s₀, StartsRemoval env c.clock n record .explicitUnregister (reapRetainedLocked c.clock s) s₀ ∧
      Resumes env c n (pendingOf env n record .explicitUnregister c.clock) s s₀ := by
  have idle : (reapRetainedLocked c.clock s).pendingNodeTransitions.get? n = none := by
    rw [reapRetained_eq]
    exact OrderedDict.not_mem_iff.mp (nodes.not_pending n (OrderedDict.mem_of_get? registered))
  have found : (reapRetainedLocked c.clock s).records.get? n = some record := by
    rw [reapRetained_eq]
    exact registered
  have key : record.nodeId = n := nodes.record_key n record registered
  have fence := room.fence
  have tombstone := room.tombstone
  rw [key] at fence tombstone
  refine ⟨_, ⟨found, idle, nofun, room.pending, fence, tombstone, rfl⟩, ?_⟩
  have goes : transitionNodeLocked env n (some owner) .explicitUnregister c.clock
      (reapRetainedLocked c.clock s) =
        continueTransition env n (pendingOf env n record .explicitUnregister c.clock) c.clock
          (startTransition env n record (pendingOf env n record .explicitUnregister c.clock) c.clock
            (reapRetainedLocked c.clock s)) := by
    unfold transitionNodeLocked
    show andThen getState _ _ = _
    unfold andThen getState
    dsimp only
    rw [idle, found]
    dsimp only
    unfold raiseIf
    rw [if_neg (by rw [owned]; exact fun both => both.2 rfl), if_neg (by simp),
      if_neg (not_le.mpr room.pending), if_neg (fun both => fence.elim both.1 (not_lt.mpr both.2)),
      if_neg (fun both => tombstone.elim both.1 (not_lt.mpr both.2))]
    rfl
  unfold Resumes
  rw [h.run]
  show andThen _ _ _ = andThen _ _ _
  unfold andThen
  rw [goes]

/-! ## The calls to the end -/

/-- The results of a sequence of calls. -/
def resultsOf (env : StoreEnv) : List Call → Store → List (Except StoreError Reply)
  | [], _ => []
  | c :: calls, s => c.result env s :: resultsOf env calls (c.next env s)

/-- `max(1, ceil(w / b))`. -/
def callsNeeded (b w : Nat) : Nat := max 1 ((w + b - 1) / b)

theorem callsNeeded_one (few : w ≤ b) (pos : 1 ≤ b) : callsNeeded b w = 1 := by
  unfold callsNeeded
  have small : (w + b - 1) / b ≤ 1 := by
    rw [Nat.div_le_iff_le_mul_add_pred (by omega)]
    omega
  omega

theorem callsNeeded_more (many : b < w) (pos : 1 ≤ b) :
    callsNeeded b w = callsNeeded b (w - b) + 1 := by
  unfold callsNeeded
  have step : (w + b - 1) / b = (w - b + b - 1) / b + 1 := by
    rw [show w + b - 1 = (w - b + b - 1) + b from by omega, Nat.add_div_right _ (by omega)]
  have left : 1 ≤ (w - b + b - 1) / b := (Nat.le_div_iff_mul_le (by omega)).mpr (by omega)
  omega

/-- What the results of the calls add up to. -/
structure Totals (results : List NodeTransitionResult) (l : List Identity) (s : Store) : Prop where
  processed : (results.map (·.processedCount)).sum = l.length
  outcomes : (results.map (·.newOutcomes)).sum = l.length
  reservations : (results.map (·.reservationsTerminalized)).sum = l.countP (· ∈ s.reservations)
  queued : (results.map (·.queuedTerminalized)).sum = l.countP (· ∈ s.queued)
  claims : (results.map (·.claimsTerminalized)).sum = l.countP (· ∈ s.claims)

theorem totals_single {continuation : Bool} :
    Totals [batchResult p (BatchCounts.plus {} s l) continuation] l s := by
  constructor <;> simp [batchResult, BatchCounts.plus]

/-- The totals of the later calls are counted without what the first one has drained. -/
theorem Totals.cons {results : List NodeTransitionResult}
    {b : Bool} (torn : Torn env n p done s s') (distinct : (done ++ rest).Nodup)
    (h : Totals results rest s') :
    Totals (batchResult p (BatchCounts.plus {} s done) b :: results) (done ++ rest) s := by
  have other : ∀ k ∈ rest, SameRecord k s s' := fun k hk =>
    torn.others k fun drained => (List.disjoint_of_nodup_append distinct) drained hk
  have reservations : rest.countP (· ∈ s'.reservations) = rest.countP (· ∈ s.reservations) :=
    List.countP_congr fun k hk => by
      simp only [decide_eq_true_eq, OrderedDict.mem_def, (other k hk).reservations]
  have queued : rest.countP (· ∈ s'.queued) = rest.countP (· ∈ s.queued) :=
    List.countP_congr fun k hk => by
      simp only [decide_eq_true_eq, OrderedDict.mem_def, (other k hk).queued]
  have claims : rest.countP (· ∈ s'.claims) = rest.countP (· ∈ s.claims) :=
    List.countP_congr fun k hk => by
      simp only [decide_eq_true_eq, OrderedDict.mem_def, (other k hk).claims]
  constructor
  · simp [h.processed, batchResult, BatchCounts.plus]
  · simp [h.outcomes, batchResult, BatchCounts.plus]
  · simp [h.reservations, reservations, batchResult, BatchCounts.plus]
  · simp [h.queued, queued, batchResult, BatchCounts.plus]
  · simp [h.claims, claims, batchResult, BatchCounts.plus]

/-- What a call does with a removal that has room for all its work. -/
theorem Underway.call (h : Underway env now n p s) (finite : isfinite now) :
    Ends (continueTransition env n p now) s fun r s' =>
      let done := nodeBatch env s n
      let s₁ := done.foldl (removeIdentity env p now) s
      ((s₁.workOf n).entries ≠ [] ∧
        r = .ok (batchResult p (BatchCounts.plus {} s done) true) ∧ s' = s₁) ∨
      ((s₁.workOf n).entries = [] ∧
        r = .ok (batchResult p (BatchCounts.plus {} s done) false) ∧
        ∃ authority, s' = completeTransition env n p now authority s₁) := by
  have fits : isfiniteSum (now + env.config.terminalRetentionSeconds) :=
    isfiniteSum_add finite (le_of_lt (retention_pos env)) env.durations.retention.2
  refine (continueTransition_drains h.requests h.pending).mono ?_
  intro r s' continues
  obtain ⟨result, rfl⟩ := continues.ok fits h.fenced
  generalize answer : Except.ok result = r at continues
  cases continues with
  | goesOn drains left =>
    obtain rfl := h.drains drains
    rw [drains.post] at left
    exact .inl ⟨left, rfl, drains.post⟩
  | finishes drains emptied _ =>
    obtain rfl := h.drains drains
    rw [drains.post] at emptied
    exact .inr ⟨emptied, rfl, _, by rw [drains.post]⟩
  | raises _ _ _ => cases answer

theorem Resumes.ends (h : Resumes env c n p s s₀)
    {Q : Except StoreError NodeTransitionResult → Store → Prop}
    (ended : Ends (continueTransition env n p c.clock) s₀ Q) :
    ∃ r, Q r (c.next env s) ∧ c.result env s = r.map .transition := by
  have ended' : Ends (replying .transition (continueTransition env n p c.clock)) s₀
      fun r s' => ∃ r', Q r' s' ∧ r = r'.map .transition :=
    ends_replying.mpr (ended.mono fun r s' h => ⟨r, h, rfl⟩)
  unfold Call.result Call.next
  rw [h]
  exact ended'

theorem calls_complete (collisionFree : env.runtime.CollisionFree)
    (h : OwnerCall env c n owner) (explicit : p.cause = .explicitUnregister)
    (owned : p.controlCredentialDigest = owner) (l : List Identity)
    (resumes : Resumes env c n p s s₀) (under : Underway env c.clock n p s₀)
    (keys : (s₀.workOf n).keys = l) :
    ∃ results authority,
      resultsOf env (List.replicate (callsNeeded env.config.nodeTransitionBatchSize l.length) c) s =
        results.map (fun r => .ok (.transition r)) ∧
      results.map (·.state) =
        List.replicate (callsNeeded env.config.nodeTransitionBatchSize l.length - 1)
          TransitionState.transitioning ++ [.complete] ∧
      Totals results l s₀ ∧
      runs env (List.replicate (callsNeeded env.config.nodeTransitionBatchSize l.length) c) s =
        completeTransition env n p c.clock authority
          (l.foldl (removeIdentity env p c.clock) s₀) := by
  induction size : l.length using Nat.strong_induction_on generalizing l s s₀ with
  | _ w ih =>
    subst size
    obtain ⟨r, outcome, result⟩ := resumes.ends (under.call h.finite)
    have pos := batchSize_pos env
    have split : (s₀.workOf n).keys =
        nodeBatch env s₀ n ++ l.drop env.config.nodeTransitionBatchSize := by
      rw [nodeBatch, keys, List.take_append_drop]
    have parts : nodeBatch env s₀ n ++ l.drop env.config.nodeTransitionBatchSize = l :=
      split.symm.trans keys
    obtain ⟨after, left⟩ := under.fold split
    have emptied : (((nodeBatch env s₀ n).foldl (removeIdentity env p c.clock) s₀).workOf n).entries =
        [] ↔ l.length ≤ env.config.nodeTransitionBatchSize := by
      rw [← List.drop_eq_nil_iff, ← left]
      exact List.map_eq_nil_iff.symm
    rcases outcome with ⟨more, rfl, next⟩ | ⟨none, rfl, authority, next⟩
    · -- work is left: the next call goes on in the state that this one leaves
      have many := not_le.mp (mt emptied.mpr more)
      rw [callsNeeded_more many pos, List.replicate_succ]
      rw [← next] at after left
      have same : reapRetainedLocked c.clock (c.next env s) = c.next env s :=
        reapRetained_eq_self collisionFree after.nodes after.retained after.removals after.full
      have again : Resumes env c n p (c.next env s) (c.next env s) := by
        have resumed := h.resumes_pending after.pending explicit owned
        rwa [same] at resumed
      have shorter : (l.drop env.config.nodeTransitionBatchSize).length < l.length := by
        rw [List.length_drop]
        omega
      obtain ⟨results, authority, told, states, totals, final⟩ :=
        ih _ shorter _ again after left rfl
      rw [List.length_drop] at told states final
      refine ⟨batchResult p (BatchCounts.plus {} s₀ (nodeBatch env s₀ n)) true :: results, authority,
        ?_, ?_, ?_, ?_⟩
      · rw [resultsOf, told, result]
        rfl
      · rw [List.map_cons, states, Nat.add_sub_cancel]
        have one : 1 ≤ callsNeeded env.config.nodeTransitionBatchSize
            (l.length - env.config.nodeTransitionBatchSize) := le_max_left ..
        obtain ⟨k, hk⟩ := Nat.exists_eq_add_of_le one
        rw [hk, Nat.add_comm 1 k, Nat.add_sub_cancel, List.replicate_succ, List.cons_append]
        rfl
      · have torn : Torn env n p (nodeBatch env s₀ n) s₀ (c.next env s) := by
          rw [next]
          exact foldl_removeIdentity_torn _ under.requests nodeBatch_listed
        have whole : Totals (_ :: results)
            (nodeBatch env s₀ n ++ l.drop env.config.nodeTransitionBatchSize) s₀ :=
          totals.cons (b := true) torn (split ▸ (s₀.workOf n).nodup)
        rwa [parts] at whole
      · show runs env _ (c.next env s) = _
        calc runs env _ (c.next env s)
            = completeTransition env n p c.clock authority
                ((nodeBatch env s₀ n ++ l.drop env.config.nodeTransitionBatchSize).foldl
                  (removeIdentity env p c.clock) s₀) := by rw [final, List.foldl_append, ← next]
          _ = _ := by rw [parts]
    · have few := emptied.mp none
      have all : nodeBatch env s₀ n = l := by
        rw [nodeBatch, keys, List.take_of_length_le few]
      rw [all] at result next
      rw [callsNeeded_one few pos]
      refine ⟨[batchResult p (BatchCounts.plus {} s₀ l) false], authority, ?_, rfl, totals_single, next⟩
      show [c.result env s] = _
      rw [result]
      rfl

/-! ## From the first call on -/

/-- Every started removal gives the same reason. -/
def PendingReasons (s : Store) : Prop :=
  ∀ n p, s.pendingNodeTransitions.get? n = some p → p.reason = .serverUnregistered

theorem Reachable.pendingReasons (h : Reachable env s) : PendingReasons s := by
  refine h.invariant (I := PendingReasons) nofun (fun now a b step inv => ?_) ?_
  · rcases step.registry with ⟨-, -, pending⟩ | ⟨m, record, cause, starts⟩ | ⟨m, p, a, finishes⟩
    · unfold PendingReasons
      rw [pending]
      exact inv
    · intro n p hp
      rw [starts.post] at hp
      have found := (OrderedDict.get?_set ..).symm.trans hp
      split at found
      · cases found
        rfl
      · exact inv n p found
    · intro n q hq
      rw [finishes.post] at hq
      exact inv n q ((some_of_removed fun k => OrderedDict.get?_erase ..).mp hq).2
  · intro now drawn op a r b commit inv
    unfold PendingReasons
    rw [commit.pending]
    exact inv

/-- The owner can remove the node: it is registered and the tables that its removal needs have
room, or its removal was started by its owner. -/
inductive Removable (env : StoreEnv) (now : Epoch) (n owner : String) (s : Store) : Prop
  | registered {record : ComputeNodeRegistration} : s.records.get? n = some record →
      record.controlCredentialDigest = owner →
      RemovalRoom env (reapRetainedLocked now s) record → Removable env now n owner s
  | pending {p : PendingNodeTransition} : s.pendingNodeTransitions.get? n = some p →
      p.cause = .explicitUnregister → p.controlCredentialDigest = owner →
      Removable env now n owner s

/-- Where the first call starts to take work off the node. -/
structure FirstCall (env : StoreEnv) (c : Call) (n owner : String) (p : PendingNodeTransition)
    (s s₀ : Store) : Prop where
  resumes : Resumes env c n p s s₀
  under : Underway env c.clock n p s₀
  explicit : p.cause = .explicitUnregister
  owned : p.controlCredentialDigest = owner
  outcome : p.status = .cancelled ∧ p.reason = .serverUnregistered
  digest : p.nodeIdentityDigest = nodeDigest env n
  records : ∀ id, SameRecord id (reapRetainedLocked c.clock s) s₀
  nodes : ∀ m, m ≠ n → SameNode env m (reapRetainedLocked c.clock s) s₀
  work : s₀.workOf n = s.workOf n
  tables : s₀.reservations = s.reservations ∧ s₀.queued = s.queued ∧ s₀.claims = s.claims

theorem Reachable.firstCall (collisionFree : env.runtime.CollisionFree)
    (reachable : Reachable env s) (h : OwnerCall env c n owner)
    (removable : Removable env c.clock n owner s)
    (room : RoomFor env n (s.workOf n).keys (reapRetainedLocked c.clock s)) :
    ∃ p s₀, FirstCall env c n owner p s s₀ := by
  have reaped : Sweep env Any c.clock s (reapRetainedLocked c.clock s) := .reapRetained s
  obtain ⟨requests, nodes⟩ :=
    (Sweeps.one reaped).nodeInv reachable.requestInv reachable.nodeInv
  have fenced : PendingFenced (reapRetainedLocked c.clock s) :=
    reaped.pendingFenced collisionFree reachable.nodeInv (reachable.pendingFenced collisionFree)
  have tombstones := reaped.tombstoneInv reachable.tombstoneInv
  have work : (reapRetainedLocked c.clock s).workOf n = s.workOf n := by
    rw [reapRetained_eq]
    rfl
  have tables : (reapRetainedLocked c.clock s).reservations = s.reservations ∧
      (reapRetainedLocked c.clock s).queued = s.queued ∧
      (reapRetainedLocked c.clock s).claims = s.claims := by
    rw [reapRetained_eq]
    exact ⟨rfl, rfl, rfl⟩
  rw [← work] at room
  cases removable with
  | @pending p hp explicit owned =>
    have hp' : (reapRetainedLocked c.clock s).pendingNodeTransitions.get? n = some p := by
      rw [reapRetained_eq]
      exact hp
    exact ⟨p, _, h.resumes_pending hp explicit owned,
      ⟨hp', fenced n p hp', requests, nodes, tombstones, retained_reapRetained,
        removalRetained_reapRetained, fencesFull_reapRetained, room⟩,
      explicit, owned, ⟨reachable.pendingCancels n p hp, reachable.pendingReasons n p hp⟩,
      nodes.pending_key n p hp', fun _ => ⟨rfl, rfl, rfl, rfl, rfl, rfl, rfl, rfl⟩,
      fun _ _ => ⟨rfl, rfl, rfl, rfl, rfl, rfl, rfl, rfl⟩, work, tables⟩
  | registered registered owned removalRoom =>
    obtain ⟨s₀, starts, resumes⟩ :=
      h.resumes_registered registered owned reachable.nodeInv removalRoom
    have sweep : Sweep env Any c.clock _ s₀ := .startRemoval starts
    refine ⟨_, s₀, resumes, ⟨starts.pending, starts.fenced, sweep.requestInv requests,
      sweep.nodeInv requests nodes, sweep.tombstoneInv tombstones,
      sweep.retained_fresh retained_reapRetained, sweep.removalRetained removalRetained_reapRetained,
      ?_, ?_⟩, rfl, owned, ⟨rfl, rfl⟩, rfl, ?_, ?_, ?_, ?_⟩
    · rw [starts.post]
      exact startTransition_fencesFull fencesFull_reapRetained
    · rw [starts.post]
      exact ⟨room.terminals, room.clients, room.tombstones, room.nodes⟩
    · intro id
      rw [starts.post]
      exact ⟨rfl, rfl, rfl, rfl, rfl, rfl, rfl, rfl⟩
    · intro m hm
      have other : nodeDigest env m ≠ nodeDigest env n := fun same =>
        hm (nodeDigest_injective collisionFree same)
      rw [starts.post]
      refine ⟨(OrderedDict.get?_erase ..).trans (if_neg hm),
        (OrderedDict.get?_erase ..).trans (if_neg hm),
        (OrderedDict.get?_erase ..).trans (if_neg hm), (OrderedDict.get?_set ..).trans (if_neg hm),
        rfl, rfl, (OrderedDict.get?_set ..).trans (if_neg other), ?_⟩
      exact fencesOf_set.trans (if_neg other)
    · rw [starts.post]
      exact work
    · rw [starts.post]
      exact tables

theorem completeTransition_record :
    SameRecord id s (completeTransition env n p now authority s) :=
  ⟨rfl, rfl, rfl, rfl, rfl, rfl, rfl, rfl⟩

theorem completeTransition_node (collisionFree : env.runtime.CollisionFree)
    (digest : p.nodeIdentityDigest = nodeDigest env n)
    (hm : m ≠ n) : SameNode env m s (completeTransition env n p now authority s) := by
  have other : nodeDigest env m ≠ p.nodeIdentityDigest := fun same =>
    hm (nodeDigest_injective collisionFree (same.trans digest))
  refine ⟨rfl, rfl, rfl, (OrderedDict.get?_erase ..).trans (if_neg hm), rfl, rfl, ?_,
    fencesOf_set.trans (if_neg other)⟩
  unfold completeTransition
  dsimp only
  split
  · rw [OrderedDict.get?_set, if_neg other]
  · rfl

/-! ## What is on the node -/

/-- The keys of a list that a table holds are the entries of the table that belong to it. -/
theorem countP_mem_eq_count {V : Type} {d : OrderedDict Identity V}
    {q : V → Bool} (distinct : l.Nodup)
    (belongs : ∀ k v, d.get? k = some v → (k ∈ l ↔ q v = true)) :
    l.countP (· ∈ d) = d.count fun _ v => q v := by
  have same : (l.filter (· ∈ d)).Perm ((d.entries.filter fun e => q e.2).map Prod.fst) := by
    refine (List.perm_ext_iff_of_nodup (distinct.filter _)
      (d.nodup.sublist (List.filter_sublist.map _))).mpr fun k => ?_
    rw [List.mem_filter, List.mem_map, decide_eq_true_eq]
    constructor
    · rintro ⟨hk, hd⟩
      obtain ⟨v, hv⟩ := OrderedDict.mem_def.mp hd
      exact ⟨(k, v), List.mem_filter.mpr ⟨OrderedDict.mem_entries.mpr hv, (belongs k v hv).mp hk⟩, rfl⟩
    · rintro ⟨⟨k', v⟩, hm, rfl⟩
      obtain ⟨hm, hq⟩ := List.mem_filter.mp hm
      have hv := OrderedDict.mem_entries.mp hm
      exact ⟨(belongs k' v hv).mpr hq, OrderedDict.mem_of_get? hv⟩
  unfold OrderedDict.count
  rw [List.countP_eq_length_filter, same.length_eq, List.length_map, List.countP_eq_length_filter]

theorem RequestInv.work_counts (inv : RequestInv s) (n : String) :
    (s.workOf n).keys.countP (· ∈ s.reservations) = reservationCount s n ∧
    ((s.workOf n).keys.countP (· ∈ s.queued) = s.queued.count fun _ q => q.selectedNodeId = n) ∧
    ((s.workOf n).keys.countP (· ∈ s.claims) = s.claims.count fun _ c => c.selectedNodeId = n) ∧
    (s.workOf n).size =
      reservationCount s n + s.queued.count fun _ q => q.selectedNodeId = n := by
  have on_node : ∀ {k w}, s.HasWork k w → (k ∈ (s.workOf n).keys ↔ w.selectedNodeId = n) := by
    intro k w hw
    rw [OrderedDict.mem_keys, inv.work_mem]
    refine ⟨fun ⟨v, hv, node⟩ => ?_, fun node => ⟨w, hw, node⟩⟩
    rw [inv.work_unique hw hv]
    exact node
  have reservations : (s.workOf n).keys.countP (· ∈ s.reservations) = reservationCount s n :=
    countP_mem_eq_count (s.workOf n).nodup fun k r hr => by
      rw [on_node (w := .reservation r) hr, decide_eq_true_eq]
      rfl
  have queued : (s.workOf n).keys.countP (· ∈ s.queued) =
      s.queued.count fun _ q => q.selectedNodeId = n :=
    countP_mem_eq_count (s.workOf n).nodup fun k q hq => by
      rw [on_node (w := .queued q) hq, decide_eq_true_eq]
      rfl
  refine ⟨reservations, queued, ?_, ?_⟩
  · refine countP_mem_eq_count (s.workOf n).nodup fun k c hc => ?_
    obtain ⟨q, hq, node, -⟩ := inv.claim_queued k c hc
    rw [on_node (w := .queued q) hq, decide_eq_true_eq, node]
    rfl
  · rw [← reservations, ← queued]
    have parts := List.length_eq_countP_add_countP (fun k => decide (k ∈ s.reservations))
      (l := (s.workOf n).keys)
    have rest : (s.workOf n).keys.countP (fun k => decide ¬decide (k ∈ s.reservations) = true) =
        (s.workOf n).keys.countP (· ∈ s.queued) := List.countP_congr fun k hk => by
      obtain ⟨w, hw, -⟩ := (inv.work_mem n k).mp (OrderedDict.mem_keys.mp hk)
      simp only [decide_eq_true_eq]
      exact ⟨fun free => hw.mem.resolve_left free, fun hq hr => inv.reservation_not_queued k hr hq⟩
    rw [rest] at parts
    rw [← parts]
    exact (List.length_map _).symm

end

/-- The state after the calls differs from the one that retention leaves by the end of the
node and of its work. -/
structure TornDown (env : StoreEnv) (now : Epoch) (n : String) (s s' : Store) : Prop where
  ended : ∀ id, id ∈ s.workOf n →
    (∃ t, s'.terminals.get? id = some t ∧ t.outcome = .cancelled ∧ t.reason = .serverUnregistered) ∧
    s'.reservations.get? id = none ∧ s'.queued.get? id = none ∧ s'.claims.get? id = none
  pending : n ∉ s'.pendingNodeTransitions
  records : ∀ id, id ∉ s.workOf n → SameRecord id (reapRetainedLocked now s) s'
  nodes : ∀ m, m ≠ n → SameNode env m (reapRetainedLocked now s) s'

/-- One identity a batch. -/
def singleEnv : StoreEnv :=
  sampleEnv { namespace_ := "relay", nodeTransitionBatchSize := 1 } (by decide +kernel)

/-- A node with two reservations. -/
def busyNode : List Call :=
  [registration, reserving "client-1" "request-1", reserving "client-2" "request-2"]

/-- Its owner removes it, at 2. -/
def unregistering (n : String) : Call :=
  sampleCall 2 (.unregisterNodeAndTransitionWork n (some credentialA) .explicitUnregister)

/-- One removal at a time. -/
def onePendingEnv : StoreEnv :=
  sampleEnv { namespace_ := "relay", nodeTransitionBatchSize := 1, maxPendingNodeTransitions := 1 }
    (by decide +kernel)

/-- Two nodes with two reservations each; the removal of the first one has started. -/
def secondBusyNode : List Call :=
  [registration, sampleCall 1 (.register "node-b" sampleCapabilities credentialA),
   reserving "client-1" "request-1", reserving "client-2" "request-2",
   reserving "client-3" "request-3", reserving "client-4" "request-4", unregistering "node-a"]

end StateStore
