import TokenPlace.StateStore.Deadlines

/-!
# A second reap changes nothing

`_reap_locked` reclaims what is retained too long, terminalizes what is due,
removes the nodes whose lease has run out, and drops short reservations. When it
returns normally it has left nothing to do at the same clock reading:

* nothing retained is over (`Retained`, `RemovalRetained`, `FencesFull`);
* what is due was refused by a bound that is still reached (`DueDeferred`);
* no registration has expired, and a lapsed reservation waits for its deadline.

`Quiet` is all of this. `Quiet.reapLocked` says that a quiet state is a fixed point
of the reaper, `reapLocked_quiet` that the reaper leaves a quiet state.
-/

namespace StateStore

open Method

section

variable {env : StoreEnv} {P : TerminalPolicy} {now : Epoch} {s s' : Store} {id : Identity}

/-! ## What a removal retains -/

/-- A started removal still needs the fence. -/
def Needed (s : Store) (digest owner : String) : Prop :=
  ∃ n p, s.pendingNodeTransitions.get? n = some p ∧ p.nodeIdentityDigest = digest ∧
    p.controlCredentialDigest = owner

/-- No node tombstone and no fence is over at this reading. -/
structure RemovalRetained (now : Epoch) (s : Store) : Prop where
  tombstones : ∀ d t, s.nodeTombstones.get? d = some t → now < t.expiresAtEpoch
  fences : ∀ digest owner a, (s.fencesOf digest).get? owner = some a →
    now < a.expiresAtEpoch ∨ Needed s digest owner

/-- No node has an empty dictionary of fences. -/
def FencesFull (s : Store) : Prop :=
  ∀ digest d, s.formerNodeAuthorities.get? digest = some d → d.entries ≠ []

variable {r : ComputeNodeRegistration} {p : PendingNodeTransition} {n : String}
  {record : ComputeNodeRegistration} {l : List (Identity × Work)} {digest owner : String}
  {status : Outcome} {reason : Reason} {w : Work} {c : Call} {s₁ : Store}

theorem needed_of_pendingOwner (h : pendingOwner s digest = some owner) :
    Needed s digest owner := by
  obtain ⟨p, found, rfl⟩ := Option.map_eq_some_iff.mp h
  obtain ⟨n, hn⟩ := OrderedDict.mem_values.mp
    (List.mem_reverse.mp (List.mem_of_find?_eq_some found))
  exact ⟨n, p, hn, by simpa using List.find?_some found, rfl⟩

theorem pendingOwner_of_needed (collisionFree : env.runtime.CollisionFree) (inv : NodeInv env s)
    (h : Needed s digest owner) : pendingOwner s digest = some owner := by
  obtain ⟨n, p, hp, rfl, rfl⟩ := h
  exact pendingOwner_of_pending collisionFree inv hp

theorem removalRetained_reapRetained : RemovalRetained now (reapRetainedLocked now s) := by
  constructor
  · intro d t found
    rw [reapRetained_nodeTombstones, OrderedDict.get?_filter] at found
    simpa using (Option.filter_eq_some_iff.mp found).2
  · intro digest owner a found
    rw [reapRetained_fence] at found
    refine (of_decide_eq_true (Option.filter_eq_some_iff.mp found).2).imp_right fun needed => ?_
    obtain ⟨n, p, hp, rest⟩ := needed_of_pendingOwner needed
    exact ⟨n, p, by rw [reapRetained_eq]; exact hp, rest⟩

theorem fencesFull_reapRetained : FencesFull (reapRetainedLocked now s) := by
  intro digest d found
  rw [reapRetained_formerNodeAuthorities, OrderedDict.get?_filter] at found
  exact of_decide_eq_true (Option.filter_eq_some_iff.mp found).2

theorem RemovalRetained.of_same (h : RemovalRetained now s)
    (tombstones : s'.nodeTombstones = s.nodeTombstones)
    (fences : s'.formerNodeAuthorities = s.formerNodeAuthorities)
    (pending : s'.pendingNodeTransitions = s.pendingNodeTransitions) : RemovalRetained now s' := by
  refine ⟨by rw [tombstones]; exact h.tombstones, fun digest owner a found => ?_⟩
  unfold Needed
  rw [pending]
  refine h.fences digest owner a ?_
  unfold Store.fencesOf at found ⊢
  rw [← fences]
  exact found

theorem SameNodes.removalRetained (nodes : SameNodes s s') (h : RemovalRetained now s) :
    RemovalRetained now s' :=
  h.of_same nodes.nodeTombstones nodes.fences nodes.pending

/-- A removal that starts writes a fresh tombstone and a fresh fence. -/
theorem StartsRemoval.removalRetained
    {cause : Cause} (h : StartsRemoval env now n record cause s s')
    (kept : RemovalRetained now s) : RemovalRetained now s' := by
  rw [h.post]
  constructor
  · intro d t found
    have found := (OrderedDict.get?_set ..).symm.trans found
    split at found
    · cases found
      exact lt_min (lt_add_of_pos_right now (lt_of_lt_of_le (by norm_num)
        env.durations.nodeTombstone.1)) (lt_add_of_pos_right now (by norm_num))
    · exact kept.tombstones d t found
  · intro digest owner a found
    have still : ∀ {digest owner : String}, Needed s digest owner →
        Needed (startTransition env n record (pendingOf env n record cause now) now s)
          digest owner := by
      rintro _ _ ⟨m, p, hp, rest⟩
      have other : m ≠ n := by
        rintro rfl
        rw [h.not_pending] at hp
        cases hp
      exact ⟨m, p, (OrderedDict.get?_set ..).trans ((if_neg other).trans hp), rest⟩
    have fences : Store.fencesOf
        (startTransition env n record (pendingOf env n record cause now) now s) digest =
        if digest = nodeDigest env n then
          (s.fencesOf (nodeDigest env n)).set record.controlCredentialDigest
            ⟨record.controlCredentialDigest, cause, .cancelled, now,
              now + env.config.terminalRetentionSeconds⟩
        else s.fencesOf digest := fencesOf_set
    rw [fences] at found
    split at found
    · next same =>
      rw [OrderedDict.get?_set] at found
      split at found
      · cases found
        exact .inl (lt_add_of_pos_right now (retention_pos env))
      · exact (kept.fences digest owner a (same ▸ found)).imp_right still
    · exact (kept.fences digest owner a found).imp_right still

theorem FinishesRemoval.removalRetained {authority : FormerNodeAuthority}
    (h : FinishesRemoval env now n p authority s s') (kept : RemovalRetained now s) :
    RemovalRetained now s' := by
  rw [h.post]
  constructor
  · intro d t found
    dsimp only at found
    split at found
    · next tombstone stored =>
      rw [OrderedDict.get?_set] at found
      split at found
      · cases found
        exact kept.tombstones _ tombstone stored
      · exact kept.tombstones d t found
    · exact kept.tombstones d t found
  · intro digest owner a found
    have found : (Store.fencesOf { s with
        formerNodeAuthorities := s.formerNodeAuthorities.set p.nodeIdentityDigest
          ((s.fencesOf p.nodeIdentityDigest).set p.controlCredentialDigest
            { authority with expiresAtEpoch := now + env.config.terminalRetentionSeconds }) }
        digest).get? owner = some a := found
    rw [fencesOf_set] at found
    -- a fence that another removal needs is the fence of another node
    have still : ∀ {owner : String}, Needed s digest owner →
        digest ≠ p.nodeIdentityDigest ∨ owner ≠ p.controlCredentialDigest →
        ∃ m q, (s.pendingNodeTransitions.erase n).get? m = some q ∧
          q.nodeIdentityDigest = digest ∧ q.controlCredentialDigest = owner := by
      rintro _ ⟨m, q, hq, rfl, rfl⟩ differs
      have other : m ≠ n := by
        rintro rfl
        rw [h.pending] at hq
        cases hq
        rcases differs with different | different
        · exact different rfl
        · exact different rfl
      exact ⟨m, q, (OrderedDict.get?_erase ..).trans ((if_neg other).trans hq), rfl, rfl⟩
    split at found
    · next same =>
      rw [OrderedDict.get?_set] at found
      split at found
      · cases found
        exact .inl (lt_add_of_pos_right now (retention_pos env))
      · next other =>
        exact (kept.fences digest owner a (same ▸ found)).imp_right fun needed =>
          still needed (.inr other)
    · next other =>
      exact (kept.fences digest owner a found).imp_right fun needed => still needed (.inl other)

theorem Sweep.removalRetained (h : Sweep env P now s s') (kept : RemovalRetained now s) :
    RemovalRetained now s' := by
  cases h with
  | reapRetained => exact removalRetained_reapRetained
  | terminalize h =>
    rw [h.post]
    exact writeTerminal_sameNodes.removalRetained kept
  | defer h => exact kept.of_same (by rw [h.post]) (by rw [h.post]) (by rw [h.post])
  | lapse h => exact kept.of_same (by rw [h.post]; rfl) (by rw [h.post]; rfl) (by rw [h.post]; rfl)
  | startRemoval h | finishRemoval h => exact h.removalRetained kept
  | discardWork h =>
    exact kept.of_same (by rw [h.post]; rfl) (by rw [h.post]; rfl) (by rw [h.post]; rfl)
  | touchFences h =>
    rw [h.post]
    refine ⟨kept.tombstones, fun digest owner a found => kept.fences digest owner a ?_⟩
    rw [fencesOf_set] at found
    split at found
    · next same => exact same ▸ found
    · exact found

theorem reapRetained_eq_self (collisionFree : env.runtime.CollisionFree) (inv : NodeInv env s)
    (retained : Retained now s) (removals : RemovalRetained now s) (full : FencesFull s) :
    reapRetainedLocked now s = s := by
  have inner : ∀ e ∈ s.formerNodeAuthorities.entries,
      (e.2.filter fun owner a => ¬(a.expiresAtEpoch ≤ now ∧ pendingOwner s e.1 ≠ some owner)) =
        e.2 := by
    rintro ⟨digest, d⟩ member
    have stored := OrderedDict.mem_entries.mp member
    refine OrderedDict.filter_eq_self fun ⟨owner, a⟩ inside => decide_eq_true ?_
    have found : (s.fencesOf digest).get? owner = some a := by
      unfold Store.fencesOf
      rw [stored]
      exact OrderedDict.mem_entries.mp inside
    rintro ⟨elapsed, unneeded⟩
    rcases removals.fences digest owner a found with fresh | needed
    · exact absurd elapsed (not_le.mpr fresh)
    · exact unneeded (pendingOwner_of_needed collisionFree inv needed)
  unfold reapRetainedLocked
  rw [Retained.foldl_reapResponse _ retained.responses]
  dsimp only
  rw [OrderedDict.filter_eq_self fun e member => decide_eq_true (not_le.mpr (retained.terminals e member)),
    OrderedDict.filter_eq_self fun e member => decide_eq_true (not_le.mpr (retained.tombstones e member)),
    OrderedDict.filter_eq_self fun e member => decide_eq_true
      (not_le.mpr (removals.tombstones e.1 e.2 (OrderedDict.mem_entries.mp member))),
    OrderedDict.mapValues_eq_self inner,
    OrderedDict.filter_eq_self fun e member => decide_eq_true (full e.1 e.2 (OrderedDict.mem_entries.mp member))]

/-! ## The fences that a removal writes -/

/-- A removal that goes on for one batch leaves no empty dictionary of fences. -/
theorem Continues.fencesFull {a : NodeTransitionResult}
    (h : Continues env n p now s (.ok a) s') (full : FencesFull s) : FencesFull s' := by
  have drained : ∀ {l done s₁}, Drains env p now l s done s₁ → FencesFull s₁ := fun drains => by
    unfold FencesFull
    rw [drains.sameNodes.fences]
    exact full
  cases h with
  | goesOn drains _ => exact drained drains
  | finishes drains _ _ =>
    intro digest d found
    -- the entry of the removed node holds the fence that was refreshed
    have found := (OrderedDict.get?_set ..).symm.trans found
    split at found
    · cases found
      exact OrderedDict.entries_set_ne_nil
    · exact drained drains digest d found

theorem startTransition_fencesFull (full : FencesFull s) :
    FencesFull (startTransition env n record p now s) := by
  intro digest d found
  have found := (OrderedDict.get?_set ..).symm.trans found
  split at found
  · cases found
    exact OrderedDict.entries_set_ne_nil
  · exact full digest d found

/-! ## The eviction of the expired registrations -/

theorem Sweep.records (h : Sweep env P now s s')
    (found : s'.records.get? n = some r) : s.records.get? n = some r := by
  cases h with
  | reapRetained => rwa [reapRetained_eq] at found
  | terminalize h =>
    rw [h.post, writeTerminal_sameNodes.records] at found
    exact found
  | defer h | lapse h | discardWork h | touchFences h | finishRemoval h => rwa [h.post] at found
  | startRemoval h =>
    rw [h.post] at found
    have found := (OrderedDict.get?_erase ..).symm.trans found
    split at found
    · cases found
    · exact found

theorem Sweeps.records (h : Sweeps env P now s s') :
    s'.records.get? n = some r → s.records.get? n = some r :=
  h.keeps (I := fun s' => s'.records.get? n = some r → s.records.get? n = some r)
    (fun _ _ step kept found => kept (step.records found)) id

/-- An eviction that returns has removed its registration and left no empty
dictionary of fences. -/
theorem Evicts.gone (h : Evicts env now r s (.ok ()) s')
    (full : FencesFull s) : s'.records.get? r.nodeId = none ∧ FencesFull s' := by
  generalize ended : (Except.ok () : Except StoreError Unit) = answer at h
  cases h with
  | full _ _ => cases ended
  | @starts result s₁ _ _ starts continues =>
    cases result with
    | error e => cases ended
    | ok a =>
      have full₁ : FencesFull s₁ := by
        rw [starts.post]
        exact startTransition_fencesFull full
      refine ⟨?_, continues.fencesFull full₁⟩
      rw [continues.sameRecords, starts.post]
      exact (OrderedDict.get?_erase ..).trans (if_pos rfl)

theorem forEach_evictLocked_gone (l : List ComputeNodeRegistration) (requests : RequestInv s)
    (inv : NodeInv env s) (visit : ToEvict now l s) (full : FencesFull s) :
    Ends (forEach l (evictLocked env now)) s fun result s' => result = .ok () →
      (∀ r ∈ l, s'.records.get? r.nodeId = none) ∧ FencesFull s' ∧ Sweeps env Any now s s' := by
  induction l generalizing s with
  | nil => exact fun _ => ⟨nofun, full, Sweeps.refl s⟩
  | cons r l ih =>
    have evicts := evictLocked_evicts requests inv (visit.registered r List.mem_cons_self)
      (visit.expired r List.mem_cons_self)
    have ended : Ends (evictLocked env now r) s fun _ s' =>
        Sweeps env Any now s s' ∧ OtherNodes r.nodeId s s' := evictLocked_others r
    refine ends_bind.mpr ((Ends.and evicts ended).mono ?_)
    rintro (e | _) s₁ ⟨evicts, sweeps, others⟩
    · exact nofun
    obtain ⟨first, full₁⟩ := evicts.gone full
    have rest : ToEvict now l s₁ := visit.tail others
    obtain ⟨requests₁, inv₁⟩ := sweeps.nodeInv requests inv
    rw [follow_ok]
    refine (ih requests₁ inv₁ rest full₁).mono ?_
    intro result s' finished returned
    obtain ⟨others_gone, full', sweeps'⟩ := finished returned
    refine ⟨fun q hq => ?_, full', sweeps.trans sweeps'⟩
    rcases List.mem_cons.mp hq with rfl | hq
    · refine Option.eq_none_iff_forall_ne_some.mpr fun found registered => ?_
      cases first.symm.trans (sweeps'.records registered)
    · exact others_gone q hq

/-! ## The due lifecycles -/

/-- A bound stops the deadline of the lifecycle. -/
def Stuck (env : StoreEnv) (now : Epoch) (s : Store) (id : Identity) (w : Work) : Prop :=
  terminalCapacityReached env s id.1 ∨ ∃ c ∈ tombstoneClaim s id w .expired now false,
    controlTombstoneCapacityReached env s c.selectedNodeId

/-- Every due lifecycle is still to be visited, or it was deferred and is still stuck. -/
structure DueDeferred (env : StoreEnv) (now : Epoch) (l : List (Identity × Work)) (s : Store) :
    Prop where
  tombstones : ∀ id, id ∈ s.controlTombstones → id ∈ s.terminals
  due : ∀ id w, s.HasWork id w → w.requestDeadlineEpoch ≤ now →
    (id, w) ∈ l ∨ (id ∈ s.deferredDeadlineIdentities ∧ Stuck env now s id w)
  listed : ∀ id w, (id, w) ∈ l → w.requestDeadlineEpoch ≤ now ∧
    (id ∈ s.terminals ∨ s.HasWork id w)

theorem DueDeferred.of_same (h : DueDeferred env now l s) (terminals : s'.terminals = s.terminals)
    (tombstones : s'.controlTombstones = s.controlTombstones) (claims : s'.claims = s.claims)
    (deferred : s.deferredDeadlineIdentities ⊆ s'.deferredDeadlineIdentities)
    (work : ∀ id w, s'.HasWork id w → s.HasWork id w)
    (listed : ∀ id w, (id, w) ∈ l → s.HasWork id w → s'.HasWork id w) :
    DueDeferred env now l s' := by
  refine ⟨by rw [tombstones, terminals]; exact h.tombstones, fun id w hw hd => ?_, ?_⟩
  · refine (h.due id w (work id w hw) hd).imp_right fun ⟨defers, stuck⟩ => ⟨deferred defers, ?_⟩
    unfold Stuck terminalCapacityReached controlTombstoneCapacityReached tombstoneClaim
    rw [terminals, tombstones, claims]
    exact stuck
  · intro id w hm
    rw [terminals]
    exact ⟨(h.listed id w hm).1, (h.listed id w hm).2.imp_right (listed id w hm)⟩

theorem Stuck.writeTerminal {k : Identity} {w v : Work}
    {claim : Option ClaimRecord} (stuck : Stuck env now s id w) (hk : k ∉ s.terminals)
    (tombstones : ∀ k, k ∈ s.controlTombstones → k ∈ s.terminals) (hne : id ≠ k) :
    Stuck env now (writeTerminal env k v status reason now claim s) id w := by
  refine stuck.imp (terminalCapacity_mono hk) fun ⟨c, hc, full⟩ => ⟨c, ?_, ?_⟩
  · have same : (StateStore.writeTerminal env k v status reason now claim s).claims.get? id =
        s.claims.get? id := by
      rw [writeTerminal_claims, if_neg fun hc => hne hc.1]
    unfold tombstoneClaim at hc ⊢
    rw [same]
    exact hc
  · exact controlCapacity_mono (.inl fun hm => hk (tombstones k hm)) full

theorem Terminalizes.dueDeferred {force : Bool}
    {l l' : List (Identity × Work)} (ht : Terminalizes env P now id w status reason force s s')
    (h : DueDeferred env now l s) (rest : ∀ k v, k ≠ id → (k, v) ∈ l → (k, v) ∈ l')
    (fewer : l' ⊆ l) : DueDeferred env now l' s' := by
  refine ⟨fun k hk => ?_, fun k v hv hd => ?_, fun k v hm => ?_⟩
  · rw [ht.post, writeTerminal_terminals, OrderedDict.mem_set]
    rw [ht.post, writeTerminal_controlTombstones] at hk
    cases hc : tombstoneClaim s id w status now force with
    | none =>
      rw [hc] at hk
      exact .inr (h.tombstones k hk)
    | some c =>
      rw [hc] at hk
      exact (OrderedDict.mem_set.mp hk).imp_right (h.tombstones k)
  · rw [ht.post] at hv ⊢
    obtain ⟨hne, hv⟩ := writeTerminal_hasWork.mp hv
    refine (h.due k v hv hd).imp (rest k v hne) fun ⟨defers, stuck⟩ => ?_
    refine ⟨?_, stuck.writeTerminal ht.not_terminal h.tombstones hne⟩
    rw [writeTerminal_deferred]
    exact Finset.mem_erase.mpr ⟨hne, defers⟩
  · obtain ⟨hd, hk⟩ := h.listed k v (fewer hm)
    refine ⟨hd, ?_⟩
    rw [ht.post, writeTerminal_terminals, OrderedDict.mem_set, writeTerminal_hasWork]
    rcases hk with terminal | live
    · exact .inl (.inr terminal)
    · exact (eq_or_ne k id).imp .inl fun hne => ⟨hne, live⟩

theorem expireDue_deferred (requests : RequestInv s) (h : DueDeferred env now ((id, w) :: l) s) :
    Ends (expireDue env now (id, w)) s fun r s' => r = .ok () ∧ Sweeps env Any now s s' ∧
      DueDeferred env now l s' := by
  obtain ⟨hd, hid⟩ := h.listed id w List.mem_cons_self
  have rest : ∀ k v, k ≠ id → (k, v) ∈ (id, w) :: l → (k, v) ∈ l := by
    intro k v hne hm
    refine (List.mem_cons.mp hm).resolve_left fun same => hne ?_
    exact (Prod.mk.inj same).1
  unfold expireDue
  simp only [ends_bind, ends_getState, follow_ok]
  rw [ends_ite]
  constructor
  · rintro ⟨not_terminal, -⟩
    have live : s.HasWork id w := hid.resolve_left not_terminal
    rw [ends_catching, ends_bind]
    refine terminalizeLocked_ends.mono ?_
    intro r s₁ outcome
    cases outcome with
    | full kind full =>
      simp only [follow_error, ends_ite, kind, ends_modifyState, forall_const, not_true,
        false_implies, and_true]
      refine ⟨trivial, .one (.defer ⟨live, hd, rfl⟩), h.tombstones, fun k v hv due => ?_, ?_⟩
      · have hv : s.HasWork k v := by cases v <;> exact hv
        rcases h.due k v hv due with hm | ⟨defers, stuck⟩
        · rcases List.mem_cons.mp hm with same | hm
          · cases same
            exact .inr ⟨Finset.mem_insert_self .., full⟩
          · exact .inl hm
        · exact .inr ⟨Finset.mem_insert_of_mem defers, stuck⟩
      · intro k v hm
        obtain ⟨due, hk⟩ := h.listed k v (List.mem_cons_of_mem _ hm)
        exact ⟨due, hk.imp_right fun hv => by cases v <;> exact hv⟩
    | done room tombstones =>
      simp only [follow_ok, ends_pure]
      have terminalizes : Terminalizes env Any now id w .expired .requestDeadlineExpired false s _ :=
        ⟨.deadline hd, trivial, live, not_terminal, room, tombstones, rfl⟩
      exact ⟨trivial, .one (.terminalize terminalizes),
        terminalizes.dueDeferred h rest (List.subset_cons_self ..)⟩
  · intro skip
    have terminal : id ∈ s.terminals := by
      by_contra not_terminal
      exact skip ⟨not_terminal, (hid.resolve_left not_terminal).mem⟩
    refine ends_pure.mpr ⟨rfl, Sweeps.refl s, h.tombstones, fun k v hv due => ?_, ?_⟩
    · refine (h.due k v hv due).imp_left (rest k v ?_)
      rintro rfl
      exact requests.live_not_terminal k v hv terminal
    · exact fun k v hm => h.listed k v (List.mem_cons_of_mem _ hm)

theorem forEach_expireDue_deferred (l : List (Identity × Work)) (requests : RequestInv s)
    (h : DueDeferred env now l s) :
    Ends (forEach l (expireDue env now)) s fun r s' => r = .ok () ∧ Sweeps env Any now s s' ∧
      DueDeferred env now [] s' := by
  induction l generalizing s with
  | nil => exact ⟨rfl, Sweeps.refl s, h⟩
  | cons e l ih =>
    refine ends_bind.mpr ((expireDue_deferred requests h).mono ?_)
    rintro _ s₁ ⟨rfl, sweeps, tracked⟩
    have requests₁ : RequestInv s₁ := sweeps.keeps (fun _ _ step => step.requestInv) requests
    rw [follow_ok]
    exact (ih requests₁ tracked).mono fun r s' ⟨ok, sweeps', tracked'⟩ =>
      ⟨ok, sweeps.trans sweeps', tracked'⟩

/-- The later phases of the reaper leave what is deferred stuck. -/
theorem Sweep.dueDeferred (h : Sweep env P now s s') (retained : Retained now s)
    (tracked : DueDeferred env now [] s) : DueDeferred env now [] s' := by
  have work := h.shrinks.work
  cases h with
  | reapRetained =>
    obtain ⟨terminals, tombstones⟩ := retained.reapRetained
    exact tracked.of_same terminals tombstones reapRetained_sameRequests.claims
      (by rw [reapRetained_eq]) work nofun
  | terminalize h => exact h.dueDeferred tracked nofun (List.Subset.refl _)
  | defer h =>
    exact tracked.of_same (by rw [h.post]) (by rw [h.post]) (by rw [h.post])
      (by rw [h.post]; exact Finset.subset_insert ..) work nofun
  | lapse h | startRemoval h | discardWork h =>
    exact tracked.of_same (by rw [h.post]; rfl) (by rw [h.post]; rfl) (by rw [h.post]; rfl)
      (by rw [h.post]; exact Finset.Subset.refl _) work nofun
  | touchFences h | finishRemoval h =>
    exact tracked.of_same (by rw [h.post]) (by rw [h.post]) (by rw [h.post])
      (by rw [h.post]) work nofun

/-! ## The short reservations -/

theorem foldl_reapReservation_same (l : List (Identity × ReservationRecord)) :
    (l.foldl (reapReservation now) s).deferredDeadlineIdentities = s.deferredDeadlineIdentities ∧
      (l.foldl (reapReservation now) s).formerNodeAuthorities = s.formerNodeAuthorities := by
  induction l generalizing s with
  | nil => exact ⟨rfl, rfl⟩
  | cons e l ih =>
    obtain ⟨deferred, fences⟩ := ih (s := reapReservation now s e)
    rw [List.foldl_cons, deferred, fences]
    unfold reapReservation
    split <;> exact ⟨rfl, rfl⟩

theorem reapReservation_gone {e : Identity × ReservationRecord}
    (h : s.reservations.get? id = none) :
    (reapReservation now s e).reservations.get? id = none := by
  unfold reapReservation
  split
  · refine (OrderedDict.get?_erase ..).trans ?_
    rw [h, ite_self]
  · exact h

theorem foldl_reapReservation_gone (l : List (Identity × ReservationRecord))
    (h : s.reservations.get? id = none ∨ ∃ r, (id, r) ∈ l ∧ r.reservationExpiresAtEpoch ≤ now ∧
      id ∉ s.deferredDeadlineIdentities) :
    (l.foldl (reapReservation now) s).reservations.get? id = none := by
  induction l generalizing s with
  | nil => exact h.resolve_right fun ⟨_, listed, _⟩ => nomatch listed
  | cons e l ih =>
    refine ih (h.elim (fun gone => .inl (reapReservation_gone gone)) ?_)
    rintro ⟨r, listed, lapsed, kept⟩
    rcases List.mem_cons.mp listed with rfl | listed
    · refine .inl ?_
      unfold reapReservation
      rw [if_pos ⟨lapsed, kept⟩]
      exact (OrderedDict.get?_erase ..).trans (if_pos rfl)
    · have same : (reapReservation now s e).deferredDeadlineIdentities =
          s.deferredDeadlineIdentities := (foldl_reapReservation_same [e]).1
      exact .inr ⟨r, listed, lapsed, same ▸ kept⟩

theorem reapReservations_lapsed (env : StoreEnv) {r : ReservationRecord} (s : Store)
    (found : (s.reservations.entries.foldl (reapReservation now) s).reservations.get? id = some r)
    (lapsed : r.reservationExpiresAtEpoch ≤ now) :
    id ∈ (s.reservations.entries.foldl (reapReservation now) s).deferredDeadlineIdentities := by
  have lapses : Sweeps env Any now s (s.reservations.entries.foldl (reapReservation now) s) :=
    reapReservations_sweeps _ s.reservations.nodup fun id r hm => OrderedDict.mem_entries.mp hm
  have same : (s.reservations.entries.foldl (reapReservation now)
      s).deferredDeadlineIdentities = s.deferredDeadlineIdentities :=
    (foldl_reapReservation_same _).1
  by_contra kept
  have listed := OrderedDict.mem_entries.mpr (lapses.shrinks.work id (.reservation r) found)
  have dropped : (s.reservations.entries.foldl (reapReservation now) s).reservations.get? id =
      none := foldl_reapReservation_gone _ (.inr ⟨r, listed, lapsed, same ▸ kept⟩)
  cases dropped.symm.trans found

theorem reapLocked_lapsed : Ends (reapLocked env now) s fun r s' => r = .ok () →
    ∀ id r, s'.reservations.get? id = some r → r.reservationExpiresAtEpoch ≤ now →
      id ∈ s'.deferredDeadlineIdentities := by
  unfold StateStore.reapLocked
  simp only [ends_bind, ends_modifyState, ends_getState, follow_ok]
  have anything : ∀ {α : Type} (m : StoreM α) (s : Store), Ends m s fun _ _ => True :=
    fun _ _ => trivial
  refine (anything _ _).mono ?_
  rintro (e | _) s₂ -
  · simp
  rw [follow_ok, ends_bind]
  refine (anything _ _).mono ?_
  rintro (e | _) s₃ -
  · simp
  rw [follow_ok, ends_modifyState]
  exact fun _ id r found lapsed => reapReservations_lapsed env s₃ found lapsed

/-! ## A quiet state -/

/-- The reaper has nothing left to do at this reading. -/
structure Quiet (env : StoreEnv) (now : Epoch) (s : Store) : Prop where
  retained : reapRetainedLocked now s = s
  due : ∀ id w, s.HasWork id w → w.requestDeadlineEpoch ≤ now →
    id ∉ s.terminals ∧ id ∈ s.deferredDeadlineIdentities ∧ Stuck env now s id w
  leases : ∀ n r, s.records.get? n = some r → now < r.leaseExpiresAtEpoch
  reservations : ∀ id r, s.reservations.get? id = some r → r.reservationExpiresAtEpoch ≤ now →
    id ∈ s.deferredDeadlineIdentities

theorem expireDue_stuck (live : s.HasWork id w) (fresh : id ∉ s.terminals)
    (deferred : id ∈ s.deferredDeadlineIdentities) (stuck : Stuck env now s id w) :
    expireDue env now (id, w) s = (.ok (), s) := by
  have ended : Ends (expireDue env now (id, w)) s fun r s' => (r, s') = (.ok (), s) := by
    unfold expireDue
    simp only [ends_bind, ends_getState, follow_ok, ends_ite]
    refine ⟨fun _ => ?_, fun skip => absurd ⟨fresh, live.mem⟩ skip⟩
    rw [ends_catching, ends_bind]
    refine terminalizeLocked_ends.mono ?_
    intro r s₁ outcome
    cases outcome with
    | full kind _ =>
      simp only [follow_error, ends_ite, kind, ends_modifyState, forall_const, not_true,
        false_implies, and_true]
      rw [Finset.insert_eq_of_mem deferred]
    | done room tombstones =>
      rcases stuck with full | ⟨c, hc, full⟩
      · exact absurd full room
      · exact absurd full (tombstones c hc)
  exact ended

theorem Quiet.forEach_expireDue (h : Quiet env now s) (l : List (Identity × Work))
    (listed : ∀ id w, (id, w) ∈ l → s.HasWork id w ∧ w.requestDeadlineEpoch ≤ now) :
    forEach l (expireDue env now) s = (.ok (), s) := by
  induction l with
  | nil => rfl
  | cons e l ih =>
    obtain ⟨id, w⟩ := e
    obtain ⟨live, due⟩ := listed id w List.mem_cons_self
    obtain ⟨fresh, deferred, stuck⟩ := h.due id w live due
    show andThen (expireDue env now (id, w)) _ s = _
    unfold andThen
    rw [expireDue_stuck live fresh deferred stuck]
    exact ih fun k v hm => listed k v (List.mem_cons_of_mem _ hm)

theorem Quiet.foldl_reapReservation (h : Quiet env now s) (l : List (Identity × ReservationRecord))
    (listed : ∀ id r, (id, r) ∈ l → s.reservations.get? id = some r) :
    l.foldl (reapReservation now) s = s := by
  induction l with
  | nil => rfl
  | cons e l ih =>
    obtain ⟨id, r⟩ := e
    have first : reapReservation now s (id, r) = s := if_neg fun ⟨lapsed, kept⟩ =>
      kept (h.reservations id r (listed id r List.mem_cons_self) lapsed)
    rw [List.foldl_cons, first]
    exact ih fun k v hm => listed k v (List.mem_cons_of_mem _ hm)

theorem Quiet.expiredRecords (h : Quiet env now s) : expiredRecords s now = [] := by
  refine List.eq_nil_iff_forall_not_mem.mpr fun r member => ?_
  unfold StateStore.expiredRecords at member
  rw [List.mem_insertionSort, List.mem_filter, decide_eq_true_eq] at member
  obtain ⟨n, found⟩ := OrderedDict.mem_values.mp member.1
  exact absurd member.2 (not_le.mpr (h.leases n r found))

theorem Quiet.reapLocked (h : Quiet env now s) : reapLocked env now s = (.ok (), s) := by
  have deadlines := h.forEach_expireDue (dueWork s now) fun id w hm => dueWork_spec.mp hm
  have ended : Ends (StateStore.reapLocked env now) s fun r s' => (r, s') = (.ok (), s) := by
    unfold StateStore.reapLocked expireLocked
    simp only [ends_bind, ends_modifyState, follow_ok, ends_getState, h.retained]
    unfold Ends
    rw [deadlines]
    simp only [follow_ok, ends_bind, ends_modifyState, ends_getState, h.retained, h.expiredRecords]
    exact congrArg (Prod.mk _)
      (h.foldl_reapReservation _ fun id r hm => OrderedDict.mem_entries.mp hm)
  exact ended

theorem reapLocked_quiet (collisionFree : env.runtime.CollisionFree) (requests : RequestInv s)
    (inv : NodeInv env s) (tombstones : TombstoneInv s) :
    Ends (reapLocked env now) s fun r s' => r = .ok () → Quiet env now s' := by
  have reaped : Sweeps env Any now s (reapRetainedLocked now s) := .one (.reapRetained s)
  obtain ⟨requests₁, inv₁⟩ := reaped.nodeInv requests inv
  have tracked : DueDeferred env now (dueWork (reapRetainedLocked now s) now)
      (reapRetainedLocked now s) := by
    refine ⟨fun id hid => ?_, fun id w hw hd => .inl (dueWork_spec.mpr ⟨hw, hd⟩), fun id w hm => ?_⟩
    · obtain ⟨c, hc⟩ := OrderedDict.mem_def.mp hid
      obtain ⟨t, ht, -⟩ := reapRetained_tombstoneInv tombstones id c hc
      exact OrderedDict.mem_of_get? ht
    · exact ⟨(dueWork_spec.mp hm).2, .inr (dueWork_spec.mp hm).1⟩
  unfold reapLocked expireLocked
  simp only [ends_bind, ends_modifyState, ends_getState, follow_ok]
  refine (forEach_expireDue_deferred _ requests₁ tracked).mono ?_
  rintro _ s₂ ⟨rfl, deadlines, tracked₂⟩
  have retained₂ : Retained now s₂ :=
    deadlines.keeps (fun _ _ step => step.retained_fresh) retained_reapRetained
  obtain ⟨requests₂, inv₂⟩ := deadlines.nodeInv requests₁ inv₁
  -- the lease sweep starts from a second retention at the same reading
  have again : Sweep env Any now s₂ (reapRetainedLocked now s₂) := .reapRetained s₂
  obtain ⟨requests₃, inv₃⟩ := (Sweeps.one again).nodeInv requests₂ inv₂
  rw [follow_ok]
  simp only [ends_bind, ends_modifyState, ends_getState, follow_ok]
  refine (forEach_evictLocked_gone _ requests₃ inv₃ (expiredRecords_toEvict inv₃)
    fencesFull_reapRetained).mono ?_
  rintro (e | _) s₄ finished
  · simp
  obtain ⟨gone, full₄, evictions⟩ := finished rfl
  simp only [follow_ok, Bool.false_eq_true, if_false, ends_pure, ends_modifyState, forall_const]
  -- what the last loop leaves
  have lapses : Sweeps env Any now s₄ (s₄.reservations.entries.foldl (reapReservation now) s₄) :=
    reapReservations_sweeps _ s₄.reservations.nodup fun id r hm => OrderedDict.mem_entries.mp hm
  have same_fences : (s₄.reservations.entries.foldl (reapReservation now)
      s₄).formerNodeAuthorities = s₄.formerNodeAuthorities := (foldl_reapReservation_same _).2
  have late := evictions.trans lapses
  obtain ⟨requests₅, inv₅⟩ := late.nodeInv requests₃ inv₃
  have settled : Retained now _ ∧ DueDeferred env now [] _ :=
    (Sweeps.one again |>.trans late).keeps (I := fun s => Retained now s ∧ DueDeferred env now [] s)
      (fun _ _ step kept => ⟨step.retained_fresh kept.1, step.dueDeferred kept.1 kept.2⟩)
      ⟨retained₂, tracked₂⟩
  have removals : RemovalRetained now _ :=
    late.keeps (fun _ _ step => step.removalRetained) removalRetained_reapRetained
  constructor
  · refine reapRetained_eq_self collisionFree inv₅ settled.1 removals ?_
    unfold FencesFull
    rw [same_fences]
    exact full₄
  · intro id w hw hd
    refine ⟨requests₅.live_not_terminal id w hw, ?_⟩
    exact (settled.2.due id w hw hd).resolve_left (by simp)
  · intro n r found
    refine not_le.mp fun elapsed => ?_
    have registered := evictions.records (lapses.records found)
    have listed : r ∈ expiredRecords (reapRetainedLocked now s₂) now := by
      unfold StateStore.expiredRecords
      rw [List.mem_insertionSort, List.mem_filter, decide_eq_true_eq]
      exact ⟨OrderedDict.mem_values.mpr ⟨n, registered⟩, elapsed⟩
    have erased := gone r listed
    rw [inv₃.record_key n r registered, lapses.records found] at erased
    cases erased
  · exact fun id r found lapsed => reapReservations_lapsed env s₄ found lapsed

/-! ## Reads at one reading -/

/-- The methods that only read what the reaper leaves. -/
def Op.onlyReads : Op → Bool
  | .listReservations => true
  | .queuedRequests _ => true
  | .activeClaims _ => true
  | .responseRecords => true
  | .terminalRecords => true
  | .controlTombstones => true
  | .nodeTombstones => true
  | _ => false

/-- A read checks its arguments, reaps, and answers from what the reaper left. -/
structure ReadsWith (env : StoreEnv) (c : Call) (answer : Store → Reply) : Prop where
  invalid : ∀ e s, c.op.validate env = .error e → c.run env s = (.error e, s)
  valid : ∀ s s', c.op.validate env = .ok () → reapLocked env c.clock s = (.ok (), s') →
    c.run env s = (.ok (answer s'), s')

theorem readsWith_publicCall {α : Type} {f : α → Reply} {read : Epoch → Store → α}
    (finite : isfinite c.clock)
    (run : c.run env = replying f (publicCall c.clock (c.op.validate env) (reapLocked env)
      fun _ now => do
        let s ← getState
        return read now s)) :
    ReadsWith env c fun s => f (read c.clock s) := by
  constructor
  · intro e s invalid
    rw [run, invalid]
    rfl
  · intro s s' valid reaped
    rw [run]
    show andThen _ _ s = _
    unfold andThen
    rw [publicCall_eq valid finite reaped]
    rfl

theorem readsWith_of_onlyReads (env : StoreEnv) (finite : isfinite c.clock)
    (reads : c.op.onlyReads = true) : ∃ answer, ReadsWith env c answer := by
  obtain ⟨clock, drawn, op⟩ := c
  cases op with
  | listReservations | queuedRequests n | activeClaims n | responseRecords | terminalRecords
  | controlTombstones | nodeTombstones => exact ⟨_, readsWith_publicCall finite rfl⟩
  | _ => cases reads

theorem ReadsWith.stable {answer : Store → Reply}
    (h : ReadsWith env c answer) (first : reapLocked env c.clock s = (.ok (), s₁))
    (again : reapLocked env c.clock s₁ = (.ok (), s₁)) {t : Store} (state : t = s ∨ t = s₁) :
    c.result env t = c.result env s ∧
      c.next env t = if c.op.validate env = .ok () then s₁ else t := by
  unfold Call.result Call.next
  cases checked : c.op.validate env with
  | error e =>
    rw [h.invalid e t checked, h.invalid e s checked]
    exact ⟨rfl, rfl⟩
  | ok _ =>
    have reaped : reapLocked env c.clock t = (.ok (), s₁) := by
      rcases state with rfl | rfl
      · exact first
      · exact again
    rw [h.valid t s₁ checked reaped, h.valid s s₁ checked first]
    exact ⟨rfl, rfl⟩

theorem runs_reads (finite : isfinite now)
    (first : reapLocked env now s = (.ok (), s₁)) (again : reapLocked env now s₁ = (.ok (), s₁))
    (reads : List Call) (all : ∀ c ∈ reads, c.clock = now ∧ c.op.onlyReads = true) :
    runs env reads s = if ∃ c ∈ reads, c.op.validate env = .ok () then s₁ else s := by
  induction reads using List.reverseRecOn with
  | nil => exact (if_neg fun ⟨_, listed, _⟩ => nomatch listed).symm
  | append_singleton reads c ih =>
    have before := ih fun k hk => all k (List.mem_append_left _ hk)
    obtain ⟨rfl, onlyReads⟩ := all c (List.mem_append_right _ List.mem_cons_self)
    obtain ⟨answer, reading⟩ := readsWith_of_onlyReads env finite onlyReads
    have state : runs env reads s = s ∨ runs env reads s = s₁ := by
      rw [before]
      split
      · exact .inr rfl
      · exact .inl rfl
    rw [runs_snoc, (reading.stable first again state).2, before]
    simp only [List.mem_append, List.mem_singleton, or_and_right, exists_or, exists_eq_left]
    by_cases valid : c.op.validate env = .ok ()
    · rw [if_pos valid, if_pos (.inr valid)]
    · simp only [valid, if_false, or_false]

end

/-- The state that the reaper leaves when the lease of the node runs out. -/
def leaseOver : Store :=
  (reapLocked defaultEnv 31 (stateAfter defaultEnv (registration :: admission 100))).2

end StateStore
