import TokenPlace.StateStore.Atomicity
import TokenPlace.StateStore.Batches
import TokenPlace.StateStore.Lifecycles
import TokenPlace.StateStore.NodeSide

/-!
# When the housekeeping raises

The deadline reaper defers a lifecycle that no bound lets it terminalize. The
lease sweep does not: an expired registration whose removal finds a table full
raises out of whatever call the sweep runs in.

* `EvictsFreely`: every expired registration finds room at its turn;
* `Op.housekeeping_result`: the housekeeping of a call raises exactly otherwise;
* `available_iff`: the same for the calls.
-/

namespace StateStore

open Method

/-- The tables that the removal of a registration needs have room. -/
structure RemovalRoom (env : StoreEnv) (s : Store) (r : ComputeNodeRegistration) : Prop where
  pending : s.pendingNodeTransitions.size < env.config.maxPendingNodeTransitions
  fence : r.controlCredentialDigest ∈ s.fencesOf (nodeDigest env r.nodeId) ∨
    fenceCount s < env.config.maxRemovedOwnerFences
  tombstone : nodeDigest env r.nodeId ∈ s.nodeTombstones ∨
    s.nodeTombstones.size < env.config.maxNodeTombstones

instance (env : StoreEnv) (s : Store) (r : ComputeNodeRegistration) :
    Decidable (RemovalRoom env s r) :=
  decidable_of_iff (s.pendingNodeTransitions.size < env.config.maxPendingNodeTransitions ∧
    (r.controlCredentialDigest ∈ s.fencesOf (nodeDigest env r.nodeId) ∨
      fenceCount s < env.config.maxRemovedOwnerFences) ∧
    (nodeDigest env r.nodeId ∈ s.nodeTombstones ∨
      s.nodeTombstones.size < env.config.maxNodeTombstones))
    ⟨fun h => ⟨h.1, h.2.1, h.2.2⟩, fun h => ⟨h.pending, h.fence, h.tombstone⟩⟩

/-- Every registration of the list finds room when the sweep comes to it. -/
def EvictsFreely (env : StoreEnv) (now : Epoch) : List ComputeNodeRegistration → Store → Prop
  | [], _ => True
  | r :: rest, s => RemovalRoom env s r ∧ EvictsFreely env now rest (evictLocked env now r s).2

instance decidableEvictsFreely (env : StoreEnv) (now : Epoch) :
    (l : List ComputeNodeRegistration) → (s : Store) → Decidable (EvictsFreely env now l s)
  | [], _ => isTrue trivial
  | r :: rest, s =>
    have := decidableEvictsFreely env now rest (evictLocked env now r s).2
    inferInstanceAs (Decidable (RemovalRoom env s r ∧
      EvictsFreely env now rest (evictLocked env now r s).2))

/-- The state in which the deadline reaper leaves the lease sweep to start. -/
def deadlinesReaped (env : StoreEnv) (now : Epoch) (s : Store) : Store :=
  (forEach (dueWork (reapRetainedLocked now s) now) (expireDue env now)
    (reapRetainedLocked now s)).2

/-- The state in which the lease sweep of a call starts. -/
def Op.sweepStart (env : StoreEnv) (now : Epoch) (s : Store) : Op → Store
  | .register .. => reapRetainedLocked now (reapRetainedLocked now s)
  | .renew .. => reapRetainedLocked now s
  | .get _ => reapRetainedLocked now s
  | .list => reapRetainedLocked now s
  | .setSchedulerState .. => reapRetainedLocked now s
  | .expire => reapRetainedLocked now s
  | _ => reapRetainedLocked now (deadlinesReaped env now s)

/-- The call runs a lease sweep before its body. -/
def Op.sweepsLeases : Op → Bool
  | .expire => false
  | .unregister .. => false
  | .unregisterNodeAndTransitionWork .. => false
  | _ => true

section

variable {env : StoreEnv} {now : Epoch} {s s' : Store}

/-! ## One eviction -/

/-- How the eviction of an expired registration ends: a bound stops it before its removal
starts, or its removal starts and goes on for one batch. -/
inductive Evicts (env : StoreEnv) (now : Epoch) (r : ComputeNodeRegistration) (s : Store) :
    Except StoreError Unit → Store → Prop
  | full {e : StoreError} : ¬RemovalRoom env s r → e.kind = .capacityExceeded →
      Evicts env now r s (.error e) s
  | starts {result : Except StoreError NodeTransitionResult} {s₁ s' : Store} :
      RemovalRoom env s r → StartsRemoval env now r.nodeId r .registrationLeaseExpired s s₁ →
      Continues env r.nodeId (pendingOf env r.nodeId r .registrationLeaseExpired now) now s₁
        result s' →
      Evicts env now r s (discarding result) s'

variable {r : ComputeNodeRegistration} {record : ComputeNodeRegistration} {cause : Cause}
  {n : String}

theorem StartsRemoval.pending (h : StartsRemoval env now n record cause s s') :
    s'.pendingNodeTransitions.get? n = some (pendingOf env n record cause now) := by
  rw [h.post]
  exact (OrderedDict.get?_set ..).trans (if_pos rfl)

theorem StartsRemoval.fenced (h : StartsRemoval env now n record cause s s') :
    record.controlCredentialDigest ∈ s'.fencesOf (nodeDigest env n) := by
  rw [h.post]
  unfold startTransition
  rw [Store.fencesOf, OrderedDict.get?_set, if_pos rfl]
  exact OrderedDict.mem_set.mpr (.inl rfl)

theorem evictLocked_evicts (requests : RequestInv s)
    (inv : NodeInv env s) (registered : s.records.get? r.nodeId = some r)
    (expired : r.leaseExpiresAtEpoch ≤ now) :
    Ends (evictLocked env now r) s (Evicts env now r s) := by
  have idle : s.pendingNodeTransitions.get? r.nodeId = none := by
    have present : r.nodeId ∈ s.records := OrderedDict.mem_of_get? registered
    exact OrderedDict.not_mem_iff.mp (inv.not_pending _ present)
  unfold evictLocked transitionNodeLocked
  simp only [ends_bind, ends_getState, follow_ok, idle, registered]
  simp only [reduceCtorEq, false_and, ends_raiseIf, ends_bind, follow_ok, follow_error,
    false_implies, true_and, not_false_eq_true, forall_const, not_lt.mpr expired, and_false,
    if_false, ends_modifyState]
  refine ⟨fun full => .full (fun room => ?_) rfl, fun pendingRoom => ?_⟩
  · exact absurd room.pending (not_lt.mpr full)
  refine ⟨fun full => .full (fun room => ?_) rfl, fun fenceRoom => ?_⟩
  · exact room.fence.elim full.1 (not_lt.mpr full.2)
  refine ⟨fun full => .full (fun room => ?_) rfl, fun tombstoneRoom => ?_⟩
  · exact room.tombstone.elim full.1 (not_lt.mpr full.2)
  rw [not_and_or, not_not, not_le] at fenceRoom tombstoneRoom
  have starts : StartsRemoval env now r.nodeId r .registrationLeaseExpired s _ :=
    ⟨registered, idle, fun _ => expired, not_le.mp pendingRoom, fenceRoom, tombstoneRoom, rfl⟩
  refine (continueTransition_drains ((Sweep.startRemoval (P := Any) starts).requestInv requests)
    starts.pending).mono ?_
  have room : RemovalRoom env s r := ⟨not_le.mp pendingRoom, fenceRoom, tombstoneRoom⟩
  rintro (e | result) s' continues
  · exact .starts room starts continues
  · exact .starts room starts continues

theorem evictLocked_result (finite : isfinite now)
    (requests : RequestInv s) (inv : NodeInv env s) (registered : s.records.get? r.nodeId = some r)
    (expired : r.leaseExpiresAtEpoch ≤ now) :
    Ends (evictLocked env now r) s fun result _ =>
      (RemovalRoom env s r ∧ result = .ok ()) ∨
      (¬RemovalRoom env s r ∧ ∃ e, result = .error e ∧ e.kind = .capacityExceeded) := by
  refine (evictLocked_evicts requests inv registered expired).mono ?_
  intro result s' evicts
  cases evicts with
  | full blocked kind => exact .inr ⟨blocked, _, rfl, kind⟩
  | starts room starts continues =>
    have fits : isfiniteSum (now + env.config.terminalRetentionSeconds) :=
      isfiniteSum_add finite (le_of_lt (retention_pos env)) env.durations.retention.2
    obtain ⟨_, rfl⟩ := continues.ok fits starts.fenced
    exact .inl ⟨room, rfl⟩

/-! ## The sweep -/

/-- The registrations that the sweep still has to visit. -/
structure ToEvict (now : Epoch) (l : List ComputeNodeRegistration) (s : Store) : Prop where
  registered : ∀ r ∈ l, s.records.get? r.nodeId = some r
  expired : ∀ r ∈ l, r.leaseExpiresAtEpoch ≤ now
  distinct : (l.map (·.nodeId)).Nodup

theorem expiredRecords_toEvict (inv : NodeInv env s) : ToEvict now (expiredRecords s now) s := by
  have mem : ∀ r, r ∈ expiredRecords s now ↔ r ∈ s.records.values ∧ r.leaseExpiresAtEpoch ≤ now := by
    intro r
    unfold expiredRecords
    rw [List.mem_insertionSort, List.mem_filter, decide_eq_true_eq]
  refine ⟨fun r hr => ?_, fun r hr => ((mem r).mp hr).2, ?_⟩
  · obtain ⟨n, hn⟩ := OrderedDict.mem_values.mp ((mem r).mp hr).1
    rw [inv.record_key n r hn]
    exact hn
  · have keys : s.records.values.map (·.nodeId) = s.records.keys := by
      unfold OrderedDict.values OrderedDict.keys
      rw [List.map_map]
      refine List.map_congr_left fun e he => ?_
      exact inv.record_key e.1 e.2 (OrderedDict.mem_entries.mp he)
    have nodup : (s.records.values.map (·.nodeId)).Nodup := keys ▸ s.records.nodup
    unfold expiredRecords
    refine ((List.perm_insertionSort _ _).map _).nodup_iff.mpr ?_
    exact nodup.sublist (List.filter_sublist.map _)

theorem evictLocked_others (r : ComputeNodeRegistration) :
    Ends (evictLocked env now r) s fun _ s' =>
      Sweeps env Any now s s' ∧ OtherNodes r.nodeId s s' := by
  refine ends_bind_of (transitionNodeLocked_ends (P := Any) (J := fun _ => True)
    (Q := fun _ => True) (fun _ _ _ _ => trivial) (fun _ _ _ _ _ _ _ _ => trivial) trivial
    fun _ _ _ _ => trivial) ?_ ?_
  · exact fun _ s' outcome => ends_pure.mpr ⟨outcome.sweeps, outcome.others⟩
  · exact fun _ s' outcome => ⟨outcome.sweeps, outcome.others⟩

theorem ToEvict.tail {l : List ComputeNodeRegistration}
    (visit : ToEvict now (r :: l) s) (others : OtherNodes r.nodeId s s') : ToEvict now l s' := by
  have distinct := List.nodup_cons.mp (List.map_cons ▸ visit.distinct)
  refine ⟨fun q hq => ?_, fun q hq => visit.expired q (List.mem_cons_of_mem r hq), distinct.2⟩
  have hne : q.nodeId ≠ r.nodeId := fun heq => distinct.1 (heq ▸ List.mem_map_of_mem hq)
  rw [others.records _ hne]
  exact visit.registered q (List.mem_cons_of_mem r hq)

theorem forEach_evictLocked (finite : isfinite now) (l : List ComputeNodeRegistration)
    (requests : RequestInv s) (inv : NodeInv env s) (visit : ToEvict now l s) :
    Ends (forEach l (evictLocked env now)) s fun result _ =>
      (EvictsFreely env now l s ∧ result = .ok ()) ∨
      (¬EvictsFreely env now l s ∧ ∃ e, result = .error e ∧ e.kind = .capacityExceeded) := by
  induction l generalizing s with
  | nil => exact .inl ⟨trivial, rfl⟩
  | cons r l ih =>
    have result := evictLocked_result finite requests inv (visit.registered r List.mem_cons_self)
      (visit.expired r List.mem_cons_self)
    have ended : Ends (evictLocked env now r) s fun _ s' =>
        Sweeps env Any now s s' ∧ OtherNodes r.nodeId s s' := evictLocked_others r
    obtain ⟨sweeps, others⟩ := ended
    refine ends_bind.mpr ?_
    unfold EvictsFreely
    unfold Ends at result ⊢
    generalize evictLocked env now r s = ended at result sweeps others ⊢
    obtain ⟨answer, s₁⟩ := ended
    rcases result with ⟨room, ok⟩ | ⟨full, e, error, kind⟩
    · have rest : ToEvict now l s₁ := visit.tail others
      obtain ⟨requests₁, inv₁⟩ := sweeps.nodeInv requests inv
      cases ok
      refine (ih requests₁ inv₁ rest).imp ?_ ?_
      · exact fun free => ⟨⟨room, free.1⟩, free.2⟩
      · exact fun blocked => ⟨fun free => blocked.1 free.2, blocked.2⟩
    · cases error
      exact .inr ⟨fun free => full free.1, e, rfl, kind⟩

/-- What starting the sweep in `s` leads to. -/
def SweepResult (env : StoreEnv) (now : Epoch) (s : Store) (result : Except StoreError Unit) :
    Prop :=
  (EvictsFreely env now (expiredRecords s now) s ∧ result = .ok ()) ∨
    (¬EvictsFreely env now (expiredRecords s now) s ∧
      ∃ e, result = .error e ∧ e.kind = .capacityExceeded)

theorem leaseHousekeeping_result (finite : isfinite now) (requests : RequestInv s)
    (inv : NodeInv env s) :
    Ends (leaseHousekeeping env now) s fun result _ =>
      SweepResult env now (reapRetainedLocked now s) result := by
  have reaped : Sweeps env Any now s (reapRetainedLocked now s) := .one (.reapRetained s)
  obtain ⟨requests₁, inv₁⟩ := reaped.nodeInv requests inv
  unfold leaseHousekeeping expireLocked
  simp only [ends_bind, ends_modifyState, ends_getState, follow_ok]
  refine (forEach_evictLocked finite _ requests₁ inv₁ (expiredRecords_toEvict inv₁)).mono ?_
  rintro result s₁ (⟨free, rfl⟩ | ⟨blocked, e, rfl, kind⟩)
  · exact .inl ⟨free, rfl⟩
  · exact .inr ⟨blocked, e, rfl, kind⟩

theorem reapLocked_result (finite : isfinite now) (requests : RequestInv s) (inv : NodeInv env s) :
    Ends (reapLocked env now) s fun result _ =>
      SweepResult env now (reapRetainedLocked now (deadlinesReaped env now s)) result := by
  have reaped : Sweeps env Any now s (reapRetainedLocked now s) := .one (.reapRetained s)
  have due : Ends (forEach (dueWork (reapRetainedLocked now s) now) (expireDue env now))
      (reapRetainedLocked now s) fun r s' => r = .ok () ∧ Sweeps env Any now s s' := by
    refine (expireDue_ends (P := Any) (fun _ _ => trivial) _ ?_).mono
      fun r s' h => ⟨h.1, reaped.trans h.2.1⟩
    intro id w hm
    obtain ⟨live, hd⟩ := dueWork_spec.mp hm
    exact ⟨hd, .inr live⟩
  unfold reapLocked
  simp only [ends_bind, ends_modifyState, ends_getState, follow_ok]
  unfold deadlinesReaped
  unfold Ends at due ⊢
  generalize forEach (dueWork (reapRetainedLocked now s) now) (expireDue env now)
    (reapRetainedLocked now s) = ended at due ⊢
  obtain ⟨answer, s₁⟩ := ended
  obtain ⟨rfl, sweeps⟩ := due
  obtain ⟨requests₁, inv₁⟩ := sweeps.nodeInv requests inv
  have swept : Ends (leaseHousekeeping env now) s₁ fun result _ =>
      SweepResult env now (reapRetainedLocked now s₁) result :=
    leaseHousekeeping_result finite requests₁ inv₁
  unfold leaseHousekeeping at swept
  rw [ends_bind] at swept
  rw [follow_ok, ends_bind]
  refine swept.mono ?_
  rintro (e | expired) s₂ h
  · exact h
  · exact h

/-- Every expired registration finds room when the sweep of the call comes to it. -/
def Op.SweepsFreely (env : StoreEnv) (now : Epoch) (s : Store) (op : Op) : Prop :=
  EvictsFreely env now (expiredRecords (op.sweepStart env now s) now) (op.sweepStart env now s)

instance (op : Op) : Decidable (op.SweepsFreely env now s) :=
  decidableEvictsFreely env now _ _

/-- The housekeeping of a call raises exactly when its sweep meets a full table. -/
theorem Op.housekeeping_result (op : Op) (sweeps : op.sweepsLeases = true) (finite : isfinite now)
    (requests : RequestInv s) (inv : NodeInv env s) :
    Ends (op.housekeeping env now) s fun result _ =>
      SweepResult env now (op.sweepStart env now s) result := by
  cases op with
  | register n caps d =>
    show Ends (registerHousekeeping env now) s _
    have reaped : Sweeps env Any now s (reapRetainedLocked now s) := .one (.reapRetained s)
    obtain ⟨requests₁, inv₁⟩ := reaped.nodeInv requests inv
    unfold registerHousekeeping
    rw [ends_bind, ends_modifyState, follow_ok]
    exact leaseHousekeeping_result finite requests₁ inv₁
  | renew n d caps | get n | list | setSchedulerState n d state =>
    exact leaseHousekeeping_result finite requests inv
  | expire | unregister n d | unregisterNodeAndTransitionWork n d cause => cases sweeps
  | _ => exact reapLocked_result finite requests inv

end

/-- In every reachable state and at every finite reading, no bound raises out of the
housekeeping of a call exactly when every expired registration finds room when the
sweep comes to it; otherwise a call whose checks pass raises the capacity error. -/
theorem available_iff (env : StoreEnv) (calls : List Call) (c : Call) (finite : isfinite c.clock)
    (sweeps : c.op.sweepsLeases = true) :
    let s := runs env calls Store.initial
    ((∀ e, (c.op.housekeeping env c.clock s).1 = .error e → e.kind ≠ .capacityExceeded) ↔
      c.op.SweepsFreely env c.clock s) ∧
    (c.op.SweepsFreely env c.clock s → (c.op.housekeeping env c.clock s).1 = .ok ()) ∧
    (¬c.op.SweepsFreely env c.clock s → c.op.validate env = .ok () → ¬LeaseOverflows env c →
      ∃ e, e.kind = .capacityExceeded ∧ c.result env s = .error e) := by
  intro s
  have reachable : Reachable env s := reachable_runs calls
  have result : SweepResult env c.clock (c.op.sweepStart env c.clock s)
      (c.op.housekeeping env c.clock s).1 :=
    c.op.housekeeping_result sweeps finite reachable.requestInv reachable.nodeInv
  rcases result with ⟨free, ok⟩ | ⟨blocked, e, error, kind⟩
  · refine ⟨⟨fun _ => free, fun _ e raised => ?_⟩, fun _ => ok, fun blocked => absurd free blocked⟩
    rw [ok] at raised
    cases raised
  · refine ⟨⟨fun quiet => absurd kind (quiet e error), fun free => absurd free blocked⟩,
      fun free => absurd free blocked, fun _ valid lease => ?_⟩
    exact ⟨e, kind, c.raises_of_housekeeping finite valid lease error⟩

/-- An expired registration is removed out of a read of another node. -/
theorem available_iff_evicting :
    let calls := [registration]
    let c := sampleCall 31 (.get "node-b")
    let s := runs defaultEnv calls Store.initial
    (expiredRecords s c.clock).length = 1 ∧
      (∀ e, (c.op.housekeeping defaultEnv c.clock s).1 = .error e →
        e.kind ≠ .capacityExceeded) := by
  intro calls c s
  have free : c.op.SweepsFreely defaultEnv c.clock s := by decide +kernel
  exact ⟨by decide +kernel,
    (available_iff defaultEnv calls c (by decide +kernel) rfl).1.mpr free⟩

/-- A store with room for one node tombstone. -/
def oneTombstoneEnv : StoreEnv :=
  sampleEnv { namespace_ := "relay", maxNodeTombstones := 1 } (by decide +kernel)

/-- Both nodes register; the first is removed and comes back under another credential. -/
def tombstoneHeld : List Call :=
  [registration, sampleCall 1 (.register "node-b" sampleCapabilities credentialA),
   sampleCall 2 (.unregister "node-a" credentialA),
   sampleCall 5 (.register "node-a" sampleCapabilities credentialB)]

/-- The lease of one node runs out and a read of the other one raises. -/
theorem eviction_raises_out_of_get :
    let s := runs oneTombstoneEnv tombstoneHeld Store.initial
    let c := sampleCall 31 (.get "node-a")
    (s.records.get? "node-a").isSome = true ∧
      (c.op.housekeeping oneTombstoneEnv c.clock s).1 =
        .error (capacityExceeded "node tombstone capacity reached") ∧
      c.result oneTombstoneEnv s = .error (capacityExceeded "node tombstone capacity reached") := by
  decide +kernel

end StateStore
