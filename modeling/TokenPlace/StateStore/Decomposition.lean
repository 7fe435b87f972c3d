import TokenPlace.StateStore.Frames

/-!
# The housekeeping as sequences of effects

One specification per `_locked` method. The node transition and the reaper are
proved once for any terminal policy `P`, under an invariant `J` that every
effect keeps and that implies the policy where work is terminalized; `J` is
trivial for the unrestricted policy.
-/

namespace StateStore

open Method

variable {s : Store} {id : Identity} {w : Work}

theorem Store.hasWork_of_workRecord (h : s.workRecord id = some w) : s.HasWork id w := by
  unfold Store.workRecord at h
  cases hr : s.reservations.get? id with
  | some r =>
    rw [hr] at h
    cases h
    exact hr
  | none =>
    rw [hr] at h
    obtain ⟨q, hq, rfl⟩ := Option.map_eq_some_iff.mp h
    exact hq

theorem Store.HasWork.mem (h : s.HasWork id w) :
    id ∈ s.reservations ∨ id ∈ s.queued := by
  cases w with
  | reservation r => exact .inl (OrderedDict.mem_of_get? h)
  | queued q => exact .inr (OrderedDict.mem_of_get? h)

section

variable {env : StoreEnv} {P : TerminalPolicy} {now : Epoch} {J : Store → Prop}

/-! ## Terminalization -/

/-- How `_terminalize_locked` ends: it raises a capacity error before its first
write, or it makes all its writes. -/
inductive TerminalizeOutcome (env : StoreEnv) (now : Epoch) (id : Identity) (w : Work)
    (status : Outcome) (reason : Reason) (force : Bool) (s : Store) :
    Except StoreError TerminalTransitionResult → Store → Prop
  | full {e : StoreError} : e.kind = .capacityExceeded →
      (terminalCapacityReached env s id.1 ∨ ∃ c ∈ tombstoneClaim s id w status now force,
        controlTombstoneCapacityReached env s c.selectedNodeId) →
      TerminalizeOutcome env now id w status reason force s (.error e) s
  | done : ¬terminalCapacityReached env s id.1 →
      (∀ c ∈ tombstoneClaim s id w status now force,
        ¬controlTombstoneCapacityReached env s c.selectedNodeId) →
      TerminalizeOutcome env now id w status reason force s (.ok ⟨.terminal status reason, true⟩)
        (writeTerminal env id w status reason now (tombstoneClaim s id w status now force) s)

variable {r : Except StoreError NodeTransitionResult} {n : String} {status : Outcome}
  {reason : Reason} {claim : Option ClaimRecord} {p : PendingNodeTransition} {Q : Work → Prop}
  {cause : Cause} {force : Bool} {a b c : Store}

theorem terminalizeLocked_ends :
    Ends (terminalizeLocked env id w status reason now force) s
      (TerminalizeOutcome env now id w status reason force s) := by
  unfold terminalizeLocked
  simp only [ends_bind, ends_getState, follow_ok, follow_error, ends_raiseIf, ends_modifyState,
    ends_pure]
  refine ⟨fun full => .full rfl (.inl full), fun room => ⟨fun full => .full rfl (.inr full), ?_⟩⟩
  intro tombstones
  exact .done room fun c hc full => tombstones ⟨c, hc, full⟩

/-! ## What housekeeping leaves alone -/

/-- No live record and no entry of the work index is new. -/
structure Shrinks (s s' : Store) : Prop where
  work : ∀ id w, s'.HasWork id w → s.HasWork id w
  index : ∀ n id, id ∈ s'.workOf n → id ∈ s.workOf n

theorem Shrinks.refl (s : Store) : Shrinks s s := ⟨fun _ _ h => h, fun _ _ h => h⟩

theorem Shrinks.trans (h : Shrinks a b) (h' : Shrinks b c) : Shrinks a c :=
  ⟨fun id w hw => h.work id w (h'.work id w hw), fun n id hi => h.index n id (h'.index n id hi)⟩

theorem writeTerminal_shrinks :
    Shrinks s (writeTerminal env id w status reason now claim s) := by
  refine ⟨fun k v hv => (writeTerminal_hasWork.mp hv).2, fun n k hk => ?_⟩
  rw [workOf_eq, writeTerminal_index] at hk
  have inner := (mem_discardWork.mp hk).1
  cases hq : s.queued.get? id with
  | none =>
    rw [hq] at inner
    exact inner
  | some q =>
    rw [hq] at inner
    exact (mem_discardWork.mp inner).1

theorem Sweep.shrinks {s s' : Store} (h : Sweep env P now s s') : Shrinks s s' := by
  cases h with
  | reapRetained =>
    rw [reapRetained_eq]
    exact ⟨fun _ w hw => by cases w <;> exact hw, fun _ _ hi => hi⟩
  | terminalize h =>
    rw [h.post]
    exact writeTerminal_shrinks
  | defer h | startRemoval h | touchFences h | finishRemoval h =>
    rw [h.post]
    exact ⟨fun _ w hw => by cases w <;> exact hw, fun _ _ hi => hi⟩
  | lapse h =>
    rw [h.post]
    refine ⟨fun k w hw => ?_, fun _ _ hi => (mem_discardWork.mp hi).1⟩
    cases w with
    | queued q => exact hw
    | reservation r =>
      have found := (OrderedDict.get?_erase ..).symm.trans hw
      split at found
      · cases found
      · exact found
  | discardWork h =>
    rw [h.post]
    exact ⟨fun _ w hw => by cases w <;> exact hw, fun _ _ hi => (mem_discardWork.mp hi).1⟩

theorem Sweeps.shrinks {s s' : Store} (h : Sweeps env P now s s') : Shrinks s s' :=
  h.keeps (fun _ _ step hs => hs.trans step.shrinks) (Shrinks.refl s)

/-- Only the node `n` is registered or pending differently. -/
structure OtherNodes (n : String) (s s' : Store) : Prop where
  records : ∀ m, m ≠ n → s'.records.get? m = s.records.get? m
  pending : ∀ m, m ≠ n → s'.pendingNodeTransitions.get? m = s.pendingNodeTransitions.get? m

theorem OtherNodes.refl (n : String) (s : Store) : OtherNodes n s s :=
  ⟨fun _ _ => rfl, fun _ _ => rfl⟩

theorem OtherNodes.trans (h : OtherNodes n a b) (h' : OtherNodes n b c) : OtherNodes n a c :=
  ⟨fun m hm => (h'.records m hm).trans (h.records m hm),
    fun m hm => (h'.pending m hm).trans (h.pending m hm)⟩

theorem SameNodes.others {s s' : Store} (h : SameNodes s s') : OtherNodes n s s' :=
  ⟨fun _ _ => by rw [h.records], fun _ _ => by rw [h.pending]⟩

/-! ## Node transitions -/

/-- What a batch of a transition leaves behind. -/
structure BatchRun (env : StoreEnv) (P : TerminalPolicy) (now : Epoch) (s s' : Store)
    (outcomes : Nat) : Prop where
  steps : Sweeps env P now s s'
  nodes : SameNodes s s'
  created : s'.terminals.size = s.terminals.size + outcomes
  kept : ∀ id t, s.terminals.get? id = some t → s'.terminals.get? id = some t
  work : ∀ id w, s'.HasWork id w → s.HasWork id w

theorem BatchRun.refl (s : Store) : BatchRun env P now s s 0 :=
  ⟨Sweeps.refl s, SameNodes.refl s, rfl, fun _ _ h => h, fun _ _ h => h⟩

theorem BatchRun.trans {m n : Nat} (h : BatchRun env P now a b m)
    (h' : BatchRun env P now b c n) : BatchRun env P now a c (m + n) :=
  ⟨h.steps.trans h'.steps, h.nodes.trans h'.nodes,
    by rw [h'.created, h.created, Nat.add_assoc], fun id t ht => h'.kept id t (h.kept id t ht),
    fun id w hw => h.work id w (h'.work id w hw)⟩

theorem batchRun_discard (h : id ∈ s.terminals ∨ s.workRecord id = none) :
    BatchRun env P now s (discardNodeWorkIdentityLocked n id s) 0 :=
  ⟨.one (.discardWork ⟨h, rfl⟩), ⟨rfl, rfl, rfl, rfl, rfl, rfl, rfl, rfl⟩, rfl,
    fun _ _ h => h, fun _ w h => by cases w <;> exact h⟩

theorem batchRun_terminalize {s s' : Store}
    (h : Terminalizes env P now id w status reason force s s') : BatchRun env P now s s' 1 := by
  refine ⟨.one (.terminalize h), ?_, ?_, ?_, ?_⟩
  · rw [h.post]
    exact writeTerminal_sameNodes
  · rw [h.post, writeTerminal_terminals, OrderedDict.size_eq_count, OrderedDict.size_eq_count,
      OrderedDict.count_set_new h.not_terminal]
    rfl
  · intro k t ht
    have hne : k ≠ id := by
      rintro rfl
      exact h.not_terminal (OrderedDict.mem_of_get? ht)
    rw [h.post, writeTerminal_terminals, OrderedDict.get?_set, if_neg hne]
    exact ht
  · intro k v hv
    rw [h.post] at hv
    exact (writeTerminal_hasWork.mp hv).2

/-- No bound stops a node transition from terminalizing the identity. -/
structure HasRoom (env : StoreEnv) (s : Store) (id : Identity) : Prop where
  terminal : ¬terminalCapacityReached env s id.1
  tombstone : ∀ c, s.claims.get? id = some c →
    ¬controlTombstoneCapacityReached env s c.selectedNodeId

theorem hasRoom_of_forced (terminal : ¬terminalCapacityReached env s id.1)
    (tombstones : ∀ c ∈ tombstoneClaim s id w status now (s.claims.get? id).isSome,
      ¬controlTombstoneCapacityReached env s c.selectedNodeId) : HasRoom env s id := by
  refine ⟨terminal, fun c hc => tombstones c ?_⟩
  unfold tombstoneClaim
  rw [hc]
  simp

/-- The batch loop. `Q` is what is known of the records in the batch. -/
theorem transitionBatch_ends (stable : ∀ a b, Sweep env P now a b → J a → J b)
    (allowed : ∀ s id w, J s → Q w → s.HasWork id w → HasRoom env s id →
      P w p.status p.reason)
    (l : List Identity) (counts : BatchCounts) (hJ : J s)
    (hp : s.pendingNodeTransitions.get? n = some p)
    (hQ : ∀ id ∈ l, ∀ w, s.HasWork id w → Q w) :
    Ends (transitionBatch env n p now l counts) s fun r s' =>
      ∃ c, r = .ok c ∧ counts.outcomes ≤ c.outcomes ∧
        BatchRun env P now s s' (c.outcomes - counts.outcomes) := by
  induction l generalizing s counts with
  | nil =>
    refine ends_pure.mpr ⟨counts, rfl, Nat.le_refl _, ?_⟩
    rw [Nat.sub_self]
    exact BatchRun.refl s
  | cons id rest ih =>
    -- what the rest of the loop does after an iteration that leaves `s₁`
    have continue_ : ∀ {s₁ : Store} {m : Nat} (counts₁ : BatchCounts),
        BatchRun env P now s s₁ m → counts₁.outcomes = counts.outcomes + m →
        Ends (transitionBatch env n p now rest counts₁) s₁ fun r s' =>
          ∃ c, r = .ok c ∧ counts.outcomes ≤ c.outcomes ∧
            BatchRun env P now s s' (c.outcomes - counts.outcomes) := by
      intro s₁ m counts₁ run hcounts
      have hJ₁ : J s₁ := run.steps.keeps stable hJ
      refine (ih counts₁ hJ₁ (by rw [run.nodes.pending]; exact hp) ?_).mono ?_
      · intro k hk w hw
        exact hQ k (List.mem_cons_of_mem id hk) w (run.work k w hw)
      · rintro r s' ⟨c, rfl, hle, run'⟩
        have total : m + (c.outcomes - counts₁.outcomes) = c.outcomes - counts.outcomes := by omega
        exact ⟨c, rfl, by omega, total ▸ run.trans run'⟩
    unfold transitionBatch
    simp only [ends_bind, ends_getState, follow_ok]
    rw [ends_ite]
    constructor
    · intro terminal
      simp only [ends_bind, ends_modifyState, follow_ok]
      exact continue_ (m := 0) _ (batchRun_discard (.inl terminal)) rfl
    · intro not_terminal
      cases hw : s.workRecord id with
      | none =>
        simp only [ends_bind, ends_modifyState, follow_ok]
        exact continue_ (m := 0) _ (batchRun_discard (.inr hw)) rfl
      | some w =>
        have live : s.HasWork id w := Store.hasWork_of_workRecord hw
        rw [ends_bind, ends_catching, ends_bind]
        refine terminalizeLocked_ends.mono ?_
        intro r s₁ outcome
        cases outcome with
        | full kind _ =>
          simp only [follow_error, ends_ite, kind, ends_pure, follow_ok, forall_const, not_true,
            false_implies, and_true]
          refine ⟨counts, rfl, Nat.le_refl _, ?_⟩
          rw [Nat.sub_self]
          exact BatchRun.refl s
        | done room tombstones =>
          simp only [follow_ok, ends_pure]
          have terminalizes : Terminalizes env P now id w p.status p.reason
              (s.claims.get? id).isSome s _ :=
            ⟨.node hp, allowed s id w hJ (hQ id List.mem_cons_self w live) live
              (hasRoom_of_forced room tombstones), live, not_terminal, room, tombstones, rfl⟩
          exact continue_ (m := 1) _ (batchRun_terminalize terminalizes) rfl

/-- How one batch of a started transition ends. Its only exceptions are a
missing fence and an overflow of the fence deadline. -/
inductive ContinueOutcome (env : StoreEnv) (P : TerminalPolicy) (now : Epoch) (n : String)
    (p : PendingNodeTransition) (s : Store) : Except StoreError NodeTransitionResult → Store → Prop
  | ok {result : NodeTransitionResult} {s₁ s' : Store} :
      BatchRun env P now s s₁ result.newOutcomes → Sweeps env P now s₁ s' →
      OtherNodes n s s' → s'.terminals = s₁.terminals →
      (result.state = .transitioning ∨ result.state = .complete) →
      ContinueOutcome env P now n p s (.ok result) s'
  | overflow {e : StoreError} {s' : Store} : Sweeps env P now s s' → OtherNodes n s s' →
      e.isRelayStateStoreError → ¬isfiniteSum (now + env.config.terminalRetentionSeconds) →
      ContinueOutcome env P now n p s (.error e) s'
  | missing {e : StoreError} {s' : Store} : Sweeps env P now s s' → OtherNodes n s s' →
      e.kind = .lookupError →
      (s.fencesOf p.nodeIdentityDigest).get? p.controlCredentialDigest = none →
      ContinueOutcome env P now n p s (.error e) s'

theorem fencesOf_set {digest digest' : String} {d : OrderedDict String FormerNodeAuthority} :
    Store.fencesOf { s with formerNodeAuthorities := s.formerNodeAuthorities.set digest d } digest' =
      if digest' = digest then d else s.fencesOf digest' := by
  unfold Store.fencesOf
  dsimp only
  rw [OrderedDict.get?_set]
  split <;> rfl

theorem continueTransition_ends (stable : ∀ a b, Sweep env P now a b → J a → J b)
    (allowed : ∀ s id w, J s → Q w → s.HasWork id w → HasRoom env s id →
      P w p.status p.reason) (hJ : J s) (hp : s.pendingNodeTransitions.get? n = some p)
    (hQ : ∀ id, id ∈ s.workOf n → ∀ w, s.HasWork id w → Q w) :
    Ends (continueTransition env n p now) s (ContinueOutcome env P now n p s) := by
  unfold continueTransition
  simp only [ends_bind, ends_getState, follow_ok]
  refine (transitionBatch_ends stable allowed _ {} hJ hp ?_).mono ?_
  · intro id hid w hw
    exact hQ id (OrderedDict.mem_keys.mp (List.mem_of_mem_take hid)) w hw
  · rintro r s₁ ⟨c, rfl, -, run⟩
    have pending₁ : s₁.pendingNodeTransitions.get? n = some p := by
      rw [run.nodes.pending]
      exact hp
    simp only [follow_ok, ends_bind, ends_getState]
    by_cases hwork : (s₁.workOf n).entries = []
    · simp only [hwork, ne_eq, not_true, decide_false, Bool.false_eq_true, if_false]
      unfold finishTransition
      simp only [ends_bind, ends_raiseIf, follow_error, follow_ok, ends_modifyState,
        ends_getState, fencesOf_set, if_true]
      refine ⟨fun infinite => .overflow run.steps run.nodes.others (by decide) infinite, fun _ => ?_⟩
      have touches : Sweep env P now s₁ { s₁ with
          formerNodeAuthorities := s₁.formerNodeAuthorities.set p.nodeIdentityDigest
            (s₁.fencesOf p.nodeIdentityDigest) } := .touchFences ⟨rfl⟩
      have fences : s₁.fencesOf p.nodeIdentityDigest = s.fencesOf p.nodeIdentityDigest := by
        rw [Store.fencesOf, Store.fencesOf, run.nodes.fences]
      cases hf : (s₁.fencesOf p.nodeIdentityDigest).get? p.controlCredentialDigest with
      | none =>
        simp only [ends_raise, follow_error]
        exact .missing (run.steps.tail touches) ⟨run.nodes.others.records, run.nodes.others.pending⟩
          rfl (fences ▸ hf)
      | some authority =>
        simp only [ends_modifyState, follow_ok, ends_pure]
        refine .ok run ((Sweeps.one touches).tail (.finishRemoval
          ⟨pending₁, hwork, (by rw [fencesOf_set, if_pos rfl]; exact hf), ?_⟩))
          ⟨run.nodes.others.records, fun m hm => ?_⟩ rfl (.inr rfl)
        · rw [fencesOf_set, if_pos rfl] <;> rfl
        · rw [← run.nodes.pending]
          exact (OrderedDict.get?_erase ..).trans (if_neg hm)
    · simp only [hwork, ne_eq, not_false_eq_true, decide_true, if_true, ends_bind,
        ends_modifyState, follow_ok, ends_pure]
      rw [OrderedDict.set_of_get? pending₁]
      exact .ok run (Sweeps.refl s₁) run.nodes.others rfl (.inl rfl)

/-- How `_transition_node_locked` ends. -/
inductive TransitionOutcome (env : StoreEnv) (P : TerminalPolicy) (now : Epoch) (n : String)
    (cause : Cause) (s : Store) : Except StoreError NodeTransitionResult → Store → Prop
  | raised {e : StoreError} : e.isRelayStateStoreError →
      TransitionOutcome env P now n cause s (.error e) s
  | idle {result : NodeTransitionResult} : result.newOutcomes = 0 →
      TransitionOutcome env P now n cause s (.ok result) s
  | continued {p : PendingNodeTransition} {r : Except StoreError NodeTransitionResult}
      {s' : Store} : s.pendingNodeTransitions.get? n = some p →
      ContinueOutcome env P now n p s r s' → TransitionOutcome env P now n cause s r s'
  | started {record : ComputeNodeRegistration} {r : Except StoreError NodeTransitionResult}
      {s₁ s' : Store} : StartsRemoval env now n record cause s s₁ →
      ContinueOutcome env P now n (pendingOf env n record cause now) s₁ r s' →
      TransitionOutcome env P now n cause s r s'

variable {record : ComputeNodeRegistration} {l : List (Identity × Work)} {supplied : Option String}

theorem absentTransition_outcome : TransitionOutcome env P now n cause s
      (absentTransition env n supplied cause s) s := by
  unfold absentTransition
  dsimp only
  generalize latestAuthority _ = retained
  split
  · split
    · split
      · exact .raised (by decide)
      · exact .idle rfl
    · split <;> exact .idle rfl
  · split <;> exact .idle rfl

theorem transitionNodeLocked_ends (stable : ∀ a b, Sweep env P now a b → J a → J b)
    (allowed : ∀ (p : PendingNodeTransition) s id w, J s → Q w → s.HasWork id w →
      HasRoom env s id → P w p.status p.reason) (hJ : J s) (hQ : ∀ id, id ∈ s.workOf n → ∀ w, s.HasWork id w → Q w) :
    Ends (transitionNodeLocked env n supplied cause now) s
      (TransitionOutcome env P now n cause s) := by
  unfold transitionNodeLocked
  simp only [ends_bind, ends_getState, follow_ok]
  cases hp : s.pendingNodeTransitions.get? n with
  | some p =>
    simp only [ends_bind, ends_raiseIf, follow_ok, follow_error]
    refine ⟨fun _ => .raised (by decide), fun _ => ⟨fun _ => .raised (by decide), fun _ => ?_⟩⟩
    exact (continueTransition_ends stable (allowed p) hJ hp hQ).mono fun r s' => .continued hp
  | none =>
    cases hr : s.records.get? n with
    | none => exact ends_ofExcept.mpr absentTransition_outcome
    | some record =>
      simp only [ends_bind, ends_raiseIf, follow_ok, follow_error, ends_ite, ends_pure,
        ends_modifyState]
      refine ⟨fun _ => .raised (by decide), fun _ => ⟨fun _ => .idle rfl, fun lease => ?_⟩⟩
      refine ⟨fun _ => .raised (by decide), fun pendingRoom => ?_⟩
      refine ⟨fun _ => .raised (by decide), fun fenceRoom => ?_⟩
      refine ⟨fun _ => .raised (by decide), fun tombstoneRoom => ?_⟩
      have starts : StartsRemoval env now n record cause s
          (startTransition env n record (pendingOf env n record cause now) now s) :=
        { registered := hr
          not_pending := hp
          lease := fun hc => not_lt.mp fun hlt => lease ⟨hc, hlt⟩
          pending_room := not_le.mp pendingRoom
          fence_room := by
            rw [not_and_or, not_not, not_le] at fenceRoom
            exact fenceRoom
          tombstone_room := by
            rw [not_and_or, not_not, not_le] at tombstoneRoom
            exact tombstoneRoom
          post := rfl }
      refine (continueTransition_ends stable (allowed _) (stable _ _ (.startRemoval starts) hJ)
        ?_ ?_).mono fun r s' => .started starts
      · exact (OrderedDict.get?_set ..).trans (if_pos rfl)
      · intro id hid w hw
        exact hQ id hid w (by cases w <;> exact hw)

theorem ContinueOutcome.sweeps {s s' : Store} (h : ContinueOutcome env P now n p s r s') :
    Sweeps env P now s s' := by
  cases h with
  | ok run rest _ _ _ => exact run.steps.trans rest
  | overflow h _ _ _ | missing h _ _ _ => exact h

theorem TransitionOutcome.sweeps {s s' : Store} (h : TransitionOutcome env P now n cause s r s') :
    Sweeps env P now s s' := by
  cases h with
  | raised _ | idle _ => exact Sweeps.refl s
  | continued _ h => exact h.sweeps
  | started starts h => exact (Sweeps.one (.startRemoval starts)).trans h.sweeps

theorem ContinueOutcome.others {s s' : Store} (h : ContinueOutcome env P now n p s r s') :
    OtherNodes n s s' := by
  cases h with
  | ok _ _ h _ _ | overflow _ h _ _ | missing _ h _ _ => exact h

theorem StartsRemoval.others
    {s s' : Store} (h : StartsRemoval env now n record cause s s') : OtherNodes n s s' := by
  rw [h.post]
  exact ⟨fun m hm => (OrderedDict.get?_erase ..).trans (if_neg hm),
    fun m hm => (OrderedDict.get?_set ..).trans (if_neg hm)⟩

theorem TransitionOutcome.others {s s' : Store} (h : TransitionOutcome env P now n cause s r s') :
    OtherNodes n s s' := by
  cases h with
  | raised _ | idle _ => exact OtherNodes.refl n s
  | continued _ h => exact h.others
  | started starts h => exact starts.others.trans h.others

/-! ## Lease eviction -/

/-- The started removal that a sweep from `s` may advance: the least one, unless
the sweep starts the removal of a node that is already being removed. -/
def Continued (s : Store) (expired : List ComputeNodeRegistration) (n : String) : Prop :=
  n ∈ s.pendingNodeTransitions ∧
    ((∀ r ∈ expired, r.nodeId ∉ s.pendingNodeTransitions) →
      ∀ m, m ∈ s.pendingNodeTransitions → n ≤ m)

theorem expiredRecords_reapRetained :
    expiredRecords (reapRetainedLocked now s) now = expiredRecords s now := by
  unfold expiredRecords
  rw [reapRetained_eq]

theorem head?_insertionSort {l : List String}
    (h : (l.insertionSort (· ≤ ·)).head? = some n) : n ∈ l ∧ ∀ m ∈ l, n ≤ m := by
  cases hl : l.insertionSort (· ≤ ·) with
  | nil => rw [hl] at h; cases h
  | cons a rest =>
    rw [hl] at h
    cases h
    have sorted := List.pairwise_insertionSort (· ≤ ·) l
    have mem : ∀ m, m ∈ l ↔ m ∈ n :: rest := fun m => by
      rw [← hl, List.mem_insertionSort]
    rw [hl, List.pairwise_cons] at sorted
    refine ⟨(mem n).mpr List.mem_cons_self, fun m hm => ?_⟩
    rcases List.mem_cons.mp ((mem m).mp hm) with rfl | hm
    · exact le_refl m
    · exact sorted.1 m hm

/-- What the eviction loop has done so far, starting from `s`. -/
structure Evicting (env : StoreEnv) (P : TerminalPolicy) (now : Epoch)
    (expired : List ComputeNodeRegistration) (s s' : Store) : Prop where
  steps : Sweeps env P now s s'
  pending : ∀ m, (∀ r ∈ expired, r.nodeId ≠ m) →
    s'.pendingNodeTransitions.get? m = s.pendingNodeTransitions.get? m

theorem evictLocked_ends {expired : List ComputeNodeRegistration}
    (stable : ∀ a b, Sweep env P now a b → J a → J b)
    (allowed : ∀ (p : PendingNodeTransition) s id w, J s → Q w → s.HasWork id w →
      HasRoom env s id → P w p.status p.reason)
    {s s₁ : Store} (hJ : J s)
    (hQ : ∀ r ∈ expired, ∀ id, id ∈ s.workOf r.nodeId → ∀ w, s.HasWork id w → Q w)
    (hr : record ∈ expired)
    (h : Evicting env P now expired s s₁) :
    Ends (evictLocked env now record) s₁ fun _ s' => Evicting env P now expired s s' := by
  have grown : ∀ {r : Except StoreError NodeTransitionResult} {s' : Store},
      TransitionOutcome env P now record.nodeId .registrationLeaseExpired s₁ r s' →
      Evicting env P now expired s s' := fun outcome =>
    ⟨h.steps.trans outcome.sweeps, fun m hm =>
      (outcome.others.pending m (hm record hr).symm).trans (h.pending m hm)⟩
  refine ends_bind_of (transitionNodeLocked_ends stable allowed (h.steps.keeps stable hJ) ?_)
    (fun _ s' outcome => ends_pure.mpr (grown outcome)) (fun _ s' outcome => grown outcome)
  intro id hid w hw
  exact hQ record hr id (h.steps.shrinks.index _ id hid) w (h.steps.shrinks.work id w hw)

theorem expireLocked_ends {continuePending : Bool} (stable : ∀ a b, Sweep env P now a b → J a → J b)
    (allowed : ∀ (p : PendingNodeTransition) s id w, J s → Q w → s.HasWork id w →
      HasRoom env s id → P w p.status p.reason) (hJ : J s)
    (hQ : ∀ r ∈ expiredRecords s now, ∀ id, id ∈ s.workOf r.nodeId → ∀ w,
      s.HasWork id w → Q w)
    (hC : continuePending = true → ∀ n, Continued s (expiredRecords s now) n →
      ∀ id, id ∈ s.workOf n → ∀ w, s.HasWork id w → Q w) :
    Ends (expireLocked env now continuePending) s fun _ s' => Sweeps env P now s s' := by
  have reaped : Sweep env P now s (reapRetainedLocked now s) := .reapRetained s
  have pendingReaped :
      (reapRetainedLocked now s).pendingNodeTransitions = s.pendingNodeTransitions := by
    rw [reapRetained_eq]
  unfold expireLocked
  simp only [ends_bind, ends_modifyState, ends_getState, follow_ok, expiredRecords_reapRetained]
  have loop : Ends (forEach (expiredRecords s now) (evictLocked env now))
      (reapRetainedLocked now s) fun _ s' => Evicting env P now (expiredRecords s now) s s' :=
    ends_forEach ⟨Sweeps.one reaped, fun m _ => by rw [pendingReaped]⟩
      fun record hr s₁ h => evictLocked_ends stable allowed hJ hQ hr h
  refine loop.mono ?_
  intro r s₁ evicted
  cases r with
  | error e => exact evicted.steps
  | ok _ =>
    rw [follow_ok, ends_ite]
    refine ⟨fun continued => ?_, fun _ => ends_pure.mpr evicted.steps⟩
    unfold continuePendingLocked
    simp only [ends_bind, ends_getState, follow_ok]
    cases hn : (s₁.pendingNodeTransitions.keys.insertionSort (· ≤ ·)).head? with
    | none => exact evicted.steps
    | some n =>
      dsimp only
      obtain ⟨mem, least⟩ := head?_insertionSort hn
      rw [ends_ite]
      refine ⟨fun _ => ends_pure.mpr evicted.steps, fun fresh => ?_⟩
      have fresh' : ∀ r ∈ expiredRecords s now, r.nodeId ≠ n := fun r hr heq => fresh ⟨r, hr, heq⟩
      have pendingBefore : n ∈ s.pendingNodeTransitions := by
        rw [OrderedDict.mem_def, ← evicted.pending n fresh', ← OrderedDict.mem_def]
        exact OrderedDict.mem_keys.mp mem
      have candidate : Continued s (expiredRecords s now) n := by
        refine ⟨pendingBefore, fun disjoint m hm => least m (OrderedDict.mem_keys.mpr ?_)⟩
        rw [OrderedDict.mem_def, evicted.pending m fun r hr heq => disjoint r hr (heq ▸ hm),
          ← OrderedDict.mem_def]
        exact hm
      cases hp : s₁.pendingNodeTransitions.get? n with
      | none => exact evicted.steps
      | some p =>
        simp only [ends_bind]
        refine (transitionNodeLocked_ends stable allowed (evicted.steps.keeps stable hJ) ?_).mono ?_
        · intro id hid w hw
          exact hC continued n candidate id (evicted.steps.shrinks.index n id hid) w
            (evicted.steps.shrinks.work id w hw)
        · intro r s₂ outcome
          cases r <;> exact evicted.steps.trans outcome.sweeps

/-! ## The reaper -/

theorem dueWork_spec :
    (id, w) ∈ dueWork s now ↔ s.HasWork id w ∧ w.requestDeadlineEpoch ≤ now := by
  unfold dueWork
  rw [List.mem_append, List.mem_map, List.mem_map]
  constructor
  · rintro (⟨⟨k, r⟩, hm, he⟩ | ⟨⟨k, q⟩, hm, he⟩)
    · obtain ⟨hm, hd⟩ := List.mem_filter.mp hm
      cases he
      exact ⟨OrderedDict.mem_entries.mp hm, of_decide_eq_true hd⟩
    · obtain ⟨hm, hd⟩ := List.mem_filter.mp hm
      cases he
      exact ⟨OrderedDict.mem_entries.mp hm, of_decide_eq_true hd⟩
  · rintro ⟨hw, hd⟩
    cases w with
    | reservation r =>
      exact .inl ⟨(id, r), List.mem_filter.mpr ⟨OrderedDict.mem_entries.mpr hw,
        decide_eq_true hd⟩, rfl⟩
    | queued q =>
      exact .inr ⟨(id, q), List.mem_filter.mpr ⟨OrderedDict.mem_entries.mpr hw,
        decide_eq_true hd⟩, rfl⟩

theorem terminalCapacity_mono (h : id ∉ s.terminals) {client : String}
    (full : terminalCapacityReached env s client) :
    terminalCapacityReached env (writeTerminal env id w status reason now claim s) client := by
  unfold terminalCapacityReached
  rw [writeTerminal_terminals, OrderedDict.size_eq_count, OrderedDict.count_set_new h,
    OrderedDict.count_set_new h, ← OrderedDict.size_eq_count]
  exact full.imp (fun h => Nat.le_add_right_of_le h) fun h => Nat.le_add_right_of_le h

theorem controlCapacity_mono (h : id ∉ s.controlTombstones ∨ claim = none)
    (full : controlTombstoneCapacityReached env s n) :
    controlTombstoneCapacityReached env (writeTerminal env id w status reason now claim s) n := by
  unfold controlTombstoneCapacityReached
  rw [writeTerminal_controlTombstones]
  cases claim with
  | none => exact full
  | some c =>
    have new : id ∉ s.controlTombstones := h.resolve_right nofun
    dsimp only
    rw [OrderedDict.size_eq_count, OrderedDict.count_set_new new, OrderedDict.count_set_new new,
      ← OrderedDict.size_eq_count]
    exact full.imp (fun h => Nat.le_add_right_of_le h) fun h => Nat.le_add_right_of_le h

theorem HasRoom.before {id k : Identity} (hid : id ∉ s.terminals)
    (tombstones : ∀ k, k ∈ s.controlTombstones → k ∈ s.terminals) (hk : k ≠ id)
    (h : HasRoom env (writeTerminal env id w status reason now claim s) k) : HasRoom env s k := by
  refine ⟨fun full => h.terminal (terminalCapacity_mono hid full), fun c hc full => ?_⟩
  refine h.tombstone c ?_ (controlCapacity_mono (.inl fun hm => hid (tombstones id hm)) full)
  rw [writeTerminal_claims, if_neg fun hc => hk hc.1]
  exact hc

/-- Every due lifecycle is still to be visited, is terminal, or is stopped by a bound. -/
structure DueTracked (env : StoreEnv) (now : Epoch) (l : List (Identity × Work)) (s : Store) :
    Prop where
  tombstones : ∀ id, id ∈ s.controlTombstones → id ∈ s.terminals
  due : ∀ id w, s.HasWork id w → w.requestDeadlineEpoch ≤ now →
    (id, w) ∈ l ∨ id ∈ s.terminals ∨ ¬HasRoom env s id

theorem DueTracked.skip
    (h : DueTracked env now ((id, w) :: l) s) (hid : id ∈ s.terminals ∨ ¬HasRoom env s id) :
    DueTracked env now l s := by
  refine ⟨h.tombstones, fun k v hv hd => ?_⟩
  rcases h.due k v hv hd with hm | ht
  · rcases List.mem_cons.mp hm with he | hm
    · cases he
      exact .inr hid
    · exact .inl hm
  · exact .inr ht

theorem DueTracked.terminalize {s s' : Store} (h : DueTracked env now ((id, w) :: l) s)
    (ht : Terminalizes env P now id w status reason force s s') : DueTracked env now l s' := by
  have terminals : s'.terminals = s.terminals.set id (terminalOf env s id w status reason now
      (tombstoneClaim s id w status now force)) := by rw [ht.post, writeTerminal_terminals]
  refine ⟨fun k hk => ?_, fun k v hv hd => ?_⟩
  · rw [terminals, OrderedDict.mem_set]
    rw [ht.post, writeTerminal_controlTombstones] at hk
    cases hc : tombstoneClaim s id w status now force with
    | none =>
      rw [hc] at hk
      exact .inr (h.tombstones k hk)
    | some c =>
      rw [hc] at hk
      exact (OrderedDict.mem_set.mp hk).imp_right (h.tombstones k)
  · rw [ht.post] at hv
    obtain ⟨hne, hv⟩ := writeTerminal_hasWork.mp hv
    rcases h.due k v hv hd with hm | hm | hm
    · rcases List.mem_cons.mp hm with he | hm
      · cases he
        exact absurd rfl hne
      · exact .inl hm
    · rw [terminals, OrderedDict.mem_set]
      exact .inr (.inl (.inr hm))
    · rw [ht.post]
      exact .inr (.inr fun room => hm (room.before ht.not_terminal h.tombstones hne))

theorem TerminalizeOutcome.not_hasRoom (full : terminalCapacityReached env s id.1 ∨
      ∃ c ∈ tombstoneClaim s id w status now force,
        controlTombstoneCapacityReached env s c.selectedNodeId) : ¬HasRoom env s id := by
  intro room
  rcases full with full | ⟨c, hc, full⟩
  · exact room.terminal full
  · exact room.tombstone c (Option.filter_eq_some_iff.mp hc).1 full

theorem expireDue_ends (due : ∀ w : Work, w.requestDeadlineEpoch ≤ now →
      P w .expired .requestDeadlineExpired) (l : List (Identity × Work))
    (hl : ∀ id w, (id, w) ∈ l → w.requestDeadlineEpoch ≤ now ∧
      (id ∈ s.terminals ∨ s.HasWork id w)) :
    Ends (forEach l (expireDue env now)) s fun r s' => r = .ok () ∧ Sweeps env P now s s' ∧
      (DueTracked env now l s → DueTracked env now [] s') := by
  induction l generalizing s with
  | nil => exact ends_pure.mpr ⟨rfl, Sweeps.refl s, id⟩
  | cons entry l ih =>
    obtain ⟨id, w⟩ := entry
    obtain ⟨hdue, hid⟩ := hl id w List.mem_cons_self
    have rest : ∀ k v, (k, v) ∈ l → v.requestDeadlineEpoch ≤ now ∧
        (k ∈ s.terminals ∨ s.HasWork k v) := fun k v hm => hl k v (List.mem_cons_of_mem _ hm)
    unfold forEach expireDue
    simp only [ends_bind, ends_getState, follow_ok]
    rw [ends_ite]
    constructor
    · rintro ⟨not_terminal, -⟩
      have live : s.HasWork id w := hid.resolve_left not_terminal
      rw [ends_catching, ends_bind]
      refine terminalizeLocked_ends.mono ?_
      intro r s₁ outcome
      cases outcome with
      | full kind full =>
        simp only [follow_error, ends_ite, kind, ends_modifyState, follow_ok, forall_const, not_true,
          false_implies, and_true]
        have defers : Sweep env P now s { s with
            deferredDeadlineIdentities := insert id s.deferredDeadlineIdentities } :=
          .defer ⟨live, hdue, rfl⟩
        refine (ih (s := { s with
          deferredDeadlineIdentities := insert id s.deferredDeadlineIdentities }) ?_).mono ?_
        · intro k v hm
          refine ⟨(rest k v hm).1, (rest k v hm).2.imp_right fun hv => ?_⟩
          cases v <;> exact hv
        · rintro r s' ⟨hr, steps, tracked⟩
          refine ⟨hr, (Sweeps.one defers).trans steps, fun h => tracked ?_⟩
          have skipped := h.skip (.inr (TerminalizeOutcome.not_hasRoom full))
          refine ⟨skipped.tombstones, fun k v hv hd => ?_⟩
          refine (skipped.due k v (by cases v <;> exact hv) hd).imp_right (Or.imp_right ?_)
          exact fun blocked room => blocked ⟨room.terminal, room.tombstone⟩
      | done room tombstones =>
        simp only [follow_ok, ends_pure]
        have terminalizes : Terminalizes env P now id w .expired .requestDeadlineExpired false s _ :=
          ⟨.deadline hdue, due w hdue, live, not_terminal, room, tombstones, rfl⟩
        refine (ih ?_).mono ?_
        · intro k v hm
          refine ⟨(rest k v hm).1, ?_⟩
          rw [writeTerminal_terminals, OrderedDict.mem_set, writeTerminal_hasWork]
          rcases (rest k v hm).2 with ht | hv
          · exact .inl (.inr ht)
          · by_cases hk : k = id
            · exact .inl (.inl hk)
            · exact .inr ⟨hk, hv⟩
        · rintro r s' ⟨hr, steps, tracked⟩
          exact ⟨hr, (Sweeps.one (.terminalize terminalizes)).trans steps,
            fun h => tracked (h.terminalize terminalizes)⟩
    · intro skip
      simp only [ends_pure, follow_ok]
      have terminal : id ∈ s.terminals := by
        by_contra not_terminal
        exact skip ⟨not_terminal, (hid.resolve_left not_terminal).mem⟩
      refine (ih rest).mono ?_
      rintro r s' ⟨hr, steps, tracked⟩
      exact ⟨hr, steps, fun h => tracked (h.skip (.inl terminal))⟩

/-- The last loop of the reaper: each listed reservation is still in the table
when its turn comes, since the listed identities are distinct. -/
theorem reapReservations_sweeps (l : List (Identity × ReservationRecord))
    (nodup : (l.map Prod.fst).Nodup)
    (hl : ∀ id r, (id, r) ∈ l → s.reservations.get? id = some r) :
    Sweeps env P now s (l.foldl (reapReservation now) s) := by
  induction l generalizing s with
  | nil => exact Sweeps.refl s
  | cons entry l ih =>
    obtain ⟨id, r⟩ := entry
    rw [List.map_cons, List.nodup_cons] at nodup
    have rest : ∀ k v, (k, v) ∈ l → s.reservations.get? k = some v :=
      fun k v hm => hl k v (List.mem_cons_of_mem _ hm)
    rw [List.foldl_cons]
    by_cases h : r.reservationExpiresAtEpoch ≤ now ∧ id ∉ s.deferredDeadlineIdentities
    · have lapses : Sweep env P now s (reapReservation now s (id, r)) :=
        .lapse ⟨hl id r List.mem_cons_self, h.1, h.2, if_pos h⟩
      refine (Sweeps.one lapses).trans (ih nodup.2 fun k v hm => ?_)
      have hk : k ≠ id := by
        rintro rfl
        exact nodup.1 (List.mem_map.mpr ⟨(k, v), hm, rfl⟩)
      unfold reapReservation
      rw [if_pos h]
      exact ((OrderedDict.get?_erase ..).trans (if_neg hk)).trans (rest k v hm)
    · have same : reapReservation now s (id, r) = s := if_neg h
      rw [same]
      exact ih nodup.2 rest

theorem reapLocked_ends (due : ∀ w : Work, w.requestDeadlineEpoch ≤ now →
      P w .expired .requestDeadlineExpired)
    (stable : ∀ a b, Sweep env P now a b → J a → J b)
    (allowed : ∀ (p : PendingNodeTransition) s id w, J s → s.HasWork id w →
      HasRoom env s id → P w p.status p.reason)
    (settled : ∀ s₁, Sweeps env P now (reapRetainedLocked now s) s₁ →
      (DueTracked env now (dueWork (reapRetainedLocked now s) now) (reapRetainedLocked now s) →
        DueTracked env now [] s₁) → J s₁) :
    Ends (reapLocked env now) s fun _ s' => Sweeps env P now s s' := by
  have reaped : Sweeps env P now s (reapRetainedLocked now s) := .one (.reapRetained s)
  unfold reapLocked
  simp only [ends_bind, ends_modifyState, ends_getState, follow_ok]
  refine (expireDue_ends due _ fun id w hm => ?_).mono ?_
  · obtain ⟨live, hd⟩ := dueWork_spec.mp hm
    exact ⟨hd, .inr live⟩
  rintro _ s₁ ⟨rfl, steps, tracked⟩
  have before := reaped.trans steps
  rw [follow_ok, ends_bind]
  refine (expireLocked_ends (Q := fun _ => True) stable
    (fun p s id w hJ _ hw room => allowed p s id w hJ hw room)
    (settled s₁ steps tracked) (fun _ _ _ _ _ _ => trivial) (fun _ _ _ _ _ _ _ => trivial)).mono ?_
  intro r s₂ expired
  cases r with
  | error e => exact before.trans expired
  | ok _ =>
    refine (before.trans expired).trans (reapReservations_sweeps _ s₂.reservations.nodup ?_)
    exact fun id r hm => OrderedDict.mem_entries.mp hm

end

end StateStore
