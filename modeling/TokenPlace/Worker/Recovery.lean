import TokenPlace.Lib.Schedules
import TokenPlace.Worker.Manager

/-!
# A cancelled completion is not executed again

`create_chat_completion_with_recovery` observes the cancellation epoch before its
first completion, and looks at it twice before it hands the request to a second
worker. A call is followed through its stages: which completions it has made, and
what it knows of the epoch in which `get_llm_instance` gave it its worker.

Two windows stay open. A cancellation that comes between the return of
`get_llm_instance` and the observation is observed as the present, and one that
comes after the last look is not seen any more. `CancelsOutside` excludes them.
-/

namespace ModelManager

open Schedules

variable {P : Prop} {c : Choice} {s s' : ManagerState} {x : ManagerSystem} {ev : ManagerEvent}
  {i : Nat}

/-! ## Cancellations -/

/-- The step runs the critical section of a cancellation. -/
def Cancels : ManagerEvent → ManagerSystem → Prop
  | .run j _, x => ∃ recreate, x.taskOf j = some (.cancel recreate)
  | .call _, _ => False

/-- A cancellation does not run while the call has its worker and has not observed
the epoch, or has looked at the epoch for the last time and not called the second
worker. -/
def CancelsOutside (i : Nat) : ManagerEvent → ManagerSystem → Prop
  | .run j _, x =>
    match x.taskOf j, x.taskOf i with
    | some (.cancel _), some (.observe _) => False
    | some (.cancel _), some (.invokeReplacement _) => False
    | _, _ => True
  | .call _, _ => True

instance (i : Nat) (ev : ManagerEvent) (x : ManagerSystem) : Decidable (CancelsOutside i ev x) := by
  unfold CancelsOutside
  split
  · split <;> infer_instance
  · infer_instance

/-- What `cancellation_generation_snapshot` returns. -/
structure Snapshot where
  generation : Nat
  cancelEvent : Nat
  epoch : Nat
deriving DecidableEq

/-- `cancellation_generation_snapshot`. -/
def cancellationGenerationSnapshot (s : ManagerState) : Snapshot :=
  ⟨s.llmGeneration, s.llmCancelGenerationEvent, s.llmCancellationEpoch⟩

/-- `cancellation_generation_cancelled`. It looks at the event first, and at the rest
in a later state, under the lock. -/
def cancellationGenerationCancelled (snapshot : Snapshot) (s s' : ManagerState) : Bool :=
  if snapshot.cancelEvent ∈ s.setEvents then true
  else
    decide (s'.llmCancellationEpoch ≠ snapshot.epoch) ||
      (decide (s'.llmGeneration ≠ snapshot.generation) &&
        decide (snapshot.cancelEvent ∈ s'.setEvents))

/-- What a call has done: at most two completions, the second only after the first
raised a restartable error; and it returns only what its last completion returned. -/
structure Thread.Bounded (t : Thread) : Prop where
  most : t.invocations.length ≤ 2
  restarted : ∀ first second, t.invocations = [first, second] →
    first.result = some .restartable
  returned : t.task = .finished .returned →
    t.invocations.getLast?.bind (·.result) = some .returned

/-- The second completion is made in the epoch in which the call obtained its worker:
nothing has been cancelled in between. -/
def Thread.Uncancelled (t : Thread) : Prop :=
  ∀ first second, t.invocations = [first, second] → t.obtained = some second.epoch

/-! ## The epoch counts the cancellations -/

theorem construct_epoch (construction : Construction) :
    (construct s construction).llmCancellationEpoch = s.llmCancellationEpoch ∧
      (construct s construction).llmCancelGenerationEvent = s.llmCancelGenerationEvent ∧
      (construct s construction).setEvents = s.setEvents := by
  cases construction <;> exact ⟨rfl, rfl, rfl⟩

/-- What a step does to the fields of the cancellation. -/
inductive EpochStep (s : ManagerState) (task : Task) (s' : ManagerState) : Prop
  | same (other : ∀ recreate, task ≠ .cancel recreate)
      (epoch : s'.llmCancellationEpoch = s.llmCancellationEpoch)
      (event : s'.llmCancelGenerationEvent = s.llmCancelGenerationEvent)
      (set : s'.setEvents = s.setEvents)
  | cancels {recreate : Bool} (here : task = .cancel recreate)
      (epoch : s'.llmCancellationEpoch = s.llmCancellationEpoch + 1)
      (event : s'.llmCancelGenerationEvent = s.llmCancelGenerationEvent + 1)
      (set : s'.setEvents = insert s.llmCancelGenerationEvent s.setEvents)

theorem taskStep_epoch (c : Choice) (s : ManagerState) (task : Task) :
    EpochStep s task (taskStep c s task).1 := by
  cases task with
  | cancel recreate =>
    simp only [taskStep]
    split <;> exact .cancels rfl rfl rfl rfl
  | construct caller =>
    obtain ⟨epoch, event, set⟩ := @construct_epoch s c.construction
    simp only [taskStep]
    split
    · exact .same nofun rfl rfl rfl
    · split
      · exact .same nofun rfl rfl rfl
      · exact .same nofun epoch event set
  | settle stopped closing =>
    refine .same nofun ?_ ?_ ?_ <;>
    · simp only [taskStep]
      split
      · unfold settleCleanup
        split <;> rfl
      · rfl
  | nextProfile | cancelReadiness | invalidate =>
    simp only [taskStep]
    split <;> exact .same nofun rfl rfl rfl
  | ensureReplacement observedGeneration caller =>
    simp only [taskStep]
    split
    · exact .same nofun rfl rfl rfl
    · split <;> exact .same nofun rfl rfl rfl
  | _ => exact .same nofun rfl rfl rfl

theorem not_cancels_of_none {j : Nat} {c : Choice} (none : x.threads[j]? = none) :
    ¬ Cancels (.run j c) x := by
  rintro ⟨recreate, here⟩
  simp [ManagerSystem.taskOf, none] at here

theorem managerStep_epoch (ev : ManagerEvent) (x : ManagerSystem) :
    (¬ Cancels ev x ∧
      (managerStep ev x).shared.llmCancellationEpoch = x.shared.llmCancellationEpoch) ∨
    (Cancels ev x ∧
      (managerStep ev x).shared.llmCancellationEpoch = x.shared.llmCancellationEpoch + 1) := by
  cases ev with
  | call operation => exact Or.inl ⟨id, rfl⟩
  | run j c =>
    cases at_ : x.threads[j]? with
    | none =>
      refine Or.inl ⟨not_cancels_of_none at_, ?_⟩
      simp only [managerStep, at_]
    | some t =>
      rw [managerStep_run c at_]
      cases taskStep_epoch c x.shared t.task with
      | same other epoch =>
        refine Or.inl ⟨?_, epoch⟩
        rintro ⟨recreate, here⟩
        rw [taskOf_eq at_] at here
        exact other recreate (Option.some.inj here)
      | @cancels recreate here epoch =>
        refine Or.inr ⟨⟨recreate, ?_⟩, epoch⟩
        rw [taskOf_eq at_, here]

/-- The events are numbered like the epochs, and the ones of earlier epochs are set. -/
structure EventsSet (s : ManagerState) : Prop where
  numbered : s.llmCancelGenerationEvent = s.llmCancellationEpoch
  set : ∀ e, e ∈ s.setEvents ↔ e < s.llmCancelGenerationEvent

theorem newManager_eventsSet : EventsSet newManager.shared :=
  ⟨rfl, fun e => by simp [newManager]⟩

theorem managerStep_eventsSet (ev : ManagerEvent) (x : ManagerSystem)
    (events : EventsSet x.shared) : EventsSet (managerStep ev x).shared := by
  cases ev with
  | call operation => exact events
  | run j c =>
    cases at_ : x.threads[j]? with
    | none =>
      simp only [managerStep, at_]
      exact events
    | some t =>
      rw [managerStep_run c at_]
      cases taskStep_epoch c x.shared t.task with
      | same other epoch event set =>
        refine ⟨?_, fun e => ?_⟩
        · rw [epoch, event]
          exact events.numbered
        · rw [event, set]
          exact events.set e
      | cancels here epoch event set =>
        refine ⟨?_, fun e => ?_⟩
        · rw [epoch, event, events.numbered]
        · rw [event, set, Finset.mem_insert, events.set]
          omega

/-- No step of the schedule cancels. -/
def Uncancelled (evs : List ManagerEvent) (x : ManagerSystem) : Prop :=
  Along managerStep (fun ev x => ¬ Cancels ev x) evs x

theorem epoch_le_runs (evs : List ManagerEvent) (x : ManagerSystem) :
    x.shared.llmCancellationEpoch ≤ (runs managerStep evs x).shared.llmCancellationEpoch := by
  induction evs generalizing x with
  | nil => exact le_rfl
  | cons ev evs ih =>
    refine le_trans ?_ (ih (managerStep ev x))
    rcases managerStep_epoch ev x with ⟨-, same⟩ | ⟨-, next⟩ <;> omega

theorem uncancelled_iff (evs : List ManagerEvent) (x : ManagerSystem) :
    Uncancelled evs x ↔
      (runs managerStep evs x).shared.llmCancellationEpoch = x.shared.llmCancellationEpoch := by
  induction evs generalizing x with
  | nil => exact ⟨fun _ => rfl, fun _ => trivial⟩
  | cons ev evs ih =>
    have later := epoch_le_runs evs (managerStep ev x)
    simp only [Uncancelled, Along, runs] at ih ⊢
    rw [ih]
    rcases managerStep_epoch ev x with ⟨not, same⟩ | ⟨cancels, next⟩
    · rw [same]
      exact ⟨And.right, fun eq => ⟨not, eq⟩⟩
    · exact ⟨fun h => absurd cancels h.1, fun eq => by omega⟩

theorem eventsSet_runs (evs : List ManagerEvent) (events : EventsSet x.shared) :
    EventsSet (runs managerStep evs x).shared :=
  invariant_runs (J := fun (x : ManagerSystem) => EventsSet x.shared) managerStep_eventsSet evs
    events

theorem cancellationGenerationCancelled_iff (evs evs' : List ManagerEvent)
    (events : EventsSet x.shared) :
    cancellationGenerationCancelled (cancellationGenerationSnapshot x.shared)
        (runs managerStep evs x).shared (runs managerStep (evs ++ evs') x).shared = true ↔
      ¬ Uncancelled (evs ++ evs') x := by
  have first := eventsSet_runs evs events
  have both := eventsSet_runs (evs ++ evs') events
  have early := epoch_le_runs evs x
  have later : (runs managerStep evs x).shared.llmCancellationEpoch ≤
      (runs managerStep (evs ++ evs') x).shared.llmCancellationEpoch := by
    rw [runs_append]
    exact epoch_le_runs evs' _
  rw [uncancelled_iff]
  simp only [cancellationGenerationCancelled, cancellationGenerationSnapshot, first.set,
    first.numbered, both.set, both.numbered, events.numbered]
  split
  · next set =>
    simp only [true_iff]
    omega
  · simp only [Bool.or_eq_true, decide_eq_true_eq, Bool.and_eq_true]
    omega

/-! ## The stages of a call -/

/-- How far a call is. A call that does not complete anything stays `idle`, and
`never` is where no call is. -/
inductive Stage
  | never
  | idle
  | obtained
  | observed (o : Observed)
  | first (o : Observed)
  | retrying (o : Observed)
  | second
  | replacing
  | succeeded
  | ended

/-- The stage of what `get_llm_instance` was called for. -/
def Caller.stage : Caller → Stage
  | .user | .recovery | .completion => .idle
  | .replacement o => .retrying o

/-- The stage of what `_ensure_replacement_llm` was called for. It is not called for
the first worker of a completion. -/
def Caller.replacedStage : Caller → Stage
  | .completion => .never
  | caller => caller.stage

def AfterInvalidate.stage : AfterInvalidate → Stage
  | .retry o => .retrying o
  | .recordError | .recordFailure => .ended

def Closing.stage : Closing → Stage
  | .invalidated _ next => next.stage
  | .replaced _ caller => caller.replacedStage
  | .cancelled _ _ | .readinessFailed _ | .readinessCancelled => .idle

def Task.stage : Task → Stage
  | .quickCheck caller | .construct caller | .readInstance caller => caller.stage
  | .cancel _ | .nextProfile _ _ | .cancelReadiness _ | .observeGeneration => .idle
  | .close _ closing | .settle _ closing => closing.stage
  | .ensureReplacement _ caller => caller.replacedStage
  | .invalidate _ next => next.stage
  | .observe _ => .obtained
  | .invoke o => .observed o
  | .await o => .first o
  | .checkEvent o | .checkEpoch o | .checkReplacement o _ => .retrying o
  | .invokeReplacement _ => .second
  | .awaitReplacement _ => .replacing
  | .recordSuccess | .finished .returned => .succeeded
  | .recordError | .recordFailure | .finished _ => .ended

/-- The completions of a call that has made the first one, which has failed so that
it may make a second. -/
def Failed (invocations : List Invocation) : Prop :=
  ∃ first, invocations = [first] ∧ first.result = some .restartable

/-- At most two completions, with what the second one presupposes. What is said of the
epoch depends on `P`, so that the rest can be had without it. -/
def Allowed (P : Prop) (obtained : Option Nat) (invocations : List Invocation) : Prop :=
  invocations = [] ∨ (∃ first, invocations = [first]) ∨
    ∃ first second, invocations = [first, second] ∧ first.result = some .restartable ∧
      (P → obtained = some second.epoch)

/-- What holds in a stage, in the present epoch. -/
def Stage.Holds (P : Prop) (epoch : Nat) (obtained : Option Nat)
    (invocations : List Invocation) : Stage → Prop
  | .never => False
  | .idle => invocations = []
  | .obtained => invocations = [] ∧ (P → obtained = some epoch)
  | .observed o => invocations = [] ∧ (P → obtained = some o.epoch)
  | .first o => (∃ first, invocations = [first]) ∧ (P → obtained = some o.epoch)
  | .retrying o => Failed invocations ∧ (P → obtained = some o.epoch)
  | .second => Failed invocations ∧ (P → obtained = some epoch)
  | .replacing => ∃ first second, invocations = [first, second] ∧
      first.result = some .restartable ∧ (P → obtained = some second.epoch)
  | .succeeded => Allowed P obtained invocations ∧
      invocations.getLast?.bind (·.result) = some .returned
  | .ended => Allowed P obtained invocations

theorem Failed.allowed {invocations : List Invocation} {obtained : Option Nat}
    (failed : Failed invocations) : Allowed P obtained invocations := by
  obtain ⟨first, rfl, -⟩ := failed
  exact Or.inr (Or.inl ⟨first, rfl⟩)

theorem Stage.Holds.allowed {stage : Stage} {epoch : Nat} {obtained : Option Nat}
    {invocations : List Invocation} (holds : stage.Holds P epoch obtained invocations) :
    Allowed P obtained invocations := by
  cases stage with
  | never => exact holds.elim
  | idle => exact Or.inl holds
  | obtained | observed => exact Or.inl holds.1
  | first => exact Or.inr (Or.inl holds.1)
  | retrying | second => exact holds.1.allowed
  | replacing => exact Or.inr (Or.inr holds)
  | succeeded => exact holds.1
  | ended => exact holds

/-- The call of a thread is in its stage. -/
def InStage (P : Prop) (s : ManagerState) (t : Thread) : Prop :=
  t.task.stage.Holds P s.llmCancellationEpoch t.obtained t.invocations

theorem InStage.bounded {t : Thread} (stage : InStage P s t) : t.Bounded := by
  have allowed := stage.allowed
  refine ⟨?_, ?_, ?_⟩
  · rcases allowed with none | ⟨first, one⟩ | ⟨first, second, two, -⟩
    · simp [none]
    · simp [one]
    · simp [two]
  · intro first second two
    rcases allowed with none | ⟨first', one⟩ | ⟨first', second', two', failed, -⟩
    · rw [none] at two
      cases two
    · rw [one] at two
      cases two
    · rw [two'] at two
      cases two
      exact failed
  · intro returned
    rw [InStage, returned] at stage
    exact stage.2

theorem InStage.uncancelled {t : Thread} (stage : InStage True s t) : t.Uncancelled := by
  intro first second two
  rcases stage.allowed with none | ⟨first', one⟩ | ⟨first', second', two', -, known⟩
  · rw [none] at two
    cases two
  · rw [one] at two
    cases two
  · rw [two'] at two
    cases two
    exact known trivial

/-! ## A step of the call -/

variable {epoch : Nat} {obtained : Option Nat} {invocations : List Invocation}

theorem Caller.stage_of_replaced {caller : Caller}
    (holds : caller.replacedStage.Holds P epoch obtained invocations) :
    caller.stage.Holds P epoch obtained invocations := by
  cases caller with
  | completion => exact holds.elim
  | _ => exact holds

/-- A call that gets no worker back, or that has asked for a replacement. -/
theorem Caller.resume_none {caller : Caller}
    (holds : caller.stage.Holds P epoch obtained invocations) :
    (caller.resume none).stage.Holds P epoch obtained invocations := by
  cases caller with
  | recovery => exact holds
  | user | completion => exact Or.inl holds
  | replacement o => exact holds.1.allowed

theorem Caller.resume_replaced {caller : Caller} {worker : Option Nat}
    (holds : caller.replacedStage.Holds P epoch obtained invocations) :
    (caller.resume worker).stage.Holds P epoch obtained invocations := by
  cases worker with
  | none => exact resume_none (stage_of_replaced holds)
  | some worker =>
    cases caller with
    | completion => exact holds.elim
    | user | recovery => exact Or.inl holds
    | replacement o => exact holds

theorem AfterInvalidate.task_stage (next : AfterInvalidate) : next.task.stage = next.stage := by
  cases next <;> rfl

theorem Closing.after_holds {closing : Closing} (stopped : Bool)
    (holds : closing.stage.Holds P epoch obtained invocations) :
    (closing.after stopped).stage.Holds P epoch obtained invocations := by
  cases closing with
  | cancelled | invalidated | replaced => exact holds
  | readinessFailed exhausted =>
    cases exhausted
    · exact holds
    · exact Or.inl holds
  | readinessCancelled => exact Or.inl holds

theorem Closing.settled_holds {closing : Closing} (stopped : Bool)
    (holds : closing.stage.Holds P epoch obtained invocations) :
    (closing.settled stopped).stage.Holds P epoch obtained invocations := by
  cases closing with
  | cancelled generation recreate =>
    simp only [Closing.settled]
    split
    · exact holds
    · exact Or.inl holds
  | invalidated generation next =>
    rw [Closing.settled, next.task_stage]
    exact holds
  | replaced generation caller =>
    simp only [Closing.settled]
    split
    · exact Caller.stage_of_replaced holds
    · exact Caller.resume_none (Caller.stage_of_replaced holds)
  | readinessFailed | readinessCancelled => exact Or.inl holds

theorem Observed.epoch_of_not_cancelled {o : Observed} (h : ¬ o.cancelled s) :
    s.llmCancellationEpoch = o.epoch := by
  simp only [Observed.cancelled, Bool.or_eq_true, decide_eq_true_eq, not_or, not_not] at h
  exact h.1

theorem record_result (first : List Invocation) (i : Invocation) (result : CompletionResult) :
    (first ++ [i]).dropLast ++
        (((first ++ [i]).getLast?).map fun i => { i with result := some result }).toList =
      first ++ [{ i with result := some result }] := by
  simp

theorem taskStep_inStage (c : Choice) (s : ManagerState) (t : Thread) (stage : InStage P s t) :
    InStage P (taskStep c s t.task).1
      { t.record c s with task := (taskStep c s t.task).2 } := by
  obtain ⟨task, obtained, invocations⟩ := t
  unfold InStage at stage ⊢
  cases task with
  | quickCheck caller =>
    simp only [taskStep, Thread.record]
    split <;> exact stage
  | construct caller =>
    simp only [taskStep, Thread.record]
    split
    · exact stage
    · split
      · exact Caller.resume_none stage
      · rw [(construct_epoch c.construction).1]
        split
        · exact stage
        · exact Caller.resume_none stage
  | readInstance caller =>
    cases caller with
    | completion =>
      have none : invocations = [] := stage
      cases held : s.llm with
      | none =>
        simp only [taskStep, Thread.record, held]
        exact Or.inl none
      | some worker =>
        simp only [taskStep, Thread.record, held]
        exact ⟨none, fun _ => rfl⟩
    | user => exact Or.inl stage
    | recovery | replacement => exact Caller.resume_replaced stage
  | cancel recreate =>
    have none : invocations = [] := stage
    simp only [taskStep, Thread.record]
    split
    · cases recreate
      · exact Or.inl none
      · exact none
    · exact none
  | close worker closing => exact Closing.after_holds c.closes stage
  | settle stopped closing =>
    simp only [taskStep, Thread.record]
    have holds := Closing.settled_holds stopped stage
    split
    · unfold settleCleanup
      split <;> exact holds
    · exact holds
  | nextProfile failedRuntime exhausted | cancelReadiness failedRuntime =>
    simp only [taskStep, Thread.record]
    split
    · exact stage
    · exact Or.inl stage
  | observeGeneration | observe worker | recordSuccess | recordError | recordFailure
  | finished result => exact stage
  | ensureReplacement observedGeneration caller =>
    simp only [taskStep, Thread.record]
    split
    · exact Caller.stage_of_replaced stage
    · split
      · exact Caller.resume_replaced stage
      · exact stage
  | invalidate worker next =>
    simp only [taskStep, Thread.record]
    split
    · exact stage
    · rw [next.task_stage]
      exact stage
  | invoke o =>
    obtain ⟨none, known⟩ := stage
    subst none
    exact ⟨⟨_, rfl⟩, known⟩
  | await o =>
    obtain ⟨⟨first, one⟩, known⟩ := stage
    subst one
    simp only [taskStep, Thread.record]
    rw [show [first] = [] ++ [first] from rfl, record_result, List.nil_append]
    split
    · next returned =>
      exact ⟨Or.inr (Or.inl ⟨_, rfl⟩), by simp [returned]⟩
    · exact Or.inr (Or.inl ⟨_, rfl⟩)
    · exact Or.inr (Or.inl ⟨_, rfl⟩)
    · next restartable => exact ⟨⟨_, rfl, by rw [restartable]⟩, known⟩
    · exact Or.inr (Or.inl ⟨_, rfl⟩)
  | checkEvent o | checkEpoch o =>
    simp only [taskStep, Thread.record]
    split
    · exact stage.1.allowed
    · exact stage
  | checkReplacement o replacement =>
    simp only [taskStep, Thread.record]
    split
    · exact stage.1.allowed
    · next same =>
      -- the epoch is still the one that was observed
      have now : some s.llmCancellationEpoch = some o.epoch :=
        congrArg some (Observed.epoch_of_not_cancelled same)
      exact ⟨stage.1, fun p => (stage.2 p).trans now.symm⟩
  | invokeReplacement replacement =>
    obtain ⟨⟨first, one, restartable⟩, known⟩ := stage
    subst one
    exact ⟨first, _, rfl, restartable, known⟩
  | awaitReplacement replacement =>
    obtain ⟨first, second, two, restartable, known⟩ := stage
    subst two
    simp only [taskStep, Thread.record]
    rw [show [first, second] = [first] ++ [second] from rfl, record_result]
    have allowed : Allowed P obtained ([first] ++ [{ second with result := some c.completion }]) :=
      Or.inr (Or.inr ⟨first, _, rfl, restartable, known⟩)
    split
    · next returned => exact ⟨allowed, by simp [returned]⟩
    · exact allowed
    · exact allowed

/-! ## Runs -/

theorem Stage.Holds.other_epoch {stage : Stage} (epoch' : Nat)
    (unseen : P → stage ≠ .obtained ∧ stage ≠ .second)
    (holds : stage.Holds P epoch obtained invocations) :
    stage.Holds P epoch' obtained invocations := by
  cases stage with
  | obtained => exact ⟨holds.1, fun p => absurd rfl (unseen p).1⟩
  | second => exact ⟨holds.1, fun p => absurd rfl (unseen p).2⟩
  | _ => exact holds

theorem Task.in_window {task : Task} (window : task.stage = .obtained ∨ task.stage = .second) :
    (∃ worker, task = .observe worker) ∨ ∃ worker, task = .invokeReplacement worker := by
  have caller_stage (caller : Caller) : caller.stage ≠ .obtained ∧ caller.stage ≠ .second := by
    cases caller <;> exact ⟨nofun, nofun⟩
  have replaced_stage (caller : Caller) :
      caller.replacedStage ≠ .obtained ∧ caller.replacedStage ≠ .second := by
    cases caller <;> exact ⟨nofun, nofun⟩
  have next_stage (next : AfterInvalidate) : next.stage ≠ .obtained ∧ next.stage ≠ .second := by
    cases next <;> exact ⟨nofun, nofun⟩
  have closing_stage (closing : Closing) :
      closing.stage ≠ .obtained ∧ closing.stage ≠ .second := by
    cases closing with
    | invalidated _ next => exact next_stage next
    | replaced _ caller => exact replaced_stage caller
    | _ => exact ⟨nofun, nofun⟩
  cases task with
  | observe worker => exact Or.inl ⟨worker, rfl⟩
  | invokeReplacement worker => exact Or.inr ⟨worker, rfl⟩
  | quickCheck caller | construct caller | readInstance caller =>
    exact absurd window (not_or.mpr (caller_stage caller))
  | ensureReplacement _ caller => exact absurd window (not_or.mpr (replaced_stage caller))
  | close _ closing | settle _ closing => exact absurd window (not_or.mpr (closing_stage closing))
  | invalidate _ next => exact absurd window (not_or.mpr (next_stage next))
  | finished result =>
    cases result <;> exact absurd window (not_or.mpr ⟨nofun, nofun⟩)
  | _ => exact absurd window (not_or.mpr ⟨nofun, nofun⟩)

theorem other_inStage {j : Nat} {t t' : Thread} (outside : P → CancelsOutside i (.run j c) x)
    (at_ : x.threads[i]? = some t) (other : x.threads[j]? = some t')
    (stage : InStage P x.shared t) : InStage P (taskStep c x.shared t'.task).1 t := by
  unfold InStage at stage ⊢
  cases taskStep_epoch c x.shared t'.task with
  | same _ epoch =>
    rw [epoch]
    exact stage
  | cancels here =>
    refine stage.other_epoch _ fun p => ?_
    rw [← not_or]
    intro window
    have outside := outside p
    rcases Task.in_window window with ⟨worker, task⟩ | ⟨worker, task⟩ <;>
      simp [CancelsOutside, taskOf_eq at_, taskOf_eq other, task, here] at outside

theorem managerStep_inStage (outside : P → CancelsOutside i ev x)
    (stages : ∀ t, x.threads[i]? = some t → InStage P x.shared t) :
    ∀ t, (managerStep ev x).threads[i]? = some t → InStage P (managerStep ev x).shared t := by
  intro t at_
  cases ev with
  | call operation =>
    simp only [managerStep] at at_ ⊢
    by_cases bound : i < x.threads.length
    · rw [List.getElem?_append_left bound] at at_
      exact stages t at_
    · rw [List.getElem?_append_right (not_lt.mp bound)] at at_
      rw [List.mem_singleton.mp (List.mem_of_getElem? at_)]
      cases operation <;> rfl
  | run j c =>
    cases here : x.threads[j]? with
    | none =>
      simp only [managerStep, here] at at_ ⊢
      exact stages t at_
    | some t' =>
      rw [managerStep_run c here] at at_ ⊢
      by_cases same : j = i
      · subst same
        have bound := (List.getElem?_eq_some_iff.mp here).1
        rw [List.getElem?_set_self bound] at at_
        cases at_
        exact taskStep_inStage c x.shared t' (stages t' here)
      · rw [List.getElem?_set_ne same] at at_
        exact other_inStage outside at_ here (stages t at_)

/-- A cancelled call is not executed again. A call makes at most two completions, the
second only after the first raised a restartable error; if no cancellation falls into
its two windows, the second is made in the epoch in which the call obtained its
worker; and a snapshot tells exactly whether something has been cancelled since. -/
theorem cancelled_not_reexecuted (evs : List ManagerEvent) :
    (∀ (i : Nat) (t : Thread),
      (runs managerStep evs newManager).threads[i]? = some t → t.Bounded) ∧
    (∀ i, Along managerStep (CancelsOutside i) evs newManager →
      ∀ t, (runs managerStep evs newManager).threads[i]? = some t → t.Uncancelled) ∧
    ∀ evs₁ evs₂,
      cancellationGenerationCancelled
          (cancellationGenerationSnapshot (runs managerStep evs newManager).shared)
          (runs managerStep evs₁ (runs managerStep evs newManager)).shared
          (runs managerStep (evs₁ ++ evs₂) (runs managerStep evs newManager)).shared = true ↔
        ¬ Uncancelled (evs₁ ++ evs₂) (runs managerStep evs newManager) := by
  refine ⟨fun i t at_ => ?_, fun i outside t at_ => ?_, fun evs₁ evs₂ => ?_⟩
  · have kept (ev : ManagerEvent) (x : ManagerSystem) :=
      @managerStep_inStage False x ev i False.elim
    exact (invariant_runs kept evs (s := newManager) nofun t at_).bounded
  · have stages := along_runs
      (J := fun (x : ManagerSystem) => ∀ t : Thread, x.threads[i]? = some t → InStage True x.shared t)
      (fun _ _ outside => managerStep_inStage fun _ => outside) outside nofun
    exact (stages t at_).uncancelled
  · exact cancellationGenerationCancelled_iff evs₁ evs₂
      (eventsSet_runs evs newManager_eventsSet)

/-- `n` steps of a thread, in which a completion has this result. -/
def steps (i n : Nat) (result : CompletionResult) : List ManagerEvent :=
  List.replicate n (.run i ⟨.constructed, true, true, result⟩)

/-- A call whose first worker dies. A cancellation runs before the call looks at the
epoch for the last time. -/
def cancelledBeforeRetry : List ManagerEvent :=
  [.call .createChatCompletionWithRecovery] ++ steps 0 5 .returned ++ steps 0 1 .restartable ++
    steps 0 9 .returned ++ [.call (.terminateActiveWorkerForCancellation false)] ++
    steps 1 3 .returned ++ steps 0 1 .returned

/-- The call of the sample has raised after one completion. -/
theorem cancelled_not_reexecuted_sample :
    ∀ t, (runs managerStep cancelledBeforeRetry newManager).threads[0]? = some t →
      t.Uncancelled ∧ t.task = .finished .raised ∧ t.invocations.length = 1 := by
  have outside : Along managerStep (CancelsOutside 0) cancelledBeforeRetry newManager := by
    decide +kernel
  have ended : ∃ t, (runs managerStep cancelledBeforeRetry newManager).threads[0]? = some t ∧
      t.task = .finished .raised ∧ t.invocations.length = 1 :=
    ⟨_, rfl, by decide +kernel, by decide +kernel⟩
  intro t at_
  obtain ⟨t', at', raised, one⟩ := ended
  obtain rfl := Option.some.inj (at_.symm.trans at')
  exact ⟨(cancelled_not_reexecuted cancelledBeforeRetry).2.1 0 outside t at_, raised, one⟩

/-- `get_llm_instance` has returned a worker to the call, and a cancellation runs
before the call observes the epoch: the call completes on a second worker. -/
theorem reexecuted_after_cancellation :
    ¬ ∀ t, (runs managerStep
        ([.call .createChatCompletionWithRecovery] ++ steps 0 3 .returned ++
          [.call (.terminateActiveWorkerForCancellation false)] ++ steps 1 3 .returned ++
          steps 0 2 .returned ++ steps 0 1 .restartable ++ steps 0 10 .returned)
        newManager).threads[0]? = some t → t.Uncancelled := by
  intro uncancelled
  have second := uncancelled _ rfl _ _ rfl
  exact absurd second (by decide +kernel)

end ModelManager
