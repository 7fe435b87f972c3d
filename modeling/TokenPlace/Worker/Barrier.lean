import TokenPlace.Lib.Schedules
import TokenPlace.Worker.Manager

/-!
# One worker at a time

A worker that is detached from `self.llm` leaves the generation of its cleanup in
the barrier, and no worker is constructed before the cleanup has confirmed the old
process dead and cleared the barrier. `Cleanup` lists the four situations that the
manager can be in; in each of them at most one worker is unstopped.

The two operations on a worker that failed its readiness check detach it without a
barrier and do not look at the result of closing it, and an initialization that
fails after it has constructed a worker closes nothing. `Guarded` excludes the
steps in which this matters.
-/

namespace ModelManager

open Schedules

variable {c : Choice} {s s' : ManagerState} {x : ManagerSystem} {ev : ManagerEvent}

/-! ## Statement -/

/-- The thread is closing a worker that failed its readiness check. -/
def Task.closesReadiness : Task → Bool
  | .close _ closing => closing.generation.isNone
  | _ => false

/-- No worker is dropped after its construction, or constructed while a worker that
failed its readiness check is being closed, and such a worker is confirmed stopped. -/
def Guarded : ManagerEvent → ManagerSystem → Prop
  | .run i c, x =>
    match x.taskOf i with
    | some (.construct _) =>
      x.shared.llm = none → x.shared.cleanupBarrierGeneration = none →
        c.construction ≠ .dropped ∧ ∀ t ∈ x.threads, t.task.closesReadiness = false
    | some (.close _ closing) => closing.generation = none → c.closes
    | _ => True
  | .call _, _ => True

instance (ev : ManagerEvent) (x : ManagerSystem) : Decidable (Guarded ev x) := by
  unfold Guarded
  induction ev using ManagerEvent.casesOn with
  | run i c =>
    dsimp only
    generalize x.taskOf i = task
    induction task using Option.casesOn with
    | none => exact isTrue trivial
    | some task => induction task using Task.casesOn <;> (dsimp only; infer_instance)
  | call => exact isTrue trivial

/-- The step constructs a worker. -/
def Constructs (ev : ManagerEvent) (x : ManagerSystem) : Prop :=
  x.shared.constructed < (managerStep ev x).shared.constructed

/-- The step closes a worker and cannot confirm that it has stopped. -/
def FailsCleanup : ManagerEvent → ManagerSystem → Prop
  | .run i c, x =>
    match x.taskOf i with
    | some (.close _ _) => c.closes = false
    | _ => False
  | .call _, _ => False

/-! ## What a step does to the workers -/

/-- The thread is not in the middle of a cleanup. -/
def Task.quiet : Task → Bool
  | .close _ _ | .settle _ _ => false
  | _ => true

/-- The steps outside a cleanup. -/
inductive Effect (c : Choice) (s : ManagerState) (task : Task) : ManagerState → Task → Prop
  | idle {s' : ManagerState} {next : Task} (llm : s'.llm = s.llm)
      (barrier : s'.cleanupBarrierGeneration = s.cleanupBarrierGeneration)
      (constructed : s'.constructed = s.constructed) (unstopped : s'.unstopped = s.unstopped)
      (quiet : next.quiet) : Effect c s task s' next
  | constructs {caller : Caller} {next : Task} (here : task = .construct caller)
      (llm : s.llm = none) (barrier : s.cleanupBarrierGeneration = none) (quiet : next.quiet) :
      Effect c s task (construct s c.construction) next
  | detaches {s' : ManagerState} {worker : Nat} {closing : Closing} (held : s.llm = some worker)
      (llm : s'.llm = none)
      (barrier : s'.cleanupBarrierGeneration = closing.generation.or s.cleanupBarrierGeneration)
      (constructed : s'.constructed = s.constructed) (unstopped : s'.unstopped = s.unstopped) :
      Effect c s task s' (.close worker closing)

theorem Caller.resume_quiet (caller : Caller) (worker : Option Nat) :
    (caller.resume worker).quiet := by
  cases caller <;> cases worker <;> rfl

theorem AfterInvalidate.task_quiet (next : AfterInvalidate) : next.task.quiet := by
  cases next <;> rfl

theorem Effect.stays {task next : Task} (quiet : next.quiet) : Effect c s task s next :=
  .idle rfl rfl rfl rfl quiet

theorem taskStep_effect {task : Task} (quiet : task.quiet) :
    Effect c s task (taskStep c s task).1 (taskStep c s task).2 := by
  cases task with
  | quickCheck caller | await o | checkEvent o | checkEpoch o | checkReplacement o replacement
  | awaitReplacement replacement =>
    simp only [taskStep]
    split <;> exact .stays rfl
  | construct caller =>
    simp only [taskStep]
    split
    · exact .stays rfl
    · next llm =>
      split
      · exact .stays (caller.resume_quiet none)
      · next barrier =>
        refine .constructs rfl (not_not.mp llm) (not_not.mp barrier) ?_
        split
        · rfl
        · exact caller.resume_quiet none
  | readInstance caller => exact .stays (caller.resume_quiet s.llm)
  | cancel recreate =>
    simp only [taskStep]
    split
    · refine .idle rfl rfl rfl rfl ?_
      split <;> rfl
    · next held => exact .detaches held rfl rfl rfl rfl
  | nextProfile failedRuntime exhausted | cancelReadiness failedRuntime =>
    simp only [taskStep]
    split
    · next held => exact .detaches held rfl rfl rfl rfl
    · exact .stays rfl
  | ensureReplacement observedGeneration caller =>
    simp only [taskStep]
    split
    · exact .idle rfl rfl rfl rfl rfl
    · next held =>
      split
      · exact .stays (caller.resume_quiet _)
      · exact .detaches held rfl rfl rfl rfl
  | invalidate worker next =>
    simp only [taskStep]
    split
    · next held => exact .detaches held rfl rfl rfl rfl
    · exact .stays next.task_quiet
  | close | settle => cases quiet
  | _ => exact .stays rfl

/-! ## The four situations -/

/-- No other thread is in the middle of a cleanup. -/
def QuietBut (x : ManagerSystem) (i : Nat) : Prop :=
  ∀ j t, j ≠ i → x.threads[j]? = some t → t.task.quiet

/-- Where the only worker is: in the manager, being closed, closed with the barrier
still set, or not confirmed stopped for good. -/
inductive Cleanup (x : ManagerSystem) : Prop
  | steady (quiet : ∀ t ∈ x.threads, t.task.quiet)
      (barrier : x.shared.cleanupBarrierGeneration = none)
      (unstopped : x.shared.unstopped = x.shared.llm.toFinset)
  | closing {i : Nat} {worker : Nat} {closing : Closing}
      (here : x.taskOf i = some (.close worker closing)) (others : QuietBut x i)
      (llm : x.shared.llm = none)
      (barrier : x.shared.cleanupBarrierGeneration = closing.generation)
      (unstopped : x.shared.unstopped = {worker})
  | settling {i : Nat} {stopped : Bool} {closing : Closing} {generation worker : Nat}
      (here : x.taskOf i = some (.settle stopped closing)) (others : QuietBut x i)
      (llm : x.shared.llm = none) (keyed : closing.generation = some generation)
      (barrier : x.shared.cleanupBarrierGeneration = some generation)
      (unstopped : x.shared.unstopped = if stopped then ∅ else {worker})
  | blocked {generation worker : Nat} (quiet : ∀ t ∈ x.threads, t.task.quiet)
      (llm : x.shared.llm = none)
      (barrier : x.shared.cleanupBarrierGeneration = some generation)
      (unstopped : x.shared.unstopped = {worker})

theorem newManager_cleanup : Cleanup newManager :=
  .steady nofun rfl rfl

theorem Cleanup.card_le (cleanup : Cleanup x) : x.shared.unstopped.card ≤ 1 := by
  cases cleanup with
  | steady _ _ unstopped =>
    rw [unstopped]
    cases x.shared.llm <;> simp
  | closing _ _ _ _ unstopped | blocked _ _ _ unstopped => simp [unstopped]
  | settling _ _ _ _ _ unstopped =>
    rw [unstopped]
    split <;> simp

/-! ## Quiet threads -/

variable {i : Nat} {t' : Thread} {t : Thread} {shared : ManagerState}

theorem quiet_set (quiet : ∀ t ∈ x.threads, t.task.quiet)
    (next : t'.task.quiet) : ∀ t ∈ x.threads.set i t', t.task.quiet := by
  intro t mem
  rcases List.mem_or_eq_of_mem_set mem with before | rfl
  · exact quiet t before
  · exact next

theorem quietBut_set (quiet : QuietBut x i) : QuietBut ⟨shared, x.threads.set i t'⟩ i := by
  intro j t ne at_
  rw [List.getElem?_set_ne (Ne.symm ne)] at at_
  exact quiet j t ne at_

theorem quietBut_of_quiet (quiet : ∀ t ∈ x.threads, t.task.quiet) (i : Nat) : QuietBut x i :=
  fun _ t _ at_ => quiet t (List.mem_of_getElem? at_)

/-! ## A step keeps the situations -/

theorem Operation.start_quiet (operation : Operation) : operation.start.quiet := by
  cases operation <;> rfl

theorem Closing.after_keyed {closing : Closing} {generation : Nat}
    (keyed : closing.generation = some generation) (stopped : Bool) :
    closing.after stopped = .settle stopped closing := by
  cases closing with
  | cancelled | invalidated | replaced => rfl
  | readinessFailed | readinessCancelled => cases keyed

theorem Closing.after_quiet {closing : Closing} (keyed : closing.generation = none)
    (stopped : Bool) : (closing.after stopped).quiet := by
  cases closing with
  | cancelled | invalidated | replaced => cases keyed
  | readinessFailed exhausted => cases exhausted <;> rfl
  | readinessCancelled => rfl

theorem Closing.settled_quiet (closing : Closing) (stopped : Bool) :
    (closing.settled stopped).quiet := by
  cases closing with
  | cancelled generation recreate => cases stopped <;> cases recreate <;> rfl
  | invalidated generation next => exact next.task_quiet
  | replaced generation caller =>
    cases stopped
    · exact caller.resume_quiet none
    · rfl
  | readinessFailed | readinessCancelled => rfl

/-- A thread that is in the middle of a cleanup is the one of the situation. -/
theorem QuietBut.here {i j : Nat} (others : QuietBut x i)
    (at_ : x.threads[j]? = some t) (busy : t.task.quiet = false) : j = i := by
  by_contra ne
  rw [others j t ne at_] at busy
  cases busy

theorem QuietBut.set_quiet {i j : Nat} (others : QuietBut x j) (quiet : t'.task.quiet) :
    QuietBut ⟨shared, x.threads.set i t'⟩ j := by
  intro k t ne at_
  by_cases same : i = k
  · subst same
    have bound := (List.getElem?_eq_some_iff.mp at_).1
    rw [List.length_set] at bound
    rw [List.getElem?_set_self bound] at at_
    cases at_
    exact quiet
  · rw [List.getElem?_set_ne same] at at_
    exact others k t ne at_

theorem call_cleanup (cleanup : Cleanup x) (operation : Operation) :
    Cleanup (managerStep (.call operation) x) := by
  have quiet_append : (∀ t ∈ x.threads, t.task.quiet) →
      ∀ t ∈ x.threads ++ [⟨operation.start, none, []⟩], t.task.quiet := by
    intro quiet t mem
    rcases List.mem_append.mp mem with before | new
    · exact quiet t before
    · rw [List.mem_singleton.mp new]
      exact operation.start_quiet
  have still {i : Nat} {task : Task} (here : x.taskOf i = some task) :
      (managerStep (.call operation) x).taskOf i = some task := by
    obtain ⟨t, at_, rfl⟩ := Option.map_eq_some_iff.mp here
    have bound := (List.getElem?_eq_some_iff.mp at_).1
    simp only [managerStep, ManagerSystem.taskOf, List.getElem?_append_left bound, at_,
      Option.map_some]
  have others_append {i : Nat} (others : QuietBut x i) :
      QuietBut (managerStep (.call operation) x) i := by
    intro j t ne at_
    simp only [managerStep] at at_
    rcases List.mem_append.mp (List.mem_of_getElem? at_) with before | new
    · by_cases bound : j < x.threads.length
      · rw [List.getElem?_append_left bound] at at_
        exact others j t ne at_
      · rw [List.getElem?_append_right (not_lt.mp bound)] at at_
        rw [List.mem_singleton.mp (List.mem_of_getElem? at_)]
        exact operation.start_quiet
    · rw [List.mem_singleton.mp new]
      exact operation.start_quiet
  cases cleanup with
  | steady quiet barrier unstopped => exact .steady (quiet_append quiet) barrier unstopped
  | closing here others llm barrier unstopped =>
    exact .closing (still here) (others_append others) llm barrier unstopped
  | settling here others llm keyed barrier unstopped =>
    exact .settling (still here) (others_append others) llm keyed barrier unstopped
  | blocked quiet llm barrier unstopped =>
    exact .blocked (quiet_append quiet) llm barrier unstopped

theorem quiet_cleanup (at_ : x.threads[i]? = some t)
    (quiet : t.task.quiet) (guarded : Guarded (.run i c) x) (cleanup : Cleanup x) :
    Cleanup (managerStep (.run i c) x) := by
  rw [managerStep_run c at_]
  have effect : Effect c x.shared t.task _ _ := taskStep_effect quiet
  generalize (taskStep c x.shared t.task).1 = shared at effect ⊢
  generalize (taskStep c x.shared t.task).2 = task at effect ⊢
  have elsewhere {j : Nat} {task : Task} (here : x.taskOf j = some task)
      (busy : task.quiet = false) : i ≠ j := by
    rintro rfl
    rw [taskOf_eq at_] at here
    cases here
    rw [quiet] at busy
    cases busy
  cases cleanup with
  | steady all barrier unstopped =>
    cases effect with
    | idle llm' barrier' constructed' unstopped' next =>
      exact .steady (quiet_set all next) (barrier'.trans barrier)
        (unstopped'.trans (by rw [llm']; exact unstopped))
    | constructs here llm barrier next =>
      simp only [Guarded, taskOf_eq at_, here] at guarded
      obtain ⟨kept, -⟩ := guarded llm barrier
      refine .steady (quiet_set all next) ?_ ?_
      · cases c.construction <;> exact barrier
      · cases construction : c.construction with
        | failed => exact unstopped
        | dropped => exact absurd construction kept
        | constructed => simp [construct, unstopped, llm]
    | detaches held llm' barrier' constructed' unstopped' =>
      refine .closing (taskOf_set at_) (quietBut_set (quietBut_of_quiet all i)) llm' ?_ ?_
      · rw [barrier', barrier, Option.or_none]
      · rw [unstopped', unstopped, held]
        rfl
  | closing here others llm barrier unstopped =>
    have ne := elsewhere here rfl
    cases effect with
    | idle llm' barrier' constructed' unstopped' next =>
      exact .closing ((taskOf_set_ne ne).trans here) (others.set_quiet next) (llm'.trans llm)
        (barrier'.trans barrier) (unstopped'.trans unstopped)
    | constructs at_construct _ none next =>
      -- a worker that failed its readiness check is being closed
      simp only [Guarded, taskOf_eq at_, at_construct] at guarded
      obtain ⟨-, ready⟩ := guarded llm none
      obtain ⟨t', at', task'⟩ := Option.map_eq_some_iff.mp here
      have closes := ready t' (List.mem_of_getElem? at')
      rw [task', Task.closesReadiness, ← barrier, none] at closes
      cases closes
    | detaches held => rw [llm] at held; cases held
  | settling here others llm keyed barrier unstopped =>
    have ne := elsewhere here rfl
    cases effect with
    | idle llm' barrier' constructed' unstopped' next =>
      exact .settling ((taskOf_set_ne ne).trans here) (others.set_quiet next) (llm'.trans llm)
        keyed (barrier'.trans barrier) (unstopped'.trans unstopped)
    | constructs _ _ none next => rw [barrier] at none; cases none
    | detaches held => rw [llm] at held; cases held
  | blocked all llm barrier unstopped =>
    cases effect with
    | idle llm' barrier' constructed' unstopped' next =>
      exact .blocked (quiet_set all next) (llm'.trans llm) (barrier'.trans barrier)
        (unstopped'.trans unstopped)
    | constructs _ _ none next => rw [barrier] at none; cases none
    | detaches held => rw [llm] at held; cases held

theorem QuietBut.all_set (others : QuietBut x i)
    (next : t'.task.quiet) : ∀ t ∈ x.threads.set i t', t.task.quiet := by
  intro t mem
  rcases mem_set_elim mem with rfl | ⟨j, ne, at_⟩
  · exact next
  · exact others j t ne at_

theorem close_cleanup {worker : Nat} {closing : Closing}
    (at_ : x.threads[i]? = some t) (task : t.task = .close worker closing)
    (guarded : Guarded (.run i c) x) (cleanup : Cleanup x) :
    Cleanup (managerStep (.run i c) x) := by
  have busy : t.task.quiet = false := by rw [task]; rfl
  rw [managerStep_run c at_]
  cases cleanup with
  | steady all | blocked all =>
    rw [all t (List.mem_of_getElem? at_)] at busy
    cases busy
  | settling here others =>
    obtain rfl := others.here at_ busy
    rw [taskOf_eq at_, task] at here
    cases here
  | closing here others llm barrier unstopped =>
    obtain rfl := others.here at_ busy
    rw [taskOf_eq at_, task] at here
    obtain ⟨rfl, rfl⟩ : worker = _ ∧ closing = _ := by simpa using here
    simp only [Guarded, taskOf_eq at_, task] at guarded
    have left : (taskStep c x.shared t.task).1.unstopped = if c.closes then ∅ else {worker} := by
      rw [task]
      simp only [taskStep, unstopped]
      split
      · simp
      · rfl
    have next : (taskStep c x.shared t.task).2 = closing.after c.closes := by rw [task]; rfl
    have kept : (taskStep c x.shared t.task).1.llm = none ∧
        (taskStep c x.shared t.task).1.cleanupBarrierGeneration = closing.generation := by
      rw [task]
      exact ⟨llm, barrier⟩
    cases keyed : closing.generation with
    | none =>
      rw [guarded keyed] at left
      refine .steady (others.all_set ?_) (kept.2.trans keyed) ?_
      · rw [next]
        exact Closing.after_quiet keyed c.closes
      · rw [left, kept.1]
        rfl
    | some generation =>
      refine .settling (taskOf_set at_ |>.trans ?_) (quietBut_set others) kept.1 keyed
        (kept.2.trans keyed) left
      rw [next, Closing.after_keyed keyed]

theorem settle_cleanup {stopped : Bool} {closing : Closing}
    (at_ : x.threads[i]? = some t) (task : t.task = .settle stopped closing)
    (cleanup : Cleanup x) : Cleanup (managerStep (.run i c) x) := by
  have busy : t.task.quiet = false := by rw [task]; rfl
  rw [managerStep_run c at_]
  cases cleanup with
  | steady all | blocked all =>
    rw [all t (List.mem_of_getElem? at_)] at busy
    cases busy
  | closing here others =>
    obtain rfl := others.here at_ busy
    rw [taskOf_eq at_, task] at here
    cases here
  | @settling _ _ _ generation worker here others llm keyed barrier unstopped =>
    obtain rfl := others.here at_ busy
    rw [taskOf_eq at_, task] at here
    obtain ⟨rfl, rfl⟩ : stopped = _ ∧ closing = _ := by simpa using here
    have settled : (taskStep c x.shared t.task).1 = settleCleanup x.shared generation stopped := by
      rw [task]
      simp only [taskStep, keyed]
    have next : (taskStep c x.shared t.task).2.quiet := by
      rw [task]
      exact closing.settled_quiet stopped
    cases stopped with
    | true =>
      refine .steady (others.all_set next) ?_ ?_
      · simp [settled, settleCleanup, barrier]
      · simp [settled, settleCleanup, barrier, unstopped, llm]
    | false =>
      have same : settleCleanup x.shared generation false = x.shared := by simp [settleCleanup]
      rw [same] at settled
      exact .blocked (others.all_set next) (by rw [settled]; exact llm)
        (by rw [settled]; exact barrier) (by rw [settled]; exact unstopped)

theorem managerStep_cleanup (guarded : Guarded ev x) (cleanup : Cleanup x) :
    Cleanup (managerStep ev x) := by
  cases ev with
  | call operation => exact call_cleanup cleanup operation
  | run i c =>
    cases at_ : x.threads[i]? with
    | none =>
      simp only [managerStep, at_]
      exact cleanup
    | some t =>
      cases quiet : t.task.quiet with
      | true => exact quiet_cleanup at_ quiet guarded cleanup
      | false =>
        cases task : t.task with
        | close worker closing => exact close_cleanup at_ task guarded cleanup
        | settle stopped closing => exact settle_cleanup at_ task cleanup
        | _ => rw [task] at quiet; cases quiet

/-! ## Constructions -/

theorem constructs_inv (constructs : Constructs ev x) :
    ∃ i c caller, ev = .run i c ∧ x.taskOf i = some (.construct caller) ∧
      x.shared.llm = none ∧ x.shared.cleanupBarrierGeneration = none := by
  unfold Constructs at constructs
  cases ev with
  | call operation => exact absurd constructs (lt_irrefl _)
  | run i c =>
    cases at_ : x.threads[i]? with
    | none =>
      simp only [managerStep, at_] at constructs
      exact absurd constructs (lt_irrefl _)
    | some t =>
      rw [managerStep_run c at_] at constructs
      cases quiet : t.task.quiet with
      | true =>
        have effect : Effect c x.shared t.task _ _ := taskStep_effect quiet
        generalize (taskStep c x.shared t.task).1 = shared at effect constructs
        generalize (taskStep c x.shared t.task).2 = task at effect constructs
        cases effect with
        | idle _ _ constructed | detaches _ _ _ constructed =>
          exact absurd constructs (not_lt.mpr (le_of_eq constructed))
        | @constructs caller _ here llm barrier _ =>
          exact ⟨i, c, caller, rfl, by rw [taskOf_eq at_, here], llm, barrier⟩
      | false =>
        cases task : t.task with
        | close worker closing =>
          rw [task] at constructs
          exact absurd constructs (lt_irrefl _)
        | settle stopped closing =>
          rw [task] at constructs
          have same : (taskStep c x.shared (.settle stopped closing)).1.constructed =
              x.shared.constructed := by
            simp only [taskStep]
            split
            · unfold settleCleanup
              split <;> rfl
            · rfl
          exact absurd constructs (not_lt.mpr (le_of_eq same))
        | _ => rw [task] at quiet; cases quiet

theorem Cleanup.constructs_none (cleanup : Cleanup x) (guarded : Guarded ev x)
    (constructs : Constructs ev x) : x.shared.unstopped = ∅ := by
  obtain ⟨i, c, caller, rfl, here, llm, none⟩ := constructs_inv constructs
  cases cleanup with
  | steady _ _ unstopped => rw [unstopped, llm]; rfl
  | closing busy _ _ barrier =>
    simp only [Guarded, here] at guarded
    obtain ⟨-, ready⟩ := guarded llm none
    obtain ⟨t, at_, task⟩ := Option.map_eq_some_iff.mp busy
    have closes := ready t (List.mem_of_getElem? at_)
    rw [task, Task.closesReadiness, ← barrier, none] at closes
    cases closes
  | settling _ _ _ _ barrier | blocked _ _ barrier => rw [none] at barrier; cases barrier

/-- The barrier stands for good: a cleanup has failed, or is about to be found failed. -/
structure Barred (x : ManagerSystem) : Prop where
  llm : x.shared.llm = none
  barrier : x.shared.cleanupBarrierGeneration.isSome
  cleanups : ∀ t ∈ x.threads, t.task.quiet ∨ ∃ closing, t.task = .settle false closing

theorem Cleanup.barred (cleanup : Cleanup x) (guarded : Guarded ev x)
    (fails : FailsCleanup ev x) : Barred (managerStep ev x) := by
  unfold FailsCleanup at fails
  split at fails
  · next i c =>
    split at fails
    · next worker closing here =>
      obtain ⟨t, at_, task⟩ := Option.map_eq_some_iff.mp here
      have busy : t.task.quiet = false := by rw [task]; rfl
      rw [managerStep_run c at_]
      cases cleanup with
      | steady all | blocked all =>
        rw [all t (List.mem_of_getElem? at_)] at busy
        cases busy
      | settling here' others =>
        obtain rfl := others.here at_ busy
        rw [here] at here'
        cases here'
      | closing here' others llm barrier unstopped =>
        obtain rfl := others.here at_ busy
        rw [here] at here'
        obtain ⟨rfl, rfl⟩ : worker = _ ∧ closing = _ := by simpa using here'
        simp only [Guarded, here] at guarded
        cases keyed : closing.generation with
        | none => exact absurd (guarded keyed) (by simp [fails])
        | some generation =>
          refine ⟨by rw [task]; exact llm, by rw [task]; simp [taskStep, barrier, keyed], ?_⟩
          intro t' mem
          rcases mem_set_elim mem with rfl | ⟨j, ne, at'⟩
          · refine Or.inr ⟨closing, ?_⟩
            simp [task, taskStep, Closing.after_keyed keyed, fails]
          · exact Or.inl (others j t' ne at')
    · exact fails.elim
  · exact fails.elim

theorem managerStep_barred (ev : ManagerEvent) (barred : Barred x) : Barred (managerStep ev x) := by
  cases ev with
  | call operation =>
    refine ⟨barred.llm, barred.barrier, ?_⟩
    intro t mem
    rcases List.mem_append.mp mem with before | new
    · exact barred.cleanups t before
    · rw [List.mem_singleton.mp new]
      exact Or.inl operation.start_quiet
  | run i c =>
    cases at_ : x.threads[i]? with
    | none =>
      simp only [managerStep, at_]
      exact barred
    | some t =>
      rw [managerStep_run c at_]
      have cleanups_set {t' : Thread} (next : t'.task.quiet) :
          ∀ t ∈ x.threads.set i t', t.task.quiet ∨ ∃ closing, t.task = .settle false closing := by
        intro t mem
        rcases List.mem_or_eq_of_mem_set mem with before | rfl
        · exact barred.cleanups t before
        · exact Or.inl next
      rcases barred.cleanups t (List.mem_of_getElem? at_) with quiet | ⟨closing, task⟩
      · have effect : Effect c x.shared t.task _ _ := taskStep_effect quiet
        generalize (taskStep c x.shared t.task).1 = shared at effect ⊢
        generalize (taskStep c x.shared t.task).2 = task at effect ⊢
        cases effect with
        | idle llm barrier _ _ next =>
          exact ⟨llm.trans barred.llm, barrier ▸ barred.barrier, cleanups_set next⟩
        | constructs _ _ none =>
          have set := barred.barrier
          rw [none] at set
          cases set
        | detaches held =>
          rw [barred.llm] at held
          cases held
      · have same : (taskStep c x.shared t.task).1 = x.shared := by
          rw [task]
          simp only [taskStep]
          split
          · simp [settleCleanup]
          · rfl
        rw [same]
        refine ⟨barred.llm, barred.barrier, cleanups_set ?_⟩
        rw [task]
        exact closing.settled_quiet false

theorem Barred.not_constructs (barred : Barred x) : ¬ Constructs ev x := by
  intro constructs
  obtain ⟨_, _, _, _, _, _, none⟩ := constructs_inv constructs
  have set := barred.barrier
  rw [none] at set
  cases set

/-- At most one worker is unstopped, no worker is constructed before the last one has
been confirmed stopped, and a cleanup that fails blocks every later construction,
whatever the operations do at the same time. -/
theorem worker_barrier (evs : List ManagerEvent)
    (guarded : Along managerStep Guarded evs newManager) :
    (runs managerStep evs newManager).shared.unstopped.card ≤ 1 ∧
    (∀ ev, Guarded ev (runs managerStep evs newManager) →
      Constructs ev (runs managerStep evs newManager) →
      (runs managerStep evs newManager).shared.unstopped = ∅) ∧
    ∀ ev, Guarded ev (runs managerStep evs newManager) →
      FailsCleanup ev (runs managerStep evs newManager) →
      ∀ evs' ev', ¬ Constructs ev'
        (runs managerStep evs' (managerStep ev (runs managerStep evs newManager))) := by
  have cleanup := along_runs (fun _ _ => managerStep_cleanup) guarded newManager_cleanup
  refine ⟨cleanup.card_le, fun ev => cleanup.constructs_none, ?_⟩
  intro ev guarded fails evs' ev'
  exact (invariant_runs (fun ev _ barred => managerStep_barred ev barred) evs'
    (cleanup.barred guarded fails)).not_constructs

/-- A step in which everything goes well, but for closing a worker. -/
def closing (closes : Bool) : Choice := ⟨.constructed, closes, true, .returned⟩

/-- The first worker is constructed, and a cancellation has detached it. -/
def detached : List ManagerEvent :=
  [.call .getLlmInstance, .run 0 (closing true), .run 0 (closing true), .run 0 (closing true),
    .call (.terminateActiveWorkerForCancellation true), .run 1 (closing true)]

/-- The cancellation stops the first worker and constructs the next one. -/
def replaced : List ManagerEvent :=
  detached ++ List.replicate 5 (.run 1 (closing true))

/-- The two samples: a replacement, and a cleanup that fails. -/
theorem worker_barrier_sample :
    ((runs managerStep replaced newManager).shared.unstopped.card ≤ 1 ∧
      (runs managerStep replaced newManager).shared.llm = some 1) ∧
    ∀ evs' ev', ¬ Constructs ev' (runs managerStep evs'
      (managerStep (.run 1 (closing false)) (runs managerStep detached newManager))) := by
  have replaced_guarded : Along managerStep Guarded replaced newManager := by decide +kernel
  have detached_guarded : Along managerStep Guarded detached newManager := by decide +kernel
  have guarded : Guarded (.run 1 (closing false)) (runs managerStep detached newManager) := by
    decide +kernel
  have fails : FailsCleanup (.run 1 (closing false)) (runs managerStep detached newManager) := by
    rfl
  exact ⟨⟨(worker_barrier replaced replaced_guarded).1, by decide +kernel⟩,
    (worker_barrier detached detached_guarded).2.2 _ guarded fails⟩

/-- While the first worker, which failed its readiness check, is still being closed,
another thread finds no barrier and constructs the second one. -/
theorem two_workers :
    ¬ (runs managerStep
      [.call .getLlmInstance, .run 0 (closing true), .run 0 (closing true),
        .run 0 (closing true),
        .call (.reinitializeQwen64kWithNextProfileAfterReadinessFailure 0 false),
        .run 1 (closing true), .call .getLlmInstance, .run 2 (closing true),
        .run 2 (closing true)]
      newManager).shared.unstopped.card ≤ 1 := by
  decide +kernel

end ModelManager
