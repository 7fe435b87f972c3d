import TokenPlace.Lib.Schedules
import TokenPlace.Desktop.CancelLine
import TokenPlace.Desktop.Workers

/-!
# One stop result for a session

A stop waits for the result that is stored in the record that it has marked, and it
looks for it in the slot of the current record. `Orderly` names the steps that break
this: a result is stored over another one, a new session is reserved before a stop has
seen its result, and a stop finds its deadline passed after it has looked. Without
them `Waits` is what holds of each waiting stop, and every stop returns the result
that was stored for it in time.
-/

namespace Operator

open Schedules

variable {c : Choice} {s s' : ComputeNodeState} {x y : OperatorSystem} {task : Task} {o : Outcome}
  {r r' : BridgeProcessRecord} {t : Thread}

/-! ## Statement -/

/-- The stop that waits for a result. -/
def Task.waiting : Task → Option Waiter
  | .register waiter | .check waiter _ | .pastDeadline waiter _ | .parked waiter _ => some waiter
  | _ => none

/-- A thread is about to notify the waiters of that `Notify`. -/
def OperatorSystem.Pending (x : OperatorSystem) (notify : Nat) : Prop :=
  ∃ t ∈ x.threads, t.notifying = some notify

/-- The results that were stored in the record that the stop has marked. -/
def ComputeNodeState.resultsFor (s : ComputeNodeState) (waiter : Waiter) : List Decision :=
  s.decisions.filter fun d => decide (d.record = waiter.notify)

/-- What the callers of a stop rely on. -/
structure OneResult (x : OperatorSystem) : Prop where
  stored : (x.shared.decisions.map Decision.record).Nodup
  current : ∀ r, x.shared.bridgeProcess = some r → ∀ result, r.stopResult = some result ↔
    ∃ d ∈ x.shared.decisions, d.record = r.notify ∧ d.result = result
  worker : ∀ (i j : Nat) (t t' : Thread) role role', x.threads[i]? = some t →
    x.threads[j]? = some t' → t.task.role = some role → t'.task.role = some role' →
    role.works → role'.works → role.notify = role'.notify → i = j
  cancelled : ∀ bridge ∈ x.shared.bridges, bridge.cancelLines ≤ 1
  answered : ∀ t ∈ x.threads, ∀ waiter session result,
    t.task = .returned (some waiter) session result →
    ∀ d ∈ x.shared.resultsFor waiter, d.time < waiter.deadline → result = d.result
  awake : ∀ t ∈ x.threads, ∀ waiter seen, t.task = .parked waiter seen →
    x.shared.resultsFor waiter ≠ [] →
    seen < x.shared.notices waiter.notify ∨ x.Pending waiter.notify

/-- The step neither stores a second result, nor replaces a record before a stop has
seen its result, nor gives up a stop whose result has come since it looked. -/
def Task.Orderly (x : OperatorSystem) : Task → Prop
  | .reserve _ =>
    x.shared.bridgeProcess.any BridgeProcessRecord.isActive = false →
      ∀ t ∈ x.threads, ∀ waiter ∈ t.task.waiting, ∀ d ∈ x.shared.resultsFor waiter,
        waiter.deadline ≤ d.time
  | .pastDeadline waiter _ =>
    waiter.deadline ≤ x.shared.now → ∀ d ∈ x.shared.resultsFor waiter, waiter.deadline ≤ d.time
  | task => ∀ r ∈ x.shared.bridgeProcess, task.DecidesFor r → r.stopResult = none

/-- The same for an event. -/
def Orderly : OperatorEvent → OperatorSystem → Prop
  | .run i _, x =>
    match x.threads[i]? with
    | some ⟨task, none⟩ => task.Orderly x
    | _ => True
  | _, _ => True

instance (r : BridgeProcessRecord) (task : Task) : Decidable (task.DecidesFor r) := by
  unfold Task.DecidesFor
  induction task using Task.casesOn <;> (dsimp only; infer_instance)

instance (x : OperatorSystem) (task : Task) : Decidable (task.Orderly x) := by
  unfold Task.Orderly
  split <;> infer_instance

instance (ev : OperatorEvent) (x : OperatorSystem) : Decidable (Orderly ev x) := by
  unfold Orderly
  induction ev using OperatorEvent.casesOn with
  | run i c =>
    dsimp only
    exact match x.threads[i]? with
      | some ⟨_, none⟩ => by dsimp only; infer_instance
      | some ⟨_, some _⟩ | none => isTrue trivial
  | _ => exact isTrue trivial

/-! ## What holds of a waiting stop -/

variable {waiter : Waiter} {result : StopResult} {decisions : List Decision} {i : Nat}
  {d : Decision}

theorem mem_resultsFor :
    d ∈ s.resultsFor waiter ↔ d ∈ s.decisions ∧ d.record = waiter.notify := by
  simp [ComputeNodeState.resultsFor]

theorem resultsFor_ne_nil :
    s.resultsFor waiter ≠ [] ↔ ∃ d, d ∈ s.resultsFor waiter :=
  ⟨List.exists_mem_of_ne_nil _, fun ⟨_, mem⟩ => List.ne_nil_of_mem mem⟩

/-- The record that the stop has marked is the current one, or its result came too late. -/
def Standing (x : OperatorSystem) (waiter : Waiter) : Prop :=
  (∃ r, x.shared.bridgeProcess = some r ∧ r.notify = waiter.notify) ∨
    ∃ d ∈ x.shared.resultsFor waiter, waiter.deadline ≤ d.time

/-- A result that is there has been notified since, or is about to be. -/
def Noticed (x : OperatorSystem) (waiter : Waiter) (seen : Nat) : Prop :=
  x.shared.resultsFor waiter ≠ [] →
    seen < x.shared.notices waiter.notify ∨ x.Pending waiter.notify

/-- The answer of a stop: its result, unless there was none before its deadline. -/
structure Answer (x : OperatorSystem) (waiter : Waiter) (result : StopResult) : Prop where
  closed : waiter.deadline ≤ x.shared.now ∨ x.shared.resultsFor waiter ≠ []
  result : ∀ d ∈ x.shared.resultsFor waiter, d.time < waiter.deadline → result = d.result

/-- What holds of a stop at each point of its wait. -/
def Task.Waits (x : OperatorSystem) : Task → Prop
  | .register waiter => Standing x waiter
  | .check waiter seen => Standing x waiter ∧ seen ≤ x.shared.notices waiter.notify
  | .pastDeadline waiter seen =>
    Standing x waiter ∧ seen ≤ x.shared.notices waiter.notify ∧
      (waiter.deadline ≤ x.shared.now ∨ Noticed x waiter seen)
  | .parked waiter seen =>
    Standing x waiter ∧ seen ≤ x.shared.notices waiter.notify ∧ Noticed x waiter seen
  | .returned (some waiter) _ result => Answer x waiter result
  | _ => True

/-- What a step of another task does to a waiting stop. -/
structure Later (x y : OperatorSystem) : Prop where
  now : x.shared.now ≤ y.shared.now
  kept : ∀ d ∈ x.shared.decisions, d ∈ y.shared.decisions
  new : ∀ d ∈ y.shared.decisions, d ∈ x.shared.decisions ∨
    x.shared.now ≤ d.time ∧ (∀ d' ∈ x.shared.decisions, d'.record ≠ d.record) ∧ y.Pending d.record
  notices : ∀ n < x.shared.notified.length, x.shared.notices n ≤ y.shared.notices n
  pending : ∀ n < x.shared.notified.length, x.Pending n →
    x.shared.notices n < y.shared.notices n ∨ y.Pending n

theorem Later.resultsFor (later : Later x y)
    (mem : d ∈ x.shared.resultsFor waiter) : d ∈ y.shared.resultsFor waiter :=
  mem_resultsFor.mpr ⟨later.kept d (mem_resultsFor.mp mem).1, (mem_resultsFor.mp mem).2⟩

theorem Later.noticed (later : Later x y) {seen : Nat}
    (bound : waiter.notify < x.shared.notified.length)
    (le : seen ≤ x.shared.notices waiter.notify) (noticed : Noticed x waiter seen) :
    Noticed y waiter seen := by
  intro some_
  have grows := later.notices _ bound
  obtain ⟨d, mem⟩ := resultsFor_ne_nil.mp some_
  obtain ⟨mem, here⟩ := mem_resultsFor.mp mem
  obtain old | ⟨_, _, pending⟩ := later.new d mem
  · have before := noticed (resultsFor_ne_nil.mpr ⟨d, mem_resultsFor.mpr ⟨old, here⟩⟩)
    obtain before | pending := before
    · exact .inl (Nat.lt_of_lt_of_le before grows)
    · obtain sent | pending := later.pending _ bound pending
      · exact .inl (Nat.lt_of_le_of_lt le sent)
      · exact .inr pending
  · rw [here] at pending
    exact .inr pending

theorem Later.answer (later : Later x y)
    (answer : Answer x waiter result) : Answer y waiter result := by
  constructor
  · obtain late | some_ := answer.closed
    · exact .inl (Nat.le_trans late later.now)
    · obtain ⟨d, mem⟩ := resultsFor_ne_nil.mp some_
      exact .inr (resultsFor_ne_nil.mpr ⟨d, later.resultsFor mem⟩)
  · intro d mem inTime
    obtain ⟨mem, here⟩ := mem_resultsFor.mp mem
    obtain old | ⟨time, fresh, _⟩ := later.new d mem
    · exact answer.result d (mem_resultsFor.mpr ⟨old, here⟩) inTime
    · obtain late | some_ := answer.closed
      · omega
      · obtain ⟨d', mem'⟩ := resultsFor_ne_nil.mp some_
        obtain ⟨mem', here'⟩ := mem_resultsFor.mp mem'
        exact absurd (here'.trans here.symm) (fresh d' mem')

theorem Later.waits (later : Later x y) (waits : task.Waits x)
    (bound : ∀ waiter, task.role = some (.waiter waiter) →
      waiter.notify < x.shared.notified.length)
    (standing : ∀ waiter, task.waiting = some waiter → Standing x waiter → Standing y waiter) :
    task.Waits y := by
  have grows : ∀ waiter, task.role = some (.waiter waiter) →
      x.shared.notices waiter.notify ≤ y.shared.notices waiter.notify :=
    fun waiter at_ => later.notices _ (bound waiter at_)
  cases task with
  | register waiter => exact standing waiter rfl waits
  | check waiter seen =>
    exact ⟨standing waiter rfl waits.1, Nat.le_trans waits.2 (grows waiter rfl)⟩
  | pastDeadline waiter seen =>
    obtain ⟨old, le, noticed⟩ := waits
    refine ⟨standing waiter rfl old, Nat.le_trans le (grows waiter rfl), ?_⟩
    obtain late | noticed := noticed
    · exact .inl (Nat.le_trans late later.now)
    · exact .inr (later.noticed (bound waiter rfl) le noticed)
  | parked waiter seen =>
    obtain ⟨old, le, noticed⟩ := waits
    exact ⟨standing waiter rfl old, Nat.le_trans le (grows waiter rfl),
      later.noticed (bound waiter rfl) le noticed⟩
  | returned waiter session result =>
    cases waiter with
    | none => trivial
    | some waiter => exact later.answer waits
  | _ => trivial

/-! ## What a step stores -/

/-- The stored result of a record is the one that was decided for it. -/
def Agrees (decisions : List Decision) (r : BridgeProcessRecord) : Prop :=
  ∀ result, r.stopResult = some result ↔ ∃ d ∈ decisions, d.record = r.notify ∧ d.result = result

theorem Agrees.congr (agrees : Agrees decisions r)
    (notify : r'.notify = r.notify) (stopResult : r'.stopResult = r.stopResult) :
    Agrees decisions r' := by
  unfold Agrees
  rw [notify, stopResult]
  exact agrees

theorem Agrees.undecided (agrees : Agrees decisions r)
    (none_ : r.stopResult = none) : ∀ d ∈ decisions, d.record ≠ r.notify := by
  intro d mem here
  have decided := (agrees d.result).mpr ⟨d, mem, here, rfl⟩
  rw [none_] at decided
  cases decided

theorem Agrees.decided (agrees : Agrees decisions r)
    (some_ : r.stopResult.isSome) : ∃ d ∈ decisions, d.record = r.notify := by
  obtain ⟨result, eq⟩ := Option.isSome_iff_exists.mp some_
  obtain ⟨d, mem, here, _⟩ := (agrees result).mp eq
  exact ⟨d, mem, here⟩

theorem Agrees.stores (agrees : Agrees decisions r) (none_ : r.stopResult = none) {time : Nat}
    (notify : r'.notify = r.notify) (stopResult : r'.stopResult = some result) :
    Agrees (decisions ++ [⟨r.notify, result, time⟩]) r' := by
  intro result'
  have fresh := agrees.undecided none_
  rw [notify, stopResult]
  constructor
  · intro same
    exact ⟨_, List.mem_append_right _ (List.mem_singleton.mpr rfl), rfl, Option.some.inj same⟩
  · rintro ⟨d, mem, here, same⟩
    obtain old | new := List.mem_append.mp mem
    · exact absurd here (fresh d old)
    · rw [List.mem_singleton.mp new] at same
      exact congrArg some same

theorem Effect.stores (effect : Effect s task o)
    (agrees : ∀ r, s.bridgeProcess = some r → Agrees s.decisions r)
    (old : ∀ d ∈ s.decisions, d.record < s.notified.length)
    (undecided : ∀ r, s.bridgeProcess = some r → task.DecidesFor r → r.stopResult = none) :
    (∀ r', o.shared.bridgeProcess = some r' → Agrees o.shared.decisions r') ∧
      (o.shared.decisions = s.decisions ∨
        ∃ r result, task.Decides result ∧ s.bridgeProcess = some r ∧ task.DecidesFor r ∧
          r.stopResult = none ∧ o.shared.decisions = s.decisions ++ [⟨r.notify, result, s.now⟩]) := by
  cases effect with
  | keeps record decisions =>
    rw [record, decisions]
    exact ⟨agrees, .inl rfl⟩
  | numbers _ out =>
    subst out
    exact ⟨agrees, .inl rfl⟩
  | reserves _ _ out =>
    subst out
    refine ⟨?_, .inl rfl⟩
    rintro r' ⟨⟩ result
    constructor
    · exact nofun
    · rintro ⟨d, mem, here, _⟩
      exact absurd here (Nat.ne_of_lt (old d mem))
  | attaches _ found _ _ shared =>
    rw [shared]
    refine ⟨?_, .inl rfl⟩
    rintro r' ⟨⟩
    exact (agrees _ found).congr rfl rfl
  | takes _ found _ _ taken out | claims _ found _ _ _ _ taken out =>
    subst out
    refine ⟨?_, .inl rfl⟩
    rintro r' ⟨⟩
    exact (agrees _ found).congr (by rw [taken]) (by rw [taken])
  | marks _ found _ _ out | completes _ found _ _ out =>
    subst out
    refine ⟨?_, .inl rfl⟩
    rintro r' ⟨⟩
    exact (agrees _ found).congr rfl rfl
  | decides here found owned record decided decisions =>
    have none_ := undecided _ found owned
    rw [decisions, record]
    refine ⟨?_, .inr ⟨_, _, here, found, owned, none_, rfl⟩⟩
    rintro r' ⟨⟩
    exact (agrees _ found).stores none_ decided.notify decided.stopResult

/-- Whoever stores a result notifies the waiters of that record next. -/
theorem Task.Decides.notifying (here : task.Decides result)
    (found : s.bridgeProcess = some r) (owned : task.DecidesFor r)
    (named : ∀ locals shutdown result, task = .commitEnd locals shutdown result →
      r.notify = locals.notify) :
    (taskStep c s task).notifying = some r.notify := by
  cases here with
  | startupFailed session | spawnedFailed session =>
    have at_ : s.recordOf session = some r := recordOf_eq_some.mpr ⟨found, owned⟩
    simp only [taskStep, notifies, at_, Option.map_some]
  | commitEnd locals shutdown result =>
    exact congrArg some (named locals shutdown result rfl).symm
  | commitStop locals shutdown result =>
    have at_ : s.bridgeProcess.filter (fun r => r.matchesSession locals.session) = some r :=
      Option.filter_eq_some_iff.mpr ⟨found, owned⟩
    simp only [taskStep, notifies, commitSupervisor, at_]

/-! ## Every run -/

/-- What holds between any two steps. -/
structure Answers (x : OperatorSystem) : Prop where
  coherent : Coherent x
  roles : Roles x
  spent : Spent x
  timed : ∀ d ∈ x.shared.decisions, d.time ≤ x.shared.now
  old : ∀ d ∈ x.shared.decisions, d.record < x.shared.notified.length
  stored : (x.shared.decisions.map Decision.record).Nodup
  agrees : ∀ r, x.shared.bridgeProcess = some r → Agrees x.shared.decisions r
  waits : ∀ t ∈ x.threads, t.task.Waits x
  quiet : ∀ t ∈ x.threads, t.task.waiting ≠ none → t.notifying = none

theorem newOperator_answers : Answers newOperator := by
  refine ⟨newOperator_coherent, newOperator_roles, newOperator_spent, ?_, ?_, ?_, ?_, ?_, ?_⟩ <;>
    simp [newOperator]

theorem Orderly.undecided (orderly : Orderly (.run i c) x)
    (at_ : x.threads[i]? = some t) (quiet : t.notifying = none)
    (found : x.shared.bridgeProcess = some r) (owned : t.task.DecidesFor r) :
    r.stopResult = none := by
  obtain ⟨task, notifying⟩ := t
  cases quiet
  simp only [Orderly, at_] at orderly
  cases task with
  | startupFailed | spawnedFailed | commitEnd | commitStop => exact orderly r found owned
  | _ => exact owned.elim

theorem Answers.stores (answers : Answers x) (at_ : x.threads[i]? = some t)
    (orderly : Orderly (.run i c) x) :
    (∀ r', (threadStep c x.shared t).shared.bridgeProcess = some r' →
      Agrees (threadStep c x.shared t).shared.decisions r') ∧
    ((threadStep c x.shared t).shared.decisions = x.shared.decisions ∨
      ∃ r result, x.shared.bridgeProcess = some r ∧ r.stopResult = none ∧
        (threadStep c x.shared t).notifying = some r.notify ∧
        (threadStep c x.shared t).shared.decisions =
          x.shared.decisions ++ [⟨r.notify, result, x.shared.now⟩]) := by
  have undecided : t.notifying = none → ∀ r, x.shared.bridgeProcess = some r →
      t.task.DecidesFor r → r.stopResult = none :=
    fun quiet r found owned => orderly.undecided at_ quiet found owned
  have mem := List.mem_of_getElem? at_
  obtain ⟨task, notifying⟩ := t
  cases notifying with
  | some notify => exact ⟨answers.agrees, .inl rfl⟩
  | none =>
    obtain ⟨agrees, same | ⟨r, result, here, found, owned, none_, stored⟩⟩ :=
      (taskStep_effect c x.shared task).stores answers.agrees answers.old (undecided rfl)
    · exact ⟨agrees, .inl same⟩
    · refine ⟨agrees, .inr ⟨r, result, found, none_, ?_, stored⟩⟩
      refine here.notifying found owned ?_
      rintro locals shutdown result rfl
      exact (answers.roles.anchored _ mem _ rfl).named locals.session rfl r found owned

theorem Answers.later (answers : Answers x) (at_ : x.threads[i]? = some t)
    (orderly : Orderly (.run i c) x) :
    Later x ⟨(threadStep c x.shared t).shared, x.threadsAfter i (threadStep c x.shared t)⟩ := by
  obtain ⟨-, stores⟩ := answers.stores at_ orderly
  have notices := threadStep_notified c x.shared t
  refine ⟨?_, ?_, ?_, notices.2, ?_⟩
  · unfold threadStep
    split
    · exact Nat.le_refl _
    · exact Nat.le_of_eq (taskStep_frame c x.shared t.task).now.symm
  · intro d mem
    obtain same | ⟨r, result, _, _, _, stored⟩ := stores
    · rwa [same]
    · rw [stored]
      exact List.mem_append_left _ mem
  · intro d mem
    obtain same | ⟨r, result, found, none_, notifying, stored⟩ := stores
    · rw [same] at mem
      exact .inl mem
    · rw [stored] at mem
      obtain old | new := List.mem_append.mp mem
      · exact .inl old
      · rw [List.mem_singleton.mp new]
        exact .inr ⟨Nat.le_refl _, (answers.agrees r found).undecided none_,
          _, threadsAfter_self at_, notifying⟩
  · rintro n bound ⟨t', mem, pending⟩
    obtain ⟨j, at'⟩ := List.mem_iff_getElem?.mp mem
    by_cases same : j = i
    · subst same
      rw [at_] at at'
      cases at'
      left
      simp only [threadStep, pending, goes, notifyWaiters, ComputeNodeState.notices,
        List.getElem?_modify]
      simp [List.getElem?_eq_getElem bound]
    · exact .inr ⟨t', threadsAfter_other same at', pending⟩

/-- A stop keeps its record, unless its result came too late. -/
theorem Answers.standing (answers : Answers x) (at_ : x.threads[i]? = some t)
    (orderly : Orderly (.run i c) x) {t' : Thread} (mem : t' ∈ x.threads)
    (waiting : t'.task.waiting = some waiter) (standing : Standing x waiter) :
    Standing ⟨(threadStep c x.shared t).shared, x.threadsAfter i (threadStep c x.shared t)⟩
      waiter := by
  have later := answers.later at_ orderly
  obtain ⟨r, found, here⟩ | ⟨d, mem, late⟩ := standing
  · obtain ⟨task, notifying⟩ := t
    cases notifying with
    | some notify => exact .inl ⟨r, found, here⟩
    | none =>
      obtain ⟨r', found', same⟩ | ⟨session, reserves, inactive⟩ :=
        (taskStep_effect c x.shared task).remains found
      · exact .inl ⟨r', found', same.trans here⟩
      · -- the record that gives way has its result
        have completed : r.phase = .completed := by
          simp only [BridgeProcessRecord.isActive, Bool.or_eq_false_iff, decide_eq_false_iff_not,
            not_not] at inactive
          exact inactive.1
        have decided := (answers.coherent.sound r found).decided.mpr completed
        obtain ⟨d, stored, record⟩ := (answers.agrees r found).decided decided
        have result : d ∈ x.shared.resultsFor waiter :=
          mem_resultsFor.mpr ⟨stored, record.trans here⟩
        simp only [Orderly, at_, reserves, Task.Orderly] at orderly
        have late := orderly (by simp [found, inactive]) t' mem waiter waiting d result
        exact .inr ⟨d, later.resultsFor result, late⟩
  · exact .inr ⟨d, later.resultsFor mem, late⟩

theorem Answers.only (answers : Answers x) {d d' : Decision}
    (mem : d ∈ x.shared.resultsFor waiter) (mem' : d' ∈ x.shared.resultsFor waiter) : d = d' := by
  obtain ⟨mem, here⟩ := mem_resultsFor.mp mem
  obtain ⟨mem', here'⟩ := mem_resultsFor.mp mem'
  exact List.inj_on_of_nodup_map answers.stored mem mem' (here.trans here'.symm)

theorem Answers.found (answers : Answers x) (standing : Standing x waiter)
    (found : x.shared.bridgeProcess = some r)
    (decided : r.stopResult = some result) : Answer x waiter result := by
  obtain ⟨r', found', here⟩ | ⟨d₀, mem₀, late⟩ := standing
  · rw [found] at found'
    cases found'
    obtain ⟨d₀, stored, record, rfl⟩ := (answers.agrees r found result).mp decided
    have mem₀ : d₀ ∈ x.shared.resultsFor waiter := mem_resultsFor.mpr ⟨stored, record.trans here⟩
    exact ⟨.inr (List.ne_nil_of_mem mem₀), fun d mem _ => congrArg _ (answers.only mem₀ mem)⟩
  · refine ⟨.inr (List.ne_nil_of_mem mem₀), fun d mem inTime => ?_⟩
    rw [answers.only mem mem₀] at inTime
    exact absurd inTime (Nat.not_lt.mpr late)

theorem Answers.unfound (answers : Answers x) (standing : Standing x waiter)
    (none_ : ∀ r, x.shared.bridgeProcess = some r → r.notify = waiter.notify →
      r.stopResult = none) :
    waiter.deadline ≤ x.shared.now ∨ x.shared.resultsFor waiter = [] := by
  obtain ⟨r, found, here⟩ | ⟨d, result, late⟩ := standing
  · have undecided := (answers.agrees r found).undecided (none_ r found here)
    refine .inr (List.eq_nil_iff_forall_not_mem.mpr fun d result => ?_)
    obtain ⟨stored, record⟩ := mem_resultsFor.mp result
    exact undecided d stored (record.trans here.symm)
  · exact .inl (Nat.le_trans late (answers.timed d (mem_resultsFor.mp result).1))

theorem Answers.check (answers : Answers x) {seen : Nat}
    (mem : (⟨.check waiter seen, none⟩ : Thread) ∈ x.threads) (threads : List Thread) :
    (checkStep x.shared waiter seen).task.Waits ⟨x.shared, threads⟩ := by
  obtain ⟨standing, le⟩ := answers.waits _ mem
  have anchored := answers.roles.anchored _ mem _ rfl
  have waits : (∀ r, x.shared.bridgeProcess = some r → r.notify = waiter.notify →
      r.stopResult = none) → (Task.pastDeadline waiter seen).Waits ⟨x.shared, threads⟩ := by
    intro none_
    refine ⟨standing, le, ?_⟩
    obtain late | nothing := answers.unfound standing none_
    · exact .inl late
    · exact .inr fun some_ => absurd nothing some_
  unfold checkStep
  split
  · next r filtered =>
    obtain ⟨found, -⟩ := Option.filter_eq_some_iff.mp filtered
    split
    · next result decided =>
      have answer := answers.found standing found decided
      exact ⟨answer.closed, answer.result⟩
    · next undecided =>
      refine waits fun r' found' _ => ?_
      rw [found] at found'
      cases found'
      exact undecided
  · next filtered =>
    refine waits fun r' found' here => ?_
    have matching := anchored.matching r' found' here
    rw [Option.filter_eq_some_iff.mpr ⟨found', matching⟩] at filtered
    cases filtered

theorem markStep_waits (session : Option String) (firstDeadline : Nat) (threads : List Thread) :
    (markStep s session firstDeadline).task.Waits
      ⟨(markStep s session firstDeadline).shared, threads⟩ := by
  unfold markStep
  split
  · trivial
  · split
    · trivial
    · split
      · trivial
      · exact .inl ⟨_, rfl, rfl⟩

/-- The tasks of a stop that has marked a record. -/
def Task.stops : Task → Bool
  | .register _ | .check _ _ | .pastDeadline _ _ | .parked _ _ => true
  | .returned waiter _ _ => waiter.isSome
  | _ => false

theorem Task.waits_of_stops (other : task.stops = false) : task.Waits y := by
  cases task with
  | register | check | pastDeadline | parked => cases other
  | returned waiter =>
    cases waiter with
    | none => trivial
    | some => cases other
  | _ => trivial

theorem Task.stops_of_waiting (waiting : task.waiting = some waiter) :
    task.stops = true := by
  cases task with
  | register | check | pastDeadline | parked => rfl
  | _ => cases waiting

theorem Owner.after_stops (owner : Owner) (shutdown : Shutdown) :
    (owner.after shutdown).stops = false := by
  cases owner with
  | supervisor locals =>
    simp only [Owner.after]
    split <;> rfl
  | _ => rfl

theorem Finalizer.after_stops (finalizer : Finalizer) (shutdown : Shutdown) (result : StopResult) :
    (finalizer.after shutdown result).stops = false := by
  cases finalizer <;> rfl

theorem startReturned_stops (session : String) (result : StopResult) :
    (startReturned session result).stops = false := by
  cases result <;> rfl

theorem Leads.stops_false {task' : Task} (leads : Leads task task') (other : task.stops = false)
    (unmarking : ∀ session firstDeadline, task ≠ .mark session firstDeadline) :
    task'.stops = false := by
  cases leads with
  | marked => exact absurd rfl (unmarking _ _)
  | registered | answered | unanswered | late | parks | wakes | sleeps => cases other
  | childless owner | observed owner | killed owner => exact owner.after_stops _
  | finalized finalizer => exact finalizer.after_stops _ _
  | replaced | completed => exact startReturned_stops _ _
  | returned => exact other
  | _ => rfl

theorem threadStep_quiet (waiting : (threadStep c s t).task.waiting ≠ none) :
    (threadStep c s t).notifying = none := by
  obtain ⟨task, notifying⟩ := t
  cases notifying with
  | some notify => rfl
  | none =>
    obtain ⟨waiter, waiting⟩ := Option.ne_none_iff_exists'.mp waiting
    have stops : (taskStep c s task).task.stops = true := Task.stops_of_waiting waiting
    have leads := taskStep_leads c s task
    cases task with
    | mark session firstDeadline =>
      simp only [threadStep, taskStep, markStep]
      split
      · rfl
      · split
        · rfl
        · split <;> rfl
    | check waiter seen =>
      simp only [threadStep, taskStep, checkStep]
      split
      · split <;> rfl
      · rfl
    | register | pastDeadline | parked | returned => rfl
    | _ => exact absurd stops (by simp [leads.stops_false rfl (by simp)])

theorem Answers.own (answers : Answers x) (at_ : x.threads[i]? = some ⟨task, none⟩)
    (orderly : Orderly (.run i c) x) (threads : List Thread)
    (later : Later x ⟨(taskStep c x.shared task).shared, threads⟩) :
    (taskStep c x.shared task).task.Waits ⟨(taskStep c x.shared task).shared, threads⟩ := by
  have mem := List.mem_of_getElem? at_
  have waits := answers.waits _ mem
  have leads := taskStep_leads c x.shared task
  cases task with
  | mark session firstDeadline => exact markStep_waits session firstDeadline threads
  | register waiter => exact ⟨waits, Nat.le_refl _⟩
  | check waiter seen =>
    have same : (checkStep x.shared waiter seen).shared = x.shared := by
      unfold checkStep
      split
      · split <;> rfl
      · rfl
    show (checkStep x.shared waiter seen).task.Waits
      ⟨(checkStep x.shared waiter seen).shared, threads⟩
    rw [same]
    exact answers.check mem threads
  | pastDeadline waiter seen =>
    obtain ⟨standing, le, noticed⟩ := waits
    simp only [Orderly, at_, Task.Orderly] at orderly
    simp only [taskStep, goes]
    split
    · next past =>
      refine ⟨.inl past, fun d result inTime => ?_⟩
      exact absurd inTime (Nat.not_lt.mpr (orderly past d result))
    · next early =>
      refine ⟨standing, le, ?_⟩
      exact later.noticed (answers.roles.anchored _ mem _ rfl).bound le
        (noticed.resolve_left early)
  | parked waiter seen =>
    obtain ⟨standing, le, noticed⟩ := waits
    simp only [taskStep, goes]
    split
    · exact standing
    · exact ⟨standing, le, later.noticed (answers.roles.anchored _ mem _ rfl).bound le noticed⟩
  | returned waiter session result =>
    cases waiter with
    | none => trivial
    | some waiter => exact ⟨waits.closed, waits.result⟩
  | _ => exact Task.waits_of_stops (leads.stops_false rfl (by simp))

theorem Answers.waits_run (answers : Answers x) (at_ : x.threads[i]? = some t)
    (orderly : Orderly (.run i c) x) :
    ∀ t' ∈ x.threadsAfter i (threadStep c x.shared t), t'.task.Waits
      ⟨(threadStep c x.shared t).shared, x.threadsAfter i (threadStep c x.shared t)⟩ := by
  have later := answers.later at_ orderly
  have carried : ∀ t' ∈ x.threads, t'.task.Waits
      ⟨(threadStep c x.shared t).shared, x.threadsAfter i (threadStep c x.shared t)⟩ :=
    fun t' mem => later.waits (answers.waits t' mem)
      (fun waiter at' => (answers.roles.anchored t' mem _ at').bound)
      (fun waiter waiting => answers.standing at_ orderly mem waiting)
  intro t' mem
  obtain ⟨j, after⟩ := List.mem_iff_getElem?.mp mem
  obtain ⟨-, rfl⟩ | ⟨_, at'⟩ | ⟨task, started, rfl, -⟩ := threadsAfter_elim after
  · obtain ⟨task, notifying⟩ := t
    cases notifying with
    | some notify => exact carried ⟨task, some notify⟩ (List.mem_of_getElem? at_)
    | none => exact answers.own at_ orderly _ later
  · exact carried t' (List.mem_of_getElem? at')
  · obtain ⟨_, _, rfl⟩ := (threadStep_effect c x.shared t).started_eq started
    trivial

theorem Answers.run (answers : Answers x) (at_ : x.threads[i]? = some t)
    (orderly : Orderly (.run i c) x) :
    Answers ⟨(threadStep c x.shared t).shared, x.threadsAfter i (threadStep c x.shared t)⟩ := by
  have later := answers.later at_ orderly
  obtain ⟨agrees, stores⟩ := answers.stores at_ orderly
  have longer := (threadStep_notified c x.shared t).1
  refine ⟨answers.coherent.run at_ c, answers.roles.run answers.coherent at_ c,
    answers.spent.run at_ c, ?_, ?_, ?_, agrees, answers.waits_run at_ orderly, ?_⟩
  · intro d mem
    obtain same | ⟨r, result, _, _, _, stored⟩ := stores
    · rw [same] at mem
      exact Nat.le_trans (answers.timed d mem) later.now
    · rw [stored] at mem
      obtain old | new := List.mem_append.mp mem
      · exact Nat.le_trans (answers.timed d old) later.now
      · rw [List.mem_singleton.mp new]
        exact later.now
  · intro d mem
    obtain same | ⟨r, result, found, _, _, stored⟩ := stores
    · rw [same] at mem
      exact Nat.lt_of_lt_of_le (answers.old d mem) longer
    · rw [stored] at mem
      obtain old | new := List.mem_append.mp mem
      · exact Nat.lt_of_lt_of_le (answers.old d old) longer
      · rw [List.mem_singleton.mp new]
        exact Nat.lt_of_lt_of_le (answers.roles.bound r found) longer
  · obtain same | ⟨r, result, found, none_, _, stored⟩ := stores
    · rw [same]
      exact answers.stored
    · have fresh := (answers.agrees r found).undecided none_
      rw [stored, List.map_append, List.nodup_append]
      refine ⟨answers.stored, List.nodup_singleton _, ?_⟩
      intro a old b new same
      obtain ⟨d, mem, rfl⟩ := List.mem_map.mp old
      rw [List.mem_singleton.mp new] at same
      exact fresh d mem same
  · intro t' mem waiting
    obtain ⟨j, after⟩ := List.mem_iff_getElem?.mp mem
    obtain ⟨-, rfl⟩ | ⟨_, at'⟩ | ⟨task, _, rfl, -⟩ := threadsAfter_elim after
    · exact threadStep_quiet waiting
    · exact answers.quiet t' (List.mem_of_getElem? at') waiting
    · rfl

theorem Answers.call (answers : Answers x) (stage : t.task.stage = none) (role : t.task.role = none)
    (free : t.task.stdin = none) (waits : ∀ y, t.task.Waits y) (quiet : t.notifying = none) :
    Answers { x with threads := x.threads ++ [t] } := by
  have later : Later x { x with threads := x.threads ++ [t] } := by
    refine ⟨Nat.le_refl _, fun _ => id, fun _ => .inl, fun _ _ => Nat.le_refl _, ?_⟩
    rintro n _ ⟨t', mem, pending⟩
    exact .inr ⟨t', List.mem_append_left _ mem, pending⟩
  refine ⟨answers.coherent.call stage, answers.roles.call stage role, answers.spent.call free,
    answers.timed, answers.old, answers.stored, answers.agrees, ?_, ?_⟩
  · intro t' mem
    obtain mem | mem := List.mem_append.mp mem
    · exact later.waits (answers.waits t' mem)
        (fun waiter at' => (answers.roles.anchored t' mem _ at').bound) fun _ _ => id
    · rw [List.mem_singleton.mp mem]
      exact waits _
  · intro t' mem waiting
    obtain mem | mem := List.mem_append.mp mem
    · exact answers.quiet t' mem waiting
    · rw [List.mem_singleton.mp mem]
      exact quiet

theorem operatorStep_answers (ev : OperatorEvent) (x : OperatorSystem) (orderly : Orderly ev x)
    (answers : Answers x) : Answers (operatorStep ev x) := by
  have coherent := operatorStep_coherent ev x answers.coherent
  have roles := operatorStep_roles ev x answers.coherent answers.roles
  have spent := operatorStep_spent ev x answers.spent
  cases ev with
  | start | stop => exact answers.call rfl rfl rfl (fun _ => trivial) rfl
  | run i c =>
    cases at_ : x.threads[i]? with
    | none => rwa [operatorStep_run_none c at_]
    | some t =>
      rw [operatorStep_run c at_]
      exact answers.run at_ orderly
  | exit bridge exitStatus =>
    have later : Later x (operatorStep (.exit bridge exitStatus) x) :=
      ⟨Nat.le_refl _, fun _ => id, fun _ => .inl, fun _ _ => Nat.le_refl _, fun _ _ => .inr⟩
    exact ⟨coherent, roles, spent, answers.timed, answers.old, answers.stored, answers.agrees,
      fun t mem => later.waits (answers.waits t mem)
        (fun waiter at' => (answers.roles.anchored t mem _ at').bound) fun _ _ => id,
      answers.quiet⟩
  | tick elapsed =>
    have grows : x.shared.now ≤ x.shared.now + elapsed := Nat.le_add_right _ _
    have later : Later x (operatorStep (.tick elapsed) x) :=
      ⟨grows, fun _ => id, fun _ => .inl, fun _ _ => Nat.le_refl _, fun _ _ => .inr⟩
    exact ⟨coherent, roles, spent, fun d mem => Nat.le_trans (answers.timed d mem) grows,
      answers.old, answers.stored, answers.agrees,
      fun t mem => later.waits (answers.waits t mem)
        (fun waiter at' => (answers.roles.anchored t mem _ at').bound) fun _ _ => id,
      answers.quiet⟩

theorem Answers.oneResult (answers : Answers x) : OneResult x := by
  refine ⟨answers.stored, answers.agrees, answers.roles.once, fun _ => answers.spent.cancelLines,
    ?_, ?_⟩
  · rintro ⟨task, notifying⟩ mem waiter session result rfl
    exact (answers.waits _ mem : Answer x waiter result).result
  · rintro ⟨task, notifying⟩ mem waiter seen rfl
    obtain ⟨_, _, noticed⟩ := answers.waits _ mem
    exact noticed

/-! ## A stop whose result is there -/

/-- The thread of the stop returns that result in so many steps of its own. -/
def ReturnsIn (x : OperatorSystem) (i : Nat) (waiter : Waiter) (result : StopResult) (n : Nat) :
    Prop :=
  ∃ session, (runs operatorStep (turns i n) x).threads[i]? =
    some ⟨.returned (some waiter) session result, none⟩

theorem ReturnsIn.step {i n : Nat} (task' : Task) (at_ : x.threads[i]? = some ⟨task, none⟩)
    (goes_ : taskStep plainChoice x.shared task = goes x.shared task')
    (next : ∀ threads : List Thread, threads[i]? = some ⟨task', none⟩ →
      ReturnsIn ⟨x.shared, threads⟩ i waiter result n) : ReturnsIn x i waiter result (n + 1) := by
  have bound := (List.getElem?_eq_some_iff.mp at_).1
  have step : operatorStep (.run i plainChoice) x =
      ⟨x.shared, x.threadsAfter i (goes x.shared task')⟩ := by
    rw [operatorStep_run plainChoice at_]
    simp only [threadStep, goes_]
    rfl
  obtain ⟨session, returned⟩ := next (x.threadsAfter i (goes x.shared task'))
    (by simp [OperatorSystem.threadsAfter, goes, bound])
  exact ⟨session, by rw [← step] at returned; exact returned⟩

theorem ReturnsIn.register (at_ : x.threads[i]? = some ⟨.register waiter, none⟩)
    (found : x.shared.bridgeProcess = some r) (matching : r.matchesSession waiter.session)
    (decided : r.stopResult = some result) : ReturnsIn x i waiter result 2 := by
  have filtered : x.shared.bridgeProcess.filter (fun r => r.matchesSession waiter.session) =
      some r := Option.filter_eq_some_iff.mpr ⟨found, matching⟩
  refine .step (.check waiter (x.shared.notices waiter.notify)) at_ rfl fun threads at' => ?_
  refine .step (.returned (some waiter) (some r.sessionId) result) at' ?_ ?_
  · simp only [taskStep, checkStep, filtered, decided]
  · exact fun threads' at'' => ⟨_, at''⟩

theorem ReturnsIn.parked {i seen : Nat} (at_ : x.threads[i]? = some ⟨.parked waiter seen, none⟩)
    (woken : seen < x.shared.notices waiter.notify)
    (found : x.shared.bridgeProcess = some r) (matching : r.matchesSession waiter.session)
    (decided : r.stopResult = some result) : ReturnsIn x i waiter result 3 := by
  refine .step (.register waiter) at_ ?_ ?_
  · simp only [taskStep, woken, true_or, if_true]
  · exact fun threads at' => .register at' found matching decided

/-- A stop whose result came in time returns it as soon as nobody is about to notify it,
unless it has looked before and finds its deadline passed. -/
theorem Answers.returns (answers : Answers x) (at_ : x.threads[i]? = some t)
    (waiting : t.task.waiting = some waiter)
    (result : d ∈ x.shared.resultsFor waiter) (inTime : d.time < waiter.deadline)
    (notified : ¬ x.Pending waiter.notify)
    (early : ∀ seen, t.task = .pastDeadline waiter seen → x.shared.now < waiter.deadline) :
    ∃ n ≤ 4, ReturnsIn x i waiter d.result n := by
  have mem := List.mem_of_getElem? at_
  have quiet := answers.quiet t mem (by rw [waiting]; exact nofun)
  have waits := answers.waits t mem
  have anchored : ∀ waiter, t.task.role = some (.waiter waiter) →
      Anchored x waiter.session waiter.notify :=
    fun waiter at_ => answers.roles.anchored t mem _ at_
  obtain ⟨task, notifying⟩ := t
  cases quiet
  -- the record is the one that the stop has marked, with this result
  have held : Standing x waiter → Anchored x waiter.session waiter.notify →
      ∃ r, x.shared.bridgeProcess = some r ∧ r.matchesSession waiter.session ∧
        r.stopResult = some d.result := by
    rintro (⟨r, found, here⟩ | ⟨d', result', late⟩) anchored
    · obtain ⟨stored, record⟩ := mem_resultsFor.mp result
      exact ⟨r, found, anchored.matching r found here,
        (answers.agrees r found d.result).mpr ⟨d, stored, record.trans here.symm, rfl⟩⟩
    · rw [answers.only result' result] at late
      exact absurd inTime (Nat.not_lt.mpr late)
  have woken : ∀ {seen}, Noticed x waiter seen → seen < x.shared.notices waiter.notify :=
    fun noticed => (noticed (List.ne_nil_of_mem result)).resolve_right notified
  cases task with
  | register =>
    cases waiting
    obtain ⟨r, found, matching, decided⟩ := held waits (anchored _ rfl)
    exact ⟨2, by decide, .register at_ found matching decided⟩
  | check _ seen =>
    cases waiting
    obtain ⟨r, found, matching, decided⟩ := held waits.1 (anchored _ rfl)
    have filtered : x.shared.bridgeProcess.filter (fun r => r.matchesSession waiter.session) =
        some r := Option.filter_eq_some_iff.mpr ⟨found, matching⟩
    refine ⟨1, by decide, .step (.returned (some waiter) (some r.sessionId) d.result) at_ ?_
      fun threads at' => ⟨_, at'⟩⟩
    simp only [taskStep, checkStep, filtered, decided]
  | pastDeadline _ seen =>
    cases waiting
    obtain ⟨standing, _, noticed⟩ := waits
    obtain ⟨r, found, matching, decided⟩ := held standing (anchored _ rfl)
    have soon := Nat.not_le.mpr (early seen rfl)
    refine ⟨4, by decide, .step (.parked waiter seen) at_ ?_ fun threads at' => ?_⟩
    · simp only [taskStep, soon, if_false]
    · exact .parked at' (woken (noticed.resolve_left soon)) found matching decided
  | parked _ seen =>
    cases waiting
    obtain ⟨standing, _, noticed⟩ := waits
    obtain ⟨r, found, matching, decided⟩ := held standing (anchored _ rfl)
    exact ⟨3, by decide, .parked at_ (woken noticed) found matching decided⟩
  | _ => cases waiting

/-! ## Results -/

/-- What a record has had as its result is what it has. -/
def KeepsResult (before after : ComputeNodeState) : Prop :=
  ∀ r r' result, before.bridgeProcess = some r → r.stopResult = some result →
    after.bridgeProcess = some r' → r'.notify = r.notify → r'.stopResult = some result

/-- Every stop whose result came in time returns it in a few steps of its own, as soon as
nobody is about to notify it, unless it has looked before and finds its deadline passed. -/
def Returns (x : OperatorSystem) : Prop :=
  ∀ i t waiter d, x.threads[i]? = some t → t.task.waiting = some waiter →
    d ∈ x.shared.resultsFor waiter → d.time < waiter.deadline → ¬ x.Pending waiter.notify →
    (∀ seen, t.task = .pastDeadline waiter seen → x.shared.now < waiter.deadline) →
    ∃ n ≤ 4, ReturnsIn x i waiter d.result n

theorem operatorStep_decisions (ev : OperatorEvent) (x : OperatorSystem) (orderly : Orderly ev x)
    (answers : Answers x) : ∀ d ∈ x.shared.decisions, d ∈ (operatorStep ev x).shared.decisions := by
  cases ev with
  | start | stop | exit | tick => exact fun _ => id
  | run i c =>
    cases at_ : x.threads[i]? with
    | none =>
      rw [operatorStep_run_none c at_]
      exact fun _ => id
    | some t =>
      rw [operatorStep_run c at_]
      exact (answers.later at_ orderly).kept

theorem keepsResult_runs {evs : List OperatorEvent} (orderly : Along operatorStep Orderly evs x)
    (answers : Answers x) : KeepsResult x.shared (runs operatorStep evs x).shared := by
  have kept : Answers (runs operatorStep evs x) ∧
      ∀ d ∈ x.shared.decisions, d ∈ (runs operatorStep evs x).shared.decisions := by
    refine along_runs (J := fun y => Answers y ∧ ∀ d ∈ x.shared.decisions, d ∈ y.shared.decisions)
      ?_ orderly ⟨answers, fun _ => id⟩
    rintro ev y guarded ⟨answers, kept⟩
    exact ⟨operatorStep_answers ev y guarded answers,
      fun d mem => operatorStep_decisions ev y guarded answers d (kept d mem)⟩
  intro r r' result found decided found' same
  obtain ⟨d, mem, record, rfl⟩ := (answers.agrees r found result).mp decided
  exact (kept.1.agrees r' found' d.result).mpr ⟨d, kept.2 d mem, record.trans same.symm, rfl⟩

/-- In a run of orderly steps, a record has one result, which never changes, one shutdown
worker and one cancel line, and every stop that waited for the result and could have it in
time returns it. No wake-up is lost. -/
theorem stop_result_delivered (evs : List OperatorEvent)
    (orderly : Along operatorStep Orderly evs newOperator) :
    OneResult (runs operatorStep evs newOperator) ∧ Returns (runs operatorStep evs newOperator) ∧
      ∀ n, KeepsResult (runs operatorStep (evs.take n) newOperator).shared
        (runs operatorStep evs newOperator).shared := by
  have answers := along_runs operatorStep_answers orderly newOperator_answers
  refine ⟨answers.oneResult, ?_, fun n => ?_⟩
  · exact fun i t waiter d at_ waiting result inTime notified early =>
      answers.returns at_ waiting result inTime notified early
  · have before := along_runs operatorStep_answers (orderly.take n) newOperator_answers
    rw [← runs_take_drop evs newOperator n]
    exact keepsResult_runs (orderly.drop n) before

/-- A launch that gives no process, and one that gives a process without its pipes. -/
def failedLaunch : Choice := ⟨.failed "launch" "launch", .terminal, none⟩

def unpipedLaunch : Choice := ⟨.missingPipe false "pipe", .terminal, none⟩

/-- Two stops of a session whose launch fails. -/
def twoStops : List OperatorEvent :=
  [.start] ++ turns 0 3 ++ [.run 0 failedLaunch, .stop, .stop] ++ turns 1 5 ++ turns 2 7 ++
    turns 0 3 ++ turns 1 5 ++ turns 2 4 ++ turns 3 4

theorem stop_result_delivered_sample :
    Along operatorStep Orderly twoStops newOperator ∧
      OneResult (runs operatorStep twoStops newOperator) := by
  have orderly : Along operatorStep Orderly twoStops newOperator := by decide +kernel
  exact ⟨orderly, (stop_result_delivered twoStops orderly).1⟩

/-- The launch fails while a stop waits, and a new session is reserved before the stop
looks again. -/
def replacedStop : List OperatorEvent :=
  [.start] ++ turns 0 3 ++ [.run 0 failedLaunch, .stop] ++ turns 1 6 ++ turns 0 4 ++ [.start] ++
    turns 3 2 ++ turns 1 3 ++ [.tick 12000] ++ turns 1 4

/-- The bridge comes without its pipes while the supervisor of a stop is about to store
its result. -/
def secondResult : List OperatorEvent :=
  [.start] ++ turns 0 3 ++ [.run 0 unpipedLaunch, .stop] ++ turns 1 3 ++ turns 2 4 ++
    [.tick 12000] ++ turns 2 7 ++ turns 1 3 ++ turns 0 6 ++ turns 2 1

/-- The result comes between the last look of a stop and its look at the clock. -/
def lateLook : List OperatorEvent :=
  [.start] ++ turns 0 3 ++ [.run 0 failedLaunch, .stop] ++ turns 1 5 ++ turns 0 2 ++
    [.tick 12000] ++ turns 1 1

/-- A stop times out although its result was there in time, and an error becomes a
success. -/
theorem stop_result_lost :
    ¬ OneResult (runs operatorStep replacedStop newOperator) ∧
      ¬ OneResult (runs operatorStep secondResult newOperator) ∧
      ¬ OneResult (runs operatorStep lateLook newOperator) := by
  have timedOut : ∀ {x : OperatorSystem},
      (⟨.returned (some ⟨some "1", 1, 12000⟩) (some "1") (.error stopWarning), none⟩ : Thread) ∈
        x.threads → (⟨1, .ok (), 0⟩ : Decision) ∈ x.shared.decisions → ¬ OneResult x := by
    intro x mem stored one
    have same := one.answered _ mem _ _ _ rfl _ (mem_resultsFor.mpr ⟨stored, rfl⟩) (by decide)
    cases same
  refine ⟨timedOut ?_ ?_, fun one => ?_, timedOut ?_ ?_⟩
  · decide +kernel
  · decide +kernel
  · have twice : ¬ ((runs operatorStep secondResult newOperator).shared.decisions.map
        Decision.record).Nodup := by decide +kernel
    exact twice one.stored
  · decide +kernel
  · decide +kernel

/-! ## Every run -/

/-- In every run, orderly or not, the sessions agree with the record, a record has at most one
worker, and a process gets at most one cancel line. -/
theorem workers_once (evs : List OperatorEvent) :
    let x := runs operatorStep evs newOperator
    Coherent x ∧ Roles x ∧ ∀ bridge ∈ x.shared.bridges, bridge.cancelLines ≤ 1 := by
  intro x
  have kept : Coherent x ∧ Roles x ∧ Spent x := by
    refine invariant_runs (J := fun x => Coherent x ∧ Roles x ∧ Spent x) ?_ evs
      ⟨newOperator_coherent, newOperator_roles, newOperator_spent⟩
    rintro ev y ⟨coherent, roles, spent⟩
    exact ⟨operatorStep_coherent ev y coherent, operatorStep_roles ev y coherent roles,
      operatorStep_spent ev y spent⟩
  exact ⟨kept.1, kept.2.1, fun _ => kept.2.2.cancelLines⟩

end Operator
