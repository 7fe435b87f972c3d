import TokenPlace.Lib.Schedules
import TokenPlace.Desktop.Sessions

/-!
# Who holds a bridge process

The child of a spawned bridge is held by the start task, by the record, by the
supervisor or by the finalizer, and it is let go of when its exit has been observed
or when it has been killed. `Handover` lists what a step can do with a child, and each
of these keeps the number of holders of a process at one.

The exception is the last region of the supervisor, which clears the record whatever
it holds. A supervisor that has given up its wait for a child completes the record
even when the start task has attached one since, and the process is left to itself.
`Releases` excludes that step, and `custody_lost` shows that it always loses a process.
-/

namespace Operator

open Schedules

variable {c : Choice} {s s' : ComputeNodeState} {x : OperatorSystem} {task : Task} {o : Outcome}
  {r r' : BridgeProcessRecord}

/-! ## Statement -/

/-- The child that a task holds. -/
def Task.child : Task → Option Nat
  | .attach _ child | .tryWait _ child | .untilDeadline _ child | .kill _ child => some child
  | .cancel _ child _ | .childDeadline _ child _ => child
  | _ => none

/-- The child that the record holds. -/
def ComputeNodeState.recordChild (s : ComputeNodeState) : Option Nat :=
  s.bridgeProcess.bind BridgeProcessRecord.child

/-- Neither has the exit of the process been observed, nor has it been killed. -/
def ComputeNodeState.unsettled (s : ComputeNodeState) (p : Nat) : Bool :=
  s.bridges[p]?.any fun bridge => !bridge.observed && !bridge.killed

/-- One for the child that is held there. -/
def holds (child : Option Nat) (p : Nat) : Nat :=
  if child = some p then 1 else 0

/-- How many tasks and records hold the process. -/
def OperatorSystem.holders (x : OperatorSystem) (p : Nat) : Nat :=
  holds x.shared.recordChild p + x.threads.countP fun t => decide (t.task.child = some p)

/-- Every process whose exit has not been observed and that has not been killed is held
in exactly one place. -/
def Held (x : OperatorSystem) : Prop :=
  ∀ p, x.shared.unsettled p → x.holders p = 1

/-- The task is over. -/
def Task.isOver : Task → Bool
  | .finished | .returned _ _ _ => true
  | _ => false

/-- No task is in progress. -/
def Idle (x : OperatorSystem) : Prop :=
  ∀ t ∈ x.threads, t.task.isOver

/-- When no task is in progress, a process that runs and has not been killed is held by
a record in its `Running` phase. -/
def Attended (x : OperatorSystem) : Prop :=
  Idle x → ∀ p bridge, x.shared.bridges[p]? = some bridge → bridge.exitStatus = none →
    bridge.killed = false →
    ∃ r, x.shared.bridgeProcess = some r ∧ r.phase = .running ∧ r.child = some p

/-- No supervisor completes a record that holds a child. -/
def Releases : OperatorEvent → OperatorSystem → Prop
  | .run i _, x =>
    match x.threads[i]? with
    | some ⟨.commitStop supervisor _ _, none⟩ =>
      ∀ r ∈ x.shared.bridgeProcess, r.matchesSession supervisor.session → r.child = none
    | _ => True
  | _, _ => True

instance (ev : OperatorEvent) (x : OperatorSystem) : Decidable (Releases ev x) := by
  unfold Releases
  split
  · split <;> infer_instance
  · infer_instance

/-! ## What a step does with a child -/

/-- What a step does with the child of its task and the child of the record. -/
inductive Handover (s : ComputeNodeState) (task : Task) (o : Outcome) : Prop
  | keeps (child : o.task.child = task.child) (record : o.shared.recordChild = s.recordChild)
      (same : ∀ p, o.shared.unsettled p = s.unsettled p)
  | spawns (free : task.child = none) (child : o.task.child = some s.bridges.length)
      (record : o.shared.recordChild = s.recordChild)
      (new : ∀ p, o.shared.unsettled p = (decide (p = s.bridges.length) || s.unsettled p))
  | stores (child : o.task.child = none) (record : o.shared.recordChild = task.child)
      (free : s.recordChild = none) (same : ∀ p, o.shared.unsettled p = s.unsettled p)
  | takes (free : task.child = none) (child : o.task.child = s.recordChild)
      (record : o.shared.recordChild = none) (same : ∀ p, o.shared.unsettled p = s.unsettled p)
  | settles {p : Nat} (held : task.child = some p) (child : o.task.child = none)
      (record : o.shared.recordChild = s.recordChild)
      (settled : ∀ q, o.shared.unsettled q = (decide (q ≠ p) && s.unsettled q))

theorem recordChild_eq (found : s.bridgeProcess = some r) : s.recordChild = r.child := by
  simp [ComputeNodeState.recordChild, found]

theorem unsettled_congr (bridges : s'.bridges = s.bridges) (p : Nat) :
    s'.unsettled p = s.unsettled p := by
  simp only [ComputeNodeState.unsettled, bridges]

theorem Owner.after_child (owner : Owner) (shutdown : Shutdown) :
    (owner.after shutdown).child = none := by
  cases owner with
  | supervisor locals =>
    simp only [Owner.after]
    split <;> rfl
  | _ => rfl

theorem Finalizer.after_child (finalizer : Finalizer) (shutdown : Shutdown) (result : StopResult) :
    (finalizer.after shutdown result).child = none := by
  cases finalizer <;> rfl

theorem startReturned_child (session : String) (result : StopResult) :
    (startReturned session result).child = none := by
  cases result <;> rfl

/-- The tasks that neither get a child nor let go of one. -/
def Task.passesChild : Task → Bool
  | .launch _ | .attach _ _ | .tryWait _ _ | .kill _ _ | .takeChild _ _ | .stdoutEnd _ _ _ => false
  | _ => true

theorem Leads.child {task' : Task} (leads : Leads task task') (passes : task.passesChild) :
    task'.child = task.child := by
  cases leads with
  | unlaunched | unpiped | attaches | publishes | reads | superseded
  | alive | observed | killed | unrecorded | stale | takes | unclaimed | claims => cases passes
  | childless owner => exact owner.after_child _
  | finalized finalizer => exact finalizer.after_child _ _
  | replaced | completed => exact startReturned_child _ _
  | _ => rfl

/-- The records that a step may replace or complete hold no child. -/
structure Free (s : ComputeNodeState) (task : Task) : Prop where
  attach : ∀ r session child, task = .attach session child → s.bridgeProcess = some r →
    r.sessionId = session → r.child = none
  inactive : ∀ r, s.bridgeProcess = some r → r.isActive = false → r.child = none
  decides : ∀ r result, task.Decides result → s.bridgeProcess = some r → task.DecidesFor r →
    r.child = none

theorem Effect.recordChild (effect : Effect s task o) (free : Free s task)
    (passes : task.passesChild) : o.shared.recordChild = s.recordChild := by
  cases effect with
  | keeps record => simp only [ComputeNodeState.recordChild, record]
  | numbers _ out =>
    subst out
    rfl
  | reserves _ inactive out =>
    subst out
    cases found : s.bridgeProcess with
    | none => simp [ComputeNodeState.recordChild, found, notifies, BridgeProcessRecord.new]
    | some r =>
      rw [found] at inactive
      rw [recordChild_eq found, free.inactive r found inactive]
      rfl
  | attaches here | takes here | claims here =>
    subst here
    cases passes
  | marks _ found _ _ out | completes _ found _ _ out =>
    subst out
    rw [recordChild_eq found]
    rfl
  | decides here found owned record decided _ _ _ child =>
    have none_ := free.decides _ _ here found owned
    rw [recordChild_eq found, recordChild_eq record, none_]
    obtain free | ⟨same, _⟩ := child
    · exact free
    · exact same.trans none_

theorem unsettled_append (p : Nat) :
    ComputeNodeState.unsettled { s with bridges := s.bridges ++ [spawnedBridge] } p =
      (decide (p = s.bridges.length) || s.unsettled p) := by
  simp only [ComputeNodeState.unsettled]
  by_cases bound : p < s.bridges.length
  · rw [List.getElem?_append_left bound]
    simp [Nat.ne_of_lt bound]
  · by_cases new : p = s.bridges.length
    · subst new
      simp [spawnedBridge]
    · rw [List.getElem?_eq_none (by simp; omega), List.getElem?_eq_none (by omega)]
      simp [new]

theorem unsettled_modify {f : BridgeProcess → BridgeProcess} {p : Nat}
    (settles : ∀ bridge, (f bridge).observed = true) (q : Nat) :
    ComputeNodeState.unsettled { s with bridges := s.bridges.modify p f } q =
      (decide (q ≠ p) && s.unsettled q) := by
  simp only [ComputeNodeState.unsettled, List.getElem?_modify]
  by_cases same : p = q
  · subst same
    cases s.bridges[p]? <;> simp [settles]
  · cases s.bridges[q]? <;> simp [same, Ne.symm same]

theorem unsettled_writeCancel (stdin : Option Nat) (q : Nat) :
    (writeCancel s stdin).unsettled q = s.unsettled q := by
  cases stdin with
  | none => rfl
  | some p =>
    simp only [ComputeNodeState.unsettled, writeCancel, List.getElem?_modify]
    cases s.bridges[q]? with
    | none => rfl
    | some bridge => by_cases same : p = q <;> simp [same]

theorem taskStep_handover (free : Free s task) : Handover s task (taskStep c s task) := by
  have effect := taskStep_effect c s task
  have frame := taskStep_frame c s task
  cases task with
  | launch session =>
    simp only [taskStep, launchStep]
    cases c.launch with
    | failed => exact .keeps rfl rfl fun _ => rfl
    | missingPipe | spawned => exact .spawns rfl rfl rfl fun p => unsettled_append p
  | attach session child =>
    simp only [taskStep, attachStep, attachSpawned]
    cases found : s.recordOf session with
    | none => exact .keeps rfl rfl fun _ => rfl
    | some r =>
      obtain ⟨current, owned⟩ := recordOf_eq_some.mp found
      have none_ : s.recordChild = none :=
        (recordChild_eq current).trans (free.attach r session child rfl current owned)
      cases phase : r.phase with
      | starting | stopping =>
        simp only [phase]
        exact .stores rfl rfl none_ fun _ => rfl
      | running | completed =>
        simp only [phase]
        exact .keeps rfl rfl fun _ => rfl
  | takeChild supervisor seen =>
    simp only [taskStep, takeChildStep]
    split
    · exact .keeps rfl rfl fun _ => rfl
    · next r found =>
      split
      · exact .keeps rfl rfl fun _ => rfl
      · split
        · exact .keeps rfl rfl fun _ => rfl
        · exact .takes rfl (recordChild_eq found).symm rfl fun _ => rfl
  | stdoutEnd session startup error =>
    simp only [taskStep, claimStdoutEnd]
    cases found : s.recordOf session with
    | none => exact .keeps rfl rfl fun _ => rfl
    | some r =>
      obtain ⟨current, -⟩ := recordOf_eq_some.mp found
      by_cases stopping : r.phase = .stopping
      · simp only [stopping, if_true]
        exact .keeps rfl rfl fun _ => rfl
      · by_cases completed : r.stopResult.isSome ∨ r.phase = .completed
        · simp only [stopping, completed, if_true, if_false]
          exact .keeps rfl rfl fun _ => rfl
        · simp only [stopping, completed, if_false]
          exact .takes rfl (recordChild_eq current).symm rfl fun _ => rfl
  | tryWait owner child =>
    simp only [taskStep]
    split
    · exact .keeps rfl rfl fun _ => rfl
    · exact .settles rfl (owner.after_child _) rfl (unsettled_modify fun _ => rfl)
  | kill owner child =>
    exact .settles rfl (owner.after_child _) rfl (unsettled_modify fun _ => rfl)
  | cancel owner child stdin =>
    exact .keeps ((taskStep_leads c s _).child rfl) (effect.recordChild free rfl) (unsettled_writeCancel stdin)
  | _ =>
    exact .keeps ((taskStep_leads c s _).child rfl) (effect.recordChild free rfl)
      (unsettled_congr (frame.bridges rfl))

/-! ## Every process is held once -/

/-- A process is held in exactly one place until it is let go of, and nowhere after. -/
def Custody (x : OperatorSystem) : Prop :=
  ∀ p, x.holders p = if x.shared.unsettled p then 1 else 0

theorem newOperator_custody : Custody newOperator := by
  intro p
  simp [OperatorSystem.holders, ComputeNodeState.recordChild, ComputeNodeState.unsettled, holds,
    newOperator]

theorem holds_eq_decide (child : Option Nat) (p : Nat) :
    holds child p = if decide (child = some p) = true then 1 else 0 := by
  simp [holds]

variable {t : Thread} {i : Nat}

theorem holders_run (at_ : x.threads[i]? = some t)
    (started : ∀ task, o.started = some task → task.child = none) (p : Nat) :
    OperatorSystem.holders ⟨o.shared, x.threadsAfter i o⟩ p + holds x.shared.recordChild p +
        holds t.task.child p =
      x.holders p + holds o.shared.recordChild p + holds o.task.child p := by
  have idle : ∀ task, o.started = some task → decide (task.child = some p) = false := by
    intro task eq
    simp [started task eq]
  have count := countP_threadsAfter (fun task => decide (task.child = some p)) at_ idle
  simp only [OperatorSystem.holders, ← holds_eq_decide] at count ⊢
  omega

theorem threadStep_handover (free : t.notifying = none → Free s t.task) :
    Handover s t.task (threadStep c s t) := by
  unfold threadStep
  split
  · exact .keeps rfl rfl fun _ => rfl
  · next quiet => exact taskStep_handover (free quiet)

theorem threadStep_started_child (c : Choice) (s : ComputeNodeState) (t : Thread) :
    ∀ task, (threadStep c s t).started = some task → task.child = none := by
  intro task started
  obtain ⟨_, _, rfl⟩ := (threadStep_effect c s t).started_eq started
  rfl

theorem Handover.balance (handover : Handover s task o)
    (held : ∀ p, task.child = some p → s.unsettled p) (p : Nat) :
    holds o.shared.recordChild p + holds o.task.child p + (if s.unsettled p then 1 else 0) =
      holds s.recordChild p + holds task.child p + (if o.shared.unsettled p then 1 else 0) := by
  cases handover with
  | keeps child record same => rw [child, record, same]
  | spawns free child record new =>
    rw [free, child, record, new]
    by_cases here : p = s.bridges.length
    · have absent : s.unsettled p = false := by
        simp [ComputeNodeState.unsettled, here]
      simp only [here] at absent
      simp [holds, here, absent]
    · simp [holds, here, Ne.symm here]
  | stores child record free same =>
    rw [child, record, free, same]
    simp [holds, Nat.add_comm]
  | takes free child record same =>
    rw [free, child, record, same]
    simp [holds, Nat.add_comm]
  | @settles q here child record settled =>
    rw [here, child, record, settled]
    by_cases same : p = q
    · subst same
      simp [holds, held p here]
    · simp [holds, same, Ne.symm same]

/-- What a step must not find: a child in a record that it replaces or completes. -/
theorem Coherent.free (coherent : Coherent x) (at_ : x.threads[i]? = some t)
    (quiet : t.notifying = none) (releases : Releases (.run i c) x) : Free x.shared t.task := by
  obtain ⟨task, notifying⟩ := t
  cases quiet
  have mem := List.mem_of_getElem? at_
  refine ⟨?_, ?_, ?_⟩
  · rintro r session child rfl found rfl
    exact (coherent.staged r found _ mem .starting rfl).2
  · intro r found inactive
    have completed : r.phase = .completed := by
      simp only [BridgeProcessRecord.isActive, Bool.or_eq_false_iff, decide_eq_false_iff_not,
        not_not] at inactive
      exact inactive.1
    exact (coherent.sound r found).released completed
  · rintro r result decides found owned
    cases decides with
    | startupFailed session lastError failure | spawnedFailed session shutdown failure =>
      have same : r.sessionId = session := owned
      subst same
      exact (coherent.staged r found _ mem .starting rfl).2
    | commitEnd stdoutEnd shutdown =>
      have same : r.sessionId = stdoutEnd.session := owned
      exact (coherent.staged r found _ mem .finalizing (by rw [same]; rfl)).2
    | commitStop supervisor shutdown =>
      simp only [Releases, at_] at releases
      exact releases r found owned

theorem Custody.run (custody : Custody x) (coherent : Coherent x)
    (at_ : x.threads[i]? = some t) (releases : Releases (.run i c) x) :
    Custody ⟨(threadStep c x.shared t).shared, x.threadsAfter i (threadStep c x.shared t)⟩ := by
  intro p
  have handover : Handover x.shared t.task (threadStep c x.shared t) :=
    threadStep_handover fun quiet => coherent.free at_ quiet releases
  have held : ∀ q, t.task.child = some q → x.shared.unsettled q := by
    intro q child
    have count := custody q
    have positive : 0 < x.threads.countP fun t => decide (t.task.child = some q) :=
      List.countP_pos_iff.mpr ⟨t, List.mem_of_getElem? at_, by simp [child]⟩
    by_contra settled
    rw [if_neg settled] at count
    simp only [OperatorSystem.holders] at count
    omega
  have balance := handover.balance held p
  have count := holders_run at_ (threadStep_started_child c x.shared t) p
  have before := custody p
  simp only at count ⊢
  omega

theorem Custody.call (custody : Custody x) (free : t.task.child = none) :
    Custody { x with threads := x.threads ++ [t] } := by
  intro p
  have before := custody p
  simpa [OperatorSystem.holders, List.countP_append, free] using before

theorem unsettled_exits (bridge : Nat) (exitStatus : ExitStatus) (p : Nat) :
    ComputeNodeState.unsettled
      { s with bridges := s.bridges.modify bridge (BridgeProcess.exits exitStatus) } p =
      s.unsettled p := by
  simp only [ComputeNodeState.unsettled, List.getElem?_modify]
  cases s.bridges[p]? with
  | none => rfl
  | some b => by_cases same : bridge = p <;> simp [same, BridgeProcess.exits]

/-- A process that was observed has ended. -/
def Seen (x : OperatorSystem) : Prop :=
  ∀ bridge ∈ x.shared.bridges, bridge.observed → bridge.exitStatus ≠ none

theorem mem_modify {α : Type} {l : List α} {f : α → α} {a : α}
    (mem : a ∈ l.modify i f) : a ∈ l ∨ ∃ b, l[i]? = some b ∧ a = f b := by
  obtain ⟨j, at_⟩ := List.mem_iff_getElem?.mp mem
  rw [List.getElem?_modify] at at_
  by_cases same : i = j
  · subst same
    cases found : l[i]? with
    | none => simp [found] at at_
    | some b =>
      rw [found] at at_
      exact .inr ⟨b, rfl, by simpa using at_.symm⟩
  · exact .inl (List.mem_of_getElem? (i := j) (by simpa [same] using at_))

theorem taskStep_seen (seen : ∀ bridge ∈ s.bridges, bridge.observed → bridge.exitStatus ≠ none) :
    ∀ bridge ∈ (taskStep c s task).shared.bridges, bridge.observed → bridge.exitStatus ≠ none := by
  cases touches : task.touchesBridge with
  | false =>
    rw [(taskStep_frame c s task).bridges touches]
    exact seen
  | true =>
    intro bridge mem observed
    cases task with
    | launch session =>
      simp only [taskStep, launchStep] at mem
      cases launch : c.launch with
      | failed =>
        rw [launch] at mem
        exact seen bridge mem observed
      | missingPipe | spawned =>
        rw [launch] at mem
        obtain mem | new := List.mem_append.mp mem
        · exact seen bridge mem observed
        · rw [List.mem_singleton.mp new] at observed
          cases observed
    | cancel owner child stdin =>
      cases stdin with
      | none => exact seen bridge mem observed
      | some p =>
        obtain mem | ⟨b, found, rfl⟩ := mem_modify mem
        · exact seen bridge mem observed
        · exact seen b (List.mem_of_getElem? found) observed
    | tryWait owner child =>
      simp only [taskStep] at mem
      split at mem
      · exact seen bridge mem observed
      · next exitStatus exited =>
        obtain mem | ⟨b, found, rfl⟩ := mem_modify mem
        · exact seen bridge mem observed
        · simp [found] at exited
          simp [exited]
    | kill owner child =>
      obtain mem | ⟨b, found, rfl⟩ := mem_modify mem
      · exact seen bridge mem observed
      · simp
    | _ => cases touches

/-- What holds between any two steps. -/
structure Kept (x : OperatorSystem) : Prop where
  coherent : Coherent x
  custody : Custody x
  seen : Seen x

theorem newOperator_kept : Kept newOperator :=
  ⟨newOperator_coherent, newOperator_custody, by simp [Seen, newOperator]⟩

theorem operatorStep_kept (ev : OperatorEvent) (x : OperatorSystem) (releases : Releases ev x)
    (kept : Kept x) : Kept (operatorStep ev x) := by
  refine ⟨operatorStep_coherent ev x kept.coherent, ?_, ?_⟩
  · cases ev with
    | start | stop => exact kept.custody.call rfl
    | run i c =>
      cases at_ : x.threads[i]? with
      | none =>
        rw [operatorStep_run_none c at_]
        exact kept.custody
      | some t =>
        rw [operatorStep_run c at_]
        exact kept.custody.run kept.coherent at_ releases
    | exit bridge exitStatus =>
      intro p
      simp only [operatorStep, unsettled_exits]
      exact kept.custody p
    | tick elapsed => exact kept.custody
  · cases ev with
    | start | stop | tick => exact kept.seen
    | run i c =>
      cases at_ : x.threads[i]? with
      | none =>
        rw [operatorStep_run_none c at_]
        exact kept.seen
      | some t =>
        rw [operatorStep_run c at_]
        simp only [Seen, threadStep]
        split
        · exact kept.seen
        · exact taskStep_seen kept.seen
    | exit bridge exitStatus =>
      intro b mem observed
      obtain mem | ⟨b', found, rfl⟩ := mem_modify mem
      · exact kept.seen b mem observed
      · simp [BridgeProcess.exits]

theorem Custody.held (custody : Custody x) : Held x := by
  intro p unsettled
  rw [custody p, if_pos unsettled]

theorem Task.isOver_child (over_ : task.isOver) : task.child = none := by
  cases task <;> first | rfl | cases over_

theorem Task.isOver_worksFor (over_ : task.isOver) : ¬ task.WorksFor r := by
  cases task with
  | finished => exact @Task.not_worksFor .finished rfl nofun r
  | returned waiter session result =>
    exact @Task.not_worksFor (.returned waiter session result) rfl nofun r
  | _ => cases over_

/-- Without a task in progress, only a record in its `Running` phase holds a process. -/
theorem Kept.attended (kept : Kept x) : Attended x := by
  intro idle p bridge found running unkilled
  have unobserved : bridge.observed = false := by
    by_contra observed
    exact kept.seen bridge (List.mem_of_getElem? found) (by simpa using observed) running
  have unsettled : x.shared.unsettled p := by
    simp [ComputeNodeState.unsettled, found, unobserved, unkilled]
  have count := kept.custody.held p unsettled
  have none_ : x.threads.countP (fun t => decide (t.task.child = some p)) = 0 := by
    rw [List.countP_eq_zero]
    intro t mem
    simp [Task.isOver_child (idle t mem)]
  have held : x.shared.recordChild = some p := by
    simp only [OperatorSystem.holders, none_, holds] at count
    by_contra free
    simp [free] at count
  obtain ⟨r, current, child⟩ := Option.bind_eq_some_iff.mp held
  refine ⟨r, current, ?_, child⟩
  have sound := kept.coherent.sound r current
  cases phase : r.phase with
  | running => rfl
  | starting =>
    rw [sound.unattached phase] at child
    cases child
  | completed =>
    rw [sound.released phase] at child
    cases child
  | stopping =>
    obtain ⟨t, mem, works⟩ := kept.coherent.worked r current phase
    exact absurd works (Task.isOver_worksFor (idle t mem))

theorem custody_lost (ev : OperatorEvent) (x : OperatorSystem) (kept : Kept x)
    (loses : ¬ Releases ev x) : ¬ Held (operatorStep ev x) := by
  cases ev with
  | start | stop | exit | tick => exact absurd trivial loses
  | run i c =>
    simp only [Releases] at loses
    split at loses
    · next supervisor shutdown result at_ =>
      simp only [Option.mem_def, not_forall] at loses
      obtain ⟨r, found, matching, child⟩ := loses
      obtain ⟨p, child⟩ := Option.ne_none_iff_exists'.mp child
      have held : x.shared.recordChild = some p := (recordChild_eq found).trans child
      -- the record is the only holder of `p`
      have before := kept.custody p
      have unsettled : x.shared.unsettled p := by
        by_contra settled
        rw [if_neg settled] at before
        simp [OperatorSystem.holders, holds, held] at before
      rw [if_pos unsettled] at before
      -- and it is cleared
      have filtered : x.shared.bridgeProcess.filter (fun r => r.matchesSession supervisor.session) =
          some r := Option.filter_eq_some_iff.mpr ⟨found, matching⟩
      have cleared : (commitSupervisor x.shared supervisor.session shutdown result).1.recordChild =
          none := by
        simp [commitSupervisor, filtered, decideRecord, ComputeNodeState.recordChild]
      have bridges : (commitSupervisor x.shared supervisor.session shutdown result).1.bridges =
          x.shared.bridges := by
        simp [commitSupervisor, filtered, decideRecord]
      have count := holders_run at_ (threadStep_started_child c x.shared
        ⟨.commitStop supervisor shutdown result, none⟩) p
      simp only [threadStep, taskStep, notifies, cleared, held, Task.child, holds, before] at count
      intro all
      have after := all p
      rw [operatorStep_run c at_] at after
      simp only [threadStep, taskStep, notifies] at after
      have lost := after ((unsettled_congr bridges p).trans unsettled)
      rw [lost] at count
      simp at count
    · exact absurd trivial loses

/-! ## Every run -/

/-- Every bridge process is held in exactly one place until it has ended or has been
killed, in every state of a run, exactly if no supervisor completes a record that holds
a child. A process that no task attends to is then held by a running record. -/
theorem bridge_not_abandoned (evs : List OperatorEvent) :
    ((∀ n, Held (runs operatorStep (evs.take n) newOperator)) ↔
        Along operatorStep Releases evs newOperator) ∧
      (Along operatorStep Releases evs newOperator →
        Attended (runs operatorStep evs newOperator)) :=
  ⟨along_iff_take operatorStep_kept (fun _ kept => kept.custody.held) custody_lost newOperator_kept,
    fun along => (along_runs operatorStep_kept along newOperator_kept).attended⟩

/-- A session that is stopped while its bridge runs: the supervisor takes the child,
which exits in time. -/
def stoppedSession : List OperatorEvent :=
  [.start] ++ turns 0 6 ++ [.stop] ++ turns 1 3 ++ turns 2 5 ++ [.exit 0 (.code 0)] ++ turns 2 1 ++
    [.tick 12000] ++ turns 2 12 ++ turns 1 4 ++ turns 0 12

theorem bridge_not_abandoned_sample :
    Along operatorStep Releases stoppedSession newOperator ∧
      Attended (runs operatorStep stoppedSession newOperator) := by
  have along : Along operatorStep Releases stoppedSession newOperator := by decide +kernel
  exact ⟨along, (bridge_not_abandoned stoppedSession).2 along⟩

/-- A session that is stopped before its bridge is spawned. The supervisor gives up its
wait at its deadline, the start task attaches the child, and the supervisor completes
the record. -/
def lateAttachment : List OperatorEvent :=
  [.start] ++ turns 0 4 ++ [.stop] ++ turns 1 3 ++ turns 2 4 ++ [.tick 12000] ++ turns 2 5 ++
    turns 0 1 ++ turns 2 4 ++ turns 0 9 ++ turns 1 3

/-- The stop has returned without an error, every task is over, and the bridge runs,
held by nobody. -/
theorem bridge_abandoned :
    ¬ Held (runs operatorStep lateAttachment newOperator) ∧
      ¬ Attended (runs operatorStep lateAttachment newOperator) := by
  have unheld : (runs operatorStep lateAttachment newOperator).shared.unsettled 0 = true ∧
      (runs operatorStep lateAttachment newOperator).holders 0 = 0 := by decide +kernel
  have idle : ∀ t ∈ (runs operatorStep lateAttachment newOperator).threads, t.task.isOver := by
    decide +kernel
  have alive : (runs operatorStep lateAttachment newOperator).shared.bridges[0]? =
      some spawnedBridge := by decide +kernel
  have completed : ∀ r ∈ (runs operatorStep lateAttachment newOperator).shared.bridgeProcess,
      r.phase ≠ .running := by decide +kernel
  constructor
  · intro held
    have once := held 0 unheld.1
    rw [unheld.2] at once
    cases once
  · intro attended
    obtain ⟨r, found, running, _⟩ := attended idle 0 spawnedBridge alive rfl rfl
    exact completed r found running

end Operator
