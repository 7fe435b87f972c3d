import TokenPlace.Desktop.Sessions

/-!
# One cancel line for a bridge

The stdin of a bridge is handed on as its process is, but a step may drop it. Whoever
holds it may write one cancel line, and the line is written when the handle is given
up. So the holders of a stdin and the lines that were written to it are never more
than one.
-/

namespace Operator

variable {c : Choice} {s s' : ComputeNodeState} {x : OperatorSystem} {task : Task} {o : Outcome}
  {r r' : BridgeProcessRecord} {t : Thread}

/-- The stdin that a task may write a cancel line to, or hand on. -/
def Task.stdin : Task → Option Nat
  | .attach _ child => some child
  | .cancel _ _ stdin => stdin
  | .registerSupervisor locals | .takeChild locals _ => locals.stdin
  | .childDeadline locals _ _ | .awaitChild locals _ => locals.stdin
  | _ => none

/-- The stdin that the record holds. -/
def ComputeNodeState.recordStdin (s : ComputeNodeState) : Option Nat :=
  s.bridgeProcess.bind BridgeProcessRecord.stdin

/-- One for the stdin that is held there. -/
def handle (stdin : Option Nat) (p : Nat) : Nat :=
  if stdin = some p then 1 else 0

/-- How many cancel lines were written to the process. One that does not exist yet must
not be held, so it counts as written to. -/
def ComputeNodeState.spent (s : ComputeNodeState) (p : Nat) : Nat :=
  (s.bridges[p]?.map BridgeProcess.cancelLines).getD 1

/-- A step hands the stdin on, drops it, or writes its line. -/
def Spends (s : ComputeNodeState) (task : Task) (o : Outcome) : Prop :=
  ∀ p, handle o.shared.recordStdin p + handle o.task.stdin p + o.shared.spent p ≤
    handle s.recordStdin p + handle task.stdin p + s.spent p

theorem handle_none (p : Nat) : handle none p = 0 := rfl

theorem recordStdin_eq (found : s.bridgeProcess = some r) : s.recordStdin = r.stdin := by
  simp [ComputeNodeState.recordStdin, found]

theorem Spends.drops (record : ∀ p, handle o.shared.recordStdin p ≤ handle s.recordStdin p)
    (stdin : o.task.stdin = task.stdin ∨ o.task.stdin = none)
    (spent : ∀ p, o.shared.spent p = s.spent p) : Spends s task o := by
  intro p
  have kept : handle o.task.stdin p ≤ handle task.stdin p := by
    obtain same | none_ := stdin
    · exact Nat.le_of_eq (congrArg (handle · p) same)
    · rw [none_, handle_none]
      exact Nat.zero_le _
  have record := record p
  have spent := spent p
  omega

theorem Owner.after_stdin (owner : Owner) (shutdown : Shutdown) :
    (owner.after shutdown).stdin = none := by
  cases owner with
  | supervisor locals =>
    simp only [Owner.after]
    split <;> rfl
  | _ => rfl

theorem Finalizer.after_stdin (finalizer : Finalizer) (shutdown : Shutdown) (result : StopResult) :
    (finalizer.after shutdown result).stdin = none := by
  cases finalizer <;> rfl

theorem startReturned_stdin (session : String) (result : StopResult) :
    (startReturned session result).stdin = none := by
  cases result <;> rfl

/-- The tasks that get the stdin of a process, hand it to the record or write to it. -/
def Task.movesStdin : Task → Bool
  | .launch _ | .attach _ _ | .stdoutEnd _ _ _ | .takeChild _ _ | .cancel _ _ _ => true
  | _ => false

theorem Leads.stdin {task' : Task} (leads : Leads task task') (keeps : task.movesStdin = false) :
    task'.stdin = task.stdin ∨ task'.stdin = none := by
  cases leads with
  | unlaunched | unpiped | attaches | publishes | reads | superseded
  | unclaimed | claims | unrecorded | stale | takes | childless | kills | waits => cases keeps
  | observed owner | killed owner => exact .inr (owner.after_stdin _)
  | finalized finalizer => exact .inr (finalizer.after_stdin _ _)
  | replaced | completed => exact .inr (startReturned_stdin _ _)
  | supervises => exact .inr rfl
  | _ => exact .inl rfl

theorem Effect.recordStdin (effect : Effect s task o) (keeps : task.movesStdin = false) (p : Nat) :
    handle o.shared.recordStdin p ≤ handle s.recordStdin p := by
  cases effect with
  | keeps record => simp only [ComputeNodeState.recordStdin, record, Nat.le_refl]
  | numbers _ out =>
    subst out
    exact Nat.le_refl _
  | reserves _ _ out =>
    subst out
    exact Nat.zero_le _
  | attaches here | takes here | claims here =>
    subst here
    cases keeps
  | marks _ found _ _ out | completes _ found _ _ out =>
    subst out
    rw [recordStdin_eq found]
    exact Nat.le_refl _
  | decides _ found _ record decided =>
    rw [recordStdin_eq found, recordStdin_eq record]
    obtain none_ | same := decided.stdin
    · rw [none_, handle_none]
      exact Nat.zero_le _
    · exact Nat.le_of_eq (congrArg (handle · p) same)

theorem spent_append (p : Nat) :
    ComputeNodeState.spent { s with bridges := s.bridges ++ [spawnedBridge] } p +
      handle (some s.bridges.length) p = s.spent p := by
  simp only [ComputeNodeState.spent, handle]
  by_cases bound : p < s.bridges.length
  · rw [List.getElem?_append_left bound]
    simp [Nat.ne_of_gt bound]
  · by_cases new : p = s.bridges.length
    · subst new
      simp [spawnedBridge]
    · rw [List.getElem?_eq_none (by simp; omega), List.getElem?_eq_none (by omega)]
      simp [Ne.symm new]

theorem spent_congr (bridges : s'.bridges = s.bridges) (p : Nat) : s'.spent p = s.spent p := by
  simp only [ComputeNodeState.spent, bridges]

theorem spent_modify {f : BridgeProcess → BridgeProcess} {q : Nat}
    (quiet : ∀ bridge, (f bridge).cancelLines = bridge.cancelLines) (p : Nat) :
    ComputeNodeState.spent { s with bridges := s.bridges.modify q f } p = s.spent p := by
  simp only [ComputeNodeState.spent, List.getElem?_modify]
  cases s.bridges[p]? with
  | none => rfl
  | some bridge => by_cases same : q = p <;> simp [same, quiet]

theorem spent_writeCancel (stdin : Option Nat) (p : Nat) :
    (writeCancel s stdin).spent p ≤ s.spent p + handle stdin p := by
  cases stdin with
  | none => exact Nat.le_refl _
  | some q =>
    simp only [ComputeNodeState.spent, writeCancel, List.getElem?_modify, handle]
    cases s.bridges[p]? with
    | none => exact Nat.le_add_right _ _
    | some bridge => by_cases same : q = p <;> simp [same]

theorem attachStep_spends (session : String) (child : Nat) :
    Spends s (.attach session child) (attachStep s session child) := by
  intro p
  unfold attachStep attachSpawned
  cases found : s.recordOf session with
  | none => exact Nat.le_refl _
  | some r =>
    cases phase : r.phase with
    | starting | stopping =>
      simp only [phase]
      have stored : handle (some child) p + handle none p + s.spent p ≤
          handle s.recordStdin p + handle (some child) p + s.spent p := by
        rw [handle_none]
        omega
      exact stored
    | running | completed =>
      simp only [phase]
      exact Nat.le_refl _

theorem stdoutEnd_spends (session : String) (startup error : Bool) :
    Spends s (.stdoutEnd session startup error)
      (taskStep c s (.stdoutEnd session startup error)) := by
  intro p
  simp only [taskStep, claimStdoutEnd]
  cases found : s.recordOf session with
  | none => exact Nat.le_refl _
  | some r =>
    obtain ⟨current, -⟩ := recordOf_eq_some.mp found
    by_cases stopping : r.phase = .stopping
    · simp only [stopping, if_true]
      exact Nat.le_refl _
    · by_cases completed : r.stopResult.isSome ∨ r.phase = .completed
      · simp only [stopping, completed, if_true, if_false]
        exact Nat.le_refl _
      · simp only [stopping, completed, if_false, recordStdin_eq current]
        cases sent : r.cancelSent with
        | true => exact Nat.le_refl _
        | false =>
          have claimed : handle none p + handle r.stdin p + s.spent p ≤
              handle r.stdin p + handle none p + s.spent p := by omega
          exact claimed

theorem takeChildStep_spends (supervisor : Supervisor) (seen : Nat) :
    Spends s (.takeChild supervisor seen) (takeChildStep s supervisor seen) := by
  intro p
  have finished : handle s.recordStdin p + handle none p + s.spent p ≤
      handle s.recordStdin p + handle supervisor.stdin p + s.spent p := by
    rw [handle_none]
    omega
  unfold takeChildStep
  split
  · exact Nat.le_refl _
  · next r found =>
    split
    · exact finished
    · split
      · exact finished
      · cases takes : supervisor.stdin.isNone && !r.cancelSent with
        | true =>
          have none_ : supervisor.stdin = none := by simp_all
          have taken : handle none p + handle r.stdin p + s.spent p ≤
              handle r.stdin p + handle supervisor.stdin p + s.spent p := by
            rw [none_]
            omega
          rw [recordStdin_eq found]
          exact taken
        | false =>
          rw [recordStdin_eq found]
          exact Nat.le_refl _

theorem launchStep_spends (session : String) :
    Spends s (.launch session) (launchStep c s session) := by
  intro p
  have spawned := @spent_append s p
  have none_ := handle_none p
  unfold launchStep
  cases c.launch with
  | failed => exact Nat.le_refl _
  | missingPipe hasStdin failure =>
    have held : handle (if hasStdin then some s.bridges.length else none) p ≤
        handle (some s.bridges.length) p := by
      cases hasStdin with
      | true => exact Nat.le_refl _
      | false => exact Nat.zero_le _
    show handle s.recordStdin p + handle (if hasStdin then some s.bridges.length else none) p +
      ComputeNodeState.spent { s with bridges := s.bridges ++ [spawnedBridge] } p ≤
        handle s.recordStdin p + handle none p + s.spent p
    omega
  | spawned =>
    show handle s.recordStdin p + handle (some s.bridges.length) p +
      ComputeNodeState.spent { s with bridges := s.bridges ++ [spawnedBridge] } p ≤
        handle s.recordStdin p + handle none p + s.spent p
    omega

theorem cancel_spends (owner : Owner) (child stdin : Option Nat) :
    Spends s (.cancel owner child stdin) (taskStep c s (.cancel owner child stdin)) := by
  intro p
  have written := @spent_writeCancel s stdin p
  have record : (writeCancel s stdin).recordStdin = s.recordStdin := by
    simp only [ComputeNodeState.recordStdin, writeCancel_record]
  have dropped : (taskStep c s (.cancel owner child stdin)).task.stdin = none := by
    cases child with
    | none => exact owner.after_stdin _
    | some child => cases owner <;> rfl
  rw [dropped, handle_none]
  show handle (writeCancel s stdin).recordStdin p + 0 + (writeCancel s stdin).spent p ≤
    handle s.recordStdin p + handle stdin p + s.spent p
  rw [record]
  omega

theorem taskStep_spends (c : Choice) (s : ComputeNodeState) (task : Task) :
    Spends s task (taskStep c s task) := by
  have effect := taskStep_effect c s task
  have frame := taskStep_frame c s task
  have leads := taskStep_leads c s task
  cases task with
  | launch session => exact launchStep_spends session
  | attach session child => exact attachStep_spends session child
  | stdoutEnd session startup error => exact stdoutEnd_spends session startup error
  | takeChild supervisor seen => exact takeChildStep_spends supervisor seen
  | cancel owner child stdin => exact cancel_spends owner child stdin
  | tryWait owner child =>
    refine .drops (effect.recordStdin rfl) (leads.stdin rfl) ?_
    simp only [taskStep]
    split
    · exact fun _ => rfl
    · exact spent_modify fun _ => rfl
  | kill owner child =>
    exact .drops (effect.recordStdin rfl) (leads.stdin rfl) (spent_modify fun _ => rfl)
  | _ =>
    exact .drops (effect.recordStdin rfl) (leads.stdin rfl) (spent_congr (frame.bridges rfl))

/-! ## Every run -/

/-- How many tasks and records hold the stdin of the process. -/
def OperatorSystem.handles (x : OperatorSystem) (p : Nat) : Nat :=
  handle x.shared.recordStdin p + x.threads.countP fun t => decide (t.task.stdin = some p)

/-- Each stdin is held or written to at most once. -/
def Spent (x : OperatorSystem) : Prop :=
  ∀ p, x.handles p + x.shared.spent p ≤ 1

theorem newOperator_spent : Spent newOperator := by
  intro p
  simp [OperatorSystem.handles, ComputeNodeState.recordStdin, ComputeNodeState.spent, handle,
    newOperator]

theorem threadStep_spends (c : Choice) (s : ComputeNodeState) (t : Thread) :
    Spends s t.task (threadStep c s t) := by
  unfold threadStep
  split
  · exact fun p => Nat.le_refl _
  · exact taskStep_spends c s t.task

theorem Spent.run (spent : Spent x) {i : Nat} (at_ : x.threads[i]? = some t) (c : Choice) :
    Spent ⟨(threadStep c x.shared t).shared, x.threadsAfter i (threadStep c x.shared t)⟩ := by
  intro p
  have before := spent p
  have spends := threadStep_spends c x.shared t p
  have idle : ∀ task, (threadStep c x.shared t).started = some task →
      decide (task.stdin = some p) = false := by
    intro task started
    obtain ⟨_, _, rfl⟩ := (threadStep_effect c x.shared t).started_eq started
    rfl
  have count := countP_threadsAfter (fun task => decide (task.stdin = some p)) at_ idle
  simp only [OperatorSystem.handles, handle, decide_eq_true_eq] at before spends count ⊢
  omega

theorem Spent.call (spent : Spent x) (free : t.task.stdin = none) :
    Spent { x with threads := x.threads ++ [t] } := by
  intro p
  have before := spent p
  simpa [OperatorSystem.handles, List.countP_append, free] using before

theorem operatorStep_spent (ev : OperatorEvent) (x : OperatorSystem) (spent : Spent x) :
    Spent (operatorStep ev x) := by
  cases ev with
  | start | stop => exact spent.call rfl
  | run i c =>
    cases at_ : x.threads[i]? with
    | none => rwa [operatorStep_run_none c at_]
    | some t =>
      rw [operatorStep_run c at_]
      exact spent.run at_ c
  | exit bridge exitStatus =>
    intro p
    have same := @spent_modify x.shared (BridgeProcess.exits exitStatus) bridge (fun _ => rfl) p
    have before := spent p
    rw [← same] at before
    exact before
  | tick elapsed => exact spent

theorem Spent.cancelLines (spent : Spent x) {bridge : BridgeProcess}
    (mem : bridge ∈ x.shared.bridges) : bridge.cancelLines ≤ 1 := by
  obtain ⟨p, at_⟩ := List.mem_iff_getElem?.mp mem
  have once := spent p
  simp only [ComputeNodeState.spent, at_, Option.map_some, Option.getD_some] at once
  omega

end Operator
