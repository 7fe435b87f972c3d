import TokenPlace.Desktop.Flow

/-!
# What a step does to the record

How far the start task of a session has come (`Stage`), which record a supervisor was
started for, and what a step does to the record of the current session (`Effect`).
-/

namespace Operator

variable {c : Choice} {s s' : ComputeNodeState} {x : OperatorSystem} {task : Task} {o : Outcome}
  {r r' : BridgeProcessRecord}

theorem toString_injective {m n : Nat} (same : toString m = toString n) : m = n := by
  have repr : m.repr = n.repr := same
  have digits := congrArg (fun text => Nat.ofDigitChars 10 text.toList 0) repr
  simpa using digits

/-! ## Stages of a start task -/

/-- How far the start task of a session has come. -/
inductive Stage
  | reserving
  | starting
  | reading
  | finalizing
  | ended
  | reporting
deriving DecidableEq

/-- The session of a task that shuts a process down, with the stage of its start. -/
def Owner.stage : Owner → Option (String × Stage)
  | .failedStart session _ _ => some (session, .starting)
  | .superseded session => some (session, .reporting)
  | .supervisor _ => none
  | .stdoutEnd locals => some (locals.session, .finalizing)

/-- The same for a task in `finalize_stop_status`. -/
def Finalizer.stage : Finalizer → Option (String × Stage)
  | .stdoutEnd locals => some (locals.session, .finalizing)
  | .supervisor _ | .stopCall _ => none

/-- The session of a start task, with its stage. -/
def Task.stage : Task → Option (String × Stage)
  | .reserve session => some (session, .reserving)
  | .launch session | .startupFailed session _ _ | .attach session _ => some (session, .starting)
  | .spawnedFailed session _ _ => some (session, .starting)
  | .publish session | .readStdout session _ _ | .stdoutEnd session _ _ => some (session, .reading)
  | .sessionCurrent session _ | .readCurrent session _ | .complete session _ =>
    some (session, .ended)
  | .report (some session) _ => some (session, .reporting)
  | .acknowledged locals _ | .bridgeExit locals _ _ _ | .commitEnd locals _ _ =>
    some (locals.session, .finalizing)
  | .cancel owner _ _ | .tryWait owner _ | .untilDeadline owner _ | .kill owner _ => owner.stage
  | .finalizeRead finalizer _ _ | .finalizeWrite finalizer _ _ => finalizer.stage
  | _ => none

/-- The session of a supervisor that shuts a process down, with the record it was
started for. -/
def Owner.marked : Owner → Option (Option String × Nat)
  | .supervisor locals => some (locals.session, locals.marked)
  | _ => none

/-- The same for a task in `finalize_stop_status`. -/
def Finalizer.marked : Finalizer → Option (Option String × Nat)
  | .supervisor locals => some (locals.session, locals.marked)
  | _ => none

/-- The session of a supervisor, with the record it was started for. -/
def Task.marked : Task → Option (Option String × Nat)
  | .supervise session marked => some (session, marked)
  | .registerSupervisor locals | .takeChild locals _ | .childDeadline locals _ _ =>
    some (locals.session, locals.marked)
  | .awaitChild locals _ | .registerAck locals _ | .checkAck locals _ _ =>
    some (locals.session, locals.marked)
  | .ackDeadline locals _ _ | .awaitAck locals _ _ | .commitStop locals _ _ =>
    some (locals.session, locals.marked)
  | .cancel owner _ _ | .tryWait owner _ | .untilDeadline owner _ | .kill owner _ => owner.marked
  | .finalizeRead finalizer _ _ | .finalizeWrite finalizer _ _ => finalizer.marked
  | _ => none

/-- The task will complete the record: the supervisor that was started for it, or the
finalizer of its session. -/
def Task.WorksFor (r : BridgeProcessRecord) (task : Task) : Prop :=
  (∃ session, task.marked = some (session, r.notify) ∧ r.matchesSession session) ∨
    task.stage = some (r.sessionId, .finalizing)

@[simp] theorem Owner.after_stage (owner : Owner) (shutdown : Shutdown) :
    (owner.after shutdown).stage = owner.stage := by
  cases owner with
  | supervisor locals =>
    simp only [Owner.after]
    split <;> rfl
  | _ => rfl

@[simp] theorem Owner.after_marked (owner : Owner) (shutdown : Shutdown) :
    (owner.after shutdown).marked = owner.marked := by
  cases owner with
  | supervisor locals =>
    simp only [Owner.after]
    split <;> rfl
  | _ => rfl

@[simp] theorem Finalizer.after_stage (finalizer : Finalizer) (shutdown : Shutdown)
    (result : StopResult) : (finalizer.after shutdown result).stage = finalizer.stage := by
  cases finalizer <;> rfl

@[simp] theorem Finalizer.after_marked (finalizer : Finalizer) (shutdown : Shutdown)
    (result : StopResult) : (finalizer.after shutdown result).marked = finalizer.marked := by
  cases finalizer <;> rfl

/-- What becomes of a start task in a step that leaves the record as it is. -/
inductive Passes (s : ComputeNodeState) :
    Option (String × Stage) → Option (String × Stage) → Prop
  | same (p : Option (String × Stage)) : Passes s p p
  | leaves (p : Option (String × Stage)) : Passes s p none
  | reports (session : String) (stage : Stage) :
      Passes s (some (session, stage)) (some (session, .reporting))
  | ends {session : String} {stage : Stage}
      (closed : ∀ r, s.bridgeProcess = some r → r.sessionId = session →
        r.phase = .stopping ∨ r.stopResult.isSome ∨ r.phase = .completed) :
      Passes s (some (session, stage)) (some (session, .ended))

theorem startReturned_stage {session session' : String} {stage : Stage} {result : StopResult}
    (at_ : (startReturned session result).stage = some (session', stage)) :
    session' = session ∧ stage = .reporting := by
  cases result with
  | ok => cases at_
  | error =>
    cases at_
    exact ⟨rfl, rfl⟩

theorem startReturned_passes (session : String) (stage : Stage) (result : StopResult) :
    Passes s (some (session, stage)) (startReturned session result).stage := by
  cases result with
  | ok => exact .leaves _
  | error => exact .reports _ _

/-! ## What a step does to the record -/

theorem recordOf_eq_some {session : String} :
    s.recordOf session = some r ↔ s.bridgeProcess = some r ∧ r.sessionId = session := by
  simp [ComputeNodeState.recordOf, Option.filter_eq_some_iff]

/-- The record after a result has been stored in it. -/
structure Decided (r r' : BridgeProcessRecord) (result : StopResult) : Prop where
  sessionId : r'.sessionId = r.sessionId
  notify : r'.notify = r.notify
  phase : r'.phase = .completed
  stopResult : r'.stopResult = some result
  worker : r'.shutdownWorkerStarted = r.shutdownWorkerStarted
  stdin : r'.stdin = none ∨ r'.stdin = r.stdin

/-- The tasks that store a result, with the result that they store. -/
inductive Task.Decides : Task → StopResult → Prop
  | startupFailed (session lastError failure : String) :
      Decides (.startupFailed session lastError failure) (.ok ())
  | spawnedFailed (session : String) (shutdown : Shutdown) (failure : String) :
      Decides (.spawnedFailed session shutdown failure) (.error stopWarning)
  | commitEnd (stdoutEnd : StdoutEnd) (shutdown : Shutdown) (result : StopResult) :
      Decides (.commitEnd stdoutEnd shutdown result) result
  | commitStop (supervisor : Supervisor) (shutdown : Shutdown) (result : StopResult) :
      Decides (.commitStop supervisor shutdown result) result

/-- The record is the one in which the task would store its result. -/
def Task.DecidesFor (r : BridgeProcessRecord) : Task → Prop
  | .startupFailed session _ _ | .spawnedFailed session _ _ => r.sessionId = session
  | .commitEnd locals _ _ => r.sessionId = locals.session
  | .commitStop locals _ _ => r.matchesSession locals.session
  | _ => False

/-- What a step does to the record, the stored results and the attachments. -/
inductive Effect (s : ComputeNodeState) (task : Task) (o : Outcome) : Prop
  | keeps (record : o.shared.bridgeProcess = s.bridgeProcess)
      (decisions : o.shared.decisions = s.decisions)
      (attachments : o.shared.attachments = s.attachments) (started : o.started = none)
      (passes : Passes s task.stage o.task.stage)
      (works : ∀ r, s.bridgeProcess = some r → r.stopResult = none → task.WorksFor r →
        o.task.WorksFor r)
  | numbers (here : task = .nextSession)
      (out : o = goes { s with nextSessionId := s.nextSessionId + 1 }
        (.reserve (toString (s.nextSessionId + 1))))
  | reserves {session : String} (here : task = .reserve session)
      (free : s.bridgeProcess.any BridgeProcessRecord.isActive = false)
      (out : o = notifies
        { s with
          bridgeProcess := some (.new session s.notified.length)
          status := reservedStatus s.status session
          stoppedEventAckSessionId := none
          notified := s.notified ++ [0] } (some 0) (.launch session))
  | attaches {r : BridgeProcessRecord} {session : String} {child : Nat}
      {phase : BridgeProcessPhase} (here : task = .attach session child)
      (found : s.bridgeProcess = some r) (owned : r.sessionId = session)
      (pending : r.phase = .starting ∧ phase = .running ∨ r.phase = .stopping ∧ phase = r.phase)
      (shared : o.shared =
        { s with
          bridgeProcess := some { r with child := some child, stdin := some child, phase }
          attachments := s.attachments ++ [(session, child)] })
      (next : o.task = .publish session ∨ o.task = .readStdout session false false)
      (started : o.started = none)
  | takes {r r' : BridgeProcessRecord} {supervisor : Supervisor} {seen : Nat} {stdin : Option Nat}
      (here : task = .takeChild supervisor seen) (found : s.bridgeProcess = some r)
      (matching : r.matchesSession supervisor.session) (undecided : r.stopResult = none)
      (taken : r' = { r with child := none, stdin := r'.stdin, cancelSent := r'.cancelSent })
      (out : o = goes { s with bridgeProcess := some r' }
        (.childDeadline { supervisor with stdin } r.child seen))
  | claims {r r' : BridgeProcessRecord} {session : String} {startup error : Bool} {deadline : Nat}
      {stdin : Option Nat} (here : task = .stdoutEnd session startup error)
      (found : s.bridgeProcess = some r) (owned : r.sessionId = session)
      (unstopped : r.phase ≠ .stopping) (uncompleted : r.phase ≠ .completed)
      (undecided : r.stopResult = none)
      (claimed : r' =
        { r with
          phase := .stopping
          stopDeadline := some deadline
          shutdownWorkerStarted := true
          child := none
          stdin := r'.stdin
          cancelSent := r'.cancelSent })
      (out : o = goes { s with bridgeProcess := some r' }
        (.cancel (.stdoutEnd ⟨session, r.notify, deadline, startup, error⟩) r.child stdin))
  | marks {r : BridgeProcessRecord} {session : Option String} {firstDeadline : Nat}
      (here : task = .mark session firstDeadline) (found : s.bridgeProcess = some r)
      (matching : r.matchesSession session) (undecided : r.stopResult = none)
      (out : o =
        { shared :=
            { s with
              bridgeProcess := some
                { r with
                  phase := .stopping
                  stopDeadline := some (r.stopDeadline.getD firstDeadline)
                  shutdownWorkerStarted := true } }
          task := .register ⟨session, r.notify, r.stopDeadline.getD firstDeadline⟩
          notifying := none
          started := if r.shutdownWorkerStarted then none else some (.supervise session r.notify) })
  | decides {r r' : BridgeProcessRecord} {result : StopResult} (here : task.Decides result)
      (found : s.bridgeProcess = some r) (owned : task.DecidesFor r)
      (record : o.shared.bridgeProcess = some r') (decided : Decided r r' result)
      (decisions : o.shared.decisions = s.decisions ++ [⟨r.notify, result, s.now⟩])
      (attachments : o.shared.attachments = s.attachments) (started : o.started = none)
      (child : r'.child = none ∨ r'.child = r.child ∧
        ∃ session lastError failure, task = .startupFailed session lastError failure)
      (next : ∀ session stage', o.task.stage = some (session, stage') →
        (∃ stage, task.stage = some (session, stage)) ∧ (stage' = .ended ∨ stage' = .reporting))
  | completes {r : BridgeProcessRecord} {session : String} {result : StopResult}
      (here : task = .complete session result) (found : s.bridgeProcess = some r)
      (owned : r.sessionId = session) (unstopped : r.phase ≠ .stopping)
      (out : o = goes { s with bridgeProcess := some { r with phase := .completed } }
        (startReturned session result))

theorem Effect.moves (record : o.shared.bridgeProcess = s.bridgeProcess)
    (decisions : o.shared.decisions = s.decisions)
    (attachments : o.shared.attachments = s.attachments) (started : o.started = none)
    (stage : o.task.stage = task.stage) (marked : o.task.marked = task.marked) :
    Effect s task o :=
  .keeps record decisions attachments started (stage ▸ .same _) fun r _ _ works => by
    unfold Task.WorksFor
    rw [stage, marked]
    exact works

theorem Effect.passes (record : o.shared.bridgeProcess = s.bridgeProcess)
    (decisions : o.shared.decisions = s.decisions)
    (attachments : o.shared.attachments = s.attachments) (started : o.started = none)
    (passes : Passes s task.stage o.task.stage) (idle : ∀ r, ¬ task.WorksFor r) :
    Effect s task o :=
  .keeps record decisions attachments started passes fun r _ _ works => absurd works (idle r)

theorem writeCancel_record (stdin : Option Nat) :
    (writeCancel s stdin).bridgeProcess = s.bridgeProcess := by
  cases stdin <;> rfl

theorem writeCancel_decisions (stdin : Option Nat) :
    (writeCancel s stdin).decisions = s.decisions := by
  cases stdin <;> rfl

theorem writeCancel_attachments (stdin : Option Nat) :
    (writeCancel s stdin).attachments = s.attachments := by
  cases stdin <;> rfl

theorem applyEvent_eq {payload : Payload} {acknowledges : Bool}
    (applied : applyEvent s payload = some (s', acknowledges)) :
    s' = { s with
      status := s'.status
      stoppedEventAckSessionId := s'.stoppedEventAckSessionId
      evidence := s'.evidence } := by
  unfold applyEvent at applied
  split at applied
  · cases applied
  · split at applied <;> cases applied <;> rfl

theorem Task.not_worksFor {task : Task} (marked : task.marked = none)
    (stage : ∀ session, task.stage ≠ some (session, .finalizing)) (r : BridgeProcessRecord) :
    ¬ task.WorksFor r := by
  rintro (⟨session, at_, _⟩ | at_)
  · rw [marked] at at_
    cases at_
  · exact stage r.sessionId at_

theorem attachStep_effect (session : String) (child : Nat) :
    Effect s (.attach session child) (attachStep s session child) := by
  have idle := @Task.not_worksFor (.attach session child) rfl nofun
  unfold attachStep attachSpawned
  cases found : s.recordOf session with
  | none => exact .passes rfl rfl rfl rfl (.reports _ _) idle
  | some r =>
    obtain ⟨current, owned⟩ := recordOf_eq_some.mp found
    cases phase : r.phase with
    | starting =>
      simp only [phase]
      exact .attaches rfl current owned (.inl ⟨phase, rfl⟩) rfl (.inl rfl) rfl
    | stopping =>
      simp only [phase]
      exact .attaches rfl current owned (.inr ⟨phase, rfl⟩) (by rw [phase]; rfl) (.inr rfl) rfl
    | running | completed =>
      simp only [phase]
      exact .passes rfl rfl rfl rfl (.reports _ _) idle

theorem markStep_effect (session : Option String) (firstDeadline : Nat) :
    Effect s (.mark session firstDeadline) (markStep s session firstDeadline) := by
  unfold markStep
  split
  · exact .moves rfl rfl rfl rfl rfl rfl
  · next r found =>
    split
    · exact .moves rfl rfl rfl rfl rfl rfl
    · next matching =>
      split
      · exact .moves rfl rfl rfl rfl rfl rfl
      · next undecided => exact .marks rfl found (by simpa using matching) undecided rfl

theorem takeChildStep_effect (supervisor : Supervisor) (seen : Nat) :
    Effect s (.takeChild supervisor seen) (takeChildStep s supervisor seen) := by
  unfold takeChildStep
  split
  · exact .moves rfl rfl rfl rfl rfl rfl
  · next r found =>
    split
    · next mismatch =>
      refine .keeps rfl rfl rfl rfl (.same _) ?_
      rintro r' current _ (⟨session, at_, matching⟩ | at_)
      · obtain ⟨same, -⟩ : supervisor.session = session ∧ _ := by simpa [Task.marked] using at_
        rw [found] at current
        cases current
        simp [same, matching] at mismatch
      · cases at_
    · next matching =>
      split
      · next decided =>
        refine .keeps rfl rfl rfl rfl (.same _) fun r' current undecided _ => ?_
        rw [found] at current
        cases current
        simp [undecided] at decided
      · next undecided =>
        exact .takes rfl found (by simpa using matching) (by simpa using undecided) rfl rfl

theorem stdoutEnd_effect (session : String) (startup error : Bool) :
    Effect s (.stdoutEnd session startup error)
    (taskStep c s (.stdoutEnd session startup error)) := by
  have idle := @Task.not_worksFor (.stdoutEnd session startup error) rfl nofun
  simp only [taskStep, claimStdoutEnd]
  cases found : s.recordOf session with
  | none =>
    refine .passes rfl rfl rfl rfl (.ends fun r current owned => ?_) idle
    rw [recordOf_eq_some.mpr ⟨current, owned⟩] at found
    cases found
  | some r =>
    obtain ⟨current, owned⟩ := recordOf_eq_some.mp found
    by_cases stopping : r.phase = .stopping
    · simp only [stopping, if_true]
      refine .passes rfl rfl rfl rfl (.ends fun r' current' _ => ?_) idle
      rw [current] at current'
      cases current'
      exact .inl stopping
    · by_cases completed : r.stopResult.isSome ∨ r.phase = .completed
      · simp only [stopping, completed, if_true, if_false]
        refine .passes rfl rfl rfl rfl (.ends fun r' current' _ => ?_) idle
        rw [current] at current'
        cases current'
        exact .inr completed
      · simp only [stopping, completed, if_false]
        have undecided : r.stopResult = none := by simpa using fun h => completed (.inl h)
        exact .claims rfl current owned stopping (fun h => completed (.inr h)) undecided rfl rfl

theorem reported_same {session : String} {status : ComputeNodeStatus}
    (branch : (if s.status.operatorSessionId = some session then { s with status := status }
      else s) = s') : s'.bridgeProcess = s.bridgeProcess ∧ s'.decisions = s.decisions ∧
      s'.attachments = s.attachments ∧ s'.now = s.now ∧
      s'.recordOf session = s.recordOf session := by
  rw [← branch]
  split <;> exact ⟨rfl, rfl, rfl, rfl, rfl⟩

theorem startupFailed_effect (session lastError failure : String) :
    Effect s (.startupFailed session lastError failure)
      (taskStep c s (.startupFailed session lastError failure)) := by
  simp only [taskStep, completeNoChild]
  generalize branch : (if s.status.operatorSessionId = some session then
    { s with status := startupFailureStatus session lastError } else s) = s'
  obtain ⟨record, decisions, attachments, now, recordOf⟩ := reported_same branch
  rw [recordOf]
  cases found : s.recordOf session with
  | none =>
    exact .passes record decisions attachments rfl (.reports _ _)
      (Task.not_worksFor rfl (by rintro _ ⟨⟩))
  | some r =>
    obtain ⟨current, owned⟩ := recordOf_eq_some.mp found
    exact .decides (.startupFailed ..) current owned rfl ⟨rfl, rfl, rfl, rfl, rfl, .inr rfl⟩
      (by simp [notifies, decideRecord, decisions, now]) attachments rfl
      (.inr ⟨rfl, session, lastError, failure, rfl⟩)
      (by rintro _ _ ⟨⟩; exact ⟨⟨.starting, rfl⟩, .inr rfl⟩)

theorem spawnedFailed_effect (session : String) (shutdown : Shutdown) (failure : String) :
    Effect s (.spawnedFailed session shutdown failure)
      (taskStep c s (.spawnedFailed session shutdown failure)) := by
  simp only [taskStep, completeSpawned]
  generalize branch : (if s.status.operatorSessionId = some session then
    { s with status := spawnedFailureStatus s.status shutdown.bridgeKilled } else s) = s'
  obtain ⟨record, decisions, attachments, now, recordOf⟩ := reported_same branch
  rw [recordOf]
  cases found : s.recordOf session with
  | none =>
    exact .passes record decisions attachments rfl (.reports _ _)
      (Task.not_worksFor rfl (by rintro _ ⟨⟩))
  | some r =>
    obtain ⟨current, owned⟩ := recordOf_eq_some.mp found
    exact .decides (.spawnedFailed ..) current owned rfl ⟨rfl, rfl, rfl, rfl, rfl, .inl rfl⟩
      (by simp [notifies, decideRecord, decisions, now]) attachments rfl (.inl rfl)
      (by rintro _ _ ⟨⟩; exact ⟨⟨.starting, rfl⟩, .inr rfl⟩)

theorem commitEnd_effect (stdoutEnd : StdoutEnd) (shutdown : Shutdown) (result : StopResult) :
    Effect s (.commitEnd stdoutEnd shutdown result)
      (taskStep c s (.commitEnd stdoutEnd shutdown result)) := by
  simp only [taskStep, commitStdoutEnd]
  cases found : s.recordOf stdoutEnd.session with
  | none =>
    have absent : ∀ r, s.bridgeProcess = some r → r.sessionId ≠ stdoutEnd.session := by
      intro r current owned
      rw [recordOf_eq_some.mpr ⟨current, owned⟩] at found
      cases found
    refine .keeps rfl rfl rfl rfl (.ends fun r current owned => absurd owned (absent r current)) ?_
    rintro r current _ (⟨_, at_, _⟩ | at_)
    · cases at_
    · have same : stdoutEnd.session = r.sessionId := by simpa [Task.stage] using at_
      exact absurd same.symm (absent r current)
  | some r =>
    obtain ⟨current, owned⟩ := recordOf_eq_some.mp found
    exact .decides (.commitEnd ..) current owned rfl ⟨rfl, rfl, rfl, rfl, rfl, .inl rfl⟩ rfl rfl rfl
      (.inl rfl)
      (by rintro _ _ ⟨⟩; exact ⟨⟨.finalizing, rfl⟩, .inl rfl⟩)

theorem commitStop_effect (supervisor : Supervisor) (shutdown : Shutdown) (result : StopResult) :
    Effect s (.commitStop supervisor shutdown result)
      (taskStep c s (.commitStop supervisor shutdown result)) := by
  simp only [taskStep, commitSupervisor]
  cases found : s.bridgeProcess.filter fun r => r.matchesSession supervisor.session with
  | none =>
    refine .keeps rfl rfl rfl rfl (.leaves _) ?_
    rintro r current _ (⟨session, at_, matching⟩ | at_)
    · obtain ⟨same, -⟩ : supervisor.session = session ∧ _ := by simpa [Task.marked] using at_
      rw [← same] at matching
      rw [Option.filter_eq_some_iff.mpr ⟨current, matching⟩] at found
      cases found
    · cases at_
  | some r =>
    obtain ⟨current, matching⟩ := Option.filter_eq_some_iff.mp found
    exact .decides (.commitStop ..) current matching rfl ⟨rfl, rfl, rfl, rfl, rfl, .inl rfl⟩ rfl rfl rfl
      (.inl rfl)
      (by rintro _ _ ⟨⟩)

theorem taskStep_effect (c : Choice) (s : ComputeNodeState) (task : Task) :
    Effect s task (taskStep c s task) := by
  cases task with
  | nextSession => exact .numbers rfl rfl
  | reserve session =>
    simp only [taskStep, reserveStarting]
    cases free : s.bridgeProcess.any BridgeProcessRecord.isActive with
    | true => exact .passes rfl rfl rfl rfl (.leaves _) (Task.not_worksFor rfl (by rintro _ ⟨⟩))
    | false => exact .reserves rfl free rfl
  | launch session =>
    simp only [taskStep, launchStep]
    cases c.launch <;> exact .moves rfl rfl rfl rfl rfl rfl
  | startupFailed session lastError failure => exact startupFailed_effect ..
  | attach session child => exact attachStep_effect session child
  | publish session =>
    simp only [taskStep, publishRunning]
    split <;> exact .moves rfl rfl rfl rfl rfl rfl
  | readStdout session startup error =>
    simp only [taskStep, readStep]
    cases c.line with
    | unparsed | terminal => exact .moves rfl rfl rfl rfl rfl rfl
    | event payload =>
      simp only
      split
      · exact .moves rfl rfl rfl rfl rfl rfl
      · next applied =>
        have eq := applyEvent_eq applied
        exact .moves (by rw [eq]; rfl) (by rw [eq]; rfl) (by rw [eq]; rfl) rfl rfl rfl
  | stdoutEnd session startup error => exact stdoutEnd_effect ..
  | readCurrent session result =>
    simp only [taskStep]
    split
    · exact .moves rfl rfl rfl rfl rfl rfl
    · exact .passes rfl rfl rfl rfl (startReturned_passes ..) (Task.not_worksFor rfl (by rintro _ ⟨⟩))
  | complete session result =>
    simp only [taskStep, completeTask]
    have idle := @Task.not_worksFor (.complete session result) rfl (by rintro _ ⟨⟩)
    cases found : s.recordOf session with
    | none => exact .passes rfl rfl rfl rfl (startReturned_passes ..) idle
    | some r =>
      obtain ⟨current, owned⟩ := recordOf_eq_some.mp found
      simp only
      split
      · exact .passes rfl rfl rfl rfl (startReturned_passes ..) idle
      · next unstopped => exact .completes rfl current owned unstopped rfl
  | report session error =>
    have idle : ∀ r, ¬ (Task.report session error).WorksFor r := by
      cases session <;> exact Task.not_worksFor rfl (by rintro _ ⟨⟩)
    exact .passes rfl rfl rfl rfl (.leaves _) idle
  | spawnedFailed session shutdown failure => exact spawnedFailed_effect ..
  | acknowledged stdoutEnd shutdown | untilDeadline owner child
  | pastDeadline waiter seen | parked waiter seen
  | childDeadline supervisor child seen | awaitChild supervisor seen
  | ackDeadline supervisor shutdown seen | awaitAck supervisor shutdown seen =>
    simp only [taskStep]
    split <;> exact .moves rfl rfl rfl rfl rfl rfl
  | bridgeExit stdoutEnd shutdown exitStatus cleanupAcknowledged =>
    simp only [taskStep, bridgeExitStep]
    split <;> exact .moves rfl rfl rfl rfl rfl rfl
  | commitEnd stdoutEnd shutdown result => exact commitEnd_effect ..
  | commitStop supervisor shutdown result => exact commitStop_effect ..
  | cancel owner child stdin =>
    have record := writeCancel_record (s := s) stdin
    have decisions := writeCancel_decisions (s := s) stdin
    have attachments := writeCancel_attachments (s := s) stdin
    cases child with
    | none =>
      exact .moves record decisions attachments rfl (owner.after_stage _) (owner.after_marked _)
    | some child => cases owner <;> exact .moves record decisions attachments rfl rfl rfl
  | tryWait owner child =>
    simp only [taskStep]
    split
    · exact .moves rfl rfl rfl rfl rfl rfl
    · exact .moves rfl rfl rfl rfl (owner.after_stage _) (owner.after_marked _)
  | kill owner child =>
    exact .moves rfl rfl rfl rfl (owner.after_stage _) (owner.after_marked _)
  | mark session firstDeadline => exact markStep_effect ..
  | check waiter seen =>
    simp only [taskStep, checkStep]
    split
    · split <;> exact .moves rfl rfl rfl rfl rfl rfl
    · exact .moves rfl rfl rfl rfl rfl rfl
  | supervise session marked =>
    simp only [taskStep]
    split
    · next found =>
      refine .keeps rfl rfl rfl rfl (.leaves _) fun r current _ _ => ?_
      rw [found] at current
      cases current
    · exact .moves rfl rfl rfl rfl rfl rfl
  | takeChild supervisor seen => exact takeChildStep_effect ..
  | checkAck supervisor shutdown seen =>
    simp only [taskStep]
    split
    · exact .moves rfl rfl rfl rfl rfl rfl
    · split <;> exact .moves rfl rfl rfl rfl rfl rfl
  | finalizeWrite finalizer shutdown stopError =>
    exact .moves rfl rfl rfl rfl (finalizer.after_stage _ _) (finalizer.after_marked _ _)
  | _ => exact .moves rfl rfl rfl rfl rfl rfl

/-! ## What a step leaves alone -/

/-- The tasks that spawn, write to, look at or kill a process. -/
def Task.touchesBridge : Task → Bool
  | .launch _ | .cancel _ _ _ | .tryWait _ _ | .kill _ _ => true
  | _ => false

/-- The tasks that publish a status. -/
def Task.publishes : Task → Bool
  | .reserve _ | .startupFailed _ _ _ | .publish _ | .readStdout _ _ _ => true
  | .spawnedFailed _ _ _ | .report _ _ | .bridgeExit _ _ _ _ | .finalizeWrite _ _ _ => true
  | _ => false

/-- The tasks that change the acknowledgement. -/
def Task.acknowledges : Task → Bool
  | .reserve _ | .readStdout _ _ _ => true
  | _ => false

/-- The tasks that notify inside a region, and the one that makes a new `Notify`. -/
def Task.changesNotices : Task → Bool
  | .reserve _ | .stdoutEnd _ _ _ | .takeChild _ _ => true
  | _ => false

/-- What a step leaves as it is. -/
structure Frame (s : ComputeNodeState) (task : Task) (s' : ComputeNodeState) : Prop where
  now : s'.now = s.now
  counter : task ≠ .nextSession → s'.nextSessionId = s.nextSessionId
  bridges : task.touchesBridge = false → s'.bridges = s.bridges
  status : task.publishes = false → s'.status = s.status
  ack : task.acknowledges = false → s'.stoppedEventAckSessionId = s.stoppedEventAckSessionId
  evidence : (∀ session startup error, task ≠ .readStdout session startup error) →
    s'.evidence = s.evidence
  notified : task.changesNotices = false → s'.notified = s.notified

theorem Frame.refl (s : ComputeNodeState) (task : Task) : Frame s task s :=
  ⟨rfl, fun _ => rfl, fun _ => rfl, fun _ => rfl, fun _ => rfl, fun _ => rfl, fun _ => rfl⟩

theorem Frame.publishing {task : Task} (publishes : task.publishes = true)
    (status : ComputeNodeStatus) : Frame s task { s with status } := by
  refine ⟨rfl, fun _ => rfl, fun _ => rfl, fun h => ?_, fun _ => rfl, fun _ => rfl, fun _ => rfl⟩
  rw [publishes] at h
  cases h

theorem Frame.record {task : Task} (frame : Frame s task s')
    (bridgeProcess : Option BridgeProcessRecord) (decisions : List Decision)
    (attachments : List (String × Nat)) :
    Frame s task { s' with bridgeProcess, decisions, attachments } :=
  ⟨frame.now, frame.counter, frame.bridges, frame.status, frame.ack, frame.evidence,
    frame.notified⟩

theorem taskStep_frame (c : Choice) (s : ComputeNodeState) (task : Task) :
    Frame s task (taskStep c s task).shared := by
  cases task with
  | nextSession =>
    exact ⟨rfl, fun ne => absurd rfl ne, fun _ => rfl, fun _ => rfl, fun _ => rfl, fun _ => rfl,
      fun _ => rfl⟩
  | reserve session =>
    simp only [taskStep, reserveStarting]
    split
    · exact .refl s _
    · next h =>
      split at h <;> cases h
      exact ⟨rfl, fun _ => rfl, fun _ => rfl, by rintro ⟨⟩, by rintro ⟨⟩, fun _ => rfl, by rintro ⟨⟩⟩
  | launch session =>
    simp only [taskStep, launchStep]
    cases c.launch with
    | failed => exact .refl s _
    | missingPipe | spawned =>
      exact ⟨rfl, fun _ => rfl, by rintro ⟨⟩, fun _ => rfl, fun _ => rfl, fun _ => rfl, fun _ => rfl⟩
  | startupFailed session lastError failure =>
    simp only [taskStep, notifies, completeNoChild]
    have frame : Frame s (.startupFailed session lastError failure)
        (if s.status.operatorSessionId = some session then
          { s with status := startupFailureStatus session lastError } else s) := by
      split
      · exact .publishing rfl _
      · exact .refl s _
    split
    · exact frame
    · exact frame.record _ _ _
  | spawnedFailed session shutdown failure =>
    simp only [taskStep, notifies, completeSpawned]
    have frame : Frame s (.spawnedFailed session shutdown failure)
        (if s.status.operatorSessionId = some session then
          { s with status := spawnedFailureStatus s.status shutdown.bridgeKilled } else s) := by
      split
      · exact .publishing rfl _
      · exact .refl s _
    split
    · exact frame
    · exact frame.record _ _ _
  | attach session child =>
    simp only [taskStep, attachStep, attachSpawned]
    cases s.recordOf session with
    | none => exact .refl s _
    | some r =>
      simp only
      cases r.phase with
      | starting | stopping => exact (Frame.refl s _).record _ _ _
      | running | completed => exact .refl s _
  | publish session =>
    simp only [taskStep, goes, publishRunning]
    split
    · exact .publishing rfl _
    · exact .refl s _
  | readStdout session startup error =>
    simp only [taskStep, readStep]
    cases c.line with
    | unparsed | terminal => exact .refl s _
    | event payload =>
      simp only
      split
      · exact .refl s _
      · next applied =>
        rw [applyEvent_eq applied]
        exact ⟨rfl, fun _ => rfl, fun _ => rfl, by rintro ⟨⟩, by rintro ⟨⟩, fun ne => absurd rfl (ne _ _ _),
          fun _ => rfl⟩
  | stdoutEnd session startup error =>
    simp only [taskStep, claimStdoutEnd]
    cases s.recordOf session with
    | none => exact .refl s _
    | some r =>
      by_cases stopping : r.phase = .stopping
      · simp only [stopping, if_true]
        exact ⟨rfl, fun _ => rfl, fun _ => rfl, fun _ => rfl, fun _ => rfl, fun _ => rfl, by rintro ⟨⟩⟩
      · by_cases completed : r.stopResult.isSome ∨ r.phase = .completed
        · simp only [stopping, completed, if_true, if_false]
          exact ⟨rfl, fun _ => rfl, fun _ => rfl, fun _ => rfl, fun _ => rfl, fun _ => rfl, by rintro ⟨⟩⟩
        · simp only [stopping, completed, if_false]
          exact (Frame.refl s _).record _ _ _
  | complete session result =>
    simp only [taskStep, goes, completeTask]
    cases s.recordOf session with
    | none => exact .refl s _
    | some r =>
      simp only
      split
      · exact .refl s _
      · exact (Frame.refl s _).record _ _ _
  | commitEnd stdoutEnd shutdown result =>
    simp only [taskStep, notifies, commitStdoutEnd]
    split
    · exact .refl s _
    · exact (Frame.refl s _).record _ _ _
  | commitStop supervisor shutdown result =>
    simp only [taskStep, notifies, commitSupervisor]
    split
    · exact .refl s _
    · exact (Frame.refl s _).record _ _ _
  | report | bridgeExit | finalizeWrite => exact .publishing rfl _
  | cancel owner child stdin =>
    cases stdin with
    | none => exact .refl s _
    | some p =>
      exact ⟨rfl, fun _ => rfl, by rintro ⟨⟩, fun _ => rfl, fun _ => rfl, fun _ => rfl, fun _ => rfl⟩
  | tryWait owner child =>
    simp only [taskStep]
    split
    · exact .refl s _
    · exact ⟨rfl, fun _ => rfl, by rintro ⟨⟩, fun _ => rfl, fun _ => rfl, fun _ => rfl, fun _ => rfl⟩
  | kill owner child =>
    exact ⟨rfl, fun _ => rfl, by rintro ⟨⟩, fun _ => rfl, fun _ => rfl, fun _ => rfl, fun _ => rfl⟩
  | mark session firstDeadline =>
    simp only [taskStep, markStep]
    split
    · exact .refl s _
    · split
      · exact .refl s _
      · split
        · exact .refl s _
        · exact (Frame.refl s _).record _ _ _
  | check waiter seen =>
    simp only [taskStep, checkStep]
    split
    · split <;> exact .refl s _
    · exact .refl s _
  | takeChild supervisor seen =>
    simp only [taskStep, takeChildStep]
    split
    · exact .refl s _
    · split
      · exact .refl s _
      · split
        · exact ⟨rfl, fun _ => rfl, fun _ => rfl, fun _ => rfl, fun _ => rfl, fun _ => rfl, by rintro ⟨⟩⟩
        · exact (Frame.refl s _).record _ _ _
  | _ => exact .refl s _

end Operator
