import TokenPlace.Desktop.Status

/-!
# The desktop operator

`start_compute_node`, `stop_compute_node`, the shutdown supervisor and the
finalization at the end of a bridge's output. Every region under a lock is one step
of a thread, as is every spawn, every look at a process or at the clock, every
cancel line, every kill, and every registration with a `Notify` and call of
`notify_waiters`. Bridges write, exit and are left waiting as the environment
decides, with the session id that they were started with.

The legacy slots are unused, so they are left out, as are the log, the events that
are sent to the window and the arguments of the bridge. A `Notify` is the number of
times that its waiters have been notified, and a bridge is its place in the list of
all that have been spawned.
-/

namespace Operator

/-! ## State -/

/-- `BridgeProcessPhase`. -/
inductive BridgeProcessPhase
  | starting
  | running
  | stopping
  | completed
deriving DecidableEq

/-- What a stop returns. -/
abbrev StopResult := Except String Unit

/-- `BridgeProcessRecord`. -/
structure BridgeProcessRecord where
  sessionId : String
  phase : BridgeProcessPhase
  child : Option Nat
  stdin : Option Nat
  stopDeadline : Option Nat
  cancelSent : Bool
  killed : Bool
  exitStatus : Option ExitStatus
  stopResult : Option StopResult
  shutdownWorkerStarted : Bool
  notify : Nat
deriving DecidableEq

/-- `BridgeProcessRecord::new` without a child. -/
def BridgeProcessRecord.new (session : String) (notify : Nat) : BridgeProcessRecord where
  sessionId := session
  phase := .starting
  child := none
  stdin := none
  stopDeadline := none
  cancelSent := false
  killed := false
  exitStatus := none
  stopResult := none
  shutdownWorkerStarted := false
  notify := notify

/-- `BridgeProcessRecord::is_active`. -/
def BridgeProcessRecord.isActive (record : BridgeProcessRecord) : Bool :=
  decide (record.phase ≠ .completed) || (record.child.isSome && record.stopResult.isNone)

/-- `matches_session`, which lets a stop without a session match every record. -/
def BridgeProcessRecord.matchesSession (record : BridgeProcessRecord) (session : Option String) :
    Bool :=
  session.all fun session => decide (record.sessionId = "") || decide (record.sessionId = session)

/-- A spawned process: how it ended, whether the operator has seen that, whether it
was killed, and how many cancel lines were written to its stdin. -/
structure BridgeProcess where
  exitStatus : Option ExitStatus
  observed : Bool
  killed : Bool
  cancelLines : Nat
deriving DecidableEq

/-- A result that was stored in the record of that `Notify`, and when. -/
structure Decision where
  record : Nat
  result : StopResult
  time : Nat
deriving DecidableEq

/-- `ComputeNodeState`, the clock, the waiters' `Notify` objects (the first one is
`stopped_event_ack_notify`) and the processes. The last three fields are for the
proofs: the results that were stored, the sessions to whose record a child was
attached, and the sessions of which a `stopped` event was accepted with coherent
cleanup evidence. -/
structure ComputeNodeState where
  bridgeProcess : Option BridgeProcessRecord
  status : ComputeNodeStatus
  nextSessionId : Nat
  stoppedEventAckSessionId : Option String
  now : Nat
  notified : List Nat
  bridges : List BridgeProcess
  decisions : List Decision
  attachments : List (String × Nat)
  evidence : List String
deriving DecidableEq

/-- `DEFAULT_BRIDGE_SHUTDOWN_TIMEOUT`, in milliseconds. -/
def defaultBridgeShutdownTimeout : Nat := 12000

/-- How often the waiters of a `Notify` have been notified. -/
def ComputeNodeState.notices (s : ComputeNodeState) (notify : Nat) : Nat :=
  s.notified[notify]?.getD 0

/-- `notify_waiters`. -/
def notifyWaiters (s : ComputeNodeState) (notify : Nat) : ComputeNodeState :=
  { s with notified := s.notified.modify notify (· + 1) }

/-- One cancel line for the process behind a stdin handle. -/
def writeCancel (s : ComputeNodeState) (stdin : Option Nat) : ComputeNodeState :=
  match stdin with
  | none => s
  | some p =>
    { s with
      bridges := s.bridges.modify p fun bridge =>
        { bridge with cancelLines := bridge.cancelLines + 1 } }

/-! ## The regions under the locks -/

/-- `reserve_starting_bridge_process_for_session`. -/
def reserveStarting (s : ComputeNodeState) (session : String) : Option ComputeNodeState :=
  if s.bridgeProcess.any BridgeProcessRecord.isActive then none
  else
    some { s with
      bridgeProcess := some (.new session s.notified.length)
      status := reservedStatus s.status session
      stoppedEventAckSessionId := none
      notified := s.notified ++ [0] }

/-- `snapshot_stop_session`. -/
def snapshotStopSession (s : ComputeNodeState) : Option String :=
  match s.bridgeProcess with
  | some record =>
    if record.isActive ∧ record.sessionId ≠ "" then some record.sessionId
    else s.status.operatorSessionId
  | none => s.status.operatorSessionId

/-- The record of that session, if it is the current one. -/
def ComputeNodeState.recordOf (s : ComputeNodeState) (session : String) :
    Option BridgeProcessRecord :=
  s.bridgeProcess.filter fun record => decide (record.sessionId = session)

/-- The result of a record is stored. -/
def decideRecord (s : ComputeNodeState) (record : BridgeProcessRecord) (result : StopResult) :
    ComputeNodeState :=
  { s with
    bridgeProcess := some { record with phase := .completed, stopResult := some result }
    decisions := s.decisions ++ [⟨record.notify, result, s.now⟩] }

/-- `BridgeProcessAttachmentOutcome`. -/
inductive AttachmentOutcome
  | running
  | stopping
  | superseded
deriving DecidableEq

/-- `attach_spawned_bridge_process_for_session`. -/
def attachSpawned (s : ComputeNodeState) (session : String) (child : Nat) :
    ComputeNodeState × AttachmentOutcome :=
  match s.recordOf session with
  | none => (s, .superseded)
  | some record =>
    match record.phase with
    | .starting =>
      ({ s with
          bridgeProcess :=
            some { record with child := some child, stdin := some child, phase := .running }
          attachments := s.attachments ++ [(session, child)] },
        .running)
    | .stopping =>
      ({ s with
          bridgeProcess := some { record with child := some child, stdin := some child }
          attachments := s.attachments ++ [(session, child)] },
        .stopping)
    | .running | .completed => (s, .superseded)

/-- `publish_running_if_bridge_record_still_running`. -/
def publishRunning (s : ComputeNodeState) (session : String) : ComputeNodeState :=
  if (s.recordOf session).any (fun record => decide (record.phase = .running)) ∧
      s.status.operatorSessionId = some session then
    { s with status := runningStatus session }
  else s

/-- The region of `complete_no_child_startup_failure`. -/
def completeNoChild (s : ComputeNodeState) (session lastError : String) : ComputeNodeState :=
  let s :=
    if s.status.operatorSessionId = some session then
      { s with status := startupFailureStatus session lastError }
    else s
  match s.recordOf session with
  | none => s
  | some record => decideRecord s record (.ok ())

/-- The region of `complete_spawned_bridge_startup_failure`. -/
def completeSpawned (s : ComputeNodeState) (session : String) (shutdown : Shutdown) :
    ComputeNodeState :=
  let s :=
    if s.status.operatorSessionId = some session then
      { s with status := spawnedFailureStatus s.status shutdown.bridgeKilled }
    else s
  match s.recordOf session with
  | none => s
  | some record =>
    decideRecord s
      { record with
        killed := shutdown.bridgeKilled
        exitStatus := shutdown.childExitStatus
        child := none
        stdin := none }
      (.error stopWarning)

/-- The status and acknowledgement after a line of the bridge's output, with whether
the waiters for the acknowledgement are notified: `apply_compute_node_event_to_state`.
A rejected event gives nothing. -/
def applyEvent (s : ComputeNodeState) (payload : Payload) : Option (ComputeNodeState × Bool) :=
  match updateStatusFromEvent s.status payload with
  | none => none
  | some status =>
    if payload.type = some "stopped" ∧ payload.operatorSessionId.any (fun session => session ≠ "") ∧
        status.operatorSessionId = payload.operatorSessionId then
      some
        ({ s with
            status
            stoppedEventAckSessionId := payload.operatorSessionId
            evidence := s.evidence ++
              if coherentSuccess status then payload.operatorSessionId.toList else [] },
          true)
    else some ({ s with status }, false)

/-- What the first region of `finalize_bridge_stdout_end` finds. -/
inductive StdoutClaim
  | ended (result : StopResult)
  | claimed (notify deadline : Nat) (child stdin : Option Nat)
deriving DecidableEq

/-- The first region of `finalize_bridge_stdout_end`. -/
def claimStdoutEnd (s : ComputeNodeState) (session : String) : ComputeNodeState × StdoutClaim :=
  match s.recordOf session with
  | none => (s, .ended (.ok ()))
  | some record =>
    if record.phase = .stopping then (notifyWaiters s record.notify, .ended (.ok ()))
    else if record.stopResult.isSome ∨ record.phase = .completed then
      (notifyWaiters s record.notify, .ended (record.stopResult.getD (.ok ())))
    else
      let deadline := record.stopDeadline.getD (s.now + defaultBridgeShutdownTimeout)
      let stdin := if record.cancelSent then none else record.stdin
      ({ s with
          bridgeProcess := some
            { record with
              phase := .stopping
              stopDeadline := some deadline
              shutdownWorkerStarted := true
              child := none
              stdin := if record.cancelSent then record.stdin else none
              cancelSent := record.cancelSent || stdin.isSome } },
        .claimed record.notify deadline record.child stdin)

/-- The last region of `finalize_bridge_stdout_end`. -/
def commitStdoutEnd (s : ComputeNodeState) (session : String) (shutdown : Shutdown)
    (result : StopResult) : ComputeNodeState :=
  match s.recordOf session with
  | none => s
  | some record =>
    decideRecord s
      { record with
        killed := shutdown.bridgeKilled
        exitStatus := shutdown.childExitStatus
        child := none
        stdin := none }
      result

/-- The last region of `bridge_shutdown_supervisor`, with the `Notify` of the record. -/
def commitSupervisor (s : ComputeNodeState) (session : Option String) (shutdown : Shutdown)
    (result : StopResult) : ComputeNodeState × Option Nat :=
  match s.bridgeProcess.filter fun record => record.matchesSession session with
  | none => (s, none)
  | some record =>
    (decideRecord s
      { record with
        killed := shutdown.bridgeKilled
        exitStatus := shutdown.childExitStatus
        child := none
        stdin := none }
      result,
      some record.notify)

/-- The region at the end of `start_compute_node`. -/
def completeTask (s : ComputeNodeState) (session : String) : ComputeNodeState :=
  match s.recordOf session with
  | none => s
  | some record =>
    if record.phase = .stopping then s
    else { s with bridgeProcess := some { record with phase := .completed } }

/-! ## Tasks -/

/-- The locals of `bridge_shutdown_supervisor`. `marked` is the `Notify` of the record
for which it was started. -/
structure Supervisor where
  session : Option String
  marked : Nat
  notify : Nat
  deadline : Nat
  stdin : Option Nat
deriving DecidableEq

/-- The locals of `finalize_bridge_stdout_end`. -/
structure StdoutEnd where
  session : String
  notify : Nat
  deadline : Nat
  sawStartupEvent : Bool
  sawErrorEvent : Bool
deriving DecidableEq

/-- The locals of `wait_for_cached_stop_result`. -/
structure Waiter where
  session : Option String
  notify : Nat
  deadline : Nat
deriving DecidableEq

/-- Who shuts a process down. -/
inductive Owner
  | failedStart (session : String) (deadline : Nat) (failure : String)
  | superseded (session : String)
  | supervisor (supervisor : Supervisor)
  | stdoutEnd (stdoutEnd : StdoutEnd)
deriving DecidableEq

/-- The callers of `finalize_stop_status`. -/
inductive Finalizer
  | supervisor (supervisor : Supervisor)
  | stdoutEnd (stdoutEnd : StdoutEnd)
  | stopCall (session : Option String)
deriving DecidableEq

/-- The session that is passed to `finalize_stop_status`. -/
def Finalizer.session : Finalizer → Option String
  | .supervisor locals => locals.session
  | .stdoutEnd locals => some locals.session
  | .stopCall session => session

/-- Where a thread stands. -/
inductive Task
  -- `start_compute_node`
  | nextSession
  | reserve (session : String)
  | launch (session : String)
  | startupFailed (session lastError failure : String)
  | attach (session : String) (child : Nat)
  | publish (session : String)
  | readStdout (session : String) (sawStartupEvent sawErrorEvent : Bool)
  | stdoutEnd (session : String) (sawStartupEvent sawErrorEvent : Bool)
  | sessionCurrent (session : String) (result : StopResult)
  | readCurrent (session : String) (result : StopResult)
  | complete (session : String) (result : StopResult)
  | spawnedFailed (session : String) (shutdown : Shutdown) (failure : String)
  -- the command `start_compute_node`, when the start has failed, with the session if one
  -- was reserved
  | report (session : Option String) (error : String)
  -- `finalize_bridge_stdout_end`
  | acknowledged (stdoutEnd : StdoutEnd) (shutdown : Shutdown)
  | bridgeExit (stdoutEnd : StdoutEnd) (shutdown : Shutdown) (exitStatus : ExitStatus)
      (cleanupAcknowledged : Bool)
  | commitEnd (stdoutEnd : StdoutEnd) (shutdown : Shutdown) (result : StopResult)
  -- a process is shut down
  | cancel (owner : Owner) (child stdin : Option Nat)
  | tryWait (owner : Owner) (child : Nat)
  | untilDeadline (owner : Owner) (child : Nat)
  | kill (owner : Owner) (child : Nat)
  -- `stop_compute_node`
  | snapshot
  | readDeadline (session : Option String)
  | mark (session : Option String) (firstDeadline : Nat)
  | register (waiter : Waiter)
  | check (waiter : Waiter) (seen : Nat)
  | pastDeadline (waiter : Waiter) (seen : Nat)
  | parked (waiter : Waiter) (seen : Nat)
  | returned (waiter : Option Waiter) (session : Option String) (result : StopResult)
  -- `bridge_shutdown_supervisor`
  | supervise (session : Option String) (marked : Nat)
  | registerSupervisor (supervisor : Supervisor)
  | takeChild (supervisor : Supervisor) (seen : Nat)
  | childDeadline (supervisor : Supervisor) (child : Option Nat) (seen : Nat)
  | awaitChild (supervisor : Supervisor) (seen : Nat)
  | registerAck (supervisor : Supervisor) (shutdown : Shutdown)
  | checkAck (supervisor : Supervisor) (shutdown : Shutdown) (seen : Nat)
  | ackDeadline (supervisor : Supervisor) (shutdown : Shutdown) (seen : Nat)
  | awaitAck (supervisor : Supervisor) (shutdown : Shutdown) (seen : Nat)
  | commitStop (supervisor : Supervisor) (shutdown : Shutdown) (result : StopResult)
  -- `finalize_stop_status`
  | finalizeRead (finalizer : Finalizer) (shutdown : Shutdown) (cleanupAcknowledged : Bool)
  | finalizeWrite (finalizer : Finalizer) (shutdown : Shutdown) (stopError : Option String)
  | finished
deriving DecidableEq

/-- The deadline until which a process may exit by itself. -/
def Owner.deadline : Owner → Nat
  | .failedStart _ deadline _ => deadline
  | .superseded _ => 0
  | .supervisor locals => locals.deadline
  | .stdoutEnd locals => locals.deadline

/-- The error of a start whose bridge is not needed any more. -/
def alreadyRunning : String :=
  "compute node already running; stop it before starting a new session"

/-- The task after the process has been shut down, or after there was none. -/
def Owner.after (shutdown : Shutdown) : Owner → Task
  | .failedStart session _ failure => .spawnedFailed session shutdown failure
  | .superseded session => .report (some session) alreadyRunning
  | .supervisor locals =>
    if shutdown.hadChild && !shutdown.bridgeKilled && locals.session.isSome then
      .registerAck locals shutdown
    else
      .finalizeRead (.supervisor locals) shutdown
        (!shutdown.hadChild || shutdown.bridgeKilled)
  | .stdoutEnd locals => .acknowledged locals shutdown

/-- The result of a stop with that error. -/
def stopResultOf : Option String → StopResult
  | none => .ok ()
  | some error => .error error

/-- The task after `finalize_stop_status` has returned. -/
def Finalizer.after (shutdown : Shutdown) (result : StopResult) : Finalizer → Task
  | .supervisor locals => .commitStop locals shutdown result
  | .stdoutEnd locals => .commitEnd locals shutdown result
  | .stopCall session => .returned none session result

/-- The task after `start_compute_node` has returned. -/
def startReturned (session : String) : StopResult → Task
  | .ok () => .finished
  | .error error => .report (some session) error

/-! ## Steps -/

/-- How the launch of a bridge ends: with no process, with one that lacks a pipe (and
the stdin that it has), or with one. -/
inductive Launch
  | failed (lastError failure : String)
  | missingPipe (hasStdin : Bool) (failure : String)
  | spawned
deriving DecidableEq

/-- What the next read of a bridge's output gives. -/
inductive Line
  | event (payload : Payload)
  | unparsed
  | terminal
deriving DecidableEq

/-- What the environment decides in a step. -/
structure Choice where
  launch : Launch
  line : Line
  diagnostic : Option String
deriving DecidableEq

/-- The outcome of a step: the new state, the next task, the `Notify` whose waiters
are notified before it, and a thread that was started. -/
structure Outcome where
  shared : ComputeNodeState
  task : Task
  notifying : Option Nat
  started : Option Task
deriving DecidableEq

/-- A step that notifies nobody and starts nothing. -/
def goes (shared : ComputeNodeState) (task : Task) : Outcome :=
  ⟨shared, task, none, none⟩

/-- A step that is followed by `notify_waiters`. -/
def notifies (shared : ComputeNodeState) (notify : Option Nat) (task : Task) : Outcome :=
  ⟨shared, task, notify, none⟩

/-- A process that has just been spawned. -/
def spawnedBridge : BridgeProcess :=
  ⟨none, false, false, 0⟩

/-- How the process has ended, once it was killed. -/
def BridgeProcess.killedStatus (bridge : BridgeProcess) : ExitStatus :=
  bridge.exitStatus.getD (.signal 9)

/-- The `launch` of a bridge. -/
def launchStep (c : Choice) (s : ComputeNodeState) (session : String) : Outcome :=
  match c.launch with
  | .failed lastError failure => goes s (.startupFailed session lastError failure)
  | .missingPipe hasStdin failure =>
    goes { s with bridges := s.bridges ++ [spawnedBridge] }
      (.cancel (.failedStart session (s.now + defaultBridgeShutdownTimeout) failure)
        (some s.bridges.length) (if hasStdin then some s.bridges.length else none))
  | .spawned =>
    goes { s with bridges := s.bridges ++ [spawnedBridge] } (.attach session s.bridges.length)

/-- The attachment of a child, and what the start does with its outcome. -/
def attachStep (s : ComputeNodeState) (session : String) (child : Nat) : Outcome :=
  match (attachSpawned s session child).2 with
  | .running => goes (attachSpawned s session child).1 (.publish session)
  | .stopping =>
    notifies (attachSpawned s session child).1 ((s.recordOf session).map (·.notify))
      (.readStdout session false false)
  | .superseded =>
    notifies s ((s.recordOf session).map (·.notify))
      (.cancel (.superseded session) (some child) (some child))

/-- One read of the bridge's output. -/
def readStep (c : Choice) (s : ComputeNodeState) (session : String)
    (sawStartupEvent sawErrorEvent : Bool) : Outcome :=
  match c.line with
  | .unparsed => goes s (.readStdout session sawStartupEvent sawErrorEvent)
  | .terminal => goes s (.stdoutEnd session sawStartupEvent sawErrorEvent)
  | .event payload =>
    let payload := { payload with operatorSessionId := some session }
    match applyEvent s payload with
    | none => goes s (.readStdout session sawStartupEvent sawErrorEvent)
    | some (s, acknowledges) =>
      notifies s (if acknowledges then some 0 else none)
        (.readStdout session (sawStartupEvent || decide (payload.type = some "started"))
          (sawErrorEvent || decide (payload.type = some "error")))

/-- The region of `stop_compute_node` that marks the record. -/
def markStep (s : ComputeNodeState) (session : Option String) (firstDeadline : Nat) : Outcome :=
  match s.bridgeProcess with
  | none => goes s (.finalizeRead (.stopCall session) ⟨false, false, none⟩ true)
  | some record =>
    if !record.matchesSession session then goes s (.returned none session (.error stopWarning))
    else
      match record.stopResult with
      | some result => goes s (.returned none (some record.sessionId) result)
      | none =>
        let deadline := record.stopDeadline.getD firstDeadline
        { shared :=
            { s with
              bridgeProcess := some
                { record with
                  phase := .stopping
                  stopDeadline := some deadline
                  shutdownWorkerStarted := true } }
          task := .register ⟨session, record.notify, deadline⟩
          notifying := none
          started :=
            if record.shutdownWorkerStarted then none
            else some (.supervise session record.notify) }

/-- The region in the loop of `wait_for_cached_stop_result`. -/
def checkStep (s : ComputeNodeState) (waiter : Waiter) (seen : Nat) : Outcome :=
  match s.bridgeProcess.filter fun record => record.matchesSession waiter.session with
  | some record =>
    match record.stopResult with
    | some result => goes s (.returned (some waiter) (some record.sessionId) result)
    | none => goes s (.pastDeadline waiter seen)
  | none => goes s (.pastDeadline waiter seen)

/-- The region in the loop of `bridge_shutdown_supervisor`. -/
def takeChildStep (s : ComputeNodeState) (supervisor : Supervisor) (seen : Nat) : Outcome :=
  match s.bridgeProcess with
  | none => goes s (.cancel (.supervisor supervisor) none supervisor.stdin)
  | some record =>
    if !record.matchesSession supervisor.session then goes s .finished
    else if record.stopResult.isSome then goes (notifyWaiters s record.notify) .finished
    else
      let takes := supervisor.stdin.isNone && !record.cancelSent
      let stdin := if takes then record.stdin else supervisor.stdin
      goes
        { s with
          bridgeProcess := some
            { record with
              child := none
              stdin := if takes then none else record.stdin
              cancelSent := if takes then record.stdin.isSome else record.cancelSent } }
        (.childDeadline { supervisor with stdin } record.child seen)

/-- The region of `finalize_bridge_stdout_end` that calls `finalize_bridge_exit`. -/
def bridgeExitStep (c : Choice) (s : ComputeNodeState) (stdoutEnd : StdoutEnd)
    (shutdown : Shutdown) (exitStatus : ExitStatus) (cleanupAcknowledged : Bool) : Outcome :=
  let status := finalizeBridgeExit s.status exitStatus stdoutEnd.sawStartupEvent
    stdoutEnd.sawErrorEvent stdoutEnd.session c.diagnostic
  let clean := stdoutEnd.sawStartupEvent && exitStatus.success
  goes { s with status }
    (if clean then .finalizeRead (.stdoutEnd stdoutEnd) shutdown cleanupAcknowledged
    else
      .commitEnd stdoutEnd shutdown
        (.error
          (if status.operatorSessionId = some stdoutEnd.session then
            status.lastError.getD stopWarning
          else stopWarning)))

/-- One step of a thread that has nobody to notify. -/
def taskStep (c : Choice) (s : ComputeNodeState) : Task → Outcome
  | .nextSession =>
    goes { s with nextSessionId := s.nextSessionId + 1 } (.reserve (toString (s.nextSessionId + 1)))
  | .reserve session =>
    match reserveStarting s session with
    | none => goes s (.report none alreadyRunning)
    | some s => notifies s (some 0) (.launch session)
  | .launch session => launchStep c s session
  | .startupFailed session lastError failure =>
    notifies (completeNoChild s session lastError) ((s.recordOf session).map (·.notify))
      (.report (some session) failure)
  | .attach session child => attachStep s session child
  | .publish session => goes (publishRunning s session) (.readStdout session false false)
  | .readStdout session sawStartupEvent sawErrorEvent =>
    readStep c s session sawStartupEvent sawErrorEvent
  | .stdoutEnd session sawStartupEvent sawErrorEvent =>
    match (claimStdoutEnd s session).2 with
    | .ended result => goes (claimStdoutEnd s session).1 (.sessionCurrent session result)
    | .claimed notify deadline child stdin =>
      goes (claimStdoutEnd s session).1
        (.cancel (.stdoutEnd ⟨session, notify, deadline, sawStartupEvent, sawErrorEvent⟩) child stdin)
  | .sessionCurrent session result =>
    goes s (.readCurrent session
      (if s.status.operatorSessionId = some session then result else .ok ()))
  | .readCurrent session result =>
    goes s
      (if s.status.operatorSessionId = some session then .complete session result
      else startReturned session result)
  | .complete session result => goes (completeTask s session) (startReturned session result)
  | .spawnedFailed session shutdown failure =>
    notifies (completeSpawned s session shutdown) ((s.recordOf session).map (·.notify))
      (.report (some session) (failure ++ ": " ++ stopWarning))
  | .report _ error => goes { s with status := reportedStatus s.status error } .finished
  | .acknowledged stdoutEnd shutdown =>
    let acknowledged := decide (s.status.operatorSessionId = some stdoutEnd.session) &&
      decide (s.stoppedEventAckSessionId = some stdoutEnd.session)
    goes s
      (match shutdown.childExitStatus with
        | some exitStatus => .bridgeExit stdoutEnd shutdown exitStatus acknowledged
        | none => .commitEnd stdoutEnd shutdown (.error stopWarning))
  | .bridgeExit stdoutEnd shutdown exitStatus cleanupAcknowledged =>
    bridgeExitStep c s stdoutEnd shutdown exitStatus cleanupAcknowledged
  | .commitEnd stdoutEnd shutdown result =>
    notifies (commitStdoutEnd s stdoutEnd.session shutdown result) (some stdoutEnd.notify)
      (.sessionCurrent stdoutEnd.session result)
  | .cancel owner child stdin =>
    goes (writeCancel s stdin)
      (match child, owner with
        | none, owner => owner.after ⟨false, false, none⟩
        | some child, .superseded session => .kill (.superseded session) child
        | some child, owner => .tryWait owner child)
  | .tryWait owner child =>
    match s.bridges[child]?.bind BridgeProcess.exitStatus with
    | none => goes s (.untilDeadline owner child)
    | some exitStatus =>
      goes
        { s with bridges := s.bridges.modify child fun bridge => { bridge with observed := true } }
        (owner.after ⟨true, false, some exitStatus⟩)
  | .untilDeadline owner child =>
    goes s (if s.now < owner.deadline then .tryWait owner child else .kill owner child)
  | .kill owner child =>
    goes
      { s with
        bridges := s.bridges.modify child fun bridge =>
          { bridge with exitStatus := some bridge.killedStatus, observed := true, killed := true } }
      (owner.after ⟨true, true, s.bridges[child]?.map BridgeProcess.killedStatus⟩)
  | .snapshot => goes s (.readDeadline (snapshotStopSession s))
  | .readDeadline session => goes s (.mark session (s.now + defaultBridgeShutdownTimeout))
  | .mark session firstDeadline => markStep s session firstDeadline
  | .register waiter => goes s (.check waiter (s.notices waiter.notify))
  | .check waiter seen => checkStep s waiter seen
  | .pastDeadline waiter seen =>
    goes s
      (if waiter.deadline ≤ s.now then .returned (some waiter) waiter.session (.error stopWarning)
      else .parked waiter seen)
  | .parked waiter seen =>
    goes s
      (if seen < s.notices waiter.notify ∨ waiter.deadline ≤ s.now then .register waiter
      else .parked waiter seen)
  | .returned waiter session result => goes s (.returned waiter session result)
  | .supervise session marked =>
    goes s
      (match s.bridgeProcess with
        | none => .finished
        | some record =>
          .registerSupervisor
            ⟨session, marked, record.notify,
              record.stopDeadline.getD (s.now + defaultBridgeShutdownTimeout), none⟩)
  | .registerSupervisor supervisor =>
    goes s (.takeChild supervisor (s.notices supervisor.notify))
  | .takeChild supervisor seen => takeChildStep s supervisor seen
  | .childDeadline supervisor child seen =>
    goes s
      (if child.isSome ∨ supervisor.deadline ≤ s.now then
        .cancel (.supervisor supervisor) child supervisor.stdin
      else .awaitChild supervisor seen)
  | .awaitChild supervisor seen =>
    goes s
      (if seen < s.notices supervisor.notify ∨ supervisor.deadline ≤ s.now then
        .registerSupervisor supervisor
      else .awaitChild supervisor seen)
  | .registerAck supervisor shutdown => goes s (.checkAck supervisor shutdown (s.notices 0))
  | .checkAck supervisor shutdown seen =>
    goes s
      (if s.status.operatorSessionId ≠ supervisor.session then
        .finalizeRead (.supervisor supervisor) shutdown false
      else if s.stoppedEventAckSessionId = supervisor.session then
        .finalizeRead (.supervisor supervisor) shutdown true
      else .ackDeadline supervisor shutdown seen)
  | .ackDeadline supervisor shutdown seen =>
    goes s
      (if supervisor.deadline ≤ s.now then .finalizeRead (.supervisor supervisor) shutdown false
      else .awaitAck supervisor shutdown seen)
  | .awaitAck supervisor shutdown seen =>
    goes s
      (if seen < s.notices 0 ∨ supervisor.deadline ≤ s.now then .registerAck supervisor shutdown
      else .awaitAck supervisor shutdown seen)
  | .commitStop supervisor shutdown result =>
    notifies (commitSupervisor s supervisor.session shutdown result).1
      (commitSupervisor s supervisor.session shutdown result).2 .finished
  | .finalizeRead finalizer shutdown cleanupAcknowledged =>
    goes s (.finalizeWrite finalizer shutdown
      (stopOutcomeError s.status finalizer.session shutdown cleanupAcknowledged))
  | .finalizeWrite finalizer shutdown stopError =>
    goes { s with status := finalizedStatus s.status finalizer.session shutdown.hadChild stopError }
      (finalizer.after shutdown (stopResultOf stopError))
  | .finished => goes s .finished

/-! ## Runs -/

/-- A thread, with the `Notify` whose waiters it notifies next. -/
structure Thread where
  task : Task
  notifying : Option Nat
deriving DecidableEq

/-- The operator and the threads that work on it. -/
structure OperatorSystem where
  shared : ComputeNodeState
  threads : List Thread
deriving DecidableEq

/-- A start or a stop is requested, a thread takes its next step, a process exits by
itself, or time passes. -/
inductive OperatorEvent
  | start
  | stop
  | run (i : Nat) (c : Choice)
  | exit (bridge : Nat) (exitStatus : ExitStatus)
  | tick (elapsed : Nat)
deriving DecidableEq

/-- A process that exits by itself, unless it has ended already. -/
def BridgeProcess.exits (exitStatus : ExitStatus) (bridge : BridgeProcess) : BridgeProcess :=
  { bridge with exitStatus := bridge.exitStatus.or (some exitStatus) }

/-- One step of a thread. -/
def threadStep (c : Choice) (s : ComputeNodeState) (t : Thread) : Outcome :=
  match t.notifying with
  | some notify => goes (notifyWaiters s notify) t.task
  | none => taskStep c s t.task

/-- The system after one event. -/
def operatorStep (ev : OperatorEvent) (x : OperatorSystem) : OperatorSystem :=
  match ev with
  | .start => { x with threads := x.threads ++ [⟨.nextSession, none⟩] }
  | .stop => { x with threads := x.threads ++ [⟨.snapshot, none⟩] }
  | .run i c =>
    match x.threads[i]? with
    | none => x
    | some t =>
      let outcome := threadStep c x.shared t
      { shared := outcome.shared
        threads := x.threads.set i ⟨outcome.task, outcome.notifying⟩ ++
          (outcome.started.map fun task => (⟨task, none⟩ : Thread)).toList }
  | .exit bridge exitStatus =>
    { x with
      shared :=
        { x.shared with
          bridges := x.shared.bridges.modify bridge (BridgeProcess.exits exitStatus) } }
  | .tick elapsed => { x with shared := { x.shared with now := x.shared.now + elapsed } }

/-- The operator before its first session. -/
def newOperator : OperatorSystem where
  shared :=
    { bridgeProcess := none
      status := .default
      nextSessionId := 0
      stoppedEventAckSessionId := none
      now := 0
      notified := [0]
      bridges := []
      decisions := []
      attachments := []
      evidence := [] }
  threads := []

/-! ## Schedules -/

/-- A bridge that is spawned with all its pipes and closes its output at once. -/
def plainChoice : Choice := ⟨.spawned, .terminal, none⟩

/-- The next steps of a thread, with plain choices. -/
def turns (i n : Nat) : List OperatorEvent :=
  List.replicate n (.run i plainChoice)

end Operator
