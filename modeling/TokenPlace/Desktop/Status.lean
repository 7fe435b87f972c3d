import Mathlib

/-!
# The published status of the desktop operator

The part of `ComputeNodeStatus` that the lifecycle of a session reads, and the
functions of `compute_node.rs` that write it: bridge events, the failure of a
start-up, the exit of the bridge, and the end of a stop. Relay lists, modes,
backends, worker diagnostics and times are left out, as none of these functions
reads them.
-/

namespace Operator

/-- `std::process::ExitStatus`: a code, or the signal that ended the process. -/
inductive ExitStatus
  | code (value : Int)
  | signal (number : Nat)
deriving DecidableEq

/-- `ExitStatus::success`. -/
def ExitStatus.success (exitStatus : ExitStatus) : Bool :=
  decide (exitStatus = .code 0)

/-- `bridge_exit_status_label`. -/
def ExitStatus.label : ExitStatus → String
  | .code value => toString value
  | .signal number => "signal " ++ toString number

/-- The warning of every stop that cannot be confirmed. -/
def stopWarning : String :=
  "Operator stopped locally, but unregister did not complete for one relay; " ++
    "it may remain listed until lease expiry."

/-- The fields of `ComputeNodeStatus` that are read here. -/
structure ComputeNodeStatus where
  running : Bool
  registered : Bool
  lastError : Option String
  relayRuntimeState : Option String
  warmLoadState : Option String
  workerGeneration : Option Nat
  stopCleanupRequired : Option Bool
  stopCleanupAttempted : Option Bool
  stopCleanupOutcome : Option String
  stopCleanupSuccessCount : Option Nat
  stopCleanupFailureCount : Option Nat
  stopCleanupWarning : Option String
  operatorSessionId : Option String
  sequence : Option Nat
deriving DecidableEq

/-- `ComputeNodeStatus::default`. -/
def ComputeNodeStatus.default : ComputeNodeStatus where
  running := false
  registered := false
  lastError := none
  relayRuntimeState := none
  warmLoadState := none
  workerGeneration := none
  stopCleanupRequired := none
  stopCleanupAttempted := none
  stopCleanupOutcome := none
  stopCleanupSuccessCount := none
  stopCleanupFailureCount := none
  stopCleanupWarning := none
  operatorSessionId := none
  sequence := none

/-- A JSON object that a bridge has written. A field whose absence the code
distinguishes from a value of another type is an option of an option. -/
structure Payload where
  type : Option String
  operatorSessionId : Option String
  sequence : Option Nat
  workerGeneration : Option Nat
  running : Option Bool
  registered : Option Bool
  message : Option String
  lastError : Option (Option String)
  relayRuntimeState : Option String
  warmLoadState : Option (Option String)
  unregisterRequired : Option (Option Bool)
  unregisterAttempted : Option (Option Bool)
  unregisterOutcome : Option (Option String)
  unregisterSuccessCount : Option (Option Nat)
  unregisterFailureCount : Option (Option Nat)
  cleanupWarning : Option (Option String)
deriving DecidableEq

/-- An object without any of these fields. -/
def Payload.empty : Payload :=
  ⟨none, none, none, none, none, none, none, none, none, none, none, none, none, none, none, none⟩

/-! ## Bridge events -/

/-- `is_fresh_start_event`: the first event of a session that is not the published one. -/
def isFreshStartEvent (status : ComputeNodeStatus) (payload : Payload) : Bool :=
  decide (payload.type = some "started") && decide (payload.sequence = some 1) &&
    !status.running &&
    payload.operatorSessionId.any fun session => decide (status.operatorSessionId ≠ some session)

/-- The tests that `update_status_from_event` makes before it writes. -/
def acceptsEvent (status : ComputeNodeStatus) (payload : Payload) : Bool :=
  let fresh := isFreshStartEvent status payload
  let stopped :=
    match status.operatorSessionId, payload.operatorSessionId with
    | some current, some session => decide (session ≠ "") && decide (current = session)
    | _, _ => false
  let session :=
    match status.operatorSessionId, payload.operatorSessionId with
    | some current, some session => decide (current = session) || fresh
    | _, _ => true
  let sequence :=
    match status.sequence, payload.sequence with
    | some current, some sequence => decide (current < sequence) || fresh
    | _, _ => true
  let generation :=
    match status.workerGeneration, payload.workerGeneration with
    | some current, some generation => decide (current ≤ generation) || fresh
    | _, _ => true
  (decide (payload.type ≠ some "stopped") || stopped) && session && sequence && generation

/-- The fields of an accepted event before its session is taken. -/
def takeFields (status : ComputeNodeStatus) (payload : Payload) : ComputeNodeStatus :=
  { status with
    running := payload.running.getD status.running
    registered := payload.registered.getD status.registered
    lastError := payload.lastError.getD status.lastError
    relayRuntimeState := payload.relayRuntimeState.or status.relayRuntimeState
    warmLoadState := payload.warmLoadState.getD status.warmLoadState
    workerGeneration := payload.workerGeneration.or status.workerGeneration }

/-- The cleanup fields of a `stopped` event of the published session. -/
def takeCleanup (status : ComputeNodeStatus) (payload : Payload) : ComputeNodeStatus :=
  if payload.type = some "stopped" ∧ payload.operatorSessionId.any (fun session => session ≠ "") ∧
      status.operatorSessionId = payload.operatorSessionId then
    { status with
      stopCleanupRequired := payload.unregisterRequired.getD status.stopCleanupRequired
      stopCleanupAttempted := payload.unregisterAttempted.getD status.stopCleanupAttempted
      stopCleanupOutcome := payload.unregisterOutcome.getD status.stopCleanupOutcome
      stopCleanupSuccessCount :=
        payload.unregisterSuccessCount.getD status.stopCleanupSuccessCount
      stopCleanupFailureCount :=
        payload.unregisterFailureCount.getD status.stopCleanupFailureCount
      stopCleanupWarning := payload.cleanupWarning.getD status.stopCleanupWarning }
  else status

/-- The session, the sequence number and the message of an accepted event. -/
def takeIdentity (status : ComputeNodeStatus) (payload : Payload) : ComputeNodeStatus :=
  { status with
    operatorSessionId := payload.operatorSessionId.or status.operatorSessionId
    sequence := payload.sequence.or status.sequence
    lastError :=
      if payload.type = some "error" then
        payload.message.or (some "compute-node bridge error")
      else status.lastError }

/-- `update_status_from_event`: the new status, or nothing when the event is rejected. -/
def updateStatusFromEvent (status : ComputeNodeStatus) (payload : Payload) :
    Option ComputeNodeStatus :=
  if acceptsEvent status payload then
    some (takeIdentity (takeCleanup (takeFields status payload) payload) payload)
  else none

/-! ## Start-up, exit and stop -/

/-- The status that a reservation publishes. -/
def reservedStatus (status : ComputeNodeStatus) (session : String) : ComputeNodeStatus :=
  { status with
    operatorSessionId := some session
    lastError := none
    stopCleanupRequired := none
    stopCleanupAttempted := none
    stopCleanupOutcome := none
    stopCleanupSuccessCount := none
    stopCleanupFailureCount := none
    stopCleanupWarning := none }

/-- The `running_status` that `start_compute_node` publishes. -/
def runningStatus (session : String) : ComputeNodeStatus :=
  { ComputeNodeStatus.default with
    running := true
    relayRuntimeState := some "starting"
    warmLoadState := some "not_started"
    operatorSessionId := some session
    sequence := some 0 }

/-- `startup_failure_status`, with the cleanup fields of
`complete_no_child_startup_failure`. -/
def startupFailureStatus (session lastError : String) : ComputeNodeStatus :=
  { ComputeNodeStatus.default with
    lastError := some lastError
    relayRuntimeState := some "failed"
    warmLoadState := some "failed"
    stopCleanupRequired := some false
    stopCleanupAttempted := some false
    stopCleanupOutcome := some "not_required"
    stopCleanupSuccessCount := some 0
    stopCleanupFailureCount := some 0
    operatorSessionId := some session }

/-- The status after `complete_spawned_bridge_startup_failure`. -/
def spawnedFailureStatus (status : ComputeNodeStatus) (killed : Bool) : ComputeNodeStatus :=
  { status with
    running := false
    registered := false
    relayRuntimeState := some "stopped"
    lastError := some stopWarning
    stopCleanupOutcome := some (if killed then "timed_out" else "partial")
    stopCleanupWarning := some stopWarning }

/-- `bridge_exit_error`. The last diagnostic line of the log is an argument. -/
def bridgeExitError (exitStatus : ExitStatus) (sawStartupEvent : Bool)
    (diagnostic : Option String) : Option String :=
  let suffix := (diagnostic.map fun line => "; recent diagnostic: " ++ line).getD ""
  if !sawStartupEvent then
    some ("compute-node bridge exited with status " ++ exitStatus.label ++
      " before emitting a startup event; see desktop.compute_node.stderr logs" ++ suffix)
  else if exitStatus.success then none
  else
    some ("compute-node bridge exited with status " ++ exitStatus.label ++
      "; see desktop.compute_node.stderr logs" ++ suffix)

/-- `u64::saturating_add(1)`. -/
def saturatingSucc (n : Nat) : Nat :=
  min (n + 1) (2 ^ 64 - 1)

/-- `finalize_bridge_exit`, without the event that it builds for the window. -/
def finalizeBridgeExit (status : ComputeNodeStatus) (exitStatus : ExitStatus)
    (sawStartupEvent sawErrorEvent : Bool) (expectedSession : String)
    (diagnostic : Option String) : ComputeNodeStatus :=
  if status.operatorSessionId ≠ some expectedSession then status
  else
    let exitError := bridgeExitError exitStatus sawStartupEvent diagnostic
    { status with
      running := false
      registered := false
      relayRuntimeState :=
        if status.relayRuntimeState = some "failed" ∨ status.warmLoadState = some "failed" then
          some "failed"
        else some "stopped"
      lastError := status.lastError.or exitError
      sequence :=
        if sawErrorEvent ∨ exitError = none then status.sequence
        else some (saturatingSucc (status.sequence.getD 0)) }

/-- `coherent_success`: the cleanup evidence of a stop that left nothing behind. -/
def coherentSuccess (status : ComputeNodeStatus) : Bool :=
  match status.stopCleanupOutcome, status.stopCleanupRequired, status.stopCleanupAttempted,
    status.stopCleanupSuccessCount, status.stopCleanupFailureCount with
  | some outcome, some required, some attempted, some successCount, some failureCount =>
    (decide (outcome = "complete") && required && attempted && decide (0 < successCount) &&
        decide (failureCount = 0)) ||
      (decide (outcome = "not_required") && !required && !attempted &&
        decide (successCount = 0) && decide (failureCount = 0))
  | _, _, _, _, _ => false

/-- How a bridge was shut down. -/
structure Shutdown where
  hadChild : Bool
  bridgeKilled : Bool
  childExitStatus : Option ExitStatus
deriving DecidableEq

/-- The first half of `finalize_stop_status`: the error of the stop, if any. -/
def stopOutcomeError (status : ComputeNodeStatus) (stopSession : Option String)
    (shutdown : Shutdown) (cleanupAcknowledged : Bool) : Option String :=
  let childExitFailed := shutdown.hadChild && !shutdown.bridgeKilled &&
    !shutdown.childExitStatus.any ExitStatus.success
  let sessionMatches :=
    match stopSession, status.operatorSessionId with
    | some expected, some actual => decide (expected = actual)
    | _, _ => !shutdown.hadChild
  let warning := status.stopCleanupWarning.getD stopWarning
  if shutdown.bridgeKilled || childExitFailed || !sessionMatches then some warning
  else if shutdown.hadChild && (!cleanupAcknowledged || !coherentSuccess status) then some warning
  else none

/-- The second half of `finalize_stop_status`: the status that it publishes. -/
def finalizedStatus (status : ComputeNodeStatus) (stopSession : Option String) (hadChild : Bool)
    (stopError : Option String) : ComputeNodeStatus :=
  let sessionStillCurrent :=
    match stopSession, status.operatorSessionId with
    | some expected, some actual => decide (expected = actual)
    | none, none => true
    | _, _ => !hadChild
  if sessionStillCurrent then
    { status with
      running := false
      registered := false
      relayRuntimeState := some "stopped"
      lastError := stopError.or status.lastError }
  else status

/-- What the `start_compute_node` command publishes when the start has failed. -/
def reportedStatus (status : ComputeNodeStatus) (error : String) : ComputeNodeStatus :=
  { status with running := false, registered := false, lastError := some error }

end Operator
