import TokenPlace.Desktop.Sessions

/-!
# The window of the operator

The window keeps a status of its own. A start attempt writes an optimistic one before it
invokes the command, a stop writes another one when it has returned, and
`mergeComputeStatusEvent` folds in the events that the operator emits: the lines of a
bridge that it has accepted, the error of a bridge that has ended badly, and the error of
a start that has failed. An event reaches the window with the step that emits it.

The fields that the window only shows are left out.
-/

namespace Operator

/-! ## Events of a bridge -/

/-- What a bridge knows when it reports its status, with the `extra` fields. -/
structure BridgeReport where
  warmLoadState : String
  warmLoadEnabled : Bool
  registeredCount : Nat
  lastError : Option String
  workerGeneration : Option Nat
  relayRuntimeState : Option String
  message : Option String
deriving DecidableEq

/-- The cleanup fields of the last event. -/
structure BridgeCleanup where
  required : Bool
  attempted : Bool
  outcome : String
  successCount : Nat
  failureCount : Nat
  warning : Option String
deriving DecidableEq

/-- What `emit_operator_event` is called with. -/
inductive BridgeEvent
  | provisioning
  | startupError (message : String)
  | started (report : BridgeReport)
  | status (report : BridgeReport)
  | error (running : Bool) (report : BridgeReport)
  | stopped (report : BridgeReport) (cleanup : BridgeCleanup)
deriving DecidableEq

/-- `_relay_runtime_state`. -/
def bridgeRuntimeState (report : BridgeReport) (running : Bool) : String :=
  if report.warmLoadState = "failed" then "failed"
  else if !running then "stopped"
  else if !report.warmLoadEnabled then "ready"
  else if report.warmLoadState = "not_started" then "starting"
  else report.warmLoadState

/-- `_structured_provisioning_payload`. -/
def structuredProvisioningPayload : Payload :=
  { Payload.empty with
    type := some "started"
    running := some true
    registered := some false
    relayRuntimeState := some "provisioning"
    lastError := some none
    warmLoadState := some (some "provisioning")
    workerGeneration := some 0 }

/-- `_structured_startup_error_payload`. -/
def structuredStartupErrorPayload (message : String) : Payload :=
  { Payload.empty with
    type := some "error"
    running := some false
    registered := some false
    relayRuntimeState := some "failed"
    lastError := some (some message)
    message := some message
    warmLoadState := some (some "failed") }

/-- `build_status_payload`. -/
def buildStatusPayload (eventType : String) (running : Bool) (report : BridgeReport) : Payload :=
  let relayState := report.relayRuntimeState.getD (bridgeRuntimeState report running)
  { Payload.empty with
    type := some eventType
    running := some running
    registered := some (running && (decide (relayState = "ready") ||
      decide (relayState = "processing")) && decide (0 < report.registeredCount))
    relayRuntimeState := some relayState
    lastError := some report.lastError
    message := report.message
    warmLoadState := some (some report.warmLoadState)
    workerGeneration := report.workerGeneration }

/-- The fields of an event before `emit_operator_event` numbers it. -/
def BridgeEvent.payload : BridgeEvent → Payload
  | .provisioning => structuredProvisioningPayload
  | .startupError message => structuredStartupErrorPayload message
  | .started report => buildStatusPayload "started" true report
  | .status report => buildStatusPayload "status" true report
  | .error running report => buildStatusPayload "error" running report
  | .stopped report cleanup =>
    { buildStatusPayload "stopped" false report with
      unregisterRequired := some (some cleanup.required)
      unregisterAttempted := some (some cleanup.attempted)
      unregisterOutcome := some (some cleanup.outcome)
      unregisterSuccessCount := some (some cleanup.successCount)
      unregisterFailureCount := some (some cleanup.failureCount)
      cleanupWarning := some cleanup.warning }

/-- `Number.MAX_SAFE_INTEGER`. -/
def maxSafeInteger : Nat := 2 ^ 53 - 1

/-- A numbered event. The number is one that the window can tell from the greatest. -/
structure NumberedEvent where
  event : BridgeEvent
  sequence : Nat
  safe : sequence < maxSafeInteger
deriving DecidableEq

/-- `emit_operator_event`, in a session. -/
def NumberedEvent.payload (e : NumberedEvent) (session : String) : Payload :=
  { e.event.payload with operatorSessionId := some session, sequence := some e.sequence }

/-! ## The status of the window -/

/-- `ComputeNodeStatus` of the window. -/
structure WindowStatus where
  running : Bool
  registered : Bool
  lastError : Option String
  relayRuntimeState : Option String
  warmLoadState : Option String
  workerGeneration : Option Nat
  operatorSessionId : Option String
  sequence : Option Nat
deriving DecidableEq

/-- `defaultComputeStatus`. -/
def defaultComputeStatus : WindowStatus where
  running := false
  registered := false
  lastError := none
  relayRuntimeState := some "idle"
  warmLoadState := none
  workerGeneration := none
  operatorSessionId := none
  sequence := none

/-- `stoppedComputeStatus`. -/
def stoppedComputeStatus (prev : WindowStatus) (lastError : Option String) : WindowStatus :=
  { prev with
    running := false
    registered := false
    lastError
    relayRuntimeState := some "stopped"
    warmLoadState := some "stopped" }

/-- The `isFreshSessionEvent` of `mergeComputeStatusEvent`. -/
def isFreshSessionEvent (prev : WindowStatus) (payload : Payload) : Bool :=
  (decide (payload.type = some "started") || decide (payload.type = some "error")) &&
    decide (payload.sequence = some 1) && !prev.running &&
    payload.operatorSessionId.any fun session => decide (prev.operatorSessionId ≠ some session)

/-- The tests that `mergeComputeStatusEvent` makes. -/
def mergesEvent (prev : WindowStatus) (payload : Payload) : Bool :=
  let fresh := isFreshSessionEvent prev payload
  let session :=
    match prev.operatorSessionId, payload.operatorSessionId with
    | some shown, some session =>
      decide (shown = "") || decide (session = "") || decide (shown = session) || fresh
    | _, _ => true
  let sequence :=
    match prev.sequence, payload.sequence with
    | some shown, some sequence => decide (shown < sequence) || fresh
    | _, _ => true
  let generation :=
    match prev.workerGeneration, payload.workerGeneration with
    | some shown, some generation => decide (shown ≤ generation) || fresh
    | _, _ => true
  session && sequence && generation

/-- `mergeComputeStatusEvent`: the new status, or nothing when the old one is kept. -/
def mergeComputeStatusEvent (prev : WindowStatus) (payload : Payload) : Option WindowStatus :=
  if mergesEvent prev payload then
    let stopped := decide (payload.type = some "stopped")
    let error := decide (payload.type = some "error")
    let base := if stopped then stoppedComputeStatus prev none else prev
    some
      { running :=
          if stopped then base.running else payload.running.getD (!error && base.running)
        registered :=
          if stopped then base.registered else payload.registered.getD (!error && base.registered)
        lastError :=
          match payload.lastError with
          | some lastError => lastError
          | none => payload.message.or base.lastError
        relayRuntimeState :=
          if stopped then base.relayRuntimeState
          else payload.relayRuntimeState.or (if error then some "failed" else prev.relayRuntimeState)
        warmLoadState :=
          if stopped then base.warmLoadState
          else (payload.warmLoadState.bind id).or
            (if error then some "failed" else prev.warmLoadState)
        workerGeneration := payload.workerGeneration.or prev.workerGeneration
        operatorSessionId := payload.operatorSessionId.or prev.operatorSessionId
        sequence := payload.sequence.or prev.sequence }
  else none

/-- The `optimisticStatus` of `startComputeNode`. -/
def optimisticStatus (prev : WindowStatus) : WindowStatus :=
  { prev with
    running := false
    registered := false
    lastError := none
    relayRuntimeState := some "starting"
    sequence :=
      if prev.operatorSessionId.any fun session => decide (session ≠ "") then some maxSafeInteger
      else none }

/-- The `failedStatus` of `startComputeNode`. -/
def failedStatus (prev : WindowStatus) (message : String) : WindowStatus :=
  { prev with
    running := false
    registered := false
    lastError := some message
    relayRuntimeState := some "failed" }

/-- What `stopComputeNode` writes when the call has returned. -/
def stopReturnedStatus (prev : WindowStatus) : StopResult → WindowStatus
  | .ok () => stoppedComputeStatus prev none
  | .error message => { prev with lastError := some message }

/-! ## The window and the operator -/

/-- The operator, its window, and the number of start attempts. -/
structure DesktopSystem where
  operator : OperatorSystem
  window : WindowStatus
  computeNodeStartAttempt : Nat
deriving DecidableEq

/-- What the next read of a bridge's output gives. -/
inductive BridgeLine
  | event (event : NumberedEvent)
  | unparsed
  | terminal
deriving DecidableEq

/-- What the environment decides in a step, with the output as a bridge writes it. -/
structure BridgeChoice where
  launch : Launch
  line : BridgeLine
  diagnostic : Option String
deriving DecidableEq

/-- The session of the bridge whose output the task reads. -/
def Task.readSession : Task → Option String
  | .readStdout session _ _ => some session
  | _ => none

/-- The same choice for a task of the operator. -/
def BridgeChoice.choice (c : BridgeChoice) (task : Task) : Choice where
  launch := c.launch
  line :=
    match c.line with
    | .event e => .event (e.payload (task.readSession.getD ""))
    | .unparsed => .unparsed
    | .terminal => .terminal
  diagnostic := c.diagnostic

/-- The event that `finalize_bridge_exit` builds. -/
def bridgeExitEvent (status : ComputeNodeStatus) (exitStatus : ExitStatus) (locals : StdoutEnd)
    (diagnostic : Option String) : Option Payload :=
  if status.operatorSessionId ≠ some locals.session ∨ locals.sawErrorEvent then none
  else
    (bridgeExitError exitStatus locals.sawStartupEvent diagnostic).map fun lastError =>
      let after := finalizeBridgeExit status exitStatus locals.sawStartupEvent locals.sawErrorEvent
        locals.session diagnostic
      { Payload.empty with
        type := some "error"
        running := some false
        registered := some false
        relayRuntimeState := some (after.relayRuntimeState.getD "stopped")
        lastError := some (some lastError)
        message := some lastError
        operatorSessionId := some locals.session
        sequence := after.sequence }

/-- The event of a start that has failed. -/
def startFailureEvent (error : String) : Payload :=
  { Payload.empty with
    type := some "error"
    running := some false
    registered := some false
    lastError := some (some error)
    message := some error }

/-- The event that a step of a task emits to the window. -/
def emitted (c : BridgeChoice) (s : ComputeNodeState) : Task → Option Payload
  | .readStdout session _ _ =>
    match c.line with
    | .event e =>
      if acceptsEvent s.status (e.payload session) then some (e.payload session) else none
    | _ => none
  | .bridgeExit locals _ exitStatus _ => bridgeExitEvent s.status exitStatus locals c.diagnostic
  | .report _ error => some (startFailureEvent error)
  | _ => none

/-- The window after an event, if there is one. -/
def WindowStatus.receives (window : WindowStatus) (payload : Option Payload) : WindowStatus :=
  (payload.bind (mergeComputeStatusEvent window)).getD window

/-- The user starts or stops the operator, the invocation of a start is rejected, a stop that
has returned is noticed, a thread takes its next step, a process exits by itself, or time
passes. -/
inductive DesktopEvent
  | startComputeNode
  | startRejected (attempt : Nat) (message : String)
  | stopComputeNode
  | stopReturned (i : Nat)
  | run (i : Nat) (c : BridgeChoice)
  | exit (bridge : Nat) (exitStatus : ExitStatus)
  | tick (elapsed : Nat)
deriving DecidableEq

/-- The system after one event. -/
def desktopStep (ev : DesktopEvent) (x : DesktopSystem) : DesktopSystem :=
  match ev with
  | .startComputeNode =>
    { operator := operatorStep .start x.operator
      window := optimisticStatus x.window
      computeNodeStartAttempt := x.computeNodeStartAttempt + 1 }
  | .startRejected attempt message =>
    if x.computeNodeStartAttempt ≠ attempt then x
    else { x with window := failedStatus x.window message }
  | .stopComputeNode => { x with operator := operatorStep .stop x.operator }
  | .stopReturned i =>
    match x.operator.threads[i]? with
    | some ⟨.returned _ _ result, _⟩ => { x with window := stopReturnedStatus x.window result }
    | _ => x
  | .run i c =>
    match x.operator.threads[i]? with
    | some ⟨task, none⟩ =>
      { x with
        operator := operatorStep (.run i (c.choice task)) x.operator
        window := x.window.receives (emitted c x.operator.shared task) }
    | some ⟨task, some _⟩ =>
      { x with operator := operatorStep (.run i (c.choice task)) x.operator }
    | none => x
  | .exit bridge exitStatus => { x with operator := operatorStep (.exit bridge exitStatus) x.operator }
  | .tick elapsed => { x with operator := operatorStep (.tick elapsed) x.operator }

/-- The desktop before the first session. -/
def newDesktop : DesktopSystem where
  operator := newOperator
  window := defaultComputeStatus
  computeNodeStartAttempt := 0

end Operator
