import TokenPlace.Desktop.Status

/-!
# The inference sidecar

`start_sidecar` and `cancel_sidecar` of `sidecar.rs`. Every region under the locks of
`SidecarState`, every spawn, every line of output and every exit of a process is one step. What
the sidecars write, when they exit and which calls of the system fail is decided by the
environment, except that `wait` and `kill` reach a process of one's own. How the command of a
sidecar is put together and its stderr log are left out. The text of an exit status is that of
the platform, so it is an argument.
-/

namespace Sidecar

open Operator (ExitStatus)

/-! ## State -/

/-- `SidecarEvent`. -/
inductive SidecarEvent
  | started
  | token (text : String)
  | done
  | canceled
  | error (code message : String)
deriving DecidableEq

/-- A spawned sidecar: the call of `start_sidecar` that spawned it, and how it ended. -/
structure Process where
  owner : Nat
  exitStatus : Option ExitStatus
deriving DecidableEq

/-- Where a call of `start_sidecar` is. From the spawn on it knows the sidecar that it spawned,
and `sawError` is its `saw_error_event`. -/
inductive StartPhase
  | checking
  | resolving
  | spawned (process : Nat)
  | reading (process : Nat) (sawError : Bool)
  | taking (process : Nat) (sawError : Bool)
  | waiting (process : Nat) (runningChild : Option Nat) (sawError : Bool)
  | clearing (process : Nat)
  | returned
deriving DecidableEq

/-- A call of `start_sidecar`. -/
structure StartCall where
  requestId : String
  phase : StartPhase
deriving DecidableEq

/-- Where a call of `cancel_sidecar` is. -/
inductive CancelPhase
  | writing
  | stopping
  | returned
deriving DecidableEq

/-- An event that was emitted to the window, the call that emitted it and the sidecar that it
is about. -/
structure Emission where
  requestId : String
  event : SidecarEvent
  call : Nat
  process : Nat
deriving DecidableEq

/-- `SidecarState`, with the calls and the sidecars. A handle is the place of its sidecar in the
list of all that have been spawned. The last field is for the proofs: which call took the child
of which sidecar, or cleared its stdin, in the cleanup after its output. -/
structure SidecarState where
  child : Option Nat
  stdin : Option Nat
  starts : List StartCall
  cancels : List CancelPhase
  processes : List Process
  emitted : List Emission
  cleanups : List (Nat × Nat)
deriving DecidableEq

/-- Nothing has been started. -/
def SidecarState.empty : SidecarState := ⟨none, none, [], [], [], [], []⟩

/-- Where a call of `start_sidecar` is. -/
def SidecarState.phase (s : SidecarState) (call : Nat) : Option StartPhase :=
  s.starts[call]?.map (·.phase)

/-- The `request_id` of a call of `start_sidecar`. -/
def SidecarState.requestId (s : SidecarState) (call : Nat) : String :=
  (s.starts[call]?.map (·.requestId)).getD ""

/-- How a sidecar ended, if it did. -/
def SidecarState.exitStatus (s : SidecarState) (process : Nat) : Option ExitStatus :=
  s.processes[process]?.bind (·.exitStatus)

/-- The call of `start_sidecar` that spawned a sidecar. -/
def SidecarState.owner (s : SidecarState) (process : Nat) : Option Nat :=
  s.processes[process]?.map (·.owner)

/-- A sidecar is spawned and has not ended. -/
def SidecarState.alive (s : SidecarState) (process : Nat) : Bool :=
  s.processes[process]?.any fun p => p.exitStatus.isNone

/-- A call of `start_sidecar` goes on. -/
def SidecarState.setPhase (s : SidecarState) (call : Nat) (phase : StartPhase) : SidecarState :=
  { s with starts := s.starts.modify call fun c => { c with phase := phase } }

/-- A process ends. -/
def SidecarState.endProcess (s : SidecarState) (process : Nat) (status : ExitStatus) :
    SidecarState :=
  { s with
    processes := s.processes.modify process fun p =>
      { p with exitStatus := p.exitStatus.or (some status) } }

/-- `app.emit("inference_event", …)`. -/
def SidecarState.emit (s : SidecarState) (call process : Nat) (event : SidecarEvent) :
    SidecarState :=
  { s with emitted := s.emitted ++ [⟨s.requestId call, event, call, process⟩] }

/-! ## The regions of `start_sidecar` -/

/-- The first region: a child that cannot be looked at counts as running. -/
def checkRunning (s : SidecarState) (call : Nat) (tryWaitFails : Bool) : SidecarState :=
  if s.child.any fun p => tryWaitFails || (s.exitStatus p).isNone then s.setPhase call .returned
  else { s with child := none, stdin := none }.setPhase call .resolving

/-- The launcher is resolved and the sidecar spawned, or one of the two fails. -/
def spawnChild (s : SidecarState) (call : Nat) (succeeds : Bool) : SidecarState :=
  if succeeds then
    let process : Process := ⟨call, none⟩
    { s with processes := s.processes ++ [process] }.setPhase call (.spawned s.processes.length)
  else s.setPhase call .returned

/-- The region that puts the child and its stdin into the slots. -/
def installChild (s : SidecarState) (call process : Nat) : SidecarState :=
  { s with child := some process, stdin := some process }.setPhase call (.reading process false)

/-- One line of output, which `parse_event_line` may reject and whose event may not reach the
window. -/
def readLine (s : SidecarState) (call process : Nat) (sawError : Bool) (line : Option SidecarEvent)
    (emitFails : Bool) : SidecarState :=
  match line with
  | none => s
  | some event =>
    if emitFails then s.setPhase call .returned
    else
      let isError := match event with
        | .error _ _ => true
        | _ => false
      (s.emit call process event).setPhase call (.reading process (sawError || isError))

/-- The region that takes the child out of its slot when the output has ended. -/
def takeChild (s : SidecarState) (call process : Nat) (sawError : Bool) : SidecarState :=
  -- the slot is not asked whose child it holds
  { s with
    child := none
    cleanups := s.cleanups ++ (s.child.map fun p => (call, p)).toList }.setPhase call
      (.waiting process s.child sawError)

/-- The `sidecar_exit` error. -/
def exitError (display : ExitStatus → String) (status : ExitStatus) : SidecarEvent :=
  .error "sidecar_exit"
    ("sidecar exited with status " ++ display status ++ "; see desktop.sidecar.stderr logs")

/-- `wait` on the child that was taken, which returns when that has ended. -/
def waitChild (display : ExitStatus → String) (s : SidecarState) (call process : Nat)
    (runningChild : Option Nat) (sawError emitFails : Bool) : SidecarState :=
  match runningChild with
  | none => s.setPhase call (.clearing process)
  | some p =>
    match s.exitStatus p with
    | none => s
    | some status =>
      if !status.success && !sawError then
        if emitFails then s.setPhase call .returned
        else (s.emit call p (exitError display status)).setPhase call (.clearing process)
      else s.setPhase call (.clearing process)

/-- The region that clears the stdin at the end. -/
def clearStdin (s : SidecarState) (call : Nat) : SidecarState :=
  { s with
    stdin := none
    cleanups := s.cleanups ++ (s.stdin.map fun p => (call, p)).toList }.setPhase call .returned

/-! ## The regions of `cancel_sidecar` -/

/-- The region under the stdin lock. What the sidecar does with the line is its own decision. -/
def writeCancel (s : SidecarState) (call : Nat) (fails : Bool) : SidecarState :=
  { s with
    cancels := s.cancels.set call (if s.stdin.isSome && fails then .returned else .stopping) }

/-- `SIGKILL`. -/
def killed : ExitStatus := .signal 9

/-- The region under the child lock: a child that has not ended after the last look at it is
killed. -/
def stopChild (s : SidecarState) (tryWaitFails : Bool) : SidecarState :=
  match s.child with
  | none => { s with child := none, stdin := none }
  | some p =>
    if tryWaitFails then s else { s.endProcess p killed with child := none, stdin := none }

/-! ## Steps -/

/-- One step of a call, or of a sidecar. -/
inductive Event
  | startSidecar (requestId : String)
  | cancelSidecar
  | checkRunning (call : Nat) (tryWaitFails : Bool)
  | spawnChild (call : Nat) (succeeds : Bool)
  | installChild (call : Nat)
  | readLine (call : Nat) (line : Option SidecarEvent) (emitFails : Bool)
  | readFails (call : Nat)
  | outputEnds (call : Nat)
  | takeChild (call : Nat)
  | waitChild (call : Nat) (emitFails : Bool)
  | clearStdin (call : Nat)
  | writeCancel (call : Nat) (fails : Bool)
  | stopChild (call : Nat) (tryWaitFails : Bool)
  | exit (process : Nat) (status : ExitStatus)

/-- A step of a call that is not at that point does nothing. -/
def step (display : ExitStatus → String) (event : Event) (s : SidecarState) : SidecarState :=
  match event with
  | .startSidecar requestId => { s with starts := s.starts ++ [⟨requestId, .checking⟩] }
  | .cancelSidecar => { s with cancels := s.cancels ++ [.writing] }
  | .checkRunning i tryWaitFails =>
    match s.phase i with
    | some .checking => checkRunning s i tryWaitFails
    | _ => s
  | .spawnChild i succeeds =>
    match s.phase i with
    | some .resolving => spawnChild s i succeeds
    | _ => s
  | .installChild i =>
    match s.phase i with
    | some (.spawned p) => installChild s i p
    | _ => s
  | .readLine i line emitFails =>
    match s.phase i with
    | some (.reading p sawError) => readLine s i p sawError line emitFails
    | _ => s
  | .readFails i =>
    match s.phase i with
    | some (.reading _ _) => s.setPhase i .returned
    | _ => s
  | .outputEnds i =>
    match s.phase i with
    | some (.reading p sawError) => s.setPhase i (.taking p sawError)
    | _ => s
  | .takeChild i =>
    match s.phase i with
    | some (.taking p sawError) => takeChild s i p sawError
    | _ => s
  | .waitChild i emitFails =>
    match s.phase i with
    | some (.waiting p runningChild sawError) =>
      waitChild display s i p runningChild sawError emitFails
    | _ => s
  | .clearStdin i =>
    match s.phase i with
    | some (.clearing _) => clearStdin s i
    | _ => s
  | .writeCancel i fails =>
    if s.cancels[i]? = some .writing then writeCancel s i fails else s
  | .stopChild i tryWaitFails =>
    if s.cancels[i]? = some .stopping then
      { stopChild s tryWaitFails with cancels := s.cancels.set i .returned }
    else s
  | .exit p status => s.endProcess p status

end Sidecar
