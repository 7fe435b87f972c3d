import TokenPlace.Lib.OrderedDict

/-!
# The commands of a worker

`_rpc` and `_stream_chat_completion` of `_SubprocessLlamaProxy`, and the stdout reader that routes
the frames of the worker to them. Every region under `_pending_lock`, every operation on a queue
and every look at `_closed` is one step of a caller or of the reader. Callers are not held apart
by `_lock`, so there are more interleavings here than there.

Frames are those that the worker emits. The clock, the abandonment of a generator and the failures
of the transport are decided by the environment. The error texts are left out, and so is the test
fixture whose end of output does not close the transport.
-/

namespace Rpc

/-! ## Frames -/

/-- A field of an `inference_progress` frame and its value. -/
abbrev ProgressFields := List (String × Int)

/-- What a frame says. A `result` has no `done`, a `chunk` has `done` false. -/
inductive Body
  | progress (fields : ProgressFields)
  | chunk (chunk : String)
  | done
  | result (result : String)
  | error (error : String)
deriving DecidableEq

/-- `done is not False`. -/
def Body.completes : Body → Bool
  | .chunk _ => false
  | .progress _ | .done | .result _ | .error _ => true

/-- A frame, with the number of the command that its `command_id` names, if it names one. -/
structure Frame where
  versioned : Bool
  commandId : Option Nat
  body : Body
deriving DecidableEq

/-- What a queue of a command holds: a frame, or the error of `_fail_pending`. -/
inductive Message
  | frame (body : Body)
  | workerEof
deriving DecidableEq

/-! ## State -/

/-- What a command is called with. -/
structure Binding where
  stream : Bool
  checkHealth : Bool
  observer : Bool
  requestId : Option String
  workerGeneration : Int
deriving DecidableEq

/-- An entry of `_command_progress`. The observer is that of the call that registered it. -/
structure ProgressContext where
  call : Nat
  observer : Bool
  requestId : Option String
  workerGeneration : Int
  sequence : Nat
deriving DecidableEq

/-- An entry of `_latest_progress`. -/
structure ProgressEvent where
  fields : ProgressFields
  requestId : String
  workerGeneration : Int
  sequence : Nat
deriving DecidableEq

/-- How a call ends. -/
inductive Outcome
  | returned (body : Body)
  | raised
  | timedOut
  | abandoned
deriving DecidableEq

/-- Where a call is. `polls` says that `_legacy_frames` is looked at after the progress is
dispatched. -/
inductive CallPhase
  | registering
  | sending (id : Nat)
  | dispatching (id : Nat) (polls : Bool)
  | popping (id : Nat) (polls closed : Bool)
  | polling (id : Nat)
  | waiting (id : Nat)
  | received (id : Nat) (message : Message)
  | yielding (id : Nat)
  | leaving (id : Nat) (outcome : Outcome)
  | ended (outcome : Outcome)
deriving DecidableEq

/-- A call of `_rpc` or `_stream_chat_completion`, and the chunks that it has yielded. -/
structure Call where
  binding : Binding
  phase : CallPhase
  yielded : List (Option String)
deriving DecidableEq

/-- Where the stdout reader is. After the end of the output it fails what is pending, once more
for every round that is left. -/
inductive ReaderPhase
  | idle
  | coalescing (id : Nat) (fields : ProgressFields)
  | checking (id : Nat) (body : Body)
  | putting (id : Nat) (body : Body)
  | marking (id : Nat)
  | collecting (rounds : Nat)
  | failing (targets : List Nat) (rounds : Nat)
  | ended
deriving DecidableEq

/-- The fields of a `_SubprocessLlamaProxy`, its process, its callers and its reader. A command is
known by its number, and `queue` is the queue that was made for it. `observed` is what the
observers were called with, and by which call. -/
structure Proxy where
  commandSequence : Nat
  pending : OrderedDict Nat Unit
  queue : Nat → List Message
  completedCommands : OrderedDict Nat Unit
  commandProgress : OrderedDict Nat ProgressContext
  latestProgress : OrderedDict Nat ProgressEvent
  legacyFrames : List Body
  closed : Bool
  alive : Bool
  reader : ReaderPhase
  calls : List Call
  observed : List (Nat × ProgressEvent)

/-- A proxy whose process has just been started. -/
def Proxy.start : Proxy where
  commandSequence := 0
  pending := .empty
  queue _ := []
  completedCommands := .empty
  commandProgress := .empty
  latestProgress := .empty
  legacyFrames := []
  closed := false
  alive := true
  reader := .idle
  calls := []
  observed := []

/-- A call goes on. -/
def Proxy.setPhase (s : Proxy) (call : Nat) (phase : CallPhase) : Proxy :=
  { s with calls := s.calls.modify call fun c => { c with phase := phase } }

/-- `put_nowait` on the queue of a command. -/
def Proxy.put (s : Proxy) (id : Nat) (message : Message) : Proxy :=
  { s with queue := Function.update s.queue id (s.queue id ++ [message]) }

/-! ## The callers -/

/-- The region in which a command gets its number, its queue and its progress context. -/
def register (s : Proxy) (call : Nat) (binding : Binding) : Proxy :=
  let id := s.commandSequence + 1
  { s with
    commandSequence := id
    pending := s.pending.set id ()
    queue := Function.update s.queue id []
    commandProgress := s.commandProgress.set id {
      call := call
      observer := binding.observer
      requestId := binding.requestId
      workerGeneration := max 0 binding.workerGeneration
      sequence := 0 } }.setPhase call (.sending id)

/-- How a write to the worker goes. -/
inductive Write
  | written
  | broken
  | unserializable
deriving DecidableEq

/-- `_send`, which leaves the transport closed when it is broken, and whether it raises. -/
def send (s : Proxy) (checkHealth : Bool) (write : Write) : Proxy × Bool :=
  if checkHealth && (s.closed || !s.alive) then (s, true)
  else
    match write with
    | .written => (s, false)
    | .broken => ({ s with closed := true }, true)
    | .unserializable => (s, true)

/-- The step that sends the command. In `_stream_chat_completion` it is not under the `finally`. -/
def sendCommand (s : Proxy) (call id : Nat) (binding : Binding) (write : Write) : Proxy :=
  let (s, raises) := send s (binding.stream || binding.checkHealth) write
  if raises then
    -- no `finally` removes the entries of a stream that cannot be sent
    s.setPhase call (if binding.stream then .ended .raised else .leaving id .raised)
  else s.setPhase call (.dispatching id true)

/-- The region of `_dispatch_pending_progress` and the call of the observer. -/
def dispatchPendingProgress (s : Proxy) (id : Nat) (closed : Bool) : Proxy :=
  let called :=
    if closed then []
    else
      match s.latestProgress.get? id, s.commandProgress.get? id with
      | some event, some context => if context.observer then [(context.call, event)] else []
      | _, _ => []
  { s with latestProgress := s.latestProgress.erase id, observed := s.observed ++ called }

/-- `get_nowait` on `_legacy_frames`. -/
def poll (s : Proxy) (call id : Nat) (stream : Bool) : Proxy :=
  match s.legacyFrames with
  | [] => s.setPhase call (if stream then .dispatching id false else .waiting id)
  | body :: legacyFrames =>
    { s with legacyFrames := legacyFrames }.setPhase call (.received id (.frame body))

/-- `get` on the queue of the command, after which a call without a message looks for progress. -/
def get (s : Proxy) (call id : Nat) (stream : Bool) : Proxy :=
  match s.queue id with
  | [] => s.setPhase call (.dispatching id (!stream))
  | message :: messages =>
    { s with queue := Function.update s.queue id messages }.setPhase call (.received id message)

/-- The deadline has passed. A stream ends the worker, which may not be confirmed dead. -/
def timeout (s : Proxy) (call id : Nat) (stream confirmedDead : Bool) : Proxy :=
  let s := if stream then { s with closed := true, alive := s.alive && !confirmedDead } else s
  s.setPhase call (.leaving id .timedOut)

/-- What a call does with a message. -/
def receive (s : Proxy) (call id : Nat) (stream : Bool) (message : Message) : Proxy :=
  match message with
  | .workerEof =>
    let s := if stream then { s with closed := true } else s
    s.setPhase call (.leaving id .raised)
  | .frame (.error _) => s.setPhase call (.leaving id .raised)
  | .frame body =>
    if stream then
      match body with
      | .done => s.setPhase call (.leaving id (.returned .done))
      | .chunk chunk =>
        { s with calls := s.calls.modify call fun c =>
            { c with phase := .yielding id, yielded := c.yielded ++ [some chunk] } }
      | _ =>
        { s with calls := s.calls.modify call fun c =>
            { c with phase := .yielding id, yielded := c.yielded ++ [none] } }
    else s.setPhase call (.leaving id (.returned body))

/-- The region of the `finally`. -/
def forget (s : Proxy) (call id : Nat) (outcome : Outcome) : Proxy :=
  { s with
    pending := s.pending.erase id
    completedCommands := s.completedCommands.erase id
    commandProgress := s.commandProgress.erase id
    latestProgress := s.latestProgress.erase id }.setPhase call (.ended outcome)

/-- What the environment decides in a step of a call. -/
structure Choice where
  write : Write
  expired : Bool
  confirmedDead : Bool
  abandoned : Bool
deriving DecidableEq

/-- The next step of a call. -/
def callStep (s : Proxy) (call : Nat) (c : Call) (choice : Choice) : Proxy :=
  match c.phase with
  | .registering => register s call c.binding
  | .sending id => sendCommand s call id c.binding choice.write
  | .dispatching id polls => s.setPhase call (.popping id polls s.closed)
  | .popping id polls closed =>
    (dispatchPendingProgress s id closed).setPhase call (if polls then .polling id else .waiting id)
  | .polling id => poll s call id c.binding.stream
  | .waiting id =>
    if choice.expired then timeout s call id c.binding.stream choice.confirmedDead
    else get s call id c.binding.stream
  | .received id message => receive s call id c.binding.stream message
  | .yielding id =>
    s.setPhase call (if choice.abandoned then .leaving id .abandoned else .dispatching id true)
  | .leaving id outcome => forget s call id outcome
  | .ended _ => s

/-! ## The reader -/

/-- A line of output, with the region that looks up the queue of its command. -/
def route (s : Proxy) (frame : Frame) : Proxy :=
  if !frame.versioned then
    if s.legacyFrames.length < 32 then { s with legacyFrames := s.legacyFrames ++ [frame.body] }
    else s
  else
    match frame.commandId with
    | none => s
    | some id =>
      if id ∈ s.pending then
        match frame.body with
        | .progress fields => { s with reader := .coalescing id fields }
        | body => { s with reader := .checking id body }
      else s

/-- The region that keeps the latest progress of a command. -/
def coalesce (s : Proxy) (id : Nat) (fields : ProgressFields) : Proxy :=
  let s := { s with reader := .idle }
  match s.commandProgress.get? id with
  | none => s
  | some context =>
    let context := { context with sequence := context.sequence + 1 }
    let requestId := match context.requestId with
      | some requestId => if requestId = "" then "local" else requestId
      | none => "local"
    { s with
      commandProgress := s.commandProgress.set id context
      latestProgress := s.latestProgress.set id
        ⟨fields, requestId, context.workerGeneration, context.sequence⟩ }

/-- `put_nowait`, which ends the reader if it fails. -/
def deliver (s : Proxy) (id : Nat) (body : Body) (fails : Bool) : Proxy :=
  if fails then { s with closed := true, reader := .collecting 1 }
  else { s.put id (.frame body) with reader := if body.completes then .marking id else .idle }

/-- The region of `_fail_pending`. -/
def collect (s : Proxy) (rounds : Nat) : Proxy :=
  { s with reader := .failing (s.pending.keys.filter (· ∉ s.completedCommands)) rounds }

/-- The next step of the reader after the line that it has routed, or after the last one. -/
def readerStep (s : Proxy) (deliveryFails : Bool) : Proxy :=
  match s.reader with
  | .idle | .ended => s
  | .coalescing id fields => coalesce s id fields
  | .checking id body =>
    { s with reader := if id ∈ s.completedCommands then .idle else .putting id body }
  | .putting id body => deliver s id body deliveryFails
  -- the call may have ended by now
  | .marking id =>
    { s with completedCommands := s.completedCommands.set id (), reader := .idle }
  | .collecting rounds => collect s rounds
  | .failing (target :: targets) rounds =>
    { s.put target .workerEof with reader := .failing targets rounds }
  | .failing [] 0 => { s with reader := .ended }
  | .failing [] (rounds + 1) => { s with closed := true, reader := .collecting rounds }

/-! ## Steps -/

/-- One step of a caller, of the reader or of the worker. -/
inductive Event
  | call (binding : Binding)
  | callStep (call : Nat) (choice : Choice)
  | line (frame : Frame)
  | endOfOutput
  | readerStep (deliveryFails : Bool)
  | exit

def step (event : Event) (s : Proxy) : Proxy :=
  match event with
  | .call binding => { s with calls := s.calls ++ [⟨binding, .registering, []⟩] }
  | .callStep i choice =>
    match s.calls[i]? with
    | some c => callStep s i c choice
    | none => s
  | .line frame => if s.reader = .idle then route s frame else s
  | .endOfOutput =>
    if s.reader = .idle then { s with closed := true, reader := .collecting 0 } else s
  | .readerStep deliveryFails => readerStep s deliveryFails
  | .exit => { s with alive := false }

end Rpc
