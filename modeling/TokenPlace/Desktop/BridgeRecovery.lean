import Mathlib.Logic.Function.Basic

/-!
# The poll loops of the bridge and their recovery

`poll_relay_loop` and `recover_shared_runtime` of `compute_node_bridge.py`, for any number of
relays. Every access to something shared, every operation of a lock and every call of a relay
client or of the runtime is a step. What the calls return is decided by the environment, and so is
the registration of a client between the steps that change it here: its heartbeats, the end of its
lease and the cleanup of `run`. The status that is shown and the log are left out.
-/

namespace BridgeRecovery

/-! ## State -/

/-- `warm_load_state`. -/
inductive WarmLoad
  | notStarted
  | warming
  | ready
  | recovering
  | failed
deriving DecidableEq

/-- What a loop reads of the response of `register_and_poll_once`: an error message, a heartbeat,
and the number of the API v1 work item that it is, if it is one. -/
structure Response where
  relayError : Bool
  heartbeat : Bool
  work : Option Nat
deriving DecidableEq

/-- What a loop reads of the result of `process_relay_request_result`. -/
structure ProcessResult where
  inferenceSucceeded : Bool
  submitted : Bool
  runtimeHealthy : Bool
  submissionAllowed : Bool
  recoveryAttempted : Bool
  recoverySucceeded : Bool
deriving DecidableEq

/-- The result that stands for an exception. -/
def ProcessResult.raised : ProcessResult where
  inferenceSucceeded := false
  submitted := false
  runtimeHealthy := false
  submissionAllowed := true
  recoveryAttempted := true
  recoverySucceeded := false

/-- The thread of a `_CancelablePollWorker`, with what it has put into the result queue. -/
inductive Worker
  | idle
  | running
  | returned (response : Response)
  | raised
deriving DecidableEq

/-- Where a thread is in `recover_shared_runtime`. A thread that joins knows for which recovery it
waits. -/
inductive Recovery
  | acquire
  | joinWait (recovery : Nat)
  | joinDone (recovery : Nat)
  | joinLocked (recovery : Nat)
  | joinStop (recovery : Nat)
  | joined (recovery : Nat)
  | clear
  | announce
  | unadvertise (rest : List Nat)
  | attempt (k : Nat)
  | ensure (k : Nat)
  | succeeded (k : Nat)
  | start (k : Nat) (rest : List Nat)
  | backoff (k : Nat)
  | finish
  | release
deriving DecidableEq

/-- Where a thread is in `poll_relay_loop`. -/
inductive Loop
  | top
  | testRecovering
  | testFailed
  | calling
  | polling
  | empty
  | received (response : Response)
  | evaluated (response : Response) (registered : Bool)
  | locking (work : Nat)
  | locked (work : Nat)
  | processing (work : Nat)
  | releasing (work : Nat) (result : ProcessResult)
  | answering (work : Nat)
  | submitting (work : Nat)
  | unhealthy (result : ProcessResult)
  | recovering (recovery : Recovery)
  | sleeping
  | ended
deriving DecidableEq

/-- `recovery_lock` and `recovery_done`. The last three fields are for the proofs: how many
recoveries have begun and have ended, and the calls of `ensure_api_v1_runtime_ready` in the last
one. -/
structure Coordination where
  lock : Option Nat
  recoveryDone : Bool
  begun : Nat
  finished : Nat
  ensured : Nat

/-- For the proofs: the work items that the workers have returned, numbered in that order. Of each
the relay that it came from, whether no stop was requested then, and how often it was handed to
`process_relay_request_result` and answered with an error response. -/
structure Ledger where
  returned : Nat
  owner : Nat → Nat
  early : Nat → Bool
  handed : Nat → Nat
  answered : Nat → Nat

/-- What the threads share. `fresh` is `api_v1_registration_fresh` of the client of a relay. -/
structure Bridge where
  stop : Bool
  warmLoadState : WarmLoad
  coordination : Coordination
  inferenceLock : Option Nat
  fresh : Nat → Bool
  worker : Nat → Worker
  loop : Nat → Loop
  ledger : Ledger

/-- The poll loops are about to start. -/
def Bridge.started (warmLoadState : WarmLoad) : Bridge where
  stop := false
  warmLoadState
  coordination := ⟨none, true, 0, 0, 0⟩
  inferenceLock := none
  fresh _ := false
  worker _ := .idle
  loop _ := .top
  ledger := ⟨0, fun _ => 0, fun _ => false, fun _ => 0, fun _ => 0⟩

/-- What the call of a step returns: the result of `process_relay_request_result`, whether the
registration is cleared by `unregister_from_relay` or `start_relay_session`, what
`ensure_api_v1_runtime_ready` returns, and whether another call raises. Without a value the call
raises. -/
structure Answers where
  processed : Option ProcessResult
  cleared : Bool
  ready : Option Bool
  raises : Bool

/-- A worker returns a response, which says whether it is a work item, or raises. -/
inductive Event
  | stop
  | registration (relay : Nat) (fresh : Bool)
  | worker (relay : Nat) (response : Option (Bool × Bool × Bool))
  | loop (relay : Nat) (answers : Answers)

/-! ## Steps -/

/-- The thread of a relay goes on. -/
def Bridge.goto (s : Bridge) (relay : Nat) (loop : Loop) : Bridge :=
  { s with loop := Function.update s.loop relay loop }

def Bridge.recover (s : Bridge) (relay : Nat) (recovery : Recovery) : Bridge :=
  s.goto relay (.recovering recovery)

/-- The registration of a client after a call that may clear it. -/
def clearRegistration (fresh : Nat → Bool) (relay : Nat) (cleared : Bool) : Nat → Bool :=
  Function.update fresh relay (fresh relay && !cleared)

section

variable (relays : List Nat) (attempts : Nat)

/-- The next step in `recover_shared_runtime`. -/
def recoveryStep (relay : Nat) (answers : Answers) (s : Bridge) : Recovery → Bridge
  | .acquire =>
    match s.coordination.lock with
    | none =>
      { s with
        coordination :=
          { s.coordination with
            lock := some relay, begun := s.coordination.begun + 1, ensured := 0 } }.recover relay
              .clear
    | some _ => s.recover relay (.joinWait s.coordination.begun)
  -- the timeout of the wait makes no difference
  | .joinWait recovery => s.recover relay (.joinDone recovery)
  | .joinDone recovery =>
    s.recover relay
      (if s.coordination.recoveryDone then .joinLocked recovery else .joinStop recovery)
  | .joinLocked recovery =>
    s.recover relay
      (if s.coordination.lock = none then .joined recovery else .joinStop recovery)
  | .joinStop recovery =>
    if s.stop then s.goto relay .sleeping else s.recover relay (.joinWait recovery)
  | .joined _ => s.goto relay .sleeping
  | .clear =>
    { s with coordination := { s.coordination with recoveryDone := false } }.recover relay .announce
  | .announce => { s with warmLoadState := .recovering }.recover relay (.unadvertise relays)
  | .unadvertise (client :: rest) =>
    { s with fresh := clearRegistration s.fresh client answers.cleared }.recover relay
      (.unadvertise rest)
  | .unadvertise [] => s.recover relay (.attempt 1)
  | .attempt k =>
    if attempts < k then { s with warmLoadState := .failed }.recover relay .finish
    else s.recover relay (if s.stop then .finish else .ensure k)
  | .ensure k =>
    { s with
      coordination := { s.coordination with ensured := s.coordination.ensured + 1 } }.recover relay
        (if answers.ready = some true then .succeeded k else .backoff k)
  | .succeeded k => { s with warmLoadState := .ready }.recover relay (.start k relays)
  | .start k (client :: rest) =>
    -- the exception of a start is caught like that of an attempt
    if answers.raises then s.recover relay (.backoff k)
    else
      { s with fresh := clearRegistration s.fresh client answers.cleared }.recover relay
        (.start k rest)
  | .start _ [] => s.recover relay .finish
  | .backoff k =>
    s.recover relay (if k < attempts ∧ s.stop then .finish else .attempt (k + 1))
  | .finish =>
    { s with coordination := { s.coordination with recoveryDone := true } }.recover relay .release
  | .release =>
    { s with
      coordination :=
        { s.coordination with
          lock := none, finished := s.coordination.finished + 1 } }.goto relay .sleeping

/-- Where a loop goes on when its item has been processed. -/
def afterProcess (work : Nat) (result : ProcessResult) : Loop :=
  if result.inferenceSucceeded then .sleeping
  else if !result.runtimeHealthy then .unhealthy result
  else if !result.submitted && result.submissionAllowed then .answering work
  else .sleeping

/-- Where a loop goes on with its response. -/
def afterResponse (response : Response) (registered : Bool) : Loop :=
  match response.work with
  | some work => if registered then .locking work else .sleeping
  | none => .sleeping

/-- The next step of `poll_relay_loop`. -/
def loopStep (relay : Nat) (answers : Answers) (s : Bridge) : Bridge :=
  match s.loop relay with
  | .top => s.goto relay (if s.stop then .ended else .testRecovering)
  | .testRecovering =>
    s.goto relay (if s.warmLoadState = .recovering then .top else .testFailed)
  | .testFailed => s.goto relay (if s.warmLoadState = .failed then .ended else .calling)
  | .calling => { s with worker := Function.update s.worker relay .running }.goto relay .polling
  | .polling =>
    match s.worker relay with
    | .returned response =>
      { s with worker := Function.update s.worker relay .idle }.goto relay (.received response)
    | .raised => { s with worker := Function.update s.worker relay .idle }.goto relay .ended
    | .idle | .running => s.goto relay .empty
  | .empty => s.goto relay (if s.stop then .ended else .polling)
  | .received response =>
    s.goto relay (.evaluated response
      (!response.relayError && (response.heartbeat || response.work.isSome) && s.fresh relay))
  | .evaluated response registered =>
    s.goto relay (afterResponse response (registered && s.warmLoadState != .failed))
  | .locking work =>
    match s.inferenceLock with
    | none => { s with inferenceLock := some relay }.goto relay (.locked work)
    | some _ => s
  | .locked work =>
    { s with
      ledger :=
        { s.ledger with
          handed := Function.update s.ledger.handed work (s.ledger.handed work + 1) } }.goto relay
            (.processing work)
  | .processing work => s.goto relay (.releasing work (answers.processed.getD .raised))
  | .releasing work result =>
    { s with inferenceLock := none }.goto relay (afterProcess work result)
  | .answering work => s.goto relay (if s.stop then .sleeping else .submitting work)
  | .submitting work =>
    { s with
      ledger :=
        { s.ledger with
          answered := Function.update s.ledger.answered work (s.ledger.answered work + 1) } }.goto
            relay (if answers.raises then .ended else .sleeping)
  | .unhealthy result =>
    if result.recoverySucceeded then { s with warmLoadState := .ready }.goto relay .sleeping
    else if result.recoveryAttempted then s.recover relay .acquire
    else { s with warmLoadState := .failed }.goto relay .sleeping
  | .recovering recovery => recoveryStep relays attempts relay answers s recovery
  | .sleeping => s.goto relay (if s.stop then .ended else .top)
  | .ended => s

/-- A worker returns a new work item. -/
def Ledger.record (ledger : Ledger) (relay : Nat) (early : Bool) : Ledger :=
  { ledger with
    returned := ledger.returned + 1
    owner := Function.update ledger.owner ledger.returned relay
    early := Function.update ledger.early ledger.returned early }

/-- `register_and_poll_once` comes back in the worker of a relay. -/
def workerStep (relay : Nat) (response : Option (Bool × Bool × Bool)) (s : Bridge) : Bridge :=
  match s.worker relay, response with
  | .running, none => { s with worker := Function.update s.worker relay .raised }
  | .running, some (relayError, heartbeat, false) =>
    { s with
      worker := Function.update s.worker relay (.returned ⟨relayError, heartbeat, none⟩) }
  | .running, some (relayError, heartbeat, true) =>
    { s with
      worker :=
        Function.update s.worker relay (.returned ⟨relayError, heartbeat, some s.ledger.returned⟩)
      ledger := s.ledger.record relay !s.stop }
  | _, _ => s

def step (e : Event) (s : Bridge) : Bridge :=
  match e with
  | .stop => { s with stop := true }
  | .registration relay fresh => { s with fresh := Function.update s.fresh relay fresh }
  | .worker relay response => workerStep relay response s
  | .loop relay answers => loopStep relays attempts relay answers s

end

end BridgeRecovery
