import TokenPlace.Lib.Schedules
import TokenPlace.Node.Registration

/-!
# The end of a bridge

The threads of `run` in `compute_node_bridge.py` that reach the relay clients: the poll workers
and the heartbeat workers, one thread that recovers the shared runtime, the stop request, and
the cleanup threads. Each client has a relay of its own, and every access to its fields is one
step, as is every HTTP delivery.

A poll worker begins calls at any time, so a call that its poll thread has abandoned is one that
goes on. What ends a cleanup or an unregistration early (a latch that is pending or has raised, an
exception, the deadline) is an event, and so is what the runtime answers to a recovery. Responses
to requests are left out: they count as mutations too, so a cleanup also waits for them.
-/

namespace ComputeNode

/-! ## One relay client -/

/-- Where `request_poll_cancel` stands with the latch of a client. -/
inductive StopLatch
  | unlatched
  | stopped
  | mutations
  | latched
deriving DecidableEq

/-- Where `cleanup_one_relay` stands. `required` is what `_relay_requires_unregister` gave. -/
inductive CleanupTask
  | waiting
  | quiesce
  | evaluate
  | stopHeartbeat (required : Bool)
  | joinHeartbeat (required : Bool)
  | evaluateAgain
  | unregister (task : ShutdownTask)
  | reported (required success : Bool)
deriving DecidableEq

/-- A relay client, its threads, and its entries in the tables of `run`. -/
structure BridgeRelay where
  node : NodeState
  poll : PollTask
  heartbeat : HeartbeatTask
  registrationSucceeded : Bool
  latch : StopLatch
  cleanup : CleanupTask
deriving DecidableEq

/-- A client that `start_relay_session` has reset. -/
def BridgeRelay.fresh : BridgeRelay where
  node :=
    { pollingStopped := false
      mutationLatched := false
      mutationCount := 0
      heartbeatStop := false
      registeredRelays := ∅
      controlCredentials := ∅
      unregisterAttempted := false
      unregisterComplete := false
      activeRelayIndex := 0
      leaseDue := false
      relays := ∅ }
  poll := .idle
  heartbeat := .ended
  registrationSucceeded := false
  latch := .unlatched
  cleanup := .waiting

/-- `_relay_requires_unregister`. -/
def BridgeRelay.requiresUnregister (r : BridgeRelay) : Bool :=
  r.registrationSucceeded || decide (r.node.registeredRelays ≠ ∅)

/-- One step of the latch of `request_poll_cancel`, which is `_api_v1_latch_shutdown`. -/
def latchStep (r : BridgeRelay) : BridgeRelay :=
  match r.latch with
  | .unlatched => { r with node.pollingStopped := true, latch := .stopped }
  | .stopped => { r with node.mutationLatched := true, latch := .mutations }
  | .mutations => { r with node.heartbeatStop := true, latch := .latched }
  | .latched => r

/-- `_api_v1_start_heartbeat_worker`. -/
def startHeartbeat (r : BridgeRelay) : BridgeRelay :=
  if r.heartbeat = .ended then
    { r with node.heartbeatStop := false, heartbeat := .waiting }
  else r

/-- One step of the cleanup of a relay, from the latch to the report. -/
def cleanupStep (env : NodeEnv) (r : BridgeRelay) : BridgeRelay :=
  match r.cleanup with
  | .waiting => { r with cleanup := if r.latch = .latched then .quiesce else .waiting }
  | .quiesce => { r with cleanup := if r.node.mutationCount = 0 then .evaluate else .quiesce }
  | .evaluate => { r with cleanup := .stopHeartbeat r.requiresUnregister }
  | .stopHeartbeat required =>
    { r with node.heartbeatStop := true, cleanup := .joinHeartbeat required }
  | .joinHeartbeat required =>
    { r with cleanup :=
        if r.heartbeat = .ended then
          if required then .evaluateAgain else .reported false true
        else .joinHeartbeat required }
  | .evaluateAgain =>
    { r with cleanup :=
        if r.requiresUnregister then .unregister ShutdownCall.unregister.start
        else .reported true true }
  | .unregister (.returned result) =>
    { r with cleanup := .reported true (decide (result = .unregistered true)) }
  | .unregister task =>
    let (node, task) := shutdownStep env r.heartbeat r.node task
    { r with node, cleanup := .unregister task }
  | .reported _ _ => r

/-- A cleanup that has not reported yet reports a failure. -/
def failCleanup (r : BridgeRelay) : BridgeRelay :=
  match r.cleanup with
  | .reported _ _ => r
  | _ => { r with cleanup := .reported r.requiresUnregister false }

/-! ## The bridge -/

/-- Where `recover_shared_runtime` stands. The steps from `start` on are those of
`RelayClient.start` for each client, with what it has read before it resets the client. -/
inductive RecoveryTask (n : Nat)
  | idle
  | unadvertise (rest : List (Fin n))
  | unregister (i : Fin n) (task : ShutdownTask) (rest : List (Fin n))
  | attempt
  | ensureReady
  | start (rest : List (Fin n))
  | reset (i : Fin n) (clearRegistration : Bool) (rest : List (Fin n))
  | unlatch (i : Fin n) (clearRegistration : Bool) (rest : List (Fin n))
  | clear (i : Fin n) (rest : List (Fin n))
deriving DecidableEq

/-- What `ensure_api_v1_runtime_ready` leads to: the runtime is ready, the recovery tries again,
or it gives up. -/
inductive ReadyOutcome
  | ready
  | again
  | exhausted
deriving DecidableEq

/-- The `unregister_outcome` of the `stopped` event. -/
inductive StopOutcome
  | complete
  | notRequired
  | incomplete
deriving DecidableEq

/-- A bridge with `n` relay clients. -/
structure Bridge (n : Nat) where
  relay : Fin n → BridgeRelay
  recovery : RecoveryTask n
  stopRequested : Bool
  stopped : Option StopOutcome
deriving DecidableEq

/-- A bridge whose relay sessions have been started. -/
def Bridge.started (n : Nat) : Bridge n where
  relay _ := .fresh
  recovery := .idle
  stopRequested := false
  stopped := none

/-- A step of a thread, or something that happens to one. -/
inductive BridgeEvent (n : Nat)
  | poll (i : Fin n)
  | heartbeat (i : Fin n)
  | startHeartbeat (i : Fin n)
  | stopHeartbeat (i : Fin n)
  | lease (i : Fin n) (due : Bool)
  | pollResult (i : Fin n)
  | requestStop
  | latch (i : Fin n)
  | cleanup (i : Fin n)
  | failCleanup (i : Fin n)
  | recovery (outcome : ReadyOutcome)
  | failUnadvertise
  | stopped (pollThreadsEnded : Bool)
deriving DecidableEq

variable {n : Nat}

/-- One client changes. -/
def Bridge.update (b : Bridge n) (i : Fin n) (f : BridgeRelay → BridgeRelay) : Bridge n :=
  { b with relay := Function.update b.relay i (f (b.relay i)) }

/-- One step of `recover_shared_runtime`. The stop request is looked at before an attempt, and
not again. -/
def recoveryStep (env : Fin n → NodeEnv) (outcome : ReadyOutcome) (b : Bridge n) : Bridge n :=
  match b.recovery with
  | .idle => { b with recovery := .unadvertise (List.finRange n) }
  | .unadvertise [] => { b with recovery := .attempt }
  | .unadvertise (i :: rest) =>
    if (b.relay i).requiresUnregister then
      { b with recovery := .unregister i ShutdownCall.unregister.start rest }
    else { b with recovery := .unadvertise rest }
  | .unregister _ (.returned _) rest => { b with recovery := .unadvertise rest }
  | .unregister i task rest =>
    let (node, task) := shutdownStep (env i) (b.relay i).heartbeat (b.relay i).node task
    { b.update i ({ · with node }) with recovery := .unregister i task rest }
  | .attempt => { b with recovery := if b.stopRequested then .idle else .ensureReady }
  | .ensureReady =>
    { b with recovery :=
        match outcome with
        | .ready => .start (List.finRange n)
        | .again => .attempt
        | .exhausted => .idle }
  | .start [] => { b with recovery := .idle }
  | .start (i :: rest) =>
    let node := (b.relay i).node
    { b with recovery := .reset i (node.pollingStopped || node.unregisterComplete) rest }
  -- `reset_api_v1_polling_session`
  | .reset i clearRegistration rest =>
    { b.update i fun r =>
        { r with
          node.pollingStopped := false
          node.unregisterAttempted := false
          node.unregisterComplete := false } with
      recovery := .unlatch i clearRegistration rest }
  | .unlatch i clearRegistration rest =>
    { b.update i fun r => { r with node.mutationLatched := false } with
      recovery := if clearRegistration then .clear i rest else .start rest }
  | .clear i rest =>
    { b.update i fun r => { r with node.registeredRelays := ∅ } with recovery := .start rest }

/-- The unregistration that a recovery makes for a client fails. -/
def failUnadvertise (b : Bridge n) : Bridge n :=
  match b.recovery with
  | .unregister _ _ rest => { b with recovery := .unadvertise rest }
  | _ => b

/-- The outcome that the `stopped` event reports. A recovery runs in a poll thread. -/
def Bridge.stopOutcome (b : Bridge n) (pollThreadsEnded : Bool) : StopOutcome :=
  if pollThreadsEnded ∧ b.recovery = .idle ∧
      ∀ i, ∃ required, (b.relay i).cleanup = .reported required true then
    if ∃ i, (b.relay i).cleanup = .reported true true then .complete else .notRequired
  else .incomplete

/-- The bridge after one event. -/
def bridgeStep (env : Fin n → NodeEnv) (ev : BridgeEvent n) (b : Bridge n) : Bridge n :=
  match ev with
  | .poll i => b.update i fun r =>
    let (node, poll) := pollStep (env i) r.node r.poll
    { r with node, poll }
  | .heartbeat i => b.update i fun r =>
    let (node, heartbeat) := heartbeatStep (env i) r.node r.heartbeat
    { r with node, heartbeat }
  | .startHeartbeat i => b.update i startHeartbeat
  | .stopHeartbeat i => b.update i fun r => { r with node.heartbeatStop := true }
  | .lease i due => b.update i fun r => { r with node.leaseDue := due }
  | .pollResult i => b.update i fun r =>
    { r with registrationSucceeded :=
        r.registrationSucceeded || decide (r.node.registeredRelays ≠ ∅) }
  | .requestStop => { b with stopRequested := true }
  | .latch i => b.update i latchStep
  | .cleanup i => b.update i (cleanupStep (env i))
  | .failCleanup i => b.update i failCleanup
  | .recovery outcome => recoveryStep env outcome b
  | .failUnadvertise => failUnadvertise b
  | .stopped pollThreadsEnded =>
    { b with stopped := b.stopped.or (some (b.stopOutcome pollThreadsEnded)) }

/-- The event sends a register request for a client. -/
def SendsRegistration (i : Fin n) (ev : BridgeEvent n) (b : Bridge n) : Prop :=
  (ev = .poll i ∧ ∃ url rest, (b.relay i).poll = .register url rest .post) ∨
    (ev = .heartbeat i ∧ ∃ url rest, (b.relay i).heartbeat = .register url rest .post)

end ComputeNode
