import Mathlib

/-!
# Registration and shutdown of a compute node

The threads of `RelayClient` that register the node at its relays and remove it
again: the polling thread, the heartbeat thread and one shutdown call. Every
access to the fields that they share is one step, and so is every HTTP delivery.

All requests are answered 200 in time, with the bodies that the relay sends. What
a thread waits for without a bound of its own (the heartbeat thread, the mutation
count) is a step that it repeats. Whether a lease is due for a refresh depends on
clock readings, and any thread may find it either way.
-/

namespace ComputeNode

/-! ## Shared state -/

/-- The configuration. `_build_relay_targets` drops duplicates. The order in which
Python iterates over a set is any. -/
structure NodeEnv where
  relayUrls : List String
  distinct : relayUrls.Nodup
  iterationOrder : Finset String → List String

/-- The shared fields of `RelayClient`, and the relays that have the node
registered. A stored control credential is named by its relay. -/
structure NodeState where
  pollingStopped : Bool
  mutationLatched : Bool
  mutationCount : Nat
  heartbeatStop : Bool
  registeredRelays : Finset String
  controlCredentials : Finset String
  unregisterAttempted : Bool
  unregisterComplete : Bool
  activeRelayIndex : Nat
  leaseDue : Bool
  relays : Finset String
deriving DecidableEq

/-! ## `register_api_v1_compute_node` -/

/-- Where a registration stands. -/
inductive RegisterTask
  | begin
  | post
  | record
  | finish
deriving DecidableEq

/-- What a step of a registration leads to: more of it, or its result. -/
inductive Registering
  | more (task : RegisterTask)
  | refused
  | registered
deriving DecidableEq

/-- One step of `register_api_v1_compute_node`. The relay discloses a control
credential only to a node that it does not know. -/
def registerStep (url : String) (s : NodeState) : RegisterTask → NodeState × Registering
  | .begin =>
    if s.mutationLatched then (s, .refused)
    else ({ s with mutationCount := s.mutationCount + 1 }, .more .post)
  | .post =>
    ({ s with
        relays := insert url s.relays
        controlCredentials :=
          if url ∈ s.relays then s.controlCredentials else insert url s.controlCredentials },
      .more .record)
  | .record =>
    ({ s with
        registeredRelays := insert url s.registeredRelays
        unregisterComplete := false },
      .more .finish)
  | .finish => ({ s with mutationCount := s.mutationCount - 1 }, .registered)

/-! ## The polling thread -/

/-- Where the polling thread stands. `idle` is between two calls of
`poll_api_v1_encrypted_work`. -/
inductive PollTask
  | idle
  | candidates (urls : List String)
  | checkStopped (url : String) (rest : List String) (requiresRegister : Bool)
  | checkStoppedAgain (url : String) (rest : List String)
  | register (url : String) (rest : List String) (task : RegisterTask)
  | commit (url : String) (rest : List String)
  | checkCommitted (url : String) (rest : List String)
  | checkBeforePoll (url : String) (rest : List String)
  | poll (url : String) (rest : List String)
  | checkPolled (url : String) (rest : List String)
deriving DecidableEq

/-- Goes on only if the stop flag is not set. -/
def NodeState.unlessStopped (s : NodeState) (next : PollTask) : NodeState × PollTask :=
  (s, if s.pollingStopped then .idle else next)

/-- One step of `poll_api_v1_encrypted_work`. A registration that is refused moves
on to the next relay. -/
def pollStep (env : NodeEnv) (s : NodeState) : PollTask → NodeState × PollTask
  | .idle => s.unlessStopped (.candidates (env.relayUrls.rotate s.activeRelayIndex))
  | .candidates [] => (s, .idle)
  | .candidates (url :: rest) =>
    (s, .checkStopped url rest (decide (url ∉ s.registeredRelays) || s.leaseDue))
  | .checkStopped url rest requiresRegister =>
    s.unlessStopped
      (if requiresRegister then .checkStoppedAgain url rest else .checkBeforePoll url rest)
  | .checkStoppedAgain url rest => s.unlessStopped (.register url rest .begin)
  | .register url rest task =>
    match registerStep url s task with
    | (s, .more task) => (s, .register url rest task)
    | (s, .refused) => (s, .candidates rest)
    | (s, .registered) => (s, .commit url rest)
  | .commit url rest =>
    ({ s with
        registeredRelays := insert url s.registeredRelays
        unregisterComplete := false },
      .checkCommitted url rest)
  | .checkCommitted url rest => s.unlessStopped (.checkBeforePoll url rest)
  | .checkBeforePoll url rest => s.unlessStopped (.poll url rest)
  | .poll url rest => (s, .checkPolled url rest)
  | .checkPolled url _ =>
    if s.pollingStopped then (s, .idle)
    else ({ s with activeRelayIndex := env.relayUrls.idxOf url }, .idle)

/-! ## The heartbeat thread -/

/-- Where the heartbeat thread stands. -/
inductive HeartbeatTask
  | waiting
  | checkStopped
  | snapshot
  | candidates (urls : List String)
  | register (url : String) (rest : List String) (task : RegisterTask)
  | checkStopEvent (url : String) (rest : List String)
  | checkStoppedAgain (url : String) (rest : List String)
  | commit (url : String) (rest : List String)
  | ended
deriving DecidableEq

/-- One step of `_api_v1_heartbeat_worker`. -/
def heartbeatStep (env : NodeEnv) (s : NodeState) : HeartbeatTask → NodeState × HeartbeatTask
  | .waiting => (s, if s.heartbeatStop then .ended else .checkStopped)
  | .checkStopped => (s, if s.pollingStopped then .ended else .snapshot)
  | .snapshot => (s, .candidates (env.iterationOrder s.registeredRelays))
  | .candidates [] => (s, .waiting)
  | .candidates (url :: rest) =>
    (s,
      if s.heartbeatStop then .waiting
      else if s.leaseDue then .register url rest .begin
      else .candidates rest)
  | .register url rest task =>
    match registerStep url s task with
    | (s, .more task) => (s, .register url rest task)
    | (s, .refused) => (s, .candidates rest)
    | (s, .registered) => (s, .checkStopEvent url rest)
  | .checkStopEvent url rest =>
    (s, if s.heartbeatStop then .candidates rest else .checkStoppedAgain url rest)
  | .checkStoppedAgain url rest =>
    (s, if s.pollingStopped then .candidates rest else .commit url rest)
  | .commit url rest =>
    ({ s with registeredRelays := insert url s.registeredRelays }, .candidates rest)
  | .ended => (s, .ended)

/-! ## The shutdown call -/

/-- The two calls that shut a node down: `RelayClient.unregister_from_relay`, and
`ComputeNodeRuntime.stop`, which may call it. -/
inductive ShutdownCall
  | unregister
  | stop
deriving DecidableEq

/-- What the heartbeat thread is stopped for: the rest of `RelayClient.stop` in
`ComputeNodeRuntime.stop`, or that of `unregister_from_relay`. -/
inductive AfterLatch
  | decide
  | quiesce (call : ShutdownCall)
deriving DecidableEq

/-- The local variables of the loop of `unregister_from_relay`. -/
structure Unregistering where
  targets : List String
  remaining : List String
  unregistered : List String
  failed : List String
deriving DecidableEq

/-- How a shutdown call ends. -/
inductive ShutdownResult
  | unregistered (complete : Bool)
  | stopped
deriving DecidableEq

/-- Where the shutdown call stands. -/
inductive ShutdownTask
  | latchStopped (next : AfterLatch)
  | latchMutations (next : AfterLatch)
  | latchHeartbeat (next : AfterLatch)
  | stopHeartbeat (next : AfterLatch)
  | joinHeartbeat (next : AfterLatch)
  | decide
  | quiesce (call : ShutdownCall)
  | checkRegistered (call : ShutdownCall)
  | collect (call : ShutdownCall) (urls targets : List String)
  | collectOthers (call : ShutdownCall) (targets : List String)
  | unregister (call : ShutdownCall) (loop : Unregistering)
  | discard (call : ShutdownCall) (url : String) (loop : Unregistering)
  | returned (result : ShutdownResult)
deriving DecidableEq

/-- The call has ended. -/
def ShutdownCall.result : ShutdownCall → Bool → ShutdownResult
  | .unregister, complete => .unregistered complete
  | .stop, _ => .stopped

/-- The first step of a call. -/
def ShutdownCall.start : ShutdownCall → ShutdownTask
  | .unregister => .latchStopped (.quiesce .unregister)
  | .stop => .latchStopped .decide

/-- What follows once the heartbeat thread has ended. -/
def AfterLatch.task : AfterLatch → ShutdownTask
  | .decide => .decide
  | .quiesce call => .quiesce call

/-- `sorted`. -/
def sorted (names : Finset String) : List String := names.sort (· ≤ ·)

@[simp] theorem mem_sorted {name : String} {names : Finset String} :
    name ∈ sorted names ↔ name ∈ names :=
  Finset.mem_sort _

/-- The relays that are configured, in the order of the attempts. -/
def orderedRelayUrls (env : NodeEnv) (s : NodeState) : List String :=
  env.relayUrls.rotate s.activeRelayIndex

/-- The end of the loop of `unregister_from_relay`. -/
def finishUnregister (call : ShutdownCall) (loop : Unregistering) (s : NodeState) :
    NodeState × ShutdownTask :=
  if loop.failed ≠ [] then
    ({ s with unregisterComplete := false }, .returned (call.result false))
  else
    ({ s with
        unregisterComplete := true
        registeredRelays :=
          if loop.unregistered.length = loop.targets.length then
            s.registeredRelays \ loop.unregistered.toFinset
          else s.registeredRelays },
      .returned (call.result true))

/-- One step of the shutdown call. -/
def shutdownStep (env : NodeEnv) (heartbeat : HeartbeatTask) (s : NodeState) :
    ShutdownTask → NodeState × ShutdownTask
  -- `_api_v1_latch_shutdown`
  | .latchStopped next => ({ s with pollingStopped := true }, .latchMutations next)
  | .latchMutations next => ({ s with mutationLatched := true }, .latchHeartbeat next)
  | .latchHeartbeat next => ({ s with heartbeatStop := true }, .stopHeartbeat next)
  -- `_api_v1_stop_heartbeat_worker`
  | .stopHeartbeat next => ({ s with heartbeatStop := true }, .joinHeartbeat next)
  | .joinHeartbeat next => (s, if heartbeat = .ended then next.task else .joinHeartbeat next)
  -- `ComputeNodeRuntime.stop` looks for a registration
  | .decide =>
    (s,
      if s.registeredRelays = ∅ then .returned .stopped
      else .latchStopped (.quiesce .stop))
  -- `unregister_from_relay` after the latch
  | .quiesce call => (s, if s.mutationCount = 0 then .checkRegistered call else .quiesce call)
  | .checkRegistered call =>
    if s.registeredRelays = ∅ then
      ({ s with unregisterAttempted := true, unregisterComplete := true },
        .returned (call.result true))
    else
      ({ s with unregisterAttempted := true }, .collect call (orderedRelayUrls env s) [])
  | .collect call [] targets => (s, .collectOthers call targets)
  | .collect call (url :: rest) targets =>
    (s, .collect call rest (if url ∈ s.registeredRelays then targets ++ [url] else targets))
  | .collectOthers call targets =>
    let targets := targets ++ sorted (s.registeredRelays.filter (· ∉ targets))
    (s, .unregister call ⟨targets, targets, [], []⟩)
  | .unregister call loop =>
    match loop.remaining with
    | [] => finishUnregister call loop s
    | url :: rest =>
      if url ∈ s.controlCredentials then
        ({ s with relays := s.relays.erase url }, .discard call url { loop with remaining := rest })
      else
        (s, .unregister call { loop with remaining := rest, failed := loop.failed ++ [url] })
  | .discard call url loop =>
    ({ s with
        registeredRelays := s.registeredRelays.erase url
        controlCredentials := s.controlCredentials.erase url
        activeRelayIndex :=
          if url ∈ env.relayUrls then env.relayUrls.idxOf url else s.activeRelayIndex },
      .unregister call { loop with unregistered := loop.unregistered ++ [url] })
  | .returned result => (s, .returned result)

/-! ## Runs -/

/-- The shared fields and the three threads. -/
structure NodeSystem where
  shared : NodeState
  poll : PollTask
  heartbeat : HeartbeatTask
  shutdown : ShutdownTask
deriving DecidableEq

/-- A thread takes its next step, or a lease becomes due or is fresh again. -/
inductive NodeEvent
  | poll
  | heartbeat
  | shutdown
  | lease (due : Bool)
deriving DecidableEq

/-- The system after one event. -/
def step (env : NodeEnv) : NodeEvent → NodeSystem → NodeSystem
  | .poll, s =>
    let (shared, poll) := pollStep env s.shared s.poll
    { s with shared, poll }
  | .heartbeat, s =>
    let (shared, heartbeat) := heartbeatStep env s.shared s.heartbeat
    { s with shared, heartbeat }
  | .shutdown, s =>
    let (shared, shutdown) := shutdownStep env s.heartbeat s.shared s.shutdown
    { s with shared, shutdown }
  | .lease due, s => { s with shared := { s.shared with leaseDue := due } }

/-- A node that is registered at some relays, with its polling thread between two
calls, with or without a heartbeat thread, when the shutdown call starts to run. -/
def started (registered : Finset String) (beating : Bool) (call : ShutdownCall) : NodeSystem where
  shared :=
    { pollingStopped := false
      mutationLatched := false
      mutationCount := 0
      heartbeatStop := false
      registeredRelays := registered
      controlCredentials := registered
      unregisterAttempted := false
      unregisterComplete := false
      activeRelayIndex := 0
      leaseDue := false
      relays := registered }
  poll := .idle
  heartbeat := if beating then .waiting else .ended
  shutdown := call.start

end ComputeNode
