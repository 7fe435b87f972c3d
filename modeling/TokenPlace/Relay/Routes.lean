import TokenPlace.Relay.Lifecycle

/-!
# The API v1 routes as threads

Every route is the list of its lock regions. `exec` runs one region and says
what the route does next: more regions, or its reply. A region that holds
`api_v1_terminal_transition_lock` is one action with everything that it calls;
outside of it every lock region is an action of its own, so another route may run
between two of them.

The answers to bodies that fail the schema checks and to callers without a server
token are left out: they are sent before any table is read.
-/

namespace Relay

open Interleaving

variable (env : RelayEnv)

/-- A region with the local variables it was entered with. -/
abbrev Region := RelayState → RelayState × Next Task Reply

/-! ## Replies -/

/-- The text of a terminal status. -/
def TerminalStatus.text : TerminalStatus → String
  | .cancelled => "cancelled"
  | .expired => "expired"

/-- The responses route refuses a response. -/
def responseRefused (status : String) : Reply :=
  .gone "Request is no longer waiting for a response" status none

/-- The retrieve route reports a terminal record. -/
def terminalReported (r : TerminalRecord) : Reply :=
  .gone ("Request " ++ r.status.text) r.status.text (some r.reason)

def serverNotFound : Reply := .error 404 "Server with the specified public key not found"

def invalidRequestData : Reply := .error 400 "Invalid request data"

def controlCredentialRefused : Reply :=
  .error 403 "Missing or invalid relay server control credential"

/-- `_api_v1_deadline_metadata`. -/
def remainingSeconds (deadline now : ℚ) : ℚ := max (deadline - now) 0

/-! ## Stale eviction -/

/-- `_evict_stale_servers`, which several routes run first. -/
def evictionTasks : List Task :=
  [.pruneTerminalRequests, .expireStalePendingRequests, .pruneControlTombstones,
    .evictStaleServers]

/-- `_expire_stale_pending_requests` collects what it will expire. -/
def expireStalePendingRequests : Region := fun s =>
  let expired := s.pendingRequestIds.entries.filter fun e => pendingRequestEntryIsExpired e.2 s
  (s, .proceed (expired.map fun e => .expirePending e.1))

/-- One round of the loop of `_expire_stale_pending_requests`. -/
def expirePending (p : Pair) : Region := fun s =>
  if hasClientResponseForRequest p s then (s, .proceed [])
  else (s, .proceed [.cancelRequest p .expired .pendingRequestTtlExceeded])

/-- The payload object that a sweep refers to. -/
def RelayState.payloadOf (s : RelayState) (serial : Nat) : Option ServerPayload :=
  (s.knownServers.values ++ s.orphans).find? fun payload => payload.serial = serial

/-- The snapshot of `_evict_stale_servers`. -/
def snapshotServers (now : ℚ) : Region := fun s =>
  (s, .proceed ((s.knownServers.values.map fun payload => .pruneInFlight payload.serial now) ++
    [.collectStaleServers now]))

/-- `_api_v1_in_flight_entry_can_be_pruned`. -/
def InFlightEntry.canBePruned (entry : InFlightEntry) (now : ℚ) : Bool :=
  entry.expiresAt ≤ now && entry.requestDeadlineMonotonic ≤ now

/-- `_prune_api_v1_stale_in_flight_entries` collects what it will expire. -/
def pruneInFlight (serial : Nat) (now : ℚ) : Region := fun s =>
  match s.payloadOf serial with
  | none => (s, .proceed [])
  | some payload =>
    let expired := payload.inFlightRequests.entries.filter fun e => e.2.canBePruned now
    (s, .proceed (expired.map fun e =>
      .cancelRequest ⟨e.2.clientPublicKey, e.1⟩ .expired .providerTimeout))

/-- `_server_ping_age_seconds`. -/
def ServerPayload.pingAge (payload : ServerPayload) (s : RelayState) : ℚ :=
  max (s.wall - payload.lastPing) 0

/-- A lease that neither a poll, an in-flight entry nor a recent ping keeps. -/
def ServerPayload.stale (payload : ServerPayload) (now : ℚ) (s : RelayState) : Bool :=
  (match payload.pollingUntilMonotonic with
    | some pollingUntil => pollingUntil ≤ now
    | none => true) &&
  payload.activeInFlightCount now = 0 &&
  max payload.lastPingDuration 1 < payload.pingAge s

/-- The stale candidates of `_evict_stale_servers`. -/
def collectStaleServers (now : ℚ) : Region := fun s =>
  let candidates := s.knownServers.entries.filter fun e => e.2.stale now s
  (s, .proceed (candidates.map fun e => .evictServer e.1 e.2.serial now))

/-! ## Registration -/

/-- `_unregister_server` ends a request whose envelope was queued for the server. -/
def cancelDropped (e : QueuedEnvelope) (s : RelayState) : RelayState :=
  (cancelApiV1Request env e.pair .cancelled .serverUnregistered s).2

/-- `_unregister_server` ends a request that the server had in flight. -/
def cancelInFlight (serverPublicKey ownerDigest : String) (entry : String × InFlightEntry)
    (s : RelayState) : RelayState :=
  let p : Pair := ⟨entry.2.clientPublicKey, entry.1⟩
  if entry.1 = "" ∨ hasClientResponseForRequest p s then s
  else
    (cancelApiV1Request env p .cancelled .serverUnregistered
      (addControlTombstone env serverPublicKey p .cancelled .serverUnregistered
        entry.2.requestDeadlineMonotonic (some ownerDigest) s)).2

/-- The tables without the server, before its requests are ended. -/
def removeKnownServer (serverPublicKey : String) (payload : ServerPayload) (s : RelayState) :
    RelayState :=
  { s with
    knownServers := s.knownServers.erase serverPublicKey
    orphans := s.orphans ++ [payload]
    recentlyUnregisteredServers := s.recentlyUnregisteredServers.set serverPublicKey s.monotonic
    inferenceRequests := s.inferenceRequests.erase serverPublicKey }

/-- The checks that `_unregister_server` repeats for an eviction. -/
def ServerPayload.evictionRefused (payload : ServerPayload) (evicted : Option (Nat × ℚ))
    (s : RelayState) : Bool :=
  match evicted with
  | some (serial, cutoff) => payload.serial ≠ serial || !payload.stale cutoff s
  | none => false

/-- The check that `_unregister_server` makes for a node. -/
def ServerPayload.credentialRefused (payload : ServerPayload) (ownerCredential : Option String) :
    Bool :=
  match ownerCredential with
  | some credential => !payload.controlCredentialValid env credential
  | none => false

/-- `_unregister_server`. An eviction names the payload it saw and its cutoff; a
node proves that it owns the registration. `none` is a refused credential. -/
def unregisterServer (serverPublicKey : String) (evicted : Option (Nat × ℚ))
    (ownerCredential : Option String) (s : RelayState) : Option Bool × RelayState :=
  match s.knownServers.get? serverPublicKey with
  | none => (some false, s)
  | some payload =>
    if payload.evictionRefused evicted s then (some false, s)
    else if payload.credentialRefused env ownerCredential then (none, s)
    else
      let dropped := s.queueOf serverPublicKey
      let s := removeKnownServer serverPublicKey payload s
      let s := dropped.foldl (fun s e => cancelDropped env e s) s
      let s := payload.inFlightRequests.entries.foldl
        (fun s e => cancelInFlight env serverPublicKey payload.controlCredentialDigest e s) s
      (some true, s)

/-- The region of `_evict_stale_servers` that removes one candidate. -/
def evictServer (serverPublicKey : String) (serial : Nat) (cutoff : ℚ) : Region := fun s =>
  ((unregisterServer env serverPublicKey (some (serial, cutoff)) none s).2, .proceed [])

/-- `_handle_server_unregister_request`. -/
def unregister (serverPublicKey controlCredential : String) : Region := fun s =>
  match unregisterServer env serverPublicKey none (some controlCredential) s with
  | (none, s) => (s, .answer controlCredentialRefused)
  | (some removed, s) => (s, .answer (.unregistered removed))

/-- `api_v1_relay_servers_register`. A credential that is stored is neither
disclosed nor replaced. -/
def register (serverPublicKey drawn : String) : Region := fun s =>
  if serverPublicKey = "" then (s, .answer (.error 400 "Missing server public key"))
  else
    match s.knownServers.get? serverPublicKey with
    | some payload =>
      ({ s with
          knownServers := s.knownServers.set serverPublicKey
            { payload with lastPing := s.wall, lastPingDuration := env.leaseSeconds } },
        .answer (.registered env.leaseSeconds env.pollWaitSeconds ""))
    | none =>
      ({ s with
          knownServers := s.knownServers.set serverPublicKey
            { serial := s.nextSerial
              lastPing := s.wall
              lastPingDuration := env.leaseSeconds
              controlCredentialDigest := env.controlCredentialDigest drawn
              pollingUntilMonotonic := none
              inFlightRequests := .empty }
          nextSerial := s.nextSerial + 1 },
        .answer (.registered env.leaseSeconds env.pollWaitSeconds drawn))

/-! ## Polling -/

/-- The reply of a poll that found nothing. -/
def noRequests (lastPingDuration : ℚ) : Reply :=
  .noRequests (if 0 < env.pollWaitSeconds then 0 else lastPingDuration) env.pollWaitSeconds

/-- The heartbeat of `api_v1_relay_servers_poll`. -/
def pollHeartbeat (serverPublicKey : String) : Region := fun s =>
  match s.knownServers.get? serverPublicKey with
  | none => (s, .answer serverNotFound)
  | some payload =>
    ({ s with
        knownServers := s.knownServers.set serverPublicKey
          { payload with
            lastPing := s.wall
            lastPingDuration := env.leaseSeconds
            pollingUntilMonotonic := some (s.monotonic + max env.pollWaitSeconds 0) } },
      .proceed [.pollDeadline serverPublicKey])

/-- The check at the head of the poll loop. -/
def pollCheck (serverPublicKey : String) (deadline : ℚ) : Region := fun s =>
  if serverPublicKey ∈ s.knownServers then (s, .proceed [.pollPop serverPublicKey deadline])
  else (s, .answer serverNotFound)

/-- Stores what is left of a queue. -/
def storeQueue (serverPublicKey : String) (rest : List QueuedEnvelope) (s : RelayState) :
    RelayState :=
  { s with
    inferenceRequests :=
      if rest = [] then s.inferenceRequests.erase serverPublicKey
      else s.inferenceRequests.set serverPublicKey rest }

/-- `_pop_next_api_v1_request` in the poll loop. An expired head is ended and the
loop goes on; an empty queue is waited for until the poll's own deadline. -/
def pollPop (serverPublicKey : String) (deadline : ℚ) : Region := fun s =>
  match s.queueOf serverPublicKey with
  | [] =>
    if env.pollWaitSeconds ≤ 0 ∨ deadline - s.monotonic ≤ 0 then
      (s, .proceed [.pollFinish serverPublicKey none])
    else (s, .proceed [.pollCheck serverPublicKey deadline])
  | e :: rest =>
    if e.requestDeadlineMonotonic ≤ s.monotonic then
      (storeQueue serverPublicKey rest s,
        .proceed [.cancelRequest e.pair .expired .providerTimeout,
          .pollCheck serverPublicKey deadline])
    else (storeQueue serverPublicKey rest s, .proceed [.pollFinish serverPublicKey (some e)])

/-- The region after the poll loop. -/
def pollFinish (serverPublicKey : String) (claimed : Option QueuedEnvelope) : Region := fun s =>
  match s.knownServers.get? serverPublicKey with
  | none => (s, .proceed [.pollServerMissing serverPublicKey claimed])
  | some payload =>
    match claimed with
    | none =>
      ({ s with
          knownServers := s.knownServers.set serverPublicKey
            { payload with pollingUntilMonotonic := none, lastPing := s.wall } },
        .answer (noRequests env (max payload.lastPingDuration 1)))
    | some e =>
      ({ s with
          knownServers := s.knownServers.set serverPublicKey
            { payload with pollingUntilMonotonic := none } },
        .proceed [.pollRecheck serverPublicKey e])

/-- The second reading of the request deadline. A request without an id is
dispatched without an in-flight entry. -/
def pollRecheck (serverPublicKey : String) (claimed : QueuedEnvelope) : Region := fun s =>
  let remaining := remainingSeconds claimed.requestDeadlineMonotonic s.monotonic
  if claimed.requestDeadlineMonotonic ≤ s.monotonic then
    (s, .proceed [.cancelRequest claimed.pair .expired .providerTimeout,
      .respond .noRequests])
  else if claimed.requestId = "" then (s, .answer (.dispatched claimed.toEnvelope remaining))
  else (s, .proceed [.pollInsert serverPublicKey claimed remaining])

/-- The in-flight entry of a dispatched envelope. -/
def inFlightEntryOf (claimed : QueuedEnvelope) (s : RelayState) : InFlightEntry :=
  { expiresAt := min (s.monotonic + env.inFlightTtlSeconds) claimed.requestDeadlineMonotonic
    clientPublicKey := claimed.clientPublicKey
    cancelToken := claimed.cancelToken
    requestDeadlineMonotonic := claimed.requestDeadlineMonotonic }

/-- The region that stores the in-flight entry and dispatches the envelope. -/
def pollInsert (serverPublicKey : String) (claimed : QueuedEnvelope) (remaining : ℚ) :
    Region := fun s =>
  match s.knownServers.get? serverPublicKey with
  | none => (s, .proceed [.pollServerMissing serverPublicKey (some claimed)])
  | some payload =>
    ({ s with
        knownServers := s.knownServers.set serverPublicKey
          { payload with
            inFlightRequests :=
              payload.inFlightRequests.set claimed.requestId (inFlightEntryOf env claimed s) } },
      .answer (.dispatched claimed.toEnvelope remaining))

/-- `_API_V1_UNREGISTER_TOMBSTONE_TTL_SECONDS`. -/
def unregisterTombstoneTtlSeconds : ℚ := 300

/-- `_server_not_found_response` after a claim, with the region of
`_api_v1_server_was_recently_unregistered`. -/
def pollServerMissing (serverPublicKey : String) (claimed : Option QueuedEnvelope) :
    Region := fun s =>
  match claimed with
  | none => (s, .answer serverNotFound)
  | some e =>
    let recent := s.recentlyUnregisteredServers.filter fun _ removedAt =>
      s.monotonic - removedAt ≤ unregisterTombstoneTtlSeconds
    let s := { s with recentlyUnregisteredServers := recent }
    let ended : Task :=
      if serverPublicKey ∈ recent then .cancelRequest e.pair .cancelled .serverUnregistered
      else .cancelRequest e.pair .expired .providerTimeout
    (s, .proceed [ended, .respond .serverNotFound])

/-! ## Control and progress -/

/-- The part of `api_v1_relay_servers_control` that holds the transition lock. -/
def controlOwned (serverPublicKey requestId controlCredential : String) (acknowledge : Bool)
    (now : ℚ) : Region := fun s =>
  let otherwise : Next Task Reply :=
    .proceed [.controlTombstone serverPublicKey requestId controlCredential acknowledge]
  match s.knownServers.get? serverPublicKey with
  | none => (s, otherwise)
  | some payload =>
    if !payload.controlCredentialValid env controlCredential then
      (s, .answer controlCredentialRefused)
    else
      match payload.inFlightRequests.get? requestId with
      | none => (s, otherwise)
      | some entry =>
        let remaining := remainingSeconds entry.requestDeadlineMonotonic now
        if now < entry.requestDeadlineMonotonic then
          let renewed := { entry with
            expiresAt := min (now + env.inFlightTtlSeconds) entry.requestDeadlineMonotonic }
          ({ s with
              knownServers := s.knownServers.set serverPublicKey
                { payload with
                  inFlightRequests := payload.inFlightRequests.set requestId renewed } },
            .answer (.control .active (some remaining)))
        else if entry.clientPublicKey = "" then (s, otherwise)
        else
          let p : Pair := ⟨entry.clientPublicKey, requestId⟩
          let s := (cancelApiV1Request env p .expired .providerTimeout s).2
          let (terminal, s) := getTerminalRequest p s.wall s
          let status := (terminal.map TerminalRecord.status).getD .cancelled
          (s, .answer (.control (.terminal status) (some remaining)))

/-- The tombstone region of `api_v1_relay_servers_control`. -/
def controlTombstone (serverPublicKey requestId controlCredential : String) (acknowledge : Bool) :
    Region := fun s =>
  let key := controlTombstoneKey serverPublicKey requestId
  match s.controlTombstones.get? key with
  | none => (s, .proceed [.controlLive serverPublicKey controlCredential])
  | some t =>
    if t.expiresAtMonotonic ≤ s.monotonic then
      (s, .proceed [.controlLive serverPublicKey controlCredential])
    else if controlCredential = "" ∨
        t.controlCredentialDigest ≠ some (env.controlCredentialDigest controlCredential) then
      (s, .answer controlCredentialRefused)
    else
      let reply := Reply.control (.terminal t.status)
        (some (remainingSeconds t.deadlineMonotonic s.monotonic))
      if acknowledge then
        ({ s with controlTombstones := s.controlTombstones.erase key }, .answer reply)
      else (s, .answer reply)

/-- The last region of `api_v1_relay_servers_control`. -/
def controlLive (serverPublicKey controlCredential : String) : Region := fun s =>
  match s.knownServers.get? serverPublicKey with
  | none => (s, .answer controlCredentialRefused)
  | some payload =>
    if payload.controlCredentialValid env controlCredential then
      (s, .answer (.control .completedUnavailable none))
    else (s, .answer controlCredentialRefused)

/-- The region of `api_v1_relay_progress`. -/
def progressAccept (serverPublicKey : String) (p : Pair) (controlCredential : String)
    (envelope : ProgressEnvelope) (now : ℚ) : Region := fun s =>
  match s.knownServers.get? serverPublicKey with
  | none => (s, .answer controlCredentialRefused)
  | some payload =>
    if !payload.controlCredentialValid env controlCredential then
      (s, .answer controlCredentialRefused)
    else if !payload.holds p then
      (s, .answer (.error 410 "Progress request is not active for this owner"))
    else if payload.inFlightDeadline p ≤ now then
      (s, .answer (.error 410 "Progress request has expired"))
    else ({ s with progress := s.progress.set p envelope }, .answer .progressAccepted)

/-! ## Responses -/

/-- The response releases the first in-flight entry of its request, in
registration order, and no other. -/
def releaseFirst (p : Pair) (s : RelayState) : Bool × RelayState :=
  match s.holders p with
  | [] => (false, s)
  | e :: _ => (true, { s with knownServers := s.knownServers.set e.1 (e.2.release p) })

/-- The end of the region of `api_v1_relay_responses`, once the request is known
to be neither terminal nor completed. -/
def completeRequest (e : Envelope) : Region := fun s =>
  let released := releaseFirst e.pair s
  let removed := removeRequestFromServerQueues e.pair released.2
  let cleared := clearPendingRequest e.pair removed.2
  let terminal := getTerminalRequest e.pair cleared.2.wall cleared.2
  match terminal.1 with
  | some r => (terminal.2, .answer (responseRefused r.status.text))
  | none =>
    if released.1 || removed.1 ≠ 0 || cleared.1 then
      let recorded := recordRequestTerminalOutcomeOnce env e.pair .completed terminal.2
      if recorded.1 then
        (queueClientResponse e.clientPublicKey e (clearClientProgress e.pair recorded.2),
          .answer .responseQueued)
      else
        let terminal := getTerminalRequest e.pair recorded.2.wall recorded.2
        let status := (terminal.1.map TerminalRecord.status).getD .cancelled
        (terminal.2, .answer (responseRefused status.text))
    else
      let outcome := hasRequestTerminalOutcome e.pair terminal.2
      (outcome.2, .answer (responseRefused (if outcome.1 then "completed" else "gone")))

/-- The region of `api_v1_relay_responses`. -/
def acceptResponse (e : Envelope) : Region := fun s =>
  if e.clientPublicKey = "" then (s, .answer invalidRequestData)
  else if e.requestId = "" then
    (queueClientResponse e.clientPublicKey e s, .answer .responseQueued)
  else
    let terminal := getTerminalRequest e.pair s.wall s
    match terminal.1 with
    | some r => (terminal.2, .answer (responseRefused r.status.text))
    | none =>
      if hasClientResponseForRequest e.pair terminal.2 then
        (terminal.2, .answer .responseAlreadyQueued)
      else
        let s := expirePendingRequestIfStale env e.pair terminal.2
        let terminal := getTerminalRequest e.pair s.wall s
        match terminal.1 with
        | some r => (terminal.2, .answer (responseRefused r.status.text))
        | none => completeRequest env e terminal.2

/-! ## The requester's routes -/

/-- `api_v1_relay_requests` up to its lock region. -/
def requests (serverPublicKey : String) (e : Envelope) : Region := fun s =>
  if e.clientPublicKey = "" then (s, .answer (.error 400 "Missing client public key"))
  else
    (s, .proceed [.enqueue serverPublicKey
      { e with requestDeadlineMonotonic := s.monotonic + env.requestDeadlineSeconds }])

/-- The region of `api_v1_relay_requests`. -/
def enqueue (serverPublicKey : String) (e : QueuedEnvelope) : Region := fun s =>
  if serverPublicKey ∈ s.knownServers then
    let s := markRequestPending e.pair e.cancelToken e.requestDeadlineMonotonic s
    ({ s with
        inferenceRequests :=
          s.inferenceRequests.set serverPublicKey (s.queueOf serverPublicKey ++ [e]) },
      .answer (.requestReceived (remainingSeconds e.requestDeadlineMonotonic s.monotonic)))
  else (s, .answer serverNotFound)

/-- The comparison of `api_v1_relay_requests_cancel`. -/
def checkCancelProof (p : Pair) (expected cancelToken status reason : String) :
    Next Task Reply :=
  if expected ≠ "" ∧ cancelToken = expected then
    let status := sanitizeTerminalStatus status
    .proceed [.requesterCancel p cancelToken status (sanitizeTerminalReason reason status)]
  else .answer (.error 403 "Missing or invalid cancel proof")

/-- `_get_pending_cancel_token`. -/
def pendingCancelToken (p : Pair) (s : RelayState) : String :=
  ((s.pendingRequestIds.get? p).map PendingEntry.cancelToken).getD ""

/-- The token of the first queued envelope of the request, in the order of the queues. -/
def queuedCancelToken (p : Pair) (s : RelayState) : Option String :=
  (s.inferenceRequests.values.flatten.find? fun e => e.pair = p).map fun e => e.cancelToken

/-- The token of the in-flight entry that a payload holds for the request. -/
def ServerPayload.inFlightCancelToken (payload : ServerPayload) (p : Pair) : String :=
  ((payload.inFlightRequests.get? p.requestId).map InFlightEntry.cancelToken).getD ""

/-- The token of the first in-flight entry of the request, in registration order. -/
def inFlightCancelToken (p : Pair) (s : RelayState) : Option String :=
  (s.holders p).head?.map fun e => e.2.inFlightCancelToken p

/-- The first lookup of `_cancel_token_for_queued_or_in_flight_request`. -/
def cancelPendingToken (p : Pair) (cancelToken status reason : String) : Region := fun s =>
  if p.blank then (s, .answer invalidRequestData)
  else if pendingCancelToken p s ≠ "" then
    (s, checkCancelProof p (pendingCancelToken p s) cancelToken status reason)
  else (s, .proceed [.cancelQueueToken p cancelToken status reason])

/-- The second lookup of `_cancel_token_for_queued_or_in_flight_request`. -/
def cancelQueueToken (p : Pair) (cancelToken status reason : String) : Region := fun s =>
  match queuedCancelToken p s with
  | some expected => (s, checkCancelProof p expected cancelToken status reason)
  | none => (s, .proceed [.cancelInFlightToken p cancelToken status reason])

/-- The third lookup of `_cancel_token_for_queued_or_in_flight_request`. -/
def cancelInFlightToken (p : Pair) (cancelToken status reason : String) : Region := fun s =>
  (s, checkCancelProof p ((inFlightCancelToken p s).getD "") cancelToken status reason)

/-- `api_v1_relay_requests_cancel` after the comparison. -/
def requesterCancel (p : Pair) (status : TerminalStatus) (reason : TerminalReason) :
    Region := fun s =>
  let (removed, s) := cancelApiV1Request env p status reason s
  (s, .answer (.requestCancelled status p.requestId removed))

/-- The first lookup of `api_v1_relay_responses_retrieve`. -/
def retrieveTerminal (p : Pair) (now : ℚ) : Region := fun s =>
  match getTerminalRequest p now s with
  | (some r, s) => (s, .proceed [.retrieveDropResponses p r])
  | (none, s) => (s, .proceed [.retrievePop p])

/-- `_pop_client_response` in the retrieve route. -/
def retrievePop (p : Pair) : Region := fun s =>
  match popClientResponse p s with
  | (some e, s) => (s, .answer (.response e))
  | (none, s) => (s, .proceed [.retrievePendingEntry p])

/-- What the retrieve route does about a deadline that has passed. -/
def retrieveExpire (p : Pair) : Next Task Reply :=
  .proceed [.cancelRequest p .expired .pendingRequestTtlExceeded, .retrieveRecheck p]

/-- The first lookup of `_expire_pending_request_if_stale` in the retrieve route. -/
def retrievePendingEntry (p : Pair) : Region := fun s =>
  if p.blank then (s, .proceed [.retrieveRecheck p])
  else
    match s.pendingRequestIds.get? p with
    | some entry =>
      if pendingRequestEntryIsExpired entry s then (s, retrieveExpire p)
      else (s, .proceed [.retrievePendingDeadline p])
    | none => (s, .proceed [.retrievePendingDeadline p])

/-- The second lookup of `_expire_pending_request_if_stale` in the retrieve route. -/
def retrievePendingDeadline (p : Pair) : Region := fun s =>
  if pendingDeadlinePassed p s then (s, retrieveExpire p)
  else (s, .proceed [.retrieveRecheck p])

/-- The second lookup of the terminal record. -/
def retrieveTerminalAgain (p : Pair) (now : ℚ) : Region := fun s =>
  match getTerminalRequest p now s with
  | (some r, s) => (s, .answer (terminalReported r))
  | (none, s) => (s, .proceed [.retrievePending p])

/-- The region of `api_v1_relay_responses_retrieve` that holds the transition lock. -/
def retrievePending (p : Pair) : Region := fun s =>
  match isRequestPending env p s with
  | (false, s) => (s, .proceed [.retrieveLast p])
  | (true, s) =>
    let remaining := ((s.pendingRequestDeadlines.get? p).map fun deadline =>
      remainingSeconds deadline s.monotonic).getD 0
    let (progress, s) := popClientProgress p s
    (s, .answer (.pending remaining progress))

/-- The last lookup of the terminal record. -/
def retrieveTerminalLast (p : Pair) (now : ℚ) : Region := fun s =>
  match getTerminalRequest p now s with
  | (some r, s) => (s, .answer (terminalReported r))
  | (none, s) =>
    if p.requestId ≠ "" then (s, .answer (.error 404 ("Unknown request_id: " ++ p.requestId)))
    else (s, .answer (.error 404 "No response available for the given public key"))

/-! ## The machine -/

/-- What each action does. -/
def exec : Task → Region
  | .pruneTerminalRequests => fun s =>
    (s, .proceed [.pruneTerminalRecords s.wall, .pruneTerminalOutcomes s.wall])
  | .pruneTerminalRecords now => fun s => (pruneTerminalRecords now s, .proceed [])
  | .pruneTerminalOutcomes now => fun s => (pruneTerminalOutcomes now s, .proceed [])
  | .expireStalePendingRequests => expireStalePendingRequests
  | .expirePending p => expirePending p
  | .pruneControlTombstones => fun s => (s, .proceed [.pruneControlTombstonesAt s.monotonic])
  | .pruneControlTombstonesAt now => fun s => (pruneControlTombstones now s, .proceed [])
  | .evictStaleServers => fun s => (s, .proceed [.snapshotServers s.monotonic])
  | .snapshotServers now => snapshotServers now
  | .pruneInFlight serial now => pruneInFlight serial now
  | .collectStaleServers now => collectStaleServers now
  | .evictServer key serial cutoff => evictServer env key serial cutoff
  | .cancelRequest p status reason => fun s =>
    ((cancelApiV1Request env p status reason s).2, .proceed [])
  | .register key drawn => register env key drawn
  | .unregister key credential => unregister env key credential
  | .pollHeartbeat key => pollHeartbeat env key
  | .pollDeadline key => fun s =>
    (s, .proceed [.pollCheck key (s.monotonic + env.pollWaitSeconds)])
  | .pollCheck key deadline => pollCheck key deadline
  | .pollPop key deadline => pollPop env key deadline
  | .pollFinish key claimed => pollFinish env key claimed
  | .pollRecheck key claimed => pollRecheck key claimed
  | .pollInsert key claimed remaining => pollInsert env key claimed remaining
  | .pollServerMissing key claimed => pollServerMissing key claimed
  | .control key requestId credential acknowledge => fun s =>
    if key = "" ∨ requestId = "" then (s, .answer invalidRequestData)
    else (s, .proceed [.controlOwned key requestId credential acknowledge s.monotonic])
  | .controlOwned key requestId credential acknowledge now =>
    controlOwned env key requestId credential acknowledge now
  | .controlTombstone key requestId credential acknowledge =>
    controlTombstone env key requestId credential acknowledge
  | .controlLive key credential => controlLive env key credential
  | .progress key p credential envelope => fun s =>
    (s, .proceed [.progressAccept key p credential envelope s.monotonic])
  | .progressAccept key p credential envelope now =>
    progressAccept env key p credential envelope now
  | .acceptResponse e => acceptResponse env e
  | .requests key e => requests env key e
  | .enqueue key e => enqueue key e
  | .rateLimited => fun s =>
    ({ s with outcomeIncrements := s.outcomeIncrements ++ [(none, .rateLimited)] },
      .answer .rateLimited)
  | .cancelPendingToken p token status reason => cancelPendingToken p token status reason
  | .cancelQueueToken p token status reason => cancelQueueToken p token status reason
  | .cancelInFlightToken p token status reason => cancelInFlightToken p token status reason
  | .requesterCancel p _ status reason => requesterCancel env p status reason
  | .retrieve p => fun s => (s, .proceed [.retrieveTerminal p s.wall])
  | .retrieveTerminal p now => retrieveTerminal p now
  | .retrieveDropResponses p r => fun s =>
    (removeClientResponsesForRequest p s, .answer (terminalReported r))
  | .retrievePop p => retrievePop p
  | .retrievePendingEntry p => retrievePendingEntry p
  | .retrievePendingDeadline p => retrievePendingDeadline p
  | .retrieveRecheck p => fun s => (s, .proceed [.retrieveTerminalAgain p s.wall])
  | .retrieveTerminalAgain p now => retrieveTerminalAgain p now
  | .retrievePending p => retrievePending env p
  | .retrieveLast p => fun s => (s, .proceed [.retrieveTerminalLast p s.wall])
  | .retrieveTerminalLast p now => retrieveTerminalLast p now
  | .respond .swept => fun s => (s, .answer .swept)
  | .respond .noRequests => fun s => (s, .answer (noRequests env env.leaseSeconds))
  | .respond .serverNotFound => fun s => (s, .answer serverNotFound)

/-- The regions of each route. -/
def handler : Call → List Task
  | .sweep => evictionTasks ++ [.respond .swept]
  | .register key drawn => [.register key drawn]
  | .unregister key credential => [.unregister key credential]
  | .poll key => evictionTasks ++ [.pollHeartbeat key]
  | .control key requestId credential acknowledge =>
    evictionTasks ++ [.pruneControlTombstones, .control key requestId credential acknowledge]
  | .requests key e => evictionTasks ++ [.requests key e]
  | .rateLimited => [.rateLimited]
  | .cancel p token status reason => [.cancelPendingToken p token status reason]
  | .responses e => [.acceptResponse e]
  | .progress key p credential envelope => [.progress key p credential envelope]
  | .retrieve p => [.retrieve p]

/-- The relay process. -/
def relay : RelayMachine where
  handler := handler
  exec := exec env
  environment := fun tick s =>
    { s with wall := tick.wall, monotonic := max s.monotonic tick.monotonic }

/-- A relay that has just started, with no call in progress. -/
def started (wall monotonic : ℚ) : RelaySystem := ⟨.initial wall monotonic, []⟩

/-- The states of the relay in every interleaving of its calls. -/
def Reachable (s : RelaySystem) : Prop :=
  ∃ wall monotonic evs, s = (relay env).runs evs (started wall monotonic)

end Relay
