import TokenPlace.Relay.Types

/-!
# The lifecycle of a request

The functions of `relay.py` that read and write the tables of requests: the
response mailboxes, the pending markers, the server queues, the in-flight
entries, the terminal records with their outcomes, and the control tombstones.
`cancelApiV1Request` combines them into the terminal transition.

Each function is what the source does while it holds the locks of the tables it
uses; `Routes` says which calls run inside one lock region.
-/

namespace Relay

variable (env : RelayEnv)

/-! ## Response mailboxes -/

/-- The envelopes of a mailbox, oldest first. -/
def Mailbox.toList : Mailbox → List Envelope
  | .single e => [e]
  | .many l => l

/-- The responses that are queued for a client. -/
def RelayState.responsesOf (s : RelayState) (client : String) : List Envelope :=
  ((s.responses.get? client).map Mailbox.toList).getD []

/-- Writes back the envelopes that stay in a mailbox. -/
def storeMailbox (client : String) (kept : List Envelope) (s : RelayState) : RelayState :=
  match kept with
  | [] => { s with responses := s.responses.erase client }
  | [e] => { s with responses := s.responses.set client (.single e) }
  | l => { s with responses := s.responses.set client (.many l) }

/-- `_queue_client_response`. -/
def queueClientResponse (client : String) (e : Envelope) (s : RelayState) : RelayState :=
  match s.responses.get? client with
  | none => { s with responses := s.responses.set client (.single e) }
  | some (.many l) => { s with responses := s.responses.set client (.many (l ++ [e])) }
  | some (.single first) => { s with responses := s.responses.set client (.many [first, e]) }

/-- `_has_client_response_for_request`. -/
def hasClientResponseForRequest (p : Pair) (s : RelayState) : Bool :=
  !p.blank &&
    match s.responses.get? p.client with
    | some (.many l) => l.any fun e => e.requestId = p.requestId
    | some (.single e) => e.requestId = p.requestId
    | none => false

/-- `_remove_client_responses_for_request`. -/
def removeClientResponsesForRequest (p : Pair) (s : RelayState) : RelayState :=
  if p.blank then s
  else
    match s.responses.get? p.client with
    | none => s
    | some (.many l) => storeMailbox p.client (l.filter fun e => e.requestId ≠ p.requestId) s
    | some (.single e) =>
      if e.requestId = p.requestId then { s with responses := s.responses.erase p.client } else s

/-! ## Pending markers -/

/-- `_mark_request_pending`. -/
def markRequestPending (p : Pair) (cancelToken : String) (deadline : ℚ) (s : RelayState) :
    RelayState :=
  if p.blank then s
  else
    { s with
      pendingRequestIds := s.pendingRequestIds.set p ⟨deadline, cancelToken⟩
      pendingRequestDeadlines := s.pendingRequestDeadlines.set p deadline }

/-- `_clear_pending_request`: whether there was a marker, and the state without it. -/
def clearPendingRequest (p : Pair) (s : RelayState) : Bool × RelayState :=
  if p.blank then (false, s)
  else
    (decide (p ∈ s.pendingRequestIds),
      { s with
        pendingRequestIds := s.pendingRequestIds.erase p
        pendingRequestDeadlines := s.pendingRequestDeadlines.erase p })

/-- `_pending_request_entry_is_expired`. -/
def pendingRequestEntryIsExpired (entry : PendingEntry) (s : RelayState) : Bool :=
  entry.requestDeadlineMonotonic ≤ s.monotonic

/-- The deadline of `_pending_request_deadline` has passed. -/
def pendingDeadlinePassed (p : Pair) (s : RelayState) : Bool :=
  match s.pendingRequestDeadlines.get? p with
  | some deadline => deadline ≤ s.monotonic
  | none => false

/-- `_pop_client_response`. A request id that is absent takes the oldest response. -/
def popClientResponse (p : Pair) (s : RelayState) : Option Envelope × RelayState :=
  match s.responses.get? p.client with
  | none => (none, s)
  | some (.many l) =>
    match l.find? fun e => p.requestId = "" || e.requestId = p.requestId with
    | none => (none, s)
    | some e =>
      let kept := l.eraseP fun e => p.requestId = "" || e.requestId = p.requestId
      (some e, (clearPendingRequest ⟨p.client, e.requestId⟩ (storeMailbox p.client kept s)).2)
  | some (.single e) =>
    if p.requestId ≠ "" ∧ e.requestId ≠ p.requestId then (none, s)
    else
      (some e, (clearPendingRequest ⟨p.client, e.requestId⟩
        { s with responses := s.responses.erase p.client }).2)

/-! ## Progress -/

/-- `_clear_client_progress`. -/
def clearClientProgress (p : Pair) (s : RelayState) : RelayState :=
  if p.blank then s else { s with progress := s.progress.erase p }

/-- `_pop_client_progress`. -/
def popClientProgress (p : Pair) (s : RelayState) : Option ProgressEnvelope × RelayState :=
  if p.blank then (none, s) else (s.progress.get? p, { s with progress := s.progress.erase p })

/-! ## Terminal records and outcomes -/

/-- The first region of `_prune_terminal_requests`. -/
def pruneTerminalRecords (now : ℚ) (s : RelayState) : RelayState :=
  { s with terminalRequestIds := s.terminalRequestIds.filter fun _ r => now < r.expiresAt }

/-- The second region of `_prune_terminal_requests`. -/
def pruneTerminalOutcomes (now : ℚ) (s : RelayState) : RelayState :=
  { s with terminalOutcomes := s.terminalOutcomes.filter fun _ expiresAt => now < expiresAt }

/-- `_get_terminal_request`. A record that has expired is deleted. -/
def getTerminalRequest (p : Pair) (now : ℚ) (s : RelayState) :
    Option TerminalRecord × RelayState :=
  if p.blank then (none, s)
  else
    match s.terminalRequestIds.get? p with
    | none => (none, s)
    | some r =>
      if r.expiresAt ≤ now then
        (none, { s with terminalRequestIds := s.terminalRequestIds.erase p })
      else (some r, s)

/-- When a record that is written now expires. -/
def RelayEnv.retainedUntil (now : ℚ) : ℚ := now + max env.terminalRequestTtlSeconds 1

/-- `_record_request_terminal_outcome_once`: the first outcome of a request is
kept and counted. -/
def recordRequestTerminalOutcomeOnce (p : Pair) (outcome : OutcomeLabel) (s : RelayState) :
    Bool × RelayState :=
  if p.blank then (false, s)
  else if p ∈ s.terminalOutcomes then (false, s)
  else
    (true,
      { s with
        terminalOutcomes := s.terminalOutcomes.set p (env.retainedUntil s.wall)
        outcomeIncrements := s.outcomeIncrements ++ [(some p, outcome)] })

/-- `_has_request_terminal_outcome`. An outcome that has expired is deleted. -/
def hasRequestTerminalOutcome (p : Pair) (s : RelayState) : Bool × RelayState :=
  if p.blank then (false, s)
  else
    match s.terminalOutcomes.get? p with
    | none => (false, s)
    | some expiresAt =>
      if s.wall < expiresAt then (true, s)
      else (false, { s with terminalOutcomes := s.terminalOutcomes.erase p })

/-- `_mark_request_terminal`. -/
def markRequestTerminal (p : Pair) (status : TerminalStatus) (reason : TerminalReason)
    (s : RelayState) : RelayState :=
  if p.blank then s
  else
    let s := pruneTerminalOutcomes s.wall (pruneTerminalRecords s.wall s)
    if p ∈ s.terminalRequestIds then s
    else
      (recordRequestTerminalOutcomeOnce env p (terminalOutcomeFromStatusReason status reason)
        { s with
          terminalRequestIds :=
            s.terminalRequestIds.set p ⟨status, reason, env.retainedUntil s.wall⟩ }).2

/-! ## Control tombstones -/

/-- `_control_tombstone_key`. -/
def controlTombstoneKey (serverPublicKey requestId : String) : String :=
  serverPublicKey ++ "\x00" ++ requestId

/-- `_prune_api_v1_control_tombstones`. -/
def pruneControlTombstones (now : ℚ) (s : RelayState) : RelayState :=
  { s with controlTombstones := s.controlTombstones.filter fun _ t => now < t.expiresAtMonotonic }

/-- `_add_api_v1_control_tombstone`. -/
def addControlTombstone (serverPublicKey : String) (p : Pair) (status : TerminalStatus)
    (reason : TerminalReason) (deadline : ℚ) (ownerDigest : Option String) (s : RelayState) :
    RelayState :=
  if serverPublicKey = "" ∨ p.requestId = "" then s
  else
    let digest := ownerDigest.or
      ((s.knownServers.get? serverPublicKey).map ServerPayload.controlCredentialDigest)
    let s := pruneControlTombstones s.monotonic s
    { s with
      controlTombstones := s.controlTombstones.set (controlTombstoneKey serverPublicKey p.requestId)
        { serverPublicKey
          requestId := p.requestId
          clientPublicKey := p.client
          status, reason
          deadlineMonotonic := deadline
          controlCredentialDigest := digest
          expiresAtMonotonic := s.monotonic + env.controlTombstoneTtlSeconds } }

/-! ## Queues and in-flight entries -/

/-- The envelopes that wait for a server. -/
def RelayState.queueOf (s : RelayState) (serverPublicKey : String) : List QueuedEnvelope :=
  (s.inferenceRequests.get? serverPublicKey).getD []

/-- `_remove_request_from_server_queues`: how many envelopes were removed, and
the state without them. -/
def removeRequestFromServerQueues (p : Pair) (s : RelayState) : Nat × RelayState :=
  ((s.inferenceRequests.values.map (List.countP fun e => e.pair = p)).sum,
    { s with
      inferenceRequests := (s.inferenceRequests.mapValues fun _ queue =>
        queue.filter fun e => e.pair ≠ p).filter fun _ queue => queue ≠ [] })

/-- `_in_flight_entry_matches_client` for the entry of the request id. -/
def ServerPayload.holds (payload : ServerPayload) (p : Pair) : Bool :=
  match payload.inFlightRequests.get? p.requestId with
  | some entry => entry.clientPublicKey = p.client
  | none => false

/-- The payload without the in-flight entry of the request. -/
def ServerPayload.release (payload : ServerPayload) (p : Pair) : ServerPayload :=
  if payload.holds p then
    { payload with inFlightRequests := payload.inFlightRequests.erase p.requestId }
  else payload

/-- `_api_v1_active_in_flight_count`. -/
def ServerPayload.activeInFlightCount (payload : ServerPayload) (now : ℚ) : Nat :=
  payload.inFlightRequests.count fun _ entry => now < entry.expiresAt

/-- `_api_v1_server_control_credential_valid`. -/
def ServerPayload.controlCredentialValid (payload : ServerPayload) (credential : String) : Bool :=
  credential ≠ "" && payload.controlCredentialDigest ≠ "" &&
    env.controlCredentialDigest credential = payload.controlCredentialDigest

/-- The servers that have the request in flight, in registration order. -/
def RelayState.holders (s : RelayState) (p : Pair) : List (String × ServerPayload) :=
  s.knownServers.entries.filter fun e => e.2.holds p

/-- The deadline of the in-flight entry that the payload holds for the request. -/
def ServerPayload.inFlightDeadline (payload : ServerPayload) (p : Pair) : ℚ :=
  ((payload.inFlightRequests.get? p.requestId).map
    InFlightEntry.requestDeadlineMonotonic).getD 0

/-! ## The terminal transition -/

/-- `_cancel_api_v1_request`: how many queued envelopes were removed, and the
state. The loop over the servers writes the in-flight tables and the tombstones;
as these are different tables, the entries are released in one pass and the
tombstones written in another. -/
def cancelApiV1Request (p : Pair) (status : TerminalStatus) (reason : TerminalReason)
    (s : RelayState) : Nat × RelayState :=
  if p.blank then (0, s)
  else
    let s := clearClientProgress p s
    let completedWon := hasClientResponseForRequest p s
    let (removed, s) := removeRequestFromServerQueues p s
    let (pendingRemoved, s) := clearPendingRequest p s
    let holders := s.holders p
    let s := { s with
      knownServers := s.knownServers.mapValues fun _ payload => payload.release p }
    let s :=
      if completedWon then s
      else
        holders.foldl (fun s e =>
          addControlTombstone env e.1 p status reason (e.2.inFlightDeadline p) none s) s
    (removed,
      if (removed ≠ 0 ∨ pendingRemoved ∨ holders ≠ []) ∧ ¬ completedWon then
        markRequestTerminal env p status reason s
      else s)

/-- `_expire_pending_request_if_stale` finds the deadline passed. -/
def pendingStale (p : Pair) (s : RelayState) : Bool :=
  !p.blank &&
    ((match s.pendingRequestIds.get? p with
      | some entry => pendingRequestEntryIsExpired entry s
      | none => false) || pendingDeadlinePassed p s)

/-- `_expire_pending_request_if_stale` inside a longer lock region. -/
def expirePendingRequestIfStale (p : Pair) (s : RelayState) : RelayState :=
  if pendingStale p s then
    (cancelApiV1Request env p .expired .pendingRequestTtlExceeded s).2
  else s

/-- `_is_request_pending` inside a longer lock region. -/
def isRequestPending (p : Pair) (s : RelayState) : Bool × RelayState :=
  if p.blank then (false, s)
  else
    match s.pendingRequestIds.get? p with
    | none => (false, s)
    | some entry =>
      if pendingRequestEntryIsExpired entry s || pendingDeadlinePassed p s then
        (false, expirePendingRequestIfStale env p s)
      else (true, s)

end Relay
