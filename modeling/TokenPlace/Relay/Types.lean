import TokenPlace.Lib.Interleaving
import TokenPlace.Lib.OrderedDict

/-!
# The data of the live relay

The tables of `relay.py` that the API v1 routes share, the records in them, and
what the routes receive and answer.

A JSON field that is absent or falsy is the empty text. The nested dictionaries
client → request id → record are flattened to dictionaries over `Pair`, and
nothing depends on whether an inner dictionary that became empty is deleted.
Clock readings are exact rationals.
-/

namespace Relay

open Interleaving

/-! ## Requests and their terminal states -/

/-- A request as the routes address it. -/
structure Pair where
  client : String
  requestId : String
deriving DecidableEq, Repr

/-- `not client_public_key or not request_id`. -/
def Pair.blank (p : Pair) : Bool := p.client = "" || p.requestId = ""

/-- `_ALLOWED_API_V1_TERMINAL_STATUSES`. -/
inductive TerminalStatus
  | cancelled
  | expired
deriving DecidableEq, Repr

/-- `_ALLOWED_API_V1_TERMINAL_REASONS`. -/
inductive TerminalReason
  | cancelled
  | clientTimeout
  | expired
  | requesterCancelled
  | requesterGaveUp
  | providerTimeout
  | pendingRequestTtlExceeded
  | serverUnregistered
deriving DecidableEq, Repr

/-- The labels of `RELAY_REQUEST_OUTCOMES_TOTAL` that the relay routes use. -/
inductive OutcomeLabel
  | completed
  | cancelled
  | expired
  | timedOut
  | rateLimited
deriving DecidableEq, Repr

/-- `_sanitize_terminal_status`. -/
def sanitizeTerminalStatus (value : String) : TerminalStatus :=
  if value = "expired" then .expired else .cancelled

/-- The reason that repeats a status. -/
def TerminalStatus.asReason : TerminalStatus → TerminalReason
  | .cancelled => .cancelled
  | .expired => .expired

/-- `_sanitize_terminal_reason`. -/
def sanitizeTerminalReason (value : String) (status : TerminalStatus) : TerminalReason :=
  match value with
  | "cancelled" => .cancelled
  | "client_timeout" => .clientTimeout
  | "expired" => .expired
  | "requester_cancelled" => .requesterCancelled
  | "requester_gave_up" => .requesterGaveUp
  | "provider_timeout" => .providerTimeout
  | "pending_request_ttl_exceeded" => .pendingRequestTtlExceeded
  | "server_unregistered" => .serverUnregistered
  | _ => status.asReason

/-- `_terminal_outcome_from_status_reason`. -/
def terminalOutcomeFromStatusReason (status : TerminalStatus) (reason : TerminalReason) :
    OutcomeLabel :=
  if reason = .providerTimeout then .timedOut
  else
    match status with
    | .expired => .expired
    | .cancelled => .cancelled

/-! ## Records -/

/-- A ciphertext envelope as `_extract_ciphertext_envelope` returns it. -/
structure Envelope where
  clientPublicKey : String
  requestId : String
  cancelToken : String
  ciphertext : String
  cipherkey : String
  iv : String
deriving DecidableEq, Repr

/-- The request that an envelope belongs to. -/
def Envelope.pair (e : Envelope) : Pair := ⟨e.clientPublicKey, e.requestId⟩

/-- A queued envelope with `_request_deadline_monotonic`. -/
structure QueuedEnvelope extends Envelope where
  requestDeadlineMonotonic : ℚ
deriving DecidableEq, Repr

/-- An entry of `api_v1_in_flight_requests`, which is keyed by the request id. -/
structure InFlightEntry where
  expiresAt : ℚ
  clientPublicKey : String
  cancelToken : String
  requestDeadlineMonotonic : ℚ
deriving DecidableEq, Repr

/-- A value of `known_servers`. `serial` stands for the identity of the Python
object, which `id(payload)` reads. -/
structure ServerPayload where
  serial : Nat
  lastPing : ℚ
  lastPingDuration : ℚ
  controlCredentialDigest : String
  pollingUntilMonotonic : Option ℚ
  inFlightRequests : OrderedDict String InFlightEntry

/-- An entry of `client_pending_request_ids`. The requests route, its only
writer, always gives it a deadline, so `queued_at` is never read. -/
structure PendingEntry where
  requestDeadlineMonotonic : ℚ
  cancelToken : String
deriving DecidableEq, Repr

/-- An entry of `client_terminal_request_ids`. -/
structure TerminalRecord where
  status : TerminalStatus
  reason : TerminalReason
  expiresAt : ℚ
deriving DecidableEq, Repr

/-- An entry of `api_v1_control_tombstones`. -/
structure ControlTombstone where
  serverPublicKey : String
  requestId : String
  clientPublicKey : String
  status : TerminalStatus
  reason : TerminalReason
  deadlineMonotonic : ℚ
  controlCredentialDigest : Option String
  expiresAtMonotonic : ℚ
deriving DecidableEq, Repr

/-- The request that a tombstone belongs to. -/
def ControlTombstone.pair (t : ControlTombstone) : Pair := ⟨t.clientPublicKey, t.requestId⟩

/-- A value of `client_responses`: one envelope, or a list of them. -/
inductive Mailbox
  | single (response : Envelope)
  | many (responses : List Envelope)
deriving DecidableEq, Repr

/-- The encrypted part of a progress update. -/
structure ProgressEnvelope where
  ciphertext : String
  cipherkey : String
  iv : String
deriving DecidableEq, Repr

/-! ## The shared state -/

/-- The settings of the relay, and the digest of a control credential. -/
structure RelayEnv where
  terminalRequestTtlSeconds : ℚ
  pollWaitSeconds : ℚ
  leaseSeconds : ℚ
  inFlightTtlSeconds : ℚ
  requestDeadlineSeconds : ℚ
  controlTombstoneTtlSeconds : ℚ
  controlCredentialDigest : String → String

/-- The tables of the relay process with its two clocks. `orphans` are the
payloads that were removed from `known_servers`: a sweep that took its snapshot
before still reads them. `outcomeIncrements` lists the increments of
`RELAY_REQUEST_OUTCOMES_TOTAL` with the request that each was made for. -/
structure RelayState where
  wall : ℚ
  monotonic : ℚ
  knownServers : OrderedDict String ServerPayload
  orphans : List ServerPayload
  nextSerial : Nat
  inferenceRequests : OrderedDict String (List QueuedEnvelope)
  responses : OrderedDict String Mailbox
  progress : OrderedDict Pair ProgressEnvelope
  pendingRequestIds : OrderedDict Pair PendingEntry
  pendingRequestDeadlines : OrderedDict Pair ℚ
  terminalRequestIds : OrderedDict Pair TerminalRecord
  terminalOutcomes : OrderedDict Pair ℚ
  outcomeIncrements : List (Option Pair × OutcomeLabel)
  controlTombstones : OrderedDict String ControlTombstone
  recentlyUnregisteredServers : OrderedDict String ℚ

/-- The tables of a relay that has just started. -/
def RelayState.initial (wall monotonic : ℚ) : RelayState :=
  { wall, monotonic
    knownServers := .empty
    orphans := []
    nextSerial := 0
    inferenceRequests := .empty
    responses := .empty
    progress := .empty
    pendingRequestIds := .empty
    pendingRequestDeadlines := .empty
    terminalRequestIds := .empty
    terminalOutcomes := .empty
    outcomeIncrements := []
    controlTombstones := .empty
    recentlyUnregisteredServers := .empty }

/-! ## Calls, replies and actions -/

/-- What a request for the status of in-flight work is told. -/
inductive ControlStatus
  | active
  | terminal (status : TerminalStatus)
  | completedUnavailable
deriving DecidableEq, Repr

/-- The body of a reply. -/
inductive Reply
  | swept
  | registered (leaseSeconds pollWaitSeconds : ℚ) (controlCredential : String)
  | unregistered (removed : Bool)
  | noRequests (nextPing pollWaitSeconds : ℚ)
  | dispatched (envelope : Envelope) (remaining : ℚ)
  | control (status : ControlStatus) (remaining : Option ℚ)
  | requestReceived (remaining : ℚ)
  | requestCancelled (status : TerminalStatus) (requestId : String) (removedFromQueue : Nat)
  | responseQueued
  | responseAlreadyQueued
  | progressAccepted
  | response (envelope : Envelope)
  | pending (remaining : ℚ) (progress : Option ProgressEnvelope)
  | gone (message : String) (status : String) (reason : Option TerminalReason)
  | rateLimited
  | error (code : Nat) (message : String)
deriving DecidableEq

/-- The HTTP status of a reply. -/
def Reply.code : Reply → Nat
  | .progressAccepted | .pending .. => 202
  | .gone .. => 410
  | .rateLimited => 429
  | .error code _ => code
  | _ => 200

/-- A call of a route, with the fields of its body that the route reads and, for
`register`, the credential that it draws. `sweep` is any other route that evicts
stale servers; `rateLimited` is a call of the requests route over its limit. -/
inductive Call
  | sweep
  | register (serverPublicKey drawn : String)
  | unregister (serverPublicKey controlCredential : String)
  | poll (serverPublicKey : String)
  | control (serverPublicKey requestId controlCredential : String) (acknowledge : Bool)
  | requests (serverPublicKey : String) (envelope : Envelope)
  | rateLimited
  | cancel (pair : Pair) (cancelToken status reason : String)
  | responses (envelope : Envelope)
  | progress (serverPublicKey : String) (pair : Pair) (controlCredential : String)
      (envelope : ProgressEnvelope)
  | retrieve (pair : Pair)

/-- The replies that a route sends after it has ended a request or swept. -/
inductive Parting
  | swept
  | noRequests
  | serverNotFound
deriving DecidableEq

/-- The atomic actions of the routes: one for each outermost lock region, and one
for each reading of a clock outside of every lock. An action carries the local
variables that it reads. -/
inductive Task
  -- `_evict_stale_servers`
  | pruneTerminalRequests
  | pruneTerminalRecords (now : ℚ)
  | pruneTerminalOutcomes (now : ℚ)
  | expireStalePendingRequests
  | expirePending (pair : Pair)
  | pruneControlTombstones
  | pruneControlTombstonesAt (now : ℚ)
  | evictStaleServers
  | snapshotServers (now : ℚ)
  | pruneInFlight (serial : Nat) (now : ℚ)
  | collectStaleServers (now : ℚ)
  | evictServer (serverPublicKey : String) (serial : Nat) (cutoff : ℚ)
  -- `_cancel_api_v1_request` outside of a longer region
  | cancelRequest (pair : Pair) (status : TerminalStatus) (reason : TerminalReason)
  -- the node routes
  | register (serverPublicKey drawn : String)
  | unregister (serverPublicKey controlCredential : String)
  | pollHeartbeat (serverPublicKey : String)
  | pollDeadline (serverPublicKey : String)
  | pollCheck (serverPublicKey : String) (deadline : ℚ)
  | pollPop (serverPublicKey : String) (deadline : ℚ)
  | pollFinish (serverPublicKey : String) (claimed : Option QueuedEnvelope)
  | pollRecheck (serverPublicKey : String) (claimed : QueuedEnvelope)
  | pollInsert (serverPublicKey : String) (claimed : QueuedEnvelope) (remaining : ℚ)
  | pollServerMissing (serverPublicKey : String) (claimed : Option QueuedEnvelope)
  | control (serverPublicKey requestId controlCredential : String) (acknowledge : Bool)
  | controlOwned (serverPublicKey requestId controlCredential : String) (acknowledge : Bool)
      (now : ℚ)
  | controlTombstone (serverPublicKey requestId controlCredential : String) (acknowledge : Bool)
  | controlLive (serverPublicKey controlCredential : String)
  | progress (serverPublicKey : String) (pair : Pair) (controlCredential : String)
      (envelope : ProgressEnvelope)
  | progressAccept (serverPublicKey : String) (pair : Pair) (controlCredential : String)
      (envelope : ProgressEnvelope) (now : ℚ)
  | acceptResponse (envelope : Envelope)
  -- the requester's routes
  | requests (serverPublicKey : String) (envelope : Envelope)
  | enqueue (serverPublicKey : String) (envelope : QueuedEnvelope)
  | rateLimited
  | cancelPendingToken (pair : Pair) (cancelToken status reason : String)
  | cancelQueueToken (pair : Pair) (cancelToken status reason : String)
  | cancelInFlightToken (pair : Pair) (cancelToken status reason : String)
  | requesterCancel (pair : Pair) (cancelToken : String) (status : TerminalStatus)
      (reason : TerminalReason)
  | retrieve (pair : Pair)
  | retrieveTerminal (pair : Pair) (now : ℚ)
  | retrieveDropResponses (pair : Pair) (terminal : TerminalRecord)
  | retrievePop (pair : Pair)
  | retrievePendingEntry (pair : Pair)
  | retrievePendingDeadline (pair : Pair)
  | retrieveRecheck (pair : Pair)
  | retrieveTerminalAgain (pair : Pair) (now : ℚ)
  | retrievePending (pair : Pair)
  | retrieveLast (pair : Pair)
  | retrieveTerminalLast (pair : Pair) (now : ℚ)
  | respond (parting : Parting)
deriving DecidableEq

/-- The clocks move between two actions: the wall clock to any reading, the
monotonic clock never back. -/
structure Tick where
  wall : ℚ
  monotonic : ℚ

/-- The relay is a machine of these calls, actions and ticks. -/
abbrev RelayMachine := Machine RelayState Call Task Tick Reply

/-- The relay tables with the calls in progress. -/
abbrev RelaySystem := System RelayState Task

/-- An event of a schedule of the relay. -/
abbrev RelayEvent := Event Call Tick

end Relay
