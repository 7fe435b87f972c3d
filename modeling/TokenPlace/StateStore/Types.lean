import TokenPlace.Lib.OrderedDict
import TokenPlace.Lib.Method

/-!
# The data of the relay state store

The records of `relay_state_store.py`, its configuration with the checks of
`__post_init__`, and its exceptions.

Epoch times are exact rationals. A Python float that is `inf` or `nan` is only
ever seen by `math.isfinite`, so it is represented by a rational beyond the
range of finite doubles; sums are not rounded.
-/

namespace StateStore

/-! ## Exceptions -/

/-- The exception classes that a store method can raise. `lookupError` is
Python's common base of `KeyError` and `IndexError`: it is not a
`RelayStateStoreError`. -/
inductive ErrorKind
  | storeError
  | capacityExceeded
  | credentialMismatch
  | conflict
  | noCapacity
  | invalidReservation
  | lookupError
deriving DecidableEq, Repr

/-- An exception with its message. -/
structure StoreError where
  kind : ErrorKind
  message : String
deriving DecidableEq, Repr

namespace StoreError

/-- The exception is a `RelayStateStoreError` or one of its subclasses. -/
def isRelayStateStoreError (e : StoreError) : Prop := e.kind ≠ .lookupError

instance (e : StoreError) : Decidable e.isRelayStateStoreError :=
  inferInstanceAs (Decidable (e.kind ≠ .lookupError))

end StoreError

def storeError (m : String) : StoreError := ⟨.storeError, m⟩
def capacityExceeded (m : String) : StoreError := ⟨.capacityExceeded, m⟩
def credentialMismatch (m : String) : StoreError := ⟨.credentialMismatch, m⟩
def conflict (m : String) : StoreError := ⟨.conflict, m⟩
def noCapacity : StoreError := ⟨.noCapacity, "no scheduler capacity"⟩
def invalidReservation (m : String) : StoreError := ⟨.invalidReservation, m⟩
def lookupError (m : String) : StoreError := ⟨.lookupError, m⟩

/-! ## Numbers and texts -/

/-- Seconds since the epoch, or a duration in seconds. -/
abbrev Epoch := ℚ

/-- The greatest finite double. -/
@[irreducible] def greatestDouble : Nat := 2 ^ 1024 - 2 ^ 971

/-- The least value that rounds to infinity. -/
@[irreducible] def overflowThreshold : Nat := 2 ^ 1024 - 2 ^ 970

/-- `math.isfinite` of a value that is a float. -/
def isfinite (x : Epoch) : Prop := |x| ≤ (greatestDouble : Epoch)

instance (x : Epoch) : Decidable (isfinite x) :=
  inferInstanceAs (Decidable (|x| ≤ (greatestDouble : Epoch)))

/-- `math.isfinite` of a sum of floats. -/
def isfiniteSum (x : Epoch) : Prop := |x| < (overflowThreshold : Epoch)

instance (x : Epoch) : Decidable (isfiniteSum x) :=
  inferInstanceAs (Decidable (|x| < (overflowThreshold : Epoch)))

/-- `str.encode("utf-8")`. -/
def utf8 (s : String) : List UInt8 := s.toUTF8.data.toList

theorem utf8_injective : Function.Injective utf8 := by
  intro a b h
  exact String.toByteArray_inj.mp (ByteArray.ext (Array.toList_inj.mp h))

theorem utf8_append (a b : String) : utf8 (a ++ b) = utf8 a ++ utf8 b := by
  unfold utf8
  simp

/-- The byte is `0`-`9` or `a`-`f`. -/
def isHexDigit (b : UInt8) : Bool :=
  (48 ≤ b.toNat && b.toNat ≤ 57) || (97 ≤ b.toNat && b.toNat ≤ 102)

/-- `_SHA256_RE.fullmatch`: 64 lowercase hexadecimal digits. -/
def isSha256Hex (s : String) : Bool := (utf8 s).length == 64 && (utf8 s).all isHexDigit

/-- Raises `e` unless `c` holds. -/
def require (c : Prop) [Decidable c] (e : StoreError) : Except StoreError Unit :=
  if c then .ok () else .error e

theorem require_bind_ok {α : Type} {c : Prop} [Decidable c] {e : StoreError}
    {k : Except StoreError α} {a : α} :
    (require c e >>= fun _ => k) = .ok a ↔ c ∧ k = .ok a := by
  unfold require
  by_cases h : c <;> simp [h, bind, Except.bind]

/-! ## Configuration -/

/-- `RelayStateStoreConfig`, before its checks. -/
structure RelayStateStoreConfig where
  namespace_ : String
  schemaVersion : Nat := 1
  leaseTtlSeconds : Epoch := 30
  maxComputeNodes : Nat := 1024
  maxNodeIdBytes : Nat := 8192
  reservationTtlSeconds : Epoch := 15
  maxRequestTtlSeconds : Epoch := 3600
  maxReservations : Nat := 4096
  maxReservationsPerClient : Nat := 8
  maxReservationsPerNode : Nat := 128
  maxQueueDepthPerNode : Nat := 128
  maxRequestLifecycles : Nat := 4096
  maxQueuedRequests : Nat := 4096
  maxQueuedRequestsPerClient : Nat := 8
  maxIdentityBytes : Nat := 8192
  maxModelIdBytes : Nat := 128
  maxSchedulerFingerprints : Nat := 4096
  maxEnvelopeBytes : Nat := 1048576
  claimTtlSeconds : Epoch := 30
  maxClaims : Nat := 4096
  maxClaimsPerNode : Nat := 128
  maxConsumerIdentityBytes : Nat := 1024
  maxResponseEnvelopeBytes : Nat := 1048576
  maxResponses : Nat := 4096
  maxResponsesPerClient : Nat := 8
  responseReplayTtlSeconds : Epoch := 300
  maxTerminalRecords : Nat := 4096
  maxTerminalRecordsPerClient : Nat := 8
  terminalRetentionSeconds : Epoch := 3600
  maxCancellationTokenBytes : Nat := 1024
  controlTombstoneTtlSeconds : Epoch := 300
  maxControlTombstones : Nat := 4096
  maxControlTombstonesPerNode : Nat := 128
  nodeTransitionBatchSize : Nat := 64
  maxPendingNodeTransitions : Nat := 1024
  maxNodeTombstones : Nat := 1024
  nodeTombstoneTtlSeconds : Epoch := 300
  maxRemovedOwnerFences : Nat := 4096

namespace RelayStateStoreConfig

/-- `_NAMESPACE_RE.fullmatch`. -/
def isNamespace (s : String) : Bool :=
  let alnum := fun c : Char => ('a' ≤ c && c ≤ 'z') || ('0' ≤ c && c ≤ '9')
  match s.toList with
  | [] => false
  | c :: cs => alnum c && cs.length ≤ 127 &&
      cs.all fun c => alnum c || c == '.' || c == '_' || c == '-'

/-- `_validate_int_bound`. -/
def validateIntBound (value : Nat) (name : String) (maximum : Nat) : Except StoreError Unit :=
  require (1 ≤ value ∧ value ≤ maximum)
    (storeError (name ++ " must be an integer between 1 and " ++ toString maximum))

/-- `_validate_float_bound`. The texts are those of the two bounds. -/
def validateFloatBound (value : Epoch) (name : String) (minimum maximum : Epoch)
    (minText maxText : String) : Except StoreError Unit :=
  require (isfinite value ∧ minimum ≤ value ∧ value ≤ maximum)
    (storeError (name ++ " must be finite and between " ++ minText ++ " and " ++ maxText))

/-- The integer bounds that `__post_init__` checks in its loop. -/
def intBounds (c : RelayStateStoreConfig) : List (Nat × String × Nat) :=
  [(c.maxReservations, "reservation bound", 1000000),
   (c.maxReservationsPerClient, "per-client reservation bound", 10000),
   (c.maxReservationsPerNode, "per-node reservation bound", 10000),
   (c.maxQueueDepthPerNode, "per-node queue bound", 1000000),
   (c.maxRequestLifecycles, "request lifecycle bound", 1000000),
   (c.maxQueuedRequests, "global queue bound", 1000000),
   (c.maxQueuedRequestsPerClient, "per-client queued-work bound", 10000),
   (c.maxIdentityBytes, "identity byte bound", 65536),
   (c.maxModelIdBytes, "model-id byte bound", 1024),
   (c.maxSchedulerFingerprints, "scheduler fingerprint bound", 1000000),
   (c.maxEnvelopeBytes, "encrypted-envelope byte bound", 64 * 1024 * 1024),
   (c.maxClaims, "claim bound", 1000000),
   (c.maxClaimsPerNode, "per-node claim bound", 10000),
   (c.maxConsumerIdentityBytes, "consumer identity byte bound", 65536),
   (c.maxResponseEnvelopeBytes, "response encrypted-envelope byte bound", 64 * 1024 * 1024),
   (c.maxResponses, "response bound", 1000000),
   (c.maxResponsesPerClient, "per-client response bound", 10000),
   (c.maxTerminalRecords, "terminal-record bound", 1000000),
   (c.maxCancellationTokenBytes, "cancellation-token byte bound", 65536),
   (c.maxControlTombstones, "control-tombstone bound", 1000000),
   (c.nodeTransitionBatchSize, "node-transition batch bound", 10000),
   (c.maxPendingNodeTransitions, "pending node-transition bound", 1000000),
   (c.maxNodeTombstones, "node-tombstone bound", 1000000),
   (c.maxRemovedOwnerFences, "removed-owner fence bound", 1000000),
   (c.maxControlTombstonesPerNode, "per-node control-tombstone bound", 10000),
   (c.maxTerminalRecordsPerClient, "per-client terminal-record bound", 10000)]

/-- The loop over `intBounds`. -/
def validateIntBounds : List (Nat × String × Nat) → Except StoreError Unit
  | [] => .ok ()
  | (value, name, maximum) :: rest => do
    validateIntBound value name maximum
    validateIntBounds rest

/-- `__post_init__`. -/
def postInit (c : RelayStateStoreConfig) : Except StoreError Unit := do
  require (isNamespace c.namespace_)
    (storeError "namespace must be 1-128 lowercase routing-safe characters")
  require (c.schemaVersion = 1) (storeError "unsupported relay state schema version")
  require (isfinite c.leaseTtlSeconds ∧ 0 < c.leaseTtlSeconds)
    (storeError "lease TTL must be a finite positive number")
  require (1 ≤ c.maxComputeNodes ∧ c.maxComputeNodes ≤ 1000000)
    (storeError "compute-node bound must be between 1 and 1,000,000")
  require (1 ≤ c.maxNodeIdBytes ∧ c.maxNodeIdBytes ≤ 65536)
    (storeError "node-id bound must be between 1 and 65,536 bytes")
  validateFloatBound c.reservationTtlSeconds "reservation TTL" (1 / 1000) 300 "0.001" "300.0"
  validateFloatBound c.maxRequestTtlSeconds "request TTL" (1 / 1000) 86400 "0.001" "86400.0"
  validateFloatBound c.claimTtlSeconds "claim TTL" (1 / 1000) 3600 "0.001" "3600.0"
  validateFloatBound c.responseReplayTtlSeconds "response replay TTL" (1 / 1000) 86400
    "0.001" "86400.0"
  validateFloatBound c.terminalRetentionSeconds "terminal retention" (1 / 1000) 604800
    "0.001" "604800.0"
  validateFloatBound c.controlTombstoneTtlSeconds "control tombstone TTL" (1 / 1000) 300
    "0.001" "300.0"
  validateFloatBound c.nodeTombstoneTtlSeconds "node tombstone TTL" (1 / 1000) 300
    "0.001" "300.0"
  require (¬c.terminalRetentionSeconds < c.responseReplayTtlSeconds)
    (storeError "terminal retention must cover response replay retention")
  require (¬c.terminalRetentionSeconds < c.controlTombstoneTtlSeconds)
    (storeError "terminal retention must cover control tombstone TTL")
  validateIntBounds c.intBounds

/-- The bounds on durations that the methods rely on. -/
structure Durations (c : RelayStateStoreConfig) : Prop where
  claim : 1 / 1000 ≤ c.claimTtlSeconds ∧ c.claimTtlSeconds ≤ 3600
  reservation : 1 / 1000 ≤ c.reservationTtlSeconds ∧ c.reservationTtlSeconds ≤ 300
  replay : 1 / 1000 ≤ c.responseReplayTtlSeconds ∧ c.responseReplayTtlSeconds ≤ 86400
  retention : 1 / 1000 ≤ c.terminalRetentionSeconds ∧ c.terminalRetentionSeconds ≤ 604800
  control : 1 / 1000 ≤ c.controlTombstoneTtlSeconds ∧ c.controlTombstoneTtlSeconds ≤ 300
  nodeTombstone : 1 / 1000 ≤ c.nodeTombstoneTtlSeconds ∧ c.nodeTombstoneTtlSeconds ≤ 300
  replay_le : c.responseReplayTtlSeconds ≤ c.terminalRetentionSeconds
  control_le : c.controlTombstoneTtlSeconds ≤ c.terminalRetentionSeconds

/-- A configuration that passes its checks has usable durations. -/
theorem durations_of_postInit {c : RelayStateStoreConfig} (h : c.postInit = .ok ()) :
    Durations c := by
  simp only [postInit, validateFloatBound, require_bind_ok] at h
  obtain ⟨-, -, -, -, -, ⟨-, reservation⟩, -, ⟨-, claim⟩, ⟨-, replay⟩, ⟨-, retention⟩,
    ⟨-, control⟩, ⟨-, nodeTombstone⟩, replayLe, controlLe, -⟩ := h
  exact ⟨claim, reservation, replay, retention, control, nodeTombstone,
    not_lt.mp replayLe, not_lt.mp controlLe⟩

end RelayStateStoreConfig

/-! ## Compute nodes -/

/-- The keys of `CONTEXT_TIER_TOKEN_BOUNDS`. -/
inductive ContextTier
  | fast8k
  | full64k
deriving DecidableEq, Repr

namespace ContextTier

/-- `CONTEXT_TIER_TOKEN_BOUNDS[tier]`. -/
def tokenBound : ContextTier → Nat
  | fast8k => 8192
  | full64k => 65536

/-- The key of `CONTEXT_TIER_TOKEN_BOUNDS`. -/
def text : ContextTier → String
  | fast8k => "8k-fast"
  | full64k => "64k-full"

/-- The tier with the given key. -/
def ofText? (s : String) : Option ContextTier :=
  if s = fast8k.text then some fast8k else if s = full64k.text then some full64k else none

end ContextTier

/-- `ComputeNodeCapabilities` after `__post_init__`: the model ids are stripped,
lowercased and without repetition. `backend_class` is read by no store method. -/
structure ComputeNodeCapabilities where
  supportedModelIds : List String
  activeContextTier : ContextTier
  maximumTotalContextTokens : Nat
  defaultOutputTokenReservation : Nat
  maximumOutputTokens : Nat
  maxConcurrency : Nat
  models : 1 ≤ supportedModelIds.length ∧ supportedModelIds.length ≤ 64
  models_nodup : supportedModelIds.Nodup
  context : activeContextTier.tokenBound ≤ maximumTotalContextTokens ∧
    maximumTotalContextTokens ≤ 1000000
  output : 1 ≤ defaultOutputTokenReservation ∧
    defaultOutputTokenReservation ≤ maximumOutputTokens ∧ maximumOutputTokens ≤ 1000000
  concurrency : 1 ≤ maxConcurrency ∧ maxConcurrency ≤ 128
deriving DecidableEq

/-- `ComputeNodeRegistration`. -/
structure ComputeNodeRegistration where
  nodeId : String
  capabilities : ComputeNodeCapabilities
  controlCredentialDigest : String
  registeredAtEpoch : Epoch
  leaseExpiresAtEpoch : Epoch
deriving DecidableEq

/-- `SchedulerNodeState`. -/
structure SchedulerNodeState where
  healthy : Bool := true
  draining : Bool := false
  claimedWork : Nat := 0
  claimedWork_le : claimedWork ≤ 1000000 := by decide
deriving DecidableEq

/-! ## Request lifecycles -/

/-- A client digest and a request digest. -/
abbrev Identity := String × String

/-- `ReservationRecord`. -/
structure ReservationRecord where
  clientIdentityDigest : String
  requestIdentityDigest : String
  schedulerFingerprint : String
  selectedNodeId : String
  requestedModelId : String
  requestedContextTier : ContextTier
  requestDeadlineEpoch : Epoch
  reservationExpiresAtEpoch : Epoch
  tokenDigest : String
deriving DecidableEq

/-- `EncryptedRequestEnvelope` and `EncryptedResponseEnvelope`: the protocol and
the version have one accepted value each. -/
structure EncryptedEnvelope where
  ciphertext : String
  cipherkey : String
  iv : String
  nonempty : ciphertext ≠ "" ∧ cipherkey ≠ "" ∧ iv ≠ ""
deriving DecidableEq

/-- `QueuedRequest`. -/
structure QueuedRequest where
  clientIdentityDigest : String
  requestIdentityDigest : String
  clientPublicKey : String
  requestId : String
  selectedNodeId : String
  requestedModelId : String
  requestedContextTier : ContextTier
  requestDeadlineEpoch : Epoch
  envelope : EncryptedEnvelope
  enqueuedAtEpoch : Epoch
  sequence : Nat
deriving DecidableEq

/-- The identity that a queued record carries. -/
def QueuedRequest.identity (q : QueuedRequest) : Identity :=
  (q.clientIdentityDigest, q.requestIdentityDigest)

/-- The identity that a reservation carries. -/
def ReservationRecord.identity (r : ReservationRecord) : Identity :=
  (r.clientIdentityDigest, r.requestIdentityDigest)

/-- A live lifecycle record: a reservation or a queued request. -/
inductive Work
  | reservation (r : ReservationRecord)
  | queued (q : QueuedRequest)
deriving DecidableEq

namespace Work

def selectedNodeId : Work → String
  | reservation r => r.selectedNodeId
  | queued q => q.selectedNodeId

def requestDeadlineEpoch : Work → Epoch
  | reservation r => r.requestDeadlineEpoch
  | queued q => q.requestDeadlineEpoch

end Work

/-- `TerminalOutcomeRecord.outcome`. -/
inductive Outcome
  | completed
  | cancelled
  | expired
deriving DecidableEq, Repr

/-- `TerminalOutcomeRecord.reason`. -/
inductive Reason
  | responseCompleted
  | requesterCancelled
  | requestDeadlineExpired
  | serverUnregistered
deriving DecidableEq, Repr

/-- `TerminalOutcomeRecord.retrieval_state`. -/
inductive RetrievalState
  | responseReady
  | acknowledged
  | retrievalExpired
  | completedUnavailable
deriving DecidableEq, Repr

/-- `ClaimRecord`. -/
structure ClaimRecord where
  clientIdentityDigest : String
  requestIdentityDigest : String
  consumerIdentityDigest : String
  selectedNodeId : String
  controlCredentialDigest : String
  requestDeadlineEpoch : Epoch
  envelope : EncryptedEnvelope
  sequence : Nat
  generation : Nat
  leaseExpiresAtEpoch : Epoch
deriving DecidableEq

/-- `ResponseRecord`; its `status` field is constant. -/
structure ResponseRecord where
  clientIdentityDigest : String
  requestIdentityDigest : String
  clientPublicKey : String
  requestId : String
  selectedNodeId : String
  consumerIdentityDigest : String
  generation : Nat
  envelope : EncryptedEnvelope
  acceptedAtEpoch : Epoch
  responseDigest : String
  replayExpiresAtEpoch : Epoch
deriving DecidableEq

/-- `TerminalOutcomeRecord`. -/
structure TerminalOutcomeRecord where
  clientIdentityDigest : String
  requestIdentityDigest : String
  selectedNodeId : String
  controlCredentialDigest : String
  consumerIdentityDigest : String
  generation : Nat
  responseDigest : String
  acceptedAtEpoch : Epoch
  replayExpiresAtEpoch : Epoch
  expiresAtEpoch : Epoch
  outcome : Outcome := .completed
  retrievalState : RetrievalState := .responseReady
  retrievalCredentialDigest : String := ""
  acknowledgementDigest : String := ""
  reason : Reason := .responseCompleted
  cancellationTokenDigest : String := ""
deriving DecidableEq

/-- `ControlTombstoneRecord`. -/
structure ControlTombstoneRecord where
  clientIdentityDigest : String
  requestIdentityDigest : String
  selectedNodeId : String
  controlCredentialDigest : String
  consumerIdentityDigest : String
  generation : Nat
  status : Outcome
  reason : Reason
  requestDeadlineEpoch : Epoch
  acknowledged : Bool
  expiresAtEpoch : Epoch
deriving DecidableEq

/-! ## Node removal -/

/-- The two causes of a node transition. -/
inductive Cause
  | explicitUnregister
  | registrationLeaseExpired
deriving DecidableEq, Repr

/-- `NodeTombstoneRecord`. -/
structure NodeTombstoneRecord where
  nodeIdentityDigest : String
  controlCredentialDigest : String
  cause : Cause
  status : Outcome
  transitionEpoch : Epoch
  completed : Bool
  expiresAtEpoch : Epoch
deriving DecidableEq

/-- `_PendingNodeTransition`. -/
structure PendingNodeTransition where
  nodeId : String
  nodeIdentityDigest : String
  controlCredentialDigest : String
  cause : Cause
  status : Outcome
  reason : Reason
  transitionEpoch : Epoch
deriving DecidableEq

/-- `_FormerNodeAuthority`. -/
structure FormerNodeAuthority where
  controlCredentialDigest : String
  cause : Cause
  status : Outcome
  transitionEpoch : Epoch
  expiresAtEpoch : Epoch
deriving DecidableEq

/-! ## The store -/

/-- The fields of `InMemoryRelayStateStore`. -/
structure Store where
  records : OrderedDict String ComputeNodeRegistration := .empty
  schedulerStates : OrderedDict String SchedulerNodeState := .empty
  registrationOrder : OrderedDict String Nat := .empty
  nextRegistrationOrder : Nat := 0
  reservations : OrderedDict Identity ReservationRecord := .empty
  queued : OrderedDict Identity QueuedRequest := .empty
  queuedTokenDigests : OrderedDict Identity String := .empty
  cancellationTokenDigests : OrderedDict Identity String := .empty
  nodeQueues : OrderedDict String (List QueuedRequest) := .empty
  claims : OrderedDict Identity ClaimRecord := .empty
  responses : OrderedDict Identity ResponseRecord := .empty
  terminals : OrderedDict Identity TerminalOutcomeRecord := .empty
  controlTombstones : OrderedDict Identity ControlTombstoneRecord := .empty
  nodeTombstones : OrderedDict String NodeTombstoneRecord := .empty
  pendingNodeTransitions : OrderedDict String PendingNodeTransition := .empty
  formerNodeAuthorities : OrderedDict String (OrderedDict String FormerNodeAuthority) := .empty
  nodeWorkIdentities : OrderedDict String (OrderedDict Identity Unit) := .empty
  deferredDeadlineIdentities : Finset Identity := ∅
  nextClaimGeneration : Nat := 0
  fairnessCursors : OrderedDict String (String × Nat) := .empty
  fairnessActivity : Nat := 0
  nextQueueSequence : Nat := 0

namespace Store

/-- `__init__`: every table is empty and every counter is zero. -/
def initial : Store := {}

/-- `_node_queues.get(node_id, ())`. -/
def queueOf (s : Store) (n : String) : List QueuedRequest := (s.nodeQueues.get? n).getD []

/-- `_node_work_identities.get(node_id, {})`. -/
def workOf (s : Store) (n : String) : OrderedDict Identity Unit :=
  (s.nodeWorkIdentities.get? n).getD .empty

/-- `_former_node_authorities.get(node_digest, {})`. -/
def fencesOf (s : Store) (nodeDigest : String) : OrderedDict String FormerNodeAuthority :=
  (s.formerNodeAuthorities.get? nodeDigest).getD .empty

/-- `_reservations.get(identity) or _queued.get(identity)`. -/
def workRecord (s : Store) (identity : Identity) : Option Work :=
  match s.reservations.get? identity with
  | some r => some (.reservation r)
  | none => (s.queued.get? identity).map .queued

end Store

end StateStore
