import TokenPlace.StateStore.Housekeeping

/-!
# Registration and admission

The public methods of `InMemoryRelayStateStore` that register nodes, reserve
and enqueue. A method checks its arguments, reads the clock, runs its
housekeeping and then its body under the lock (`publicCall`); the bodies are the
`Locked` definitions.
-/

namespace StateStore

open Method

/-! ## Results -/

/-- `SelectionResult.state` and `EnqueueResult.state`. -/
inductive LifecycleState
  | reserved
  | queued
  | claimed
deriving DecidableEq, Repr

/-- `SelectionResult`. -/
structure SelectionResult where
  selectedNodeId : String
  requestedModelId : String
  requestedContextTier : ContextTier
  requestDeadlineEpoch : Epoch
  reservationExpiresAtEpoch : Option Epoch
  reservationToken : Option String
  created : Bool
  state : LifecycleState := .reserved
deriving DecidableEq

/-- `EnqueueResult`. -/
structure EnqueueResult where
  state : LifecycleState
  selectedNodeId : String
  requestDeadlineEpoch : Epoch
  sequence : Nat
  created : Bool
deriving DecidableEq

/-! ## The frame of a public method -/

/-- The checks that need no state, then the clock, the housekeeping and the body. -/
def publicCall {α β : Type} (clock : Epoch) (checks : Except StoreError α)
    (housekeeping : Epoch → StoreM Unit) (body : α → Epoch → StoreM β) : StoreM β := do
  let arguments ← ofExcept checks
  let now ← ofExcept (nowOf clock)
  housekeeping now
  body arguments now

section

variable (env : StoreEnv)

/-- `_expire_locked` as the housekeeping of another method. -/
def leaseHousekeeping (now : Epoch) : StoreM Unit := do
  let _ ← expireLocked env now
  return ()

/-- The housekeeping of `register`. -/
def registerHousekeeping (now : Epoch) : StoreM Unit := do
  modifyState (reapRetainedLocked now)
  leaseHousekeeping env now

/-- The housekeeping of `unregister_node_and_transition_work`. -/
def retainedHousekeeping (now : Epoch) : StoreM Unit := modifyState (reapRetainedLocked now)

/-- The checks of a node id and its credential digest. -/
def validateCredential (nodeId digest : String) : Except StoreError Unit := do
  validateNodeId env nodeId
  validateDigest digest

/-! ## Registrations -/

/-- `_require_digest`. -/
def requireDigest (record : ComputeNodeRegistration) (digest : String) : StoreM Unit :=
  raiseIf (record.controlCredentialDigest ≠ digest)
    (credentialMismatch "control credential digest does not own this registration")

/-- `register`, after its housekeeping. -/
def registerLocked (nodeId : String) (capabilities : ComputeNodeCapabilities) (digest : String)
    (now lease : Epoch) : StoreM ComputeNodeRegistration := do
  let s ← getState
  raiseIf (nodeId ∈ s.pendingNodeTransitions) (conflict "node transition is incomplete")
  match s.records.get? nodeId with
  | none =>
    raiseIf (env.config.maxComputeNodes ≤ s.records.size)
      (capacityExceeded "compute-node registration capacity reached")
    raiseIf (digest ∈ s.fencesOf (nodeDigest env nodeId))
      (credentialMismatch "control credential digest has stale registration authority")
    let record : ComputeNodeRegistration := ⟨nodeId, capabilities, digest, now, lease⟩
    modifyState fun s => { s with
      records := s.records.set nodeId record
      schedulerStates := s.schedulerStates.set nodeId {}
      registrationOrder := s.registrationOrder.set nodeId s.nextRegistrationOrder
      nextRegistrationOrder := s.nextRegistrationOrder + 1 }
    return record
  | some existing =>
    requireDigest existing digest
    let record : ComputeNodeRegistration :=
      ⟨nodeId, capabilities, existing.controlCredentialDigest, existing.registeredAtEpoch, lease⟩
    modifyState fun s => { s with records := s.records.set nodeId record }
    return record

/-- What `register` checks before its housekeeping: its arguments, the clock and
the lease deadline, which it returns. -/
def registerChecks (clock : Epoch) (nodeId digest : String) : Except StoreError Epoch := do
  validateCredential env nodeId digest
  let now ← nowOf clock
  leaseDeadline env now

/-- `register`. -/
def register (clock : Epoch) (nodeId : String) (capabilities : ComputeNodeCapabilities)
    (digest : String) : StoreM ComputeNodeRegistration :=
  publicCall clock (registerChecks env clock nodeId digest) (registerHousekeeping env)
    fun lease now => registerLocked env nodeId capabilities digest now lease

/-- `renew`, after its housekeeping. -/
def renewLocked (nodeId digest : String) (capabilities : Option ComputeNodeCapabilities)
    (now : Epoch) : StoreM (Option ComputeNodeRegistration) := do
  let s ← getState
  match s.records.get? nodeId with
  | none => return none
  | some existing =>
    requireDigest existing digest
    let lease ← ofExcept (leaseDeadline env now)
    let renewed := { existing with
      capabilities := capabilities.getD existing.capabilities, leaseExpiresAtEpoch := lease }
    modifyState fun s => { s with records := s.records.set nodeId renewed }
    return some renewed

/-- `renew`. -/
def renew (clock : Epoch) (nodeId digest : String)
    (capabilities : Option ComputeNodeCapabilities) :
    StoreM (Option ComputeNodeRegistration) :=
  publicCall clock (validateCredential env nodeId digest) (leaseHousekeeping env)
    fun _ now => renewLocked env nodeId digest capabilities now

/-- `get`. -/
def getNode (clock : Epoch) (nodeId : String) : StoreM (Option ComputeNodeRegistration) :=
  publicCall clock (validateNodeId env nodeId) (leaseHousekeeping env) fun _ _ => do
    let s ← getState
    return s.records.get? nodeId

/-- `list`. -/
def listNodes (clock : Epoch) : StoreM (List ComputeNodeRegistration) :=
  publicCall clock (.ok ()) (leaseHousekeeping env) fun _ _ => do
    let s ← getState
    return (s.records.keys.insertionSort (· ≤ ·)).filterMap s.records.get?

/-- `expire`. -/
def expire (clock : Epoch) : StoreM (List ComputeNodeRegistration) := do
  let now ← ofExcept (nowOf clock)
  expireLocked env now true

/-- The argument checks of `unregister_node_and_transition_work`. -/
def validateUnregister (nodeId : String) (digest : Option String) (cause : Cause) :
    Except StoreError Unit := do
  validateNodeId env nodeId
  match cause with
  | .explicitUnregister => validateDigest (digest.getD "")
  | .registrationLeaseExpired => pure ()

/-- `unregister_node_and_transition_work`. -/
def unregisterNodeAndTransitionWork (clock : Epoch) (nodeId : String) (digest : Option String)
    (cause : Cause) : StoreM NodeTransitionResult :=
  publicCall clock (validateUnregister env nodeId digest cause) retainedHousekeeping
    fun _ now => transitionNodeLocked env nodeId digest cause now

/-- `unregister`. -/
def unregister (clock : Epoch) (nodeId digest : String) : StoreM Bool := do
  let result ← unregisterNodeAndTransitionWork env clock nodeId (some digest) .explicitUnregister
  return result.state ≠ .notFound && result.state ≠ .alreadyComplete

/-- `set_scheduler_state`, after its housekeeping. -/
def setSchedulerStateLocked (nodeId digest : String) (state : SchedulerNodeState) :
    StoreM Bool := do
  let s ← getState
  match s.records.get? nodeId with
  | none => return false
  | some record =>
    requireDigest record digest
    modifyState fun s => { s with schedulerStates := s.schedulerStates.set nodeId state }
    return true

/-- `set_scheduler_state`. -/
def setSchedulerState (clock : Epoch) (nodeId digest : String) (state : SchedulerNodeState) :
    StoreM Bool :=
  publicCall clock (validateCredential env nodeId digest) (leaseHousekeeping env)
    fun _ _ => setSchedulerStateLocked nodeId digest state

/-! ## Admission -/

/-- `_require_same_parameters`. -/
def requireSameParameters (model : String) (tier : ContextTier) (due : Epoch) (model' : String)
    (tier' : ContextTier) (due' : Epoch) : StoreM Unit :=
  raiseIf (model ≠ model' ∨ tier ≠ tier' ∨ due ≠ due') (conflict "request identity conflict")

/-- An entry of `eligible`. -/
structure Candidate where
  tierSize : Nat
  load : Nat
  order : Nat
  nodeId : String
deriving DecidableEq

/-- The reservations placed on a node. -/
def reservationCount (s : Store) (nodeId : String) : Nat :=
  s.reservations.count fun _ r => r.selectedNodeId = nodeId

/-- The queue length of a node. -/
def queueLength (s : Store) (nodeId : String) : Nat := (s.queueOf nodeId).length

/-- The node can serve the request and has room for one more reservation. -/
def schedulable (s : Store) (model : String) (tier : ContextTier) (nodeId : String)
    (record : ComputeNodeRegistration) (state : SchedulerNodeState) : Bool :=
  let caps := record.capabilities
  caps.supportedModelIds.contains model &&
    tier.tokenBound ≤ caps.activeContextTier.tokenBound &&
    tier.tokenBound ≤ caps.maximumTotalContextTokens &&
    state.healthy && !state.draining &&
    reservationCount s nodeId + queueLength s nodeId + state.claimedWork < caps.maxConcurrency &&
    reservationCount s nodeId < env.config.maxReservationsPerNode &&
    reservationCount s nodeId + queueLength s nodeId < env.config.maxQueueDepthPerNode

/-- The loop that fills `eligible`. -/
def eligibleNodes (s : Store) (model : String) (tier : ContextTier) :
    List (String × ComputeNodeRegistration) → Except StoreError (List Candidate)
  | [] => .ok []
  | (nodeId, record) :: rest =>
    match s.schedulerStates.get? nodeId with
    | none => .error (lookupError nodeId)
    | some state =>
      if schedulable env s model tier nodeId record state then
        match s.registrationOrder.get? nodeId with
        | none => .error (lookupError nodeId)
        | some order => do
          let found ← eligibleNodes s model tier rest
          return ⟨record.capabilities.activeContextTier.tokenBound,
            reservationCount s nodeId + queueLength s nodeId + state.claimedWork, order,
            nodeId⟩ :: found
      else eligibleNodes s model tier rest

/-- `min(...)` of a list that the source knows to be non-empty. -/
def minimumOf (l : List Nat) : Nat := (l.min?).getD 0

/-- The candidates of the smallest tier and the least load, by registration order. -/
def tiedCandidates (eligible : List Candidate) : List Candidate :=
  let smallest := minimumOf (eligible.map (·.tierSize))
  let eligible := eligible.filter fun c => c.tierSize = smallest
  let least := minimumOf (eligible.map (·.load))
  (eligible.filter fun c => c.load = least).insertionSort fun a b => a.order ≤ b.order

/-- The first tied candidate after the fairness cursor, else the first one. -/
def chooseCandidate (s : Store) (fingerprint : String) (first : Candidate)
    (tied : List Candidate) : Candidate :=
  match s.fairnessCursors.get? fingerprint with
  | none => first
  | some (cursor, _) =>
    match s.registrationOrder.get? cursor with
    -- the order defaults to -1, which every candidate exceeds
    | none => (tied.find? fun _ => true).getD first
    | some order => (tied.find? fun c => order < c.order).getD first

/-- `_active_fairness_fingerprints_locked`: the fingerprint is in use. -/
def activeFingerprint (s : Store) (fingerprint : String) : Bool :=
  s.reservations.values.any (fun r => r.schedulerFingerprint = fingerprint) ||
    s.queued.values.any fun q =>
      schedulerFingerprint env q.requestedModelId q.requestedContextTier = fingerprint

/-- `min((activity, fingerprint) ...)` over the inactive cursors. -/
def leastActive : List (String × (String × Nat)) → Option (Nat × String)
  | [] => none
  | (fingerprint, (_, activity)) :: rest =>
    match leastActive rest with
    | none => some (activity, fingerprint)
    | some (a, f) =>
      if activity < a ∨ (activity = a ∧ fingerprint ≤ f) then some (activity, fingerprint)
      else some (a, f)

/-- `_cursor_eviction_candidate_locked`. -/
def cursorEvictionCandidate (s : Store) (fingerprint : String) :
    Except StoreError (Option String) :=
  if fingerprint ∈ s.fairnessCursors then .ok none
  else if s.fairnessCursors.size < env.config.maxSchedulerFingerprints then .ok none
  else
    match leastActive (s.fairnessCursors.entries.filter fun e => !activeFingerprint env s e.1) with
    | none => .error noCapacity
    | some (_, f) => .ok (some f)

/-- The checked arguments of `select_and_reserve`. -/
structure SelectionRequest where
  identity : Identity
  modelId : String
  tier : ContextTier
  deadline : Epoch
  cancellationDigest : Option String
deriving DecidableEq

/-- The argument checks of `select_and_reserve`. -/
def validateSelection (clientPublicKey requestId requestedModelId requestedContextTier : String)
    (requestDeadlineEpoch : Epoch) (cancellationToken : Option String) :
    Except StoreError SelectionRequest := do
  let identity ← identityOf env clientPublicKey requestId
  let model ← modelId env requestedModelId
  let tier ← contextTier env requestedContextTier
  let due ← deadline requestDeadlineEpoch
  match cancellationToken with
  | none => return ⟨identity, model, tier, due, none⟩
  | some token =>
    let digest ← cancellationTokenDigest env token
    return ⟨identity, model, tier, due, some digest⟩

/-- The lifecycle records of one client. -/
def clientLifecycleCount (s : Store) (client : String) : Nat :=
  (s.reservations.count fun _ r => r.clientIdentityDigest = client) +
    s.queued.count fun _ q => q.clientIdentityDigest = client

/-- The claim on the identity holds at `now`. -/
def claimActive (s : Store) (identity : Identity) (now : Epoch) : Bool :=
  (s.claims.get? identity).any fun c => now < c.leaseExpiresAtEpoch

/-- `_selection_result`. -/
def selectionResult (r : ReservationRecord) (token : Option String) (created : Bool) :
    SelectionResult :=
  ⟨r.selectedNodeId, r.requestedModelId, r.requestedContextTier, r.requestDeadlineEpoch,
    some r.reservationExpiresAtEpoch, token, created, .reserved⟩

/-- The writes of `select_and_reserve`. -/
def writeReservation (req : SelectionRequest) (record : ReservationRecord)
    (evicted : Option String) (s : Store) : Store :=
  let cursors := match evicted with
    | some f => s.fairnessCursors.erase f
    | none => s.fairnessCursors
  { s with
    reservations := s.reservations.set req.identity record
    nodeWorkIdentities := s.nodeWorkIdentities.set record.selectedNodeId
      ((s.workOf record.selectedNodeId).set req.identity ())
    cancellationTokenDigests :=
      match req.cancellationDigest with
      | some d => s.cancellationTokenDigests.set req.identity d
      | none => s.cancellationTokenDigests
    fairnessActivity := s.fairnessActivity + 1
    fairnessCursors :=
      cursors.set record.schedulerFingerprint (record.selectedNodeId, s.fairnessActivity + 1) }

/-- `select_and_reserve` for an identity without a lifecycle. -/
def reserveLocked (drawn : String) (req : SelectionRequest) (now : Epoch) :
    StoreM SelectionResult := do
  let s ← getState
  raiseIf (env.config.maxReservations ≤ s.reservations.size) noCapacity
  raiseIf (env.config.maxRequestLifecycles ≤ s.reservations.size + s.queued.size) noCapacity
  raiseIf (env.config.maxReservationsPerClient ≤ clientLifecycleCount s req.identity.1) noCapacity
  let eligible ← ofExcept (eligibleNodes env s req.modelId req.tier s.records.entries)
  raiseIf (eligible = []) noCapacity
  match tiedCandidates eligible with
  | [] => raise (lookupError "tied")
  | first :: tied =>
    let fingerprint := schedulerFingerprint env req.modelId req.tier
    let selected := chooseCandidate s fingerprint first (first :: tied)
    let evicted ← ofExcept (cursorEvictionCandidate env s fingerprint)
    let expires := min (now + env.config.reservationTtlSeconds) req.deadline
    raiseIf (¬isfiniteSum expires) (storeError "reservation deadline must be finite")
    let record : ReservationRecord :=
      ⟨req.identity.1, req.identity.2, fingerprint, selected.nodeId, req.modelId, req.tier,
        req.deadline, expires, tokenDigestOf env drawn⟩
    modifyState (writeReservation req record evicted)
    return selectionResult record (some drawn) true

/-- `select_and_reserve`, after its housekeeping. `drawn` is the value of
`secrets.token_hex(32)`. -/
def selectAndReserveLocked (drawn : String) (req : SelectionRequest) (now : Epoch) :
    StoreM SelectionResult := do
  let s ← getState
  raiseIf (req.deadline ≤ now) (invalidReservation "request deadline expired")
  raiseIf (now + env.config.maxRequestTtlSeconds < req.deadline)
    (storeError "request deadline exceeds its configured bound")
  raiseIf (req.identity ∈ s.terminals) (conflict "request lifecycle is terminal")
  match s.queued.get? req.identity with
  | some q =>
    requireSameParameters q.requestedModelId q.requestedContextTier q.requestDeadlineEpoch
      req.modelId req.tier req.deadline
    raiseIf (∃ stored ∈ s.cancellationTokenDigests.get? req.identity,
        ∃ supplied ∈ req.cancellationDigest, stored ≠ supplied)
      (conflict "request identity conflict")
    return ⟨q.selectedNodeId, req.modelId, req.tier, req.deadline, none, none, false,
      if claimActive s req.identity now then .claimed else .queued⟩
  | none =>
    match s.reservations.get? req.identity with
    | some r =>
      requireSameParameters r.requestedModelId r.requestedContextTier r.requestDeadlineEpoch
        req.modelId req.tier req.deadline
      raiseIf (∃ stored ∈ s.cancellationTokenDigests.get? req.identity,
          req.cancellationDigest ≠ some stored)
        (conflict "request identity conflict")
      return selectionResult r none false
    | none => reserveLocked env drawn req now

/-- `select_and_reserve`. -/
def selectAndReserve (clock : Epoch) (drawn clientPublicKey requestId requestedModelId
    requestedContextTier : String) (requestDeadlineEpoch : Epoch)
    (cancellationToken : Option String) : StoreM SelectionResult :=
  publicCall clock
    (validateSelection env clientPublicKey requestId requestedModelId requestedContextTier
      requestDeadlineEpoch cancellationToken)
    (reapLocked env) (selectAndReserveLocked env drawn)

/-- The checked arguments of `enqueue_encrypted_request`. -/
structure EnqueueRequest where
  identity : Identity
  clientPublicKey : String
  requestId : String
  selectedNodeId : String
  modelId : String
  tier : ContextTier
  deadline : Epoch
  envelope : EncryptedEnvelope
  tokenDigest : String
  cancellationDigest : String
deriving DecidableEq

/-- The argument checks of `enqueue_encrypted_request`. -/
def validateEnqueue (clientPublicKey requestId reservationToken selectedNodeId requestedModelId
    requestedContextTier : String) (requestDeadlineEpoch : Epoch) (envelope : EncryptedEnvelope)
    (cancellationToken : String) : Except StoreError EnqueueRequest := do
  let identity ← identityOf env clientPublicKey requestId
  validateNodeId env selectedNodeId
  let model ← modelId env requestedModelId
  let tier ← contextTier env requestedContextTier
  let due ← deadline requestDeadlineEpoch
  validateEnvelopeSize env envelope
  let token ← tokenDigest env reservationToken
  let cancellation ← cancellationTokenDigest env cancellationToken
  return ⟨identity, clientPublicKey, requestId, selectedNodeId, model, tier, due, envelope,
    token, cancellation⟩

/-- `_enqueue_result`. -/
def enqueueResult (q : QueuedRequest) (created : Bool) (state : LifecycleState := .queued) :
    EnqueueResult :=
  ⟨state, q.selectedNodeId, q.requestDeadlineEpoch, q.sequence, created⟩

/-- The record that `enqueue_encrypted_request` queues. -/
def queuedOf (req : EnqueueRequest) (now : Epoch) (sequence : Nat) : QueuedRequest :=
  ⟨req.identity.1, req.identity.2, req.clientPublicKey, req.requestId, req.selectedNodeId,
    req.modelId, req.tier, req.deadline, req.envelope, now, sequence⟩

/-- The writes of `enqueue_encrypted_request`. -/
def writeQueued (req : EnqueueRequest) (now : Epoch) (s : Store) : Store :=
  let q := queuedOf req now (s.nextQueueSequence + 1)
  { s with
    nextQueueSequence := s.nextQueueSequence + 1
    queued := s.queued.set req.identity q
    queuedTokenDigests := s.queuedTokenDigests.set req.identity req.tokenDigest
    cancellationTokenDigests :=
      s.cancellationTokenDigests.set req.identity req.cancellationDigest
    nodeQueues := s.nodeQueues.set req.selectedNodeId (s.queueOf req.selectedNodeId ++ [q])
    reservations := s.reservations.erase req.identity }

/-- `enqueue_encrypted_request` for an identity that is already queued. -/
def enqueueRetryLocked (req : EnqueueRequest) (q : QueuedRequest) (now : Epoch) :
    StoreM EnqueueResult := do
  let s ← getState
  requireSameParameters q.requestedModelId q.requestedContextTier q.requestDeadlineEpoch
    req.modelId req.tier req.deadline
  raiseIf (q.selectedNodeId ≠ req.selectedNodeId ∨ q.envelope ≠ req.envelope)
    (conflict "request identity conflict")
  match s.queuedTokenDigests.get? req.identity with
  | none => raise (lookupError "queued token digest")
  | some token =>
    raiseIf (token ≠ req.tokenDigest) (invalidReservation "reservation invalid")
    match s.cancellationTokenDigests.get? req.identity with
    | none => raise (lookupError "cancellation token digest")
    | some cancellation =>
      raiseIf (cancellation ≠ req.cancellationDigest) (conflict "request identity conflict")
      return enqueueResult q false (if claimActive s req.identity now then .claimed else .queued)

/-- `enqueue_encrypted_request` for an identity that is not queued. -/
def enqueueNewLocked (req : EnqueueRequest) (now : Epoch) : StoreM EnqueueResult := do
  let s ← getState
  raiseIf (now + env.config.maxRequestTtlSeconds < req.deadline)
    (storeError "request deadline exceeds its configured bound")
  match s.reservations.get? req.identity with
  | none => raise (invalidReservation "reservation invalid")
  | some r =>
    raiseIf (¬(∃ registration ∈ s.records.get? r.selectedNodeId,
          now < registration.leaseExpiresAtEpoch) ∨
        r.selectedNodeId ∈ s.pendingNodeTransitions)
      (invalidReservation "reservation invalid")
    requireSameParameters r.requestedModelId r.requestedContextTier r.requestDeadlineEpoch
      req.modelId req.tier req.deadline
    raiseIf (∃ reserved ∈ s.cancellationTokenDigests.get? req.identity,
        reserved ≠ req.cancellationDigest)
      (conflict "request identity conflict")
    raiseIf (r.selectedNodeId ≠ req.selectedNodeId ∨ r.tokenDigest ≠ req.tokenDigest)
      (invalidReservation "reservation invalid")
    raiseIf (env.config.maxQueueDepthPerNode ≤ queueLength s req.selectedNodeId) noCapacity
    raiseIf (env.config.maxQueuedRequests ≤ s.queued.size ∨
        env.config.maxQueuedRequestsPerClient ≤
          s.queued.count fun _ q => q.clientIdentityDigest = req.identity.1)
      noCapacity
    modifyState (writeQueued req now)
    return enqueueResult (queuedOf req now (s.nextQueueSequence + 1)) true

/-- `enqueue_encrypted_request`, after its housekeeping. -/
def enqueueEncryptedRequestLocked (req : EnqueueRequest) (now : Epoch) :
    StoreM EnqueueResult := do
  let s ← getState
  raiseIf (req.deadline ≤ now) (invalidReservation "reservation invalid")
  raiseIf (req.identity ∈ s.terminals) (conflict "request lifecycle is terminal")
  match s.queued.get? req.identity with
  | some q => enqueueRetryLocked req q now
  | none => enqueueNewLocked env req now

/-- `enqueue_encrypted_request`. -/
def enqueueEncryptedRequest (clock : Epoch) (clientPublicKey requestId reservationToken
    selectedNodeId requestedModelId requestedContextTier : String) (requestDeadlineEpoch : Epoch)
    (envelope : EncryptedEnvelope) (cancellationToken : String) : StoreM EnqueueResult :=
  publicCall clock
    (validateEnqueue env clientPublicKey requestId reservationToken selectedNodeId
      requestedModelId requestedContextTier requestDeadlineEpoch envelope cancellationToken)
    (reapLocked env) (enqueueEncryptedRequestLocked env)

/-- `list_reservations`. -/
def listReservations (clock : Epoch) : StoreM (List ReservationRecord) :=
  publicCall clock (.ok ()) (reapLocked env) fun _ now => do
    let s ← getState
    return s.reservations.values.filter fun r => now < r.requestDeadlineEpoch

/-- `queued_requests`. -/
def queuedRequests (clock : Epoch) (nodeId : String) : StoreM (List QueuedRequest) :=
  publicCall clock (validateNodeId env nodeId) (reapLocked env) fun _ now => do
    let s ← getState
    return (s.queueOf nodeId).filter fun q =>
      now < q.requestDeadlineEpoch && !claimActive s q.identity now

end

end StateStore
