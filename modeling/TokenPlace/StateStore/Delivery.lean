import TokenPlace.StateStore.Operations

/-!
# Claims, responses and cancellation

The public methods of `InMemoryRelayStateStore` that hand work to a node and
settle it, and the read methods. The lock makes one call one atomic step, so an
interleaving of threads is a sequence of `Call`s (`Call.run`, `runs`).
-/

namespace StateStore

open Method

/-! ## Results -/

/-- The fields of a `ClaimResult` that carries work. -/
structure ClaimedWork where
  reclaimed : Bool
  generation : Nat
  leaseExpiresAtEpoch : Epoch
  requestDeadlineEpoch : Epoch
  clientPublicKey : String
  requestId : String
  envelope : EncryptedEnvelope
deriving DecidableEq

/-- `ClaimResult`: `"empty"`, or `"claimed"`/`"reclaimed"` with the work. -/
inductive ClaimResult
  | empty
  | work (w : ClaimedWork)
deriving DecidableEq

/-- `ClaimRenewalResult`. `control` is the answer read from a tombstone: its
status, or `"acknowledged"`. -/
inductive ClaimRenewalResult
  | continued (generation : Nat) (lease : Epoch)
  | control (status : Outcome) (generation : Nat) (reason : Reason) (acknowledged : Bool)
  | ownerMismatch
  | missingOrExpired
  | staleGeneration (current : Nat)
deriving DecidableEq

/-- `ResponseAcceptanceResult`; its `state` is always `"response_ready"`. -/
structure ResponseAcceptanceResult where
  generation : Nat
  acceptedAtEpoch : Epoch
  replayExpiresAtEpoch : Epoch
  newOutcome : Bool
deriving DecidableEq

/-- `ResponseRetrievalResult`. -/
inductive ResponseRetrievalResult
  | ready (envelope : EncryptedEnvelope) (acknowledgementToken : String) (replayExpires : Epoch)
  | settled (state : RetrievalState)
  | invalidRetrievalCredential
  | invalidAcknowledgement
deriving DecidableEq

section

variable (env : StoreEnv)

/-! ## Claims -/

/-- The claims whose lease is after `now`. -/
def activeClaimCount (s : Store) (now : Epoch) : Nat :=
  s.claims.count fun _ c => now < c.leaseExpiresAtEpoch

/-- The claims of a node whose lease is after `now`. -/
def activeNodeClaimCount (s : Store) (now : Epoch) (nodeId : String) : Nat :=
  s.claims.count fun _ c => now < c.leaseExpiresAtEpoch && c.selectedNodeId = nodeId

/-- The claim that `claim_queued_request` writes. -/
def claimOf (q : QueuedRequest) (consumer nodeId digest : String) (generation : Nat)
    (lease : Epoch) : ClaimRecord :=
  ⟨q.clientIdentityDigest, q.requestIdentityDigest, consumer, nodeId, digest,
    q.requestDeadlineEpoch, q.envelope, q.sequence, generation, lease⟩

/-- `claim_queued_request` on the first item that it may hand out. -/
def claimItemLocked (registration : ComputeNodeRegistration) (nodeId consumer : String)
    (now : Epoch) (q : QueuedRequest) : StoreM ClaimResult := do
  let s ← getState
  raiseIf (env.config.maxClaims ≤ activeClaimCount s now ∨
      env.config.maxClaimsPerNode ≤ activeNodeClaimCount s now nodeId)
    (capacityExceeded "claim capacity reached")
  modifyState fun s => { s with nextClaimGeneration := s.nextClaimGeneration + 1 }
  let lease := min (now + env.config.claimTtlSeconds) q.requestDeadlineEpoch
  raiseIf (¬isfiniteSum lease) (storeError "claim deadline must be finite")
  let claim := claimOf q consumer nodeId registration.controlCredentialDigest
    (s.nextClaimGeneration + 1) lease
  modifyState fun s => { s with claims := s.claims.set q.identity claim }
  return .work ⟨(s.claims.get? q.identity).isSome, claim.generation, claim.leaseExpiresAtEpoch,
    claim.requestDeadlineEpoch, q.clientPublicKey, q.requestId, q.envelope⟩

/-- The loop skips items past their deadline and items under an active claim. -/
def claimable (s : Store) (now : Epoch) (q : QueuedRequest) : Bool :=
  !(q.requestDeadlineEpoch ≤ now) && !claimActive s q.identity now

/-- `claim_queued_request`, after its housekeeping. -/
def claimQueuedRequestLocked (nodeId digest consumer : String) (now : Epoch) :
    StoreM ClaimResult := do
  let s ← getState
  match s.records.get? nodeId with
  | none => raise (credentialMismatch "claim owner is invalid")
  | some registration =>
    requireDigest registration digest
    match (s.queueOf nodeId).find? (claimable s now) with
    | none => return .empty
    | some q => claimItemLocked env registration nodeId consumer now q

/-- The argument checks of `claim_queued_request`, and the consumer digest. -/
def validateClaim (nodeId digest consumerIdentity : String) : Except StoreError String := do
  validateCredential env nodeId digest
  consumerDigest env consumerIdentity

/-- `claim_queued_request`. -/
def claimQueuedRequest (clock : Epoch) (nodeId digest consumerIdentity : String) :
    StoreM ClaimResult :=
  publicCall clock (validateClaim env nodeId digest consumerIdentity) (reapLocked env)
    fun consumer now => claimQueuedRequestLocked env nodeId digest consumer now

/-- The checked arguments of the methods that a claim's owner calls. -/
structure OwnerRequest where
  nodeId : String
  digest : String
  consumer : String
  clientPublicKey : String
  requestId : String
  identity : Identity
  generation : Nat
deriving DecidableEq

/-- The argument checks that `renew_claim_or_read_control` and
`accept_encrypted_response` share. -/
def validateOwner (nodeId digest consumerIdentity clientPublicKey requestId : String)
    (generation : Nat) : Except StoreError OwnerRequest := do
  validateNodeId env nodeId
  validateDigest digest
  let consumer ← consumerDigest env consumerIdentity
  let identity ← identityOf env clientPublicKey requestId
  validateGeneration generation
  return ⟨nodeId, digest, consumer, clientPublicKey, requestId, identity, generation⟩

/-- `renew_claim_or_read_control` when the identity has a control tombstone. -/
def readControlLocked (req : OwnerRequest) (acknowledge : Bool)
    (tombstone : ControlTombstoneRecord) : StoreM ClaimRenewalResult :=
  if ¬(tombstone.selectedNodeId = req.nodeId ∧ tombstone.generation = req.generation ∧
      tombstone.controlCredentialDigest = req.digest ∧
      tombstone.consumerIdentityDigest = req.consumer) then
    return .ownerMismatch
  else if acknowledge ∧ tombstone.acknowledged = false then do
    modifyState fun s => { s with
      controlTombstones := s.controlTombstones.set req.identity { tombstone with
        acknowledged := true } }
    return .control tombstone.status req.generation tombstone.reason true
  else
    return .control tombstone.status req.generation tombstone.reason tombstone.acknowledged

/-- `renew_claim_or_read_control`, after its housekeeping. -/
def renewClaimLocked (req : OwnerRequest) (acknowledge : Bool) (now : Epoch) :
    StoreM ClaimRenewalResult := do
  let s ← getState
  match s.controlTombstones.get? req.identity with
  | some tombstone => readControlLocked req acknowledge tombstone
  | none =>
    if ¬∃ registration ∈ s.records.get? req.nodeId,
        registration.controlCredentialDigest = req.digest then
      return .ownerMismatch
    else
      match s.claims.get? req.identity with
      | none => return .missingOrExpired
      | some claim =>
        if claim.requestDeadlineEpoch ≤ now then return .missingOrExpired
        else if claim.generation ≠ req.generation then return .staleGeneration claim.generation
        else if claim.selectedNodeId ≠ req.nodeId ∨ claim.consumerIdentityDigest ≠ req.consumer then
          return .ownerMismatch
        else if claim.leaseExpiresAtEpoch ≤ now then return .missingOrExpired
        else
          let lease := min (now + env.config.claimTtlSeconds) claim.requestDeadlineEpoch
          modifyState fun s => { s with
            claims := s.claims.set req.identity { claim with leaseExpiresAtEpoch := lease } }
          return .continued req.generation lease

/-- `renew_claim_or_read_control`; `renew_claim` is the call without `acknowledge`. -/
def renewClaimOrReadControl (clock : Epoch) (nodeId digest consumerIdentity clientPublicKey
    requestId : String) (generation : Nat) (acknowledge : Bool) : StoreM ClaimRenewalResult :=
  publicCall clock
    (validateOwner env nodeId digest consumerIdentity clientPublicKey requestId generation)
    (reapLocked env) fun req now => renewClaimLocked env req acknowledge now

/-- `active_claims`. -/
def activeClaims (clock : Epoch) (nodeId : String) : StoreM (List ClaimRecord) :=
  publicCall clock (validateNodeId env nodeId) (reapLocked env) fun _ now => do
    let s ← getState
    return (s.claims.values.insertionSort fun a b => a.sequence ≤ b.sequence).filter fun c =>
      c.selectedNodeId = nodeId && now < c.leaseExpiresAtEpoch

/-! ## Responses -/

/-- `accept_encrypted_response` for an identity that is already terminal: the
retained record authenticates an exact retry. -/
def acceptRetry (req : OwnerRequest) (responseDigest : String) (terminal : TerminalOutcomeRecord) :
    Except StoreError ResponseAcceptanceResult :=
  if terminal.selectedNodeId = req.nodeId ∧ terminal.generation = req.generation ∧
      terminal.controlCredentialDigest = req.digest ∧
      terminal.consumerIdentityDigest = req.consumer ∧
      terminal.responseDigest = responseDigest then
    .ok ⟨terminal.generation, terminal.acceptedAtEpoch, terminal.replayExpiresAtEpoch, false⟩
  else .error (conflict "response lifecycle conflict")

/-- The response tables have no room for another response of this client. -/
def responseCapacityReached (s : Store) (client : String) : Prop :=
  env.config.maxResponses ≤ s.responses.size ∨
    (env.config.maxResponsesPerClient ≤
      s.responses.count fun _ r => r.clientIdentityDigest = client) ∨
    terminalCapacityReached env s client

instance (s : Store) (client : String) : Decidable (responseCapacityReached env s client) :=
  inferInstanceAs (Decidable (_ ∨ _))

/-- The response record of an accepted response. -/
def responseOf (req : OwnerRequest) (q : QueuedRequest) (envelope : EncryptedEnvelope)
    (responseDigest : String) (now : Epoch) : ResponseRecord :=
  ⟨req.identity.1, req.identity.2, q.clientPublicKey, q.requestId, req.nodeId, req.consumer,
    req.generation, envelope, now, responseDigest, now + env.config.responseReplayTtlSeconds⟩

/-- The terminal record of an accepted response. -/
def completedTerminal (req : OwnerRequest) (digest responseDigest retrieval cancellation : String)
    (now : Epoch) : TerminalOutcomeRecord where
  clientIdentityDigest := req.identity.1
  requestIdentityDigest := req.identity.2
  selectedNodeId := req.nodeId
  controlCredentialDigest := digest
  consumerIdentityDigest := req.consumer
  generation := req.generation
  responseDigest := responseDigest
  acceptedAtEpoch := now
  replayExpiresAtEpoch := now + env.config.responseReplayTtlSeconds
  expiresAtEpoch := now + env.config.terminalRetentionSeconds
  retrievalCredentialDigest := retrieval
  acknowledgementDigest := acknowledgementDigest env
    (deriveAcknowledgementToken env req.identity now responseDigest)
  cancellationTokenDigest := cancellation

/-- `accept_encrypted_response`, after its housekeeping. -/
def acceptEncryptedResponseLocked (req : OwnerRequest) (envelope : EncryptedEnvelope)
    (responseDigest : String) (now : Epoch) : StoreM ResponseAcceptanceResult := do
  let s ← getState
  match s.terminals.get? req.identity with
  | some terminal => ofExcept (acceptRetry req responseDigest terminal)
  | none =>
    match s.records.get? req.nodeId with
    | none => raise (credentialMismatch "response owner is invalid")
    | some registration =>
      raiseIf (registration.controlCredentialDigest ≠ req.digest)
        (credentialMismatch "response owner is invalid")
      match s.claims.get? req.identity with
      | none => raise (conflict "response claim is missing or expired")
      | some claim =>
        raiseIf (claim.generation ≠ req.generation)
          (conflict "response claim generation is stale")
        raiseIf (claim.selectedNodeId ≠ req.nodeId ∨ claim.consumerIdentityDigest ≠ req.consumer)
          (credentialMismatch "response owner is invalid")
        raiseIf (claim.leaseExpiresAtEpoch ≤ now ∨ claim.requestDeadlineEpoch ≤ now)
          (conflict "response claim is missing or expired")
        match s.queued.get? req.identity with
        | none => raise (conflict "response lifecycle identity conflict")
        | some q =>
          raiseIf (q.selectedNodeId ≠ req.nodeId ∨ q.clientPublicKey ≠ req.clientPublicKey ∨
              q.requestId ≠ req.requestId)
            (conflict "response lifecycle identity conflict")
          raiseIf (responseCapacityReached env s req.identity.1)
            (capacityExceeded "response lifecycle capacity reached")
          raiseIf (¬isfiniteSum (now + env.config.responseReplayTtlSeconds) ∨
              ¬isfiniteSum (now + env.config.terminalRetentionSeconds))
            (storeError "response retention deadline must be finite")
          match s.queuedTokenDigests.get? req.identity with
          | none => raise (lookupError "queued token digest")
          | some retrieval =>
            match s.cancellationTokenDigests.get? req.identity with
            | none => raise (lookupError "cancellation token digest")
            | some cancellation =>
              modifyState fun s => removeQueuedIdentityLocked req.identity q { s with
                responses := s.responses.set req.identity
                  (responseOf env req q envelope responseDigest now)
                terminals := s.terminals.set req.identity
                  (completedTerminal env req registration.controlCredentialDigest responseDigest
                    retrieval cancellation now) }
              return ⟨req.generation, now, now + env.config.responseReplayTtlSeconds, true⟩

/-- The argument checks of `accept_encrypted_response`, and the response digest. -/
def validateAcceptance (nodeId digest consumerIdentity clientPublicKey requestId : String)
    (generation : Nat) (envelope : EncryptedEnvelope) :
    Except StoreError (OwnerRequest × String) := do
  let req ← validateOwner env nodeId digest consumerIdentity clientPublicKey requestId generation
  require ((serializedResponseEnvelope envelope).utf8ByteSize ≤ env.config.maxResponseEnvelopeBytes)
    (storeError "encrypted response exceeds its configured byte bound")
  return (req, env.runtime.sha256 (utf8 (serializedResponseEnvelope envelope)))

/-- `accept_encrypted_response`. -/
def acceptEncryptedResponse (clock : Epoch) (nodeId digest consumerIdentity clientPublicKey
    requestId : String) (generation : Nat) (envelope : EncryptedEnvelope) :
    StoreM ResponseAcceptanceResult :=
  publicCall clock
    (validateAcceptance env nodeId digest consumerIdentity clientPublicKey requestId generation
      envelope)
    (reapLocked env) fun req now => acceptEncryptedResponseLocked env req.1 envelope req.2 now

/-- `retrieve_encrypted_response` for a response that is ready. -/
def retrieveReadyLocked (identity : Identity) (terminal : TerminalOutcomeRecord)
    (acknowledgementToken : Option String) : StoreM ResponseRetrievalResult := do
  let s ← getState
  match s.responses.get? identity with
  | none =>
    -- defensive repair of a ready record without a response
    modifyState fun s => { s with
      terminals := s.terminals.set identity { terminal with retrievalState := .retrievalExpired } }
    return .settled .retrievalExpired
  | some response =>
    let rawToken := deriveAcknowledgementToken env identity terminal.acceptedAtEpoch
      terminal.responseDigest
    match acknowledgementToken with
    | none => return .ready response.envelope rawToken response.replayExpiresAtEpoch
    | some token =>
      if ¬(acknowledgementDigest env rawToken = terminal.acknowledgementDigest ∧
          safeAcknowledgementDigest env token = terminal.acknowledgementDigest) then
        return .invalidAcknowledgement
      else
        modifyState fun s => { s with
          responses := s.responses.erase identity
          terminals := s.terminals.set identity { terminal with retrievalState := .acknowledged } }
        return .settled .acknowledged

/-- `retrieve_encrypted_response`, after its housekeeping. -/
def retrieveEncryptedResponseLocked (identity : Identity) (retrievalCredential : String)
    (acknowledgementToken : Option String) : StoreM ResponseRetrievalResult := do
  let s ← getState
  match s.terminals.get? identity with
  | none => return .invalidRetrievalCredential
  | some terminal =>
    if safeRetrievalCredentialDigest env retrievalCredential ≠ terminal.retrievalCredentialDigest then
      return .invalidRetrievalCredential
    else if terminal.retrievalState ≠ .responseReady then
      if terminal.retrievalState = .acknowledged ∧
          ∃ token ∈ acknowledgementToken, acknowledgementMatches env identity terminal token = false then
        return .invalidAcknowledgement
      else return .settled terminal.retrievalState
    else retrieveReadyLocked env identity terminal acknowledgementToken

/-- `retrieve_encrypted_response`. -/
def retrieveEncryptedResponse (clock : Epoch)
    (clientPublicKey requestId retrievalCredential : String)
    (acknowledgementToken : Option String) : StoreM ResponseRetrievalResult :=
  publicCall clock (identityOf env clientPublicKey requestId) (reapLocked env) fun identity _ =>
    retrieveEncryptedResponseLocked env identity retrievalCredential acknowledgementToken

/-! ## Cancellation -/

/-- `cancel_or_expire_request`, after its housekeeping. -/
def cancelOrExpireRequestLocked (identity : Identity) (supplied : String) (status : Outcome)
    (reason : Reason) (now : Epoch) : StoreM TerminalTransitionResult := do
  let s ← getState
  match s.terminals.get? identity with
  | some terminal =>
    if status = .cancelled ∧ terminal.cancellationTokenDigest ≠ supplied then
      return ⟨.invalidCancellationProof, false⟩
    else return ⟨.terminal terminal.outcome terminal.reason, false⟩
  | none =>
    if status = .cancelled ∧ s.cancellationTokenDigests.get? identity ≠ some supplied then
      return ⟨.invalidCancellationProof, false⟩
    else
      match s.workRecord identity with
      | none => return ⟨.invalidCancellationProof, false⟩
      | some record =>
        if status = .expired ∧ now < record.requestDeadlineEpoch then
          return ⟨.notExpired, false⟩
        else terminalizeLocked env identity record status reason now

/-- `cancel_or_expire_request`. -/
def cancelOrExpireRequest (clock : Epoch) (clientPublicKey requestId : String)
    (cancellationToken : Option String) (status : Outcome) (reason : Reason) :
    StoreM TerminalTransitionResult := do
  raiseIf (¬((status = .cancelled ∧ reason = .requesterCancelled) ∨
      (status = .expired ∧ reason = .requestDeadlineExpired)))
    (storeError "terminal status or reason is invalid")
  match identityOf env clientPublicKey requestId with
  | .error _ => return ⟨.invalidCancellationProof, false⟩
  | .ok identity =>
    publicCall clock (.ok (safeCancellationTokenDigest env cancellationToken)) (reapLocked env)
      fun supplied now => cancelOrExpireRequestLocked env identity supplied status reason now

/-! ## Read methods -/

/-- `response_records`. -/
def responseRecords (clock : Epoch) : StoreM (List ResponseRecord) :=
  publicCall clock (.ok ()) (reapLocked env) fun _ _ => do
    let s ← getState
    return s.responses.values

/-- `terminal_records`. -/
def terminalRecords (clock : Epoch) : StoreM (List TerminalOutcomeRecord) :=
  publicCall clock (.ok ()) (reapLocked env) fun _ _ => do
    let s ← getState
    return s.terminals.values

/-- `control_tombstones`. -/
def controlTombstones (clock : Epoch) : StoreM (List ControlTombstoneRecord) :=
  publicCall clock (.ok ()) (reapLocked env) fun _ _ => do
    let s ← getState
    return s.controlTombstones.values

/-- `node_tombstones`. -/
def nodeTombstones (clock : Epoch) : StoreM (List NodeTombstoneRecord) :=
  publicCall clock (.ok ()) (reapLocked env) fun _ _ => do
    let s ← getState
    return (s.nodeTombstones.keys.insertionSort (· ≤ ·)).filterMap s.nodeTombstones.get?

end

end StateStore
