import TokenPlace.StateStore.Digests

/-!
# Housekeeping

The `_locked` methods that every public operation runs or shares: removing one
lifecycle (`terminalizeLocked`), removing one node in bounded batches
(`transitionNodeLocked`), evicting expired leases (`expireLocked`), and the
reaper (`reapRetainedLocked`, `reapLocked`).

A method that raises half way keeps what it has written, as the source does.
-/

namespace StateStore

open Method

/-- A method of the store. -/
abbrev StoreM := Method Store StoreError

/-- `TerminalTransitionResult.state` and `.reason`. -/
inductive TransitionReply
  | terminal (outcome : Outcome) (reason : Reason)
  | invalidCancellationProof
  | notExpired
deriving DecidableEq, Repr

/-- `TerminalTransitionResult`. -/
structure TerminalTransitionResult where
  reply : TransitionReply
  newOutcome : Bool
deriving DecidableEq, Repr

/-- `NodeTransitionResult.state`. -/
inductive TransitionState
  | transitioning
  | complete
  | alreadyComplete
  | notFound
  | leaseActive
deriving DecidableEq, Repr

/-- `NodeTransitionResult`. -/
structure NodeTransitionResult where
  state : TransitionState
  cause : Cause
  transitionEpoch : Option Epoch
  processedCount : Nat
  reservationsTerminalized : Nat
  queuedTerminalized : Nat
  claimsTerminalized : Nat
  newOutcomes : Nat
  continuationRequired : Bool
deriving DecidableEq

/-- A result that reports no work. -/
def idleTransition (state : TransitionState) (cause : Cause) (epoch : Option Epoch) :
    NodeTransitionResult :=
  ⟨state, cause, epoch, 0, 0, 0, 0, 0, false⟩

/-! ## Removing one identity -/

/-- `_discard_node_work_identity_locked` on the index: an emptied node is dropped. -/
def discardWork (nodeId : String) (identity : Identity)
    (index : OrderedDict String (OrderedDict Identity Unit)) :
    OrderedDict String (OrderedDict Identity Unit) :=
  match index.get? nodeId with
  | none => index
  | some identities =>
    if (identities.erase identity).entries = [] then index.erase nodeId
    else index.set nodeId (identities.erase identity)

/-- `_discard_node_work_identity_locked`. -/
def discardNodeWorkIdentityLocked (nodeId : String) (identity : Identity) (s : Store) : Store :=
  { s with nodeWorkIdentities := discardWork nodeId identity s.nodeWorkIdentities }

/-- The node queues without `q`: an emptied queue is dropped. -/
def dropFromQueue (q : QueuedRequest) (s : Store) : OrderedDict String (List QueuedRequest) :=
  let remaining := (s.queueOf q.selectedNodeId).filter fun item => item ≠ q
  if remaining = [] then s.nodeQueues.erase q.selectedNodeId
  else s.nodeQueues.set q.selectedNodeId remaining

/-- `_remove_queued_identity_locked`. -/
def removeQueuedIdentityLocked (identity : Identity) (q : QueuedRequest) (s : Store) : Store :=
  discardNodeWorkIdentityLocked q.selectedNodeId identity
    { s with
      queued := s.queued.erase identity
      queuedTokenDigests := s.queuedTokenDigests.erase identity
      cancellationTokenDigests := s.cancellationTokenDigests.erase identity
      nodeQueues := dropFromQueue q s
      claims := s.claims.erase identity }

section

variable (env : StoreEnv)

/-- The claim that gets a control tombstone when its request is terminalized. -/
def tombstoneClaim (s : Store) (identity : Identity) (record : Work) (status : Outcome)
    (now : Epoch) (forceClaimTombstone : Bool) : Option ClaimRecord :=
  (s.claims.get? identity).filter fun claim =>
    forceClaimTombstone || (status = .cancelled && now < claim.leaseExpiresAtEpoch) ||
      (status = .expired && record.requestDeadlineEpoch ≤ claim.leaseExpiresAtEpoch)

/-- The terminal tables have no room for another record of this client. -/
def terminalCapacityReached (s : Store) (client : String) : Prop :=
  env.config.maxTerminalRecords ≤ s.terminals.size ∨
    env.config.maxTerminalRecordsPerClient ≤
      s.terminals.count fun _ t => t.clientIdentityDigest = client

instance (s : Store) (client : String) : Decidable (terminalCapacityReached env s client) :=
  inferInstanceAs (Decidable (_ ∨ _))

/-- The tombstone table has no room for another tombstone of this node. -/
def controlTombstoneCapacityReached (s : Store) (nodeId : String) : Prop :=
  env.config.maxControlTombstones ≤ s.controlTombstones.size ∨
    env.config.maxControlTombstonesPerNode ≤
      s.controlTombstones.count fun _ t => t.selectedNodeId = nodeId

instance (s : Store) (nodeId : String) :
    Decidable (controlTombstoneCapacityReached env s nodeId) :=
  inferInstanceAs (Decidable (_ ∨ _))

/-- The terminal record that `_terminalize_locked` writes. -/
def terminalOf (s : Store) (identity : Identity) (record : Work) (status : Outcome)
    (reason : Reason) (now : Epoch) (claim : Option ClaimRecord) : TerminalOutcomeRecord where
  clientIdentityDigest := identity.1
  requestIdentityDigest := identity.2
  selectedNodeId := record.selectedNodeId
  controlCredentialDigest := (claim.map (·.controlCredentialDigest)).getD ""
  consumerIdentityDigest := (claim.map (·.consumerIdentityDigest)).getD ""
  generation := (claim.map (·.generation)).getD 0
  responseDigest := ""
  acceptedAtEpoch := now
  replayExpiresAtEpoch := now
  expiresAtEpoch := now + env.config.terminalRetentionSeconds
  outcome := status
  retrievalState := .completedUnavailable
  reason := reason
  cancellationTokenDigest := (s.cancellationTokenDigests.get? identity).getD ""

/-- The control tombstone that `_terminalize_locked` writes for a claim. -/
def controlTombstoneOf (identity : Identity) (status : Outcome) (reason : Reason) (now : Epoch)
    (claim : ClaimRecord) : ControlTombstoneRecord where
  clientIdentityDigest := identity.1
  requestIdentityDigest := identity.2
  selectedNodeId := claim.selectedNodeId
  controlCredentialDigest := claim.controlCredentialDigest
  consumerIdentityDigest := claim.consumerIdentityDigest
  generation := claim.generation
  status := status
  reason := reason
  requestDeadlineEpoch := claim.requestDeadlineEpoch
  acknowledged := false
  expiresAtEpoch := min (now + env.config.controlTombstoneTtlSeconds) (now + 300)

/-- The writes of `_terminalize_locked`, after its last check. -/
def writeTerminal (identity : Identity) (record : Work) (status : Outcome) (reason : Reason)
    (now : Epoch) (claim : Option ClaimRecord) (s : Store) : Store :=
  let terminal := terminalOf env s identity record status reason now claim
  let s := { s with terminals := s.terminals.set identity terminal }
  let s := match claim with
    | some c =>
      { s with controlTombstones :=
          s.controlTombstones.set identity (controlTombstoneOf env identity status reason now c) }
    | none => s
  let s := { s with reservations := s.reservations.erase identity }
  let s := match s.queued.get? identity with
    | some q => removeQueuedIdentityLocked identity q s
    | none => s
  discardNodeWorkIdentityLocked record.selectedNodeId identity
    { s with
      cancellationTokenDigests := s.cancellationTokenDigests.erase identity
      queuedTokenDigests := s.queuedTokenDigests.erase identity
      deferredDeadlineIdentities := s.deferredDeadlineIdentities.erase identity }

/-- `_terminalize_locked`. -/
def terminalizeLocked (identity : Identity) (record : Work) (status : Outcome) (reason : Reason)
    (now : Epoch) (forceClaimTombstone : Bool := false) : StoreM TerminalTransitionResult := do
  let s ← getState
  let claim := tombstoneClaim s identity record status now forceClaimTombstone
  raiseIf (terminalCapacityReached env s identity.1)
    (capacityExceeded "terminal lifecycle capacity reached")
  raiseIf (∃ c ∈ claim, controlTombstoneCapacityReached env s c.selectedNodeId)
    (capacityExceeded "control tombstone capacity reached")
  modifyState (writeTerminal env identity record status reason now claim)
  return ⟨.terminal status reason, true⟩

/-! ## Removing one node -/

/-- `sum(len(authorities) for authorities in _former_node_authorities.values())`. -/
def fenceCount (s : Store) : Nat := (s.formerNodeAuthorities.values.map OrderedDict.size).sum

/-- Eligibility is removed before any work batch is attempted: the writes that
start a transition. -/
def startTransition (nodeId : String) (record : ComputeNodeRegistration)
    (pending : PendingNodeTransition) (now : Epoch) (s : Store) : Store :=
  let digest := nodeDigest env nodeId
  { s with
    records := s.records.erase nodeId
    schedulerStates := s.schedulerStates.erase nodeId
    registrationOrder := s.registrationOrder.erase nodeId
    fairnessCursors := s.fairnessCursors.filter fun _ cursor => cursor.1 ≠ nodeId
    pendingNodeTransitions := s.pendingNodeTransitions.set nodeId pending
    formerNodeAuthorities := s.formerNodeAuthorities.set digest
      ((s.fencesOf digest).set record.controlCredentialDigest
        ⟨record.controlCredentialDigest, pending.cause, pending.status, now,
          now + env.config.terminalRetentionSeconds⟩)
    nodeTombstones := s.nodeTombstones.set digest
      ⟨digest, record.controlCredentialDigest, pending.cause, pending.status, now,
        (s.workOf nodeId).entries = [],
        min (now + env.config.nodeTombstoneTtlSeconds) (now + 300)⟩ }

/-- The counters of the batch loop. -/
structure BatchCounts where
  processed : Nat := 0
  reservations : Nat := 0
  queued : Nat := 0
  claims : Nat := 0
  outcomes : Nat := 0
deriving DecidableEq

/-- The batch loop of `_transition_node_locked`. A capacity error ends the loop. -/
def transitionBatch (nodeId : String) (pending : PendingNodeTransition) (now : Epoch) :
    List Identity → BatchCounts → StoreM BatchCounts
  | [], counts => pure counts
  | identity :: rest, counts => do
    let s ← getState
    if identity ∈ s.terminals then
      modifyState (discardNodeWorkIdentityLocked nodeId identity)
      transitionBatch nodeId pending now rest { counts with processed := counts.processed + 1 }
    else
      match s.workRecord identity with
      | none =>
        modifyState (discardNodeWorkIdentityLocked nodeId identity)
        transitionBatch nodeId pending now rest { counts with processed := counts.processed + 1 }
      | some work =>
        let result ← catching
          (do
            let r ← terminalizeLocked env identity work pending.status pending.reason now
              (s.claims.get? identity).isSome
            return some r)
          fun e => if e.kind = .capacityExceeded then pure none else raise e
        match result with
        | none => return counts
        | some r =>
          transitionBatch nodeId pending now rest
            { processed := counts.processed + 1
              reservations := counts.reservations + (s.reservations.get? identity).toList.length
              queued := counts.queued + (s.queued.get? identity).toList.length
              claims := counts.claims + (s.claims.get? identity).toList.length
              outcomes := counts.outcomes + r.newOutcome.toNat }

/-- The end of `_transition_node_locked` once no work is left on the node. -/
def finishTransition (nodeId : String) (pending : PendingNodeTransition) (now : Epoch) :
    StoreM Unit := do
  let fenceExpiry := now + env.config.terminalRetentionSeconds
  raiseIf (¬isfiniteSum fenceExpiry) (storeError "former-owner retention deadline must be finite")
  modifyState fun s => { s with
    formerNodeAuthorities :=
      s.formerNodeAuthorities.set pending.nodeIdentityDigest (s.fencesOf pending.nodeIdentityDigest) }
  let s ← getState
  let ownerFences := s.fencesOf pending.nodeIdentityDigest
  match ownerFences.get? pending.controlCredentialDigest with
  | none => raise (lookupError pending.controlCredentialDigest)
  | some authority =>
    modifyState fun s => { s with
      formerNodeAuthorities := s.formerNodeAuthorities.set pending.nodeIdentityDigest
        (ownerFences.set pending.controlCredentialDigest
          { authority with expiresAtEpoch := fenceExpiry })
      pendingNodeTransitions := s.pendingNodeTransitions.erase nodeId
      nodeTombstones :=
        match s.nodeTombstones.get? pending.nodeIdentityDigest with
        | some tombstone =>
          s.nodeTombstones.set pending.nodeIdentityDigest { tombstone with completed := true }
        | none => s.nodeTombstones }

/-- One batch of a transition that has started. -/
def continueTransition (nodeId : String) (pending : PendingNodeTransition) (now : Epoch) :
    StoreM NodeTransitionResult := do
  let s ← getState
  let batch := (s.workOf nodeId).keys.take env.config.nodeTransitionBatchSize
  let counts ← transitionBatch env nodeId pending now batch {}
  let s ← getState
  let continuation : Bool := (s.workOf nodeId).entries ≠ []
  if continuation then
    modifyState fun s => { s with
      pendingNodeTransitions := s.pendingNodeTransitions.set nodeId pending }
  else
    finishTransition env nodeId pending now
  return ⟨if continuation then .transitioning else .complete, pending.cause,
    some pending.transitionEpoch, counts.processed, counts.reservations, counts.queued,
    counts.claims, counts.outcomes, continuation⟩

/-- `max(matching, key=transition_epoch, default=None)`: the first of the greatest. -/
def latestAuthority : List FormerNodeAuthority → Option FormerNodeAuthority
  | [] => none
  | a :: rest =>
    match latestAuthority rest with
    | none => some a
    | some b => if a.transitionEpoch < b.transitionEpoch then some b else some a

/-- `_transition_node_locked` for a node that is neither registered nor pending. -/
def absentTransition (nodeId : String) (suppliedDigest : Option String) (cause : Cause)
    (s : Store) : Except StoreError NodeTransitionResult :=
  let former := s.fencesOf (nodeDigest env nodeId)
  let matching := match cause with
    | .explicitUnregister =>
      (former.filter fun owner _ => owner = suppliedDigest.getD "").values
    | .registrationLeaseExpired => (former.filter fun _ a => a.cause = cause).values
  let retained := match latestAuthority matching with
    | some a => idleTransition .alreadyComplete a.cause (some a.transitionEpoch)
    | none => idleTransition .notFound cause none
  match s.nodeTombstones.get? (nodeDigest env nodeId) with
  | some tombstone =>
    if cause = .explicitUnregister then
      if tombstone.controlCredentialDigest ≠ suppliedDigest.getD "" then
        .error (credentialMismatch "control credential digest does not own this transition")
      else .ok (idleTransition .alreadyComplete tombstone.cause (some tombstone.transitionEpoch))
    else .ok retained
  | none => .ok retained

/-- `_transition_node_locked`. -/
def transitionNodeLocked (nodeId : String) (suppliedDigest : Option String) (cause : Cause)
    (now : Epoch) : StoreM NodeTransitionResult := do
  let s ← getState
  match s.pendingNodeTransitions.get? nodeId with
  | some pending =>
    raiseIf (cause ≠ pending.cause) (conflict "node transition cause conflicts")
    raiseIf (cause = .explicitUnregister ∧
        pending.controlCredentialDigest ≠ suppliedDigest.getD "")
      (credentialMismatch "control credential digest does not own this transition")
    continueTransition env nodeId pending now
  | none =>
    match s.records.get? nodeId with
    | none => ofExcept (absentTransition env nodeId suppliedDigest cause s)
    | some record =>
      raiseIf (cause = .explicitUnregister ∧
          record.controlCredentialDigest ≠ suppliedDigest.getD "")
        (credentialMismatch "control credential digest does not own this registration")
      if cause = .registrationLeaseExpired ∧ now < record.leaseExpiresAtEpoch then
        return idleTransition .leaseActive cause none
      else
        raiseIf (env.config.maxPendingNodeTransitions ≤ s.pendingNodeTransitions.size)
          (capacityExceeded "pending node-transition capacity reached")
        raiseIf (record.controlCredentialDigest ∉ s.fencesOf (nodeDigest env nodeId) ∧
            env.config.maxRemovedOwnerFences ≤ fenceCount s)
          (capacityExceeded "removed-owner fencing capacity reached")
        raiseIf (nodeDigest env nodeId ∉ s.nodeTombstones ∧
            env.config.maxNodeTombstones ≤ s.nodeTombstones.size)
          (capacityExceeded "node tombstone capacity reached")
        let pending : PendingNodeTransition :=
          ⟨nodeId, nodeDigest env nodeId, record.controlCredentialDigest, cause, .cancelled,
            .serverUnregistered, now⟩
        modifyState (startTransition env nodeId record pending now)
        continueTransition env nodeId pending now

end

/-! ## Retention -/

/-- One iteration over `_responses` in `_reap_retained_locked`. -/
def reapResponse (now : Epoch) (s : Store) (entry : Identity × ResponseRecord) : Store :=
  if entry.2.replayExpiresAtEpoch ≤ now then
    { s with
      responses := s.responses.erase entry.1
      terminals :=
        match s.terminals.get? entry.1 with
        | some terminal =>
          if terminal.retrievalState = .responseReady then
            s.terminals.set entry.1 { terminal with retrievalState := .retrievalExpired }
          else s.terminals
        | none => s.terminals }
  else s

/-- `pending_authorities.get(node_digest)`: a later transition overwrites an earlier one. -/
def pendingOwner (s : Store) (digest : String) : Option String :=
  (s.pendingNodeTransitions.values.reverse.find? fun p => p.nodeIdentityDigest = digest).map
    (·.controlCredentialDigest)

/-- `_reap_retained_locked`. -/
def reapRetainedLocked (now : Epoch) (s : Store) : Store :=
  let s := s.responses.entries.foldl (reapResponse now) s
  { s with
    terminals := s.terminals.filter fun _ t => ¬t.expiresAtEpoch ≤ now
    controlTombstones := s.controlTombstones.filter fun _ t => ¬t.expiresAtEpoch ≤ now
    nodeTombstones := s.nodeTombstones.filter fun _ t => ¬t.expiresAtEpoch ≤ now
    formerNodeAuthorities :=
      (s.formerNodeAuthorities.mapValues fun digest authorities =>
        authorities.filter fun owner a =>
          ¬(a.expiresAtEpoch ≤ now ∧ pendingOwner s digest ≠ some owner)).filter
        fun _ authorities => authorities.entries ≠ [] }

/-- One iteration over `_reservations` at the end of `_reap_locked`. -/
def reapReservation (now : Epoch) (s : Store) (entry : Identity × ReservationRecord) : Store :=
  if entry.2.reservationExpiresAtEpoch ≤ now ∧ entry.1 ∉ s.deferredDeadlineIdentities then
    discardNodeWorkIdentityLocked entry.2.selectedNodeId entry.1
      { s with
        reservations := s.reservations.erase entry.1
        cancellationTokenDigests := s.cancellationTokenDigests.erase entry.1 }
  else s

section

variable (env : StoreEnv)

/-- The registrations whose lease has run out, sorted by node id. -/
def expiredRecords (s : Store) (now : Epoch) : List ComputeNodeRegistration :=
  (s.records.values.filter fun r => r.leaseExpiresAtEpoch ≤ now).insertionSort
    fun a b => a.nodeId ≤ b.nodeId

/-- One iteration over the expired registrations in `_expire_locked`. -/
def evictLocked (now : Epoch) (record : ComputeNodeRegistration) : StoreM Unit := do
  let _ ← transitionNodeLocked env record.nodeId none .registrationLeaseExpired now
  return ()

/-- The one started transition that a sweep advances. -/
def continuePendingLocked (now : Epoch) (expired : List ComputeNodeRegistration) :
    StoreM Unit := do
  let s ← getState
  match (s.pendingNodeTransitions.keys.insertionSort (· ≤ ·)).head? with
  | none => pure ()
  | some nodeId =>
    if ∃ r ∈ expired, r.nodeId = nodeId then pure ()
    else
      match s.pendingNodeTransitions.get? nodeId with
      | none => raise (lookupError nodeId)
      | some pending =>
        let _ ← transitionNodeLocked env nodeId
          (if pending.cause = .explicitUnregister then some pending.controlCredentialDigest
            else none)
          pending.cause now
        return ()

/-- `_expire_locked`. -/
def expireLocked (now : Epoch) (continuePending : Bool := false) :
    StoreM (List ComputeNodeRegistration) := do
  modifyState (reapRetainedLocked now)
  let s ← getState
  let expired := expiredRecords s now
  forEach expired (evictLocked env now)
  if continuePending then continuePendingLocked env now expired else pure ()
  return expired

/-- The lifecycles whose request deadline has passed, reservations first. -/
def dueWork (s : Store) (now : Epoch) : List (Identity × Work) :=
  ((s.reservations.entries.filter fun e => e.2.requestDeadlineEpoch ≤ now).map
      fun e => (e.1, Work.reservation e.2)) ++
    ((s.queued.entries.filter fun e => e.2.requestDeadlineEpoch ≤ now).map
      fun e => (e.1, Work.queued e.2))

/-- One iteration over the due lifecycles in `_reap_locked`. -/
def expireDue (now : Epoch) (entry : Identity × Work) : StoreM Unit := do
  let s ← getState
  if entry.1 ∉ s.terminals ∧ (entry.1 ∈ s.reservations ∨ entry.1 ∈ s.queued) then
    catching
      (do
        let _ ← terminalizeLocked env entry.1 entry.2 .expired .requestDeadlineExpired now
        return ())
      fun e =>
        if e.kind = .capacityExceeded then
          -- the lifecycle is kept whole for a later authoritative transition
          modifyState fun s => { s with
            deferredDeadlineIdentities := insert entry.1 s.deferredDeadlineIdentities }
        else raise e
  else pure ()

/-- `_reap_locked`. -/
def reapLocked (now : Epoch) : StoreM Unit := do
  modifyState (reapRetainedLocked now)
  let s ← getState
  forEach (dueWork s now) (expireDue env now)
  let _ ← expireLocked env now
  modifyState fun s => s.reservations.entries.foldl (reapReservation now) s

end

end StateStore
