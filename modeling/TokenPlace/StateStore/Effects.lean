import TokenPlace.StateStore.Runs

/-!
# The elementary effects of the operations

Everything a method can do to the store, listed once: every write of the source
with the checks that precede it. `Sweep env P now s s'` is a write of the
housekeeping at the clock reading `now`; `P` restricts which lifecycles it may
terminalize with which outcome and is `Any` unless a result needs more.
`Commit env clock drawn op s r s'` is the write of the body of a public method.

A call is a sequence of sweeps and at most one commit (`Call.outcome` in
`Calls`), so a property of all runs needs one lemma per effect and never unfolds
a method.
-/

namespace StateStore

/-- `w` is a live record of the identity. -/
def Store.HasWork (s : Store) (id : Identity) : Work → Prop
  | .reservation r => s.reservations.get? id = some r
  | .queued q => s.queued.get? id = some q

/-- Which lifecycles may be terminalized, and with which outcome and reason. -/
abbrev TerminalPolicy := Work → Outcome → Reason → Prop

/-- No restriction. -/
def Any : TerminalPolicy := fun _ _ _ => True

section

variable (env : StoreEnv)

/-! ## Effects of the housekeeping -/

/-- The three callers of `_terminalize_locked`. -/
inductive TerminalOrigin (s : Store) (now : Epoch) (w : Work) : Outcome → Reason → Bool → Prop
  | deadline : w.requestDeadlineEpoch ≤ now →
      TerminalOrigin s now w .expired .requestDeadlineExpired false
  | requester : TerminalOrigin s now w .cancelled .requesterCancelled false
  | node {n : String} {p : PendingNodeTransition} {force : Bool} :
      s.pendingNodeTransitions.get? n = some p →
      TerminalOrigin s now w p.status p.reason force

/-- A live identity becomes terminal. -/
structure Terminalizes (P : TerminalPolicy) (now : Epoch) (id : Identity) (w : Work)
    (status : Outcome) (reason : Reason) (force : Bool) (s s' : Store) : Prop where
  origin : TerminalOrigin s now w status reason force
  allowed : P w status reason
  live : s.HasWork id w
  not_terminal : id ∉ s.terminals
  terminal_room : ¬terminalCapacityReached env s id.1
  tombstone_room : ∀ c ∈ tombstoneClaim s id w status now force,
    ¬controlTombstoneCapacityReached env s c.selectedNodeId
  post : s' = writeTerminal env id w status reason now
    (tombstoneClaim s id w status now force) s

/-- A due lifecycle is kept because it cannot be terminalized. -/
structure Defers (now : Epoch) (id : Identity) (w : Work) (s s' : Store) : Prop where
  live : s.HasWork id w
  due : w.requestDeadlineEpoch ≤ now
  post : s' = { s with
    deferredDeadlineIdentities := insert id s.deferredDeadlineIdentities }

/-- A short-lived reservation lapses. -/
structure Lapses (now : Epoch) (id : Identity) (r : ReservationRecord) (s s' : Store) : Prop where
  live : s.reservations.get? id = some r
  lapsed : r.reservationExpiresAtEpoch ≤ now
  kept : id ∉ s.deferredDeadlineIdentities
  post : s' = discardNodeWorkIdentityLocked r.selectedNodeId id
    { s with
      reservations := s.reservations.erase id
      cancellationTokenDigests := s.cancellationTokenDigests.erase id }

/-- The transition record that a removal at `now` creates. -/
def pendingOf (n : String) (record : ComputeNodeRegistration) (cause : Cause) (now : Epoch) :
    PendingNodeTransition :=
  ⟨n, nodeDigest env n, record.controlCredentialDigest, cause, .cancelled, .serverUnregistered, now⟩

/-- The removal of a node starts. -/
structure StartsRemoval (now : Epoch) (n : String) (record : ComputeNodeRegistration)
    (cause : Cause) (s s' : Store) : Prop where
  registered : s.records.get? n = some record
  not_pending : s.pendingNodeTransitions.get? n = none
  lease : cause = .registrationLeaseExpired → record.leaseExpiresAtEpoch ≤ now
  pending_room : s.pendingNodeTransitions.size < env.config.maxPendingNodeTransitions
  fence_room : record.controlCredentialDigest ∈ s.fencesOf (nodeDigest env n) ∨
    fenceCount s < env.config.maxRemovedOwnerFences
  tombstone_room : nodeDigest env n ∈ s.nodeTombstones ∨
    s.nodeTombstones.size < env.config.maxNodeTombstones
  post : s' = startTransition env n record (pendingOf env n record cause now) now s

/-- A work identity without a live record is dropped from the node's index. -/
structure DiscardsWork (n : String) (id : Identity) (s s' : Store) : Prop where
  dead : id ∈ s.terminals ∨ s.workRecord id = none
  post : s' = discardNodeWorkIdentityLocked n id s

/-- `setdefault` on the fences of a node. -/
structure TouchesFences (digest : String) (s s' : Store) : Prop where
  post : s' = { s with
    formerNodeAuthorities := s.formerNodeAuthorities.set digest (s.fencesOf digest) }

/-- The removal of a node completes. -/
structure FinishesRemoval (now : Epoch) (n : String) (p : PendingNodeTransition)
    (authority : FormerNodeAuthority) (s s' : Store) : Prop where
  pending : s.pendingNodeTransitions.get? n = some p
  no_work : (s.workOf n).entries = []
  fence : (s.fencesOf p.nodeIdentityDigest).get? p.controlCredentialDigest = some authority
  post : s' = { s with
    formerNodeAuthorities := s.formerNodeAuthorities.set p.nodeIdentityDigest
      ((s.fencesOf p.nodeIdentityDigest).set p.controlCredentialDigest
        { authority with expiresAtEpoch := now + env.config.terminalRetentionSeconds })
    pendingNodeTransitions := s.pendingNodeTransitions.erase n
    nodeTombstones :=
      match s.nodeTombstones.get? p.nodeIdentityDigest with
      | some tombstone =>
        s.nodeTombstones.set p.nodeIdentityDigest { tombstone with completed := true }
      | none => s.nodeTombstones }

/-! ## Effects of the registrations -/

/-- A node is registered. -/
structure Registers (now : Epoch) (n : String) (record : ComputeNodeRegistration)
    (s s' : Store) : Prop where
  absent : s.records.get? n = none
  not_pending : n ∉ s.pendingNodeTransitions
  room : s.records.size < env.config.maxComputeNodes
  not_fenced : record.controlCredentialDigest ∉ s.fencesOf (nodeDigest env n)
  node : record.nodeId = n
  at_now : record.registeredAtEpoch = now
  post : s' = { s with
    records := s.records.set n record
    schedulerStates := s.schedulerStates.set n {}
    registrationOrder := s.registrationOrder.set n s.nextRegistrationOrder
    nextRegistrationOrder := s.nextRegistrationOrder + 1 }

/-- A registration is refreshed by its owner. -/
structure Refreshes (n : String) (old new : ComputeNodeRegistration) (s s' : Store) : Prop where
  present : s.records.get? n = some old
  node : new.nodeId = n ∨ new.nodeId = old.nodeId
  owner : new.controlCredentialDigest = old.controlCredentialDigest
  post : s' = { s with records := s.records.set n new }

/-- The owner of a node sets its scheduler state. -/
structure SetsScheduler (n : String) (state : SchedulerNodeState) (s s' : Store) : Prop where
  present : n ∈ s.records
  post : s' = { s with schedulerStates := s.schedulerStates.set n state }

/-! ## Effects of the lifecycles -/

/-- A new lifecycle is reserved on a node. -/
structure Reserves (now : Epoch) (req : SelectionRequest) (record : ReservationRecord)
    (evicted : Option String) (s s' : Store) : Prop where
  finite : isfinite req.deadline
  unexpired : now < req.deadline
  within : req.deadline ≤ now + env.config.maxRequestTtlSeconds
  not_terminal : req.identity ∉ s.terminals
  not_queued : s.queued.get? req.identity = none
  not_reserved : s.reservations.get? req.identity = none
  room : s.reservations.size < env.config.maxReservations
  lifecycle_room : s.reservations.size + s.queued.size < env.config.maxRequestLifecycles
  client_room : clientLifecycleCount s req.identity.1 < env.config.maxReservationsPerClient
  node : record.selectedNodeId ∈ s.records
  node_room : reservationCount s record.selectedNodeId < env.config.maxReservationsPerNode
  depth_room : reservationCount s record.selectedNodeId + queueLength s record.selectedNodeId <
    env.config.maxQueueDepthPerNode
  cursor : cursorEvictionCandidate env s record.schedulerFingerprint = .ok evicted
  identity : record.identity = req.identity
  deadline : record.requestDeadlineEpoch = req.deadline
  expires : record.reservationExpiresAtEpoch =
    min (now + env.config.reservationTtlSeconds) req.deadline
  post : s' = writeReservation req record evicted s

/-- A reservation becomes a queued request. -/
structure Enqueues (now : Epoch) (req : EnqueueRequest) (r : ReservationRecord)
    (s s' : Store) : Prop where
  not_terminal : req.identity ∉ s.terminals
  not_queued : s.queued.get? req.identity = none
  reserved : s.reservations.get? req.identity = some r
  registered : ∃ registration, s.records.get? r.selectedNodeId = some registration ∧
    now < registration.leaseExpiresAtEpoch
  not_pending : r.selectedNodeId ∉ s.pendingNodeTransitions
  node : r.selectedNodeId = req.selectedNodeId
  deadline : r.requestDeadlineEpoch = req.deadline
  unexpired : now < req.deadline
  token : r.tokenDigest = req.tokenDigest
  depth_room : queueLength s req.selectedNodeId < env.config.maxQueueDepthPerNode
  room : s.queued.size < env.config.maxQueuedRequests
  client_room : (s.queued.count fun _ q => q.clientIdentityDigest = req.identity.1) <
    env.config.maxQueuedRequestsPerClient
  post : s' = writeQueued req now s

/-- The generation counter advances for a claim whose deadline overflows. -/
structure Advances (now : Epoch) (n : String) (q : QueuedRequest) (s s' : Store) : Prop where
  queued : q ∈ s.queueOf n
  overflow : ¬isfiniteSum (min (now + env.config.claimTtlSeconds) q.requestDeadlineEpoch)
  post : s' = { s with nextClaimGeneration := s.nextClaimGeneration + 1 }

/-- A queued request is handed to a consumer of its node. -/
structure Claims (now : Epoch) (n consumer : String) (registration : ComputeNodeRegistration)
    (q : QueuedRequest) (s s' : Store) : Prop where
  registered : s.records.get? n = some registration
  queued : q ∈ s.queueOf n
  unexpired : now < q.requestDeadlineEpoch
  unclaimed : ∀ c, s.claims.get? q.identity = some c → c.leaseExpiresAtEpoch ≤ now
  room : activeClaimCount s now < env.config.maxClaims
  node_room : activeNodeClaimCount s now n < env.config.maxClaimsPerNode
  post : s' = { s with
    nextClaimGeneration := s.nextClaimGeneration + 1
    claims := s.claims.set q.identity
      (claimOf q consumer n registration.controlCredentialDigest (s.nextClaimGeneration + 1)
        (min (now + env.config.claimTtlSeconds) q.requestDeadlineEpoch)) }

/-- The lease of a claim is extended by its owner. -/
structure RenewsClaim (now : Epoch) (req : OwnerRequest) (registration : ComputeNodeRegistration)
    (c : ClaimRecord) (s s' : Store) : Prop where
  no_tombstone : s.controlTombstones.get? req.identity = none
  registered : s.records.get? req.nodeId = some registration
  owner : registration.controlCredentialDigest = req.digest
  claimed : s.claims.get? req.identity = some c
  generation : c.generation = req.generation
  node : c.selectedNodeId = req.nodeId
  consumer : c.consumerIdentityDigest = req.consumer
  unexpired : now < c.requestDeadlineEpoch
  lease : now < c.leaseExpiresAtEpoch
  post : s' = { s with claims := s.claims.set req.identity { c with
    leaseExpiresAtEpoch := min (now + env.config.claimTtlSeconds) c.requestDeadlineEpoch } }

/-- The owner of a stopped claim acknowledges its tombstone. -/
structure AcknowledgesControl (req : OwnerRequest) (t : ControlTombstoneRecord)
    (s s' : Store) : Prop where
  present : s.controlTombstones.get? req.identity = some t
  owner : t.selectedNodeId = req.nodeId ∧ t.generation = req.generation ∧
    t.controlCredentialDigest = req.digest ∧ t.consumerIdentityDigest = req.consumer
  post : s' = { s with controlTombstones := s.controlTombstones.set req.identity { t with
    acknowledged := true } }

/-- A response completes a claimed request. -/
structure Accepts (now : Epoch) (req : OwnerRequest) (envelope : EncryptedEnvelope)
    (responseDigest : String) (registration : ComputeNodeRegistration) (c : ClaimRecord)
    (q : QueuedRequest) (retrieval cancellation : String) (s s' : Store) : Prop where
  not_terminal : s.terminals.get? req.identity = none
  registered : s.records.get? req.nodeId = some registration
  owner : registration.controlCredentialDigest = req.digest
  claimed : s.claims.get? req.identity = some c
  generation : c.generation = req.generation
  node : c.selectedNodeId = req.nodeId
  consumer : c.consumerIdentityDigest = req.consumer
  lease : now < c.leaseExpiresAtEpoch
  unexpired : now < c.requestDeadlineEpoch
  queued : s.queued.get? req.identity = some q
  queued_node : q.selectedNodeId = req.nodeId
  client : q.clientPublicKey = req.clientPublicKey ∧ q.requestId = req.requestId
  room : ¬responseCapacityReached env s req.identity.1
  token : s.queuedTokenDigests.get? req.identity = some retrieval
  cancel : s.cancellationTokenDigests.get? req.identity = some cancellation
  post : s' = removeQueuedIdentityLocked req.identity q { s with
    responses := s.responses.set req.identity (responseOf env req q envelope responseDigest now)
    terminals := s.terminals.set req.identity (completedTerminal env req
      registration.controlCredentialDigest responseDigest retrieval cancellation now) }

/-- The requester acknowledges a response. -/
structure AcknowledgesResponse (id : Identity) (t : TerminalOutcomeRecord) (r : ResponseRecord)
    (credential token : String) (s s' : Store) : Prop where
  present : s.terminals.get? id = some t
  ready : t.retrievalState = .responseReady
  response : s.responses.get? id = some r
  credential : safeRetrievalCredentialDigest env credential = t.retrievalCredentialDigest
  token : safeAcknowledgementDigest env token = t.acknowledgementDigest
  post : s' = { s with
    responses := s.responses.erase id
    terminals := s.terminals.set id { t with retrievalState := .acknowledged } }

/-- A ready terminal record without a response is repaired. -/
structure Repairs (id : Identity) (t : TerminalOutcomeRecord) (s s' : Store) : Prop where
  present : s.terminals.get? id = some t
  ready : t.retrievalState = .responseReady
  missing : s.responses.get? id = none
  post : s' = { s with
    terminals := s.terminals.set id { t with retrievalState := .retrievalExpired } }

/-! ## The effect relations -/

/-- One write of the housekeeping at the reading `now`. -/
inductive Sweep (P : TerminalPolicy) (now : Epoch) : Store → Store → Prop
  | reapRetained (s : Store) : Sweep P now s (reapRetainedLocked now s)
  | terminalize {id w status reason force s s'} :
      Terminalizes env P now id w status reason force s s' → Sweep P now s s'
  | defer {id w s s'} : Defers now id w s s' → Sweep P now s s'
  | lapse {id r s s'} : Lapses now id r s s' → Sweep P now s s'
  | startRemoval {n record cause s s'} :
      StartsRemoval env now n record cause s s' → Sweep P now s s'
  | discardWork {n id s s'} : DiscardsWork n id s s' → Sweep P now s s'
  | touchFences {digest s s'} : TouchesFences digest s s' → Sweep P now s s'
  | finishRemoval {n p authority s s'} :
      FinishesRemoval env now n p authority s s' → Sweep P now s s'

/-- A sequence of writes of the housekeeping at one clock reading. -/
def Sweeps (P : TerminalPolicy) (now : Epoch) : Store → Store → Prop :=
  Relation.ReflTransGen (Sweep env P now)

/-- The write of the body of a public method, with the result it leads to. -/
inductive Commit (now : Epoch) (drawn : String) :
    Op → Store → Except StoreError Reply → Store → Prop
  | register {n caps d lease s s'} :
      Registers env now n ⟨n, caps, d, now, lease⟩ s s' →
      Commit now drawn (.register n caps d) s (.ok (.registered ⟨n, caps, d, now, lease⟩)) s'
  | reregister {n caps d old new s s'} : old.controlCredentialDigest = d →
      Refreshes n old new s s' →
      Commit now drawn (.register n caps d) s (.ok (.registered new)) s'
  | renew {n d caps old new s s'} : Refreshes n old new s s' →
      Commit now drawn (.renew n d caps) s (.ok (.registration (some new))) s'
  | setScheduler {n d state s s'} : SetsScheduler n state s s' →
      Commit now drawn (.setSchedulerState n d state) s (.ok (.flag true)) s'
  | reserve {client request model tier due token req record evicted s s'} :
      validateSelection env client request model tier due token = .ok req ∧
        record.tokenDigest = tokenDigestOf env drawn →
      Reserves env now req record evicted s s' →
      Commit now drawn (.selectAndReserve client request model tier due token) s
        (.ok (.selection (selectionResult record (some drawn) true))) s'
  | enqueue {client request token n model tier due envelope cancellation req r s s'} :
      validateEnqueue env client request token n model tier due envelope cancellation = .ok req →
      Enqueues env now req r s s' →
      Commit now drawn
        (.enqueueEncryptedRequest client request token n model tier due envelope cancellation) s
        (.ok (.enqueued (enqueueResult (queuedOf req now (s.nextQueueSequence + 1)) true))) s'
  | advance {n d consumer q e s s'} : Advances env now n q s s' →
      Commit now drawn (.claimQueuedRequest n d consumer) s (.error e) s'
  | claim {n d consumer digest registration q s s'} :
      validateClaim env n d consumer = .ok digest →
      registration.controlCredentialDigest = d →
      Claims env now n digest registration q s s' →
      Commit now drawn (.claimQueuedRequest n d consumer) s
        (.ok (.claim (.work ⟨(s.claims.get? q.identity).isSome, s.nextClaimGeneration + 1,
          min (now + env.config.claimTtlSeconds) q.requestDeadlineEpoch, q.requestDeadlineEpoch,
          q.clientPublicKey, q.requestId, q.envelope⟩))) s'
  | renewClaim {n d consumer client request generation acknowledge req registration c s s'} :
      validateOwner env n d consumer client request generation = .ok req →
      RenewsClaim env now req registration c s s' →
      Commit now drawn
        (.renewClaimOrReadControl n d consumer client request generation acknowledge) s
        (.ok (.renewal (.continued req.generation
          (min (now + env.config.claimTtlSeconds) c.requestDeadlineEpoch)))) s'
  | acknowledgeControl {n d consumer client request generation acknowledge req t s s'} :
      validateOwner env n d consumer client request generation = .ok req →
      AcknowledgesControl req t s s' →
      Commit now drawn
        (.renewClaimOrReadControl n d consumer client request generation acknowledge) s
        (.ok (.renewal (.control t.status req.generation t.reason true))) s'
  | accept {n d consumer client request generation envelope req digest registration c q retrieval
        cancellation s s'} :
      validateAcceptance env n d consumer client request generation envelope =
        .ok (req, digest) →
      Accepts env now req envelope digest registration c q retrieval cancellation s s' →
      Commit now drawn
        (.acceptEncryptedResponse n d consumer client request generation envelope) s
        (.ok (.acceptance ⟨req.generation, now, now + env.config.responseReplayTtlSeconds, true⟩))
        s'
  | acknowledgeResponse {client request credential token id t r s s'} :
      identityOf env client request = .ok id →
      AcknowledgesResponse env id t r credential token s s' →
      Commit now drawn (.retrieveEncryptedResponse client request credential (some token)) s
        (.ok (.retrieval (.settled .acknowledged))) s'
  | repair {client request credential token id t s s'} :
      identityOf env client request = .ok id → Repairs id t s s' →
      Commit now drawn (.retrieveEncryptedResponse client request credential token) s
        (.ok (.retrieval (.settled .retrievalExpired))) s'
  | cancel {client request token status reason id w s s'} :
      identityOf env client request = .ok id →
      Terminalizes env Any now id w status reason false s s' →
      Commit now drawn (.cancelOrExpireRequest client request token status reason) s
        (.ok (.terminal ⟨.terminal status reason, true⟩)) s'

end

namespace Sweeps

variable {env : StoreEnv} {P Q : TerminalPolicy} {now : Epoch} {s s' s'' : Store}

theorem refl (s : Store) : Sweeps env P now s s := Relation.ReflTransGen.refl

theorem one (h : Sweep env P now s s') : Sweeps env P now s s' := Relation.ReflTransGen.single h

theorem trans (h : Sweeps env P now s s') (h' : Sweeps env P now s' s'') :
    Sweeps env P now s s'' :=
  Relation.ReflTransGen.trans h h'

theorem tail (h : Sweeps env P now s s') (h' : Sweep env P now s' s'') : Sweeps env P now s s'' :=
  Relation.ReflTransGen.tail h h'

theorem keeps {I : Store → Prop} (step : ∀ a b, Sweep env P now a b → I a → I b)
    (h : Sweeps env P now s s') (hs : I s) : I s' := by
  induction h with
  | refl => exact hs
  | tail _ h' ih => exact step _ _ h' ih

end Sweeps

end StateStore
