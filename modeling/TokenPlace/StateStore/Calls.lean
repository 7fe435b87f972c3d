import TokenPlace.StateStore.Decomposition

/-!
# A call as housekeeping and a body

Every public method is argument checks, a clock reading, a housekeeping prefix
(`Op.housekeeping`) and a body. A body leaves the state it found or makes one
write (`BodyOutcome`); only the removal of a node continues with sweeps.

* `Call.outcome`: the possible outcomes of any call on any store;
* `CallOutcome.keeps`: what every sweep and every commit keeps is kept by a call;
* `Reachable.invariant`: and holds in every reachable state.
-/

namespace StateStore

open Method

/-- The reply says that the call changed a lifecycle or a registration. -/
def Reply.reportsChange : Reply → Bool
  | .registered _ => true
  | .transition r => 0 < r.newOutcomes
  | .selection r => r.created
  | .enqueued r => r.created
  | .claim (.work _) => true
  | .renewal (.continued _ _) => true
  | .acceptance r => r.newOutcome
  | .terminal r => r.newOutcome
  | _ => false

/-- The housekeeping that a method runs before its body. -/
def Op.housekeeping (env : StoreEnv) : Op → Epoch → StoreM Unit
  | .register .. => registerHousekeeping env
  | .renew .. => leaseHousekeeping env
  | .get _ => leaseHousekeeping env
  | .list => leaseHousekeeping env
  | .setSchedulerState .. => leaseHousekeeping env
  | .expire => fun now => do
    let _ ← expireLocked env now true
    return ()
  | .unregister .. => retainedHousekeeping
  | .unregisterNodeAndTransitionWork .. => retainedHousekeeping
  | _ => reapLocked env

/-- The result without its value. -/
def discarding {α : Type} (x : Except StoreError α) : Except StoreError Unit := x.map fun _ => ()

/-- The argument validation of a method. -/
def Op.validate (env : StoreEnv) : Op → Except StoreError Unit
  | .register n _ d => validateCredential env n d
  | .renew n d _ => validateCredential env n d
  | .get n => validateNodeId env n
  | .list => .ok ()
  | .expire => .ok ()
  | .unregister n d => validateUnregister env n (some d) .explicitUnregister
  | .unregisterNodeAndTransitionWork n d cause => validateUnregister env n d cause
  | .setSchedulerState n d _ => validateCredential env n d
  | .selectAndReserve client request model tier due token =>
    discarding (validateSelection env client request model tier due token)
  | .enqueueEncryptedRequest client request token n model tier due envelope cancellation =>
    discarding
      (validateEnqueue env client request token n model tier due envelope cancellation)
  | .listReservations => .ok ()
  | .queuedRequests n => validateNodeId env n
  | .claimQueuedRequest n d consumer => discarding (validateClaim env n d consumer)
  | .renewClaimOrReadControl n d consumer client request generation _ =>
    discarding (validateOwner env n d consumer client request generation)
  | .activeClaims n => validateNodeId env n
  | .acceptEncryptedResponse n d consumer client request generation envelope =>
    discarding (validateAcceptance env n d consumer client request generation envelope)
  | .retrieveEncryptedResponse client request _ _ => discarding (identityOf env client request)
  | .responseRecords => .ok ()
  | .cancelOrExpireRequest client request _ status reason => do
    require ((status = .cancelled ∧ reason = .requesterCancelled) ∨
        (status = .expired ∧ reason = .requestDeadlineExpired))
      (storeError "terminal status or reason is invalid")
    discarding (identityOf env client request)
  | .controlTombstones => .ok ()
  | .nodeTombstones => .ok ()
  | .terminalRecords => .ok ()

/-! ## Bodies -/

/-- A body leaves the state it found or makes one write. -/
inductive BodyOutcome (env : StoreEnv) (now : Epoch) (drawn : String) (op : Op) (s : Store) :
    Except StoreError Reply → Store → Prop
  | unchanged {r : Except StoreError Reply} :
      (∀ reply, r = .ok reply → reply.reportsChange = false) →
      BodyOutcome env now drawn op s r s
  | committed {r : Except StoreError Reply} {s' : Store} : Commit env now drawn op s r s' →
      BodyOutcome env now drawn op s r s'

section

variable {env : StoreEnv} {now : Epoch} {drawn : String} {s : Store}

theorem BodyOutcome.raised {op : Op} {e : StoreError} :
    BodyOutcome env now drawn op s (.error e) s := .unchanged nofun

theorem BodyOutcome.quiet {op : Op} {reply : Reply} (h : reply.reportsChange = false) :
    BodyOutcome env now drawn op s (.ok reply) s :=
  .unchanged fun _ hr => by
    cases hr
    exact h

theorem registerLocked_ends {n : String} {caps : ComputeNodeCapabilities} {d : String}
    {lease : Epoch} :
    Ends (registerLocked env n caps d now lease) s fun r s' =>
      BodyOutcome env now drawn (.register n caps d) s (r.map .registered) s' := by
  unfold registerLocked
  simp only [ends_bind, ends_getState, ends_raiseIf, follow_ok, follow_error]
  refine ⟨fun _ => .raised, fun not_pending => ?_⟩
  cases hr : s.records.get? n with
  | none =>
    simp only [ends_bind, ends_raiseIf, follow_ok, follow_error, ends_modifyState, ends_pure]
    refine ⟨fun _ => .raised, fun room => ⟨fun _ => .raised, fun not_fenced => ?_⟩⟩
    exact .committed (.register ⟨hr, not_pending, not_le.mp room, not_fenced, rfl, rfl, rfl⟩)
  | some existing =>
    simp only [requireDigest, ends_bind, ends_raiseIf, follow_ok, follow_error, ends_modifyState,
      ends_pure, ne_eq, not_not]
    refine ⟨fun _ => .raised, fun owner => ?_⟩
    exact .committed (.reregister owner ⟨hr, .inl rfl, rfl, rfl⟩)

theorem renewLocked_ends {n d : String} {caps : Option ComputeNodeCapabilities} :
    Ends (renewLocked env n d caps now) s fun r s' =>
      BodyOutcome env now drawn (.renew n d caps) s (r.map .registration) s' := by
  unfold renewLocked
  simp only [ends_bind, ends_getState, follow_ok]
  cases hr : s.records.get? n with
  | none => exact .quiet rfl
  | some existing =>
    simp only [requireDigest, ends_bind, ends_raiseIf, follow_ok, follow_error, ends_ofExcept]
    refine ⟨fun _ => .raised, fun _ => ?_⟩
    cases leaseDeadline env now with
    | error e => exact .raised
    | ok lease => exact .committed (.renew ⟨hr, .inr rfl, rfl, rfl⟩)

theorem setSchedulerStateLocked_ends {n d : String} {state : SchedulerNodeState} :
    Ends (setSchedulerStateLocked n d state) s fun r s' =>
      BodyOutcome env now drawn (.setSchedulerState n d state) s (r.map .flag) s' := by
  unfold setSchedulerStateLocked
  simp only [ends_bind, ends_getState, follow_ok]
  cases hr : s.records.get? n with
  | none => exact .quiet rfl
  | some record =>
    simp only [requireDigest, ends_bind, ends_raiseIf, follow_ok, follow_error, ends_modifyState,
      ends_pure]
    exact ⟨fun _ => .raised,
      fun _ => .committed (.setScheduler ⟨OrderedDict.mem_of_get? hr, rfl⟩)⟩

/-! ### Admission -/

theorem eligibleNodes_spec {model : String} {tier : ContextTier}
    (l : List (String × ComputeNodeRegistration)) {found : List Candidate}
    (h : eligibleNodes env s model tier l = .ok found) {c : Candidate} (hc : c ∈ found) :
    ∃ record state, (c.nodeId, record) ∈ l ∧
      schedulable env s model tier c.nodeId record state = true := by
  induction l generalizing found with
  | nil =>
    cases h
    cases hc
  | cons entry l ih =>
    obtain ⟨n, record⟩ := entry
    unfold eligibleNodes at h
    cases hs : s.schedulerStates.get? n with
    | none =>
      rw [hs] at h
      cases h
    | some state =>
      rw [hs] at h
      dsimp only at h
      have later : ∀ found, eligibleNodes env s model tier l = .ok found → c ∈ found →
          ∃ record₁ state₁, (c.nodeId, record₁) ∈ (n, record) :: l ∧
            schedulable env s model tier c.nodeId record₁ state₁ = true := by
        intro found h hc
        obtain ⟨record₁, state₁, hm, hs⟩ := ih h hc
        exact ⟨record₁, state₁, List.mem_cons_of_mem _ hm, hs⟩
      split at h
      · next able =>
        cases ho : s.registrationOrder.get? n with
        | none =>
          rw [ho] at h
          cases h
        | some order =>
          rw [ho] at h
          dsimp only at h
          cases hrest : eligibleNodes env s model tier l with
          | error e =>
            rw [hrest] at h
            cases h
          | ok rest =>
            rw [hrest] at h
            cases h
            rcases List.mem_cons.mp hc with rfl | hc
            · exact ⟨record, state, List.mem_cons_self, able⟩
            · exact later rest hrest hc
      · exact later found h hc

theorem mem_of_mem_tiedCandidates {eligible : List Candidate} {c : Candidate}
    (h : c ∈ tiedCandidates eligible) : c ∈ eligible := by
  unfold tiedCandidates at h
  dsimp only at h
  rw [List.mem_insertionSort] at h
  exact List.mem_of_mem_filter (List.mem_of_mem_filter h)

theorem chooseCandidate_mem {fingerprint : String} {first : Candidate} {tied : List Candidate} :
    chooseCandidate s fingerprint first (first :: tied) ∈ first :: tied := by
  have found : ∀ p : Candidate → Bool,
      ((first :: tied).find? p).getD first ∈ first :: tied := by
    intro p
    cases hf : (first :: tied).find? p with
    | none => exact List.mem_cons_self
    | some c => exact List.mem_of_find?_eq_some hf
  unfold chooseCandidate
  cases s.fairnessCursors.get? fingerprint with
  | none => exact List.mem_cons_self
  | some cursor =>
    dsimp only
    cases s.registrationOrder.get? cursor.1 with
    | none => exact found _
    | some order => exact found _

variable {n d consumer client request : String} {envelope : EncryptedEnvelope}
  {token : Option String} {req : OwnerRequest} {generation : Nat} {due : Epoch}

theorem validateSelection_ok {client request model tier : String} {req : SelectionRequest}
    (h : validateSelection env client request model tier due token = .ok req) :
    identityOf env client request = .ok req.identity ∧ isfinite due ∧ req.deadline = due := by
  simp only [validateSelection, bind_ok_iff] at h
  obtain ⟨identity, hi, _, -, _, -, due', hd, h⟩ := h
  unfold deadline at hd
  split at hd
  · next finite =>
    cases hd
    cases token with
    | none =>
      cases h
      exact ⟨hi, finite, rfl⟩
    | some token =>
      obtain ⟨digest, -, h⟩ := bind_ok_iff.mp h
      cases h
      exact ⟨hi, finite, rfl⟩
  · cases hd

theorem validateEnqueue_ok {client request token n model tier : String} {cancellation : String}
    {req : EnqueueRequest}
    (h : validateEnqueue env client request token n model tier due envelope cancellation =
      .ok req) :
    identityOf env client request = .ok req.identity ∧ req.deadline = due ∧
      req.clientPublicKey = client ∧ req.requestId = request ∧
      tokenDigest env token = .ok req.tokenDigest := by
  simp only [validateEnqueue, bind_ok_iff] at h
  obtain ⟨identity, hi, _, -, _, -, _, -, due', hd, _, -, digest, ht, _, -, h⟩ := h
  unfold deadline at hd
  split at hd
  · cases hd
    cases h
    exact ⟨hi, rfl, rfl, rfl, ht⟩
  · cases hd

theorem validateOwner_ok (h : validateOwner env n d consumer client request generation = .ok req) :
    req.nodeId = n ∧ req.digest = d ∧ req.generation = generation ∧
      consumerDigest env consumer = .ok req.consumer ∧
      identityOf env client request = .ok req.identity := by
  simp only [validateOwner, bind_ok_iff] at h
  obtain ⟨_, -, _, -, digest, hc, identity, hi, _, -, h⟩ := h
  cases h
  exact ⟨rfl, rfl, rfl, hc, hi⟩

theorem validateAcceptance_ok {digest : String}
    (h : validateAcceptance env n d consumer client request generation envelope =
      .ok (req, digest)) :
    validateOwner env n d consumer client request generation = .ok req ∧
      digest = env.runtime.sha256 (utf8 (serializedResponseEnvelope envelope)) := by
  simp only [validateAcceptance, bind_ok_iff] at h
  obtain ⟨_, ho, _, -, h⟩ := h
  cases h
  exact ⟨ho, rfl⟩

theorem selectAndReserveLocked_ends {client request model tier : String} {req : SelectionRequest}
    (hreq : validateSelection env client request model tier due token = .ok req) :
    Ends (selectAndReserveLocked env drawn req now) s fun r s' =>
      BodyOutcome env now drawn (.selectAndReserve client request model tier due token) s
        (r.map .selection) s' := by
  unfold selectAndReserveLocked
  simp only [ends_bind, ends_getState, ends_raiseIf, follow_ok, follow_error]
  refine ⟨fun _ => .raised, fun unexpired => ⟨fun _ => .raised, fun within => ?_⟩⟩
  refine ⟨fun _ => .raised, fun not_terminal => ?_⟩
  cases hq : s.queued.get? req.identity with
  | some q =>
    simp only [requireSameParameters, ends_bind, ends_raiseIf, follow_ok, follow_error, ends_pure]
    exact ⟨fun _ => .raised, fun _ => ⟨fun _ => .raised, fun _ => .quiet rfl⟩⟩
  | none =>
    cases hr : s.reservations.get? req.identity with
    | some r =>
      simp only [requireSameParameters, ends_bind, ends_raiseIf, follow_ok, follow_error, ends_pure]
      exact ⟨fun _ => .raised, fun _ => ⟨fun _ => .raised, fun _ => .quiet rfl⟩⟩
    | none =>
      unfold reserveLocked
      simp only [ends_bind, ends_getState, ends_raiseIf, follow_ok, follow_error, ends_ofExcept]
      refine ⟨fun _ => .raised, fun room => ⟨fun _ => .raised, fun lifecycle => ?_⟩⟩
      refine ⟨fun _ => .raised, fun clientRoom => ?_⟩
      cases he : eligibleNodes env s req.modelId req.tier s.records.entries with
      | error e => exact .raised
      | ok eligible =>
        simp only [ends_bind, ends_raiseIf, follow_ok, follow_error]
        refine ⟨fun _ => .raised, fun _ => ?_⟩
        cases ht : tiedCandidates eligible with
        | nil => exact .raised
        | cons first tied =>
          simp only [ends_bind, ends_ofExcept]
          cases hev : cursorEvictionCandidate env s (schedulerFingerprint env req.modelId req.tier) with
          | error e => exact .raised
          | ok evicted =>
            simp only [ends_bind, ends_raiseIf, follow_ok, follow_error, ends_modifyState, ends_pure]
            refine ⟨fun _ => .raised, fun _ => ?_⟩
            have chosen : chooseCandidate s (schedulerFingerprint env req.modelId req.tier) first
                (first :: tied) ∈ eligible := by
              refine mem_of_mem_tiedCandidates ?_
              rw [ht]
              exact chooseCandidate_mem
            obtain ⟨record, state, registered, able⟩ := eligibleNodes_spec _ he chosen
            simp only [schedulable, Bool.and_eq_true, decide_eq_true_eq] at able
            obtain ⟨-, finite, due_eq⟩ := validateSelection_ok hreq
            refine .committed (.reserve ⟨hreq, rfl⟩
              { finite := due_eq ▸ finite
                unexpired := not_le.mp unexpired
                within := not_lt.mp within
                not_terminal := not_terminal
                not_queued := hq
                not_reserved := hr
                room := not_le.mp room
                lifecycle_room := not_le.mp lifecycle
                client_room := not_le.mp clientRoom
                node := OrderedDict.mem_of_get? (OrderedDict.mem_entries.mp registered)
                node_room := able.1.2
                depth_room := able.2
                cursor := hev
                identity := rfl
                deadline := rfl
                expires := rfl
                post := rfl })

theorem enqueueEncryptedRequestLocked_ends {client request token n model tier : String}
    {cancellation : String} {req : EnqueueRequest}
    (hreq : validateEnqueue env client request token n model tier due envelope cancellation =
      .ok req) :
    Ends (enqueueEncryptedRequestLocked env req now) s fun r s' =>
      BodyOutcome env now drawn
        (.enqueueEncryptedRequest client request token n model tier due envelope cancellation) s
        (r.map .enqueued) s' := by
  unfold enqueueEncryptedRequestLocked
  simp only [ends_bind, ends_getState, ends_raiseIf, follow_ok, follow_error]
  refine ⟨fun _ => .raised, fun unexpired => ⟨fun _ => .raised, fun not_terminal => ?_⟩⟩
  cases hq : s.queued.get? req.identity with
  | some q =>
    unfold enqueueRetryLocked
    simp only [requireSameParameters, ends_bind, ends_getState, ends_raiseIf, follow_ok,
      follow_error]
    refine ⟨fun _ => .raised, fun _ => ⟨fun _ => .raised, fun _ => ?_⟩⟩
    cases s.queuedTokenDigests.get? req.identity with
    | none => exact .raised
    | some stored =>
      simp only [ends_bind, ends_raiseIf, follow_ok, follow_error]
      refine ⟨fun _ => .raised, fun _ => ?_⟩
      cases s.cancellationTokenDigests.get? req.identity with
      | none => exact .raised
      | some stored =>
        simp only [ends_bind, ends_raiseIf, follow_ok, follow_error, ends_pure]
        exact ⟨fun _ => .raised, fun _ => .quiet rfl⟩
  | none =>
    unfold enqueueNewLocked
    simp only [ends_bind, ends_getState, ends_raiseIf, follow_ok, follow_error]
    refine ⟨fun _ => .raised, fun _ => ?_⟩
    cases hr : s.reservations.get? req.identity with
    | none => exact .raised
    | some r =>
      simp only [requireSameParameters, ends_bind, ends_raiseIf, follow_ok, follow_error,
        ends_modifyState, ends_pure]
      refine ⟨fun _ => .raised, fun alive => ⟨fun _ => .raised, fun same => ?_⟩⟩
      refine ⟨fun _ => .raised, fun _ => ⟨fun _ => .raised, fun holder => ?_⟩⟩
      refine ⟨fun _ => .raised, fun depth => ⟨fun _ => .raised, fun room => ?_⟩⟩
      rw [not_or, not_not] at alive
      obtain ⟨⟨registration, registered, lease⟩, not_pending⟩ := alive
      simp only [not_or, ne_eq, not_not] at same holder
      rw [not_or, not_le, not_le] at room
      exact .committed (.enqueue hreq
        { not_terminal := not_terminal
          not_queued := hq
          reserved := hr
          registered := ⟨registration, registered, lease⟩
          not_pending := not_pending
          node := holder.1
          deadline := same.2.2
          unexpired := not_le.mp unexpired
          token := holder.2
          depth_room := not_le.mp depth
          room := room.1
          client_room := room.2
          post := rfl })

/-! ### Delivery -/

theorem claimQueuedRequestLocked_ends {n d consumer digest : String}
    (hreq : validateClaim env n d consumer = .ok digest) :
    Ends (claimQueuedRequestLocked env n d digest now) s fun r s' =>
      BodyOutcome env now drawn (.claimQueuedRequest n d consumer) s (r.map .claim) s' := by
  unfold claimQueuedRequestLocked
  simp only [ends_bind, ends_getState, follow_ok]
  cases hr : s.records.get? n with
  | none => exact .raised
  | some registration =>
    simp only [requireDigest, ends_bind, ends_raiseIf, follow_ok, follow_error, ne_eq, not_not]
    refine ⟨fun _ => .raised, fun owner => ?_⟩
    cases hq : (s.queueOf n).find? (claimable s now) with
    | none => exact .quiet rfl
    | some q =>
      have queued : q ∈ s.queueOf n := List.mem_of_find?_eq_some hq
      have able := List.find?_some hq
      simp only [claimable, Bool.and_eq_true, Bool.not_eq_true', decide_eq_false_iff_not,
        not_le] at able
      unfold claimItemLocked
      simp only [ends_bind, ends_getState, ends_raiseIf, follow_ok, follow_error,
        ends_modifyState, ends_pure]
      refine ⟨fun _ => .raised, fun room => ⟨fun overflow => ?_, fun _ => ?_⟩⟩
      · exact .committed (.advance ⟨queued, overflow, rfl⟩)
      · rw [not_or, not_le, not_le] at room
        refine .committed (.claim hreq owner ⟨hr, queued, able.1, ?_, room.1, room.2, rfl⟩)
        intro c hc
        have idle := able.2
        unfold claimActive at idle
        rw [hc] at idle
        exact not_lt.mp (of_decide_eq_false idle)

theorem renewClaimLocked_ends {acknowledge : Bool}
    (hreq : validateOwner env n d consumer client request generation = .ok req) :
    Ends (renewClaimLocked env req acknowledge now) s fun r s' =>
      BodyOutcome env now drawn
        (.renewClaimOrReadControl n d consumer client request generation acknowledge) s
        (r.map .renewal) s' := by
  unfold renewClaimLocked
  simp only [ends_bind, ends_getState, follow_ok]
  cases ht : s.controlTombstones.get? req.identity with
  | some t =>
    unfold readControlLocked
    simp only [ends_bind, ends_ite, ends_modifyState, follow_ok, ends_pure, not_not]
    refine ⟨fun _ => .quiet rfl, fun owner => ⟨fun _ => ?_, fun _ => .quiet rfl⟩⟩
    exact .committed (.acknowledgeControl hreq ⟨ht, owner, rfl⟩)
  | none =>
    dsimp only
    rw [ends_ite, not_not]
    refine ⟨fun _ => .quiet rfl, ?_⟩
    rintro ⟨registration, registered, owner⟩
    cases hc : s.claims.get? req.identity with
    | none => exact .quiet rfl
    | some c =>
      simp only [ends_bind, ends_ite, ends_modifyState, follow_ok, ends_pure, not_or, ne_eq,
        not_not, not_le]
      refine ⟨fun _ => .quiet rfl, fun unexpired => ⟨fun _ => .quiet rfl, fun generation => ?_⟩⟩
      refine ⟨fun _ => .quiet rfl, fun holder => ⟨fun _ => .quiet rfl, fun lease => ?_⟩⟩
      exact .committed (.renewClaim hreq ⟨ht, registered, owner, hc, generation, holder.1,
        holder.2, unexpired, lease, rfl⟩)

theorem acceptEncryptedResponseLocked_ends {digest : String}
    (hreq : validateAcceptance env n d consumer client request generation envelope =
      .ok (req, digest)) :
    Ends (acceptEncryptedResponseLocked env req envelope digest now) s fun r s' =>
      BodyOutcome env now drawn
        (.acceptEncryptedResponse n d consumer client request generation envelope) s
        (r.map .acceptance) s' := by
  unfold acceptEncryptedResponseLocked
  simp only [ends_bind, ends_getState, follow_ok]
  cases ht : s.terminals.get? req.identity with
  | some terminal =>
    dsimp only
    rw [ends_ofExcept]
    unfold acceptRetry
    split
    · exact .quiet rfl
    · exact .raised
  | none =>
    cases hr : s.records.get? req.nodeId with
    | none => exact .raised
    | some registration =>
      simp only [ends_bind, ends_raiseIf, follow_ok, follow_error, ne_eq, not_not]
      refine ⟨fun _ => .raised, fun owner => ?_⟩
      cases hc : s.claims.get? req.identity with
      | none => exact .raised
      | some c =>
        simp only [ends_bind, ends_raiseIf, follow_ok, follow_error, not_or, not_not, not_le]
        refine ⟨fun _ => .raised, fun generation => ⟨fun _ => .raised, fun holder => ?_⟩⟩
        refine ⟨fun _ => .raised, fun current => ?_⟩
        cases hq : s.queued.get? req.identity with
        | none => exact .raised
        | some q =>
          simp only [ends_bind, ends_raiseIf, follow_ok, follow_error, not_or, not_not]
          refine ⟨fun _ => .raised, fun same => ⟨fun _ => .raised, fun room => ?_⟩⟩
          refine ⟨fun _ => .raised, fun _ => ?_⟩
          cases htoken : s.queuedTokenDigests.get? req.identity with
          | none => exact .raised
          | some retrieval =>
            cases hcancel : s.cancellationTokenDigests.get? req.identity with
            | none => exact .raised
            | some cancellation =>
              simp only [ends_bind, ends_modifyState, follow_ok, ends_pure]
              exact .committed (.accept hreq ⟨ht, hr, owner, hc, generation, holder.1, holder.2,
                current.1, current.2, hq, same.1, same.2, room, htoken, hcancel, rfl⟩)

theorem retrieveEncryptedResponseLocked_ends {client request credential : String} {id : Identity}
    (hreq : identityOf env client request = .ok id) :
    Ends (retrieveEncryptedResponseLocked env id credential token) s fun r s' =>
      BodyOutcome env now drawn (.retrieveEncryptedResponse client request credential token) s
        (r.map .retrieval) s' := by
  unfold retrieveEncryptedResponseLocked
  simp only [ends_bind, ends_getState, follow_ok]
  cases ht : s.terminals.get? id with
  | none => exact .quiet rfl
  | some t =>
    simp only [ends_ite, ends_pure, ne_eq, not_not]
    refine ⟨fun _ => .quiet rfl, fun credentialOk => ⟨fun _ => ?_, fun ready => ?_⟩⟩
    · exact ⟨fun _ => .quiet rfl, fun _ => .quiet rfl⟩
    · unfold retrieveReadyLocked
      simp only [ends_bind, ends_getState, follow_ok]
      cases hr : s.responses.get? id with
      | none => exact .committed (.repair hreq ⟨ht, ready, hr, rfl⟩)
      | some r =>
        cases token with
        | none => exact .quiet rfl
        | some token =>
          simp only [ends_bind, ends_ite, ends_modifyState, follow_ok, ends_pure, not_not]
          refine ⟨fun _ => .quiet rfl, fun matches_ => ?_⟩
          exact .committed (.acknowledgeResponse hreq
            ⟨ht, ready, hr, credentialOk, matches_.2, rfl⟩)

theorem cancelOrExpireRequestLocked_ends {client request supplied : String} {status : Outcome}
    {reason : Reason} {id : Identity}
    (hreq : identityOf env client request = .ok id)
    (pair : (status = .cancelled ∧ reason = .requesterCancelled) ∨
      (status = .expired ∧ reason = .requestDeadlineExpired)) :
    Ends (cancelOrExpireRequestLocked env id supplied status reason now) s fun r s' =>
      BodyOutcome env now drawn (.cancelOrExpireRequest client request token status reason) s
        (r.map .terminal) s' := by
  unfold cancelOrExpireRequestLocked
  simp only [ends_bind, ends_getState, follow_ok]
  cases ht : s.terminals.get? id with
  | some t =>
    simp only [ends_ite, ends_pure]
    exact ⟨fun _ => .quiet rfl, fun _ => .quiet rfl⟩
  | none =>
    simp only [ends_ite, ends_pure]
    refine ⟨fun _ => .quiet rfl, fun _ => ?_⟩
    cases hw : s.workRecord id with
    | none => exact .quiet rfl
    | some w =>
      simp only [ends_ite, ends_pure]
      refine ⟨fun _ => .quiet rfl, fun due => ?_⟩
      refine terminalizeLocked_ends.mono ?_
      intro r s' outcome
      cases outcome with
      | full _ _ => exact .raised
      | done room tombstones =>
        have origin : TerminalOrigin s now w status reason false := by
          rcases pair with ⟨rfl, rfl⟩ | ⟨rfl, rfl⟩
          · exact .requester
          · exact .deadline (not_lt.mp fun early => due ⟨rfl, early⟩)
        exact .committed (.cancel hreq ⟨origin, trivial, Store.hasWork_of_workRecord hw,
          OrderedDict.not_mem_iff.mpr ht, room, tombstones, rfl⟩)

end

/-! ## Calls -/

/-- The removal of a node by an owner, with what the method returns for it. -/
inductive Removal : Op → String → Cause → Except StoreError NodeTransitionResult →
    Except StoreError Reply → Prop
  | unregister {n d : String} {r : Except StoreError NodeTransitionResult} :
      Removal (.unregister n d) n .explicitUnregister r
        (r.map fun result => .flag (result.state ≠ .notFound && result.state ≠ .alreadyComplete))
  | transition {n : String} {d : Option String} {cause : Cause}
      {r : Except StoreError NodeTransitionResult} :
      Removal (.unregisterNodeAndTransitionWork n d cause) n cause r (r.map .transition)

/-- How a call ends. -/
inductive CallOutcome (env : StoreEnv) (c : Call) (s : Store) :
    Except StoreError Reply → Store → Prop
  | rejected {e : StoreError} : c.op.validate env = .error e → CallOutcome env c s (.error e) s
  | invalidProof {e : StoreError} : c.op.validate env = .error e →
      CallOutcome env c s (.ok (.terminal ⟨.invalidCancellationProof, false⟩)) s
  | unread {e : StoreError} : ¬isfinite c.clock → CallOutcome env c s (.error e) s
  | noLease {n : String} {caps : ComputeNodeCapabilities} {d : String} {e : StoreError} :
      c.op = .register n caps d → leaseDeadline env c.clock = .error e →
      CallOutcome env c s (.error e) s
  | stopped {e : StoreError} {s₁ : Store} : isfinite c.clock → c.op.validate env = .ok () →
      c.op.housekeeping env c.clock s = (.error e, s₁) → CallOutcome env c s (.error e) s₁
  | body {r : Except StoreError Reply} {s₁ s' : Store} : isfinite c.clock →
      c.op.validate env = .ok () → c.op.housekeeping env c.clock s = (.ok (), s₁) →
      BodyOutcome env c.clock c.drawn c.op s₁ r s' → CallOutcome env c s r s'
  | removal {n : String} {cause : Cause} {result : Except StoreError NodeTransitionResult}
      {r : Except StoreError Reply} {s₁ s' : Store} : isfinite c.clock →
      c.op.validate env = .ok () → c.op.housekeeping env c.clock s = (.ok (), s₁) →
      TransitionOutcome env Any c.clock n cause s₁ result s' → Removal c.op n cause result r →
      CallOutcome env c s r s'

section

variable {env : StoreEnv} {s : Store}

theorem ends_replying {α : Type} {f : α → Reply} {m : StoreM α}
    {Q : Except StoreError Reply → Store → Prop} :
    Ends (replying f m) s Q ↔ Ends m s fun r s' => Q (r.map f) s' := by
  unfold replying
  rw [ends_bind]
  unfold Ends
  cases (m s).1 <;> exact Iff.rfl

variable {α β : Type} {r : Except StoreError Reply} {checks : Except StoreError α}
  {body : α → Epoch → StoreM β} {H : Epoch → StoreM Unit} {c : Call} {s' : Store} {I : Store → Prop}

theorem ends_publicCall {clock : Epoch} {Q : Except StoreError β → Store → Prop}
    (rejected : ∀ e, checks = .error e → Q (.error e) s)
    (unread : ∀ e, ¬isfinite clock → Q (.error e) s)
    (stopped : ∀ a e s₁, checks = .ok a → isfinite clock → H clock s = (.error e, s₁) →
      Q (.error e) s₁)
    (ran : ∀ a s₁, checks = .ok a → isfinite clock → H clock s = (.ok (), s₁) →
      Ends (body a clock) s₁ Q) :
    Ends (publicCall clock checks H body) s Q := by
  unfold publicCall
  rw [ends_bind, ends_ofExcept]
  cases hc : checks with
  | error e => exact rejected e hc
  | ok a =>
    rw [follow_ok, ends_bind, ends_ofExcept]
    unfold nowOf
    by_cases finite : isfinite clock
    · rw [if_pos finite, follow_ok, ends_bind]
      unfold Ends
      rcases hh : H clock s with ⟨_ | _, s₁⟩
      · exact stopped a _ s₁ hc finite hh
      · exact ran a s₁ hc finite hh
    · rw [if_neg finite, follow_error]
      exact unread _ finite

theorem publicCall_eq {clock : Epoch} {a : α} {s₁ : Store}
    (checked : checks = .ok a) (finite : isfinite clock) (swept : H clock s = (.ok (), s₁)) :
    publicCall clock checks H body s = body a clock s₁ := by
  unfold publicCall nowOf
  rw [checked, if_pos finite]
  show andThen (H clock) (fun _ => body a clock) s = _
  unfold andThen
  rw [swept]

theorem Call.run_body {f : β → Reply} {a : α} {s₁ : Store}
    (run : c.run env = replying f (publicCall c.clock checks H body)) (checked : checks = .ok a)
    (finite : isfinite c.clock) (swept : H c.clock s = (.ok (), s₁)) :
    c.result env s = (body a c.clock s₁).1.map f ∧ c.next env s = (body a c.clock s₁).2 := by
  unfold Call.result Call.next
  rw [run]
  show (andThen _ _ s).1 = _ ∧ (andThen _ _ s).2 = _
  unfold andThen
  rw [publicCall_eq checked finite swept]
  rcases body a c.clock s₁ with ⟨_ | _, _⟩ <;> exact ⟨rfl, rfl⟩

theorem framed_ends (c : Call) {f : β → Reply}
    (housekeeping : c.op.housekeeping env = H) (validate : c.op.validate env = discarding checks)
    (ran : ∀ a s₁, checks = .ok a → Ends (body a c.clock) s₁ fun r s' =>
      BodyOutcome env c.clock c.drawn c.op s₁ (r.map f) s') :
    Ends (replying f (publicCall c.clock checks H body)) s (CallOutcome env c s) := by
  subst housekeeping
  refine ends_replying.mpr (ends_publicCall ?_ ?_ ?_ ?_)
  · intro e he
    exact .rejected (by rw [validate, he]; rfl)
  · exact fun e infinite => .unread infinite
  · exact fun a e s₁ ha finite hh => .stopped finite (by rw [validate, ha]; rfl) hh
  · intro a s₁ ha finite hh
    exact (ran a s₁ ha).mono fun r s' => .body finite (by rw [validate, ha]; rfl) hh

theorem discarding_unit (x : Except StoreError Unit) : x = discarding x := by
  cases x <;> rfl

theorem register_outcome {n : String} {caps : ComputeNodeCapabilities} {d : String}
    (hop : c.op = .register n caps d) :
    Ends (replying .registered (register env c.clock n caps d)) s (CallOutcome env c s) := by
  have validate : c.op.validate env = validateCredential env n d := by rw [hop]; rfl
  have housekeeping : c.op.housekeeping env = registerHousekeeping env := by rw [hop]; rfl
  have valid : ∀ lease, registerChecks env c.clock n d = .ok lease →
      c.op.validate env = .ok () := by
    intro lease checked
    unfold registerChecks at checked
    cases hv : validateCredential env n d with
    | error e => rw [hv] at checked; cases checked
    | ok _ => exact validate.trans hv
  unfold register
  rw [← housekeeping]
  refine ends_replying.mpr (ends_publicCall ?_ ?_ ?_ ?_)
  · intro e he
    unfold registerChecks at he
    cases hv : validateCredential env n d with
    | error e' =>
      rw [hv] at he
      cases he
      exact .rejected (validate.trans hv)
    | ok _ =>
      rw [hv] at he
      change (nowOf c.clock >>= fun now => leaseDeadline env now) = .error e at he
      unfold nowOf at he
      by_cases finite : isfinite c.clock
      · rw [if_pos finite] at he
        exact .noLease hop he
      · exact .unread finite
  · exact fun e infinite => .unread infinite
  · exact fun lease e s₁ ha finite hh => .stopped finite (valid lease ha) hh
  · intro lease s₁ ha finite hh
    exact registerLocked_ends.mono fun r s' h => .body finite (valid lease ha) hh (hop ▸ h)

theorem expire_outcome (hop : c.op = .expire) :
    Ends (replying .registrations (expire env c.clock)) s (CallOutcome env c s) := by
  have validate : c.op.validate env = .ok () := by rw [hop]; rfl
  have housekeeping : c.op.housekeeping env c.clock = (do
      let _ ← expireLocked env c.clock true
      return ()) := by rw [hop]; rfl
  rw [ends_replying]
  unfold expire nowOf
  by_cases finite : isfinite c.clock
  · rw [if_pos finite, ends_bind, ends_ofExcept, follow_ok]
    unfold Ends
    rcases hh : expireLocked env c.clock true s with ⟨e | expired, s₁⟩
    · refine .stopped finite validate ?_
      rw [housekeeping]
      show andThen _ _ s = _
      unfold andThen
      rw [hh]
    · refine .body finite validate ?_ (.quiet rfl)
      rw [housekeeping]
      show andThen _ _ s = _
      unfold andThen
      rw [hh]
      rfl
  · rw [if_neg finite, ends_bind, ends_ofExcept, follow_error]
    exact .unread finite

theorem removal_outcome (c : Call) {n : String} {d : Option String} {cause : Cause}
    {f : NodeTransitionResult → Reply} (housekeeping : c.op.housekeeping env = retainedHousekeeping)
    (validate : c.op.validate env = validateUnregister env n d cause)
    (removal : ∀ r, Removal c.op n cause r (r.map f)) :
    Ends (replying f (unregisterNodeAndTransitionWork env c.clock n d cause)) s
      (CallOutcome env c s) := by
  unfold unregisterNodeAndTransitionWork
  rw [← housekeeping, ends_replying]
  refine ends_publicCall ?_ ?_ ?_ ?_
  · exact fun e he => .rejected (validate.trans he)
  · exact fun e infinite => .unread infinite
  · exact fun a e s₁ ha finite hh => .stopped finite (validate.trans ha) hh
  · intro a s₁ ha finite hh
    refine (transitionNodeLocked_ends (P := Any) (J := fun _ => True) (Q := fun _ => True)
      (fun _ _ _ _ => trivial) (fun _ _ _ _ _ _ _ _ => trivial) trivial
      fun _ _ _ _ => trivial).mono ?_
    exact fun r s' outcome => .removal finite (validate.trans ha) hh outcome (removal r)

theorem cancel_outcome {client request : String} {token : Option String}
    {status : Outcome} {reason : Reason}
    (hop : c.op = .cancelOrExpireRequest client request token status reason) :
    Ends (replying .terminal (cancelOrExpireRequest env c.clock client request token status reason))
      s (CallOutcome env c s) := by
  have housekeeping : c.op.housekeeping env = reapLocked env := by rw [hop]; rfl
  have validate : c.op.validate env = (do
      require ((status = .cancelled ∧ reason = .requesterCancelled) ∨
          (status = .expired ∧ reason = .requestDeadlineExpired))
        (storeError "terminal status or reason is invalid")
      discarding (identityOf env client request)) := by rw [hop]; rfl
  unfold cancelOrExpireRequest
  rw [ends_replying, ends_bind, ends_raiseIf]
  refine ⟨fun invalid => .rejected ?_, fun valid => ?_⟩
  · rw [validate, require, if_neg invalid]
    rfl
  · rw [not_not] at valid
    rw [require, if_pos valid] at validate
    rw [follow_ok]
    cases hi : identityOf env client request with
    | error e => exact .invalidProof (validate.trans (by rw [hi]; rfl))
    | ok id =>
      dsimp only
      rw [← housekeeping]
      refine ends_publicCall nofun (fun e infinite => .unread infinite)
        (fun _ e s₁ _ finite hh => .stopped finite (validate.trans (by rw [hi]; rfl)) hh) ?_
      intro supplied s₁ _ finite hh
      have body : Ends (cancelOrExpireRequestLocked env id supplied status reason c.clock) s₁
          fun r s' => BodyOutcome env c.clock c.drawn
            (.cancelOrExpireRequest client request token status reason) s₁ (r.map .terminal) s' :=
        cancelOrExpireRequestLocked_ends hi valid
      exact body.mono fun r s' h => .body finite (validate.trans (by rw [hi]; rfl)) hh (hop ▸ h)

theorem Call.outcome (c : Call) (s : Store) : Ends (c.run env) s (CallOutcome env c s) := by
  obtain ⟨clock, drawn, op⟩ := c
  cases op with
  | register n caps d => exact register_outcome rfl
  | renew n d caps =>
    exact framed_ends ⟨clock, drawn, _⟩ rfl (discarding_unit _) fun _ _ _ => renewLocked_ends
  | get n | list | listReservations | queuedRequests n | activeClaims n | responseRecords
  | controlTombstones | nodeTombstones | terminalRecords =>
    exact framed_ends ⟨clock, drawn, _⟩ rfl (discarding_unit _) fun _ _ _ => .quiet rfl
  | expire => exact expire_outcome rfl
  | unregister n d =>
    have flagged : Call.run env ⟨clock, drawn, .unregister n d⟩ = replying
        (fun result => .flag (result.state ≠ .notFound && result.state ≠ .alreadyComplete))
        (unregisterNodeAndTransitionWork env clock n (some d) .explicitUnregister) := by
      funext s
      show andThen (andThen _ _) _ s = andThen _ _ s
      unfold andThen
      rcases unregisterNodeAndTransitionWork env clock n (some d) .explicitUnregister s with
        ⟨_ | _, _⟩ <;> rfl
    rw [flagged]
    exact removal_outcome ⟨clock, drawn, _⟩ rfl rfl fun r => .unregister
  | unregisterNodeAndTransitionWork n d cause =>
    exact removal_outcome ⟨clock, drawn, _⟩ rfl rfl fun r => .transition
  | setSchedulerState n d state =>
    exact framed_ends ⟨clock, drawn, _⟩ rfl (discarding_unit _)
      fun _ _ _ => setSchedulerStateLocked_ends
  | selectAndReserve client request model tier due token =>
    exact framed_ends ⟨clock, drawn, _⟩ rfl rfl fun _ _ h => selectAndReserveLocked_ends h
  | enqueueEncryptedRequest client request token n model tier due envelope cancellation =>
    exact framed_ends ⟨clock, drawn, _⟩ rfl rfl fun _ _ h => enqueueEncryptedRequestLocked_ends h
  | claimQueuedRequest n d consumer =>
    exact framed_ends ⟨clock, drawn, _⟩ rfl rfl fun _ _ h => claimQueuedRequestLocked_ends h
  | renewClaimOrReadControl n d consumer client request generation acknowledge =>
    exact framed_ends ⟨clock, drawn, _⟩ rfl rfl fun _ _ h => renewClaimLocked_ends h
  | acceptEncryptedResponse n d consumer client request generation envelope =>
    exact framed_ends ⟨clock, drawn, _⟩ rfl rfl fun _ _ h => acceptEncryptedResponseLocked_ends h
  | retrieveEncryptedResponse client request credential token =>
    exact framed_ends ⟨clock, drawn, _⟩ rfl rfl fun _ _ h => retrieveEncryptedResponseLocked_ends h
  | cancelOrExpireRequest client request token status reason => exact cancel_outcome rfl

/-! ## Invariants -/

theorem expireLocked_sweeps {now : Epoch} {continuePending : Bool} :
    Ends (expireLocked env now continuePending) s fun _ s' => Sweeps env Any now s s' :=
  expireLocked_ends (J := fun _ => True) (Q := fun _ => True) (fun _ _ _ _ => trivial)
    (fun _ _ _ _ _ _ _ _ => trivial) trivial (fun _ _ _ _ _ _ => trivial)
    fun _ _ _ _ _ _ _ => trivial

theorem reapLocked_sweeps {now : Epoch} :
    Ends (reapLocked env now) s fun _ s' => Sweeps env Any now s s' :=
  reapLocked_ends (J := fun _ => True) (fun _ _ => trivial) (fun _ _ _ _ => trivial)
    (fun _ _ _ _ _ _ _ => trivial) fun _ _ _ => trivial

theorem leaseHousekeeping_sweeps {now : Epoch} :
    Ends (leaseHousekeeping env now) s fun _ s' => Sweeps env Any now s s' := by
  unfold leaseHousekeeping
  exact ends_bind_of expireLocked_sweeps (fun _ _ h => ends_pure.mpr h) fun _ _ h => h

theorem Op.housekeeping_sweeps (op : Op) (now : Epoch) :
    Ends (op.housekeeping env now) s fun _ s' => Sweeps env Any now s s' := by
  cases op with
  | register n caps d =>
    show Ends (registerHousekeeping env now) s _
    unfold registerHousekeeping
    rw [ends_bind, ends_modifyState, follow_ok]
    exact leaseHousekeeping_sweeps.mono fun r s' h => (Sweeps.one (.reapRetained s)).trans h
  | expire =>
    exact ends_bind_of expireLocked_sweeps (fun _ _ h => ends_pure.mpr h) fun _ _ h => h
  | unregister n d | unregisterNodeAndTransitionWork n d cause => exact Sweeps.one (.reapRetained s)
  | renew n d caps | get n | list | setSchedulerState n d state => exact leaseHousekeeping_sweeps
  | _ => exact reapLocked_sweeps

theorem Call.next_outcome (c : Call) (s : Store) :
    CallOutcome env c s (c.result env s) (c.next env s) :=
  c.outcome s

theorem CallOutcome.committed {reply : Reply}
    (h : CallOutcome env c s (.ok reply) s') (reports : reply.reportsChange = true)
    (kind : ∀ r, reply ≠ .transition r) :
    ∃ s₁, isfinite c.clock ∧ c.op.validate env = .ok () ∧
      c.op.housekeeping env c.clock s = (.ok (), s₁) ∧
      Commit env c.clock c.drawn c.op s₁ (.ok reply) s' := by
  cases h with
  | invalidProof _ => cases reports
  | body finite valid hh body =>
    cases body with
    | unchanged silent => exact absurd (silent reply rfl) (by rw [reports]; decide)
    | committed h => exact ⟨_, finite, valid, hh, h⟩
  | @removal n cause result r s₁ s' _ _ _ _ removal =>
    generalize hop : c.op = op at removal
    generalize hr : (Except.ok reply : Except StoreError Reply) = x at removal
    cases removal with
    | unregister =>
      cases result with
      | error e => cases hr
      | ok result => cases hr; cases reports
    | transition =>
      cases result with
      | error e => cases hr
      | ok result => cases hr; exact absurd rfl (kind result)

theorem CallOutcome.unvalidated
    (h : CallOutcome env c s r s') (invalid : c.op.validate env ≠ .ok ()) : s' = s := by
  cases h with
  | rejected _ => rfl
  | invalidProof _ => rfl
  | unread _ => rfl
  | noLease _ _ => rfl
  | stopped _ valid _ | body _ valid _ _ | removal _ valid _ _ _ => exact absurd valid invalid

/-- What every sweep keeps holds when the body of the call starts; `commit` says what
follows, of the result and the state, once the body has written. -/
theorem CallOutcome.leads {Q : Except StoreError Reply → Store → Prop}
    (h : CallOutcome env c s r s')
    (sweep : ∀ a b, Sweep env Any c.clock a b → I a → I b)
    (commit : ∀ a r b, Commit env c.clock c.drawn c.op a r b → I a → Q r b)
    (unchanged : ∀ a r, I a → Q r a) (hs : I s) : Q r s' := by
  have swept : ∀ {x : Except StoreError Unit} {s₁ : Store},
      c.op.housekeeping env c.clock s = (x, s₁) → I s₁ := fun hh =>
    ((c.op.housekeeping_sweeps c.clock).of_eq hh).keeps sweep hs
  cases h with
  | rejected _ | invalidProof _ | unread _ | noLease _ _ => exact unchanged s _ hs
  | stopped _ _ hh => exact unchanged _ _ (swept hh)
  | body _ _ hh body =>
    cases body with
    | unchanged _ => exact unchanged _ _ (swept hh)
    | committed h => exact commit _ _ _ h (swept hh)
  | removal _ _ hh outcome _ => exact unchanged _ _ (outcome.sweeps.keeps sweep (swept hh))

theorem CallOutcome.reaches {I K : Store → Prop} (h : CallOutcome env c s r s')
    (sweep : ∀ a b, Sweep env Any c.clock a b → I a → I b)
    (commit : ∀ a r b, Commit env c.clock c.drawn c.op a r b → I a → K b)
    (unchanged : ∀ a, I a → K a) (hs : I s) : K s' :=
  h.leads (Q := fun _ => K) sweep commit (fun a _ => unchanged a) hs

theorem CallOutcome.keeps
    (h : CallOutcome env c s r s') (sweep : ∀ a b, Sweep env Any c.clock a b → I a → I b)
    (commit : ∀ a r b, Commit env c.clock c.drawn c.op a r b → I a → I b) (hs : I s) : I s' :=
  h.reaches sweep commit (fun _ ha => ha) hs

/-- What every sweep keeps, and every commit unless it leads to the event `E`, is kept by a
call without that event. -/
theorem CallOutcome.keeps_unless {E : Except StoreError Reply → Prop} (h : CallOutcome env c s r s')
    (sweep : ∀ a b, Sweep env Any c.clock a b → I a → I b)
    (commit : ∀ a r b, Commit env c.clock c.drawn c.op a r b → I a → I b ∨ E r)
    (never : ¬E r) (hs : I s) : I s' :=
  (h.leads (Q := fun r b => I b ∨ E r) sweep commit (fun _ _ ha => .inl ha) hs).resolve_right never

theorem Reachable.invariant (initial : I Store.initial)
    (sweep : ∀ now a b, Sweep env Any now a b → I a → I b)
    (commit : ∀ now drawn op a r b, Commit env now drawn op a r b → I a → I b)
    (h : Reachable env s) : I s := by
  induction h with
  | initial => exact initial
  | step c _ ih =>
    exact (c.next_outcome _).keeps (sweep c.clock) (commit c.clock c.drawn c.op) ih

end

end StateStore
