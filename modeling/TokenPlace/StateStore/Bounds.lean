import TokenPlace.StateStore.NodeSide

/-!
# The configured bounds

Every table stays within its bound in every run whose clock never goes back.
The tables fall into three groups that different effects fill: the lifecycles
and their claims (`AdmissionBounds`), what is retained after them
(`RetainedBounds`), and the nodes (`NodeBounds`).

The claims are counted at the last clock reading, so their bound moves with the
clock (`AdmissionBounds.later`).
-/

namespace StateStore

/-- The bounds on the lifecycles, with the claims that are active at `t`. -/
structure AdmissionBounds (env : StoreEnv) (t : Epoch) (s : Store) : Prop where
  reservations : s.reservations.size ≤ env.config.maxReservations
  lifecycles : s.reservations.size + s.queued.size ≤ env.config.maxRequestLifecycles
  client : ∀ client, clientLifecycleCount s client ≤ env.config.maxReservationsPerClient
  clientQueued : ∀ client, (s.queued.count fun _ q => q.clientIdentityDigest = client) ≤
    env.config.maxQueuedRequestsPerClient
  node : ∀ n, reservationCount s n ≤ env.config.maxReservationsPerNode
  depth : ∀ n, reservationCount s n + queueLength s n ≤ env.config.maxQueueDepthPerNode
  queued : s.queued.size ≤ env.config.maxQueuedRequests
  claims : activeClaimCount s t ≤ env.config.maxClaims
  nodeClaims : ∀ n, activeNodeClaimCount s t n ≤ env.config.maxClaimsPerNode

/-- The bounds on what is retained. -/
structure RetainedBounds (env : StoreEnv) (s : Store) : Prop where
  responses : s.responses.size ≤ env.config.maxResponses
  clientResponses : ∀ client, (s.responses.count fun _ r => r.clientIdentityDigest = client) ≤
    env.config.maxResponsesPerClient
  terminals : s.terminals.size ≤ env.config.maxTerminalRecords
  clientTerminals : ∀ client, (s.terminals.count fun _ t => t.clientIdentityDigest = client) ≤
    env.config.maxTerminalRecordsPerClient
  controls : s.controlTombstones.size ≤ env.config.maxControlTombstones
  nodeControls : ∀ n, (s.controlTombstones.count fun _ t => t.selectedNodeId = n) ≤
    env.config.maxControlTombstonesPerNode

/-- The bounds on the nodes. -/
structure NodeBounds (env : StoreEnv) (s : Store) : Prop where
  records : s.records.size ≤ env.config.maxComputeNodes
  nodeTombstones : s.nodeTombstones.size ≤ env.config.maxNodeTombstones
  pending : s.pendingNodeTransitions.size ≤ env.config.maxPendingNodeTransitions
  fences : fenceCount s ≤ env.config.maxRemovedOwnerFences
  cursors : s.fairnessCursors.size ≤ env.config.maxSchedulerFingerprints

/-- All bounds, at the clock reading `t`. -/
structure Bounds (env : StoreEnv) (t : Epoch) (s : Store) : Prop where
  admission : AdmissionBounds env t s
  retained : RetainedBounds env s
  nodes : NodeBounds env s

variable {t : Epoch}

theorem bounds_initial {env : StoreEnv} : Bounds env t Store.initial where
  admission := ⟨Nat.zero_le _, Nat.zero_le _, fun _ => Nat.zero_le _, fun _ => Nat.zero_le _,
    fun _ => Nat.zero_le _, fun _ => Nat.zero_le _, Nat.zero_le _, Nat.zero_le _,
    fun _ => Nat.zero_le _⟩
  retained := ⟨Nat.zero_le _, fun _ => Nat.zero_le _, Nat.zero_le _, fun _ => Nat.zero_le _,
    Nat.zero_le _, fun _ => Nat.zero_le _⟩
  nodes := ⟨Nat.zero_le _, Nat.zero_le _, Nat.zero_le _, Nat.zero_le _, Nat.zero_le _⟩

section

variable {env : StoreEnv} {now : Epoch} {s s' : Store}

/-! ## Lifecycles -/

theorem AdmissionBounds.later (h : AdmissionBounds env t s) (hle : t ≤ now) :
    AdmissionBounds env now s :=
  { h with
    claims := by
      refine le_trans (OrderedDict.count_mono fun _ c _ hc => ?_) h.claims
      exact decide_eq_true (lt_of_le_of_lt hle (of_decide_eq_true hc))
    nodeClaims := fun n => by
      refine le_trans (OrderedDict.count_mono fun _ c _ hc => ?_) (h.nodeClaims n)
      rw [Bool.and_eq_true, decide_eq_true_iff] at hc ⊢
      exact ⟨lt_of_le_of_lt hle hc.1, hc.2⟩ }

/-- No table of the lifecycles is fuller. -/
structure NoMore (s s' : Store) : Prop where
  reservations : ∀ p, s'.reservations.count p ≤ s.reservations.count p
  queued : ∀ p, s'.queued.count p ≤ s.queued.count p
  claims : ∀ p, s'.claims.count p ≤ s.claims.count p
  queues : ∀ n, queueLength s' n ≤ queueLength s n

theorem NoMore.keeps (h : NoMore s s') (b : AdmissionBounds env now s) :
    AdmissionBounds env now s' where
  reservations := by
    rw [OrderedDict.size_eq_count]
    exact le_trans (h.reservations _) (s.reservations.size_eq_count ▸ b.reservations)
  lifecycles := by
    have reservations := h.reservations fun _ _ => true
    have queued := h.queued fun _ _ => true
    rw [← OrderedDict.size_eq_count, ← OrderedDict.size_eq_count] at reservations queued
    exact le_trans (Nat.add_le_add reservations queued) b.lifecycles
  client := fun client =>
    le_trans (Nat.add_le_add (h.reservations _) (h.queued _)) (b.client client)
  clientQueued := fun client => le_trans (h.queued _) (b.clientQueued client)
  node := fun n => le_trans (h.reservations _) (b.node n)
  depth := fun n => le_trans (Nat.add_le_add (h.reservations _) (h.queues n)) (b.depth n)
  queued := by
    rw [OrderedDict.size_eq_count]
    exact le_trans (h.queued _) (s.queued.size_eq_count ▸ b.queued)
  claims := le_trans (h.claims _) b.claims
  nodeClaims := fun n => le_trans (h.claims _) (b.nodeClaims n)

variable {registration : ComputeNodeRegistration} {id : Identity} {r : ReservationRecord}
  {digest : String} {n : String} {P : TerminalPolicy} {req : OwnerRequest} {q : QueuedRequest}
  {status : Outcome} {reason : Reason} {c : ClaimRecord} {w : Work}

theorem queueLength_filter {p : QueuedRequest → Bool}
    (h : s'.queueOf n = (s.queueOf n).filter p) : queueLength s' n ≤ queueLength s n := by
  unfold queueLength
  rw [h]
  exact List.length_filter_le _ _

theorem writeTerminal_counts {claim : Option ClaimRecord} :
    (∀ p, (writeTerminal env id w status reason now claim s).queued.count p ≤
        s.queued.count p) ∧
      ∀ p, (writeTerminal env id w status reason now claim s).claims.count p ≤
        s.claims.count p := by
  unfold writeTerminal
  cases claim <;> dsimp only <;> cases s.queued.get? id
  · exact ⟨fun _ => le_refl _, fun _ => le_refl _⟩
  · exact ⟨fun p => OrderedDict.count_erase_le .., fun p => OrderedDict.count_erase_le ..⟩
  · exact ⟨fun _ => le_refl _, fun _ => le_refl _⟩
  · exact ⟨fun p => OrderedDict.count_erase_le .., fun p => OrderedDict.count_erase_le ..⟩

variable {p : Identity → TerminalOutcomeRecord → Bool} {record : ComputeNodeRegistration}
  {retrieval cancellation : String} {envelope : EncryptedEnvelope} {evicted : Option String}
  {force : Bool}

theorem Terminalizes.noMore (requests : RequestInv s)
    (h : Terminalizes env P now id w status reason force s s') : NoMore s s' := by
  refine ⟨fun p => ?_, ?_, ?_, fun n => queueLength_filter ((h.removed requests).queue n)⟩
  · rw [h.post, writeTerminal_reservations]
    exact OrderedDict.count_erase_le ..
  · rw [h.post]
    exact writeTerminal_counts.1
  · rw [h.post]
    exact writeTerminal_counts.2

theorem Lapses.noMore (h : Lapses now id r s s') :
    NoMore s s' := by
  rw [h.post]
  exact ⟨fun p => OrderedDict.count_erase_le .., fun _ => le_refl _, fun _ => le_refl _,
    fun _ => le_refl _⟩

theorem Accepts.noMore (requests : RequestInv s)
    (h : Accepts env now req envelope digest registration c q retrieval cancellation s s') :
    NoMore s s' := by
  have queues := fun n => queueLength_filter ((h.removed requests).queue n)
  rw [h.post] at queues ⊢
  exact ⟨fun _ => le_refl _, fun p => OrderedDict.count_erase_le ..,
    fun p => OrderedDict.count_erase_le .., queues⟩

theorem Reserves.admission {req : SelectionRequest} {record : ReservationRecord}
    (b : AdmissionBounds env now s)
    (h : Reserves env now req record evicted s s') : AdmissionBounds env now s' := by
  have new : req.identity ∉ s.reservations := OrderedDict.not_mem_iff.mpr h.not_reserved
  have count : ∀ p, (s.reservations.set req.identity record).count p =
      s.reservations.count p + if p req.identity record then 1 else 0 :=
    OrderedDict.count_set_new new record
  have size : (s.reservations.set req.identity record).size = s.reservations.size + 1 := by
    rw [OrderedDict.size_eq_count, count, ← OrderedDict.size_eq_count]
    rfl
  have client : record.clientIdentityDigest = req.identity.1 := by
    rw [← h.identity]
    rfl
  have room := h.room
  have lifecycle := h.lifecycle_room
  have clientRoom := h.client_room
  have nodeRoom := h.node_room
  have depthRoom := h.depth_room
  unfold clientLifecycleCount at clientRoom
  unfold reservationCount at nodeRoom depthRoom
  have bclient := b.client
  have bnode := b.node
  have bdepth := b.depth
  unfold clientLifecycleCount at bclient
  unfold reservationCount at bnode bdepth
  rw [h.post]
  exact
    { b with
      reservations := by
        show (s.reservations.set req.identity record).size ≤ _
        omega
      lifecycles := by
        show (s.reservations.set req.identity record).size + s.queued.size ≤ _
        omega
      client := fun k => by
        show (s.reservations.set req.identity record).count _ + s.queued.count _ ≤ _
        rw [count]
        by_cases hk : record.clientIdentityDigest = k
        · subst hk
          rw [client]
          simp only [decide_true, if_true]
          omega
        · simp only [hk, decide_false, Bool.false_eq_true, if_false]
          exact bclient k
      node := fun n => by
        show (s.reservations.set req.identity record).count _ ≤ _
        rw [count]
        by_cases hn : record.selectedNodeId = n
        · subst hn
          simp only [decide_true, if_true]
          omega
        · simp only [hn, decide_false, Bool.false_eq_true, if_false]
          exact bnode n
      depth := fun n => by
        show (s.reservations.set req.identity record).count _ + queueLength s n ≤ _
        rw [count]
        by_cases hn : record.selectedNodeId = n
        · subst hn
          simp only [decide_true, if_true]
          omega
        · simp only [hn, decide_false, Bool.false_eq_true, if_false]
          exact bdepth n }

theorem Enqueues.admission {req : EnqueueRequest}
    (requests : RequestInv s) (b : AdmissionBounds env now s) (h : Enqueues env now req r s s') :
    AdmissionBounds env now s' := by
  have freed : ∀ p, (s.reservations.erase req.identity).count p +
      (if p req.identity r then 1 else 0) = s.reservations.count p :=
    OrderedDict.count_erase h.reserved
  have queued : ∀ p, (s.queued.set req.identity
      (queuedOf req now (s.nextQueueSequence + 1))).count p = s.queued.count p +
        if p req.identity (queuedOf req now (s.nextQueueSequence + 1)) then 1 else 0 :=
    OrderedDict.count_set_new (OrderedDict.not_mem_iff.mpr h.not_queued) _
  have freedSize := freed fun _ _ => true
  have queuedSize := queued fun _ _ => true
  rw [← OrderedDict.size_eq_count, ← OrderedDict.size_eq_count] at freedSize queuedSize
  simp only [if_true] at freedSize queuedSize
  have client : r.clientIdentityDigest = req.identity.1 := by
    rw [← requests.reservation_key req.identity r h.reserved]
    rfl
  have reservations : s'.reservations = s.reservations.erase req.identity := by rw [h.post]; rfl
  have queuedTable : s'.queued =
      s.queued.set req.identity (queuedOf req now (s.nextQueueSequence + 1)) := by
    rw [h.post]
    rfl
  have claims : s'.claims = s.claims := by rw [h.post]; rfl
  have length : ∀ n, queueLength s' n =
      queueLength s n + if req.selectedNodeId = n then 1 else 0 := by
    intro n
    unfold queueLength
    rw [h.queueOf]
    by_cases hn : n = req.selectedNodeId
    · rw [if_pos hn, if_pos hn.symm, List.length_append]
      rfl
    · rw [if_neg hn, if_neg (Ne.symm hn), Nat.add_zero]
  have sizes := b.reservations
  have lifecycles := b.lifecycles
  constructor
  · rw [reservations]
    omega
  · rw [reservations, queuedTable]
    omega
  · intro k
    have bound := b.client k
    have gone := freed fun _ r => r.clientIdentityDigest = k
    unfold clientLifecycleCount at bound ⊢
    rw [reservations, queuedTable, queued]
    rw [client] at gone
    show _ + (_ + if decide (req.identity.1 = k) = true then 1 else 0) ≤ _
    omega
  · intro k
    rw [queuedTable, queued]
    show _ + (if decide (req.identity.1 = k) = true then 1 else 0) ≤ _
    by_cases hk : req.identity.1 = k
    · subst hk
      simp only [decide_true, if_true]
      exact h.client_room
    · simp only [hk, decide_false, Bool.false_eq_true, if_false, Nat.add_zero]
      exact b.clientQueued k
  · intro n
    have bound := b.node n
    have gone := freed fun _ r => r.selectedNodeId = n
    unfold reservationCount at bound ⊢
    rw [reservations]
    omega
  · intro n
    have bound := b.depth n
    have gone := freed fun _ r => r.selectedNodeId = n
    unfold reservationCount at bound ⊢
    rw [reservations, length]
    rw [h.node] at gone
    simp only [decide_eq_true_eq] at gone
    omega
  · rw [queuedTable, queuedSize]
    exact h.room
  · unfold activeClaimCount
    rw [claims]
    exact b.claims
  · intro n
    unfold activeNodeClaimCount
    rw [claims]
    exact b.nodeClaims n

theorem Claims.admission {n consumer : String} (b : AdmissionBounds env now s)
    (h : Claims env now n consumer registration q s s') : AdmissionBounds env now s' := by
  rw [h.post]
  refine { b with claims := ?_, nodeClaims := fun m => ?_ }
  · have count := s.claims.count_set_le q.identity
      (claimOf q consumer n registration.controlCredentialDigest (s.nextClaimGeneration + 1)
        (min (now + env.config.claimTtlSeconds) q.requestDeadlineEpoch))
      fun _ c => now < c.leaseExpiresAtEpoch
    have room := h.room
    unfold activeClaimCount at room ⊢
    dsimp only at count ⊢
    split at count <;> omega
  · have count := s.claims.count_set_le q.identity
      (claimOf q consumer n registration.controlCredentialDigest (s.nextClaimGeneration + 1)
        (min (now + env.config.claimTtlSeconds) q.requestDeadlineEpoch))
      fun _ c => now < c.leaseExpiresAtEpoch && c.selectedNodeId = m
    have room := h.node_room
    have bound := b.nodeClaims m
    unfold activeNodeClaimCount at room bound ⊢
    dsimp only at count ⊢
    by_cases hm : n = m
    · subst hm
      split at count <;> omega
    · have other : ∀ lease generation, (claimOf q consumer n registration.controlCredentialDigest
          generation lease).selectedNodeId ≠ m := fun _ _ => hm
      simp only [other, decide_false, Bool.and_false, Bool.false_eq_true, if_false] at count
      omega

theorem RenewsClaim.admission (b : AdmissionBounds env now s)
    (h : RenewsClaim env now req registration c s s') : AdmissionBounds env now s' := by
  rw [h.post]
  refine { b with claims := ?_, nodeClaims := fun m => ?_ }
  · have count := OrderedDict.count_set_old h.claimed { c with
      leaseExpiresAtEpoch := min (now + env.config.claimTtlSeconds) c.requestDeadlineEpoch }
      fun _ c => now < c.leaseExpiresAtEpoch
    have bound := b.claims
    unfold activeClaimCount at bound ⊢
    simp only [h.lease, decide_true, if_true] at count ⊢
    split at count <;> omega
  · have count := OrderedDict.count_set_old h.claimed { c with
      leaseExpiresAtEpoch := min (now + env.config.claimTtlSeconds) c.requestDeadlineEpoch }
      fun _ c => now < c.leaseExpiresAtEpoch && c.selectedNodeId = m
    have bound := b.nodeClaims m
    unfold activeNodeClaimCount at bound ⊢
    simp only [h.lease, decide_true, Bool.true_and] at count ⊢
    by_cases hm : c.selectedNodeId = m
    · subst hm
      simp only [decide_true, if_true, Bool.and_true] at count
      split at count <;> omega
    · simp only [hm, decide_false, Bool.and_false, Bool.false_eq_true, if_false] at count
      omega

/-! ## Retained records -/

theorem reapResponse_terminal_count {e : Identity × ResponseRecord}
    (hp : ∀ k t, p k { t with retrievalState := .retrievalExpired } = p k t) :
    (reapResponse now s e).terminals.count p = s.terminals.count p := by
  unfold reapResponse
  split
  · dsimp only
    cases ht : s.terminals.get? e.1 with
    | none => rfl
    | some t =>
      dsimp only
      split
      · exact OrderedDict.count_set_same ht (hp e.1 t)
      · rfl
  · rfl

theorem reapRetained_terminal_count
    (hp : ∀ k t, p k { t with retrievalState := .retrievalExpired } = p k t) :
    (reapRetainedLocked now s).terminals.count p ≤ s.terminals.count p := by
  have folded : ∀ (l : List (Identity × ResponseRecord)) (s : Store),
      (l.foldl (reapResponse now) s).terminals.count p = s.terminals.count p := by
    intro l
    induction l with
    | nil => exact fun _ => rfl
    | cons e l ih => exact fun s => (ih _).trans (reapResponse_terminal_count hp)
  refine le_trans ?_ (le_of_eq (folded s.responses.entries s))
  exact OrderedDict.count_filter_le ..

theorem reapRetained_response_count {p : Identity → ResponseRecord → Bool} :
    (reapRetainedLocked now s).responses.count p ≤ s.responses.count p := by
  have folded : ∀ (l : List (Identity × ResponseRecord)) (s : Store),
      (l.foldl (reapResponse now) s).responses.count p ≤ s.responses.count p := by
    intro l
    induction l with
    | nil => exact fun _ => le_refl _
    | cons e l ih =>
      intro s
      refine le_trans (ih _) ?_
      unfold reapResponse
      split
      · exact OrderedDict.count_erase_le ..
      · exact le_refl _
  exact folded s.responses.entries s

theorem reapRetained_retained (b : RetainedBounds env s) :
    RetainedBounds env (reapRetainedLocked now s) where
  responses := by
    rw [OrderedDict.size_eq_count]
    exact le_trans reapRetained_response_count (s.responses.size_eq_count ▸ b.responses)
  clientResponses := fun k => le_trans reapRetained_response_count (b.clientResponses k)
  terminals := by
    rw [OrderedDict.size_eq_count]
    exact le_trans (reapRetained_terminal_count fun _ _ => rfl)
      (s.terminals.size_eq_count ▸ b.terminals)
  clientTerminals := fun k =>
    le_trans (reapRetained_terminal_count fun _ _ => rfl) (b.clientTerminals k)
  controls := by
    rw [OrderedDict.size_eq_count, reapRetained_controlTombstones]
    exact le_trans (OrderedDict.count_filter_le ..)
      (s.controlTombstones.size_eq_count ▸ b.controls)
  nodeControls := fun n => by
    rw [reapRetained_controlTombstones]
    exact le_trans (OrderedDict.count_filter_le ..) (b.nodeControls n)

theorem Terminalizes.retained (b : RetainedBounds env s)
    (h : Terminalizes env P now id w status reason force s s') : RetainedBounds env s' := by
  have room := h.terminal_room
  have tombstoneRoom := h.tombstone_room
  simp only [terminalCapacityReached, not_or, not_le] at room
  simp only [controlTombstoneCapacityReached, not_or, not_le] at tombstoneRoom
  rw [h.post]
  constructor
  · rw [writeTerminal_responses]
    exact b.responses
  · rw [writeTerminal_responses]
    exact b.clientResponses
  · rw [writeTerminal_terminals, OrderedDict.size_eq_count]
    refine OrderedDict.count_set_le_of_room (fun _ => ?_) ?_
    · exact s.terminals.size_eq_count ▸ room.1
    · exact s.terminals.size_eq_count ▸ b.terminals
  · intro client
    rw [writeTerminal_terminals]
    refine OrderedDict.count_set_le_of_room (fun hp => ?_) (b.clientTerminals client)
    rw [← show id.1 = client from of_decide_eq_true hp]
    exact room.2
  · rw [writeTerminal_controlTombstones]
    cases hc : tombstoneClaim s id w status now force with
    | none => exact b.controls
    | some c =>
      dsimp only
      rw [OrderedDict.size_eq_count]
      refine OrderedDict.count_set_le_of_room (fun _ => ?_) (s.controlTombstones.size_eq_count ▸ b.controls)
      exact s.controlTombstones.size_eq_count ▸ (tombstoneRoom c hc).1
  · intro n
    rw [writeTerminal_controlTombstones]
    cases hc : tombstoneClaim s id w status now force with
    | none => exact b.nodeControls n
    | some c =>
      refine OrderedDict.count_set_le_of_room (fun hp => ?_) (b.nodeControls n)
      rw [← show c.selectedNodeId = n from of_decide_eq_true hp]
      exact (tombstoneRoom c hc).2

theorem Accepts.retained (b : RetainedBounds env s)
    (h : Accepts env now req envelope digest registration c q retrieval cancellation s s') :
    RetainedBounds env s' := by
  have room := h.room
  simp only [responseCapacityReached, terminalCapacityReached, not_or, not_le] at room
  obtain ⟨responses, clientResponses, terminals, clientTerminals⟩ := room
  rw [h.post]
  constructor
  · show (s.responses.set _ _).size ≤ _
    rw [OrderedDict.size_eq_count]
    refine OrderedDict.count_set_le_of_room (fun _ => ?_) (s.responses.size_eq_count ▸ b.responses)
    exact s.responses.size_eq_count ▸ responses
  · intro client
    refine OrderedDict.count_set_le_of_room (fun hp => ?_) (b.clientResponses client)
    rw [← show req.identity.1 = client from of_decide_eq_true hp]
    exact clientResponses
  · show (s.terminals.set _ _).size ≤ _
    rw [OrderedDict.size_eq_count]
    refine OrderedDict.count_set_le_of_room (fun _ => ?_) (s.terminals.size_eq_count ▸ b.terminals)
    exact s.terminals.size_eq_count ▸ terminals
  · intro client
    refine OrderedDict.count_set_le_of_room (fun hp => ?_) (b.clientTerminals client)
    rw [← show req.identity.1 = client from of_decide_eq_true hp]
    exact clientTerminals
  · exact b.controls
  · exact b.nodeControls

theorem RetainedBounds.setTerminal {t : TerminalOutcomeRecord}
    {state : RetrievalState} (b : RetainedBounds env s) (ht : s.terminals.get? id = some t) :
    RetainedBounds env { s with
      terminals := s.terminals.set id { t with retrievalState := state } } :=
  { b with
    terminals := (OrderedDict.size_set_old ht _).trans_le b.terminals
    clientTerminals := fun k => by
      refine le_trans (le_of_eq ?_) (b.clientTerminals k)
      exact OrderedDict.count_set_same ht rfl }

/-! ## Nodes -/

theorem fenceCount_eq : fenceCount s = s.formerNodeAuthorities.total OrderedDict.size := rfl

theorem fenceCount_set {d : OrderedDict String FormerNodeAuthority} :
    (s.formerNodeAuthorities.set digest d).total OrderedDict.size +
      (s.fencesOf digest).size = fenceCount s + d.size := by
  rw [fenceCount_eq]
  unfold Store.fencesOf
  cases h : s.formerNodeAuthorities.get? digest with
  | none =>
    rw [OrderedDict.total_set_new (OrderedDict.not_mem_iff.mpr h)]
    rfl
  | some authorities => exact OrderedDict.total_set_old h d OrderedDict.size

theorem reapRetained_nodes (b : NodeBounds env s) : NodeBounds env (reapRetainedLocked now s) := by
  have fences : fenceCount (reapRetainedLocked now s) ≤ fenceCount s := by
    rw [fenceCount_eq, reapRetained_formerNodeAuthorities]
    refine le_trans (OrderedDict.total_filter_le ..) (OrderedDict.total_mapValues_le ?_ _)
    intro digest authorities
    rw [OrderedDict.size_eq_count, OrderedDict.size_eq_count]
    exact OrderedDict.count_filter_le ..
  have tombstones : (reapRetainedLocked now s).nodeTombstones.size ≤ s.nodeTombstones.size := by
    rw [reapRetained_nodeTombstones, OrderedDict.size_eq_count, OrderedDict.size_eq_count]
    exact OrderedDict.count_filter_le ..
  have fenceBound := le_trans fences b.fences
  have tombstoneBound := le_trans tombstones b.nodeTombstones
  rw [reapRetained_eq] at fenceBound tombstoneBound ⊢
  exact ⟨b.records, tombstoneBound, b.pending, fenceBound, b.cursors⟩

theorem StartsRemoval.nodes {cause : Cause}
    (b : NodeBounds env s) (h : StartsRemoval env now n record cause s s') :
    NodeBounds env s' := by
  rw [h.post]
  constructor
  · exact le_trans (OrderedDict.size_erase_le ..) b.records
  · show (s.nodeTombstones.set _ _).size ≤ _
    rcases h.tombstone_room with present | room
    · obtain ⟨t, ht⟩ := OrderedDict.mem_def.mp present
      exact (OrderedDict.size_set_old ht _).trans_le b.nodeTombstones
    · exact OrderedDict.size_set_le_of_room room
  · exact OrderedDict.size_set_le_of_room h.pending_room
  · show OrderedDict.total _ (s.formerNodeAuthorities.set _ _) ≤ _
    have total := @fenceCount_set s (nodeDigest env n)
      ((s.fencesOf (nodeDigest env n)).set record.controlCredentialDigest
        ⟨record.controlCredentialDigest, (pendingOf env n record cause now).cause,
          (pendingOf env n record cause now).status, now,
          now + env.config.terminalRetentionSeconds⟩)
    have bound := b.fences
    rcases h.fence_room with present | room
    · obtain ⟨a, ha⟩ := OrderedDict.mem_def.mp present
      rw [OrderedDict.size_set_old ha] at total
      omega
    · have grown := OrderedDict.size_set_le (s.fencesOf (nodeDigest env n))
        record.controlCredentialDigest
        (⟨record.controlCredentialDigest, (pendingOf env n record cause now).cause,
          (pendingOf env n record cause now).status, now,
          now + env.config.terminalRetentionSeconds⟩ : FormerNodeAuthority)
      omega
  · show (s.fairnessCursors.filter _).size ≤ _
    refine le_trans ?_ b.cursors
    rw [OrderedDict.size_eq_count, OrderedDict.size_eq_count]
    exact OrderedDict.count_filter_le ..

theorem TouchesFences.nodes (b : NodeBounds env s)
    (h : TouchesFences digest s s') : NodeBounds env s' := by
  have total := @fenceCount_set s digest (s.fencesOf digest)
  have bound := b.fences
  rw [h.post]
  refine { b with fences := ?_ }
  show OrderedDict.total _ (s.formerNodeAuthorities.set _ _) ≤ _
  omega

theorem FinishesRemoval.nodes {p : PendingNodeTransition}
    {authority : FormerNodeAuthority} (b : NodeBounds env s)
    (h : FinishesRemoval env now n p authority s s') : NodeBounds env s' := by
  have total := @fenceCount_set s p.nodeIdentityDigest
    ((s.fencesOf p.nodeIdentityDigest).set p.controlCredentialDigest
      { authority with expiresAtEpoch := now + env.config.terminalRetentionSeconds })
  rw [OrderedDict.size_set_old h.fence] at total
  have bound := b.fences
  rw [h.post]
  refine { b with nodeTombstones := ?_, pending := ?_, fences := ?_ }
  · dsimp only
    cases ht : s.nodeTombstones.get? p.nodeIdentityDigest with
    | none => exact b.nodeTombstones
    | some t => exact (OrderedDict.size_set_old ht _).trans_le b.nodeTombstones
  · exact le_trans (OrderedDict.size_erase_le ..) b.pending
  · show OrderedDict.total _ (s.formerNodeAuthorities.set _ _) ≤ _
    omega

theorem mem_of_leastActive {l : List (String × (String × Nat))} {a : Nat} {f : String}
    (h : leastActive l = some (a, f)) : f ∈ l.map Prod.fst := by
  induction l generalizing a f with
  | nil => cases h
  | cons entry l ih =>
    obtain ⟨g, node, activity⟩ := entry
    unfold leastActive at h
    cases hl : leastActive l with
    | none =>
      rw [hl] at h
      cases h
      exact List.mem_cons_self
    | some least =>
      obtain ⟨a', f'⟩ := least
      rw [hl] at h
      dsimp only at h
      split at h
      · cases h
        exact List.mem_cons_self
      · cases h
        exact List.mem_cons_of_mem _ (ih hl)

/-- A new cursor fits, or takes the place of the evicted one. -/
theorem Reserves.nodes {req : SelectionRequest} {record : ReservationRecord} (b : NodeBounds env s)
    (h : Reserves env now req record evicted s s') : NodeBounds env s' := by
  have cursor := h.cursor
  unfold cursorEvictionCandidate at cursor
  rw [h.post]
  refine { b with cursors := ?_ }
  show OrderedDict.size (OrderedDict.set _ record.schedulerFingerprint _) ≤ _
  split at cursor
  · next present =>
    cases cursor
    obtain ⟨v, hv⟩ := OrderedDict.mem_def.mp present
    exact (OrderedDict.size_set_old hv _).trans_le b.cursors
  · split at cursor
    · next room =>
      cases cursor
      exact OrderedDict.size_set_le_of_room room
    · split at cursor
      · cases cursor
      · next a f least =>
        cases cursor
        have listed := mem_of_leastActive least
        obtain ⟨e, he, rfl⟩ := List.mem_map.mp listed
        have present := OrderedDict.mem_entries.mp (List.mem_of_mem_filter he)
        have freed := OrderedDict.count_erase present fun _ _ => true
        rw [← OrderedDict.size_eq_count, ← OrderedDict.size_eq_count] at freed
        simp only [if_true] at freed
        refine OrderedDict.size_set_le_of_room ?_
        have bound := b.cursors
        dsimp only
        omega

theorem Registers.nodes (b : NodeBounds env s)
    (h : Registers env now n record s s') : NodeBounds env s' := by
  rw [h.post]
  exact { b with records := OrderedDict.size_set_le_of_room h.room }

theorem Refreshes.nodes {old new : ComputeNodeRegistration} (b : NodeBounds env s)
    (h : Refreshes n old new s s') : NodeBounds env s' := by
  rw [h.post]
  exact { b with records := (OrderedDict.size_set_old h.present _).trans_le b.records }

theorem SameNodes.nodes (b : NodeBounds env s) (h : SameNodes s s') : NodeBounds env s' where
  records := by rw [h.records]; exact b.records
  nodeTombstones := by rw [h.nodeTombstones]; exact b.nodeTombstones
  pending := by rw [h.pending]; exact b.pending
  fences := by unfold fenceCount; rw [h.fences]; exact b.fences
  cursors := by rw [h.cursors]; exact b.cursors

/-! ## Every run -/

theorem SameRequests.noMore (h : SameRequests s s') : NoMore s s' where
  reservations := fun _ => by rw [h.reservations]
  queued := fun _ => by rw [h.queued]
  claims := fun _ => by rw [h.claims]
  queues := fun n => by
    unfold queueLength Store.queueOf
    rw [h.nodeQueues]

theorem RetainedBounds.same (b : RetainedBounds env s) (responses : s'.responses = s.responses)
    (terminals : s'.terminals = s.terminals)
    (controls : s'.controlTombstones = s.controlTombstones) : RetainedBounds env s' where
  responses := by rw [responses]; exact b.responses
  clientResponses := by rw [responses]; exact b.clientResponses
  terminals := by rw [terminals]; exact b.terminals
  clientTerminals := by rw [terminals]; exact b.clientTerminals
  controls := by rw [controls]; exact b.controls
  nodeControls := by rw [controls]; exact b.nodeControls

theorem Bounds.nodesOnly (b : Bounds env now s) (requests : SameRequests s s')
    (responses : s'.responses = s.responses) (terminals : s'.terminals = s.terminals)
    (controls : s'.controlTombstones = s.controlTombstones) (nodes : NodeBounds env s') :
    Bounds env now s' :=
  ⟨requests.noMore.keeps b.admission, b.retained.same responses terminals controls, nodes⟩

theorem Sweep.bounds (requests : RequestInv s) (h : Sweep env P now s s')
    (b : Bounds env now s) : Bounds env now s' := by
  cases h with
  | reapRetained =>
    exact ⟨reapRetained_sameRequests.noMore.keeps b.admission, reapRetained_retained b.retained,
      reapRetained_nodes b.nodes⟩
  | terminalize h =>
    refine ⟨(h.noMore requests).keeps b.admission, h.retained b.retained, ?_⟩
    rw [h.post]
    exact writeTerminal_sameNodes.nodes b.nodes
  | defer h =>
    rw [h.post]
    exact b.nodesOnly ⟨rfl, rfl, rfl, rfl, rfl, rfl, rfl, rfl, fun _ ht => ht⟩ rfl rfl rfl
      { b.nodes with }
  | lapse h =>
    refine ⟨h.noMore.keeps b.admission, ?_, ?_⟩
    · rw [h.post]
      exact b.retained.same rfl rfl rfl
    · rw [h.post]
      exact { b.nodes with }
  | startRemoval h | touchFences h | finishRemoval h =>
    have nodes := h.nodes b.nodes
    rw [h.post] at nodes ⊢
    exact b.nodesOnly ⟨rfl, rfl, rfl, rfl, rfl, rfl, rfl, rfl, fun _ ht => ht⟩ rfl rfl rfl nodes
  | discardWork h =>
    rw [h.post]
    exact ⟨{ b.admission with }, b.retained.same rfl rfl rfl, { b.nodes with }⟩

theorem Commit.bounds {drawn : String} {op : Op} {r : Except StoreError Reply}
    (requests : RequestInv s) (h : Commit env now drawn op s r s') (b : Bounds env now s) :
    Bounds env now s' := by
  cases h with
  | register h | reregister _ h | renew h =>
    have nodes := h.nodes b.nodes
    rw [h.post] at nodes ⊢
    exact b.nodesOnly ⟨rfl, rfl, rfl, rfl, rfl, rfl, rfl, rfl, fun _ ht => ht⟩ rfl rfl rfl nodes
  | setScheduler h | advance h =>
    rw [h.post]
    exact ⟨{ b.admission with }, b.retained.same rfl rfl rfl, { b.nodes with }⟩
  | reserve _ h =>
    refine ⟨h.admission b.admission, ?_, h.nodes b.nodes⟩
    rw [h.post]
    exact b.retained.same rfl rfl rfl
  | enqueue _ h =>
    refine ⟨h.admission requests b.admission, ?_, ?_⟩
    · rw [h.post]
      exact b.retained.same rfl rfl rfl
    · rw [h.post]
      exact { b.nodes with }
  | claim _ _ h | renewClaim _ h =>
    refine ⟨h.admission b.admission, ?_, ?_⟩
    · rw [h.post]
      exact b.retained.same rfl rfl rfl
    · rw [h.post]
      exact { b.nodes with }
  | acknowledgeControl _ h =>
    rw [h.post]
    refine ⟨{ b.admission with }, { b.retained with controls := ?_, nodeControls := fun n => ?_ },
      { b.nodes with }⟩
    · exact (OrderedDict.size_set_old h.present _).trans_le b.retained.controls
    · refine le_trans (le_of_eq ?_) (b.retained.nodeControls n)
      exact OrderedDict.count_set_same h.present rfl
  | accept _ h =>
    refine ⟨(h.noMore requests).keeps b.admission, h.retained b.retained, ?_⟩
    rw [h.post]
    exact { b.nodes with }
  | acknowledgeResponse _ h =>
    have retained := @RetainedBounds.setTerminal env s _ _ .acknowledged b.retained h.present
    rw [h.post]
    refine ⟨{ b.admission with },
      { retained with responses := ?_, clientResponses := fun k => ?_ }, { b.nodes with }⟩
    · exact le_trans (OrderedDict.size_erase_le ..) b.retained.responses
    · exact le_trans (OrderedDict.count_erase_le ..) (b.retained.clientResponses k)
  | repair _ h =>
    rw [h.post]
    exact ⟨{ b.admission with }, b.retained.setTerminal h.present, { b.nodes with }⟩
  | cancel _ h =>
    refine ⟨(h.noMore requests).keeps b.admission, h.retained b.retained, ?_⟩
    rw [h.post]
    exact writeTerminal_sameNodes.nodes b.nodes

theorem Sweeps.bounds (requests : RequestInv s) (h : Sweeps env Any now s s')
    (b : Bounds env now s) : Bounds env now s' := by
  refine And.right (h.keeps (I := fun x => RequestInv x ∧ Bounds env now x) ?_ ⟨requests, b⟩)
  rintro a b step ⟨requests, bounds⟩
  exact ⟨step.requestInv requests, step.bounds requests bounds⟩

theorem CallOutcome.bounds {c : Call} {r : Except StoreError Reply}
    (h : CallOutcome env c s r s') (requests : RequestInv s) (b : Bounds env c.clock s) :
    Bounds env c.clock s' := by
  refine And.right (h.keeps (I := fun x => RequestInv x ∧ Bounds env c.clock x) ?_ ?_
    ⟨requests, b⟩)
  · rintro a b step ⟨requests, bounds⟩
    exact ⟨step.requestInv requests, step.bounds requests bounds⟩
  · rintro a r b step ⟨requests, bounds⟩
    exact ⟨step.requestInv requests, step.bounds requests bounds⟩

theorem runs_bounds {calls : List Call} (nondecreasing : ClockNondecreasing calls)
    (read : ∀ c ∈ calls, c.op.validate env = .ok () → c.clock ≤ t) :
    Bounds env t (runs env calls Store.initial) := by
  induction calls using List.reverseRecOn generalizing t with
  | nil => exact bounds_initial
  | append_singleton calls c ih =>
    obtain ⟨earlier, -, before⟩ := List.pairwise_append.mp nondecreasing
    have outcome := @Call.next_outcome env c (runs env calls Store.initial)
    rw [runs_snoc]
    by_cases valid : c.op.validate env = .ok ()
    · have b := ih earlier fun a ha _ => before a ha c List.mem_cons_self
      have b' := outcome.bounds (reachable_runs calls).requestInv b
      have hle : c.clock ≤ t := read c (List.mem_append_right _ List.mem_cons_self) valid
      exact ⟨b'.admission.later hle, b'.retained, b'.nodes⟩
    · rw [outcome.unvalidated valid]
      exact ih earlier fun a ha => read a (List.mem_append_left _ ha)

theorem AdmissionBounds.queue_room (b : AdmissionBounds env t s)
    (hr : s.reservations.get? id = some r) :
    queueLength s r.selectedNodeId < env.config.maxQueueDepthPerNode := by
  have counted := OrderedDict.count_erase hr fun _ x => x.selectedNodeId = r.selectedNodeId
  simp only [decide_true, if_true] at counted
  have depth := b.depth r.selectedNodeId
  unfold reservationCount at depth
  omega

end

/-- In a run whose clock does not go back every table stays within its bound,
and no holder of a reservation is turned away for the length of a queue. -/
theorem bounds_hold (env : StoreEnv) (calls : List Call)
    (nondecreasing : ClockNondecreasing calls) :
    let s := runs env calls Store.initial
    (∀ t, (∀ c ∈ calls, c.op.validate env = .ok () → c.clock ≤ t) → Bounds env t s) ∧
    ∀ clock, (∀ c ∈ calls, c.clock ≤ clock) → ∀ s₁, reapLocked env clock s = (.ok (), s₁) →
      ∀ client request token n model tier due envelope cancellation req r,
      validateEnqueue env client request token n model tier due envelope cancellation = .ok req →
      s₁.reservations.get? req.identity = some r → r.selectedNodeId = req.selectedNodeId →
      ¬env.config.maxQueueDepthPerNode ≤ queueLength s₁ req.selectedNodeId := by
  intro s
  have reachable : Reachable env s := reachable_runs calls
  refine ⟨fun t read => runs_bounds nondecreasing read, ?_⟩
  intro clock later s₁ reaped client request token n model tier due envelope cancellation req r _
    reserved node
  have b : Bounds env clock s := runs_bounds nondecreasing fun c hc _ => later c hc
  have b₁ := (reapLocked_sweeps.of_eq reaped).bounds reachable.requestInv b
  rw [← node]
  exact not_le.mpr (b₁.admission.queue_room reserved)

/-- A completed request is within the bounds. -/
theorem bounds_hold_completed :
    let calls := registration :: (admission 100 ++ service)
    ClockNondecreasing calls ∧
      (runs defaultEnv calls Store.initial).responses.size = 1 ∧
      Bounds defaultEnv 1 (runs defaultEnv calls Store.initial) :=
  ⟨by decide +kernel, by decide +kernel,
    (bounds_hold defaultEnv (registration :: (admission 100 ++ service)) (by decide +kernel)).1 1
      (by decide +kernel)⟩

end StateStore
