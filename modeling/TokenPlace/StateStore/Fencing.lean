import TokenPlace.StateStore.Lifecycles
import TokenPlace.StateStore.NodeSide

/-!
# Claim fencing

A claim in the store was issued by one call of the run, to its node, credential
and consumer, and since then its request has stayed queued and its node has not
been removed without being under removal still (`Provenance`). A renewal or a
response is only accepted for the claim in the store, so for the last generation
issued for its identity.

* `Commit.carries`, `Sweep.carries`: where a claim comes from, one effect at a time;
* `runs_provenance`: where it comes from in a run;
* `claims_fenced`: what a renewal or an accepted response implies.
-/

namespace StateStore

/-! ## One effect -/

/-- The claim `c'` in `b` is the claim `c` in `a`, up to its lease; its request and
the registration of its node are still the same, or the node is under removal. -/
structure Carried (id : Identity) (c c' : ClaimRecord) (a b : Store) : Prop where
  before : a.claims.get? id = some c
  same : { c' with leaseExpiresAtEpoch := c.leaseExpiresAtEpoch } = c
  queued : b.queued.get? id = a.queued.get? id
  order : ∀ o, a.registrationOrder.get? c.selectedNodeId = some o →
    b.registrationOrder.get? c.selectedNodeId = some o ∨
      c.selectedNodeId ∈ b.pendingNodeTransitions
  pending : c.selectedNodeId ∈ a.pendingNodeTransitions →
    c.selectedNodeId ∈ b.pendingNodeTransitions

theorem Carried.fields {id : Identity} {c c' : ClaimRecord} {a b : Store}
    (h : Carried id c c' a b) : c'.generation = c.generation ∧
      c'.selectedNodeId = c.selectedNodeId ∧
      c'.controlCredentialDigest = c.controlCredentialDigest ∧
      c'.consumerIdentityDigest = c.consumerIdentityDigest := by
  rw [← h.same]
  exact ⟨rfl, rfl, rfl, rfl⟩

theorem Carried.trans {id : Identity} {c c' c'' : ClaimRecord} {x y z : Store}
    (h : Carried id c c' x y) (h' : Carried id c' c'' y z) : Carried id c c'' x z := by
  have node := h.fields.2.1
  refine ⟨h.before, ?_, h'.queued.trans h.queued, fun o ho => ?_, fun hp => ?_⟩
  · rw [← h.same, ← h'.same]
  · rcases h.order o ho with order | pending
    · exact node ▸ h'.order o (node ▸ order)
    · exact .inr (node ▸ h'.pending (node ▸ pending))
  · exact node ▸ h'.pending (node ▸ h.pending hp)

section

variable {env : StoreEnv} {P : TerminalPolicy} {now : Epoch} {s s' : Store} {id : Identity}
  {c' : ClaimRecord}

theorem carried_same (hc : s'.claims.get? id = some c')
    (claims : s'.claims.get? id = s.claims.get? id)
    (queued : s'.queued.get? id = s.queued.get? id)
    (order : s'.registrationOrder = s.registrationOrder)
    (pending : s'.pendingNodeTransitions = s.pendingNodeTransitions) :
    Carried id c' c' s s' :=
  ⟨claims ▸ hc, rfl, queued, fun _ ho => .inl (order ▸ ho), fun hp => pending ▸ hp⟩

theorem Removed.carried {k : Identity} (h : Removed k s s') (nodes : SameNodes s s')
    (hc : s'.claims.get? id = some c') : Carried id c' c' s s' := by
  obtain ⟨hne, -⟩ := (some_of_removed h.claims).mp hc
  refine carried_same hc ?_ ?_ nodes.registrationOrder nodes.pending
  · rw [h.claims, if_neg hne]
  · rw [h.queued, if_neg hne]

theorem Sweep.carries (requests : RequestInv s) (h : Sweep env P now s s')
    (hc : s'.claims.get? id = some c') : Carried id c' c' s s' := by
  cases h with
  | reapRetained =>
    rw [reapRetained_eq] at hc ⊢
    exact carried_same hc rfl rfl rfl rfl
  | terminalize h =>
    refine (h.removed requests).carried ?_ hc
    rw [h.post]
    exact writeTerminal_sameNodes
  | defer h | discardWork h | touchFences h =>
    rw [h.post] at hc ⊢
    exact carried_same hc rfl rfl rfl rfl
  | lapse h =>
    refine (h.removed requests).carried ?_ hc
    rw [h.post]
    exact ⟨rfl, rfl, rfl, rfl, rfl, rfl, rfl, rfl⟩
  | startRemoval h =>
    rw [h.post] at hc ⊢
    refine ⟨hc, rfl, rfl, fun o ho => ?_, fun hp => OrderedDict.mem_set.mpr (.inr hp)⟩
    -- the registration of the removed node is gone, but the node is pending
    rcases eq_or_ne c'.selectedNodeId ‹String› with node | node
    · exact .inr (OrderedDict.mem_set.mpr (.inl node))
    · exact .inl (((OrderedDict.get?_erase ..).trans (if_neg node)).trans ho)
  | finishRemoval h =>
    have noWork := h.no_work
    rw [h.post] at hc ⊢
    refine ⟨hc, rfl, rfl, fun o ho => .inl ho, fun hp => OrderedDict.mem_erase.mpr ⟨?_, hp⟩⟩
    -- the claimed request would still be work of the node
    intro node
    obtain ⟨q, queued, sameNode, -⟩ := requests.claim_queued id c' hc
    have listed := (requests.work_mem _ id).mpr ⟨.queued q, queued, rfl⟩
    rw [show (Work.queued q).selectedNodeId = c'.selectedNodeId from sameNode.symm, node] at listed
    exact not_mem_of_entries_nil noWork id listed

/-- Where the claim `c'` of `id` after a commit comes from. -/
inductive ClaimOrigin (env : StoreEnv) (now : Epoch) (op : Op) (s : Store)
    (r : Except StoreError Reply) (s' : Store) (id : Identity) (c' : ClaimRecord) : Prop
  | issued {n d consumer : String} {digest : String} {registration : ComputeNodeRegistration}
      {q : QueuedRequest} : op = .claimQueuedRequest n d consumer →
      validateClaim env n d consumer = .ok digest → registration.controlCredentialDigest = d →
      Claims env now n digest registration q s s' → q.identity = id →
      r = .ok (.claim (.work ⟨(s.claims.get? id).isSome, c'.generation, c'.leaseExpiresAtEpoch,
        c'.requestDeadlineEpoch, q.clientPublicKey, q.requestId, q.envelope⟩)) →
      c' = claimOf q digest n d (s.nextClaimGeneration + 1)
        (min (now + env.config.claimTtlSeconds) q.requestDeadlineEpoch) →
      ClaimOrigin env now op s r s' id c'
  | renewed {n d consumer client request : String} {generation : Nat} {acknowledge : Bool}
      {c : ClaimRecord} :
      op = .renewClaimOrReadControl n d consumer client request generation acknowledge →
      generation = c'.generation → identityOf env client request = .ok id →
      r = .ok (.renewal (.continued c'.generation c'.leaseExpiresAtEpoch)) →
      Carried id c c' s s' → ClaimOrigin env now op s r s' id c'
  | kept : Carried id c' c' s s' → ClaimOrigin env now op s r s' id c'

variable {r : Except StoreError Reply} {drawn : String} {op : Op}

theorem Commit.carries
    (requests : RequestInv s) (nodes : NodeInv env s) (h : Commit env now drawn op s r s')
    (hc : s'.claims.get? id = some c') : ClaimOrigin env now op s r s' id c' := by
  cases h with
  | register h =>
    refine .kept ?_
    have absent := OrderedDict.not_mem_iff.mpr h.absent
    rw [h.post] at hc ⊢
    refine ⟨hc, rfl, rfl, fun o ho => .inl ?_, fun hp => hp⟩
    have registered := (nodes.order_iff _).mp (OrderedDict.mem_of_get? ho)
    refine ((OrderedDict.get?_set ..).trans (if_neg ?_)).trans ho
    intro node
    exact absent (node ▸ registered)
  | reregister _ h | renew h | setScheduler h | reserve _ h | advance h | acknowledgeControl _ h
  | acknowledgeResponse _ h | repair _ h =>
    rw [h.post] at hc ⊢
    exact .kept (carried_same hc rfl rfl rfl rfl)
  | enqueue _ h =>
    have fresh := h.not_queued
    rw [h.post] at hc ⊢
    refine .kept (carried_same hc rfl ?_ rfl rfl)
    -- a claimed request is queued already, and the new one was not
    refine (OrderedDict.get?_set ..).trans (if_neg ?_)
    rintro rfl
    obtain ⟨q, queued, -⟩ := requests.claim_queued _ c' hc
    rw [fresh] at queued
    cases queued
  | claim valid owner h =>
    have post := h.post
    rw [post] at hc
    have found := (OrderedDict.get?_set ..).symm.trans hc
    split at found
    · next same =>
      subst same
      cases found
      exact .issued rfl valid owner h rfl rfl (by rw [owner])
    · refine .kept ?_
      rw [post]
      exact carried_same hc (hc.trans found.symm) rfl rfl rfl
  | renewClaim valid h =>
    obtain ⟨-, -, generation, -, identity⟩ := validateOwner_ok valid
    have claimed := h.claimed
    have held := h.generation
    rw [h.post] at hc ⊢
    have found := (OrderedDict.get?_set ..).symm.trans hc
    split at found
    · next same =>
      subst same
      cases found
      exact .renewed rfl (generation.symm.trans held.symm) identity (by rw [← held])
        ⟨claimed, rfl, rfl, fun _ ho => .inl ho, fun hp => hp⟩
    · exact .kept (carried_same hc (hc.trans found.symm) rfl rfl rfl)
  | accept _ h =>
    refine .kept ((h.removed requests).carried ?_ hc)
    rw [h.post]
    exact ⟨rfl, rfl, rfl, rfl, rfl, rfl, rfl, rfl⟩
  | cancel _ h =>
    refine .kept ((h.removed requests).carried ?_ hc)
    rw [h.post]
    exact writeTerminal_sameNodes

theorem Sweeps.carries (requests : RequestInv s) (h : Sweeps env P now s s')
    (hc : s'.claims.get? id = some c') : Carried id c' c' s s' := by
  induction h with
  | refl => exact carried_same hc rfl rfl rfl rfl
  | tail before step ih =>
    have inv := Sweeps.keeps (fun _ _ step => step.requestInv) before requests
    have last := step.carries inv hc
    exact (ih last.before).trans last

/-! ## One call -/

/-- The keys of a queued request are those of its identity. -/
def KeysMatch (env : StoreEnv) (s : Store) : Prop :=
  ∀ id q, s.queued.get? id = some q → identityOf env q.clientPublicKey q.requestId = .ok id

theorem Sweep.keysMatch (h : Sweep env P now s s') (keys : KeysMatch env s) : KeysMatch env s' :=
  fun id q hq => keys id q (h.shrinks.work id (.queued q) hq)

theorem Commit.keysMatch
    (requests : RequestInv s) (h : Commit env now drawn op s r s') (keys : KeysMatch env s) :
    KeysMatch env s' := by
  intro id q hq
  cases h.queued_origin requests hq with
  | kept hq => exact keys id q hq
  | enqueued _ valid _ same record =>
    obtain ⟨identity, -, client, request, -⟩ := validateEnqueue_ok valid
    rw [record, ← same]
    show identityOf env _ _ = _
    rw [← identity, ← client, ← request]
    rfl

theorem Sweep.generation (h : Sweep env P now s s') :
    s'.nextClaimGeneration = s.nextClaimGeneration := by
  cases h with
  | reapRetained => rw [reapRetained_eq]
  | terminalize h => rw [h.post, writeTerminal_generation]
  | defer h | touchFences h | finishRemoval h => rw [h.post]
  | lapse h | startRemoval h | discardWork h => rw [h.post]; rfl

theorem Sweeps.generation (h : Sweeps env P now s s') :
    s'.nextClaimGeneration = s.nextClaimGeneration :=
  h.keeps (I := fun x => x.nextClaimGeneration = s.nextClaimGeneration)
    (fun _ _ step => (step.generation).trans) rfl

theorem Commit.generation
    (h : Commit env now drawn op s r s') : s.nextClaimGeneration ≤ s'.nextClaimGeneration := by
  cases h with
  | register h | reregister _ h | renew h | setScheduler h | renewClaim _ h
  | acknowledgeControl _ h | acknowledgeResponse _ h | repair _ h => rw [h.post]
  | reserve _ h | enqueue _ h | accept _ h => rw [h.post]; exact le_refl _
  | advance h | claim _ _ h => rw [h.post]; exact Nat.le_succ _
  | cancel _ h => rw [h.post, writeTerminal_generation]

theorem CallOutcome.generation {c : Call}
    (h : CallOutcome env c s r s') : s.nextClaimGeneration ≤ s'.nextClaimGeneration :=
  h.keeps (I := fun x => s.nextClaimGeneration ≤ x.nextClaimGeneration)
    (fun _ _ step before => before.trans (le_of_eq step.generation.symm))
    (fun _ _ _ step before => before.trans step.generation) (le_refl _)

end

/-- The call hands the request to a consumer of the node, under the generation `g`. -/
structure Issues (env : StoreEnv) (c : Call) (s : Store) (id : Identity) (g : Nat)
    (n d consumer : String) (lease : Epoch) : Prop where
  op : c.op = .claimQueuedRequest n d consumer
  work : ∃ w, c.result env s = .ok (.claim (.work w)) ∧
    identityOf env w.clientPublicKey w.requestId = .ok id ∧ w.generation = g ∧
    w.leaseExpiresAtEpoch = lease

/-- The call extends the lease of the generation `g`. -/
structure Extends (env : StoreEnv) (c : Call) (s : Store) (id : Identity) (g : Nat)
    (n d consumer : String) (lease : Epoch) : Prop where
  op : ∃ client request acknowledge, identityOf env client request = .ok id ∧
    c.op = .renewClaimOrReadControl n d consumer client request g acknowledge
  result : c.result env s = .ok (.renewal (.continued g lease))

/-- The call newly accepts a response under the generation `g`. -/
structure AcceptsUnder (env : StoreEnv) (c : Call) (s : Store) (id : Identity) (g : Nat)
    (n d consumer : String) : Prop where
  op : ∃ client request envelope, identityOf env client request = .ok id ∧
    c.op = .acceptEncryptedResponse n d consumer client request g envelope
  result : ∃ r, c.result env s = .ok (.acceptance r) ∧ r.newOutcome = true

/-- The call sets the lease of the generation `g`. -/
def Grants (env : StoreEnv) (c : Call) (s : Store) (id : Identity) (g : Nat) (lease : Epoch) :
    Prop :=
  ∃ n d consumer, Issues env c s id g n d consumer lease ∨ Extends env c s id g n d consumer lease

section

variable {env : StoreEnv} {s : Store} {id : Identity} {c : Call} {g : Nat} {n d consumer : String}
  {lease : Epoch}

theorem housekeeping_requestInv {op : Op} {clock : Epoch} {r : Except StoreError Unit} {s₁ : Store}
    (requests : RequestInv s) (housekept : op.housekeeping env clock s = (r, s₁)) :
    RequestInv s₁ :=
  ((op.housekeeping_sweeps clock).of_eq housekept).keeps (fun _ _ step => step.requestInv) requests

theorem Issues.claims (requests : RequestInv s) (keys : KeysMatch env s)
    (h : Issues env c s id g n d consumer lease) :
    ∃ s₁ digest registration q, Sweeps env Any c.clock s s₁ ∧
      Claims env c.clock n digest registration q s₁ (c.next env s) ∧
      registration.controlCredentialDigest = d ∧ q.identity = id ∧
      g = s.nextClaimGeneration + 1 ∧
      lease = min (c.clock + env.config.claimTtlSeconds) q.requestDeadlineEpoch := by
  obtain ⟨hop, w, result, identity, rfl, rfl⟩ := h
  have outcome : CallOutcome env c s _ _ := c.next_outcome s
  obtain ⟨clock, drawn, op⟩ := c
  subst hop
  rw [result] at outcome
  generalize Call.next env _ s = s' at outcome
  cases outcome with
  | body _ _ housekept body =>
    cases body with
    | unchanged silent => cases silent _ rfl
    | committed h =>
      cases h with
      | claim valid owner h =>
        have swept := (Op.housekeeping_sweeps _ _).of_eq housekept
        have requests₁ := housekeeping_requestInv requests housekept
        obtain ⟨queued, -⟩ := (requests₁.queue_mem _ _).mp h.queued
        have own := keys _ _ (swept.shrinks.work _ (.queued _) queued)
        cases identity.symm.trans own
        exact ⟨_, _, _, _, swept, h, owner, rfl, by rw [swept.generation], rfl⟩
  | removal _ _ _ _ removal => cases removal

theorem Extends.renews (h : Extends env c s id g n d consumer lease) :
    ∃ s₁ req registration old, Sweeps env Any c.clock s s₁ ∧
      reapLocked env c.clock s = (.ok (), s₁) ∧
      RenewsClaim env c.clock req registration old s₁ (c.next env s) ∧
      req.nodeId = n ∧ req.digest = d ∧ req.generation = g ∧ req.identity = id ∧
      consumerDigest env consumer = .ok req.consumer ∧
      lease = min (c.clock + env.config.claimTtlSeconds) old.requestDeadlineEpoch := by
  obtain ⟨⟨client, request, acknowledge, identity, hop⟩, result⟩ := h
  have outcome : CallOutcome env c s _ _ := c.next_outcome s
  obtain ⟨clock, drawn, op⟩ := c
  subst hop
  rw [result] at outcome
  generalize Call.next env _ s = s' at outcome
  cases outcome with
  | body _ _ housekept body =>
    cases body with
    | unchanged silent => cases silent _ rfl
    | committed h =>
      generalize heq : (Except.ok (Reply.renewal (.continued g lease)) : Except StoreError Reply) = r
        at h
      cases h with
      | renewClaim valid h =>
        cases heq
        obtain ⟨node, digest, -, consumer, same⟩ := validateOwner_ok valid
        cases identity.symm.trans same
        exact ⟨_, _, _, _, (Op.housekeeping_sweeps _ _).of_eq housekept, housekept, h, node,
          digest, rfl, rfl, consumer, rfl⟩
      | acknowledgeControl _ _ => cases heq
  | removal _ _ _ _ removal => cases removal

theorem AcceptsUnder.accepts (h : AcceptsUnder env c s id g n d consumer) :
    ∃ s₁ req envelope digest registration old q retrieval cancellation,
      Sweeps env Any c.clock s s₁ ∧ reapLocked env c.clock s = (.ok (), s₁) ∧
      Accepts env c.clock req envelope digest registration old q retrieval cancellation s₁
        (c.next env s) ∧
      req.nodeId = n ∧ req.digest = d ∧ req.generation = g ∧ req.identity = id ∧
      consumerDigest env consumer = .ok req.consumer := by
  obtain ⟨⟨client, request, envelope, identity, hop⟩, r, result, new⟩ := h
  have outcome : CallOutcome env c s _ _ := c.next_outcome s
  obtain ⟨clock, drawn, op⟩ := c
  subst hop
  rw [result] at outcome
  generalize Call.next env _ s = s' at outcome
  cases outcome with
  | body _ _ housekept body =>
    cases body with
    | unchanged silent => exact absurd new (ne_true_of_eq_false (silent _ rfl))
    | committed h =>
      cases h with
      | accept valid h =>
        obtain ⟨owner, -⟩ := validateAcceptance_ok valid
        obtain ⟨node, digest, generation, consumer, same⟩ := validateOwner_ok owner
        cases identity.symm.trans same
        exact ⟨_, _, _, _, _, _, _, _, _, (Op.housekeeping_sweeps _ _).of_eq housekept, housekept,
          h, node, digest, generation, rfl, consumer⟩
  | removal _ _ _ _ removal => cases removal

theorem Grants.in_store (requests : RequestInv s) (keys : KeysMatch env s)
    (h : Grants env c s id g lease) {c' : ClaimRecord}
    (hc : (c.next env s).claims.get? id = some c') :
    c'.generation = g ∧ c'.leaseExpiresAtEpoch = lease := by
  obtain ⟨n, d, consumer, issues | renews⟩ := h
  · obtain ⟨s₁, digest, registration, q, swept, claims, -, same, rfl, rfl⟩ :=
      issues.claims requests keys
    rw [claims.post, ← same] at hc
    cases (((OrderedDict.get?_set ..).trans (if_pos rfl)).symm.trans hc)
    exact ⟨congrArg (· + 1) swept.generation, rfl⟩
  · obtain ⟨s₁, req, registration, old, -, -, written, -, -, rfl, same, -, rfl⟩ := renews.renews
    rw [written.post, ← same] at hc
    cases (((OrderedDict.get?_set ..).trans (if_pos rfl)).symm.trans hc)
    exact ⟨written.generation, rfl⟩

variable {n' d' consumer' : String} {calls : List Call} {q : QueuedRequest} {lease' : Epoch}

theorem Claims.frame {now : Epoch} {digest : String} {registration : ComputeNodeRegistration}
    {s' : Store} (h : Claims env now n digest registration q s s') :
    s'.queued = s.queued ∧ s'.records = s.records := by
  rw [h.post]
  exact ⟨rfl, rfl⟩

/-- Where a claim after a call comes from: the call issued it, or it was there
before and has the lease that the call granted or its old one. -/
inductive CallClaimOrigin (env : StoreEnv) (c : Call) (s s' : Store) (id : Identity)
    (c' : ClaimRecord) : Prop
  | issued {consumer : String} {q : QueuedRequest} : Issues env c s id c'.generation
      c'.selectedNodeId c'.controlCredentialDigest consumer c'.leaseExpiresAtEpoch →
      consumerDigest env consumer = .ok c'.consumerIdentityDigest →
      s'.queued.get? id = some q → c'.selectedNodeId ∈ s'.records →
      CallClaimOrigin env c s s' id c'
  | carried {old : ClaimRecord} : Carried id old c' s s' →
      (Grants env c s id c'.generation c'.leaseExpiresAtEpoch ∨ old = c') →
      CallClaimOrigin env c s s' id c'

theorem Call.claim_origin (requests : RequestInv s) (nodes : NodeInv env s)
    (keys : KeysMatch env s) {c' : ClaimRecord}
    (hc : (c.next env s).claims.get? id = some c') :
    CallClaimOrigin env c s (c.next env s) id c' := by
  have outcome : CallOutcome env c s _ _ := c.next_outcome s
  have kept : Carried id c' c' s (c.next env s) → CallClaimOrigin env c s (c.next env s) id c' :=
    fun carried => .carried carried (.inr rfl)
  have swept : ∀ {r s₁}, c.op.housekeeping env c.clock s = (r, s₁) → Sweeps env Any c.clock s s₁ :=
    fun hh => (c.op.housekeeping_sweeps c.clock).of_eq hh
  generalize hr : c.result env s = r at outcome
  generalize hs : c.next env s = s' at outcome hc kept ⊢
  cases outcome with
  | rejected _ | invalidProof _ | unread _ | noLease _ _ =>
    exact kept (carried_same hc rfl rfl rfl rfl)
  | stopped _ _ housekept => exact kept ((swept housekept).carries requests hc)
  | body _ _ housekept body =>
    cases body with
    | unchanged _ => exact kept ((swept housekept).carries requests hc)
    | committed h =>
      obtain ⟨requests₁, nodes₁⟩ := (swept housekept).nodeInv requests nodes
      cases h.carries requests₁ nodes₁ hc with
      | issued op valid owner claims same result record =>
        obtain ⟨queued, -⟩ := (requests₁.queue_mem _ _).mp claims.queued
        rw [same] at queued
        have own := keys _ _ ((swept housekept).shrinks.work _ (.queued _) queued)
        obtain ⟨_, -, digest⟩ := Method.bind_ok_iff.mp valid
        have registered := OrderedDict.mem_of_get? claims.registered
        obtain ⟨sameQueued, sameRecords⟩ := claims.frame
        rw [← sameQueued] at queued
        rw [← sameRecords] at registered
        subst record
        exact .issued ⟨op, _, hr.trans result, own, rfl, rfl⟩ digest queued registered
      | renewed op generation identity result carried =>
        refine .carried (((swept housekept).carries requests carried.before).trans carried) (.inl ?_)
        exact ⟨_, _, _, .inr ⟨⟨_, _, _, identity, generation ▸ op⟩, hr.trans result⟩⟩
      | kept carried =>
        exact kept (((swept housekept).carries requests carried.before).trans carried)
  | removal _ _ housekept outcome _ =>
    exact kept (((swept housekept).trans outcome.sweeps).carries requests hc)

theorem Reachable.keysMatch (h : Reachable env s) : KeysMatch env s := by
  refine And.right (h.invariant (I := fun x => RequestInv x ∧ KeysMatch env x) ?_ ?_ ?_)
  · exact ⟨requestInv_initial, nofun⟩
  · rintro now a b step ⟨requests, keys⟩
    exact ⟨step.requestInv requests, step.keysMatch keys⟩
  · rintro now drawn op a r b step ⟨requests, keys⟩
    exact ⟨step.requestInv requests, step.keysMatch requests keys⟩

/-! ## Runs -/

/-- In the earlier state `x` the claim `c` of the state `s` was held, on the request
`q` and under the registration of order `o`, if its node was not under removal. -/
structure Standing (id : Identity) (c : ClaimRecord) (q : QueuedRequest) (o : Nat) (x s : Store) :
    Prop where
  claim : ∃ old, x.claims.get? id = some old ∧ old.generation = c.generation
  queued : x.queued.get? id = some q
  order : x.registrationOrder.get? c.selectedNodeId = some o ∨
    c.selectedNodeId ∈ x.pendingNodeTransitions
  pending : c.selectedNodeId ∈ x.pendingNodeTransitions →
    c.selectedNodeId ∈ s.pendingNodeTransitions

/-- A call of the run issued the claim, and it has been held since then. -/
def Provenance (env : StoreEnv) (calls : List Call) (id : Identity) (c : ClaimRecord) : Prop :=
  ∃ before issue after consumer lease q o, calls = before ++ issue :: after ∧
    Issues env issue (stateAfter env before) id c.generation c.selectedNodeId
      c.controlCredentialDigest consumer lease ∧
    consumerDigest env consumer = .ok c.consumerIdentityDigest ∧
    ∀ l, l <+: after → Standing id c q o (stateAfter env (before ++ issue :: l))
      (stateAfter env calls)

/-- The lease of the generation `g` was granted by a call of the run and not since. -/
def LastGrant (env : StoreEnv) (calls : List Call) (id : Identity) (g : Nat) (lease : Epoch) :
    Prop :=
  ∃ before grant after, calls = before ++ grant :: after ∧
    Grants env grant (stateAfter env before) id g lease ∧
    ∀ l c, l ++ [c] <+: after → ∀ lease',
      ¬Grants env c (stateAfter env (before ++ grant :: l)) id g lease'

theorem Standing.later {c c' : ClaimRecord} {o : Nat} {x s s' : Store}
    (h : Standing id c q o x s) (carried : Carried id c c' s s') : Standing id c' q o x s' := by
  obtain ⟨generation, node, -, -⟩ := carried.fields
  obtain ⟨old, held, same⟩ := h.claim
  refine ⟨⟨old, held, same.trans generation.symm⟩, h.queued, ?_, fun hp => ?_⟩
  · rw [node]
    exact h.order
  · rw [node] at hp ⊢
    exact carried.pending (h.pending hp)

theorem Standing.now {c c' : ClaimRecord} {o : Nat} {s s' : Store}
    (h : Standing id c q o s s) (carried : Carried id c c' s s')
    (hc : s'.claims.get? id = some c') : Standing id c' q o s' s' := by
  obtain ⟨-, node, -, -⟩ := carried.fields
  refine ⟨⟨c', hc, rfl⟩, carried.queued.trans h.queued, ?_, fun hp => hp⟩
  rw [node]
  rcases h.order with order | pending
  · exact carried.order o order
  · exact .inr (carried.pending pending)

theorem Provenance.extend {old c' : ClaimRecord} (h : Provenance env calls id old)
    (carried : Carried id old c' (stateAfter env calls) (stateAfter env (calls ++ [c])))
    (hc : (stateAfter env (calls ++ [c])).claims.get? id = some c') :
    Provenance env (calls ++ [c]) id c' := by
  obtain ⟨before, issue, after, consumer, lease, q, o, rfl, issues, digest, standing⟩ := h
  obtain ⟨generation, node, owner, claimant⟩ := carried.fields
  refine ⟨before, issue, after ++ [c], consumer, lease, q, o, by simp, ?_, ?_, fun l hl => ?_⟩
  · rw [generation, node, owner]
    exact issues
  · rw [claimant]
    exact digest
  · rcases List.prefix_concat_iff.mp hl with rfl | hl
    · rw [show before ++ issue :: (after ++ [c]) = before ++ issue :: after ++ [c] by simp]
      exact (standing after List.prefix_rfl).now carried hc
    · exact (standing l hl).later carried

theorem runs_provenance {c' : ClaimRecord} (hc : (stateAfter env calls).claims.get? id = some c') :
    Provenance env calls id c' ∧
      LastGrant env calls id c'.generation c'.leaseExpiresAtEpoch := by
  induction calls using List.reverseRecOn generalizing c' with
  | nil => cases hc
  | append_singleton calls c ih =>
    have reachable : Reachable env (stateAfter env calls) := reachable_runs calls
    have after := @stateAfter_snoc env calls c
    have origin := Call.claim_origin reachable.requestInv
      reachable.nodeInv reachable.keysMatch (after ▸ hc)
    rw [← after] at origin
    cases origin with
    | @issued consumer q issues digest queued registered =>
      have order := (reachable.step c).nodeInv.order_iff c'.selectedNodeId
      rw [← after] at order
      obtain ⟨o, order⟩ := OrderedDict.mem_def.mp (order.mpr registered)
      refine ⟨⟨calls, c, [], consumer, _, q, o, rfl, issues, digest, fun l hl => ?_⟩,
        ⟨calls, c, [], rfl, ⟨_, _, _, .inl issues⟩, fun l e hl => ?_⟩⟩
      · cases List.prefix_nil.mp hl
        exact ⟨⟨c', hc, rfl⟩, queued, .inl order, fun hp => hp⟩
      · exact absurd (List.prefix_nil.mp hl) (by simp)
    | carried carried granted =>
      obtain ⟨provenance, before, grant, between, split, grants, since⟩ := ih carried.before
      refine ⟨provenance.extend carried hc, ?_⟩
      by_cases again : ∃ lease, Grants env c (stateAfter env calls) id c'.generation lease
      · obtain ⟨lease, again⟩ := again
        obtain ⟨-, same⟩ := again.in_store reachable.requestInv reachable.keysMatch (after ▸ hc)
        refine ⟨calls, c, [], rfl, same ▸ again, fun l e hl => ?_⟩
        exact absurd (List.prefix_nil.mp hl) (by simp)
      · rcases granted with granted | rfl
        · exact absurd ⟨_, granted⟩ again
        refine ⟨before, grant, between ++ [c], by simp [split], grants, fun l e hl lease' => ?_⟩
        rcases List.prefix_concat_iff.mp hl with last | earlier
        · obtain ⟨rfl, same⟩ := List.append_inj' last rfl
          rw [(List.cons.inj same).1, ← split]
          exact fun grants => again ⟨lease', grants⟩
        · exact since l e earlier lease'

/-! ## Generations -/

theorem Issues.generation (requests : RequestInv s) (keys : KeysMatch env s)
    (h : Issues env c s id g n d consumer lease) :
    s.nextClaimGeneration < g ∧ (c.next env s).nextClaimGeneration = g := by
  obtain ⟨s₁, digest, registration, q, swept, claims, -, -, rfl, -⟩ := h.claims requests keys
  rw [claims.post, ← swept.generation]
  exact ⟨Nat.lt_succ_self _, rfl⟩

theorem runs_generation :
    s.nextClaimGeneration ≤ (runs env calls s).nextClaimGeneration := by
  induction calls generalizing s with
  | nil => exact le_refl _
  | cons c calls ih =>
    have outcome : CallOutcome env c s _ _ := c.next_outcome s
    exact outcome.generation.trans ih

theorem issues_increase {before mid : List Call} {c' : Call} {id' : Identity} {g' : Nat}
    (first : Issues env c (stateAfter env before) id g n d consumer lease)
    (second : Issues env c' (stateAfter env (before ++ c :: mid)) id' g' n' d' consumer' lease') :
    g < g' := by
  have reachable : ∀ l, Reachable env (stateAfter env l) := reachable_runs
  have after : stateAfter env (before ++ c :: mid) =
      runs env mid (c.next env (stateAfter env before)) := runs_append
  obtain ⟨-, counter⟩ := first.generation (reachable _).requestInv (reachable _).keysMatch
  obtain ⟨above, -⟩ := second.generation (reachable _).requestInv (reachable _).keysMatch
  rw [after] at above
  exact lt_of_le_of_lt (counter ▸ runs_generation) above

theorem issue_unique {before before' after after' : List Call} {c c' : Call} {id' : Identity}
    (split : before ++ c :: after = before' ++ c' :: after')
    (first : Issues env c (stateAfter env before) id g n d consumer lease)
    (second : Issues env c' (stateAfter env before') id' g n' d' consumer' lease') :
    before = before' ∧ after = after' := by
  rcases List.append_eq_append_iff.mp split with ⟨mid, rfl, rest⟩ | ⟨mid, rfl, rest⟩
  · cases mid with
    | nil =>
      cases rest
      exact ⟨(List.append_nil before).symm, rfl⟩
    | cons e mid =>
      cases rest
      exact absurd (issues_increase first second) (lt_irrefl g)
  · cases mid with
    | nil =>
      cases rest
      exact ⟨List.append_nil before', rfl⟩
    | cons e mid =>
      cases rest
      exact absurd (issues_increase second first) (lt_irrefl g)

theorem largest_of_standing {before before' after after' : List Call} {issue issue' : Call}
    {g' : Nat}
    (held : ∀ l, l <+: after → ∃ old,
      (stateAfter env (before ++ issue :: l)).claims.get? id = some old ∧ old.generation = g)
    (split : before ++ issue :: after = before' ++ issue' :: after')
    (first : Issues env issue (stateAfter env before) id g n d consumer lease)
    (second : Issues env issue' (stateAfter env before') id g' n' d' consumer' lease') :
    g' ≤ g := by
  have reachable : ∀ l, Reachable env (stateAfter env l) := reachable_runs
  rcases List.append_eq_append_iff.mp split with ⟨mid, rfl, rest⟩ | ⟨mid, rfl, rest⟩
  · -- the claim in the store right after the other issue is the one it wrote
    have written : mid = [] ∨ ∃ rest, mid = issue :: rest ∧ rest ++ [issue'] <+: after := by
      cases mid with
      | nil => exact .inl rfl
      | cons e mid =>
        cases rest
        exact .inr ⟨mid, rfl, ⟨after', by simp⟩⟩
    have state : ∃ old, (issue'.next env (stateAfter env (before ++ mid))).claims.get? id =
        some old ∧ old.generation = g := by
      rcases written with rfl | ⟨tail, rfl, hl⟩
      · cases rest
        have now := held [] (List.nil_prefix)
        rwa [stateAfter_snoc, ← List.append_nil before] at now
      · have now := held _ hl
        rwa [← List.cons_append, ← List.append_assoc, stateAfter_snoc] at now
    obtain ⟨old, found, generation⟩ := state
    have grants : Grants env issue' (stateAfter env (before ++ mid)) id g' lease' :=
      ⟨_, _, _, .inl second⟩
    obtain ⟨same, -⟩ := grants.in_store (reachable _).requestInv (reachable _).keysMatch found
    exact le_of_eq (same.symm.trans generation)
  · cases mid with
    | nil =>
      cases rest
      have now := held [] (List.nil_prefix)
      rw [stateAfter_snoc, List.append_nil] at now
      obtain ⟨old, found, generation⟩ := now
      have grants : Grants env issue (stateAfter env before') id g' lease' := ⟨_, _, _, .inl second⟩
      obtain ⟨same, -⟩ := grants.in_store (reachable _).requestInv (reachable _).keysMatch found
      exact le_of_eq (same.symm.trans generation)
    | cons e mid =>
      cases rest
      exact le_of_lt (issues_increase second first)

/-! ## What a renewal or a response implies -/

theorem consumerDigest_injective (collisionFree : env.runtime.CollisionFree)
    {consumer' digest : String} (h : consumerDigest env consumer = .ok digest)
    (h' : consumerDigest env consumer' = .ok digest) : consumer = consumer' := by
  unfold consumerDigest at h h'
  split at h
  · cases h
  · split at h'
    · cases h'
    · cases h
      have same : consumerDigestOf env consumer' = consumerDigestOf env consumer :=
        Except.ok.inj h'
      exact (utf8_injective (List.append_cancel_left (collisionFree same))).symm

end

/-- The call renews the claim of the generation `g`, or newly accepts its response. -/
def Uses (env : StoreEnv) (c : Call) (s : Store) (id : Identity) (g : Nat)
    (n d consumer : String) : Prop :=
  (∃ lease, Extends env c s id g n d consumer lease) ∨ AcceptsUnder env c s id g n d consumer

/-- The claim in the housekept store that a call uses. -/
structure UsedClaim (env : StoreEnv) (clock : Epoch) (s s₁ : Store) (id : Identity) (g : Nat)
    (n d consumer : String) (old : ClaimRecord) : Prop where
  reaped : reapLocked env clock s = (.ok (), s₁)
  held : s₁.claims.get? id = some old
  generation : old.generation = g
  node : old.selectedNodeId = n
  claimant : consumerDigest env consumer = .ok old.consumerIdentityDigest
  registered : ∃ r, s₁.records.get? n = some r ∧ r.controlCredentialDigest = d
  lease : clock < old.leaseExpiresAtEpoch
  unexpired : clock < old.requestDeadlineEpoch

/-- What holds when a call uses the generation `g`: a call of the run issued it to
the same node, credential and consumer, the node has not been removed and the
request has stayed queued since, no later generation was issued for the identity,
the lease granted last and the deadline are ahead, and the identity is not
terminal. -/
structure Fenced (env : StoreEnv) (calls : List Call) (clock : Epoch) (id : Identity) (g : Nat)
    (n d consumer : String) : Prop where
  issued : ∃ before issue after lease q, calls = before ++ issue :: after ∧
    Issues env issue (stateAfter env before) id g n d consumer lease ∧
    (∀ l c, l ++ [c] <+: after →
      ¬StartsRemovalOf env c (stateAfter env (before ++ issue :: l)) n) ∧
    (∀ l, l <+: after → (stateAfter env (before ++ issue :: l)).queued.get? id = some q) ∧
    clock < q.requestDeadlineEpoch
  largest : ∀ before issue after g' n' d' consumer' lease, calls = before ++ issue :: after →
    Issues env issue (stateAfter env before) id g' n' d' consumer' lease → g' ≤ g
  lease : ∃ lease, LastGrant env calls id g lease ∧ clock < lease
  current : ∃ s₁ r, reapLocked env clock (stateAfter env calls) = (.ok (), s₁) ∧
    s₁.records.get? n = some r ∧ r.controlCredentialDigest = d ∧
    s₁.registrationOrder.get? n = (stateAfter env calls).registrationOrder.get? n ∧
    id ∉ s₁.terminals

section

variable {env : StoreEnv} {s : Store} {id : Identity} {c : Call} {g : Nat} {n d consumer : String}
  {lease : Epoch}

theorem Uses.claim (h : Uses env c s id g n d consumer) :
    ∃ s₁ old, Sweeps env Any c.clock s s₁ ∧ UsedClaim env c.clock s s₁ id g n d consumer old := by
  rcases h with ⟨lease, renews⟩ | accepts
  · obtain ⟨s₁, req, registration, old, swept, reaped, written, rfl, rfl, rfl, rfl, claimant, -⟩ :=
      renews.renews
    exact ⟨s₁, old, swept, reaped, written.claimed, written.generation, written.node,
      written.consumer ▸ claimant, ⟨registration, written.registered, written.owner⟩,
      written.lease, written.unexpired⟩
  · obtain ⟨s₁, req, envelope, digest, registration, old, q, retrieval, cancellation, swept, reaped,
      written, rfl, rfl, rfl, rfl, claimant⟩ := accepts.accepts
    exact ⟨s₁, old, swept, reaped, written.claimed, written.generation, written.node,
      written.consumer ▸ claimant, ⟨registration, written.registered, written.owner⟩,
      written.lease, written.unexpired⟩

theorem Uses.fenced (collisionFree : env.runtime.CollisionFree) {calls : List Call}
    (h : Uses env c (stateAfter env calls) id g n d consumer) :
    Fenced env calls c.clock id g n d consumer := by
  obtain ⟨s₁, old, swept, used⟩ := h.claim
  have reachable : Reachable env (stateAfter env calls) := reachable_runs calls
  obtain ⟨requests₁, nodes₁⟩ := swept.nodeInv reachable.requestInv reachable.nodeInv
  have carried := swept.carries reachable.requestInv used.held
  obtain ⟨r, registered, owner⟩ := used.registered
  have generation := used.generation
  have node := used.node
  subst generation node
  have active : old.selectedNodeId ∉ s₁.pendingNodeTransitions :=
    nodes₁.not_pending _ (OrderedDict.mem_of_get? registered)
  -- the claim was issued under the credential of the registration
  have credential : old.controlCredentialDigest = d := by
    rcases nodes₁.claim_owner id old used.held with ⟨r', found, same⟩ | ⟨p, pending, -⟩
    · rw [registered] at found
      cases found
      exact same.symm.trans owner
    · exact absurd (OrderedDict.mem_of_get? pending) active
  obtain ⟨⟨before, issue, after, consumer', lease', q, o, split, issues, digest, standing⟩, granted⟩ :=
    runs_provenance carried.before
  rw [credential, consumerDigest_injective collisionFree digest used.claimant] at issues
  have order : ∀ l, l <+: after → (stateAfter env (before ++ issue :: l)).registrationOrder.get?
      old.selectedNodeId = some o := by
    intro l hl
    rcases (standing l hl).order with order | pending
    · exact order
    · exact absurd (carried.pending ((standing l hl).pending pending)) active
  have queued₁ : s₁.queued.get? id = some q := by
    rw [carried.queued, split]
    exact (standing after List.prefix_rfl).queued
  have unexpired : c.clock < q.requestDeadlineEpoch := by
    obtain ⟨q', found, -, -, -, due⟩ := requests₁.claim_queued id old used.held
    rw [queued₁] at found
    cases found
    exact due ▸ used.unexpired
  refine ⟨⟨before, issue, after, lease', q, split, issues, ?_, fun l hl => (standing l hl).queued,
    unexpired⟩, ?_, ⟨_, granted, used.lease⟩, ⟨s₁, r, used.reaped, registered, owner, ?_, ?_⟩⟩
  · rintro l e hl ⟨-, changed⟩
    have earlier := order l ((List.prefix_append ..).trans hl)
    have later := order (l ++ [e]) hl
    rw [← List.cons_append, ← List.append_assoc, stateAfter_snoc] at later
    exact changed (later.trans earlier.symm)
  · intro before' issue' after' g' n' d' consumer'' lease'' split' issues'
    exact largest_of_standing (fun l hl => (standing l hl).claim) (split.symm.trans split') issues
      issues'
  · have last := order after List.prefix_rfl
    rw [← split] at last
    rcases carried.order o last with same | pending
    · exact same.trans last.symm
    · exact absurd pending active
  · exact fun terminal => requests₁.live_not_terminal id (.queued q) queued₁ terminal

end

/-- In every run claim generations increase strictly, a renewal or a newly accepted
response is fenced, and a generation is of no use once its request has left the
queue. -/
theorem claims_fenced (env : StoreEnv) (collisionFree : env.runtime.CollisionFree)
    (calls : List Call) :
    (∀ before c mid c' after id g n d consumer lease id' g' n' d' consumer' lease',
      calls = before ++ c :: (mid ++ c' :: after) →
      Issues env c (stateAfter env before) id g n d consumer lease →
      Issues env c' (stateAfter env (before ++ c :: mid)) id' g' n' d' consumer' lease' →
      g < g') ∧
    (∀ c id g n d consumer, Uses env c (stateAfter env calls) id g n d consumer →
      Fenced env calls c.clock id g n d consumer) ∧
    (∀ before issue after id g n d consumer lease l, calls = before ++ issue :: after →
      Issues env issue (stateAfter env before) id g n d consumer lease → l <+: after →
      id ∉ (stateAfter env (before ++ issue :: l)).queued →
      ∀ c n' d' consumer', ¬Uses env c (stateAfter env calls) id g n' d' consumer') := by
  refine ⟨?_, fun c id g n d consumer uses => uses.fenced collisionFree, ?_⟩
  · intro before c mid c' after id g n d consumer lease id' g' n' d' consumer' lease' _ first second
    exact issues_increase first second
  · intro before issue after id g n d consumer lease l split issues hl gone c n' d' consumer' uses
    obtain ⟨before', issue', after', lease', q, split', issues', -, queued, -⟩ :=
      (uses.fenced collisionFree).issued
    have same := split.symm.trans split'
    obtain ⟨rfl, rfl⟩ := issue_unique same issues issues'
    cases List.append_cancel_left same
    exact gone (OrderedDict.mem_of_get? (queued l hl))

/-- The response of a claimed request is accepted under the generation of its claim. -/
theorem claims_fenced_accepted :
    let calls := registration :: (admission 100 ++ [claiming])
    defaultEnv.runtime.CollisionFree ∧
      Uses defaultEnv answering (stateAfter defaultEnv calls) sampleIdentity 1 "node-a" credentialA
        "consumer-1" ∧
      Fenced defaultEnv calls 1 sampleIdentity 1 "node-a" credentialA "consumer-1" := by
  intro calls
  have uses : Uses defaultEnv answering (stateAfter defaultEnv calls) sampleIdentity 1 "node-a"
      credentialA "consumer-1" := by
    refine .inr ⟨⟨"client-1", "request-1", responseEnvelope, by decide +kernel, rfl⟩, ?_⟩
    exact ⟨⟨1, 1, 301, true⟩, by decide +kernel, rfl⟩
  exact ⟨sampleRuntime_collisionFree, uses,
    (claims_fenced defaultEnv sampleRuntime_collisionFree calls).2.1 _ _ _ _ _ _ uses⟩

end StateStore
