import TokenPlace.StateStore.RequestSide
import TokenPlace.StateStore.Sample

/-!
# The tables of the nodes

`NodeInv` ties the registrations and the started removals to each other and to the
work placed on the nodes. Retention may drop the fence of a removal that is under
way only if two node ids share a digest, so that every started removal has its
fence (`PendingFenced`) needs collision-free digests.
-/

namespace StateStore

/-- The tables of the nodes agree. -/
structure NodeInv (env : StoreEnv) (s : Store) : Prop where
  record_key : ∀ n r, s.records.get? n = some r → r.nodeId = n
  scheduler_iff : ∀ n, n ∈ s.schedulerStates ↔ n ∈ s.records
  order_iff : ∀ n, n ∈ s.registrationOrder ↔ n ∈ s.records
  order_lt : ∀ n o, s.registrationOrder.get? n = some o → o < s.nextRegistrationOrder
  order_injective : ∀ n m o, s.registrationOrder.get? n = some o →
    s.registrationOrder.get? m = some o → n = m
  not_pending : ∀ n, n ∈ s.records → n ∉ s.pendingNodeTransitions
  work_node : ∀ id w, s.HasWork id w →
    w.selectedNodeId ∈ s.records ∨ w.selectedNodeId ∈ s.pendingNodeTransitions
  claim_owner : ∀ id c, s.claims.get? id = some c →
    (∃ r, s.records.get? c.selectedNodeId = some r ∧
      r.controlCredentialDigest = c.controlCredentialDigest) ∨
    ∃ p, s.pendingNodeTransitions.get? c.selectedNodeId = some p ∧
      p.controlCredentialDigest = c.controlCredentialDigest
  pending_key : ∀ n p, s.pendingNodeTransitions.get? n = some p →
    p.nodeIdentityDigest = nodeDigest env n
  cursor_node : ∀ f cursor, s.fairnessCursors.get? f = some cursor → cursor.1 ∈ s.records

theorem nodeInv_initial {env : StoreEnv} : NodeInv env Store.initial where
  record_key := nofun
  scheduler_iff := fun _ => ⟨nofun, nofun⟩
  order_iff := fun _ => ⟨nofun, nofun⟩
  order_lt := nofun
  order_injective := nofun
  not_pending := nofun
  work_node := fun _ w hw => by cases w <;> cases hw
  claim_owner := nofun
  pending_key := nofun
  cursor_node := nofun

section

variable {env : StoreEnv} {now : Epoch} {s s' : Store}

/-! ## Effects that leave the nodes alone -/

/-- No node, work item or claim has a new owner. -/
structure SameOwners (s s' : Store) : Prop where
  nodes : SameNodes s s'
  work : ∀ id w, s'.HasWork id w → ∃ v, s.HasWork id v ∧ v.selectedNodeId = w.selectedNodeId
  claims : ∀ id c, s'.claims.get? id = some c → ∃ c₀, s.claims.get? id = some c₀ ∧
    c₀.selectedNodeId = c.selectedNodeId ∧ c₀.controlCredentialDigest = c.controlCredentialDigest

theorem SameOwners.keeps (h : SameOwners s s') (inv : NodeInv env s) : NodeInv env s' where
  record_key := by rw [h.nodes.records]; exact inv.record_key
  scheduler_iff := by rw [h.nodes.records, h.nodes.schedulerStates]; exact inv.scheduler_iff
  order_iff := by rw [h.nodes.records, h.nodes.registrationOrder]; exact inv.order_iff
  order_lt := by
    rw [h.nodes.registrationOrder, h.nodes.nextRegistrationOrder]
    exact inv.order_lt
  order_injective := by rw [h.nodes.registrationOrder]; exact inv.order_injective
  not_pending := by rw [h.nodes.records, h.nodes.pending]; exact inv.not_pending
  work_node := by
    intro id w hw
    obtain ⟨v, hv, node⟩ := h.work id w hw
    rw [← node, h.nodes.records, h.nodes.pending]
    exact inv.work_node id v hv
  claim_owner := by
    intro id c hc
    obtain ⟨c₀, hc₀, node, digest⟩ := h.claims id c hc
    rw [← node, ← digest, h.nodes.records, h.nodes.pending]
    exact inv.claim_owner id c₀ hc₀
  pending_key := by rw [h.nodes.pending]; exact inv.pending_key
  cursor_node := by rw [h.nodes.cursors, h.nodes.records]; exact inv.cursor_node

variable {record : ComputeNodeRegistration} {n : String} {p : PendingNodeTransition}
  {P : TerminalPolicy} {id : Identity} {cause : Cause}

theorem Removed.sameOwners (h : Removed id s s') (nodes : SameNodes s s') :
    SameOwners s s' where
  nodes := nodes
  work := fun _ w hw => ⟨w, (h.hasWork.mp hw).2, rfl⟩
  claims := fun _ c hc => ⟨c, ((some_of_removed h.claims).mp hc).2, rfl, rfl⟩

theorem SameNodes.sameOwners (nodes : SameNodes s s')
    (reservations : s'.reservations = s.reservations) (queued : s'.queued = s.queued)
    (claims : s'.claims = s.claims) : SameOwners s s' where
  nodes := nodes
  work := by
    intro id w hw
    refine ⟨w, ?_, rfl⟩
    cases w with
    | reservation r => rw [Store.HasWork, ← reservations]; exact hw
    | queued q => rw [Store.HasWork, ← queued]; exact hw
  claims := fun id c hc => ⟨c, by rw [← claims]; exact hc, rfl, rfl⟩

theorem Terminalizes.sameOwners {w : Work}
    {status : Outcome} {reason : Reason} {force : Bool} (requests : RequestInv s)
    (h : Terminalizes env P now id w status reason force s s') : SameOwners s s' := by
  refine (h.removed requests).sameOwners ?_
  rw [h.post]
  exact writeTerminal_sameNodes

/-! ## The life of a registration -/

theorem Registers.nodeInv (inv : NodeInv env s)
    (h : Registers env now n record s s') : NodeInv env s' := by
  have absent : n ∉ s.records := OrderedDict.not_mem_iff.mpr h.absent
  have records : s'.records = s.records.set n record := by rw [h.post]
  have order : s'.registrationOrder = s.registrationOrder.set n s.nextRegistrationOrder := by
    rw [h.post]
  have pending : s'.pendingNodeTransitions = s.pendingNodeTransitions := by rw [h.post]
  constructor
  · intro m r hr
    rw [records, OrderedDict.get?_set] at hr
    split at hr
    · next hm =>
      cases hr
      rw [hm]
      exact h.node
    · exact inv.record_key m r hr
  · intro m
    rw [h.post]
    simp [inv.scheduler_iff]
  · intro m
    rw [h.post]
    simp [inv.order_iff]
  · intro m o ho
    have next : s'.nextRegistrationOrder = s.nextRegistrationOrder + 1 := by rw [h.post]
    rw [order, OrderedDict.get?_set] at ho
    rw [next]
    split at ho
    · cases ho
      exact Nat.lt_succ_self _
    · exact Nat.lt_succ_of_lt (inv.order_lt m o ho)
  · intro m m' o ho ho'
    rw [order, OrderedDict.get?_set] at ho ho'
    split at ho <;> split at ho'
    · next hm hm' => rw [hm, hm']
    · cases ho
      exact absurd (inv.order_lt m' _ ho') (Nat.lt_irrefl _)
    · cases ho'
      exact absurd (inv.order_lt m _ ho) (Nat.lt_irrefl _)
    · exact inv.order_injective m m' o ho ho'
  · intro m hm
    rw [records, OrderedDict.mem_set] at hm
    rw [pending]
    rcases hm with rfl | hm
    · exact h.not_pending
    · exact inv.not_pending m hm
  · intro id w hw
    rw [records, pending, OrderedDict.mem_set]
    have live : s.HasWork id w := by
      rw [h.post] at hw
      cases w <;> exact hw
    exact (inv.work_node id w live).imp_left .inr
  · intro id c hc
    have claimed : s.claims.get? id = some c := by
      rw [h.post] at hc
      exact hc
    rw [records, pending, OrderedDict.get?_set]
    refine (inv.claim_owner id c claimed).imp_left ?_
    rintro ⟨r, hr, owner⟩
    rw [if_neg]
    · exact ⟨r, hr, owner⟩
    · intro heq
      rw [heq] at hr
      exact absent (OrderedDict.mem_of_get? hr)
  · rw [pending]
    exact inv.pending_key
  · intro f cursor hf
    rw [records, OrderedDict.mem_set]
    rw [h.post] at hf
    exact .inr (inv.cursor_node f cursor hf)

theorem Refreshes.nodeInv {old new : ComputeNodeRegistration} (inv : NodeInv env s)
    (h : Refreshes n old new s s') : NodeInv env s' := by
  have present : n ∈ s.records := OrderedDict.mem_of_get? h.present
  have same : ∀ m, m ∈ s.records.set n new ↔ m ∈ s.records := by
    intro m
    rw [OrderedDict.mem_set]
    refine ⟨?_, .inr⟩
    rintro (rfl | hm)
    · exact present
    · exact hm
  have named : new.nodeId = n := by
    rcases h.node with node | node
    · exact node
    · rw [node, inv.record_key n old h.present]
  rw [h.post]
  exact
    { inv with
      record_key := fun m r hr => by
        have found := (OrderedDict.get?_set ..).symm.trans hr
        split at found
        · next hm =>
          cases found
          rw [hm]
          exact named
        · exact inv.record_key m r found
      scheduler_iff := fun m => (inv.scheduler_iff m).trans (same m).symm
      order_iff := fun m => (inv.order_iff m).trans (same m).symm
      not_pending := fun m hm => inv.not_pending m ((same m).mp hm)
      work_node := fun id w hw =>
        (inv.work_node id w (by cases w <;> exact hw)).imp_left (same _).mpr
      claim_owner := fun id c hc => by
        refine (inv.claim_owner id c hc).imp_left ?_
        rintro ⟨r, hr, owner⟩
        dsimp only
        rw [OrderedDict.get?_set]
        split
        · next heq =>
          rw [heq, h.present] at hr
          cases hr
          exact ⟨new, rfl, h.owner.trans owner⟩
        · exact ⟨r, hr, owner⟩
      cursor_node := fun f cursor hf => (same _).mpr (inv.cursor_node f cursor hf) }

/-! ## The removal of a node -/

theorem StartsRemoval.nodeInv
    (inv : NodeInv env s) (h : StartsRemoval env now n record cause s s') : NodeInv env s' := by
  have records : s'.records = s.records.erase n := by rw [h.post]; rfl
  have order : s'.registrationOrder = s.registrationOrder.erase n := by rw [h.post]; rfl
  have pending : s'.pendingNodeTransitions =
      s.pendingNodeTransitions.set n (pendingOf env n record cause now) := by rw [h.post]; rfl
  have moved : ∀ m, m ∈ s.records ∨ m ∈ s.pendingNodeTransitions →
      m ∈ s'.records ∨ m ∈ s'.pendingNodeTransitions := by
    intro m hm
    rw [records, pending, OrderedDict.mem_erase, OrderedDict.mem_set]
    rcases eq_or_ne m n with rfl | hne
    · exact .inr (.inl rfl)
    · exact hm.imp (fun hr => ⟨hne, hr⟩) .inr
  constructor
  · intro m r hr
    rw [records] at hr
    exact inv.record_key m r ((some_of_removed fun k => OrderedDict.get?_erase ..).mp hr).2
  · intro m
    rw [h.post]
    show m ∈ s.schedulerStates.erase n ↔ m ∈ s.records.erase n
    rw [OrderedDict.mem_erase, OrderedDict.mem_erase, inv.scheduler_iff]
  · intro m
    rw [order, records, OrderedDict.mem_erase, OrderedDict.mem_erase, inv.order_iff]
  · intro m o ho
    have next : s'.nextRegistrationOrder = s.nextRegistrationOrder := by rw [h.post]; rfl
    rw [order] at ho
    rw [next]
    exact inv.order_lt m o ((some_of_removed fun k => OrderedDict.get?_erase ..).mp ho).2
  · intro m m' o ho ho'
    rw [order] at ho ho'
    exact inv.order_injective m m' o
      ((some_of_removed fun k => OrderedDict.get?_erase ..).mp ho).2
      ((some_of_removed fun k => OrderedDict.get?_erase ..).mp ho').2
  · intro m hm
    rw [records, OrderedDict.mem_erase] at hm
    rw [pending, OrderedDict.mem_set]
    rintro (heq | hp)
    · exact hm.1 heq
    · exact inv.not_pending m hm.2 hp
  · intro id w hw
    rw [h.post] at hw
    exact moved _ (inv.work_node id w (by cases w <;> exact hw))
  · intro id c hc
    have claimed : s.claims.get? id = some c := by
      rw [h.post] at hc
      exact hc
    rw [records, pending, OrderedDict.get?_erase, OrderedDict.get?_set]
    rcases eq_or_ne c.selectedNodeId n with hn | hne
    · rw [if_pos hn, if_pos hn]
      refine .inr ⟨_, rfl, ?_⟩
      rcases inv.claim_owner id c claimed with ⟨r, hr, owner⟩ | ⟨p, hp, -⟩
      · rw [hn, h.registered] at hr
        cases hr
        exact owner
      · rw [hn, h.not_pending] at hp
        cases hp
    · rw [if_neg hne, if_neg hne]
      exact inv.claim_owner id c claimed
  · intro m p hp
    rw [pending, OrderedDict.get?_set] at hp
    split at hp
    · next hm =>
      cases hp
      rw [hm]
      rfl
    · exact inv.pending_key m p hp
  · intro f cursor hf
    rw [h.post] at hf
    have found := (OrderedDict.get?_filter ..).symm.trans hf
    obtain ⟨stored, elsewhere⟩ := Option.filter_eq_some_iff.mp found
    rw [records, OrderedDict.mem_erase]
    exact ⟨of_decide_eq_true elsewhere, inv.cursor_node f cursor stored⟩

theorem FinishesRemoval.nodeInv
    {authority : FormerNodeAuthority} (requests : RequestInv s) (inv : NodeInv env s)
    (h : FinishesRemoval env now n p authority s s') : NodeInv env s' := by
  have idle : ∀ id w, s.HasWork id w → w.selectedNodeId ≠ n := by
    intro id w hw heq
    exact not_mem_of_entries_nil h.no_work id ((requests.work_mem n id).mpr ⟨w, hw, heq⟩)
  have pending : s'.pendingNodeTransitions = s.pendingNodeTransitions.erase n := by rw [h.post]
  have records : s'.records = s.records := by rw [h.post]
  constructor
  · rw [records]
    exact inv.record_key
  · rw [h.post]
    exact inv.scheduler_iff
  · rw [h.post]
    exact inv.order_iff
  · rw [h.post]
    exact inv.order_lt
  · rw [h.post]
    exact inv.order_injective
  · intro m hm
    rw [records] at hm
    rw [pending, OrderedDict.mem_erase]
    exact fun hp => inv.not_pending m hm hp.2
  · intro id w hw
    have live : s.HasWork id w := by
      rw [h.post] at hw
      cases w <;> exact hw
    rw [records, pending, OrderedDict.mem_erase]
    exact (inv.work_node id w live).imp_right fun hp => ⟨idle id w live, hp⟩
  · intro id c hc
    have claimed : s.claims.get? id = some c := by
      rw [h.post] at hc
      exact hc
    obtain ⟨q, queued, node, -⟩ := requests.claim_queued id c claimed
    have hne : c.selectedNodeId ≠ n := node ▸ idle id (.queued q) queued
    rw [records, pending, OrderedDict.get?_erase, if_neg hne]
    exact inv.claim_owner id c claimed
  · intro m q hq
    rw [pending] at hq
    exact inv.pending_key m q ((some_of_removed fun k => OrderedDict.get?_erase ..).mp hq).2
  · rw [h.post]
    exact inv.cursor_node

/-! ## Admission and claims -/

theorem Reserves.nodeInv {req : SelectionRequest} {record : ReservationRecord}
    {evicted : Option String} (inv : NodeInv env s)
    (h : Reserves env now req record evicted s s') : NodeInv env s' := by
  have work : ∀ id w, s'.HasWork id w →
      w.selectedNodeId ∈ s.records ∨ w.selectedNodeId ∈ s.pendingNodeTransitions := by
    intro id w hw
    rcases h.hasWork.mp hw with ⟨-, rfl⟩ | hw
    · exact .inl h.node
    · exact inv.work_node id w hw
  have cursors : ∀ f cursor, s'.fairnessCursors.get? f = some cursor → cursor.1 ∈ s.records := by
    intro f cursor hf
    rw [h.post] at hf
    have found := (OrderedDict.get?_set ..).symm.trans hf
    split at found
    · cases found
      exact h.node
    · cases evicted with
      | none => exact inv.cursor_node f cursor found
      | some g =>
        exact inv.cursor_node f cursor
          ((some_of_removed fun k => OrderedDict.get?_erase ..).mp found).2
  rw [h.post] at work cursors ⊢
  exact { inv with work_node := work, cursor_node := cursors }

theorem NodeInv.setClaim (inv : NodeInv env s) {c : ClaimRecord} {generation : Nat}
    (hc : (∃ r, s.records.get? c.selectedNodeId = some r ∧
        r.controlCredentialDigest = c.controlCredentialDigest) ∨
      ∃ p, s.pendingNodeTransitions.get? c.selectedNodeId = some p ∧
        p.controlCredentialDigest = c.controlCredentialDigest) :
    NodeInv env { s with
      nextClaimGeneration := generation
      claims := s.claims.set id c } :=
  { inv with
    work_node := fun k w hw => inv.work_node k w (by cases w <;> exact hw)
    claim_owner := by
      intro k c' hc'
      have found := (OrderedDict.get?_set ..).symm.trans hc'
      split at found
      · cases found
        exact hc
      · exact inv.claim_owner k c' found }

/-! ## Every run -/

theorem Sweep.nodeInv (requests : RequestInv s) (h : Sweep env P now s s')
    (inv : NodeInv env s) : NodeInv env s' := by
  cases h with
  | reapRetained =>
    rw [reapRetained_eq]
    exact { inv with work_node := fun id w hw => inv.work_node id w (by cases w <;> exact hw) }
  | terminalize h => exact (h.sameOwners requests).keeps inv
  | defer h =>
    refine (SameNodes.sameOwners ?_ ?_ ?_ ?_).keeps inv <;> rw [h.post]
    exact ⟨rfl, rfl, rfl, rfl, rfl, rfl, rfl, rfl⟩
  | lapse h =>
    refine ((h.removed requests).sameOwners ?_).keeps inv
    rw [h.post]
    exact ⟨rfl, rfl, rfl, rfl, rfl, rfl, rfl, rfl⟩
  | startRemoval h => exact h.nodeInv inv
  | discardWork h =>
    refine (SameNodes.sameOwners ?_ ?_ ?_ ?_).keeps inv <;> rw [h.post]
    · exact ⟨rfl, rfl, rfl, rfl, rfl, rfl, rfl, rfl⟩
    all_goals rfl
  | touchFences h =>
    rw [h.post]
    exact { inv with work_node := fun id w hw => inv.work_node id w (by cases w <;> exact hw) }
  | finishRemoval h => exact h.nodeInv requests inv

theorem Enqueues.sameOwners {req : EnqueueRequest} {r : ReservationRecord}
    (h : Enqueues env now req r s s') : SameOwners s s' where
  nodes := by
    rw [h.post]
    exact ⟨rfl, rfl, rfl, rfl, rfl, rfl, rfl, rfl⟩
  work := by
    intro id w hw
    rcases h.hasWork.mp hw with ⟨rfl, rfl⟩ | ⟨-, hw⟩
    · exact ⟨.reservation r, h.reserved, h.node⟩
    · exact ⟨w, hw, rfl⟩
  claims := by
    intro id c hc
    rw [h.post] at hc
    exact ⟨c, hc, rfl, rfl⟩

theorem Commit.nodeInv {drawn : String} {op : Op} {r : Except StoreError Reply}
    (requests : RequestInv s) (h : Commit env now drawn op s r s') (inv : NodeInv env s) :
    NodeInv env s' := by
  cases h with
  | register h | reregister _ h | renew h | reserve _ h => exact h.nodeInv inv
  | setScheduler h =>
    rw [h.post]
    exact
      { inv with
        scheduler_iff := fun m => by
          rw [OrderedDict.mem_set, inv.scheduler_iff]
          refine ⟨?_, .inr⟩
          rintro (rfl | hm)
          · exact h.present
          · exact hm
        work_node := fun id w hw => inv.work_node id w (by cases w <;> exact hw) }
  | enqueue _ h => exact h.sameOwners.keeps inv
  | advance h | acknowledgeControl _ h | acknowledgeResponse _ h | repair _ h =>
    refine (SameNodes.sameOwners ?_ ?_ ?_ ?_).keeps inv <;> rw [h.post]
    exact ⟨rfl, rfl, rfl, rfl, rfl, rfl, rfl, rfl⟩
  | claim _ _ h =>
    rw [h.post]
    exact inv.setClaim (.inl ⟨_, h.registered, rfl⟩)
  | renewClaim _ h =>
    have owner := inv.claim_owner _ _ h.claimed
    rw [h.post]
    exact inv.setClaim owner
  | accept _ h =>
    refine ((h.removed requests).sameOwners ?_).keeps inv
    rw [h.post]
    exact ⟨rfl, rfl, rfl, rfl, rfl, rfl, rfl, rfl⟩
  | cancel _ h => exact (h.sameOwners requests).keeps inv

theorem Reachable.nodeInv (h : Reachable env s) : NodeInv env s := by
  refine And.right (h.invariant (I := fun x => RequestInv x ∧ NodeInv env x) ?_ ?_ ?_)
  · exact ⟨requestInv_initial, nodeInv_initial⟩
  · rintro now a b step ⟨requests, inv⟩
    exact ⟨step.requestInv requests, step.nodeInv requests inv⟩
  · rintro now drawn op a r b step ⟨requests, inv⟩
    exact ⟨step.requestInv requests, step.nodeInv requests inv⟩

theorem Sweeps.nodeInv (requests : RequestInv s) (inv : NodeInv env s)
    (h : Sweeps env P now s s') : RequestInv s' ∧ NodeInv env s' := by
  refine h.keeps (I := fun x => RequestInv x ∧ NodeInv env x) ?_ ⟨requests, inv⟩
  rintro a b step ⟨requests, inv⟩
  exact ⟨step.requestInv requests, step.nodeInv requests inv⟩

/-- The call starts the removal of the node: the order number of its registration,
which is never given twice, is gone. -/
def StartsRemovalOf (env : StoreEnv) (c : Call) (s : Store) (n : String) : Prop :=
  n ∈ s.records ∧ (c.next env s).registrationOrder.get? n ≠ s.registrationOrder.get? n

/-! ## The fences of started removals -/

/-- Every started removal has the fence that its completion updates. -/
def PendingFenced (s : Store) : Prop :=
  ∀ n p, s.pendingNodeTransitions.get? n = some p →
    p.controlCredentialDigest ∈ s.fencesOf p.nodeIdentityDigest

theorem pendingOwner_of_pending (collisionFree : env.runtime.CollisionFree) (inv : NodeInv env s)
    (hp : s.pendingNodeTransitions.get? n = some p) :
    pendingOwner s p.nodeIdentityDigest = some p.controlCredentialDigest := by
  unfold pendingOwner
  have listed : p ∈ s.pendingNodeTransitions.values.reverse :=
    List.mem_reverse.mpr (OrderedDict.mem_values.mpr ⟨n, hp⟩)
  cases hf : s.pendingNodeTransitions.values.reverse.find?
      fun q => q.nodeIdentityDigest = p.nodeIdentityDigest with
  | none => exact absurd (decide_eq_true rfl) (List.find?_eq_none.mp hf p listed)
  | some q =>
    have digest : q.nodeIdentityDigest = p.nodeIdentityDigest := by
      simpa using List.find?_some hf
    obtain ⟨m, hm⟩ := OrderedDict.mem_values.mp
      (List.mem_reverse.mp (List.mem_of_find?_eq_some hf))
    rw [inv.pending_key m q hm, inv.pending_key n p hp] at digest
    obtain rfl := nodeDigest_injective collisionFree digest
    rw [hp] at hm
    cases hm
    rfl

theorem reapRetained_pendingFenced (collisionFree : env.runtime.CollisionFree)
    (inv : NodeInv env s) (fenced : PendingFenced s) :
    PendingFenced (reapRetainedLocked now s) := by
  intro n p hp
  have pending : s.pendingNodeTransitions.get? n = some p := by
    rw [reapRetained_eq] at hp
    exact hp
  obtain ⟨a, ha⟩ := OrderedDict.mem_def.mp (fenced n p pending)
  rw [OrderedDict.mem_def, reapRetained_fence, ha]
  exact ⟨a, by simp [Option.filter, pendingOwner_of_pending collisionFree inv pending]⟩

theorem fence_of_set {digest digest' owner owner' : String} {a : FormerNodeAuthority}
    (h : owner' ∈ s.fencesOf digest') :
    owner' ∈ Store.fencesOf { s with
      formerNodeAuthorities := s.formerNodeAuthorities.set digest
        ((s.fencesOf digest).set owner a) } digest' := by
  rw [fencesOf_set]
  split
  · next heq =>
    rw [OrderedDict.mem_set]
    exact .inr (heq ▸ h)
  · exact h

theorem StartsRemoval.pendingFenced (h : StartsRemoval env now n record cause s s')
    (fenced : PendingFenced s) :
    PendingFenced s' := by
  intro m p hp
  rw [h.post] at hp ⊢
  have found := (OrderedDict.get?_set ..).symm.trans hp
  split at found
  · cases found
    show record.controlCredentialDigest ∈ Store.fencesOf _ (nodeDigest env n)
    unfold startTransition
    rw [Store.fencesOf, OrderedDict.get?_set, if_pos rfl]
    exact OrderedDict.mem_set.mpr (.inl rfl)
  · exact fence_of_set (fenced m p found)

theorem FinishesRemoval.pendingFenced
    {authority : FormerNodeAuthority} (h : FinishesRemoval env now n p authority s s')
    (fenced : PendingFenced s) : PendingFenced s' := by
  intro m q hq
  rw [h.post] at hq ⊢
  exact fence_of_set (fenced m q ((some_of_removed fun k => OrderedDict.get?_erase ..).mp hq).2)

theorem SameNodes.pendingFenced (h : SameNodes s s') (fenced : PendingFenced s) :
    PendingFenced s' := by
  unfold PendingFenced Store.fencesOf
  rw [h.pending, h.fences]
  exact fenced

theorem Sweep.pendingFenced (collisionFree : env.runtime.CollisionFree)
    (inv : NodeInv env s) (h : Sweep env P now s s') (fenced : PendingFenced s) :
    PendingFenced s' := by
  cases h with
  | reapRetained => exact reapRetained_pendingFenced collisionFree inv fenced
  | terminalize h =>
    rw [h.post]
    exact writeTerminal_sameNodes.pendingFenced fenced
  | defer h | lapse h | discardWork h => rw [h.post]; exact fenced
  | startRemoval h | finishRemoval h => exact h.pendingFenced fenced
  | touchFences h =>
    intro n p hp
    rw [h.post] at hp ⊢
    rw [fencesOf_set]
    split
    · next heq => exact heq ▸ fenced n p hp
    · exact fenced n p hp

theorem Commit.pendingFenced {drawn : String} {op : Op} {r : Except StoreError Reply}
    (h : Commit env now drawn op s r s') (fenced : PendingFenced s) : PendingFenced s' := by
  cases h with
  | register h | reregister _ h | renew h | setScheduler h | reserve _ h | enqueue _ h | advance h
  | claim _ _ h | renewClaim _ h | acknowledgeControl _ h | accept _ h | acknowledgeResponse _ h
  | repair _ h => rw [h.post]; exact fenced
  | cancel _ h =>
    rw [h.post]
    exact writeTerminal_sameNodes.pendingFenced fenced

theorem Reachable.pendingFenced (collisionFree : env.runtime.CollisionFree)
    (h : Reachable env s) : PendingFenced s := by
  refine And.right (h.invariant
    (I := fun x => (RequestInv x ∧ NodeInv env x) ∧ PendingFenced x) ?_ ?_ ?_)
  · exact ⟨⟨requestInv_initial, nodeInv_initial⟩, nofun⟩
  · rintro now a b step ⟨⟨requests, inv⟩, fenced⟩
    exact ⟨⟨step.requestInv requests, step.nodeInv requests inv⟩,
      step.pendingFenced collisionFree inv fenced⟩
  · rintro now drawn op a r b step ⟨⟨requests, inv⟩, fenced⟩
    exact ⟨⟨step.requestInv requests, step.nodeInv requests inv⟩, step.pendingFenced fenced⟩

theorem Sweeps.pendingFenced (collisionFree : env.runtime.CollisionFree) (requests : RequestInv s)
    (inv : NodeInv env s) (fenced : PendingFenced s) (h : Sweeps env Any now s s') :
    PendingFenced s' := by
  refine And.right (h.keeps (I := fun x => (RequestInv x ∧ NodeInv env x) ∧ PendingFenced x) ?_
    ⟨⟨requests, inv⟩, fenced⟩)
  rintro a b step ⟨⟨requests, inv⟩, fenced⟩
  exact ⟨⟨step.requestInv requests, step.nodeInv requests inv⟩,
    step.pendingFenced collisionFree inv fenced⟩

/-- A batch that completes a removal finds the fence it updates. -/
theorem transitionNodeLocked_no_lookup (fenced : PendingFenced s)
    {supplied : Option String} {e : StoreError}
    (h : (transitionNodeLocked env n supplied cause now s).1 = .error e) :
    e.isRelayStateStoreError := by
  have outcome : Method.Ends (transitionNodeLocked env n supplied cause now) s
      (TransitionOutcome env Any now n cause s) :=
    transitionNodeLocked_ends (J := fun _ => True) (Q := fun _ => True) (fun _ _ _ _ => trivial)
      (fun _ _ _ _ _ _ _ _ => trivial) trivial fun _ _ _ _ => trivial
  unfold Method.Ends at outcome
  rw [h] at outcome
  generalize (transitionNodeLocked env n supplied cause now s).2 = s' at outcome
  cases outcome with
  | raised relay => exact relay
  | continued pending outcome =>
    cases outcome with
    | overflow _ _ relay _ => exact relay
    | missing _ _ _ absent =>
      exact absurd (fenced _ _ pending) (OrderedDict.not_mem_iff.mpr absent)
  | started starts outcome =>
    cases outcome with
    | overflow _ _ relay _ => exact relay
    | missing _ _ _ absent =>
      have pending := starts.pendingFenced fenced n _
        (by rw [starts.post]; exact (OrderedDict.get?_set ..).trans (if_pos rfl))
      exact absurd pending (OrderedDict.not_mem_iff.mpr absent)

end

/-- After any calls at any clock readings the tables of the nodes agree, all work
and every claim belongs to a registered node or to one under removal, and no
state of a later sweep lacks the fence that completes a removal. -/
theorem node_tables_agree (env : StoreEnv) (collisionFree : env.runtime.CollisionFree)
    (calls : List Call) :
    let s := runs env calls Store.initial
    (∀ n, (n ∈ s.schedulerStates ↔ n ∈ s.records) ∧ (n ∈ s.registrationOrder ↔ n ∈ s.records)) ∧
    (∀ n o, s.registrationOrder.get? n = some o → o < s.nextRegistrationOrder ∧
      ∀ m, s.registrationOrder.get? m = some o → m = n) ∧
    (∀ n, ¬(n ∈ s.records ∧ n ∈ s.pendingNodeTransitions)) ∧
    (∀ id w, s.HasWork id w →
      Xor (w.selectedNodeId ∈ s.records) (w.selectedNodeId ∈ s.pendingNodeTransitions)) ∧
    (∀ id c, s.claims.get? id = some c →
      (∃ r, s.records.get? c.selectedNodeId = some r ∧
        r.controlCredentialDigest = c.controlCredentialDigest) ∨
      ∃ p, s.pendingNodeTransitions.get? c.selectedNodeId = some p ∧
        p.controlCredentialDigest = c.controlCredentialDigest) ∧
    (∀ n p, s.pendingNodeTransitions.get? n = some p →
      p.nodeIdentityDigest = nodeDigest env n ∧
        p.controlCredentialDigest ∈ s.fencesOf (nodeDigest env n)) ∧
    (∀ now s', Sweeps env Any now s s' → ∀ n supplied cause e,
      (transitionNodeLocked env n supplied cause now s').1 = .error e →
        e.isRelayStateStoreError) ∧
    (∀ f cursor, s.fairnessCursors.get? f = some cursor → cursor.1 ∈ s.records) := by
  intro s
  have reachable : Reachable env s := reachable_runs calls
  have inv : NodeInv env s := reachable.nodeInv
  have fenced : PendingFenced s := reachable.pendingFenced collisionFree
  refine ⟨fun n => ⟨inv.scheduler_iff n, inv.order_iff n⟩, fun n o ho => ⟨inv.order_lt n o ho, ?_⟩,
    fun n both => inv.not_pending n both.1 both.2, fun id w hw => ?_, inv.claim_owner,
    fun n p hp => ?_, fun now s' steps n supplied cause e => ?_, inv.cursor_node⟩
  · exact fun m ho' => inv.order_injective m n o ho' ho
  · rcases inv.work_node id w hw with registered | pending
    · exact .inl ⟨registered, inv.not_pending _ registered⟩
    · exact .inr ⟨pending, fun registered => inv.not_pending _ registered pending⟩
  · have key := inv.pending_key n p hp
    exact ⟨key, key ▸ fenced n p hp⟩
  · exact transitionNodeLocked_no_lookup
      (steps.pendingFenced collisionFree reachable.requestInv inv fenced)

/-- A queued request belongs to a node that is registered and not under removal. -/
theorem node_tables_agree_queued :
    let s := runs defaultEnv (registration :: admission 100) Store.initial
    defaultEnv.runtime.CollisionFree ∧ (s.queued.get? sampleIdentity).isSome = true ∧
      ∀ id w, s.HasWork id w →
        Xor (w.selectedNodeId ∈ s.records) (w.selectedNodeId ∈ s.pendingNodeTransitions) :=
  ⟨sampleRuntime_collisionFree, by decide +kernel,
    (node_tables_agree defaultEnv sampleRuntime_collisionFree
      (registration :: admission 100)).2.2.2.1⟩

end StateStore
