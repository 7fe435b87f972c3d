import TokenPlace.StateStore.Atomicity
import TokenPlace.StateStore.Lifecycles
import TokenPlace.StateStore.NodeSide

/-!
# Owner fencing after a removal

What the removal of a node, held under a credential, means for the rest of the
run. The node gets no work until it is registered again; it is not registered
again while work is left on it, and not under the same credential until one
retention after its removal completed.

* `unreplaced`: a removed node stays away until it is registered;
* `Phase`: the registration, then the started removal, then the fence;
* `Barred`: the fence bars the credential, whoever owns the node meanwhile;
* `removal_fences`: the results for runs.
-/

namespace StateStore

open Method

/-- The call registers the node. -/
def RegistersNode (env : StoreEnv) (c : Call) (s : Store) (n : String) : Prop :=
  ∃ caps d r, c.op = .register n caps d ∧ c.result env s = .ok (.registered r)

/-- The call gives work to the node or takes work from it. -/
inductive Serves (env : StoreEnv) (c : Call) (s : Store) (n : String) : Prop
  | selection {r : SelectionResult} : c.result env s = .ok (.selection r) → r.created = true →
      r.selectedNodeId = n → Serves env c s n
  | enqueue {r : EnqueueResult} : c.result env s = .ok (.enqueued r) → r.created = true →
      r.selectedNodeId = n → Serves env c s n
  | claim {d consumer : String} {w : ClaimedWork} : c.op = .claimQueuedRequest n d consumer →
      c.result env s = .ok (.claim (.work w)) → Serves env c s n
  | renewal {d consumer client request : String} {generation g : Nat} {acknowledge : Bool}
      {lease : Epoch} :
      c.op = .renewClaimOrReadControl n d consumer client request generation acknowledge →
      c.result env s = .ok (.renewal (.continued g lease)) → Serves env c s n
  | acceptance {d consumer client request : String} {generation : Nat}
      {envelope : EncryptedEnvelope} {r : ResponseAcceptanceResult} :
      c.op = .acceptEncryptedResponse n d consumer client request generation envelope →
      c.result env s = .ok (.acceptance r) → r.newOutcome = true → Serves env c s n

section

variable {env : StoreEnv} {P : TerminalPolicy} {now : Epoch} {s s' : Store} {n d : String}

/-! ## The node stays away -/

/-- The registration of order `o` stands, where `standing` allows it, or the node is
not registered. -/
def Unreplaced (standing : Prop) (n : String) (o : Nat) (s : Store) : Prop :=
  (standing ∧ s.registrationOrder.get? n = some o) ∨ n ∉ s.records

variable {caps : ComputeNodeCapabilities} {c : Call} {standing : Prop}
  {record : ComputeNodeRegistration} {r : Except StoreError Reply} {o : Nat} {s₁ : Store}
  {u : Epoch} {drawn : String} {calls : List Call} {m : String} {op : Op}

theorem SameNodes.unreplaced (h : SameNodes s s')
    (inv : Unreplaced standing n o s) : Unreplaced standing n o s' := by
  unfold Unreplaced
  rw [h.records, h.registrationOrder]
  exact inv

theorem Sweep.unreplaced (h : Sweep env P now s s')
    (inv : Unreplaced standing n o s) : Unreplaced standing n o s' := by
  cases h with
  | reapRetained =>
    rw [reapRetained_eq]
    exact inv
  | terminalize h =>
    rw [h.post]
    exact writeTerminal_sameNodes.unreplaced inv
  | defer h | lapse h | discardWork h | touchFences h | finishRemoval h => rw [h.post]; exact inv
  | @startRemoval m record cause _ _ h =>
    rw [h.post]
    rcases eq_or_ne n m with rfl | hne
    · exact .inr fun present => (OrderedDict.mem_erase.mp present).1 rfl
    · rcases inv with ⟨standing, order⟩ | absent
      · exact .inl ⟨standing, ((OrderedDict.get?_erase ..).trans (if_neg hne)).trans order⟩
      · exact .inr fun present => absent (OrderedDict.mem_erase.mp present).2

theorem Commit.unreplaced (h : Commit env now drawn op s r s')
    (other : ∀ caps d record, op = .register n caps d → r ≠ .ok (.registered record))
    (inv : Unreplaced standing n o s) : Unreplaced standing n o s' := by
  have refreshed : ∀ {m : String} {old new : ComputeNodeRegistration}, Refreshes m old new s s' →
      Unreplaced standing n o s' := by
    intro m old new h
    have present := OrderedDict.mem_of_get? h.present
    rw [h.post]
    refine inv.imp_right fun absent registered => absent ?_
    rcases OrderedDict.mem_set.mp registered with rfl | registered
    · exact present
    · exact registered
  cases h with
  | @register m caps d lease _ _ h =>
    rw [h.post]
    have hne : n ≠ m := by
      rintro rfl
      exact other caps d _ rfl rfl
    rcases inv with ⟨standing, order⟩ | absent
    · exact .inl ⟨standing, ((OrderedDict.get?_set ..).trans (if_neg hne)).trans order⟩
    · refine .inr fun registered => ?_
      rcases OrderedDict.mem_set.mp registered with same | registered
      · exact hne same
      · exact absent registered
  | reregister _ h | renew h => exact refreshed h
  | setScheduler h | reserve _ h | enqueue _ h | advance h | claim _ _ h | renewClaim _ h
  | acknowledgeControl _ h | accept _ h | acknowledgeResponse _ h | repair _ h =>
    rw [h.post]; exact inv
  | cancel _ h =>
    rw [h.post]
    exact writeTerminal_sameNodes.unreplaced inv

theorem Serves.registered (h : Serves env c s n) : n ∈ (c.next env s).records := by
  have outcome : CallOutcome env c s (c.result env s) (c.next env s) := c.next_outcome s
  generalize c.next env s = s' at outcome ⊢
  cases h with
  | selection hr created node =>
    rw [hr] at outcome
    obtain ⟨s₁, -, -, -, commit⟩ := outcome.committed created nofun
    generalize c.op = op at commit
    cases commit with
    | reserve _ h =>
      rw [h.post]
      exact node ▸ h.node
  | enqueue hr created node =>
    rw [hr] at outcome
    obtain ⟨s₁, -, -, -, commit⟩ := outcome.committed created nofun
    generalize c.op = op at commit
    cases commit with
    | enqueue _ h =>
      obtain ⟨registration, registered, -⟩ := h.registered
      have present := OrderedDict.mem_of_get? registered
      rw [h.node] at present
      rw [h.post]
      exact node ▸ present
  | claim hop hr =>
    rw [hr] at outcome
    obtain ⟨s₁, -, -, -, commit⟩ := outcome.committed rfl nofun
    rw [hop] at commit
    cases commit with
    | claim _ _ h =>
      rw [h.post]
      exact OrderedDict.mem_of_get? h.registered
  | renewal hop hr =>
    rw [hr] at outcome
    obtain ⟨s₁, -, -, -, commit⟩ := outcome.committed rfl nofun
    rw [hop] at commit
    cases commit with
    | renewClaim valid h =>
      rw [h.post]
      exact (validateOwner_ok valid).1 ▸ OrderedDict.mem_of_get? h.registered
  | acceptance hop hr new =>
    rw [hr] at outcome
    obtain ⟨s₁, -, -, -, commit⟩ := outcome.committed new nofun
    rw [hop] at commit
    cases commit with
    | accept valid h =>
      rw [h.post]
      exact (validateOwner_ok (validateAcceptance_ok valid).1).1 ▸
        OrderedDict.mem_of_get? h.registered

theorem Call.unreplaced (other : ¬RegistersNode env c s n) (inv : Unreplaced standing n o s) :
    Unreplaced standing n o (c.next env s) := by
  have outcome : CallOutcome env c s (c.result env s) (c.next env s) := c.next_outcome s
  unfold RegistersNode at other
  generalize c.result env s = result at outcome other
  generalize c.next env s = s' at outcome ⊢
  -- a commit is the result of the call, so one that registers the node is excluded
  have committed : ∀ {s₁ : Store}, Unreplaced standing n o s₁ →
      BodyOutcome env c.clock c.drawn c.op s₁ result s' → Unreplaced standing n o s' := by
    intro s₁ inv₁ body
    cases body with
    | unchanged _ => exact inv₁
    | committed h =>
      exact h.unreplaced (fun caps d record hop hr => other ⟨caps, d, record, hop, hr⟩) inv₁
  have swept : ∀ {r : Except StoreError Unit} {s₁ : Store},
      c.op.housekeeping env c.clock s = (r, s₁) → Unreplaced standing n o s₁ := fun hh =>
    ((c.op.housekeeping_sweeps c.clock).of_eq hh).keeps (fun _ _ step => step.unreplaced) inv
  cases outcome with
  | rejected _ | invalidProof _ | unread _ | noLease _ _ => exact inv
  | stopped _ _ hh => exact swept hh
  | body _ _ hh body => exact committed (swept hh) body
  | removal _ _ hh transition _ =>
    exact transition.sweeps.keeps (fun _ _ step => step.unreplaced) (swept hh)

/-! ## The fence of the removed owner -/

/-- The credential is fenced on the node until `u` and does not hold it. -/
structure Barred (env : StoreEnv) (n d : String) (u : Epoch) (s : Store) : Prop where
  fence : ∃ a, (s.fencesOf (nodeDigest env n)).get? d = some a ∧ u ≤ a.expiresAtEpoch
  owner : ∀ r, s.records.get? n = some r → r.controlCredentialDigest ≠ d

/-- The removal of the node from the credential has started and is not complete. -/
def Removing (n d : String) (s : Store) : Prop :=
  ∃ p, s.pendingNodeTransitions.get? n = some p ∧ p.controlCredentialDigest = d

/-- The registration of order `o` under the credential stands. -/
def Held (n d : String) (o : Nat) (s : Store) : Prop :=
  (∃ r, s.records.get? n = some r ∧ r.controlCredentialDigest = d) ∧
    s.registrationOrder.get? n = some o

theorem Held.of_registry (h : Held n d o s) (records : s'.records = s.records)
    (order : s'.registrationOrder = s.registrationOrder) : Held n d o s' := by
  unfold Held
  rw [records, order]
  exact h

/-- A fence that lasts until `u` is there after a fence has been written that lasts so long. -/
theorem fence_set {digest owner : String} {a : FormerNodeAuthority}
    (later : u ≤ a.expiresAtEpoch) {digest' owner' : String}
    (h : ∃ b, (s.fencesOf digest').get? owner' = some b ∧ u ≤ b.expiresAtEpoch) :
    ∃ b, (Store.fencesOf { s with
      formerNodeAuthorities := s.formerNodeAuthorities.set digest
        ((s.fencesOf digest).set owner a) } digest').get? owner' = some b ∧
      u ≤ b.expiresAtEpoch := by
  rw [fencesOf_set]
  split
  · next heq =>
    rw [OrderedDict.get?_set]
    split
    · exact ⟨a, rfl, later⟩
    · exact heq ▸ h
  · exact h

theorem SameNodes.barred (h : SameNodes s s') (inv : Barred env n d u s) :
    Barred env n d u s' := by
  refine ⟨?_, ?_⟩
  · rw [Store.fencesOf, h.fences]
    exact inv.fence
  · rw [h.records]
    exact inv.owner

theorem Sweep.barred (h : Sweep env P now s s') (early : now < u)
    (late : u ≤ now + env.config.terminalRetentionSeconds) (inv : Barred env n d u s) :
    Barred env n d u s' := by
  cases h with
  | reapRetained =>
    obtain ⟨a, ha, hu⟩ := inv.fence
    refine ⟨⟨a, ?_, hu⟩, ?_⟩
    · rw [reapRetained_fence, ha]
      simp [Option.filter, lt_of_lt_of_le early hu]
    · rw [reapRetained_eq]
      exact inv.owner
  | terminalize h =>
    rw [h.post]
    exact writeTerminal_sameNodes.barred inv
  | defer h | lapse h | discardWork h => rw [h.post]; exact ⟨inv.fence, inv.owner⟩
  | startRemoval h =>
    rw [h.post]
    refine ⟨fence_set late inv.fence, fun r hr => ?_⟩
    exact inv.owner r ((some_of_removed fun k => OrderedDict.get?_erase ..).mp hr).2
  | touchFences h =>
    rw [h.post]
    refine ⟨?_, inv.owner⟩
    rw [fencesOf_set]
    split
    · next heq => exact heq ▸ inv.fence
    · exact inv.fence
  | finishRemoval h =>
    rw [h.post]
    exact ⟨fence_set late inv.fence, inv.owner⟩

theorem Refreshes.barred {old new : ComputeNodeRegistration}
    (h : Refreshes m old new s s') (inv : Barred env n d u s) : Barred env n d u s' := by
  rw [h.post]
  refine ⟨inv.fence, fun r hr => ?_⟩
  have found := (OrderedDict.get?_set ..).symm.trans hr
  split at found
  · next hm =>
    cases found
    rw [h.owner]
    exact inv.owner old (hm ▸ h.present)
  · exact inv.owner r found

theorem Commit.barred
    (h : Commit env now drawn op s r s') (inv : Barred env n d u s) : Barred env n d u s' := by
  cases h with
  | register h =>
    rw [h.post]
    refine ⟨inv.fence, fun r hr => ?_⟩
    have found := (OrderedDict.get?_set ..).symm.trans hr
    split at found
    · next hm =>
      cases found
      rintro rfl
      obtain ⟨a, ha, -⟩ := inv.fence
      exact h.not_fenced (hm ▸ OrderedDict.mem_of_get? ha)
    · exact inv.owner r found
  | reregister _ h | renew h => exact h.barred inv
  | setScheduler h | reserve _ h | enqueue _ h | advance h | claim _ _ h | renewClaim _ h
  | acknowledgeControl _ h | accept _ h | acknowledgeResponse _ h | repair _ h =>
    rw [h.post]; exact ⟨inv.fence, inv.owner⟩
  | cancel _ h =>
    rw [h.post]
    exact writeTerminal_sameNodes.barred inv

/-! ## The phases of a removal -/

/-- What one call at the reading `now` makes of the registration of order `o`: it
stands, where `standing` allows it, its removal is under way, or its removal is
complete. -/
inductive Phase (env : StoreEnv) (now : Epoch) (n d : String) (standing : Prop) (o : Nat)
    (s : Store) : Prop
  | held : standing → Held n d o s → Phase env now n d standing o s
  | removing : Removing n d s → Phase env now n d standing o s
  | removed : n ∉ s.records → n ∉ s.pendingNodeTransitions →
      Barred env n d (now + env.config.terminalRetentionSeconds) s →
      Phase env now n d standing o s

/-- After a call the removal is under way, or it is complete and the owner fenced. -/
def Away (env : StoreEnv) (now : Epoch) (n d : String) (s : Store) : Prop :=
  Removing n d s ∨ (n ∉ s.pendingNodeTransitions ∧
    Barred env n d (now + env.config.terminalRetentionSeconds) s)

theorem Sweep.registry (h : Sweep env P now s s') :
    (s'.records = s.records ∧ s'.registrationOrder = s.registrationOrder ∧
      s'.pendingNodeTransitions = s.pendingNodeTransitions) ∨
    (∃ m record cause, StartsRemoval env now m record cause s s') ∨
    ∃ m p a, FinishesRemoval env now m p a s s' := by
  cases h with
  | reapRetained =>
    rw [reapRetained_eq]
    exact .inl ⟨rfl, rfl, rfl⟩
  | terminalize h =>
    have nodes : SameNodes s s' := by
      rw [h.post]
      exact writeTerminal_sameNodes
    exact .inl ⟨nodes.records, nodes.registrationOrder, nodes.pending⟩
  | defer h | lapse h | discardWork h | touchFences h => rw [h.post]; exact .inl ⟨rfl, rfl, rfl⟩
  | startRemoval h => exact .inr (.inl ⟨_, _, _, h⟩)
  | finishRemoval h => exact .inr (.inr ⟨_, _, _, h⟩)

theorem StartsRemoval.phase {cause : Cause} (h : StartsRemoval env now m record cause s s')
    (kept : ∀ u, u = now + env.config.terminalRetentionSeconds → Barred env n d u s →
      Barred env n d u s') (inv : NodeInv env s) (phase : Phase env now n d standing o s) :
    Phase env now n d standing o s' := by
  have present : m ∈ s.records := OrderedDict.mem_of_get? h.registered
  have pending : s'.pendingNodeTransitions =
      s.pendingNodeTransitions.set m (pendingOf env m record cause now) := by rw [h.post]; rfl
  have records : s'.records = s.records.erase m := by rw [h.post]; rfl
  have order : s'.registrationOrder = s.registrationOrder.erase m := by rw [h.post]; rfl
  cases phase with
  | held stands held =>
    obtain ⟨⟨r, hr, owner⟩, ho⟩ := held
    rcases eq_or_ne n m with rfl | hne
    · rw [h.registered] at hr
      cases hr
      refine .removing ⟨pendingOf env n record cause now, ?_, owner⟩
      rw [pending, OrderedDict.get?_set, if_pos rfl]
    · refine .held stands ⟨⟨r, ?_, owner⟩, ?_⟩
      · rw [records, OrderedDict.get?_erase, if_neg hne]
        exact hr
      · rw [order, OrderedDict.get?_erase, if_neg hne]
        exact ho
  | removing removing =>
    obtain ⟨p, hp, owner⟩ := removing
    have hne : n ≠ m := by
      rintro rfl
      exact inv.not_pending n present (OrderedDict.mem_of_get? hp)
    refine .removing ⟨p, ?_, owner⟩
    rw [pending, OrderedDict.get?_set, if_neg hne]
    exact hp
  | removed absent idle barred =>
    have hne : n ≠ m := by
      rintro rfl
      exact absent present
    refine .removed ?_ ?_ (kept _ rfl barred)
    · rw [records, OrderedDict.mem_erase]
      exact fun registered => absent registered.2
    · rw [pending, OrderedDict.mem_set]
      rintro (heq | mem)
      · exact hne heq
      · exact idle mem

theorem FinishesRemoval.phase {p : PendingNodeTransition} {authority : FormerNodeAuthority}
    (h : FinishesRemoval env now m p authority s s')
    (kept : ∀ u, u = now + env.config.terminalRetentionSeconds → Barred env n d u s →
      Barred env n d u s') (inv : NodeInv env s) (phase : Phase env now n d standing o s) :
    Phase env now n d standing o s' := by
  have pending : s'.pendingNodeTransitions = s.pendingNodeTransitions.erase m := by rw [h.post]
  have records : s'.records = s.records := by rw [h.post]
  cases phase with
  | held stands held =>
    exact .held stands (held.of_registry records (by rw [h.post]))
  | removing removing =>
    obtain ⟨q, hq, owner⟩ := removing
    rcases eq_or_ne n m with rfl | hne
    · rw [h.pending] at hq
      cases hq
      have absent : n ∉ s.records := fun registered =>
        inv.not_pending n registered (OrderedDict.mem_of_get? h.pending)
      refine .removed (records ▸ absent) ?_ ⟨?_, ?_⟩
      · rw [pending, OrderedDict.mem_erase]
        exact fun mem => mem.1 rfl
      · -- the completion writes the fence of this owner anew
        rw [h.post, ← inv.pending_key n p h.pending]
        refine ⟨{ authority with
          expiresAtEpoch := now + env.config.terminalRetentionSeconds }, ?_, le_refl _⟩
        show (Store.fencesOf _ _).get? d = _
        rw [Store.fencesOf, OrderedDict.get?_set, if_pos rfl, Option.getD_some,
          OrderedDict.get?_set, if_pos owner.symm]
      · rw [records]
        exact fun r hr => absurd (OrderedDict.mem_of_get? hr) absent
    · refine .removing ⟨q, ?_, owner⟩
      rw [pending, OrderedDict.get?_erase, if_neg hne]
      exact hq
  | removed absent idle barred =>
    refine .removed (records ▸ absent) ?_ (kept _ rfl barred)
    rw [pending, OrderedDict.mem_erase]
    exact fun mem => idle mem.2

theorem Sweep.phase (h : Sweep env P now s s') (inv : NodeInv env s)
    (phase : Phase env now n d standing o s) : Phase env now n d standing o s' := by
  have kept : ∀ u, u = now + env.config.terminalRetentionSeconds → Barred env n d u s →
      Barred env n d u s' := by
    rintro u rfl barred
    exact h.barred (lt_add_of_pos_right now (retention_pos env)) (le_refl _) barred
  rcases h.registry with ⟨records, order, pending⟩ | ⟨m, record, cause, starts⟩ |
    ⟨m, p, a, finishes⟩
  · cases phase with
    | held stands held => exact .held stands (held.of_registry records order)
    | removing removing =>
      refine .removing ?_
      unfold Removing
      rw [pending]
      exact removing
    | removed absent idle barred =>
      exact .removed (records ▸ absent) (pending ▸ idle) (kept _ rfl barred)
  · exact starts.phase kept inv phase
  · exact finishes.phase kept inv phase

theorem Refreshes.held {old new : ComputeNodeRegistration}
    (h : Refreshes m old new s s') (standing : Held n d o s) : Held n d o s' := by
  obtain ⟨⟨r, hr, owner⟩, ho⟩ := standing
  rw [h.post]
  refine ⟨?_, ho⟩
  rcases eq_or_ne n m with rfl | hne
  · rw [h.present] at hr
    cases hr
    exact ⟨new, (OrderedDict.get?_set ..).trans (if_pos rfl), h.owner.trans owner⟩
  · exact ⟨r, ((OrderedDict.get?_set ..).trans (if_neg hne)).trans hr, owner⟩

theorem Commit.held
    (h : Commit env now drawn op s r s') (standing : Held n d o s) : Held n d o s' := by
  cases h with
  | @register m caps d' lease _ _ h =>
    obtain ⟨⟨record, hr, owner⟩, ho⟩ := standing
    have hne : n ≠ m := by
      rintro rfl
      rw [h.absent] at hr
      cases hr
    rw [h.post]
    exact ⟨⟨record, ((OrderedDict.get?_set ..).trans (if_neg hne)).trans hr, owner⟩,
      ((OrderedDict.get?_set ..).trans (if_neg hne)).trans ho⟩
  | reregister _ h | renew h => exact h.held standing
  | setScheduler h | reserve _ h | enqueue _ h | advance h | claim _ _ h | renewClaim _ h
  | acknowledgeControl _ h | accept _ h | acknowledgeResponse _ h | repair _ h =>
    rw [h.post]; exact standing
  | cancel _ h =>
    rw [h.post]
    exact standing.of_registry writeTerminal_sameNodes.records
      writeTerminal_sameNodes.registrationOrder

theorem Commit.pending (h : Commit env now drawn op s r s') :
    s'.pendingNodeTransitions = s.pendingNodeTransitions := by
  cases h with
  | register h | reregister _ h | renew h | setScheduler h | advance h | claim _ _ h
  | renewClaim _ h | acknowledgeControl _ h | acknowledgeResponse _ h | repair _ h => rw [h.post]
  | reserve _ h | enqueue _ h | accept _ h => rw [h.post]; rfl
  | cancel _ h => rw [h.post]; exact writeTerminal_sameNodes.pending

theorem Call.swept_phase {r : Except StoreError Unit}
    (requests : RequestInv s) (inv : NodeInv env s) (phase : Phase env c.clock n d standing o s)
    (hh : c.op.housekeeping env c.clock s = (r, s₁)) :
    NodeInv env s₁ ∧ Phase env c.clock n d standing o s₁ := by
  have swept := ((c.op.housekeeping_sweeps c.clock).of_eq hh).keeps
    (I := fun x => (RequestInv x ∧ NodeInv env x) ∧ Phase env c.clock n d standing o x)
    (fun a b step ⟨⟨requests, inv⟩, phase⟩ =>
      ⟨⟨step.requestInv requests, step.nodeInv requests inv⟩, step.phase inv phase⟩)
    ⟨⟨requests, inv⟩, phase⟩
  exact ⟨swept.1.2, swept.2⟩

theorem Call.phase (c : Call) (requests : RequestInv s) (inv : NodeInv env s)
    (phase : Phase env c.clock n d standing o s) :
    (standing ∧ Held n d o (c.next env s)) ∨ Away env c.clock n d (c.next env s) := by
  refine (c.next_outcome s).reaches
    (I := fun x => (RequestInv x ∧ NodeInv env x) ∧ Phase env c.clock n d standing o x)
    (K := fun x => (standing ∧ Held n d o x) ∨ Away env c.clock n d x) ?_ ?_ ?_
    ⟨⟨requests, inv⟩, phase⟩
  · rintro a b step ⟨⟨requests, inv⟩, phase⟩
    exact ⟨⟨step.requestInv requests, step.nodeInv requests inv⟩, step.phase inv phase⟩
  · rintro a r b commit ⟨-, phase⟩
    cases phase with
    | held stands held => exact .inl ⟨stands, commit.held held⟩
    | removing removing =>
      refine .inr (.inl ?_)
      unfold Removing
      rw [commit.pending]
      exact removing
    | removed absent idle barred =>
      exact .inr (.inr ⟨commit.pending ▸ idle, commit.barred barred⟩)
  · rintro a ⟨-, phase⟩
    cases phase with
    | held stands held => exact .inl ⟨stands, held⟩
    | removing removing => exact .inr (.inl removing)
    | removed absent idle barred => exact .inr (.inr ⟨idle, barred⟩)

theorem StartsRemovalOf.away
    (requests : RequestInv s) (inv : NodeInv env s) (h : StartsRemovalOf env c s n)
    (registered : s.records.get? n = some record) :
    Away env c.clock n record.controlCredentialDigest (c.next env s) := by
  obtain ⟨o, ho⟩ := OrderedDict.mem_def.mp ((inv.order_iff n).mpr h.1)
  have phase : Phase env c.clock n record.controlCredentialDigest True o s :=
    .held trivial ⟨⟨record, registered, rfl⟩, ho⟩
  refine (Call.phase c requests inv phase).resolve_left ?_
  rintro ⟨-, -, standing⟩
  exact h.2 (standing.trans ho.symm)

theorem Removing.away (requests : RequestInv s) (inv : NodeInv env s)
    (h : Removing n d s) : Away env c.clock n d (c.next env s) := by
  have phase : Phase env c.clock n d False 0 s := .removing h
  exact (Call.phase c requests inv phase).resolve_left And.left

theorem Call.barred (c : Call) (early : c.clock < u)
    (late : u ≤ c.clock + env.config.terminalRetentionSeconds) (h : Barred env n d u s) :
    Barred env n d u (c.next env s) :=
  (c.next_outcome s).keeps (fun _ _ step => step.barred early late)
    (fun _ _ _ commit => commit.barred) h

/-! ## Registering a removed node -/

theorem Starts.registers (h : Starts env c s s₁) (hop : c.op = .register n caps d) :
    c.result env s = (registerLocked env n caps d c.clock
      (c.clock + env.config.leaseTtlSeconds) s₁).1.map .registered := by
  obtain ⟨clock, drawn, op⟩ := c
  subst hop
  have finiteLease : isfiniteSum (clock + env.config.leaseTtlSeconds) := by
    by_contra overflow
    exact h.lease ⟨⟨n, caps, d, rfl⟩, overflow⟩
  have checked : registerChecks env clock n d = .ok (clock + env.config.leaseTtlSeconds) := by
    have valid : validateCredential env n d = .ok () := h.valid
    have read : nowOf clock = .ok clock := if_pos h.finite
    unfold registerChecks
    rw [valid, read]
    exact if_pos finiteLease
  show Ends (replying .registered (register env clock n caps d)) s fun r _ => r = _
  rw [ends_replying]
  have housekept : registerHousekeeping env clock s = (.ok (), s₁) := h.housekept
  have called : register env clock n caps d s =
      registerLocked env n caps d clock (clock + env.config.leaseTtlSeconds) s₁ :=
    publicCall_eq checked h.finite housekept
  exact congrArg (fun x => x.1.map Reply.registered) called

theorem Starts.register_pending (h : Starts env c s s₁) (hop : c.op = .register n caps d)
    (pending : n ∈ s₁.pendingNodeTransitions) :
    c.result env s = .error (conflict "node transition is incomplete") := by
  have body : Ends (registerLocked env n caps d c.clock (c.clock + env.config.leaseTtlSeconds)) s₁
      fun r _ => r = .error (conflict "node transition is incomplete") := by
    unfold registerLocked
    simp only [ends_bind, ends_getState, ends_raiseIf, follow_ok, follow_error]
    exact ⟨fun _ => trivial, fun idle => absurd pending idle⟩
  rw [h.registers hop, show _ = _ from body]
  rfl

/-- How the registration of a node by its removed owner is refused. -/
inductive RegistrationRefused (env : StoreEnv) (s₁ : Store) : StoreError → Prop
  | conflict {e : StoreError} : e.kind = .conflict → RegistrationRefused env s₁ e
  | mismatch {e : StoreError} : e.kind = .credentialMismatch → RegistrationRefused env s₁ e
  | full {e : StoreError} : e.kind = .capacityExceeded →
      env.config.maxComputeNodes ≤ s₁.records.size → RegistrationRefused env s₁ e

theorem Starts.register_barred (h : Starts env c s s₁) (hop : c.op = .register n caps d)
    (barred : Barred env n d u s₁) :
    ∃ e, c.result env s = .error e ∧ RegistrationRefused env s₁ e := by
  have body : Ends (registerLocked env n caps d c.clock (c.clock + env.config.leaseTtlSeconds)) s₁
      fun r _ => ∃ e, r = .error e ∧ RegistrationRefused env s₁ e := by
    unfold registerLocked
    simp only [ends_bind, ends_getState, ends_raiseIf, follow_ok, follow_error]
    refine ⟨fun _ => ⟨_, rfl, .conflict rfl⟩, fun _ => ?_⟩
    cases hr : s₁.records.get? n with
    | none =>
      simp only [ends_bind, ends_raiseIf, follow_ok, follow_error]
      refine ⟨fun full => ⟨_, rfl, .full rfl full⟩, fun _ => ⟨fun _ => ⟨_, rfl, .mismatch rfl⟩,
        fun free => ?_⟩⟩
      obtain ⟨a, ha, -⟩ := barred.fence
      exact absurd (OrderedDict.mem_of_get? ha) free
    | some existing =>
      simp only [requireDigest, ends_bind, ends_raiseIf, follow_ok, follow_error]
      refine ⟨fun _ => ⟨_, rfl, .mismatch rfl⟩, fun owner => ?_⟩
      exact absurd (not_not.mp owner) (barred.owner existing hr)
  obtain ⟨e, error, refused⟩ := body
  exact ⟨e, by rw [h.registers hop, error]; rfl, refused⟩

theorem register_starts {reply : Reply}
    (hop : c.op = .register n caps d) (ok : c.result env s = .ok reply) :
    ∃ s₁, Starts env c s s₁ := by
  obtain ⟨clock, drawn, op⟩ := c
  subst hop
  have started : Ends (replying .registered (register env clock n caps d)) s fun r _ =>
      ∀ reply, r = .ok reply → ∃ s₁, Starts env ⟨clock, drawn, .register n caps d⟩ s s₁ := by
    rw [ends_replying]
    refine ends_publicCall (fun _ _ => nofun) (fun _ _ => nofun) (fun _ _ _ _ _ _ => nofun) ?_
    intro lease s₁ checked finite hh
    simp only [registerChecks, bind_ok_iff] at checked
    obtain ⟨_, valid, now, read, checked⟩ := checked
    refine fun _ _ => ⟨s₁, finite, valid, ?_, hh⟩
    rintro ⟨-, overflow⟩
    rw [nowOf, if_pos finite] at read
    cases read
    rw [leaseDeadline, if_neg overflow] at checked
    cases checked
  exact started reply ok

/-! ## Runs after a removal -/

/-- No call of the list registers the node, where the list starts in `s`. -/
def NeverRegisters (env : StoreEnv) (n : String) (calls : List Call) (s : Store) : Prop :=
  ∀ done k, done ++ [k] <+: calls → ¬RegistersNode env k (runs env done s) n

theorem NeverRegisters.init
    (h : NeverRegisters env n (calls ++ [c]) s) : NeverRegisters env n calls s :=
  fun done k hk => h done k (hk.trans (List.prefix_append ..))

theorem NeverRegisters.last
    (h : NeverRegisters env n (calls ++ [c]) s) : ¬RegistersNode env c (runs env calls s) n :=
  h calls c (List.prefix_refl _)

theorem away_until_registered (inv : NodeInv env s)
    (starts : StartsRemovalOf env c s n) {mid : List Call}
    (never : NeverRegisters env n (c :: mid) s) : n ∉ (runs env (c :: mid) s).records := by
  induction mid using List.reverseRecOn with
  | nil =>
    obtain ⟨o, ho⟩ := OrderedDict.mem_def.mp ((inv.order_iff n).mpr starts.1)
    have stays : Unreplaced True n o (c.next env s) :=
      Call.unreplaced (never [] c (List.prefix_refl _)) (.inl ⟨trivial, ho⟩)
    rcases stays with ⟨-, standing⟩ | absent
    · exact absurd (standing.trans ho.symm) starts.2
    · exact absent
  | append_singleton mid k ih =>
    rw [← List.cons_append] at never ⊢
    have stays : Unreplaced False n 0 (k.next env (runs env (c :: mid) s)) :=
      Call.unreplaced never.last (.inr (ih never.init))
    rw [runs_snoc]
    exact stays.resolve_left And.left

/-- The call `k` after the calls `done` completes the removal that the first of them
starts. -/
structure CompletesRemoval (env : StoreEnv) (n : String) (s : Store) (done : List Call)
    (k : Call) : Prop where
  pending : ∀ l, l <+: done → l ≠ [] → n ∈ (runs env l s).pendingNodeTransitions
  complete : n ∉ (runs env (done ++ [k]) s).pendingNodeTransitions

/-- The owner of a removed node, after any calls that end within one retention of the
completion: its removal is under way, or it is fenced. -/
inductive Excluded (env : StoreEnv) (n d : String) (s : Store) (calls : List Call) : Prop
  | removing : (∀ l, l <+: calls → l ≠ [] → n ∈ (runs env l s).pendingNodeTransitions) →
      Removing n d (runs env calls s) → Excluded env n d s calls
  | barred {done : List Call} {k : Call} : done ++ [k] <+: calls →
      CompletesRemoval env n s done k →
      Barred env n d (k.clock + env.config.terminalRetentionSeconds) (runs env calls s) →
      Excluded env n d s calls

theorem prefix_snoc {l calls : List Call} (h : l <+: calls ++ [c]) :
    l <+: calls ∨ l = calls ++ [c] := by
  rcases List.prefix_concat_iff.mp h with rfl | h
  · exact .inr rfl
  · exact .inl h

/-- One more call: the removal goes on or completes. -/
theorem Away.excluded {k : Call}
    (pending : ∀ l, l <+: calls → l ≠ [] → n ∈ (runs env l s).pendingNodeTransitions)
    (h : Away env k.clock n d (runs env (calls ++ [k]) s)) :
    Excluded env n d s (calls ++ [k]) := by
  rcases h with removing | ⟨idle, barred⟩
  · refine .removing (fun l hl nonempty => ?_) removing
    rcases prefix_snoc hl with hl | rfl
    · exact pending l hl nonempty
    · obtain ⟨p, hp, -⟩ := removing
      exact OrderedDict.mem_of_get? hp
  · exact .barred (List.prefix_refl _) ⟨pending, idle⟩ barred

theorem excluded_until (reachable : Reachable env s)
    (starts : StartsRemovalOf env c s n) (registered : s.records.get? n = some record)
    {mid : List Call} (ordered : ClockNondecreasing (c :: mid)) {last : Epoch}
    (clocks : ∀ k ∈ c :: mid, k.clock ≤ last)
    (early : ∀ done k, done ++ [k] <+: c :: mid → CompletesRemoval env n s done k →
      last < k.clock + env.config.terminalRetentionSeconds) :
    Excluded env n record.controlCredentialDigest s (c :: mid) := by
  induction mid using List.reverseRecOn with
  | nil =>
    have away := starts.away reachable.requestInv reachable.nodeInv registered
    refine @Away.excluded _ _ _ _ [] _ (fun l hl nonempty => ?_) away
    exact absurd (List.prefix_nil.mp hl) nonempty
  | append_singleton mid k ih =>
    rw [← List.cons_append] at ordered clocks early ⊢
    have shorter := List.prefix_append (c :: mid) [k]
    have sofar := ih (ordered.sublist shorter.sublist)
      (fun j hj => clocks j (List.mem_append_left _ hj))
      (fun done j hj => early done j (hj.trans shorter))
    have reached := reachable.runs (c :: mid)
    cases sofar with
    | removing pending removing =>
      have away : Away env k.clock n record.controlCredentialDigest
          (k.next env (runs env (c :: mid) s)) :=
        removing.away reached.requestInv reached.nodeInv
      rw [← runs_snoc] at away
      exact away.excluded pending
    | @barred done j hj completes barred =>
      have before : last < j.clock + env.config.terminalRetentionSeconds :=
        early done j (hj.trans shorter) completes
      have first : j.clock ≤ k.clock := by
        refine (List.pairwise_append.mp ordered).2.2 j ?_ k List.mem_cons_self
        exact hj.subset (List.mem_append_right _ List.mem_cons_self)
      have bound : k.clock ≤ last := clocks k (List.mem_append_right _ List.mem_cons_self)
      refine .barred (hj.trans shorter) completes ?_
      rw [runs_snoc]
      exact Call.barred k (lt_of_le_of_lt bound before) (add_le_add first (le_refl _)) barred

theorem Starts.next {K : Store → Prop}
    (h : Starts env c s s₁) (hop : c.op = .register n caps d) (unchanged : K s₁)
    (commit : ∀ r b, Commit env c.clock c.drawn c.op s₁ r b → K b) : K (c.next env s) := by
  have outcome : CallOutcome env c s (c.result env s) (c.next env s) := c.next_outcome s
  generalize c.next env s = s' at outcome ⊢
  generalize c.result env s = r at outcome
  cases outcome with
  | rejected invalid | invalidProof invalid => cases invalid.symm.trans h.valid
  | unread infinite => exact absurd h.finite infinite
  | noLease hop' overflow =>
    refine absurd ⟨⟨_, _, _, hop'⟩, fun finite => ?_⟩ h.lease
    rw [leaseDeadline, if_pos finite] at overflow
    cases overflow
  | stopped _ _ hh => cases hh.symm.trans h.housekept
  | body _ _ hh body =>
    cases hh.symm.trans h.housekept
    cases body with
    | unchanged _ => exact unchanged
    | committed written => exact commit _ _ written
  | removal _ _ _ _ removal =>
    rw [hop] at removal
    cases removal

theorem StartsRemovalOf.body_phase (reachable : Reachable env s)
    (starts : StartsRemovalOf env c s n) (registered : s.records.get? n = some record)
    (hop : c.op = .register n caps d) (h : Starts env c s s₁) :
    NodeInv env s₁ ∧ Phase env c.clock n record.controlCredentialDigest False 0 s₁ := by
  obtain ⟨o, ho⟩ := OrderedDict.mem_def.mp ((reachable.nodeInv.order_iff n).mpr starts.1)
  have before : Phase env c.clock n record.controlCredentialDigest True o s :=
    .held trivial ⟨⟨record, registered, rfl⟩, ho⟩
  obtain ⟨inv, phase⟩ := Call.swept_phase reachable.requestInv reachable.nodeInv before h.housekept
  refine ⟨inv, ?_⟩
  cases phase with
  | held _ held =>
    have stands : Held n record.controlCredentialDigest o (c.next env s) :=
      h.next hop held fun _ _ commit => commit.held held
    exact absurd (stands.2.trans ho.symm) starts.2
  | removing removing => exact .removing removing
  | removed absent idle barred => exact .removed absent idle barred

/-- A registration with a credential that the node is being removed from, or was. -/
theorem Phase.refused (phase : Phase env c.clock n d False 0 s₁) (hop : c.op = .register n caps d)
    (h : Starts env c s s₁) : ∃ e, c.result env s = .error e ∧ RegistrationRefused env s₁ e := by
  cases phase with
  | held never _ => exact never.elim
  | removing removing =>
    obtain ⟨p, hp, -⟩ := removing
    exact ⟨_, h.register_pending hop (OrderedDict.mem_of_get? hp), .conflict rfl⟩
  | removed _ _ barred => exact h.register_barred hop barred

theorem prefix_from {c k : Call} {mid rest : List Call} (h : mid ++ [k] <+: c :: rest) :
    (mid = [] ∧ k = c) ∨ ∃ mid', mid = c :: mid' ∧ mid' ++ [k] <+: rest := by
  cases mid with
  | nil => exact .inl ⟨rfl, (List.cons_prefix_cons.mp h).1⟩
  | cons j mid' =>
    obtain ⟨rfl, tail⟩ := List.cons_prefix_cons.mp h
    exact .inr ⟨mid', rfl, tail⟩

theorem NodeInv.pending_of_work (inv : NodeInv env s) (absent : n ∉ s.records)
    (work : ∃ id w, s.HasWork id w ∧ w.selectedNodeId = n) : n ∈ s.pendingNodeTransitions := by
  obtain ⟨id, w, hw, rfl⟩ := work
  exact (inv.work_node id w hw).resolve_left absent

end

/-- From the call that starts the removal of a node from its owner, in a run with a
clock that never goes back: the node gets no work and gives none until it is
registered; it is not registered while work is left on it; and its owner is not
registered on it until one retention after the removal completed. -/
theorem removal_fences (env : StoreEnv) (before rest : List Call) (c : Call) (n : String)
    (record : ComputeNodeRegistration) (clock : ClockNondecreasing (before ++ c :: rest))
    (registered : (stateAfter env before).records.get? n = some record)
    (starts : StartsRemovalOf env c (stateAfter env before) n) :
    let s := stateAfter env before
    (∀ mid k, mid ++ [k] <+: c :: rest → NeverRegisters env n mid s →
      ¬Serves env k (runs env mid s) n ∧
      ∀ caps d s₁, k.op = .register n caps d → Starts env k (runs env mid s) s₁ →
        (∃ id w, s₁.HasWork id w ∧ w.selectedNodeId = n) →
        k.result env (runs env mid s) = .error (conflict "node transition is incomplete")) ∧
    (∀ mid k caps, mid ++ [k] <+: c :: rest →
      k.op = .register n caps record.controlCredentialDigest →
      (∀ done j, done ++ [j] <+: mid → CompletesRemoval env n s done j →
        k.clock < j.clock + env.config.terminalRetentionSeconds) →
      (∀ reply, k.result env (runs env mid s) ≠ .ok reply) ∧
      ∀ s₁, Starts env k (runs env mid s) s₁ →
        ∃ e, k.result env (runs env mid s) = .error e ∧ RegistrationRefused env s₁ e) := by
  intro s
  have reachable : Reachable env s := reachable_runs before
  have inv : NodeInv env s := reachable.nodeInv
  have ordered : ClockNondecreasing (c :: rest) := (List.pairwise_append.mp clock).2.1
  refine ⟨fun mid k hk never => ⟨fun serves => ?_, fun caps d s₁ hop start work => ?_⟩, ?_⟩
  · -- a call that serves a node registers none
    have silent : ¬RegistersNode env k (runs env mid s) n := by
      rintro ⟨caps, d, r, hop, hr⟩
      cases serves with
      | selection hr' _ _ | enqueue hr' _ _ => cases hr.symm.trans hr'
      | claim hop' _ | renewal hop' _ | acceptance hop' _ _ => cases hop.symm.trans hop'
    have all : NeverRegisters env n (mid ++ [k]) s := by
      intro done j hj
      rcases prefix_snoc hj with hj | same
      · exact never done j hj
      · obtain ⟨rfl, last⟩ := List.append_inj' same rfl
        cases last
        exact silent
    have present : n ∈ (runs env (mid ++ [k]) s).records := by
      rw [runs_snoc]
      exact serves.registered
    rcases prefix_from hk with ⟨rfl, rfl⟩ | ⟨mid', rfl, -⟩
    · exact away_until_registered inv starts all present
    · exact away_until_registered inv starts all present
  · refine start.register_pending hop ?_
    rcases prefix_from hk with ⟨rfl, rfl⟩ | ⟨mid', rfl, -⟩
    · obtain ⟨inv₁, phase⟩ := starts.body_phase reachable registered hop start
      cases phase with
      | held never _ => exact never.elim
      | removing removing =>
        obtain ⟨p, hp, -⟩ := removing
        exact OrderedDict.mem_of_get? hp
      | removed absent _ _ => exact inv₁.pending_of_work absent work
    · have reached := reachable.runs (c :: mid')
      have swept := (k.op.housekeeping_sweeps k.clock).of_eq start.housekept
      have away : Unreplaced False n 0 s₁ := swept.keeps (fun _ _ step => step.unreplaced)
        (.inr (away_until_registered inv starts never))
      exact (swept.nodeInv reached.requestInv reached.nodeInv).2.pending_of_work
        (away.resolve_left And.left) work
  · intro mid k caps hk hop early
    have refused : ∀ s₁, Starts env k (runs env mid s) s₁ →
        ∃ e, k.result env (runs env mid s) = .error e ∧ RegistrationRefused env s₁ e := by
      intro s₁ start
      rcases prefix_from hk with ⟨rfl, rfl⟩ | ⟨mid', rfl, hk'⟩
      · exact (starts.body_phase reachable registered hop start).2.refused hop start
      · have reached := reachable.runs (c :: mid')
        have clocks := List.pairwise_append.mp (ordered.sublist hk.sublist)
        have excluded := excluded_until reachable starts registered clocks.1
          (fun j hj => clocks.2.2 j hj k List.mem_cons_self) early
        cases excluded with
        | removing _ removing =>
          have before : Phase env k.clock n record.controlCredentialDigest False 0
            (runs env (c :: mid') s) := .removing removing
          exact (Call.swept_phase reached.requestInv reached.nodeInv before
            start.housekept).2.refused hop start
        | @barred done j hj completes barred =>
          have first : j.clock ≤ k.clock := clocks.2.2 j
            (hj.subset (List.mem_append_right _ List.mem_cons_self)) k List.mem_cons_self
          have kept := ((k.op.housekeeping_sweeps k.clock).of_eq start.housekept).keeps
            (fun _ _ step => step.barred (early done j hj completes)
              (add_le_add first (le_refl _))) barred
          exact start.register_barred hop kept
    refine ⟨fun reply ok => ?_, refused⟩
    obtain ⟨s₁, start⟩ := register_starts hop ok
    obtain ⟨e, error, -⟩ := refused s₁ start
    cases ok.symm.trans error

/-- The removed owner comes back before its fence has expired. -/
theorem removal_fences_mismatch :
    let removing := sampleCall 2 (.unregister "node-a" credentialA)
    let again := sampleCall 3 (.register "node-a" sampleCapabilities credentialA)
    let s := stateAfter defaultEnv [registration]
    let s' := runs defaultEnv [removing] s
    StartsRemovalOf defaultEnv removing s "node-a" ∧
      again.result defaultEnv s' = .error
        (credentialMismatch "control credential digest has stale registration authority") ∧
      ∀ reply, again.result defaultEnv s' ≠ .ok reply := by
  intro removing again s s'
  have starts : StartsRemovalOf defaultEnv removing s "node-a" :=
    ⟨by decide +kernel, by decide +kernel⟩
  refine ⟨starts, by decide +kernel, ?_⟩
  refine ((removal_fences defaultEnv [registration] [again] removing "node-a"
    ⟨"node-a", sampleCapabilities, credentialA, 1, 31⟩ (by decide +kernel) (by decide +kernel)
    starts).2 [removing] again sampleCapabilities (List.prefix_refl _) rfl ?_).1
  intro done j hj _
  rcases prefix_from hj with ⟨-, rfl⟩ | ⟨mid, -, hj⟩
  · decide +kernel
  · exact absurd (List.prefix_nil.mp hj) (by simp)

/-- A store for one node. -/
def oneNodeEnv : StoreEnv :=
  sampleEnv { namespace_ := "relay", maxComputeNodes := 1 } (by decide +kernel)

/-- The bound on the registrations is checked before the fence of the removed owner. -/
theorem capacity_checked_before_fence :
    let s := stateAfter oneNodeEnv [registration,
      sampleCall 2 (.unregister "node-a" credentialA),
      sampleCall 2 (.register "node-b" sampleCapabilities credentialB)]
    Call.result oneNodeEnv (sampleCall 3 (.register "node-a" sampleCapabilities credentialA)) s =
      .error (capacityExceeded "compute-node registration capacity reached") := by
  decide +kernel

end StateStore
