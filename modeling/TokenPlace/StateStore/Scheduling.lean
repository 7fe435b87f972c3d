import TokenPlace.Lib.RoundRobin
import TokenPlace.StateStore.Atomicity
import TokenPlace.StateStore.NodeSide

/-!
# The choice of a node

`select_and_reserve` gives a new identity a reservation when the request is
within its bounds, a fairness cursor is available and some node has room for
the request (`Admissible`). Among the nodes with room it keeps those of the
smallest tier and the least load (`Best`) and takes the next one in the order of
registration after the cursor of the request's fingerprint (`IsNext`).

* `NodeInv.choose_isNext`: the two minimisations and the choice;
* `selectAndReserveLocked_new`: the body on a new identity;
* `created_iff`: when a call creates a reservation.
-/

namespace StateStore

open Method RoundRobin

/-! ## Nodes with room -/

/-- What the scheduler counts on a node. -/
def nodeLoad (s : Store) (n : String) (state : SchedulerNodeState) : Nat :=
  reservationCount s n + queueLength s n + state.claimedWork

section

variable (env : StoreEnv)

/-- The node can serve the request and has room for one more. -/
structure Eligible (s : Store) (model : String) (tier : ContextTier) (n : String)
    (record : ComputeNodeRegistration) (state : SchedulerNodeState) : Prop where
  registered : s.records.get? n = some record
  scheduler : s.schedulerStates.get? n = some state
  supports : model ∈ record.capabilities.supportedModelIds
  tier_size : tier.tokenBound ≤ record.capabilities.activeContextTier.tokenBound
  context : tier.tokenBound ≤ record.capabilities.maximumTotalContextTokens
  healthy : state.healthy = true
  not_draining : state.draining = false
  load_room : nodeLoad s n state < record.capabilities.maxConcurrency
  node_room : reservationCount s n < env.config.maxReservationsPerNode
  depth_room : reservationCount s n + queueLength s n < env.config.maxQueueDepthPerNode

/-- The node is eligible, no eligible node has a smaller tier, and none of its tier has
a smaller load. -/
structure Best (s : Store) (model : String) (tier : ContextTier) (n : String) : Prop where
  eligible : ∃ record state, Eligible env s model tier n record state ∧
    ∀ m record' state', Eligible env s model tier m record' state' →
      record.capabilities.activeContextTier.tokenBound <
          record'.capabilities.activeContextTier.tokenBound ∨
        record.capabilities.activeContextTier.tokenBound =
            record'.capabilities.activeContextTier.tokenBound ∧
          nodeLoad s n state ≤ nodeLoad s m state'

/-- The identity has no lifecycle. -/
structure NewIdentity (s : Store) (id : Identity) : Prop where
  not_terminal : id ∉ s.terminals
  not_queued : s.queued.get? id = none
  not_reserved : s.reservations.get? id = none

/-- A cursor can be kept for the fingerprint: it has one, there is room for one more, or
one of a fingerprint without lifecycle can go. -/
def CursorSlot (s : Store) (fingerprint : String) : Prop :=
  fingerprint ∈ s.fairnessCursors ∨
    s.fairnessCursors.size < env.config.maxSchedulerFingerprints ∨
    ∃ f ∈ s.fairnessCursors.keys, activeFingerprint env s f = false

/-- The conditions for a reservation. -/
structure Admissible (now : Epoch) (req : SelectionRequest) (s : Store) : Prop where
  unexpired : now < req.deadline
  within : req.deadline ≤ now + env.config.maxRequestTtlSeconds
  room : s.reservations.size < env.config.maxReservations
  lifecycle_room : s.reservations.size + s.queued.size < env.config.maxRequestLifecycles
  client_room : clientLifecycleCount s req.identity.1 < env.config.maxReservationsPerClient
  node : ∃ n record state, Eligible env s req.modelId req.tier n record state
  cursor : CursorSlot env s (schedulerFingerprint env req.modelId req.tier)

end

/-- The place of a node in the order of registration. -/
def orderOf (s : Store) (n : String) : Nat := (s.registrationOrder.get? n).getD 0

/-- The place of the node that the cursor of the fingerprint is on. -/
def cursorOrder (s : Store) (fingerprint : String) : Option Nat :=
  (s.fairnessCursors.get? fingerprint).bind fun cursor => s.registrationOrder.get? cursor.1

section

variable {env : StoreEnv} {s : Store} {model : String} {tier : ContextTier}

/-! ## The candidates -/

variable {record : ComputeNodeRegistration} {state : SchedulerNodeState} {req : SelectionRequest}
  {c : Candidate} {l : List Candidate} {n : String}

theorem schedulable_iff (registered : s.records.get? n = some record)
    (scheduler : s.schedulerStates.get? n = some state) :
    schedulable env s model tier n record state = true ↔
      Eligible env s model tier n record state := by
  unfold schedulable
  simp only [Bool.and_eq_true, decide_eq_true_eq, Bool.not_eq_true', List.contains_iff_mem]
  constructor
  · rintro ⟨⟨⟨⟨⟨⟨⟨supports, size⟩, context⟩, healthy⟩, draining⟩, load⟩, node⟩, depth⟩
    exact ⟨registered, scheduler, supports, size, context, healthy, draining, load, node, depth⟩
  · intro h
    exact ⟨⟨⟨⟨⟨⟨⟨h.supports, h.tier_size⟩, h.context⟩, h.healthy⟩, h.not_draining⟩, h.load_room⟩,
      h.node_room⟩, h.depth_room⟩

/-- The candidate that a registration leads to. -/
def candidateOf (env : StoreEnv) (s : Store) (model : String) (tier : ContextTier)
    (entry : String × ComputeNodeRegistration) : Option Candidate := do
  let state ← s.schedulerStates.get? entry.1
  let order ← s.registrationOrder.get? entry.1
  guard (schedulable env s model tier entry.1 entry.2 state)
  return ⟨entry.2.capabilities.activeContextTier.tokenBound, nodeLoad s entry.1 state, order,
    entry.1⟩

theorem eligibleNodes_eq (l : List (String × ComputeNodeRegistration))
    (tables : ∀ e ∈ l, e.1 ∈ s.schedulerStates ∧ e.1 ∈ s.registrationOrder) :
    eligibleNodes env s model tier l = .ok (l.filterMap (candidateOf env s model tier)) := by
  induction l with
  | nil => rfl
  | cons entry l ih =>
    obtain ⟨n, record⟩ := entry
    obtain ⟨scheduled, ordered⟩ := tables _ List.mem_cons_self
    obtain ⟨state, hs⟩ := OrderedDict.mem_def.mp scheduled
    obtain ⟨order, ho⟩ := OrderedDict.mem_def.mp ordered
    have rest := ih fun e he => tables e (List.mem_cons_of_mem _ he)
    unfold eligibleNodes
    rw [hs, ho]
    dsimp only
    by_cases able : schedulable env s model tier n record state
    · have candidate : candidateOf env s model tier (n, record) = some
          ⟨record.capabilities.activeContextTier.tokenBound, nodeLoad s n state, order, n⟩ := by
        simp [candidateOf, hs, ho, able]
      rw [if_pos able, rest, List.filterMap_cons_some candidate]
      rfl
    · have candidate : candidateOf env s model tier (n, record) = none := by
        simp [candidateOf, hs, ho, able]
      rw [if_neg able, rest, List.filterMap_cons_none candidate]

/-- A candidate says what the scheduler compares. -/
structure IsCandidate (env : StoreEnv) (s : Store) (model : String) (tier : ContextTier)
    (c : Candidate) (record : ComputeNodeRegistration) (state : SchedulerNodeState) : Prop where
  eligible : Eligible env s model tier c.nodeId record state
  order : s.registrationOrder.get? c.nodeId = some c.order
  size : c.tierSize = record.capabilities.activeContextTier.tokenBound
  load : c.load = nodeLoad s c.nodeId state

theorem candidateOf_eq_some {entry : String × ComputeNodeRegistration}
    (registered : s.records.get? entry.1 = some entry.2)
    (h : candidateOf env s model tier entry = some c) :
    c.nodeId = entry.1 ∧ ∃ state, IsCandidate env s model tier c entry.2 state := by
  obtain ⟨state, hs, h⟩ := Option.bind_eq_some_iff.mp h
  obtain ⟨order, ho, h⟩ := Option.bind_eq_some_iff.mp h
  obtain ⟨_, able, h⟩ := Option.bind_eq_some_iff.mp h
  cases h
  rw [Option.guard_eq_some'] at able
  exact ⟨rfl, state, (schedulable_iff registered hs).mp able, ho, rfl, rfl⟩

theorem Eligible.candidateOf {order : Nat} (h : Eligible env s model tier n record state)
    (ho : s.registrationOrder.get? n = some order) :
    candidateOf env s model tier (n, record) =
      some ⟨record.capabilities.activeContextTier.tokenBound, nodeLoad s n state, order, n⟩ := by
  have able := (schedulable_iff h.registered h.scheduler).mpr h
  simp [StateStore.candidateOf, h.scheduler, ho, able]

/-- All candidates of the store. -/
def candidates (env : StoreEnv) (s : Store) (model : String) (tier : ContextTier) :
    List Candidate :=
  s.records.entries.filterMap (candidateOf env s model tier)

theorem NodeInv.eligibleNodes (inv : NodeInv env s) :
    eligibleNodes env s model tier s.records.entries = .ok (candidates env s model tier) := by
  refine eligibleNodes_eq _ fun e he => ?_
  have registered : e.1 ∈ s.records := OrderedDict.mem_of_get? (OrderedDict.mem_entries.mp he)
  exact ⟨(inv.scheduler_iff _).mpr registered, (inv.order_iff _).mpr registered⟩

theorem isCandidate_of_mem (h : c ∈ candidates env s model tier) :
    ∃ record state, IsCandidate env s model tier c record state := by
  obtain ⟨entry, he, h⟩ := List.mem_filterMap.mp h
  obtain ⟨-, state, candidate⟩ := candidateOf_eq_some (OrderedDict.mem_entries.mp he) h
  exact ⟨entry.2, state, candidate⟩

theorem NodeInv.candidate_of_eligible (inv : NodeInv env s)
    (h : Eligible env s model tier n record state) :
    ∃ c ∈ candidates env s model tier, c.nodeId = n ∧
      c.tierSize = record.capabilities.activeContextTier.tokenBound ∧
      c.load = nodeLoad s n state := by
  obtain ⟨order, ho⟩ := OrderedDict.mem_def.mp
    ((inv.order_iff n).mpr (OrderedDict.mem_of_get? h.registered))
  exact ⟨_, List.mem_filterMap.mpr ⟨(n, record), OrderedDict.mem_entries.mpr h.registered,
    h.candidateOf ho⟩, rfl, rfl, rfl⟩

theorem NodeInv.candidates_distinct (inv : NodeInv env s) :
    (candidates env s model tier).Pairwise fun a b => a.order ≠ b.order := by
  have keys : s.records.entries.Pairwise fun a b => a.1 ≠ b.1 :=
    List.pairwise_map.mp s.records.nodup
  refine (List.Pairwise.and_mem.mp keys).filterMap _ ?_
  rintro a b ⟨ha, hb, different⟩ c hc d hd same
  obtain ⟨name, _, candidate⟩ := candidateOf_eq_some (OrderedDict.mem_entries.mp ha) hc
  obtain ⟨name', _, candidate'⟩ := candidateOf_eq_some (OrderedDict.mem_entries.mp hb) hd
  have place : s.registrationOrder.get? d.nodeId = some c.order := by
    rw [same]
    exact candidate'.order
  have node := inv.order_injective _ _ _ candidate.order place
  exact different (by rw [← name, ← name', node])

/-! ## The tied candidates -/

theorem mem_tiedCandidates :
    c ∈ tiedCandidates l ↔ c ∈ l ∧ ∀ d ∈ l,
      c.tierSize < d.tierSize ∨ c.tierSize = d.tierSize ∧ c.load ≤ d.load := by
  unfold tiedCandidates minimumOf
  dsimp only
  rw [List.mem_insertionSort, mem_filter_least, mem_filter_least]
  simp only [and_assoc]
  refine and_congr_right fun hc => ⟨?_, ?_⟩
  · rintro ⟨smallest, least⟩ d hd
    rcases Nat.lt_or_eq_of_le (smallest d hd) with hlt | heq
    · exact .inl hlt
    · refine .inr ⟨heq, least d (mem_filter_least.mpr ⟨hd, fun y hy => ?_⟩)⟩
      rw [← heq]
      exact smallest y hy
  · intro first
    refine ⟨fun d hd => ?_, fun d hd => ?_⟩
    · rcases first d hd with hlt | ⟨heq, -⟩
      · exact le_of_lt hlt
      · exact le_of_eq heq
    · obtain ⟨hd, smallest⟩ := mem_filter_least.mp hd
      rcases first d hd with hlt | ⟨-, hle⟩
      · exact absurd hlt (not_lt.mpr (smallest c hc))
      · exact hle

theorem tiedCandidates_sorted (distinct : l.Pairwise fun a b => a.order ≠ b.order) :
    (tiedCandidates l).Pairwise fun a b => a.order < b.order := by
  have : Std.Total fun a b : Candidate => a.order ≤ b.order := ⟨fun a b => le_total _ _⟩
  have : IsTrans Candidate fun a b => a.order ≤ b.order := ⟨fun _ _ _ => le_trans⟩
  unfold tiedCandidates
  dsimp only
  generalize hk : ((l.filter _).filter _ : List Candidate) = kept
  have apart : kept.Pairwise fun a b => a.order ≠ b.order := by
    rw [← hk]
    exact (distinct.filter _).filter _
  have sorted := List.pairwise_insertionSort (fun a b : Candidate => a.order ≤ b.order) kept
  have apart' := ((List.perm_insertionSort (fun a b : Candidate => a.order ≤ b.order)
    kept).pairwise_iff fun h => Ne.symm h).mpr apart
  exact (sorted.and apart').imp fun ⟨hle, hne⟩ => lt_of_le_of_ne hle hne

/-- The nodes that the scheduler takes turns among, in the order of registration. -/
def tiedNodes (env : StoreEnv) (s : Store) (model : String) (tier : ContextTier) : List String :=
  (tiedCandidates (candidates env s model tier)).map (·.nodeId)

theorem orderOf_candidate (h : c ∈ candidates env s model tier) :
    orderOf s c.nodeId = c.order := by
  obtain ⟨record, state, candidate⟩ := isCandidate_of_mem h
  rw [orderOf, candidate.order, Option.getD_some]

theorem NodeInv.mem_tiedNodes (inv : NodeInv env s) :
    n ∈ tiedNodes env s model tier ↔ Best env s model tier n := by
  unfold tiedNodes
  rw [List.mem_map]
  constructor
  · rintro ⟨c, hc, rfl⟩
    obtain ⟨member, first⟩ := mem_tiedCandidates.mp hc
    obtain ⟨record, state, candidate⟩ := isCandidate_of_mem member
    refine ⟨record, state, candidate.eligible, fun m record' state' eligible => ?_⟩
    obtain ⟨d, hd, -, size, load⟩ := inv.candidate_of_eligible eligible
    rw [← candidate.size, ← candidate.load, ← size, ← load]
    exact first d hd
  · rintro ⟨record, state, eligible, first⟩
    obtain ⟨c, hc, rfl, size, load⟩ := inv.candidate_of_eligible eligible
    refine ⟨c, mem_tiedCandidates.mpr ⟨hc, fun d hd => ?_⟩, rfl⟩
    obtain ⟨record', state', candidate⟩ := isCandidate_of_mem hd
    rw [size, load, candidate.size, candidate.load]
    exact first d.nodeId record' state' candidate.eligible

theorem NodeInv.tiedNodes_sorted (inv : NodeInv env s) :
    (tiedNodes env s model tier).Pairwise fun a b => orderOf s a < orderOf s b := by
  unfold tiedNodes
  rw [List.pairwise_map]
  refine (List.Pairwise.and_mem.mp (tiedCandidates_sorted inv.candidates_distinct)).imp ?_
  rintro a b ⟨ha, hb, hlt⟩
  rw [orderOf_candidate (mem_of_mem_tiedCandidates ha),
    orderOf_candidate (mem_of_mem_tiedCandidates hb)]
  exact hlt

theorem NodeInv.choose_isNext (inv : NodeInv env s) {fingerprint : String} {first : Candidate}
    {rest : List Candidate}
    (tied : tiedCandidates (candidates env s model tier) = first :: rest) :
    IsNext (orderOf s) (Best env s model tier) (cursorOrder s fingerprint)
      (chooseCandidate s fingerprint first (first :: rest)).nodeId := by
  have sorted : (first :: rest).Pairwise fun a b => a.order < b.order :=
    tied ▸ tiedCandidates_sorted inv.candidates_distinct
  have next : IsNext (·.order) (· ∈ first :: rest) (cursorOrder s fingerprint)
      (chooseCandidate s fingerprint first (first :: rest)) := by
    unfold chooseCandidate cursorOrder
    cases hf : s.fairnessCursors.get? fingerprint with
    | none => exact isNext_first sorted
    | some cursor =>
      dsimp only [Option.bind_some]
      cases ho : s.registrationOrder.get? cursor.1 with
      | none => exact isNext_first sorted
      | some order => exact isNext_find sorted order
  refine next.map (·.nodeId) (fun c hc => ?_) fun n => ?_
  · exact orderOf_candidate (mem_of_mem_tiedCandidates (tied ▸ hc))
  · rw [← inv.mem_tiedNodes, tiedNodes, List.mem_map, tied]

/-! ## The cursor -/

theorem leastActive_eq_none {l : List (String × (String × Nat))} :
    leastActive l = none ↔ l = [] := by
  cases l with
  | nil => exact ⟨fun _ => rfl, fun _ => rfl⟩
  | cons entry rest =>
    refine ⟨fun h => ?_, nofun⟩
    unfold leastActive at h
    cases hr : leastActive rest with
    | none => rw [hr] at h; cases h
    | some best =>
      rw [hr] at h
      dsimp only at h
      split at h <;> cases h

theorem cursorEvictionCandidate_ok {fingerprint : String} :
    (∃ evicted, cursorEvictionCandidate env s fingerprint = .ok evicted) ↔
      CursorSlot env s fingerprint := by
  have inactive : (∃ f ∈ s.fairnessCursors.keys, activeFingerprint env s f = false) ↔
      s.fairnessCursors.entries.filter (fun e => !activeFingerprint env s e.1) ≠ [] := by
    rw [ne_eq, List.filter_eq_nil_iff]
    simp [OrderedDict.keys]
  unfold CursorSlot
  rw [inactive]
  unfold cursorEvictionCandidate
  split
  · next has => exact ⟨fun _ => .inl has, fun _ => ⟨_, rfl⟩⟩
  · next hasNot =>
    split
    · next room => exact ⟨fun _ => .inr (.inl room), fun _ => ⟨_, rfl⟩⟩
    · next full =>
      cases hl : leastActive
          (s.fairnessCursors.entries.filter fun e => !activeFingerprint env s e.1) with
      | none =>
        refine ⟨by simp, ?_⟩
        rintro (has | room | other)
        · exact absurd has hasNot
        · exact absurd room full
        · exact absurd (leastActive_eq_none.mp hl) other
      | some best =>
        refine ⟨fun _ => .inr (.inr fun empty => ?_), fun _ => ⟨_, rfl⟩⟩
        rw [leastActive_eq_none.mpr empty] at hl
        cases hl

/-! ## The body -/

/-- The record that `select_and_reserve` stores for its choice. -/
def reservationOf (env : StoreEnv) (now : Epoch) (drawn : String) (req : SelectionRequest)
    (n : String) : ReservationRecord :=
  ⟨req.identity.1, req.identity.2, schedulerFingerprint env req.modelId req.tier, n, req.modelId,
    req.tier, req.deadline, min (now + env.config.reservationTtlSeconds) req.deadline,
    tokenDigestOf env drawn⟩

/-- How `select_and_reserve` ends on a new identity. -/
inductive Selects (env : StoreEnv) (now : Epoch) (drawn : String) (req : SelectionRequest)
    (s : Store) : Except StoreError SelectionResult → Store → Prop
  | refused {e : StoreError} : ¬Admissible env now req s → Selects env now drawn req s (.error e) s
  | created {n : String} {evicted : Option String} : Admissible env now req s →
      IsNext (orderOf s) (Best env s req.modelId req.tier)
        (cursorOrder s (schedulerFingerprint env req.modelId req.tier)) n →
      cursorEvictionCandidate env s (schedulerFingerprint env req.modelId req.tier) =
        .ok evicted →
      Selects env now drawn req s
        (.ok (selectionResult (reservationOf env now drawn req n) (some drawn) true))
        (writeReservation req (reservationOf env now drawn req n) evicted s)

theorem NodeInv.candidates_eq_nil (inv : NodeInv env s) :
    candidates env s model tier = [] ↔
      ¬∃ n record state, Eligible env s model tier n record state := by
  constructor
  · rintro empty ⟨n, record, state, eligible⟩
    obtain ⟨c, hc, -⟩ := inv.candidate_of_eligible eligible
    rw [empty] at hc
    cases hc
  · intro none_eligible
    refine List.eq_nil_iff_forall_not_mem.mpr fun c hc => ?_
    obtain ⟨record, state, candidate⟩ := isCandidate_of_mem hc
    exact none_eligible ⟨_, _, _, candidate.eligible⟩

theorem tiedCandidates_ne_nil (h : l ≠ []) : tiedCandidates l ≠ [] := by
  unfold tiedCandidates
  dsimp only
  rw [ne_eq, ← List.length_eq_zero_iff, List.length_insertionSort, List.length_eq_zero_iff]
  exact filter_least_ne_nil 0 (filter_least_ne_nil 0 h)

theorem selectAndReserveLocked_new {now : Epoch} {drawn : String}
    (inv : NodeInv env s) (finite : isfinite now) (due : isfinite req.deadline)
    (new : NewIdentity s req.identity) :
    Ends (selectAndReserveLocked env drawn req now) s (Selects env now drawn req s) := by
  unfold selectAndReserveLocked
  simp only [ends_bind, ends_getState, ends_raiseIf, follow_ok, follow_error]
  refine ⟨fun expired => .refused fun h => absurd expired (not_le.mpr h.unexpired),
    fun unexpired => ⟨fun late => .refused fun h => absurd late (not_lt.mpr h.within),
      fun within => ⟨fun terminal => absurd terminal new.not_terminal, fun _ => ?_⟩⟩⟩
  rw [new.not_queued, new.not_reserved]
  unfold reserveLocked
  simp only [ends_bind, ends_getState, ends_raiseIf, follow_ok, follow_error, ends_ofExcept,
    inv.eligibleNodes]
  refine ⟨fun full => .refused fun h => absurd full (not_le.mpr h.room), fun room => ?_⟩
  refine ⟨fun full => .refused fun h => absurd full (not_le.mpr h.lifecycle_room),
    fun lifecycle => ?_⟩
  refine ⟨fun full => .refused fun h => absurd full (not_le.mpr h.client_room),
    fun client => ⟨fun empty => .refused fun h => ?_, fun nonempty => ?_⟩⟩
  · exact inv.candidates_eq_nil.mp empty h.node
  · obtain ⟨first, rest, tied⟩ := List.exists_cons_of_ne_nil (tiedCandidates_ne_nil nonempty)
    rw [tied]
    simp only [ends_bind, ends_ofExcept]
    cases hc : cursorEvictionCandidate env s (schedulerFingerprint env req.modelId req.tier) with
    | error e =>
      refine .refused fun h => ?_
      obtain ⟨evicted, he⟩ := cursorEvictionCandidate_ok.mpr h.cursor
      rw [hc] at he
      cases he
    | ok evicted =>
      have fits : isfiniteSum (min (now + env.config.reservationTtlSeconds) req.deadline) :=
        isfiniteSum_min finite due (le_trans (by norm_num) env.durations.reservation.1)
      simp only [ends_bind, ends_raiseIf, follow_ok, follow_error, ends_modifyState, ends_pure]
      refine ⟨fun infinite => absurd fits infinite, fun _ => ?_⟩
      refine .created ⟨not_le.mp unexpired, not_lt.mp within, not_le.mp room, not_le.mp lifecycle,
        not_le.mp client, ?_, cursorEvictionCandidate_ok.mp ⟨_, hc⟩⟩ (inv.choose_isNext tied) hc
      exact not_not.mp fun none_eligible => nonempty (inv.candidates_eq_nil.mpr none_eligible)

/-! ## The call -/

/-- The call is a `select_and_reserve` with the checked arguments `req`. -/
def Call.Asks (env : StoreEnv) (c : Call) (req : SelectionRequest) : Prop :=
  ∃ client request model tier due token,
    c.op = .selectAndReserve client request model tier due token ∧
      validateSelection env client request model tier due token = .ok req

theorem Call.Asks.unique {c : Call} {req req' : SelectionRequest} (h : c.Asks env req)
    (h' : c.Asks env req') : req = req' := by
  obtain ⟨_, _, _, _, _, _, hop, valid⟩ := h
  obtain ⟨_, _, _, _, _, _, hop', valid'⟩ := h'
  rw [hop] at hop'
  cases hop'
  rw [valid] at valid'
  cases valid'
  rfl

/-- The call reserves the node `n` in the store `s₁` that its housekeeping leaves. -/
structure GrantsReservation (env : StoreEnv) (c : Call) (req : SelectionRequest) (n : String)
    (evicted : Option String) (s s₁ : Store) : Prop where
  finite : isfinite c.clock
  swept : reapLocked env c.clock s = (.ok (), s₁)
  new : NewIdentity s₁ req.identity
  admissible : Admissible env c.clock req s₁
  next : IsNext (orderOf s₁) (Best env s₁ req.modelId req.tier)
    (cursorOrder s₁ (schedulerFingerprint env req.modelId req.tier)) n
  cursor : cursorEvictionCandidate env s₁ (schedulerFingerprint env req.modelId req.tier) =
    .ok evicted
  result : c.result env s = .ok
    (.selection (selectionResult (reservationOf env c.clock c.drawn req n) (some c.drawn) true))
  post : c.next env s = writeReservation req (reservationOf env c.clock c.drawn req n) evicted s₁

theorem swept_nodeInv {now : Epoch} {s₁ : Store} (reachable : Reachable env s)
    (swept : reapLocked env now s = (.ok (), s₁)) : NodeInv env s₁ := by
  have sweeps : Sweeps env Any now s s₁ := reapLocked_sweeps.of_eq swept
  exact (sweeps.nodeInv reachable.requestInv reachable.nodeInv).2

theorem Call.Asks.selects {c : Call} {s₁ : Store} (asks : c.Asks env req)
    (reachable : Reachable env s) (finite : isfinite c.clock)
    (swept : reapLocked env c.clock s = (.ok (), s₁)) (new : NewIdentity s₁ req.identity) :
    ∃ r, c.result env s = r.map Reply.selection ∧
      Selects env c.clock c.drawn req s₁ r (c.next env s) := by
  obtain ⟨client, request, model, tier, due, token, hop, valid⟩ := asks
  have run : c.run env = replying .selection
      (selectAndReserve env c.clock c.drawn client request model tier due token) := by
    unfold Call.run
    rw [hop]
  have outcome : Ends (selectAndReserveLocked env c.drawn req c.clock) s₁
      (Selects env c.clock c.drawn req s₁) := by
    obtain ⟨-, finiteDue, same⟩ := validateSelection_ok valid
    exact selectAndReserveLocked_new (swept_nodeInv reachable swept) finite (same ▸ finiteDue) new
  obtain ⟨result, next⟩ := Call.run_body run valid finite swept
  refine ⟨_, result, ?_⟩
  rw [next]
  exact outcome

theorem Reachable.grants {c : Call} {r : SelectionResult} (reachable : Reachable env s)
    (result : c.result env s = .ok (.selection r)) (created : r.created = true) :
    ∃ req n evicted s₁, c.Asks env req ∧ GrantsReservation env c req n evicted s s₁ := by
  have outcome : CallOutcome env c s (c.result env s) (c.next env s) := c.next_outcome s
  rw [result] at outcome
  obtain ⟨s₁, finite, -, swept, commit⟩ := outcome.committed created nofun
  generalize hop : c.op = op at commit
  cases commit with
  | @reserve client request model tier due token req record evicted _ _ valid reserves =>
    have asks : c.Asks env req := ⟨client, request, model, tier, due, token, hop, valid.1⟩
    have reaped : reapLocked env c.clock s = (.ok (), s₁) := by
      rw [← swept, hop]
      rfl
    have new : NewIdentity s₁ req.identity :=
      ⟨reserves.not_terminal, reserves.not_queued, reserves.not_reserved⟩
    obtain ⟨x, same, selects⟩ := asks.selects reachable finite reaped new
    generalize hn : c.next env s = s' at selects
    cases selects with
    | refused _ => rw [result] at same; cases same
    | @created n evicted admissible next cursor =>
      exact ⟨req, n, evicted, s₁, asks, finite, reaped, new, admissible, next, cursor, same, hn⟩

theorem created_iff {c : Call} (reachable : Reachable env s) (asks : c.Asks env req) :
    (∃ r, c.result env s = .ok (.selection r) ∧ r.created = true) ↔
      isfinite c.clock ∧ ∃ s₁, reapLocked env c.clock s = (.ok (), s₁) ∧
        NewIdentity s₁ req.identity ∧ Admissible env c.clock req s₁ := by
  constructor
  · rintro ⟨r, result, created⟩
    obtain ⟨req', n, evicted, s₁, asks', grants⟩ := reachable.grants result created
    obtain rfl := asks.unique asks'
    exact ⟨grants.finite, s₁, grants.swept, grants.new, grants.admissible⟩
  · rintro ⟨finite, s₁, swept, new, admissible⟩
    obtain ⟨r, result, selects⟩ := asks.selects reachable finite swept new
    generalize c.next env s = s' at selects
    cases selects with
    | refused inadmissible => exact absurd admissible inadmissible
    | created _ _ _ => exact ⟨_, result, rfl⟩

end

end StateStore
