import TokenPlace.Relay.BestFit

/-!
# The turns of the live relay

A tuple of tied nodes has its own position, so that the selections with this
tuple follow each other in its cyclic order, whatever is selected in between and
whatever becomes of the global index (`turns_chain`). The position belongs to the
tuple, not to the eligible nodes: two eligible sets with one tuple take each
other's turns (`failed_node_refused_and_turns_shared`).
-/

namespace Relay

open RoundRobin

variable {env : SchedulerEnv} {reg : Registry} {q : SelectionQuery} {st : SchedulerState}

/-- The keys of the nodes that a selection takes turns among: `eligible_key`. -/
def tiedKeys (env : SchedulerEnv) (reg : Registry) (q : SelectionQuery) : List String :=
  (loadCandidates (openCandidates env reg q)).map (·.serverPublicKey)

theorem map_filterMap_sublist {α β γ : Type} {f : α → Option β} {g : β → γ} {h : α → γ}
    (keeps : ∀ x y, f x = some y → g y = h x) (l : List α) :
    ((l.filterMap f).map g).Sublist (l.map h) := by
  induction l with
  | nil => exact List.Sublist.slnil
  | cons x l ih =>
    cases made : f x with
    | none =>
      rw [List.filterMap_cons_none made]
      exact ih.cons _
    | some y =>
      rw [List.filterMap_cons_some made, List.map_cons, List.map_cons, keeps x y made]
      exact ih.cons_cons _

theorem tiedKeys_sublist : (tiedKeys env reg q).Sublist reg.knownServers.keys := by
  have candidates : ((allCandidates env reg q).map (·.serverPublicKey)).Sublist
      ((roundRobinServers reg).zipIdx.map fun e => e.1.1) := by
    refine map_filterMap_sublist (fun e c made => ?_) _
    obtain ⟨caps, -, rfl⟩ := schedulerCandidate_eq_some.mp made
    rfl
  have keys : (roundRobinServers reg).zipIdx.map (fun e => e.1.1) =
      (roundRobinServers reg).map Prod.fst := by
    rw [← List.zipIdx_map_fst 0 (roundRobinServers reg), List.map_map, List.zipIdx_map_fst]
    rfl
  rw [keys] at candidates
  have tied : (loadCandidates (openCandidates env reg q)).Sublist (allCandidates env reg q) :=
    List.filter_sublist.trans (List.filter_sublist.trans List.filter_sublist)
  exact (tied.map _).trans (candidates.trans (List.filter_sublist.map _))

theorem tiedKeys_nodup : (tiedKeys env reg q).Nodup :=
  tiedKeys_sublist.nodup reg.knownServers.nodup

/-- What a selection does to the positions. -/
inductive TakesTurn (env : SchedulerEnv) (reg : Registry) (q : SelectionQuery)
    (st : SchedulerState) : Option String → SchedulerState → Prop
  | refused : TakesTurn env reg q st none st
  | selected (key : String) (index : Nat) (st' : SchedulerState) :
      (tiedKeys env reg q)[index]? = some key →
      (∀ position ∈ st.nextPositions.get? (tiedKeys env reg q),
        index = position % (tiedKeys env reg q).length) →
      st'.nextPositions = st.nextPositions.set (tiedKeys env reg q)
        ((index + 1) % (tiedKeys env reg q).length) →
      TakesTurn env reg q st (some key) st'

/-- The node of an outcome. -/
def SelectionOutcome.key? : SelectionOutcome → Option String
  | .refused _ => none
  | .selected key _ _ => some key

theorem selectBestFitServerKey_takesTurn (env : SchedulerEnv) (reg : Registry)
    (q : SelectionQuery) (st : SchedulerState) :
    TakesTurn env reg q st (selectBestFitServerKey env reg q st).1.key?
      (selectBestFitServerKey env reg q st).2 := by
  have outcome := selectBestFitServerKey_selected env reg q st
  generalize selectBestFitServerKey env reg q st = result at outcome
  obtain ⟨outcome_, st'⟩ := result
  cases outcome with
  | refused => exact .refused
  | selected c index next report turn here =>
    refine .selected _ index _ ?_ ?_ ?_
    · rw [tiedKeys, List.getElem?_map, here]
      rfl
    · intro position found
      rw [turn]
      unfold selectedLoadIndex
      rw [← tiedKeys, found, tiedKeys, List.length_map]
    · rw [tiedKeys, List.length_map]

/-- The node whose turn it is in a tuple, if the tuple has a position. -/
def NextTurn (T : List String) (st : SchedulerState) (key : String) : Prop :=
  ∀ position ∈ st.nextPositions.get? T, T[position % T.length]? = some key

/-- The nodes that the selections with this tuple chose. -/
def choices (T : List String) (run : List Turn) : List String :=
  (run.filter fun t => t.tied = T).map (·.key)

theorem turns_select (env : SchedulerEnv) (reg : Registry) (q : SelectionQuery)
    (st : SchedulerState) (rest : List SchedulerStep) :
    (∃ key st', TakesTurn env reg q st (some key) st' ∧
      turns env st (.select reg q :: rest) =
        { eligible := (openCandidates env reg q).map (·.serverPublicKey)
          tied := tiedKeys env reg q, key } :: turns env st' rest) ∨
    turns env st (.select reg q :: rest) = turns env st rest := by
  have turn := selectBestFitServerKey_takesTurn env reg q st
  rw [turns]
  generalize selectBestFitServerKey env reg q st = result at turn
  obtain ⟨_ | ⟨key, report, server⟩, st'⟩ := result
  · generalize made : SelectionOutcome.key? _ = key at turn
    cases turn with
    | refused => exact .inr rfl
    | selected => cases made
  · exact .inl ⟨key, st', turn, rfl⟩

/-- The selections with one tuple follow each other, and the first of them takes the turn
that the tuple's position says. -/
theorem turns_chain (env : SchedulerEnv) (T : List String) (steps : List SchedulerStep)
    (st : SchedulerState) :
    (choices T (turns env st steps)).IsChain (RoundRobin.Follows T) ∧
      ∀ key ∈ (choices T (turns env st steps)).head?, NextTurn T st key := by
  induction steps generalizing st with
  | nil => exact ⟨.nil, nofun⟩
  | cons step rest ih =>
    cases step with
    | setNextIndex index => exact ih { st with nextIndex := index }
    | select reg q =>
      rcases turns_select env reg q st rest with ⟨key, st', turn, run⟩ | run
      · rw [run]
        generalize made : some key = key? at turn
        cases turn with
        | refused => cases made
        | selected key' index _ here position moved =>
          cases made
          obtain ⟨chain, first⟩ := ih st'
          by_cases same : tiedKeys env reg q = T
          · subst same
            unfold choices
            rw [List.filter_cons_of_pos (by simp), List.map_cons]
            refine ⟨List.isChain_cons.mpr ⟨fun next hn => ⟨index, here, ?_⟩, chain⟩, ?_⟩
            · have turn := first next hn ((index + 1) % (tiedKeys env reg q).length)
              rw [Nat.mod_mod] at turn
              refine turn ?_
              rw [moved, OrderedDict.get?_set, if_pos rfl]
              rfl
            · rintro _ ⟨⟩ p found
              rw [← position p found]
              exact here
          · unfold choices
            rw [List.filter_cons_of_neg (by simpa using same)]
            refine ⟨chain, fun next hn p found => first next hn p ?_⟩
            rw [moved, OrderedDict.get?_set, if_neg (Ne.symm same)]
            exact found
      · rw [run]
        exact ih st

/-- Every selection chooses one of its tied nodes, and these are different. -/
theorem turn_sound (steps : List SchedulerStep) (st : SchedulerState) :
    ∀ t ∈ turns env st steps, t.tied.Nodup ∧ t.key ∈ t.tied := by
  induction steps generalizing st with
  | nil => exact nofun
  | cons step rest ih =>
    cases step with
    | setNextIndex index => exact ih { st with nextIndex := index }
    | select reg q =>
      rcases turns_select env reg q st rest with ⟨key, st', turn, run⟩ | run
      · rw [run]
        generalize made : some key = key? at turn
        cases turn with
        | refused => cases made
        | selected key' index _ here =>
          cases made
          rintro t member
          rcases List.mem_cons.mp member with rfl | member
          · exact ⟨tiedKeys_nodup, List.mem_of_getElem? here⟩
          · exact ih st' t member
      · rw [run]
        exact ih st

theorem choices_perm {T before window after : List String} {steps : List SchedulerStep}
    (split : choices T (turns env st steps) = before ++ window ++ after)
    (length : window.length = T.length) : T.Nodup ∧ window.Perm T := by
  have chain := (turns_chain env T steps st).1
  rw [split, List.append_assoc] at chain
  refine (perm_of_follows length ?_ chain.right_of_append.left_of_append).symm
  intro key chosen
  have chosen : key ∈ choices T (turns env st steps) := by
    rw [split]
    exact List.mem_append_left _ (List.mem_append_right _ chosen)
  obtain ⟨t, ht, rfl⟩ := List.mem_map.mp chosen
  obtain ⟨member, tied⟩ := List.mem_filter.mp ht
  rw [decide_eq_true_eq] at tied
  rw [← tied]
  exact turn_sound steps st t member

/-- A selection returns a node exactly when some registered node serves the request; the node
has the smallest tier and within it the least exact load, as rounding keeps the order of
loads; and in a run, as many consecutive selections among the same tied nodes as there are of
these choose each of them once. -/
theorem best_fit_selection (env : SchedulerEnv) :
    (∀ (reg : Registry) (q : SelectionQuery) (st : SchedulerState),
      ((∃ key report server, (selectBestFitServerKey env reg q st).1 =
          .selected key report server) ↔ ∃ key p caps, Serves env reg q key p caps) ∧
      ∀ key report server, (selectBestFitServerKey env reg q st).1 = .selected key report server →
        ∃ p, Serves env reg q key p server ∧
          ∀ key' p' server', Serves env reg q key' p' server' →
            server.activeContextTier.tokens ≤ server'.activeContextTier.tokens ∧
            (server'.activeContextTier = server.activeContextTier →
              exactLoad reg q key p server ≤ exactLoad reg q key' p' server')) ∧
    (∀ a m b n : Nat, 1 ≤ m ∧ m ≤ 128 → 1 ≤ n ∧ n ≤ 128 →
      (loadScore a m < loadScore b n ↔ (a : ℚ) / m < b / n) ∧
      (loadScore a m = loadScore b n ↔ (a : ℚ) / m = b / n)) ∧
    ∀ (st : SchedulerState) (steps : List SchedulerStep) (T before window after : List String),
      choices T (turns env st steps) = before ++ window ++ after → window.length = T.length →
      T.Nodup ∧ window.Perm T := by
  refine ⟨fun reg q st => ⟨exists_selected_iff, fun _ _ _ => selected_best⟩, ?_,
    fun st steps T before window after => choices_perm⟩
  intro a m b n hm hn
  refine ⟨loadScore_lt_iff hm hn, ?_⟩
  rw [le_antisymm_iff, le_antisymm_iff, loadScore_le_iff hm hn, loadScore_le_iff hn hm]

/-! ## Two nodes that share their position -/

/-- Capabilities for the given models. -/
def capabilitiesFor (models : List String) : Capabilities where
  supportedModelIds := models
  activeContextTier := .fast8k
  maximumTotalContextTokens := 8192
  defaultOutputTokenReservation := 256
  maximumOutputTokens := 1024
  maxConcurrency := 4
  backendClass := "cpu"
  context := by decide
  concurrency := by decide

/-- A node that has just been seen. -/
def freshNode (models : List String) : NodePayload where
  apiV1 := true
  lastPing := some 10
  lastPingDuration := some 60
  capabilities := some (capabilitiesFor models)

/-- Two idle nodes for both models, and one with a queue for the second model only. -/
def threeServers : Registry where
  knownServers := ((OrderedDict.empty.set "node-a" (freshNode ["small", "large"])).set "node-b"
    (freshNode ["small", "large"])).set "node-c" (freshNode ["large"])
  queueDepth := fun key => if key = "node-c" then 2 else 0

/-- One node with the flag that it has failed. -/
def failedServer : Registry where
  knownServers := OrderedDict.empty.set "node-a" { freshNode ["small"] with failed := true }
  queueDepth := fun _ => 0

def schedulerSampleEnv : SchedulerEnv where
  stripLower := id
  modelAliases := fun _ => none
  serverStaleSeconds := 60
  maxQueueDepthPerNode := 1024

/-- A request for a model. -/
def asking (model : String) : SelectionQuery where
  model := some model
  contextTier := .fast8k
  monotonic := 10
  wallClock := fun _ => 10

/-- Two selections for each model in turn. -/
def alternatingModels : List SchedulerStep :=
  [.select threeServers (asking "small"), .select threeServers (asking "large"),
    .select threeServers (asking "small"), .select threeServers (asking "large")]

/-- The first of the idle nodes serves, a load of one is below a load of two, and two
consecutive selections choose both tied nodes. -/
theorem best_fit_selection_sample :
    (∃ p caps, Serves schedulerSampleEnv threeServers (asking "large") "node-a" p caps) ∧
    loadScore 1 4 < loadScore 2 4 ∧
    ["node-a", "node-b"].Perm ["node-a", "node-b"] := by
  obtain ⟨choice, rounding, fair⟩ := best_fit_selection schedulerSampleEnv
  refine ⟨?_, ?_, ?_⟩
  · obtain ⟨-, best⟩ := choice threeServers (asking "large") {}
    have chosen : (selectBestFitServerKey schedulerSampleEnv threeServers (asking "large")
        {}).1.key? = some "node-a" := by decide +kernel
    cases made : (selectBestFitServerKey schedulerSampleEnv threeServers (asking "large") {}).1 with
    | refused =>
      rw [made] at chosen
      cases chosen
    | selected key report server =>
      rw [made] at chosen
      cases chosen
      obtain ⟨p, serves, -⟩ := best _ report server made
      exact ⟨p, server, serves⟩
  · exact (rounding 1 4 2 4 (by decide) (by decide)).1.mpr (by norm_num)
  · exact (fair {} alternatingModels ["node-a", "node-b"] [] _ ["node-a", "node-b"]
      (by decide +kernel) rfl).2

/-- A node that has failed is registered, fresh and not draining, supports the request and has
room, and is not chosen. Two eligible sets have the same two tied nodes, and two consecutive
selections from the first set choose the same node. -/
theorem failed_node_refused_and_turns_shared :
    (∃ p, failedServer.knownServers.get? "node-a" = some p ∧ p.apiV1 ∧ p.draining = false ∧
      nodeState schedulerSampleEnv p ≠ "draining" ∧
      ¬nodeIsStale schedulerSampleEnv (asking "small") "node-a" p ∧
      p.capabilities = some (capabilitiesFor ["small"]) ∧
      resolvedModel schedulerSampleEnv (asking "small").model = some "small" ∧
      activeInFlightCount (asking "small") p < (capabilitiesFor ["small"]).maxConcurrency ∧
      failedServer.queueDepth "node-a" < schedulerSampleEnv.maxQueueDepthPerNode) ∧
    (selectBestFitServerKey schedulerSampleEnv failedServer (asking "small") {}).1.key? = none ∧
    (∀ t ∈ turns schedulerSampleEnv {} alternatingModels, t.tied = ["node-a", "node-b"]) ∧
    ((turns schedulerSampleEnv {} alternatingModels).filter
      fun t => t.eligible = ["node-a", "node-b"]).map (·.key) = ["node-a", "node-a"] ∧
    ¬["node-a", "node-a"].Perm ["node-a", "node-b"] := by
  refine ⟨⟨{ freshNode ["small"] with failed := true }, rfl, ?_⟩, ?_, ?_, ?_, ?_⟩ <;>
    decide +kernel

end Relay
