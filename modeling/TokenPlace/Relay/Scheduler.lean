import TokenPlace.Lib.OrderedDict
import TokenPlace.Lib.RoundRobin

/-!
# The scheduler of the live relay

`_select_best_fit_server_key` keeps the API v1 nodes that can serve a request,
of these the ones of the smallest tier and the least load, and takes turns among
them. The turns of each tuple of nodes have their own position; the global index
only says where the turns of a new tuple start.

Capabilities are those that `_normalise_api_v1_capabilities` lets into the
registry. Times and loads are exact rationals, and `round` rounds half to even.
Other functions write only the global index, and the registry: a run is a list of
selections, each with the registry it finds, and of such writes.
-/

namespace Relay

open RoundRobin

/-! ## The registry -/

/-- The keys of `CONTEXT_TIER_ORDER`. -/
inductive ContextTier
  | fast8k
  | full64k
deriving DecidableEq, Repr

/-- `CONTEXT_TIER_ORDER`. -/
def ContextTier.tokens : ContextTier → Nat
  | .fast8k => 8192
  | .full64k => 65536

/-- Capabilities as `_normalise_api_v1_capabilities` returns them. -/
structure Capabilities where
  supportedModelIds : List String
  activeContextTier : ContextTier
  maximumTotalContextTokens : Nat
  defaultOutputTokenReservation : Nat
  maximumOutputTokens : Nat
  maxConcurrency : Nat
  backendClass : String
  context : activeContextTier.tokens ≤ maximumTotalContextTokens
  concurrency : 0 < maxConcurrency ∧ maxConcurrency ≤ 128
deriving DecidableEq

/-- What the scheduler reads of a value of `known_servers`. Absent and falsy texts are empty,
and `inFlight` has the expiry of every in-flight entry that has one. -/
structure NodePayload where
  apiV1 : Bool
  state : String := ""
  status : String := ""
  lifecycleState : String := ""
  failed : Bool := false
  recovering : Bool := false
  draining : Bool := false
  unregistering : Bool := false
  pollingUntilMonotonic : Option ℚ := none
  lastPing : Option ℚ
  lastPingDuration : Option ℚ
  inFlight : List ℚ := []
  capabilities : Option Capabilities

/-- `known_servers` and the queue lengths of `client_inference_requests`. -/
structure Registry where
  knownServers : OrderedDict String NodePayload
  queueDepth : String → Nat

/-- The settings and the text functions of the scheduler. -/
structure SchedulerEnv where
  /-- `str.strip().lower()`. -/
  stripLower : String → String
  /-- `MODEL_ALIASES`. -/
  modelAliases : String → Option String
  serverStaleSeconds : ℚ
  maxQueueDepthPerNode : Nat

/-- The arguments of a selection, with the clocks that it reads: `datetime.now()` is read
again for each node. -/
structure SelectionQuery where
  model : Option String
  contextTier : ContextTier
  monotonic : ℚ
  wallClock : String → ℚ

/-! ## Candidates -/

/-- Rounds to the nearest integer, and a half to the even one. -/
def roundHalfEven (x : ℚ) : ℤ :=
  let f := ⌊x⌋
  if x - f < 1 / 2 then f
  else if 1 / 2 < x - f then f + 1
  else if f % 2 = 0 then f else f + 1

/-- `round(x, 6)`. -/
def round6 (x : ℚ) : ℚ := roundHalfEven (x * 1000000) / 1000000

/-- `load_score`. -/
def loadScore (rawLoad maxConcurrency : Nat) : ℚ := round6 ((rawLoad : ℚ) / maxConcurrency)

section

variable (env : SchedulerEnv)

/-- `_api_v1_node_state`. -/
def nodeState (p : NodePayload) : String :=
  env.stripLower (if p.state ≠ "" then p.state else if p.status ≠ "" then p.status
    else p.lifecycleState)

/-- `_api_v1_node_has_ineligible_flag`. -/
def hasIneligibleFlag (p : NodePayload) : Bool :=
  p.failed || p.recovering || p.draining || p.unregistering

/-- The states in which a node is not scheduled. -/
def ineligibleStates : List String := ["failed", "recovering", "draining", "unregistering"]

/-- `_api_v1_node_is_stale`. A node without a ping is infinitely old. -/
def nodeIsStale (q : SelectionQuery) (key : String) (p : NodePayload) : Bool :=
  if p.pollingUntilMonotonic.any fun until_ => q.monotonic < until_ then false
  else
    match p.lastPing with
    | none => true
    | some ping =>
      max (p.lastPingDuration.getD env.serverStaleSeconds) 1 < max (q.wallClock key - ping) 0

/-- `_api_v1_active_in_flight_count`. -/
def activeInFlightCount (q : SelectionQuery) (p : NodePayload) : Nat :=
  p.inFlight.countP fun expires => q.monotonic < expires

/-- A candidate of the selection. -/
structure NodeCandidate where
  serverPublicKey : String
  selectedServer : Capabilities
  registrationIndex : Nat
  queueDepth : Nat
  inFlightCount : Nat
  capacityLimited : Bool

/-- `tier_tokens` of a candidate. -/
def NodeCandidate.tierTokens (c : NodeCandidate) : Nat := c.selectedServer.activeContextTier.tokens

/-- `load_score` of a candidate. -/
def NodeCandidate.loadScore (c : NodeCandidate) : ℚ :=
  Relay.loadScore (c.queueDepth + c.inFlightCount) c.selectedServer.maxConcurrency

/-- The model that the nodes are asked for. -/
def resolvedModel (model : Option String) : Option String :=
  match model with
  | none => none
  | some m =>
    let stripped := env.stripLower m
    if stripped = "" then none else some ((env.modelAliases stripped).getD stripped)

/-- `_api_v1_scheduler_candidate`, with the capacity limited candidates. -/
def schedulerCandidate (reg : Registry) (q : SelectionQuery) (key : String) (p : NodePayload)
    (index : Nat) : Option NodeCandidate :=
  if !p.apiV1 then none
  else if nodeState env p ∈ ineligibleStates ∨ hasIneligibleFlag p then none
  else if nodeIsStale env q key p then none
  else
    match p.capabilities with
    | none => none
    | some caps =>
      if caps.activeContextTier.tokens < q.contextTier.tokens then none
      else if caps.supportedModelIds = [] then none
      else if (resolvedModel env q.model).any fun m => !caps.supportedModelIds.contains m then none
      else if caps.maximumTotalContextTokens < caps.activeContextTier.tokens then none
      else
        some
          { serverPublicKey := key
            selectedServer := caps
            registrationIndex := index
            queueDepth := reg.queueDepth key
            inFlightCount := activeInFlightCount q p
            capacityLimited := caps.maxConcurrency ≤ activeInFlightCount q p ||
              env.maxQueueDepthPerNode ≤ reg.queueDepth key }

/-- `_api_v1_round_robin_keys`, with the payloads. -/
def roundRobinServers (reg : Registry) : List (String × NodePayload) :=
  reg.knownServers.entries.filter fun e => e.2.apiV1

/-- The candidates of the loop over the API v1 nodes, in the order of registration. -/
def allCandidates (reg : Registry) (q : SelectionQuery) : List NodeCandidate :=
  (roundRobinServers reg).zipIdx.filterMap fun e =>
    schedulerCandidate env reg q e.1.1 e.1.2 e.2

/-- The candidates with room. -/
def openCandidates (reg : Registry) (q : SelectionQuery) : List NodeCandidate :=
  (allCandidates env reg q).filter fun c => !c.capacityLimited

end

/-! ## The choice -/

/-- The candidates of the smallest tier and the least load score. -/
def loadCandidates (candidates : List NodeCandidate) : List NodeCandidate :=
  let tier := candidates.filter fun c =>
    c.tierTokens = ((candidates.map (·.tierTokens)).min?).getD 0
  tier.filter fun c => c.loadScore = ((tier.map (·.loadScore)).min?).getD 0

/-- `server_round_robin_next_index` and `api_v1_filtered_round_robin_next_positions`. -/
structure SchedulerState where
  nextIndex : Nat := 0
  nextPositions : OrderedDict (List String) Nat := .empty

/-- `min(range(...), key=...)`. -/
def firstLeast (f : Nat → Nat) : List Nat → Option Nat
  | [] => none
  | i :: rest =>
    match firstLeast f rest with
    | none => some i
    | some j => if f i ≤ f j then some i else some j

/-- `selected_load_index`. -/
def selectedLoadIndex (st : SchedulerState) (count : Nat) (candidates : List NodeCandidate) : Nat :=
  match st.nextPositions.get? (candidates.map (·.serverPublicKey)) with
  | some position => position % candidates.length
  | none =>
    let current := st.nextIndex % count
    let distance := fun i =>
      ((candidates[i]?.map (·.registrationIndex)).getD 0 + count - current) % count
    (firstLeast distance (List.range candidates.length)).getD 0

/-- How many candidates there are of each tier. -/
def tierCounts (candidates : List NodeCandidate) : OrderedDict ContextTier Nat :=
  candidates.foldl (fun counts c =>
    counts.set c.selectedServer.activeContextTier
      ((counts.get? c.selectedServer.activeContextTier).getD 0 + 1)) .empty

/-- `API_V1_SELECTION_POLICY`. -/
def selectionPolicy : String := "best_fit_smallest_capable_least_loaded_v1"

/-- The diagnostics of a refusal. -/
structure RefusalReport where
  eligibleCount : Nat := 0
  requestedModel : Option String
  eligibleTierCounts : OrderedDict ContextTier Nat
  capacityLimitedTierCounts : OrderedDict ContextTier Nat
  registeredApiV1Count : Nat
  roundRobinIndex : Nat
  policy : String := selectionPolicy
  capacityLimitedNodeCount : Nat

/-- The diagnostics of a selection. -/
structure SelectionReport where
  eligibleCount : Nat
  requestedModel : Option String
  eligibleTierCounts : OrderedDict ContextTier Nat
  capacityLimitedTierCounts : OrderedDict ContextTier Nat
  roundRobinIndex : Nat
  roundRobinPosition : Nat
  policy : String := selectionPolicy
  selectedQueueDepth : Nat
  selectedInFlightCount : Nat
  selectedLoadScore : ℚ
  spillover : Bool
  spilloverReason : Option String

/-- What `_select_best_fit_server_key` returns. -/
inductive SelectionOutcome
  | refused (report : RefusalReport)
  | selected (key : String) (report : SelectionReport) (server : Capabilities)

/-- `_select_best_fit_server_key`. -/
def selectBestFitServerKey (env : SchedulerEnv) (reg : Registry) (q : SelectionQuery)
    (st : SchedulerState) : SelectionOutcome × SchedulerState :=
  let count := (roundRobinServers reg).length
  let limited := (allCandidates env reg q).filter fun c => c.capacityLimited
  let candidates := openCandidates env reg q
  let tied := loadCandidates candidates
  let index := selectedLoadIndex st count tied
  match tied[index]? with
  | none =>
    -- only without candidates, and then no tier is counted among the eligible ones
    (.refused
      { requestedModel := resolvedModel env q.model
        eligibleTierCounts := tierCounts limited
        capacityLimitedTierCounts := tierCounts limited
        registeredApiV1Count := count
        roundRobinIndex := st.nextIndex % count
        capacityLimitedNodeCount := limited.length }, st)
  | some selected =>
    let next := (selected.registrationIndex + 1) % count
    let spillover := decide (q.contextTier.tokens < selected.tierTokens)
    (.selected selected.serverPublicKey
      { eligibleCount := candidates.length
        requestedModel := resolvedModel env q.model
        eligibleTierCounts := tierCounts candidates
        capacityLimitedTierCounts := tierCounts limited
        roundRobinIndex := next
        roundRobinPosition := index
        selectedQueueDepth := selected.queueDepth
        selectedInFlightCount := selected.inFlightCount
        selectedLoadScore := selected.loadScore
        spillover
        spilloverReason := if spillover then some "no_smaller_eligible_node_available" else none }
      selected.selectedServer,
      { nextIndex := next
        nextPositions := st.nextPositions.set (tied.map (·.serverPublicKey))
          ((index + 1) % tied.length) })

/-! ## Runs -/

/-- A selection with the registry that it finds, or a write of the global index by another
function. -/
inductive SchedulerStep
  | select (reg : Registry) (q : SelectionQuery)
  | setNextIndex (index : Nat)

/-- What a selection chose from: its eligible nodes and the tied ones among them. -/
structure Turn where
  eligible : List String
  tied : List String
  key : String
deriving DecidableEq

/-- The selections of a run. -/
def turns (env : SchedulerEnv) : SchedulerState → List SchedulerStep → List Turn
  | _, [] => []
  | st, .setNextIndex index :: rest => turns env { st with nextIndex := index } rest
  | st, .select reg q :: rest =>
    let candidates := openCandidates env reg q
    match selectBestFitServerKey env reg q st with
    | (.refused _, st') => turns env st' rest
    | (.selected key _ _, st') =>
      { eligible := candidates.map (·.serverPublicKey)
        tied := (loadCandidates candidates).map (·.serverPublicKey)
        key } :: turns env st' rest

end Relay
