import TokenPlace.Api.Accounting

/-!
# The requests that the control-plane limiter admits

`_enforce_control_plane_rate_limit` runs before each POST of a control-plane route and
checks the client-IP bucket of that route, and an identity bucket for some requests. Here
the requests of one client come one after another. `checkControlPlaneLimits` is a call of
`_check_control_plane_limits` that no other call interrupts.
-/

namespace ControlPlane

variable {env : Env} {route : String} {now : ℚ} {b : Bucket} {counters : Counters}

/-! ## One call -/

/-- The first loop: the hits that are planned, or the verdict of the first test that
fails. -/
def testAll (env : Env) (route : String) (now : ℚ) (counters : Counters) :
    List Check → List Hit → Except Verdict (List Hit)
  | [], planned => .ok planned
  | check :: checks, planned =>
    let planning : Hit := ⟨check.bucketKind, check.bucket env route⟩
    if test planning.bucket counters then
      testAll env route now counters checks (planned ++ [planning])
    else .error (.reject env now planning)

/-- `_rollback_control_plane_hits`, on hits that are reversed already. -/
def rollbackHits (env : Env) : List Hit → Counters → Counters
  | [], counters => counters
  | h :: hits, counters => rollbackHits env hits (storageDecr env h.bucket counters)

/-- The second loop. -/
def hitAll (env : Env) (now : ℚ) : List Hit → List Hit → Counters → Verdict × Counters
  | [], _, counters => (.pass, counters)
  | h :: hits, recorded, counters =>
    if (hit h.bucket counters).1 then
      hitAll env now hits (recorded ++ [h]) (hit h.bucket counters).2
    else
      (.reject env now h, rollbackHits env (recorded ++ [h]).reverse (hit h.bucket counters).2)

/-- `_check_control_plane_limits`. -/
def checkControlPlaneLimits (env : Env) (route : String) (now : ℚ) (checks : List Check)
    (counters : Counters) : Verdict × Counters :=
  match testAll env route now counters checks [] with
  | .error verdict => (verdict, counters)
  | .ok planned => hitAll env now (orderedHits planned) [] counters

/-! ## The steps of the call -/

/-- A stage and the counters after some steps that no other call interrupts. -/
inductive Uninterrupted (env : Env) (route : String) (now : ℚ) :
    Stage × Counters → Stage × Counters → Prop
  | refl (x) : Uninterrupted env route now x x
  | step {x y} (rest : Uninterrupted env route now (x.1.advance env route now x.2) y) :
    Uninterrupted env route now x y

theorem rollbackHits_steps (hits : List Hit) (verdict : Verdict) (counters : Counters) :
    Uninterrupted env route now (.rollingBack hits verdict, counters)
      (.returned verdict, rollbackHits env hits counters) := by
  induction hits generalizing counters with
  | nil => exact .step (.refl _)
  | cons h hits ih => exact .step (ih _)

theorem hitAll_steps (hits recorded : List Hit) (counters : Counters) :
    Uninterrupted env route now (.hitting hits recorded, counters)
      (.returned (hitAll env now hits recorded counters).1,
        (hitAll env now hits recorded counters).2) := by
  induction hits generalizing recorded counters with
  | nil => exact .step (.refl _)
  | cons h hits ih =>
    refine .step ?_
    simp only [Stage.advance, hitAll]
    split
    · exact ih _ _
    · exact rollbackHits_steps _ _ _

theorem testAll_steps (env : Env) (route : String) (now : ℚ) (checks : List Check)
    (planned : List Hit) (counters : Counters) :
    match testAll env route now counters checks planned with
    | .error verdict =>
      Uninterrupted env route now (.testing checks planned, counters) (.returned verdict, counters)
    | .ok planned' =>
      ∀ y, Uninterrupted env route now (.hitting (orderedHits planned') [], counters) y →
        Uninterrupted env route now (.testing checks planned, counters) y := by
  induction checks generalizing planned with
  | nil => exact fun y rest => .step rest
  | cons check checks ih =>
    cases passes : test (check.bucket env route) counters with
    | true =>
      have rest := ih (planned ++ [⟨check.bucketKind, check.bucket env route⟩])
      simp only [testAll, passes, if_true]
      split
      · next verdict failed =>
        rw [failed] at rest
        refine .step ?_
        simpa only [Stage.advance, passes, if_true] using rest
      · next planned' tested =>
        rw [tested] at rest
        refine fun y hitting => .step ?_
        simpa only [Stage.advance, passes, if_true] using rest y hitting
    | false =>
      simp only [testAll, passes, Bool.false_eq_true, if_false]
      refine .step ?_
      simp only [Stage.advance, passes, Bool.false_eq_true, if_false]
      exact .refl _

/-- A call that is not interrupted returns what `checkControlPlaneLimits` says. -/
theorem checkControlPlaneLimits_steps (checks : List Check) (counters : Counters) :
    Uninterrupted env route now ((CheckCall.made route checks).stage, counters)
      (.returned (checkControlPlaneLimits env route now checks counters).1,
        (checkControlPlaneLimits env route now checks counters).2) := by
  have tested := testAll_steps env route now checks [] counters
  unfold checkControlPlaneLimits
  split
  · next verdict failed =>
    rw [failed] at tested
    exact tested
  · next planned ok =>
    rw [ok] at tested
    exact tested _ (hitAll_steps _ _ _)

/-! ## What a call leaves in a counter -/

theorem le_storageDecr (env : Env) (b b' : Bucket) (counters : Counters) :
    counters b - (if b' = b then 1 else 0) ≤ storageDecr env b' counters b := by
  cases decrements : env.storageDecrements with
  | false =>
    simp only [storageDecr, decrements, Bool.false_eq_true, if_false]
    exact Nat.sub_le _ _
  | true =>
    simp only [storageDecr, decrements, if_true, update_bucket]
    split
    · next same => rw [same]
    · exact Nat.sub_le _ _

theorem le_rollbackHits (env : Env) (b : Bucket) (hits : List Hit) (counters : Counters) :
    counters b - hitsOn b hits ≤ rollbackHits env hits counters b := by
  induction hits generalizing counters with
  | nil => exact Nat.le_refl _
  | cons h hits ih =>
    have one := le_storageDecr env b h.bucket counters
    have rest := ih (storageDecr env h.bucket counters)
    rw [hitsOn_cons, rollbackHits]
    omega

/-- A rejected call takes back no more than its own hits, and one that passes has hit every
bucket within its limit. -/
theorem hitAll_counts (env : Env) (now : ℚ) (b : Bucket) (hits recorded : List Hit)
    (counters : Counters)
    (held : hitsOn b recorded ≤ counters b) :
    counters b - hitsOn b recorded ≤ (hitAll env now hits recorded counters).2 b ∧
      ((hitAll env now hits recorded counters).1.allowed = true →
        (hitAll env now hits recorded counters).2 b = counters b + hitsOn b hits ∧
          (0 < hitsOn b hits →
            (hitAll env now hits recorded counters).2 b ≤ b.limitItem.amount)) := by
  induction hits generalizing recorded counters with
  | nil => simp [hitAll]
  | cons h hits ih =>
    have grown : (hit h.bucket counters).2 b = counters b + if h.bucket = b then 1 else 0 := by
      simp only [hit, update_bucket]
      split
      · next same => rw [same]
      · rfl
    simp only [hitAll]
    split
    · next succeeds =>
      have room : h.bucket = b → counters b + 1 ≤ b.limitItem.amount := by
        rintro rfl
        simpa [hit] using succeeds
      have rest := ih (recorded ++ [h]) (hit h.bucket counters).2
        (by rw [grown, hitsOn_append, hitsOn_cons, hitsOn_nil]; omega)
      rw [grown, hitsOn_append, hitsOn_cons, hitsOn_nil] at rest
      refine ⟨by omega, fun allowed => ?_⟩
      obtain ⟨counted, within⟩ := rest.2 allowed
      rw [hitsOn_cons]
      refine ⟨by omega, fun some_ => ?_⟩
      by_cases more : 0 < hitsOn b hits
      · exact within more
      · have same : h.bucket = b := by
          by_contra other
          rw [if_neg other] at some_
          omega
        rw [counted, if_pos same]
        have := room same
        omega
    · refine ⟨?_, by rintro ⟨⟩⟩
      have kept := le_rollbackHits env b (recorded ++ [h]).reverse
        (hit h.bucket counters).2
      rw [grown, hitsOn_reverse, hitsOn_append, hitsOn_cons, hitsOn_nil] at kept
      show counters b - hitsOn b recorded ≤ rollbackHits env _ _ b
      omega

theorem testAll_planned {checks : List Check} {planned planned' : List Hit}
    (tested : testAll env route now counters checks planned = .ok planned') :
    hitsOn b planned' =
      hitsOn b planned + (checks.map (Check.bucket env route)).count b := by
  induction checks generalizing planned with
  | nil =>
    cases tested
    simp
  | cons check checks ih =>
    simp only [testAll] at tested
    split at tested
    · rw [ih tested, hitsOn_append, hitsOn_cons, hitsOn_nil, List.map_cons, List.count_cons]
      simp only [beq_iff_eq]
      omega
    · cases tested

theorem testAll_error {checks : List Check} {planned : List Hit} {verdict : Verdict}
    (failed : testAll env route now counters checks planned = .error verdict) :
    verdict.allowed = false := by
  induction checks generalizing planned with
  | nil => cases failed
  | cons check checks ih =>
    simp only [testAll] at failed
    split at failed
    · exact ih failed
    · cases failed
      rfl

/-- No call lowers a counter, and one that is allowed leaves every bucket that it asks for
one higher and within its limit. -/
theorem checkControlPlaneLimits_counts (checks : List Check) (counters : Counters) :
    counters b ≤ (checkControlPlaneLimits env route now checks counters).2 b ∧
      ((checkControlPlaneLimits env route now checks counters).1.allowed = true →
        b ∈ checks.map (Check.bucket env route) →
        counters b + 1 ≤ (checkControlPlaneLimits env route now checks counters).2 b ∧
          (checkControlPlaneLimits env route now checks counters).2 b ≤ b.limitItem.amount) := by
  unfold checkControlPlaneLimits
  split
  · next verdict failed =>
    refine ⟨Nat.le_refl _, fun allowed => ?_⟩
    rw [testAll_error failed] at allowed
    cases allowed
  · next planned tested =>
    have counts := hitAll_counts env now b (orderedHits planned) [] counters (Nat.zero_le _)
    refine ⟨counts.1, fun allowed asked => ?_⟩
    obtain ⟨counted, within⟩ := counts.2 allowed
    have positive : 0 < hitsOn b (orderedHits planned) := by
      rw [hitsOn_orderedHits, testAll_planned tested]
      have := List.count_pos_iff.mpr asked
      omega
    exact ⟨by rw [counted]; omega, within positive⟩

/-! ## Requests -/

/-- The keys of `CONTROL_PLANE_ROUTE_LIMIT_ENVS`. -/
inductive ControlPlaneRoute
  | register
  | unregister
  | poll
  | control
  | responses
  | progress
deriving DecidableEq

/-- The normalized path of a route. -/
def ControlPlaneRoute.path : ControlPlaneRoute → String
  | .register => "/api/v1/relay/servers/register"
  | .unregister => "/api/v1/relay/servers/unregister"
  | .poll => "/api/v1/relay/servers/poll"
  | .control => "/api/v1/relay/servers/control"
  | .responses => "/api/v1/relay/responses"
  | .progress => "/api/v1/relay/progress"

/-- What `_control_plane_limits_from_env` returns: every route has the limit of
`API_RELAY_CONTROL_PLANE_IP_RATE_LIMIT` for its client-IP bucket. -/
structure RouteLimits where
  ip : RateLimitItem
  identity : ControlPlaneRoute → RateLimitItem

/-- A POST to a control-plane route: whether a progress body is longer than 16 KiB, what
`_response_envelope_identity_for_rate_limit`, `_control_server_owner_identity` and the
stripped `server_public_key` field give, and whether it carries a configured relay token. -/
structure ControlRequest where
  route : ControlPlaneRoute
  time : ℚ
  tooLarge : Bool
  responseClient : Option String
  serverOwner : Option String
  serverPublicKey : Option String
  tokenMatches : Bool
deriving DecidableEq

/-- `_control_plane_identity_for_request`. -/
def controlPlaneIdentityForRequest (request : ControlRequest) : Identity :=
  match request.route with
  | .responses => (request.responseClient.map .clientPublicKey).getD .clientIp
  | .control | .unregister | .progress =>
    (request.serverOwner.map .serverPublicKey).getD .clientIp
  | .register | .poll => (request.serverPublicKey.map .serverPublicKey).getD .clientIp

/-- The `checks` of a request. -/
def ControlRequest.checks (limits : RouteLimits) (remoteAddress : String)
    (request : ControlRequest) : List Check :=
  let identity := controlPlaneIdentityForRequest request
  let described := identity.described remoteAddress
  enforcedChecks remoteAddress identity
    (request.tokenMatches ||
      ((decide (request.route = .control) || decide (request.route = .progress)) &&
        decide (described.1 ≠ "client_ip") && decide (described.2 ≠ remoteAddress)))
    limits.ip (limits.identity request.route)

/-- The response of the hook when it does not return `None`. -/
inductive Refusal
  | tooLarge
  | rateLimited (verdict : Verdict)
deriving DecidableEq

/-- `_enforce_control_plane_rate_limit`. -/
def enforceControlPlaneRateLimit (env : Env) (limits : RouteLimits) (remoteAddress : String)
    (request : ControlRequest) (counters : Counters) : Option Refusal × Counters :=
  if request.route = .progress ∧ request.tooLarge then (some .tooLarge, counters)
  else
    let (verdict, counters) := checkControlPlaneLimits env request.route.path request.time
      (request.checks limits remoteAddress) counters
    (if verdict.allowed then none else some (.rateLimited verdict), counters)

/-- How many requests of one client the hook admits, one after another in one window. -/
def admitted (env : Env) (limits : RouteLimits) (remoteAddress : String) :
    List ControlRequest → Counters → Nat
  | [], _ => 0
  | request :: requests, counters =>
    let (refusal, counters) :=
      enforceControlPlaneRateLimit env limits remoteAddress request counters
    (if refusal = none then 1 else 0) + admitted env limits remoteAddress requests counters

/-! ## The client-IP bucket of a route -/

variable (env) (limits : RouteLimits) (remoteAddress : String)

/-- The client-IP bucket of a route. -/
def clientIpBucket (route : ControlPlaneRoute) : Bucket :=
  ⟨limits.ip, controlPlaneBucketIdentifier env route.path "client_ip" remoteAddress⟩

theorem clientIpBucket_mem (request : ControlRequest) :
    clientIpBucket env limits remoteAddress request.route ∈
      (request.checks limits remoteAddress).map (Check.bucket env request.route.path) := by
  simp only [ControlRequest.checks, enforcedChecks, List.map_cons]
  exact List.mem_cons_self

theorem enforced_counts (request : ControlRequest) (counters : Counters) :
    (∀ b, counters b ≤
      (enforceControlPlaneRateLimit env limits remoteAddress request counters).2 b) ∧
    ((enforceControlPlaneRateLimit env limits remoteAddress request counters).1 = none →
      let ip := clientIpBucket env limits remoteAddress request.route
      counters ip + 1 ≤
          (enforceControlPlaneRateLimit env limits remoteAddress request counters).2 ip ∧
        (enforceControlPlaneRateLimit env limits remoteAddress request counters).2 ip ≤
          limits.ip.amount) := by
  unfold enforceControlPlaneRateLimit
  split
  · exact ⟨fun b => Nat.le_refl _, nofun⟩
  · refine ⟨fun b => (checkControlPlaneLimits_counts _ counters).1, fun passes => ?_⟩
    refine (checkControlPlaneLimits_counts _ counters).2 ?_
      (clientIpBucket_mem env limits remoteAddress request)
    by_contra refused
    simp [refused] at passes

theorem admitted_one_route (route : ControlPlaneRoute) (requests : List ControlRequest)
    (same : ∀ r ∈ requests, r.route = route) (counters : Counters) :
    admitted env limits remoteAddress requests counters = 0 ∨
      counters (clientIpBucket env limits remoteAddress route) +
        admitted env limits remoteAddress requests counters ≤ limits.ip.amount := by
  induction requests generalizing counters with
  | nil => exact .inl rfl
  | cons request requests ih =>
    have counts := enforced_counts env limits remoteAddress request counters
    have rest := ih (fun r member => same r (List.mem_cons_of_mem _ member))
      (enforceControlPlaneRateLimit env limits remoteAddress request counters).2
    simp only [admitted]
    rw [same request List.mem_cons_self] at counts
    split
    · next passes =>
      obtain ⟨grown, within⟩ := counts.2 passes
      omega
    · have kept := counts.1 (clientIpBucket env limits remoteAddress route)
      omega

theorem admitted_no_limit (zero : limits.ip.amount = 0) (requests : List ControlRequest)
    (counters : Counters) : admitted env limits remoteAddress requests counters = 0 := by
  induction requests generalizing counters with
  | nil => rfl
  | cons request requests ih =>
    have counts := enforced_counts env limits remoteAddress request counters
    simp only [admitted, ih]
    split
    · next passes =>
      obtain ⟨grown, within⟩ := counts.2 passes
      omega
    · rfl

/-! ## Several routes -/

/-- A request without an identity or a token. -/
def anonymousRequest (route : ControlPlaneRoute) : ControlRequest :=
  ⟨route, 0, false, none, none, none, false⟩

theorem anonymousRequest_checks (route : ControlPlaneRoute) :
    (anonymousRequest route).checks limits remoteAddress =
      [⟨"client_ip", remoteAddress, limits.ip⟩] := by
  cases route <;>
    simp [ControlRequest.checks, anonymousRequest, controlPlaneIdentityForRequest, enforcedChecks,
      Identity.described]

theorem anonymousRequest_enforced (route : ControlPlaneRoute) (counters : Counters)
    (room : counters (clientIpBucket env limits remoteAddress route) < limits.ip.amount) :
    enforceControlPlaneRateLimit env limits remoteAddress (anonymousRequest route) counters =
      (none, Function.update counters (clientIpBucket env limits remoteAddress route)
        (counters (clientIpBucket env limits remoteAddress route) + 1)) := by
  have bucket : Check.bucket env route.path ⟨"client_ip", remoteAddress, limits.ip⟩ =
      clientIpBucket env limits remoteAddress route := rfl
  have passes : test (clientIpBucket env limits remoteAddress route) counters = true :=
    decide_eq_true room
  have hits : hit (clientIpBucket env limits remoteAddress route) counters =
      (true, Function.update counters (clientIpBucket env limits remoteAddress route)
        (counters (clientIpBucket env limits remoteAddress route) + 1)) := by
    simp only [hit, Prod.mk.injEq, and_true]
    exact decide_eq_true room
  simp only [enforceControlPlaneRateLimit, anonymousRequest_checks]
  simp [anonymousRequest, checkControlPlaneLimits, testAll, bucket, passes, orderedHits, hitAll,
    hits, Verdict.pass]

theorem clientIpBucket_ne {route route' : ControlPlaneRoute} (other : route ≠ route') :
    clientIpBucket env limits remoteAddress route ≠
      clientIpBucket env limits remoteAddress route' := by
  intro same
  simp only [clientIpBucket, controlPlaneBucketIdentifier, Bucket.mk.injEq, Identifiers.mk.injEq,
    true_and, and_true] at same
  cases route <;> cases route' <;> first | exact other rfl | exact absurd same (by decide)

theorem admitted_anonymous (route : ControlPlaneRoute) (n : Nat) (requests : List ControlRequest)
    (counters : Counters)
    (room : counters (clientIpBucket env limits remoteAddress route) + n ≤ limits.ip.amount) :
    ∃ counters', (∀ b, b ≠ clientIpBucket env limits remoteAddress route →
        counters' b = counters b) ∧
      admitted env limits remoteAddress (List.replicate n (anonymousRequest route) ++ requests)
        counters = n + admitted env limits remoteAddress requests counters' := by
  induction n generalizing counters with
  | zero => exact ⟨counters, fun _ _ => rfl, by simp⟩
  | succ n ih =>
    have first := anonymousRequest_enforced env limits remoteAddress route counters (by omega)
    obtain ⟨counters', others, rest⟩ := ih (Function.update counters
      (clientIpBucket env limits remoteAddress route)
      (counters (clientIpBucket env limits remoteAddress route) + 1))
      (by rw [Function.update_self]; omega)
    refine ⟨counters', fun b other => ?_, ?_⟩
    · rw [others b other, Function.update_of_ne other]
    · rw [List.replicate_succ, List.cons_append, admitted, first]
      simp only [if_true, rest]
      omega

/-- The aggregate limit holds for every sequence over a mix of routes exactly when the mix
is a single route or the limit is 0. -/
theorem aggregate_ip_budget (env : Env) (limits : RouteLimits) (remoteAddress : String)
    (routes : List ControlPlaneRoute) :
    (∀ (counters : Counters) (requests : List ControlRequest),
      (∀ r ∈ requests, r.route ∈ routes) →
        admitted env limits remoteAddress requests counters ≤ limits.ip.amount) ↔
      limits.ip.amount = 0 ∨ ∀ route ∈ routes, ∀ route' ∈ routes, route = route' := by
  constructor
  · intro bounded
    by_contra several
    push Not at several
    obtain ⟨positive, route, member, route', member', other⟩ := several
    -- one route uses up the limit, and the other one still has all of it
    obtain ⟨counters, others, count⟩ := admitted_anonymous env limits remoteAddress route
      limits.ip.amount [anonymousRequest route'] (fun _ => 0) (by omega)
    have untouched : counters (clientIpBucket env limits remoteAddress route') = 0 :=
      others _ (clientIpBucket_ne env limits remoteAddress (Ne.symm other))
    have last := anonymousRequest_enforced env limits remoteAddress route' counters (by omega)
    have all := bounded (fun _ => 0)
      (List.replicate limits.ip.amount (anonymousRequest route) ++ [anonymousRequest route'])
      (by
        intro r mem
        obtain many | one := List.mem_append.mp mem
        · rw [List.eq_of_mem_replicate many]
          exact member
        · rw [List.mem_singleton.mp one]
          exact member')
    rw [count, admitted, last] at all
    simp only [if_true, admitted] at all
    omega
  · rintro (zero | single) counters requests onRoutes
    · rw [admitted_no_limit env limits remoteAddress zero]
      exact Nat.zero_le _
    · cases requests with
      | nil => exact Nat.zero_le _
      | cons request requests =>
        have same : ∀ r ∈ request :: requests, r.route = request.route := fun r member =>
          single _ (onRoutes r member) _ (onRoutes request List.mem_cons_self)
        have bound := admitted_one_route env limits remoteAddress request.route _ same counters
        omega

/-- A limit of one request an hour, on every route. -/
def oneAnHour : RouteLimits := ⟨⟨1, 1, "hour"⟩, fun _ => ⟨1, 1, "hour"⟩⟩

/-- A client that registers and polls has both requests admitted. -/
theorem aggregate_ip_budget_exceeded :
    ¬ admitted sampleEnv oneAnHour "192.0.2.10"
        [anonymousRequest .register, anonymousRequest .poll] (fun _ => 0) ≤
      oneAnHour.ip.amount := by
  decide +kernel

end ControlPlane
