import TokenPlace.Node.Registration

/-!
# One call of `unregister_from_relay`

The call goes through the registered relays, the configured ones first. A relay that answers
200, on the API route or after a 404 on the legacy one, is taken out of the evidence at once.
The deadline may run out before a relay, before a request or between the two requests, and
any request may be answered with any status or raise.
-/

namespace ComputeNode

/-! ## Requests -/

/-- How a `requests.post` ends. -/
inductive HttpOutcome
  | status (code : Nat)
  | raised (excType : String)
deriving DecidableEq

/-- The two unregister routes. -/
inductive UnregisterRoute
  | api
  | legacy
deriving DecidableEq

/-- A request that was sent for a relay. -/
structure UnregisterPost where
  route : UnregisterRoute
  url : String
  address : String
  timeout : ℚ
  outcome : HttpOutcome
deriving DecidableEq

/-- `url.rstrip("/")`. -/
def rstripSlashes (url : String) : String :=
  String.ofList (url.toList.rdropWhile (· = '/'))

/-- `_build_api_v1_url` on the unregister route. -/
def unregisterUrl (url : String) : String :=
  let base := rstripSlashes url
  if base.endsWith "/api/v1" then base ++ "/relay/servers/unregister"
  else base ++ "/api/v1/relay/servers/unregister"

/-- The `legacy_url` of a relay. -/
def legacyUnregisterUrl (url : String) : String :=
  let base := rstripSlashes url
  (if base.endsWith "/api/v1" then String.ofList (base.toList.rdrop 7) else base) ++
    "/unregister"

/-- `_remaining_unregister_timeout`. -/
def remainingUnregisterTimeout (requestTimeout : ℚ) (deadline : Option ℚ) (now : ℚ) : Option ℚ :=
  match deadline with
  | none => some requestTimeout
  | some deadline =>
    if deadline - now ≤ 1 / 20 then none
    else some (max (1 / 20) (min requestTimeout ((deadline - now) * (4 / 5))))

/-- What happens to the attempt at one relay: the clock before it and before each request,
and how each request ends. -/
structure UnregisterAttempt where
  nowBefore : ℚ
  nowApi : ℚ
  nowLegacy : ℚ
  api : HttpOutcome
  legacy : HttpOutcome

/-- A call: its deadline, whether the heartbeat thread ends and the mutations quiesce in
time, and the attempt at each relay. -/
structure UnregisterCall where
  requestTimeout : ℚ
  deadline : Option ℚ
  heartbeatStopped : Bool
  quiescent : Bool
  attempt : String → UnregisterAttempt

/-- How the body of the loop ends: with `continue` or its end, or with `break`. -/
inductive AttemptResult
  | acknowledged
  | failed
  | exhausted
deriving DecidableEq

/-- The body of the loop: the requests that it sends, and how it ends. -/
def attemptRelay (call : UnregisterCall) (credential : Option String) (url : String) :
    List UnregisterPost × AttemptResult :=
  let a := call.attempt url
  if ∃ deadline ∈ call.deadline, deadline - a.nowBefore ≤ 0 then ([], .failed)
  else if credential.getD "" = "" then ([], .failed)
  else
    match remainingUnregisterTimeout call.requestTimeout call.deadline a.nowApi with
    | none => ([], .exhausted)
    | some timeout =>
      let first : UnregisterPost := ⟨.api, url, unregisterUrl url, timeout, a.api⟩
      if a.api = .status 404 then
        match remainingUnregisterTimeout call.requestTimeout call.deadline a.nowLegacy with
        | none => ([first], .exhausted)
        | some timeout =>
          ([first, ⟨.legacy, url, legacyUnregisterUrl url, timeout, a.legacy⟩],
            if a.legacy = .status 200 then .acknowledged else .failed)
      else ([first], if a.api = .status 200 then .acknowledged else .failed)

/-! ## The client -/

/-- The registration evidence of a client: its registered relays, and what it stores for a
relay. -/
structure RegistrationEvidence where
  registeredRelays : Finset String
  controlCredentials : String → Option String
  relayCapabilities : String → Option String
  lastHeartbeatAt : String → Option ℚ
  relayWaitHints : String → Option String

/-- The fields that `unregister_from_relay` reads and writes. -/
structure UnregisterState where
  latched : Bool
  evidence : RegistrationEvidence
  activeRelayIndex : Nat
  unregisterAttempted : Bool
  unregisterComplete : Bool

/-- The evidence without that of some relays. -/
def RegistrationEvidence.without (e : RegistrationEvidence) (urls : List String) :
    RegistrationEvidence where
  registeredRelays := e.registeredRelays \ urls.toFinset
  controlCredentials url := if url ∈ urls then none else e.controlCredentials url
  relayCapabilities url := if url ∈ urls then none else e.relayCapabilities url
  lastHeartbeatAt url := if url ∈ urls then none else e.lastHeartbeatAt url
  relayWaitHints url := if url ∈ urls then none else e.relayWaitHints url

/-- The variables of the loop. -/
structure UnregisterLoop where
  evidence : RegistrationEvidence
  activeRelayIndex : Nat
  unregistered : List String
  failed : List String
  posts : List UnregisterPost

/-- The loop over `target_urls`. -/
def unregisterLoop (env : NodeEnv) (call : UnregisterCall) :
    List String → UnregisterLoop → UnregisterLoop
  | [], l => l
  | url :: rest, l =>
    match attemptRelay call (l.evidence.controlCredentials url) url with
    | (posts, .acknowledged) =>
      unregisterLoop env call rest
        { l with
          evidence := l.evidence.without [url]
          activeRelayIndex :=
            if url ∈ env.relayUrls then env.relayUrls.idxOf url else l.activeRelayIndex
          unregistered := l.unregistered ++ [url]
          posts := l.posts ++ posts }
    | (posts, .failed) =>
      unregisterLoop env call rest
        { l with failed := l.failed ++ [url], posts := l.posts ++ posts }
    | (posts, .exhausted) => { l with failed := l.failed ++ [url], posts := l.posts ++ posts }

/-- `target_urls`: the configured relays from the active one on, and the others sorted. -/
def unregisterTargets (env : NodeEnv) (s : UnregisterState) : List String :=
  let configured := (env.relayUrls.rotate s.activeRelayIndex).filter
    (· ∈ s.evidence.registeredRelays)
  configured ++ sorted (s.evidence.registeredRelays.filter (· ∉ configured))

/-- `unregister_from_relay`: its result, the client after it and the requests that it sent. -/
def unregisterFromRelay (env : NodeEnv) (call : UnregisterCall) (s : UnregisterState) :
    Bool × UnregisterState × List UnregisterPost :=
  let s := { s with latched := true }
  if !call.heartbeatStopped then (false, { s with unregisterComplete := false }, [])
  else if !call.quiescent then (false, { s with unregisterComplete := false }, [])
  else if s.unregisterAttempted && s.unregisterComplete &&
      decide (s.evidence.registeredRelays = ∅) then (true, s, [])
  else
    let s := { s with unregisterAttempted := true }
    if s.evidence.registeredRelays = ∅ then (true, { s with unregisterComplete := true }, [])
    else
      let targets := unregisterTargets env s
      let l := unregisterLoop env call targets ⟨s.evidence, s.activeRelayIndex, [], [], []⟩
      let s := { s with evidence := l.evidence, activeRelayIndex := l.activeRelayIndex }
      if l.failed ≠ [] then (false, { s with unregisterComplete := false }, l.posts)
      else
        (true,
          { s with
            unregisterComplete := true
            evidence :=
              if l.unregistered.length = targets.length then l.evidence.without l.unregistered
              else l.evidence },
          l.posts)

/-- Calls one after another, until one returns `True`. -/
def unregisterUntilDone (env : NodeEnv) :
    List UnregisterCall → UnregisterState → UnregisterState × List UnregisterPost
  | [], s => (s, [])
  | call :: calls, s =>
    match unregisterFromRelay env call s with
    | (true, s, posts) => (s, posts)
    | (false, s, posts) =>
      let (s, later) := unregisterUntilDone env calls s
      (s, posts ++ later)

/-! ## What an attempt sends -/

/-- The relays that have acknowledged a request with 200. -/
def acknowledgedRelays (posts : List UnregisterPost) : List String :=
  (posts.filter fun post => post.outcome = .status 200).map (·.url)

@[simp] theorem acknowledgedRelays_nil : acknowledgedRelays [] = [] := rfl

@[simp] theorem acknowledgedRelays_append (posts posts' : List UnregisterPost) :
    acknowledgedRelays (posts ++ posts') =
      acknowledgedRelays posts ++ acknowledgedRelays posts' := by
  simp [acknowledgedRelays]

theorem mem_acknowledgedRelays {posts : List UnregisterPost} {url : String} :
    url ∈ acknowledgedRelays posts ↔
      ∃ post ∈ posts, post.url = url ∧ post.outcome = .status 200 := by
  simp only [acknowledgedRelays, List.mem_map, List.mem_filter, decide_eq_true_eq]
  constructor
  · rintro ⟨post, ⟨member, ok⟩, same⟩
    exact ⟨post, member, same, ok⟩
  · rintro ⟨post, member, same, ok⟩
    exact ⟨post, ⟨member, ok⟩, same⟩

variable {env : NodeEnv} {call : UnregisterCall} {credential : Option String} {url : String}

/-- The requests differ in their route or their relay, and the second is not for a relay that
has acknowledged the first. -/
def UnregisterPost.Precedes (p q : UnregisterPost) : Prop :=
  (p.route, p.url) ≠ (q.route, q.url) ∧ (p.outcome = .status 200 → q.url ≠ p.url)

/-- An attempt sends at most one request on each route, and it ends as the acknowledgement
says. -/
theorem attemptRelay_spec (call : UnregisterCall) (credential : Option String) (url : String) :
    (∀ post ∈ (attemptRelay call credential url).1, post.url = url) ∧
      (attemptRelay call credential url).1.Pairwise UnregisterPost.Precedes ∧
      (acknowledgedRelays (attemptRelay call credential url).1 = [url] ∧
          (attemptRelay call credential url).2 = .acknowledged ∨
        acknowledgedRelays (attemptRelay call credential url).1 = [] ∧
          (attemptRelay call credential url).2 ≠ .acknowledged) := by
  unfold attemptRelay
  simp only
  split
  · simp
  · split
    · simp
    · split
      · simp
      · split
        · next missing =>
          split
          · simp [acknowledgedRelays, missing]
          · split
            · next ok => simp [acknowledgedRelays, missing, ok, UnregisterPost.Precedes]
            · next other => simp [acknowledgedRelays, missing, other, UnregisterPost.Precedes]
        · split
          · next ok => simp [acknowledgedRelays, ok]
          · next other => simp [acknowledgedRelays, other]

/-- The deadline, if there is one, does not run out in the call. -/
def UnregisterCall.InTime (call : UnregisterCall) : Prop :=
  ∀ deadline ∈ call.deadline, ∀ url,
    1 / 20 < deadline - (call.attempt url).nowBefore ∧
      1 / 20 < deadline - (call.attempt url).nowApi ∧
      1 / 20 < deadline - (call.attempt url).nowLegacy

theorem remainingUnregisterTimeout_ne_none {requestTimeout now : ℚ} {deadline : Option ℚ}
    (left : ∀ d ∈ deadline, 1 / 20 < d - now) :
    remainingUnregisterTimeout requestTimeout deadline now ≠ none := by
  cases deadline with
  | none => nofun
  | some d =>
    simp only [remainingUnregisterTimeout]
    rw [if_neg (not_le.mpr (left d rfl))]
    nofun

theorem attemptRelay_sends (url : String) (inTime : call.InTime)
    (stored : credential.getD "" ≠ "") :
    (∃ post ∈ (attemptRelay call credential url).1, post.url = url) ∧
      (attemptRelay call credential url).2 ≠ .exhausted := by
  unfold attemptRelay
  simp only [if_neg stored]
  split
  · next late =>
    obtain ⟨deadline, member, passed⟩ := late
    have left := (inTime deadline member url).1
    linarith
  · split
    · next missing =>
      exact absurd missing
        (remainingUnregisterTimeout_ne_none fun d member => (inTime d member url).2.1)
    · split
      · split
        · next missing =>
          exact absurd missing
            (remainingUnregisterTimeout_ne_none fun d member => (inTime d member url).2.2)
        · constructor
          · exact ⟨_, List.mem_cons_self, rfl⟩
          · split <;> nofun
      · constructor
        · exact ⟨_, List.mem_cons_self, rfl⟩
        · split <;> nofun

/-! ## The loop -/

@[simp] theorem RegistrationEvidence.without_nil (e : RegistrationEvidence) : e.without [] = e := by
  simp [RegistrationEvidence.without]

theorem RegistrationEvidence.without_append (e : RegistrationEvidence) (urls urls' : List String) :
    (e.without urls).without urls' = e.without (urls ++ urls') := by
  simp only [RegistrationEvidence.without, RegistrationEvidence.mk.injEq, List.mem_append]
  refine ⟨?_, ?_, ?_, ?_, ?_⟩
  · ext url
    simp only [Finset.mem_sdiff, List.mem_toFinset, List.mem_append, not_or, and_assoc]
  all_goals
    funext url
    by_cases first : url ∈ urls <;> by_cases second : url ∈ urls' <;> simp [first, second]

theorem idxOf_lt_of_mem {i : Nat} (inRange : i < env.relayUrls.length) (url : String) :
    (if url ∈ env.relayUrls then env.relayUrls.idxOf url else i) < env.relayUrls.length := by
  split
  · next member => exact List.idxOf_lt_length_of_mem member
  · exact inRange

/-- What the loop adds to its variables. -/
structure LoopSpec (env : NodeEnv) (targets : List String) (l l' : UnregisterLoop)
    (posts : List UnregisterPost) : Prop where
  sent : l'.posts = l.posts ++ posts
  only : ∀ post ∈ posts, post.url ∈ targets
  ordered : posts.Pairwise UnregisterPost.Precedes
  evidence : l'.evidence = l.evidence.without (acknowledgedRelays posts)
  unregistered : l'.unregistered = l.unregistered ++ acknowledgedRelays posts
  ended : l'.failed = l.failed ∧ acknowledgedRelays posts = targets ∨
    l'.failed ≠ [] ∧ ∃ url ∈ targets, url ∉ acknowledgedRelays posts
  inRange : l.activeRelayIndex < env.relayUrls.length →
    l'.activeRelayIndex < env.relayUrls.length

theorem acknowledgedRelays_subset {posts : List UnregisterPost} {targets : List String}
    (only : ∀ post ∈ posts, post.url ∈ targets) :
    ∀ url ∈ acknowledgedRelays posts, url ∈ targets := by
  intro url acknowledged
  obtain ⟨post, member, rfl⟩ := List.mem_map.mp acknowledged
  exact only post (List.mem_of_mem_filter member)

theorem precedes_append {posts posts' : List UnregisterPost} {rest : List String}
    (first : ∀ post ∈ posts, post.url = url) (here : posts.Pairwise UnregisterPost.Precedes)
    (only : ∀ post ∈ posts', post.url ∈ rest) (later : posts'.Pairwise UnregisterPost.Precedes)
    (fresh : url ∉ rest) : (posts ++ posts').Pairwise UnregisterPost.Precedes := by
  refine List.pairwise_append.mpr ⟨here, later, fun p mem q mem' => ?_⟩
  have other : q.url ≠ p.url := by
    intro same
    rw [first p mem] at same
    exact fresh (same ▸ only q mem')
  exact ⟨fun same => other (congrArg Prod.snd same).symm, fun _ => other⟩

theorem unregisterLoop_spec (env : NodeEnv) (call : UnregisterCall) (targets : List String)
    (distinct : targets.Nodup) (l : UnregisterLoop) :
    ∃ posts, LoopSpec env targets l (unregisterLoop env call targets l) posts := by
  induction targets generalizing l with
  | nil =>
    refine ⟨[], ?_⟩
    exact ⟨(List.append_nil _).symm, nofun, .nil, (RegistrationEvidence.without_nil _).symm,
      (List.append_nil _).symm, .inl ⟨rfl, rfl⟩, id⟩
  | cons url rest ih =>
    obtain ⟨fresh, distinct⟩ := List.nodup_cons.mp distinct
    have spec := attemptRelay_spec call (l.evidence.controlCredentials url) url
    simp only [unregisterLoop]
    split
    · next posts result =>
      rw [result] at spec
      obtain ⟨mine, ordered, ⟨acknowledged, _⟩ | ⟨_, other⟩⟩ := spec
      · obtain ⟨later, h⟩ := ih distinct
          { l with
            evidence := l.evidence.without [url]
            activeRelayIndex :=
              if url ∈ env.relayUrls then env.relayUrls.idxOf url else l.activeRelayIndex
            unregistered := l.unregistered ++ [url]
            posts := l.posts ++ posts }
        refine ⟨posts ++ later, ?_, ?_, precedes_append mine ordered h.only h.ordered fresh, ?_, ?_,
          ?_, fun inRange => h.inRange (idxOf_lt_of_mem inRange url)⟩
        · rw [h.sent, List.append_assoc]
        · intro post member
          obtain here | there := List.mem_append.mp member
          · rw [mine post here]
            exact List.mem_cons_self
          · exact List.mem_cons_of_mem _ (h.only post there)
        · rw [h.evidence, RegistrationEvidence.without_append, acknowledgedRelays_append,
            acknowledged]
        · rw [h.unregistered, acknowledgedRelays_append, acknowledged, List.append_assoc]
        · rw [acknowledgedRelays_append, acknowledged]
          obtain ⟨same, all⟩ | ⟨failed, other, member, missing⟩ := h.ended
          · exact .inl ⟨same, by rw [all]; rfl⟩
          · refine .inr ⟨failed, other, List.mem_cons_of_mem _ member, ?_⟩
            rintro (_ | ⟨_, there⟩)
            · exact fresh member
            · exact missing there
      · exact absurd rfl other
    · next posts result =>
      rw [result] at spec
      obtain ⟨mine, ordered, ⟨_, other⟩ | ⟨nothing, _⟩⟩ := spec
      · cases other
      · obtain ⟨later, h⟩ := ih distinct
          { l with failed := l.failed ++ [url], posts := l.posts ++ posts }
        have here : acknowledgedRelays (posts ++ later) = acknowledgedRelays later := by
          rw [acknowledgedRelays_append, nothing, List.nil_append]
        refine ⟨posts ++ later, ?_, ?_, precedes_append mine ordered h.only h.ordered fresh, ?_, ?_,
          .inr ⟨?_, url, List.mem_cons_self, ?_⟩, h.inRange⟩
        · rw [h.sent, List.append_assoc]
        · intro post member
          obtain here | there := List.mem_append.mp member
          · rw [mine post here]
            exact List.mem_cons_self
          · exact List.mem_cons_of_mem _ (h.only post there)
        · rw [h.evidence, here]
        · rw [h.unregistered, here]
        · obtain ⟨same, _⟩ | ⟨failed, _⟩ := h.ended
          · rw [same]
            simp
          · exact failed
        · rw [here]
          exact fun mem => fresh (acknowledgedRelays_subset h.only url mem)
    · next posts result =>
      rw [result] at spec
      obtain ⟨mine, ordered, ⟨_, other⟩ | ⟨nothing, _⟩⟩ := spec
      · cases other
      · refine ⟨posts, rfl, ?_, ordered, ?_, ?_, .inr ⟨by simp, url, List.mem_cons_self, ?_⟩, id⟩
        · intro post member
          rw [mine post member]
          exact List.mem_cons_self
        · rw [nothing, RegistrationEvidence.without_nil]
        · rw [nothing, List.append_nil]
        · rw [nothing]
          exact List.not_mem_nil

theorem unregisterLoop_sends (env : NodeEnv) (inTime : call.InTime)
    (targets : List String) (distinct : targets.Nodup) (l : UnregisterLoop)
    (stored : ∀ url ∈ targets, (l.evidence.controlCredentials url).getD "" ≠ "") :
    (∀ post ∈ l.posts, post ∈ (unregisterLoop env call targets l).posts) ∧
      ∀ url ∈ targets, ∃ post ∈ (unregisterLoop env call targets l).posts, post.url = url := by
  induction targets generalizing l with
  | nil => exact ⟨fun _ member => member, nofun⟩
  | cons url rest ih =>
    obtain ⟨fresh, distinct⟩ := List.nodup_cons.mp distinct
    obtain ⟨⟨post, sent, here⟩, goesOn⟩ :=
      attemptRelay_sends url inTime (stored url List.mem_cons_self)
    simp only [unregisterLoop]
    split
    · next posts result =>
      rw [result] at sent
      obtain ⟨kept, others⟩ := ih distinct
        { l with
          evidence := l.evidence.without [url]
          activeRelayIndex :=
            if url ∈ env.relayUrls then env.relayUrls.idxOf url else l.activeRelayIndex
          unregistered := l.unregistered ++ [url]
          posts := l.posts ++ posts }
        (by
          intro url' member
          have other : url' ∉ [url] := by
            rintro (_ | ⟨_, no⟩)
            · exact fresh member
            · cases no
          simp only [RegistrationEvidence.without, if_neg other]
          exact stored url' (List.mem_cons_of_mem _ member))
      refine ⟨fun p member => kept p (List.mem_append_left _ member), ?_⟩
      rintro url' (_ | ⟨_, member⟩)
      · exact ⟨post, kept post (List.mem_append_right _ sent), here⟩
      · exact others url' member
    · next posts result =>
      rw [result] at sent
      obtain ⟨kept, others⟩ := ih distinct
        { l with failed := l.failed ++ [url], posts := l.posts ++ posts }
        (fun url' member => stored url' (List.mem_cons_of_mem _ member))
      refine ⟨fun p member => kept p (List.mem_append_left _ member), ?_⟩
      rintro url' (_ | ⟨_, member⟩)
      · exact ⟨post, kept post (List.mem_append_right _ sent), here⟩
      · exact others url' member
    · next posts result =>
      rw [result] at goesOn
      exact absurd rfl goesOn

/-! ## One call -/

variable {s : UnregisterState}

theorem unregisterTargets_nodup (env : NodeEnv) (s : UnregisterState) :
    (unregisterTargets env s).Nodup := by
  refine List.nodup_append.mpr ⟨?_, Finset.sort_nodup .., fun url member url' member' => ?_⟩
  · exact (List.nodup_rotate.mpr env.distinct).filter _
  · rw [mem_sorted, Finset.mem_filter] at member'
    rintro rfl
    exact member'.2 member

@[simp] theorem mem_unregisterTargets {url : String} :
    url ∈ unregisterTargets env s ↔ url ∈ s.evidence.registeredRelays := by
  simp only [unregisterTargets, List.mem_append, mem_sorted, Finset.mem_filter,
    List.mem_filter, decide_eq_true_eq]
  constructor
  · rintro (⟨_, registered⟩ | ⟨registered, _⟩) <;> exact registered
  · intro registered
    by_cases configured : url ∈ env.relayUrls.rotate s.activeRelayIndex
    · exact .inl ⟨configured, registered⟩
    · exact .inr ⟨registered, fun both => configured both.1⟩

/-- The call is made without a concurrent mutation. -/
def UnregisterCall.Quiet (call : UnregisterCall) : Prop :=
  call.heartbeatStopped = true ∧ call.quiescent = true

/-- What one call does, whatever is answered and whenever the deadline runs out. -/
structure UnregisterSpec (env : NodeEnv) (call : UnregisterCall) (s : UnregisterState)
    (out : Bool × UnregisterState × List UnregisterPost) : Prop where
  ordered : out.2.2.Pairwise UnregisterPost.Precedes
  only : ∀ post ∈ out.2.2, post.url ∈ s.evidence.registeredRelays
  result : call.Quiet →
    (out.1 = true ↔ ∀ url ∈ s.evidence.registeredRelays, url ∈ acknowledgedRelays out.2.2)
  evidence : out.2.1.evidence = s.evidence.without (acknowledgedRelays out.2.2)
  inRange : s.activeRelayIndex < env.relayUrls.length →
    out.2.1.activeRelayIndex < env.relayUrls.length

theorem unregisterFromRelay_spec (env : NodeEnv) (call : UnregisterCall) (s : UnregisterState) :
    UnregisterSpec env call s (unregisterFromRelay env call s) := by
  have silent := (RegistrationEvidence.without_nil s.evidence).symm
  unfold unregisterFromRelay
  simp only
  split
  · next heartbeat =>
    refine ⟨.nil, nofun, fun quiet => ?_, silent, id⟩
    simp [quiet.1] at heartbeat
  · split
    · next mutations =>
      refine ⟨.nil, nofun, fun quiet => ?_, silent, id⟩
      simp [quiet.2] at mutations
    · split
      · next done =>
        simp only [Bool.and_eq_true, decide_eq_true_eq] at done
        refine ⟨.nil, nofun, fun _ => ?_, silent, id⟩
        simp [done.2]
      · split
        · next empty =>
          refine ⟨.nil, nofun, fun _ => ?_, silent, id⟩
          simp [empty]
        · obtain ⟨posts, h⟩ := unregisterLoop_spec env call
            (unregisterTargets env { s with latched := true, unregisterAttempted := true })
            (unregisterTargets_nodup env _) ⟨s.evidence, s.activeRelayIndex, [], [], []⟩
          have sent := h.sent.trans (List.nil_append posts)
          have only : ∀ post ∈ posts, post.url ∈ s.evidence.registeredRelays := fun post member =>
            mem_unregisterTargets.mp (h.only post member)
          split
          · next failed =>
            rw [sent]
            refine ⟨h.ordered, only, fun _ => ?_, h.evidence, h.inRange⟩
            obtain ⟨none_, _⟩ | ⟨_, url, member, missing⟩ := h.ended
            · exact absurd none_ failed
            · simp only [Bool.false_eq_true, false_iff]
              exact fun all => missing (all url (mem_unregisterTargets.mp member))
          · next succeeded =>
            obtain ⟨_, all⟩ | ⟨failed, _⟩ := h.ended
            · have acknowledged := h.unregistered.trans (List.nil_append _)
              rw [sent]
              refine ⟨h.ordered, only, fun _ => ?_, ?_, h.inRange⟩
              · simp [all]
              · simp only [acknowledged, all, if_true, h.evidence,
                  RegistrationEvidence.without_append]
                simp only [RegistrationEvidence.without, List.mem_append, or_self,
                  List.toFinset_append, Finset.union_idempotent]
            · exact absurd failed succeeded

theorem unregisterFromRelay_sends (quiet : call.Quiet) (inTime : call.InTime)
    (stored : ∀ url ∈ s.evidence.registeredRelays,
      (s.evidence.controlCredentials url).getD "" ≠ "") :
    ∀ url ∈ s.evidence.registeredRelays,
      ∃ post ∈ (unregisterFromRelay env call s).2.2, post.url = url := by
  intro url registered
  have some_ : s.evidence.registeredRelays ≠ ∅ := Finset.ne_empty_of_mem registered
  have sent := (unregisterLoop_sends env inTime (unregisterTargets env s)
    (unregisterTargets_nodup env s) ⟨s.evidence, s.activeRelayIndex, [], [], []⟩
    (fun url member => stored url (mem_unregisterTargets.mp member))).2 url
      (mem_unregisterTargets.mpr registered)
  unfold unregisterFromRelay
  simp only [quiet.1, quiet.2, some_, Bool.not_true, Bool.false_eq_true, if_false, decide_false,
    Bool.and_false]
  split
  · exact sent
  · exact sent

/-! ## Repeated calls -/

/-- What repeated calls have sent: nothing to a relay after its acknowledgement, and the
evidence of the acknowledged relays is gone. -/
structure RepeatSpec (env : NodeEnv) (s : UnregisterState)
    (out : UnregisterState × List UnregisterPost) : Prop where
  stops : out.2.Pairwise fun p q => p.outcome = .status 200 → q.url ≠ p.url
  only : ∀ post ∈ out.2, post.url ∈ s.evidence.registeredRelays
  evidence : out.1.evidence = s.evidence.without (acknowledgedRelays out.2)
  inRange : s.activeRelayIndex < env.relayUrls.length →
    out.1.activeRelayIndex < env.relayUrls.length

theorem unregisterUntilDone_spec (env : NodeEnv) (calls : List UnregisterCall)
    (s : UnregisterState) :
    RepeatSpec env s (unregisterUntilDone env calls s) := by
  induction calls generalizing s with
  | nil => exact ⟨.nil, nofun, (RegistrationEvidence.without_nil _).symm, id⟩
  | cons call calls ih =>
    have one := unregisterFromRelay_spec env call s
    simp only [unregisterUntilDone]
    split
    · next s' posts returned =>
      rw [returned] at one
      exact ⟨one.ordered.imp And.right, one.only, one.evidence, one.inRange⟩
    · next s' posts returned =>
      rw [returned] at one
      have rest := ih s'
      have registered : s'.evidence.registeredRelays =
          s.evidence.registeredRelays \ (acknowledgedRelays posts).toFinset :=
        congrArg RegistrationEvidence.registeredRelays one.evidence
      refine ⟨?_, ?_, ?_, fun inRange => rest.inRange (one.inRange inRange)⟩
      · refine List.pairwise_append.mpr ⟨one.ordered.imp And.right, rest.stops, ?_⟩
        -- a relay that was acknowledged in this call is not registered in the next one
        intro p member q later ok same
        have still := rest.only q later
        rw [registered, Finset.mem_sdiff, List.mem_toFinset, same] at still
        exact still.2 (mem_acknowledgedRelays.mpr ⟨p, member, rfl, ok⟩)
      · intro post member
        obtain here | there := List.mem_append.mp member
        · exact one.only post here
        · have still := rest.only post there
          rw [registered] at still
          exact (Finset.mem_sdiff.mp still).1
      · rw [rest.evidence, one.evidence, RegistrationEvidence.without_append,
          acknowledgedRelays_append]

theorem unregisterUntilDone_stored (env : NodeEnv) (calls : List UnregisterCall)
    (stored : ∀ url ∈ s.evidence.registeredRelays,
      (s.evidence.controlCredentials url).getD "" ≠ "") :
    ∀ url ∈ (unregisterUntilDone env calls s).1.evidence.registeredRelays,
      ((unregisterUntilDone env calls s).1.evidence.controlCredentials url).getD "" ≠ "" := by
  rw [(unregisterUntilDone_spec env calls s).evidence]
  intro url member
  simp only [RegistrationEvidence.without, Finset.mem_sdiff, List.mem_toFinset] at member ⊢
  rw [if_neg member.2]
  exact stored url member.1

/-- An unregistration under partial failure. Whatever every request ends with and whenever the
deadline runs out, a call sends at most one request on each route to each registered relay and
none to another, it returns `True` exactly if every registered relay has answered 200, and it
drops the evidence of exactly the relays that have. Repeated calls send nothing to a relay
after its acknowledgement, and each quiet call that is in time sends to every other one. -/
theorem unregister_partial_failure (env : NodeEnv) (call : UnregisterCall)
    (before : List UnregisterCall) (s : UnregisterState)
    (stored : ∀ url ∈ s.evidence.registeredRelays,
      (s.evidence.controlCredentials url).getD "" ≠ "")
    (inRange : s.activeRelayIndex < env.relayUrls.length) :
    (∀ result after posts, unregisterFromRelay env call s = (result, after, posts) →
      (posts.map fun post => (post.route, post.url)).Nodup ∧
        (∀ post ∈ posts, post.url ∈ s.evidence.registeredRelays) ∧
        (call.Quiet →
          (result = true ↔ ∀ url ∈ s.evidence.registeredRelays,
            ∃ post ∈ posts, post.url = url ∧ post.outcome = .status 200)) ∧
        after.evidence = s.evidence.without (acknowledgedRelays posts) ∧
        after.activeRelayIndex < env.relayUrls.length) ∧
      ∀ after posts, unregisterUntilDone env before s = (after, posts) →
        (posts.Pairwise fun p q => p.outcome = .status 200 → q.url ≠ p.url) ∧
          (∀ post ∈ posts, post.url ∈ s.evidence.registeredRelays) ∧
          after.evidence = s.evidence.without (acknowledgedRelays posts) ∧
          (call.Quiet → call.InTime →
            ∀ url ∈ s.evidence.registeredRelays, url ∉ acknowledgedRelays posts →
              ∃ post ∈ (unregisterFromRelay env call after).2.2, post.url = url) := by
  constructor
  · intro result after posts returned
    have h := unregisterFromRelay_spec env call s
    rw [returned] at h
    refine ⟨?_, h.only, fun quiet => ?_, h.evidence, h.inRange inRange⟩
    · exact List.pairwise_map.mpr (h.ordered.imp And.left)
    · simp only [h.result quiet, mem_acknowledgedRelays]
  · intro after posts returned
    have h := unregisterUntilDone_spec env before s
    have kept := unregisterUntilDone_stored env before stored
    rw [returned] at h kept
    refine ⟨h.stops, h.only, h.evidence, fun quiet inTime url registered missing => ?_⟩
    refine unregisterFromRelay_sends quiet inTime kept url ?_
    rw [h.evidence]
    exact Finset.mem_sdiff.mpr ⟨registered, fun member => missing (List.mem_toFinset.mp member)⟩

/-- Two relays that have the node registered. -/
def twoRelaysRegistered : UnregisterState where
  latched := false
  evidence :=
    { registeredRelays := {"https://a.example", "https://b.example"}
      controlCredentials := fun _ => some "credential"
      relayCapabilities := fun _ => none
      lastHeartbeatAt := fun _ => some 0
      relayWaitHints := fun _ => none }
  activeRelayIndex := 1
  unregisterAttempted := false
  unregisterComplete := false

/-- The first relay answers 404 and then raises on the legacy route, the other one answers
200. -/
def unregisterOneOfTwo : UnregisterCall where
  requestTimeout := 10
  deadline := some 8
  heartbeatStopped := true
  quiescent := true
  attempt url :=
    { nowBefore := 1
      nowApi := 1
      nowLegacy := 2
      api := .status (if url = "https://a.example" then 404 else 200)
      legacy := .raised "ConnectionError" }

/-- What the node keeps after that call and the requests of it. -/
def unregisteredOneOfTwo : UnregisterState × List UnregisterPost :=
  (unregisterFromRelay
    ⟨["https://a.example", "https://b.example"], by decide, sorted⟩
    unregisterOneOfTwo twoRelaysRegistered).2

theorem unregister_partial_failure_sample :
    unregisteredOneOfTwo.1.evidence =
      twoRelaysRegistered.evidence.without (acknowledgedRelays unregisteredOneOfTwo.2) :=
  ((unregister_partial_failure _ unregisterOneOfTwo [unregisterOneOfTwo] twoRelaysRegistered
    (fun _ _ => (by decide : "credential" ≠ "")) (by decide)).1 _ _ _ rfl).2.2.2.1

end ComputeNode
