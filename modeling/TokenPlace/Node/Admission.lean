import Mathlib.Tactic.Common

/-!
# Context admission

`_api_v1_authoritative_context_admission` compares the prompt with the context window of the
node. It clamps the requested output to what is left of the window, so a prompt that leaves
one token is admitted. The error of a prompt that leaves none looks at the output that was
requested: it recommends the full tier when the prompt and the whole output fit in it.
-/

namespace ComputeNode

/-! ## Context profiles -/

/-- `ContextProfile`. -/
structure ContextProfile where
  profileId : String
  displayLabel : String
  totalContextTokens : Nat
  defaultOutputReservationTokens : Nat
  enabled : Bool
deriving DecidableEq

/-- `DEFAULT_CONTEXT_TIER`. -/
def defaultContextTier : String := "8k-fast"

/-- `_CONTEXT_PROFILES`. -/
def contextProfiles : List ContextProfile :=
  [⟨"8k-fast", "8K Fast", 8192, 1024, true⟩, ⟨"64k-full", "64K Full", 65536, 1024, true⟩]

/-- `CONTEXT_PROFILES.get(profile_id or DEFAULT_CONTEXT_TIER)`, when the profile is enabled. -/
def findContextProfile (profileId : Option String) : Option ContextProfile :=
  (contextProfiles.find? fun profile =>
    profile.profileId = (profileId.filter (· ≠ "")).getD defaultContextTier).filter (·.enabled)

/-- `get_context_profile`. -/
def getContextProfile (profileId : Option String) : Except String ContextProfile :=
  match findContextProfile profileId with
  | some profile => .ok profile
  | none => .error ("unknown or disabled context profile: " ++ profileId.getD "None")

/-- `normalize_context_tier`. -/
def normalizeContextTier (profileId : Option String) : String :=
  ((findContextProfile profileId).map (·.profileId)).getD defaultContextTier

/-- The profile of a tier that has been normalized. -/
def activeProfile (contextTier : Option String) : ContextProfile :=
  match getContextProfile (some (normalizeContextTier contextTier)) with
  | .ok profile => profile
  | .error _ => ⟨defaultContextTier, "8K Fast", 8192, 1024, true⟩

/-! ## Admission -/

/-- What admission reads from the model manager. -/
structure AdmissionManager where
  contextTier : Option String
  contextWindowTokens : Option Nat
deriving DecidableEq

/-- `configured_context_tokens`. -/
def AdmissionManager.configuredContextTokens (manager : AdmissionManager) : Nat :=
  (manager.contextWindowTokens.filter (· ≠ 0)).getD
    (activeProfile manager.contextTier).totalContextTokens

/-- The error of a request that is not admitted. -/
structure AdmissionError where
  code : String
  message : String
  activeContextTier : Option String
  requestedContextTier : Option String
  configuredContextTokens : Option Nat
  promptTokens : Option Nat
  requestedOutputTokens : Option Nat
  requiredTotalTokens : Option Nat
  retryable : Bool
  recommendedContextTier : Option String
  internalReason : Option String
deriving DecidableEq

/-- The `budget` of a request. -/
structure OutputBudget where
  promptTokens : Nat
  activeContextTokens : Nat
  requestedOutputTokens : Nat
  availableOutputTokens : Nat
  effectiveOutputTokens : Nat
deriving DecidableEq

/-- What the runtime gives for a prompt: the count of the worker or of the rendered prompt,
or the code and the reason of its last error. -/
inductive PromptCount
  | tokens (count : Nat)
  | unavailable (code reason : Option String)
deriving DecidableEq

/-- `_active_context_tier_can_satisfy`. -/
def activeContextTierCanSatisfy (manager : AdmissionManager) (requested : Option String) : Bool :=
  match getContextProfile (some (normalizeContextTier manager.contextTier)),
    getContextProfile requested with
  | .ok active, .ok profile => decide (profile.totalContextTokens ≤ active.totalContextTokens)
  | _, _ => false

/-- `_api_v1_context_tier_unsupported_error`. -/
def contextTierUnsupportedError (activeContextTier : String) (configured : Nat)
    (requested : Option String) (promptTokens requestedOutput : Nat) : AdmissionError where
  code := "compute_node_context_tier_unsupported"
  message := "Requested context tier is not active on this compute node"
  activeContextTier := some activeContextTier
  requestedContextTier := requested
  configuredContextTokens := some configured
  promptTokens := some promptTokens
  requestedOutputTokens := some requestedOutput
  requiredTotalTokens := some (promptTokens + requestedOutput)
  retryable := false
  recommendedContextTier := none
  internalReason := none

/-- Whether `_api_v1_context_admission_error` recommends the full tier. -/
def recommendsFullTier (configured promptTokens requestedOutput : Nat)
    (requested : Option String) : Bool :=
  match getContextProfile (some "64k-full"), getContextProfile requested with
  | .ok full, .ok profile =>
    decide (promptTokens + requestedOutput ≤ full.totalContextTokens) &&
      decide (configured < full.totalContextTokens) &&
      decide (profile.totalContextTokens ≤ full.totalContextTokens)
  | _, _ => false

/-- `_api_v1_context_admission_error`. -/
def contextAdmissionError (activeContextTier : String)
    (configured promptTokens requestedOutput : Nat)
    (requested : Option String) : AdmissionError where
  code := "compute_node_context_window_exceeded"
  message := "Requested prompt and output reservation exceed the active context window"
  activeContextTier := some activeContextTier
  requestedContextTier := none
  configuredContextTokens := some configured
  promptTokens := some promptTokens
  requestedOutputTokens := some requestedOutput
  requiredTotalTokens := some (promptTokens + requestedOutput)
  retryable := recommendsFullTier configured promptTokens requestedOutput requested
  recommendedContextTier :=
    if recommendsFullTier configured promptTokens requestedOutput requested then some "64k-full"
    else none
  internalReason := none

/-- The error when the prompt could not be counted. -/
def promptUnavailableError (activeContextTier : String) (configured : Nat)
    (requested code reason : Option String) : AdmissionError :=
  let reason := reason.getD "runtime_template_tokenizer_bridge_unavailable"
  if code = some "compute_node_invalid_request" then
    { code := "compute_node_invalid_request"
      message := "API v1 chat completions are text-only and do not support non-text content blocks. " ++
        "Use text-only messages or API v2 for multimodal requests."
      activeContextTier := none
      requestedContextTier := none
      configuredContextTokens := none
      promptTokens := none
      requestedOutputTokens := none
      requiredTotalTokens := none
      retryable := false
      recommendedContextTier := none
      internalReason := some reason }
  else
    { code := "compute_node_context_admission_unavailable"
      message := "Compute node cannot authoritatively render and tokenize the " ++
        "API v1 prompt for context admission"
      activeContextTier := some activeContextTier
      requestedContextTier := requested
      configuredContextTokens := some configured
      promptTokens := none
      requestedOutputTokens := none
      requiredTotalTokens := none
      retryable := false
      recommendedContextTier := none
      internalReason := some reason }

/-- What `_api_v1_authoritative_context_admission` returns. -/
structure Admission where
  admitted : Bool
  error : Option AdmissionError
  budget : Option OutputBudget
deriving DecidableEq

/-- `_api_v1_authoritative_context_admission`. -/
def authoritativeContextAdmission (manager : AdmissionManager) (prompt : PromptCount)
    (requestedOutput : Nat) (requested : Option String) : Admission :=
  let activeTier := normalizeContextTier manager.contextTier
  let configured := manager.configuredContextTokens
  match prompt with
  | .unavailable code reason =>
    ⟨false, some (promptUnavailableError activeTier configured requested code reason), none⟩
  | .tokens promptTokens =>
    let available := configured - promptTokens
    let effective := min requestedOutput available
    let budget : OutputBudget := ⟨promptTokens, configured, requestedOutput, available, effective⟩
    let tierSupported := activeContextTierCanSatisfy manager requested
    if tierSupported && decide (0 < effective) then ⟨true, none, some budget⟩
    else if !tierSupported then
      ⟨false, some (contextTierUnsupportedError activeTier configured requested promptTokens
        requestedOutput), some budget⟩
    else
      ⟨false, some (contextAdmissionError activeTier configured promptTokens requestedOutput
        requested), some budget⟩

/-! ## Profiles -/

variable {manager : AdmissionManager} {promptTokens requestedOutput : Nat}
  {requested : Option String}

theorem findContextProfile_cases {profile : ContextProfile}
    (found : findContextProfile requested = some profile) :
    profile = ⟨"8k-fast", "8K Fast", 8192, 1024, true⟩ ∨
      profile = ⟨"64k-full", "64K Full", 65536, 1024, true⟩ := by
  have member := List.mem_of_find?_eq_some (Option.filter_eq_some_iff.mp found).1
  simpa [contextProfiles] using member

theorem getContextProfile_full :
    getContextProfile (some "64k-full") = .ok ⟨"64k-full", "64K Full", 65536, 1024, true⟩ := by
  decide +kernel

theorem getContextProfile_fast :
    getContextProfile (some "8k-fast") = .ok ⟨"8k-fast", "8K Fast", 8192, 1024, true⟩ := by
  decide +kernel

theorem normalizeContextTier_cases (contextTier : Option String) :
    normalizeContextTier contextTier = "8k-fast" ∨
      normalizeContextTier contextTier = "64k-full" := by
  unfold normalizeContextTier
  cases found : findContextProfile contextTier with
  | none => exact .inl rfl
  | some profile =>
    obtain rfl | rfl := findContextProfile_cases found
    · exact .inl rfl
    · exact .inr rfl

theorem getContextProfile_normalized (contextTier : Option String) :
    getContextProfile (some (normalizeContextTier contextTier)) =
      .ok (activeProfile contextTier) := by
  obtain ⟨profile, found⟩ : ∃ profile,
      getContextProfile (some (normalizeContextTier contextTier)) = .ok profile := by
    obtain tier | tier := normalizeContextTier_cases contextTier
    · rw [tier]
      exact ⟨_, getContextProfile_fast⟩
    · rw [tier]
      exact ⟨_, getContextProfile_full⟩
  unfold activeProfile
  rw [found]

/-- The tier is a known one whose window is no larger than that of the active profile. -/
def TierSupported (manager : AdmissionManager) (requested : Option String) : Prop :=
  ∃ profile, getContextProfile requested = .ok profile ∧
    profile.totalContextTokens ≤ (activeProfile manager.contextTier).totalContextTokens

theorem activeContextTierCanSatisfy_iff :
    activeContextTierCanSatisfy manager requested = true ↔ TierSupported manager requested := by
  unfold activeContextTierCanSatisfy TierSupported
  rw [getContextProfile_normalized]
  cases getContextProfile requested with
  | error e | ok profile => simp

instance : Decidable (TierSupported manager requested) :=
  decidable_of_iff _ activeContextTierCanSatisfy_iff

theorem getContextProfile_le_full {profile : ContextProfile}
    (found : getContextProfile requested = .ok profile) : profile.totalContextTokens ≤ 65536 := by
  unfold getContextProfile at found
  split at found
  · next profile' found' =>
    obtain rfl : profile' = profile := by simpa using found
    obtain rfl | rfl := findContextProfile_cases found' <;> decide
  · cases found

/-! ## Admission -/

theorem admitted_iff :
    (authoritativeContextAdmission manager (.tokens promptTokens) requestedOutput
        requested).admitted = true ↔
      TierSupported manager requested ∧ promptTokens < manager.configuredContextTokens ∧
        0 < requestedOutput := by
  rw [← activeContextTierCanSatisfy_iff]
  simp only [authoritativeContextAdmission]
  cases activeContextTierCanSatisfy manager requested with
  | false => simp
  | true =>
    simp only [Bool.true_and, Bool.not_true, Bool.false_eq_true, if_false]
    split
    · next room =>
      have := of_decide_eq_true room
      simp only [true_and, true_iff]
      omega
    · next full =>
      have : ¬ 0 < min requestedOutput (manager.configuredContextTokens - promptTokens) := by
        simpa using full
      simp only [Bool.false_eq_true, true_and, false_iff]
      omega

theorem admission_budget :
    ∃ budget, (authoritativeContextAdmission manager (.tokens promptTokens) requestedOutput
        requested).budget = some budget ∧
      budget.effectiveOutputTokens =
        min requestedOutput (manager.configuredContextTokens - promptTokens) := by
  simp only [authoritativeContextAdmission]
  split
  · exact ⟨_, rfl, rfl⟩
  · split
    · exact ⟨_, rfl, rfl⟩
    · exact ⟨_, rfl, rfl⟩

/-- The error of an overflow is the one that `_api_v1_context_admission_error` builds, and
it is given when the tier is supported and the prompt leaves nothing. -/
theorem overflow_iff (positive : 0 < requestedOutput) {error : AdmissionError} :
    (authoritativeContextAdmission manager (.tokens promptTokens) requestedOutput
        requested).error = some error ∧ error.code = "compute_node_context_window_exceeded" ↔
      TierSupported manager requested ∧ manager.configuredContextTokens ≤ promptTokens ∧
        error = contextAdmissionError (normalizeContextTier manager.contextTier)
          manager.configuredContextTokens promptTokens requestedOutput requested := by
  rw [← activeContextTierCanSatisfy_iff]
  simp only [authoritativeContextAdmission]
  cases activeContextTierCanSatisfy manager requested with
  | false =>
    simp only [Bool.false_and, Bool.false_eq_true, if_false, Bool.not_false, if_true, false_and,
      iff_false, Option.some.injEq, not_and]
    rintro rfl
    show ¬ "compute_node_context_tier_unsupported" = "compute_node_context_window_exceeded"
    decide
  | true =>
    simp only [Bool.true_and, Bool.not_true, Bool.false_eq_true, if_false, true_and]
    split
    · next room =>
      have := of_decide_eq_true room
      simp only [reduceCtorEq, false_and, false_iff, not_and]
      omega
    · next full =>
      have : ¬ 0 < min requestedOutput (manager.configuredContextTokens - promptTokens) := by
        simpa using full
      simp only [Option.some.injEq]
      constructor
      · rintro ⟨rfl, _⟩
        exact ⟨by omega, rfl⟩
      · rintro ⟨_, rfl⟩
        exact ⟨rfl, rfl⟩

theorem recommendsFullTier_iff (supported : TierSupported manager requested) (configured : Nat) :
    recommendsFullTier configured promptTokens requestedOutput requested = true ↔
      promptTokens + requestedOutput ≤ 65536 ∧ configured < 65536 := by
  obtain ⟨profile, found, _⟩ := supported
  have small := getContextProfile_le_full found
  unfold recommendsFullTier
  rw [getContextProfile_full, found]
  simp [small]

/-! ## Statement -/

/-- A node that serves the tier with its own window. -/
def nodeOfTier (tier : String) : AdmissionManager := ⟨some tier, none⟩

/-- A request is admitted exactly when the tier is supported and the prompt leaves room, its
budget then fits, and the error of an overflow is retryable, with the full tier recommended,
exactly when a node of that tier would admit the request. -/
structure AdmissionAgrees (manager : AdmissionManager) (promptTokens requestedOutput : Nat)
    (requested : Option String) : Prop where
  admits : (authoritativeContextAdmission manager (.tokens promptTokens) requestedOutput
      requested).admitted = true ↔
    TierSupported manager requested ∧ promptTokens < manager.configuredContextTokens
  budget : (authoritativeContextAdmission manager (.tokens promptTokens) requestedOutput
      requested).admitted = true →
    ∃ budget, (authoritativeContextAdmission manager (.tokens promptTokens) requestedOutput
        requested).budget = some budget ∧
      1 ≤ budget.effectiveOutputTokens ∧ budget.effectiveOutputTokens ≤ requestedOutput ∧
      promptTokens + budget.effectiveOutputTokens ≤ manager.configuredContextTokens
  escalates : ∀ error, (authoritativeContextAdmission manager (.tokens promptTokens)
      requestedOutput requested).error = some error →
    error.code = "compute_node_context_window_exceeded" →
    (error.recommendedContextTier = if error.retryable then some "64k-full" else none) ∧
      (error.retryable = true ↔
        (authoritativeContextAdmission (nodeOfTier "64k-full") (.tokens promptTokens)
          requestedOutput requested).admitted = true)

/-- The claim holds unless a prompt overflows the window of the node and fits in the full
one, but not together with the whole output. -/
theorem admission_agrees_iff (manager : AdmissionManager) (promptTokens requestedOutput : Nat)
    (requested : Option String) (positive : 1 ≤ requestedOutput) :
    AdmissionAgrees manager promptTokens requestedOutput requested ↔
      ¬ (TierSupported manager requested ∧ manager.configuredContextTokens ≤ promptTokens ∧
        promptTokens < 65536 ∧ 65536 < promptTokens + requestedOutput) := by
  have larger : TierSupported manager requested →
      ((authoritativeContextAdmission (nodeOfTier "64k-full") (.tokens promptTokens)
        requestedOutput requested).admitted = true ↔ promptTokens < 65536) := by
    rintro ⟨profile, found, _⟩
    have full : TierSupported (nodeOfTier "64k-full") requested :=
      ⟨profile, found, getContextProfile_le_full found⟩
    rw [admitted_iff]
    simp only [full, true_and]
    show promptTokens < 65536 ∧ _ ↔ _
    omega
  constructor
  · rintro agrees ⟨supported, overflows, fits, exceeds⟩
    obtain ⟨error, is, coded⟩ : ∃ error, (authoritativeContextAdmission manager
        (.tokens promptTokens) requestedOutput requested).error = some error ∧
          error.code = "compute_node_context_window_exceeded" :=
      ⟨_, (overflow_iff positive).mpr ⟨supported, overflows, rfl⟩⟩
    obtain ⟨_, _, rfl⟩ := (overflow_iff positive).mp ⟨is, coded⟩
    have retryable := ((agrees.escalates _ is coded).2.trans (larger supported)).mpr fits
    have := (recommendsFullTier_iff supported _).mp retryable
    omega
  · intro safe
    refine ⟨admitted_iff.trans ?_, fun admitted => ?_, fun error is coded => ?_⟩
    · constructor
      · rintro ⟨supported, room, _⟩
        exact ⟨supported, room⟩
      · rintro ⟨supported, room⟩
        exact ⟨supported, room, positive⟩
    · obtain ⟨_, room, _⟩ := admitted_iff.mp admitted
      obtain ⟨budget, is, effective⟩ :=
        @admission_budget manager promptTokens requestedOutput requested
      refine ⟨budget, is, ?_⟩
      omega
    · obtain ⟨supported, overflows, rfl⟩ := (overflow_iff positive).mp ⟨is, coded⟩
      refine ⟨rfl, ?_⟩
      rw [larger supported]
      show recommendsFullTier _ _ _ _ = true ↔ _
      rw [recommendsFullTier_iff supported]
      have : ¬ (promptTokens < 65536 ∧ 65536 < promptTokens + requestedOutput) := fun both =>
        safe ⟨supported, overflows, both⟩
      omega

theorem admission_agrees_iff_sample :
    1 ≤ 1 ∧ AdmissionAgrees ⟨some "8k-fast", some 8192⟩ 8192 1 none :=
  ⟨Nat.le_refl 1, (admission_agrees_iff _ 8192 1 none (Nat.le_refl 1)).mpr (by decide)⟩

/-- A node of the small tier says that a prompt of 8192 tokens with an output of 60000 cannot
be retried, and a node of the full tier admits it. -/
theorem admission_disagrees :
    ¬ AdmissionAgrees (nodeOfTier "8k-fast") 8192 60000 none := by
  intro agrees
  have escalates := (agrees.escalates _ rfl rfl).2
  revert escalates
  decide +kernel

end ComputeNode
