import TokenPlace.Node.Output

/-!
# Retries without a rejected generation argument

`_api_v1_create_chat_completion_filtered` and
`_api_v1_create_completion_from_rendered_prompt_filtered` call the runtime until it does not
reject a keyword argument. The runtime is any function of the call and of the calls before it,
and an exception of it has any class, any text and any diagnostics.
-/

namespace ComputeNode

/-! ## What an exception says -/

/-- An exception of the runtime: `str(exc)` and its `diagnostics`, if it has them. -/
structure RuntimeException where
  className : String
  text : String
  diagnostics : Option Json

/-- `[A-Za-z_]`. -/
def isNameStart (c : Char) : Bool := c.isAlpha || c == '_'

/-- `[A-Za-z_][A-Za-z0-9_]*`, and what is left after it. -/
def optionName : List Char → Option (List Char × List Char)
  | [] => none
  | c :: s =>
    let isPart := fun c : Char => c.isAlphanum || c == '_'
    if isNameStart c then some (c :: s.takeWhile isPart, s.dropWhile isPart) else none

/-- A single or a double quote. -/
def isQuote (c : Char) : Bool := c.toNat == 0x27 || c.toNat == 0x22

/-- A name between quotes. -/
def quotedName : List Char → Option (List Char)
  | [] => none
  | c :: s => do
    let (name, s) ← if isQuote c then optionName s else none
    if s.head?.any isQuote then some name else none

/-- `\s+` and a name between quotes. -/
def spacedQuotedName (s : List Char) : Option (List Char) := do
  let (_, s) ← Text.many Text.isSpace s
  quotedName s

/-- A name after `\s*`, a mark and `\s*`. -/
def markedName (mark : Char) (s : List Char) : Option (List Char) := do
  let s ← Text.literal [mark] (Text.lstrip s)
  let (name, _) ← optionName (Text.lstrip s)
  some name

/-- `_UNSUPPORTED_GENERATION_KWARG_PATTERNS`, each with the name that it captures. -/
def unsupportedGenerationKwargPatterns : List (List Char → Option (List Char)) :=
  [ fun s => do
      let s ← Text.literal "unexpected keyword argument ".toList
        ((Text.literal "got an ".toList s).getD s)
      quotedName s,
    fun s => do
      let s ← Text.literal "unexpected keyword argument".toList s
      markedName ':' s,
    fun s => do
      let s ← Text.literal "unsupported option".toList s
      spacedQuotedName s <|> markedName ':' s,
    fun s => do
      let s ← Text.literal "invalid keyword".toList s
      let s := (Text.literal " argument".toList s).getD s
      spacedQuotedName s <|> markedName ':' s,
    fun s => do
      let s ← Text.literal "invalid keyword".toList s
      markedName '=' s,
    fun s => do
      let s ← Text.literal "got multiple values for keyword argument ".toList s
      quotedName s ]

/-- `_extract_unsupported_generation_kwarg`. -/
def extractUnsupportedGenerationKwarg (text : String) (attempted : Option (List String)) :
    Option String :=
  unsupportedGenerationKwargPatterns.findSome? fun pattern =>
    ((Text.search pattern text.toList).map String.ofList).filter fun rejected =>
      attempted.all (rejected ∈ ·)

/-- `_classify_safe_generation_exception`. -/
def classifySafeGenerationException (exc : RuntimeException) : String :=
  let text := Text.lower (exc.className ++ " " ++ exc.text).toList
  let has := fun w : String => Text.contains text w.toList
  if has "metal" && ["alloc", "memory", "out of memory", "oom"].any has then
    "metal_memory_allocation"
  else if ["cuda out of memory", "cuda error: out of memory", "cudamalloc", "cuda malloc",
      "cublas_status_alloc_failed", "cublas alloc"].any has ||
      (has "cuda" && ["allocation failed", "failed to allocate"].any has) ||
      (has "ggml_cuda" && ["alloc", "memory", "oom"].any has) then
    "cuda_memory_allocation"
  else if has "kv" && ["alloc", "cache", "memory", "out of memory", "oom"].any has then
    "kv_cache_allocation"
  else if has "yarn" || (has "rope" && ["scal", "freq", "eval"].any has) then
    "rope_yarn_eval_failure"
  else if has "timeout" then "worker_timeout"
  else if ["worker dead", "broken pipe", "eof", "exited before"].any has then "worker_dead"
  else if (extractUnsupportedGenerationKwarg exc.text none).isSome then
    "unsupported_generation_kwarg"
  else "unknown_generation_exception"

/-- A match of `_SAFE_WORKER_DIAGNOSTIC_IDENTIFIER_RE`. -/
def isDiagnosticIdentifier (s : String) : Bool :=
  s ≠ "" && s.toList.length ≤ 128 &&
    s.toList.all fun c => c.isAlphanum || "_.:/@+-".toList.contains c

/-- The values of `generation_exception_category` in `_SAFE_WORKER_DIAGNOSTIC_ENUM_VALUES`. -/
def generationExceptionCategories : List String :=
  ["metal_memory_allocation", "cuda_memory_allocation", "kv_cache_allocation",
    "rope_yarn_eval_failure", "unsupported_generation_kwarg", "unsupported_render_kwarg",
    "qwen_non_thinking_hard_switch_unavailable", "unexpected_kwarg", "unsupported_prompt_kwarg",
    "unsupported_stream_kwarg", "unsupported_stop_kwarg", "method_shape", "worker_exception",
    "malformed_completion_output", "empty_completion_output", "thinking_leaked",
    "worker_timeout", "worker_dead", "unknown_generation_exception",
    "prompt_tokenization_failure", "prompt_eval_failure", "prompt_eval_decode_failure",
    "prompt_eval_invalid_batch", "backend_allocation_failure", "backend_graph_compute_failure",
    "metal_graph_compute_failure", "kv_slot_unavailable", "decode_aborted",
    "backend_decode_failure", "prompt_eval_backend_failure", "prompt_eval_invalid_token_failure",
    "prompt_eval_state_failure", "prompt_eval_context_failure", "sampling_failure"]

/-- A text among the `_safe_worker_diagnostics` of an exception. Only a request error has
diagnostics. -/
def RuntimeException.safeDiagnostic (exc : RuntimeException) (key : String)
    (safe : String → Bool) : Option String :=
  if exc.className ≠ "LlamaCppInferenceRequestError" then none
  else
    match exc.diagnostics with
    | some (.object diagnostics) =>
      match diagnostics.lookup key with
      | some (.string value) =>
        let bounded := String.ofList (value.toList.take 256)
        if safe bounded then some bounded else none
      | _ => none
    | _ => none

/-- `rejected` in the handlers of both loops: a name that was attempted. -/
def RuntimeException.rejected (exc : RuntimeException) (attempted : List String) :
    Option String :=
  (exc.safeDiagnostic "rejected_generation_kwarg" isDiagnosticIdentifier <|>
    exc.safeDiagnostic "rejected_option" isDiagnosticIdentifier <|>
    extractUnsupportedGenerationKwarg exc.text (some attempted)).filter (· ∈ attempted)

/-- `category` in the handlers of both loops. -/
def RuntimeException.category (exc : RuntimeException) : String :=
  (exc.safeDiagnostic "generation_exception_category" (· ∈ generationExceptionCategories)).getD
    (classifySafeGenerationException exc)

/-! ## Arguments -/

/-- Keyword arguments. -/
abbrev Kwargs := List (String × Json)

/-- An entry of `_api_v1_generation_kwarg_cache`. -/
structure GenerationKwargCache where
  filtered : Finset String
  supported : Finset String

/-- The configuration of the model manager and the profile of its model. -/
structure GenerationEnv where
  config : String → Option Json
  profile : Kwargs

/-- `configured`. -/
def GenerationEnv.configured (env : GenerationEnv) (key : String) (default : Json) : Json :=
  (env.config key).getD default

/-- The arguments that are never filtered. -/
def neverFiltered : List String := ["messages", "max_tokens", "stream"]

/-- `completion_kwargs` before the options: the configuration and the profile's defaults. -/
def generationDefaults (env : GenerationEnv) : Kwargs :=
  let completionKwargs : Kwargs :=
    [("max_tokens", env.configured "model.max_tokens" (.number 512)),
      ("temperature", env.configured "model.temperature" (.number (7 / 10))),
      ("top_p", env.configured "model.top_p" (.number (9 / 10))),
      ("stop", env.configured "model.stop_tokens" (.array [])),
      ("stream", .bool false)]
  let profileDefaults :=
    match env.profile.lookup "generation_defaults" with
    | some (.object defaults) => defaults
    | _ => []
  ["temperature", "top_p", "top_k", "stop"].foldl (fun kwargs key =>
    match profileDefaults.lookup key with
    | some value => Json.setField key value kwargs
    | none => kwargs) completionKwargs

/-- `kwargs.update(options)`. -/
def updateKwargs (kwargs options : Kwargs) : Kwargs :=
  options.foldl (fun kwargs option => Json.setField option.1 option.2 kwargs) kwargs

/-- `_api_v1_runtime_completion_kwargs`. -/
def runtimeCompletionKwargs (env : GenerationEnv) (cache : GenerationKwargCache)
    (safeOptions : Kwargs) : Kwargs :=
  let kept := (generationDefaults env).filter fun field =>
    ¬ (field.1 ∈ cache.filtered ∧ field.1 ∉ safeOptions.map Prod.fst ∧ field.1 ∉ neverFiltered)
  Json.setField "stream" (.bool false) (updateKwargs kept safeOptions)

/-- `_api_v1_remember_generation_kwargs`. -/
def GenerationKwargCache.remember (cache : GenerationKwargCache) (attempted : List String)
    (rejected : Option String) : GenerationKwargCache :=
  let filtered := rejected.elim cache.filtered (insert · cache.filtered)
  { filtered, supported := cache.supported ∪ (attempted.toFinset \ filtered) }

/-- `_api_v1_attempted_generation_kwargs`. -/
def attemptedGenerationKwargs (kwargs : Kwargs) : List String :=
  ((kwargs.map Prod.fst).filter (· ≠ "messages")).mergeSort

/-! ## The loop -/

/-- A call of the runtime. -/
structure RuntimeCall where
  messages : List Json
  kwargs : Kwargs

/-- How a call of the runtime ends. -/
inductive RuntimeOutcome
  | result (completion : Json)
  | raised (exc : RuntimeException)

/-- The calls with their ends. -/
abbrev CallTrace := List (RuntimeCall × RuntimeOutcome)

/-- What is returned next to the result. -/
structure GenerationDiagnostics where
  completionKwargs : Kwargs
  attemptedGenerationKwargs : List String
  filteredGenerationKwargs : List String
  supportedGenerationKwargs : List String
  generationMethod : Option String

/-- How a loop ends. -/
inductive LoopResult
  | returned (completion : Json) (diagnostics : GenerationDiagnostics)
  | raised (exc : RuntimeException)

/-- What differs between the two loops: the arguments that are built from the cache and the
removed names, and the name that a handler removes unless it raises. -/
structure RetryPolicy where
  buildKwargs : GenerationKwargCache → List String → Except RuntimeException Kwargs
  attemptedNames : Kwargs → List String
  handle : RuntimeException → List String → Except RuntimeException String
  generationMethod : Option String

/-- The loop of both functions: how it ends, the cache after it and its calls. -/
def createFiltered (policy : RetryPolicy) (runtime : CallTrace → RuntimeCall → RuntimeOutcome)
    (messages : List Json) (maxRemovedKwargs : Nat) (removed : List String)
    (cache : GenerationKwargCache) (trace : CallTrace) :
    LoopResult × GenerationKwargCache × CallTrace :=
  match policy.buildKwargs cache removed with
  | .error exc => (.raised exc, cache, trace)
  | .ok kwargs =>
    let attempted := policy.attemptedNames kwargs
    let call : RuntimeCall := ⟨messages, kwargs⟩
    match runtime trace call with
    | .result completion =>
      let cache := cache.remember attempted none
      (.returned completion
        { completionKwargs := kwargs
          attemptedGenerationKwargs := attempted
          filteredGenerationKwargs := (removed.toFinset ∪ cache.filtered).sort (· ≤ ·)
          supportedGenerationKwargs := (attempted.toFinset \ cache.filtered).sort (· ≤ ·)
          generationMethod := policy.generationMethod },
        cache, trace ++ [(call, .result completion)])
    | .raised exc =>
      let trace := trace ++ [(call, .raised exc)]
      match policy.handle exc attempted with
      | .error raised => (.raised raised, cache, trace)
      | .ok rejected =>
        if maxRemovedKwargs ≤ removed.length then (.raised exc, cache, trace)
        else
          createFiltered policy runtime messages maxRemovedKwargs (removed ++ [rejected])
            (cache.remember attempted (some rejected)) trace
termination_by maxRemovedKwargs - removed.length
decreasing_by
  rw [List.length_append, List.length_singleton]
  omega

/-- The policy of `_api_v1_create_chat_completion_filtered`. -/
def chatPolicy (env : GenerationEnv) (safeOptions : Kwargs) (clientOptionNames : List String) :
    RetryPolicy where
  buildKwargs cache _ := .ok (runtimeCompletionKwargs env cache safeOptions)
  attemptedNames := attemptedGenerationKwargs
  handle exc attempted :=
    match exc.rejected attempted with
    | none => .error exc
    | some rejected =>
      if exc.category ≠ "unsupported_generation_kwarg" then .error exc
      else if rejected ∈ clientOptionNames then .error exc
      else if rejected ∈ neverFiltered then .error exc
      else .ok rejected
  generationMethod := none

/-- `_api_v1_create_chat_completion_filtered`. -/
def createChatCompletionFiltered (env : GenerationEnv)
    (runtime : CallTrace → RuntimeCall → RuntimeOutcome) (messages : List Json)
    (safeOptions : Kwargs) (clientOptionNames : List String) (maxRemovedKwargs : Nat)
    (cache : GenerationKwargCache) : LoopResult × GenerationKwargCache × CallTrace :=
  createFiltered (chatPolicy env safeOptions clientOptionNames) runtime messages maxRemovedKwargs
    [] cache []

/-- The names that `_api_v1_validate_and_normalise_options` lets through. It takes `stream` out. -/
def validatedOptionNames : List String :=
  ["frequency_penalty", "max_tokens", "presence_penalty", "seed", "stop", "temperature", "top_p"]

/-- `int(value or 64)`. -/
def maxTokensOf (intOfText : String → Except RuntimeException Int) (value : Json) :
    Except RuntimeException Int :=
  if !value.truthy then .ok 64
  else
    match value with
    | .number n => .ok (n.num.tdiv n.den)
    | .bool _ => .ok 1
    | .string s => intOfText s
    | _ => .error ⟨"TypeError",
      "int() argument must be a string, a bytes-like object or a real number", none⟩

/-- The error that is raised when the runtime rejects `enable_thinking`. -/
def hardSwitchUnavailable : RuntimeException where
  className := "LlamaCppInferenceRequestError"
  text := "runtime_qwen_non_thinking_hard_switch_unavailable"
  diagnostics := some (.object
    [("code", .string "compute_node_runtime_unavailable"),
      ("reason", .string "runtime_qwen_non_thinking_hard_switch_unavailable"),
      ("internal_reason", .string "runtime_qwen_non_thinking_hard_switch_unavailable"),
      ("rejected_generation_kwarg", .string "enable_thinking"),
      ("generation_exception_category", .string "qwen_non_thinking_hard_switch_unavailable"),
      ("retryable", .bool false)])

/-- `kwargs[name] = value` for a truthy entry of the profile that is not removed. -/
def renderArgument (profile : Kwargs) (key name : String) (removedSet : Finset String)
    (kwargs : Kwargs) : Kwargs :=
  match profile.lookup key with
  | some value =>
    if value.truthy ∧ name ∉ removedSet then Json.setField name value kwargs else kwargs
  | none => kwargs

/-- `removed_set`. The switch of a non-thinking profile is never filtered. -/
def removedSet (modelProfile : Kwargs) (clientOptionNames : List String)
    (cache : GenerationKwargCache) (removed : List String) : Finset String :=
  (removed.toFinset ∪ (cache.filtered \ clientOptionNames.toFinset)) \
    (if qwenNonThinkingRequired (.object modelProfile) then {"enable_thinking"} else ∅)

/-- The arguments of a plain completion: `max_tokens`, the render metadata and the switch. -/
def promptArguments (modelProfile : Kwargs) (removed : Finset String) (maxTokens : Int) : Kwargs :=
  let kwargs : Kwargs := [("max_tokens", Json.number maxTokens)].filter (·.1 ∉ removed)
  let kwargs := renderArgument modelProfile "provider" "token_place_provider" removed kwargs
  let kwargs := renderArgument modelProfile "chat_template_policy" "token_place_template_policy"
    removed kwargs
  if qwenNonThinkingRequired (.object modelProfile) ∧ "enable_thinking" ∉ removed then
    Json.setField "enable_thinking" (.bool false) kwargs
  else kwargs

/-- The arguments of one pass. -/
def promptKwargs (env : GenerationEnv) (intOfText : String → Except RuntimeException Int)
    (safeOptions modelProfile : Kwargs) (clientOptionNames : List String)
    (cache : GenerationKwargCache) (removed : List String) : Except RuntimeException Kwargs := do
  let runtimeKwargs := runtimeCompletionKwargs env cache safeOptions
  let maxTokens ← maxTokensOf intOfText ((runtimeKwargs.lookup "max_tokens").getD (.number 64))
  return promptArguments modelProfile (removedSet modelProfile clientOptionNames cache removed)
    maxTokens

/-- The policy of `_api_v1_create_completion_from_rendered_prompt_filtered`. -/
def promptPolicy (env : GenerationEnv) (intOfText : String → Except RuntimeException Int)
    (safeOptions modelProfile : Kwargs) (clientOptionNames : List String) : RetryPolicy where
  buildKwargs := promptKwargs env intOfText safeOptions modelProfile clientOptionNames
  attemptedNames kwargs := (kwargs.map Prod.fst).mergeSort
  handle exc attempted :=
    match exc.rejected attempted with
    | none => .error exc
    | some rejected =>
      if qwenNonThinkingRequired (.object modelProfile) ∧ rejected = "enable_thinking" then
        .error hardSwitchUnavailable
      else if exc.category ≠ "unsupported_generation_kwarg" ∧
          exc.category ≠ "unsupported_render_kwarg" then .error exc
      else if (rejected ∈ clientOptionNames ∧ rejected ≠ "top_k") ∨
          rejected ∈ ["messages", "max_tokens", "stream", "seed", "enable_thinking"] then
        .error exc
      else .ok rejected
  generationMethod := some "create_completion_from_rendered_prompt"

/-- `_api_v1_create_completion_from_rendered_prompt_filtered`. -/
def createCompletionFromRenderedPromptFiltered (env : GenerationEnv)
    (intOfText : String → Except RuntimeException Int)
    (runtime : CallTrace → RuntimeCall → RuntimeOutcome) (messages : List Json)
    (safeOptions modelProfile : Kwargs) (clientOptionNames : List String)
    (maxRemovedKwargs : Nat) (cache : GenerationKwargCache) :
    LoopResult × GenerationKwargCache × CallTrace :=
  createFiltered (promptPolicy env intOfText safeOptions modelProfile clientOptionNames) runtime
    messages maxRemovedKwargs [] cache []

end ComputeNode
