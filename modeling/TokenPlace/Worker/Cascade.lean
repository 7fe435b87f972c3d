import TokenPlace.Worker.PlainCompletion

/-!
# The cascade of plain completions

The branch of the worker script for `create_chat_completion_from_rendered_prompt`: it tries the
entry points of the runtime one after the other, with the rendered prompt, with its token ids
and with the chat messages, until one of them gives a result that is valid. An exception is what
`_plain_completion_method_shape_category` makes of it.

Results:
1. `cascade_bounded_and_fail_closed`: at most ten calls, none after a fatal exception or leaked
   thinking, and only the result of the last call is answered.
-/

namespace PlainCompletion

/-! ## The runtime -/

/-- What a call into the runtime does. An exception that `except Exception` does not catch, or
that is raised while the first one is handled, escapes from the cascade. -/
inductive Outcome
  | returned (value : Value)
  | raised (category : String)
  | escaped

/-- A runtime: which of its entry points are callable, whether they take an option, and what each
call does. -/
structure Runtime where
  createCompletion : Bool
  llamaCall : Bool
  createChatCompletion : Bool
  chatTemplateKwargs : Bool
  tokenizer : Bool
  special : Bool
  generate : ℕ → Outcome
  tokenize : ℕ → Outcome

/-! ## The tokenization of the prompt -/

/-- Token ids of the rendered prompt. -/
structure Variant where
  tokens : List ℤ
  tokenizationVariantId : String
  special : Option Bool

/-- The ids, if the value is a list or a tuple of integers that is not empty. -/
def tokenIds : Value → Option (List ℤ)
  | .list items | .tuple items =>
    if items = [] then none
    else items.mapM fun
      | .int n => some n
      | _ => none
  | _ => none

/-- The calls of `tokenize`: how each is named, and the option `special` of it. -/
def tokenizationAttempts (special : Bool) : List (String × Option Bool) :=
  let plain := ("tokenize_add_bos_false_no_special", none)
  if special then
    [("tokenize_add_bos_false_special_false", some false), plain,
      ("tokenize_add_bos_false_special_true", some true)]
  else [plain]

/-- The loop over these calls, of which the next has the number `k`. -/
def collectVariants (tokenize : ℕ → Outcome) :
    ℕ → List (String × Option Bool) → List Variant → Option (List Variant)
  | _, [], variants => some variants
  | k, (variantId, special) :: attempts, variants =>
    match tokenize k with
    | .escaped => none
    | .raised _ => collectVariants tokenize (k + 1) attempts variants
    | .returned value =>
      match tokenIds value with
      | none => collectVariants tokenize (k + 1) attempts variants
      | some tokens =>
        if variants.any (·.tokens == tokens) then
          collectVariants tokenize (k + 1) attempts variants
        else
          collectVariants tokenize (k + 1) attempts (variants ++ [⟨tokens, variantId, special⟩])

/-- `_tokenize_rendered_prompt_variants_for_plain_completion`. -/
def tokenizeRenderedPromptVariants (runtime : Runtime) : Option (List Variant) :=
  if runtime.tokenizer then
    collectVariants runtime.tokenize 0 (tokenizationAttempts runtime.special) []
  else some []

/-! ## State -/

structure Attempt where
  method : String
  tokenizationVariantId : String
  outcome : Outcome

/-- The variables of the branch. `verdict` is `normalized` with `invalid_reason`. -/
structure Cascade where
  attempts : List Attempt
  result : Option Value
  verdict : Option (Except String Normalized)
  lastInvalidReason : Option String

def Cascade.start : Cascade := ⟨[], none, none, none⟩

def fatalPlainCompletionCategories : List String :=
  ["backend_allocation_failure", "backend_graph_compute_failure", "cuda_memory_allocation",
    "metal_graph_compute_failure", "kv_slot_unavailable", "decode_aborted",
    "backend_decode_failure", "metal_memory_allocation", "kv_cache_allocation",
    "rope_yarn_eval_failure", "worker_timeout", "worker_dead", "context_window_exceeded",
    "context_length_exceeded", "token_overflow"]

/-- `generation_exception_category` of an attempt. -/
def Attempt.generationExceptionCategory (a : Attempt) : Option String :=
  match a.outcome with
  | .raised category => some category
  | _ => none

/-- The category of the last attempt. -/
def Cascade.lastCategory (s : Cascade) : Option String :=
  s.attempts.getLast?.bind (·.generationExceptionCategory)

/-- The last attempt failed fatally. -/
def Cascade.broken (s : Cascade) : Bool :=
  s.lastCategory.any (· ∈ fatalPlainCompletionCategories)

def Cascade.leaked (s : Cascade) : Bool := s.lastInvalidReason == some "thinking_leaked"

/-- What most stages test for: no result, no leak and no fatal failure. -/
def Cascade.ready (s : Cascade) : Bool := s.result.isNone && !s.leaked && !s.broken

/-! ## Stages -/

/-- `result is not None`. -/
def Value.toOption : Value → Option Value
  | .none => Option.none
  | value => some value

variable (runtime : Runtime)

/-- `_attempt_plain_completion`. The error is the state that an exception escaped from. -/
def attempt (method variantId : String) (s : Cascade) : Except Cascade Cascade :=
  let outcome := runtime.generate s.attempts.length
  let s := { s with attempts := s.attempts ++ [⟨method, variantId, outcome⟩] }
  match outcome with
  | .returned value => .ok { s with result := value.toOption }
  | .raised _ => .ok { s with result := none }
  | .escaped => .error s

/-- The result is normalised, and dropped for some of the reasons that make it invalid. -/
def judge (drops : String → Bool) (s : Cascade) : Cascade :=
  match s.result with
  | none => s
  | some value =>
    match normalizePlainCompletionResult value with
    | .ok normalized => { s with verdict := some (.ok normalized) }
    | .error reason =>
      { s with
        verdict := some (.error reason), lastInvalidReason := some reason
        result := if drops reason then none else some value }

/-- The result is normalised once more. -/
def renormalize (s : Cascade) : Cascade :=
  match s.result with
  | none => s
  | some value => { s with verdict := some (normalizePlainCompletionResult value) }

/-- An attempt with the rendered prompt, if the tests let it through. -/
def attemptIf (open_ : Bool) (method : String) (s : Cascade) : Except Cascade Cascade :=
  if open_ then attempt runtime method "" s else pure s

/-- The attempts with the rendered prompt. -/
def promptStages (s : Cascade) : Except Cascade Cascade := do
  let s ← attemptIf runtime runtime.createCompletion "create_completion_keyword_prompt" s
  let s ← attemptIf runtime (s.ready && runtime.createCompletion)
    "create_completion_positional_prompt" s
  let s ← attemptIf runtime (s.result.isNone && runtime.llamaCall && !s.broken)
    "llama_call_positional_prompt" s
  return judge (· ≠ "thinking_leaked") s

/-- The attempts with one variant of the token ids. -/
def variantStage (variant : Variant) (s : Cascade) : Except Cascade Cascade := do
  let variantId := variant.tokenizationVariantId
  let s ← attempt runtime "create_completion_keyword_token_ids" variantId s
  let s := judge (fun _ => true) s
  if s.ready then
    let s ← attempt runtime "create_completion_positional_token_ids" variantId s
    return judge (fun _ => true) s
  else return s

/-- The loop over the variants. -/
def variantLoop : List Variant → Cascade → Except Cascade Cascade
  | [], s => pure s
  | variant :: variants, s =>
    if s.leaked || s.broken then pure s
    else do
      let s ← variantStage runtime variant s
      if s.result.isSome then return s else variantLoop variants s

/-- The attempts with token ids. -/
def tokenStages (s : Cascade) : Except Cascade Cascade :=
  if s.result.isNone && runtime.createCompletion && !s.broken then
    match tokenizeRenderedPromptVariants runtime with
    | none => .error s
    | some variants => variantLoop runtime variants s
  else pure s

/-- The runtime has the chat completion that can do without thinking. -/
def chatSupported : Bool := runtime.createChatCompletion && runtime.chatTemplateKwargs

/-- The attempt with the chat messages. -/
def chatStage (s : Cascade) : Except Cascade Cascade :=
  if s.ready && chatSupported runtime then do
    let s ← attempt runtime "create_chat_completion_qwen_non_thinking" "" s
    return judge (fun _ => false) s
  else pure s

/-! ## The answer -/

/-- What the worker emits, if it emits anything. -/
inductive Reply
  | ok (result : Normalized)
  | requestError (reason : String) (generationExceptionCategory method : Option String)
  | escaped

/-- `attempts[-1].get('method')`. -/
def Cascade.lastMethod (s : Cascade) : String :=
  (s.attempts.getLast?.map (·.method)).getD "create_completion_from_rendered_prompt"

/-- The category of a request without a result. The chat completion that is not supported is only
reported where nothing else went wrong before. -/
def failureCategory (s : Cascade) : String :=
  if s.ready && !chatSupported runtime && s.attempts.isEmpty && s.lastInvalidReason.isNone then
    "unsupported_generation_kwarg"
  else (s.lastInvalidReason <|> s.lastCategory).getD "worker_exception"

/-- The answer that belongs to the last state. -/
def reply (s : Cascade) : Reply :=
  match s.result, s.verdict with
  | some _, some (.ok normalized) => .ok normalized
  | some _, some (.error reason) => .requestError reason (some reason) (some s.lastMethod)
  | _, _ =>
    .requestError "inference_exception" (some (failureCategory runtime s)) (some s.lastMethod)

/-- All stages, from the first state. -/
def stages : Except Cascade Cascade := do
  let s ← promptStages runtime .start
  let s ← tokenStages runtime s
  chatStage runtime (renormalize s)

/-- The branch: its generation calls, in their order, and its answer. The prompt may already fail
to render. -/
def plainCompletion (rendered : Except String Unit) : List Attempt × Reply :=
  match rendered with
  | .error reason => ([], .requestError reason none none)
  | .ok _ =>
    match stages runtime with
    | .error s => (s.attempts, .escaped)
    | .ok s => (s.attempts, reply runtime s)

/-! ## What every stage keeps -/

/-- The outcome after which there must be no further call. -/
def Outcome.Stops : Outcome → Prop
  | .returned value => normalizePlainCompletionResult value = .error "thinking_leaked"
  | .raised category => category ∈ fatalPlainCompletionCategories
  | .escaped => False

/-- The attempts are calls into this runtime, so many at most, and none but the last stops. -/
structure Bounded (calls : ℕ) (s : Cascade) : Prop where
  few : s.attempts.length ≤ calls
  own : s.attempts.map (·.outcome) = (List.range s.attempts.length).map runtime.generate
  earlier : ∀ a ∈ s.attempts.dropLast, ¬ a.outcome.Stops

/-- A result that is there was returned by the last attempt, and if that attempt stops then one
of the tests of the source says so. -/
structure Sound (calls : ℕ) (s : Cascade) : Prop extends Bounded runtime calls s where
  last : ∀ value ∈ s.result, ∃ a ∈ s.attempts.getLast?, a.outcome = .returned value
  halted : ∀ a ∈ s.attempts.getLast?, a.outcome.Stops →
    s.broken = true ∨ s.leaked = true ∨ s.result.isSome = true

/-- What a stage leaves, also where an exception escaped. -/
def Leaves (calls : ℕ) (P : Cascade → Prop) : Except Cascade Cascade → Prop
  | .ok s => Sound runtime calls s ∧ P s
  | .error s => Bounded runtime calls s

variable {runtime} {calls more : ℕ} {s : Cascade} {P Q : Cascade → Prop}

theorem Bounded.mono (le : calls ≤ more) (bounded : Bounded runtime calls s) :
    Bounded runtime more s :=
  ⟨bounded.few.trans le, bounded.own, bounded.earlier⟩

theorem Sound.mono (le : calls ≤ more) (sound : Sound runtime calls s) : Sound runtime more s :=
  ⟨sound.toBounded.mono le, sound.last, sound.halted⟩

theorem Leaves.bind {stage : Except Cascade Cascade} {next : Cascade → Except Cascade Cascade}
    (le : calls ≤ more) (first : Leaves runtime calls P stage)
    (second : ∀ s, Sound runtime calls s → P s → Leaves runtime more Q (next s)) :
    Leaves runtime more Q (stage >>= next) := by
  cases stage with
  | ok s => exact second s first.1 first.2
  | error s => exact Bounded.mono le first

theorem Leaves.mono {stage : Except Cascade Cascade} (le : calls ≤ more)
    (first : Leaves runtime calls P stage) (weaker : ∀ s, P s → Q s) :
    Leaves runtime more Q stage := by
  cases stage with
  | ok s => exact ⟨first.1.mono le, weaker s first.2⟩
  | error s => exact Bounded.mono le first

theorem ready_iff : s.ready = true ↔ s.result = none ∧ s.leaked = false ∧ s.broken = false := by
  unfold Cascade.ready
  rw [Bool.and_eq_true, Bool.and_eq_true, Option.isNone_iff_eq_none, Bool.not_eq_true',
    Bool.not_eq_true', and_assoc]

theorem Sound.not_stopped (sound : Sound runtime calls s) (ready : s.ready = true) :
    ∀ a ∈ s.attempts, ¬ a.outcome.Stops := by
  obtain ⟨none, calm, whole⟩ := ready_iff.mp ready
  intro a member stops
  obtain empty | ⟨front, b, split⟩ := s.attempts.eq_nil_or_concat
  · rw [empty] at member
    cases member
  · rw [List.concat_eq_append] at split
    rw [split, List.mem_append, List.mem_singleton] at member
    obtain before | rfl := member
    · refine sound.earlier a ?_ stops
      rwa [split, List.dropLast_concat]
    · have final : s.attempts.getLast? = some a := by rw [split, List.getLast?_concat]
      obtain broken | leaked | there := sound.halted a final stops
      · exact Bool.false_ne_true (whole.symm.trans broken)
      · exact Bool.false_ne_true (calm.symm.trans leaked)
      · rw [none] at there
        cases there

theorem toOption_eq_some {value value' : Value} (given : value.toOption = some value') :
    value = value' := by
  cases value <;> first | exact Option.some.inj given | cases given

theorem toOption_of_stops {value : Value} (stops : (Outcome.returned value).Stops) :
    value.toOption = some value := by
  cases value with
  | none => exact absurd (Except.error.inj stops) (by decide)
  | _ => rfl

theorem attempt_leaves (method variantId : String) (sound : Sound runtime calls s)
    (ready : s.ready = true) :
    Leaves runtime (calls + 1) (fun s' => s'.lastInvalidReason = s.lastInvalidReason)
      (attempt runtime method variantId s) := by
  have bounded : ∀ result, Bounded runtime (calls + 1)
      { s with
        attempts := s.attempts ++ [⟨method, variantId, runtime.generate s.attempts.length⟩]
        result } := by
    intro result
    refine ⟨?_, ?_, ?_⟩
    · simpa using sound.few
    · simp [sound.own, List.range_succ]
    · rw [List.dropLast_concat]
      exact sound.not_stopped ready
  have latest : (s.attempts ++ [Attempt.mk method variantId
      (runtime.generate s.attempts.length)]).getLast? = some (.mk method variantId
      (runtime.generate s.attempts.length)) := List.getLast?_concat
  unfold attempt
  cases outcome : runtime.generate s.attempts.length with
  | returned value =>
    rw [outcome] at bounded latest
    refine ⟨⟨bounded _, fun value' given => ?_, fun a member stops => ?_⟩, rfl⟩
    · obtain rfl := toOption_eq_some given
      exact ⟨_, latest, rfl⟩
    · obtain rfl := Option.some.inj (latest.symm.trans member)
      exact .inr (.inr (by rw [toOption_of_stops stops]; rfl))
  | raised category =>
    rw [outcome] at bounded latest
    refine ⟨⟨bounded _, nofun, fun a member stops => .inl ?_⟩, rfl⟩
    obtain rfl := Option.some.inj (latest.symm.trans member)
    unfold Cascade.broken Cascade.lastCategory
    rw [latest]
    exact decide_eq_true stops
  | escaped =>
    rw [outcome] at bounded
    exact bounded s.result

/-- A valid result has its verdict. -/
def Judged (s : Cascade) : Prop :=
  ∀ value ∈ s.result, s.verdict = some (normalizePlainCompletionResult value)

theorem judge_sound (drops : String → Bool) (sound : Sound runtime calls s) :
    Sound runtime calls (judge drops s) := by
  unfold judge
  split
  · exact sound
  · next value there =>
    obtain ⟨a, member, returned⟩ := sound.last value there
    split
    · exact ⟨⟨sound.few, sound.own, sound.earlier⟩, sound.last, sound.halted⟩
    · next reason invalid =>
      refine ⟨⟨sound.few, sound.own, sound.earlier⟩, ?_, ?_⟩
      · intro value' given
        dsimp only at given
        split at given
        · cases given
        · cases given
          exact ⟨a, member, returned⟩
      · intro b member' stops
        obtain rfl := Option.some.inj (member.symm.trans member')
        have leaked := returned ▸ stops
        rw [Outcome.Stops, invalid] at leaked
        cases leaked
        exact .inr (.inl rfl)

theorem judge_judged (drops : String → Bool) : Judged (judge drops s) := by
  unfold judge
  split
  · next nothing =>
    intro value given
    rw [nothing] at given
    cases given
  · next value there =>
    split
    · next normalized valid =>
      intro value' given
      cases there.symm.trans given
      rw [valid]
    · next reason invalid =>
      intro value' given
      dsimp only at given
      split at given
      · cases given
      · cases given
        rw [invalid]

theorem renormalize_sound (sound : Sound runtime calls s) :
    Sound runtime calls (renormalize s) := by
  unfold renormalize
  split
  · exact sound
  · exact ⟨⟨sound.few, sound.own, sound.earlier⟩, sound.last, sound.halted⟩

theorem renormalize_judged (s : Cascade) : Judged (renormalize s) := by
  unfold renormalize
  split
  · next nothing =>
    intro value given
    rw [nothing] at given
    cases given
  · next value there =>
    intro value' given
    cases there.symm.trans given
    rfl

/-! ## The stages -/

theorem start_sound : Sound runtime 0 .start :=
  ⟨⟨le_rfl, rfl, nofun⟩, nofun, nofun⟩

theorem not_leaked (valid : s.lastInvalidReason = none) : s.leaked = false := by
  unfold Cascade.leaked
  rw [valid]
  rfl

theorem attemptIf_leaves {open_ : Bool} (method : String) (sound : Sound runtime calls s)
    (ready : open_ = true → s.ready = true) :
    Leaves runtime (calls + 1) (fun s' => s'.lastInvalidReason = s.lastInvalidReason)
      (attemptIf runtime open_ method s) := by
  unfold attemptIf
  split
  · next isOpen => exact attempt_leaves method "" sound (ready isOpen)
  · exact ⟨sound.mono (Nat.le_succ _), rfl⟩

theorem promptStages_leaves : Leaves runtime 3 (fun _ => True) (promptStages runtime .start) := by
  unfold promptStages
  refine Leaves.bind (show 1 ≤ 3 by decide) (attemptIf_leaves _ start_sound fun _ => rfl)
    fun s sound first => ?_
  have second := attemptIf_leaves "create_completion_positional_prompt" sound
    fun open_ : (s.ready && runtime.createCompletion) = true => (Bool.and_eq_true_iff.mp open_).1
  refine Leaves.bind (show 2 ≤ 3 by decide) second fun s' sound second => ?_
  refine Leaves.bind le_rfl (attemptIf_leaves _ sound fun open_ => ?_)
    fun s sound _ => ⟨judge_sound _ sound, trivial⟩
  -- the third test does not ask for a leak: no result was judged before
  simp only [Bool.and_eq_true, Option.isNone_iff_eq_none, Bool.not_eq_true'] at open_
  exact ready_iff.mpr ⟨open_.1.1, not_leaked (second.trans first), open_.2⟩

theorem variantStage_leaves (variant : Variant) (sound : Sound runtime calls s)
    (ready : s.ready = true) :
    Leaves runtime (calls + 2) (fun _ => True) (variantStage runtime variant s) := by
  unfold variantStage
  refine Leaves.bind (Nat.le_succ _) (attempt_leaves _ _ sound ready) fun s sound _ => ?_
  dsimp only
  split
  · next ready' =>
    exact Leaves.bind le_rfl (attempt_leaves _ _ (judge_sound _ sound) ready')
      fun s sound _ => ⟨judge_sound _ sound, trivial⟩
  · exact ⟨(judge_sound _ sound).mono (Nat.le_succ _), trivial⟩

theorem variantLoop_leaves (variants : List Variant) (sound : Sound runtime calls s)
    (nothing : s.result = none) :
    Leaves runtime (calls + 2 * variants.length) (fun _ => True)
      (variantLoop runtime variants s) := by
  induction variants generalizing calls s with
  | nil => exact ⟨sound, trivial⟩
  | cons variant variants ih =>
    have more : calls + 2 + 2 * variants.length = calls + 2 * (variant :: variants).length := by
      rw [List.length_cons]
      omega
    rw [variantLoop, ← more]
    split
    · exact ⟨sound.mono (by omega), trivial⟩
    · next open_ =>
      have ready : s.ready = true := by
        simp only [Bool.or_eq_true, not_or, Bool.not_eq_true] at open_
        exact ready_iff.mpr ⟨nothing, open_⟩
      refine Leaves.bind (Nat.le_add_right ..) (variantStage_leaves variant sound ready)
        fun s sound _ => ?_
      split
      · exact ⟨sound.mono (Nat.le_add_right ..), trivial⟩
      · next left => exact ih sound (Option.not_isSome_iff_eq_none.mp left)

theorem collectVariants_length {tokenize : ℕ → Outcome} {k : ℕ}
    {attempts : List (String × Option Bool)} {variants all : List Variant}
    (collected : collectVariants tokenize k attempts variants = some all) :
    all.length ≤ variants.length + attempts.length := by
  induction attempts generalizing k variants with
  | nil =>
    cases collected
    exact le_rfl
  | cons first attempts ih =>
    rw [collectVariants] at collected
    rw [List.length_cons]
    split at collected
    · cases collected
    · exact (ih collected).trans (by omega)
    · split at collected
      · exact (ih collected).trans (by omega)
      · split at collected
        · exact (ih collected).trans (by omega)
        · refine (ih collected).trans ?_
          rw [List.length_append, List.length_singleton]
          omega

theorem tokenizeRenderedPromptVariants_length {variants : List Variant}
    (tokenized : tokenizeRenderedPromptVariants runtime = some variants) : variants.length ≤ 3 := by
  unfold tokenizeRenderedPromptVariants at tokenized
  split at tokenized
  · refine (collectVariants_length tokenized).trans ?_
    cases runtime.special <;> decide
  · cases tokenized
    exact Nat.zero_le 3

theorem tokenStages_leaves (sound : Sound runtime calls s) :
    Leaves runtime (calls + 6) (fun _ => True) (tokenStages runtime s) := by
  unfold tokenStages
  split
  · next open_ =>
    simp only [Bool.and_eq_true, Option.isNone_iff_eq_none] at open_
    split
    · exact sound.toBounded.mono (Nat.le_add_right ..)
    · next variants tokenized =>
      have few := tokenizeRenderedPromptVariants_length tokenized
      exact (variantLoop_leaves variants sound open_.1.1).mono (by omega) fun _ => id
  · exact ⟨sound.mono (Nat.le_add_right ..), trivial⟩

theorem chatStage_leaves (sound : Sound runtime calls s) (judged : Judged s) :
    Leaves runtime (calls + 1) Judged (chatStage runtime s) := by
  unfold chatStage
  split
  · next open_ =>
    exact Leaves.bind le_rfl (attempt_leaves _ _ sound (Bool.and_eq_true_iff.mp open_).1)
      fun s sound _ => ⟨judge_sound _ sound, judge_judged _⟩
  · exact ⟨sound.mono (Nat.le_succ _), judged⟩

theorem stages_leaves : Leaves runtime 10 Judged (stages runtime) := by
  unfold stages
  refine Leaves.bind (show 3 ≤ 10 by decide) promptStages_leaves fun s sound _ => ?_
  refine Leaves.bind (show 9 ≤ 10 by decide) (tokenStages_leaves sound) fun s sound _ => ?_
  exact chatStage_leaves (renormalize_sound sound) (renormalize_judged s)

theorem reply_eq_ok {normalized : Normalized} (sound : Sound runtime calls s) (judged : Judged s)
    (answered : reply runtime s = .ok normalized) :
    ∃ a ∈ s.attempts.getLast?, ∃ value, a.outcome = .returned value ∧
      normalizePlainCompletionResult value = .ok normalized := by
  unfold reply at answered
  split at answered
  · next value _ there verdict =>
    cases answered
    obtain ⟨a, member, returned⟩ := sound.last value there
    exact ⟨a, member, value, returned, Option.some.inj ((judged value there).symm.trans verdict)⟩
  · cases answered
  · cases answered

variable (runtime)

/-- For every behaviour of the runtime: ten calls at most, none after one that stops, and an
answer only from the value that the last call returned. -/
theorem cascade_bounded_and_fail_closed (rendered : Except String Unit) :
    (plainCompletion runtime rendered).1.map (·.outcome) =
        (List.range (plainCompletion runtime rendered).1.length).map runtime.generate ∧
      (plainCompletion runtime rendered).1.length ≤ 10 ∧
      (∀ a ∈ (plainCompletion runtime rendered).1.dropLast, ¬ a.outcome.Stops) ∧
      ∀ normalized, (plainCompletion runtime rendered).2 = .ok normalized →
        ∃ a ∈ (plainCompletion runtime rendered).1.getLast?, ∃ value,
          a.outcome = .returned value ∧
          normalizePlainCompletionResult value = .ok normalized ∧
          (∃ text ∈ resultText value, normalizeText text = .ok normalized.content) ∧
          PlainContent normalized.content.toList ∧
          (∀ reason ∈ normalized.finishReason,
            ∃ choice ∈ firstChoice value, get "finish_reason" choice = some (.str reason)) ∧
          ∀ field ∈ normalized.usage, ∃ fields own, value = .dict fields ∧
            get "usage" fields = some (.dict own) ∧ ∃ key ∈ usageKeys, field.1 = some key ∧
              get key own = some field.2 ∧ ∃ n ∈ field.2.asInt, 0 ≤ n := by
  unfold plainCompletion
  split
  · exact ⟨rfl, Nat.zero_le 10, nofun, nofun⟩
  · have left : Leaves runtime 10 Judged (stages runtime) := stages_leaves
    split
    · next s escaped =>
      rw [escaped] at left
      exact ⟨left.own, left.few, left.earlier, nofun⟩
    · next s finished =>
      rw [finished] at left
      obtain ⟨sound, judged⟩ := left
      refine ⟨sound.own, sound.few, sound.earlier, fun normalized answered => ?_⟩
      obtain ⟨a, member, value, returned, accepted⟩ := reply_eq_ok sound judged answered
      obtain ⟨read, content, reason, counts⟩ := normalize_ok accepted
      refine ⟨a, member, value, returned, accepted, read, content, fun r given => ?_,
        fun field given => ?_⟩
      · exact (finishReason_eq_some (reason ▸ given)).2
      · exact mem_usage (counts ▸ given)

end PlainCompletion
