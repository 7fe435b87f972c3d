import TokenPlace.Lib.Json
import TokenPlace.Lib.Text

/-!
# The output of a non-thinking model

`_assistant_message_from_runtime_completion` for the completions of a Qwen model whose thinking
is disabled. Empty think wrappers in front of the content are dropped, a think tag that is left
or a reasoning field anywhere in the completion makes it fail closed.

`isWord` is the class `\w` of a text pattern. Case-insensitive patterns also match the letters
that are folded to an ASCII one.
-/

namespace ComputeNode

/-! ## Patterns -/

/-- What each letter of `think` matches, ignoring case. -/
def thinkLetters : List (List Char) :=
  [['t', 'T'], ['h', 'H'], ['i', 'I', '\u0130', '\u0131'], ['n', 'N'], ['k', 'K', '\u212a']]

/-- What is left after one letter for each class. -/
def letters : List (List Char) → List Char → Option (List Char)
  | [], s => some s
  | cls :: classes, c :: s => if c ∈ cls then letters classes s else none
  | _ :: _, [] => none

/-- What is left after `^<\s*think\s*>\s*<\s*/\s*think\s*>`. -/
def emptyThinkWrapper (s : List Char) : Option (List Char) := do
  let s ← Text.literal ['<'] s
  let s ← letters thinkLetters (Text.lstrip s)
  let s ← Text.literal ['>'] (Text.lstrip s)
  let s ← Text.literal ['<'] (Text.lstrip s)
  let s ← Text.literal ['/'] (Text.lstrip s)
  let s ← letters thinkLetters (Text.lstrip s)
  Text.literal ['>'] (Text.lstrip s)

/-- `/?`. -/
def optionalSlash : List Char → List Char
  | '/' :: s => s
  | s => s

variable (isWord : Char → Bool)

/-- A match of `<\s*/?\s*think\b` at the start: after the last letter a word ends. -/
def thinkTagAt (s : List Char) : Bool :=
  match Text.literal ['<'] s with
  | none => false
  | some s =>
    match letters thinkLetters (Text.lstrip (optionalSlash (Text.lstrip s))) with
    | none => false
    | some [] => true
    | some (c :: _) => !isWord c

/-- `re.search` of the same pattern. -/
def hasThinkTag : List Char → Bool
  | [] => false
  | c :: s => thinkTagAt isWord (c :: s) || hasThinkTag s

variable {isWord}

theorem letters_length {classes : List (List Char)} {s rest : List Char}
    (matched : letters classes s = some rest) : rest.length + classes.length = s.length := by
  induction classes generalizing s with
  | nil =>
    cases matched
    rfl
  | cons cls classes ih =>
    cases s with
    | nil => cases matched
    | cons c s =>
      simp only [letters] at matched
      split at matched
      · have := ih matched
        simp only [List.length_cons]
        omega
      · cases matched

theorem lstrip_length_le (s : List Char) : (Text.lstrip s).length ≤ s.length :=
  (List.dropWhile_suffix _).length_le

theorem emptyThinkWrapper_length {s rest : List Char} (matched : emptyThinkWrapper s = some rest) :
    (Text.lstrip rest).length < s.length := by
  simp only [emptyThinkWrapper, Option.bind_eq_bind, Option.bind_eq_some_iff,
    Text.literal_eq_some] at matched
  obtain ⟨s₁, rfl, s₂, first, s₃, h₃, s₄, h₄, s₅, h₅, s₆, second, h₆⟩ := matched
  have := letters_length first
  have := letters_length second
  have := congrArg List.length h₃
  have := congrArg List.length h₄
  have := congrArg List.length h₅
  have := congrArg List.length h₆
  have := lstrip_length_le s₁
  have := lstrip_length_le s₂
  have := lstrip_length_le s₃
  have := lstrip_length_le s₄
  have := lstrip_length_le s₅
  have := lstrip_length_le s₆
  have := lstrip_length_le rest
  simp only [List.length_append, List.length_cons, List.length_nil] at *
  omega

/-! ## The content -/

/-- The loop that strips the wrappers: what it leaves, and whether it stripped any. -/
def stripThinkWrappers (cleaned : List Char) (strippedAny : Bool) : List Char × Bool :=
  match _matched : emptyThinkWrapper cleaned with
  | none => (cleaned, strippedAny)
  | some rest => stripThinkWrappers (Text.lstrip rest) true
termination_by cleaned.length
decreasing_by exact emptyThinkWrapper_length _matched

/-- `<|im_end|>`. -/
def imEnd : List Char := "<|im_end|>".toList

/-- `_api_v1_qwen_non_thinking_required`. -/
def qwenNonThinkingRequired : Json → Bool
  | .object profile =>
    (match profile.lookup "provider" with
      | some (.string provider) => provider == "qwen"
      | _ => false) &&
    (match profile.lookup "thinking_mode" with
      | some (.string mode) => mode == "disabled"
      | _ => false)
  | _ => false

/-- `not text.strip()`. -/
def isBlank (s : String) : Bool := Text.strip s.toList == []

/-- `cleaned` without the end marker. -/
def dropImEnd (cleaned : List Char) : List Char :=
  if imEnd <:+ cleaned then Text.rstrip (cleaned.take (cleaned.length - imEnd.length)) else cleaned

variable (isWord)

/-- `_api_v1_normalize_qwen_non_thinking_content`: the cleaned content, or the reason. -/
def normalizeQwenNonThinkingContent (profile content : Json) : Except String String :=
  if !qwenNonThinkingRequired profile then
    match content with
    | .string s => if isBlank s then .error "unsupported_completion_shape" else .ok s
    | _ => .error "unsupported_completion_shape"
  else
    match content with
    | .string s =>
      let (cleaned, strippedAny) := stripThinkWrappers (Text.lstrip s.toList) false
      let cleaned := Text.strip cleaned
      if cleaned = [] then
        .error (if strippedAny then "qwen_empty_after_think_wrapper_strip"
          else "unsupported_completion_shape")
      else if hasThinkTag isWord cleaned then .error "qwen_thinking_output_leaked"
      else
        let cleaned := dropImEnd cleaned
        if cleaned = [] then .error "unsupported_completion_shape"
        else .ok (String.ofList cleaned)
    | _ => .error "unsupported_completion_shape"

/-! ## The message -/

mutual

/-- The walk of `_api_v1_qwen_reasoning_content_leaked`. -/
def hasReasoningField : Json → Bool
  | .object fields =>
    fields.any (fun field => field.1 == "reasoning_content" || field.1 == "reasoning") ||
      fieldsHaveReasoning fields
  | .array items => itemsHaveReasoning items
  | _ => false

def fieldsHaveReasoning : List (String × Json) → Bool
  | [] => false
  | (_, value) :: fields => hasReasoningField value || fieldsHaveReasoning fields

def itemsHaveReasoning : List Json → Bool
  | [] => false
  | item :: items => hasReasoningField item || itemsHaveReasoning items

end

/-- `_api_v1_qwen_reasoning_content_leaked`. The policy forbids reasoning content. -/
def qwenReasoningContentLeaked (profile payload : Json) : Bool :=
  qwenNonThinkingRequired profile && hasReasoningField payload

/-- The fields of a message. -/
abbrev Message := List (String × Json)

/-- `_valid_api_v1_assistant_message`. -/
def validAssistantMessage : Option Json → Option Message
  | some (.object message) =>
    match message.lookup "role" with
    | some (.string role) =>
      if role ≠ "assistant" then none
      else
        let contentGiven := match message.lookup "content" with
          | some (.string content) => !isBlank content
          | _ => false
        let toolsCalled := match message.lookup "tool_calls" with
          | some (.array (_ :: _)) => true
          | _ => false
        if contentGiven || toolsCalled then some message else none
    | _ => none
  | _ => none

/-- The first choice, where the completion is an object with a list of choices. -/
def firstChoice : Json → Option Message
  | .object completion =>
    match completion.lookup "choices" with
    | some (.array (.object choice :: _)) => some choice
    | _ => none
  | _ => none

/-- `{**raw_message, "role": "assistant"}` for a message with a content and no role. -/
def withAssistantRole : Option Json → Option Json
  | some (.object message) =>
    if (message.lookup "role").isNone && (message.lookup "content").isSome then
      some (.object (Json.setField "role" (.string "assistant") message))
    else some (.object message)
  | message => message

/-- The message of a choice with a text and no message. -/
def textMessage (choice : Message) : Option Message :=
  match choice.lookup "text", choice.lookup "message" with
  | some (.string text), none =>
    if isBlank text then none
    else some [("role", .string "assistant"), ("content", .string text)]
  | _, _ => none

/-- The message of a choice, before its content is cleaned. -/
def choiceMessage (choice : Message) : Option Message :=
  validAssistantMessage (withAssistantRole (choice.lookup "message")) <|> textMessage choice

/-- `_assistant_message_from_runtime_completion`: the message, or the reason for `None`. -/
def assistantMessageFromRuntimeCompletion (profile completion : Json) : Except String Message :=
  match firstChoice completion with
  | some choice =>
    if qwenReasoningContentLeaked profile completion then .error "qwen_thinking_output_leaked"
    else
      match choiceMessage choice with
      | none => .error "unsupported_completion_shape"
      | some message =>
        match message.lookup "content" with
        | some (.string content) =>
          if isBlank content then .ok message
          else do
            let cleaned ← normalizeQwenNonThinkingContent isWord profile (.string content)
            return Json.setField "content" (.string cleaned) message
        | _ => .ok message
  | none =>
    match completion with
    | .string content =>
      if isBlank content then .error "unsupported_completion_shape"
      else do
        let cleaned ← normalizeQwenNonThinkingContent isWord profile (.string content)
        return [("role", .string "assistant"), ("content", .string cleaned)]
    | _ => .error "unsupported_completion_shape"

end ComputeNode
