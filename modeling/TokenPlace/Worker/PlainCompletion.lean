import TokenPlace.Node.OutputFilter

/-!
# The result of a plain completion

`_normalize_plain_completion_result` of the worker script. The binding of the runtime is Python
code that may return any value, so this is about Python values and not about JSON. `str.lower` is
followed as far as it makes ASCII letters, and where it makes a text longer.

Results:
1. `normalize_ok`: an accepted result has a content that is not empty, trimmed and free of think
   tags, and its finish reason and usage are those of the value.
-/

namespace PlainCompletion

open Text (Stops EndsTrimmed)
open ComputeNode (dropImEnd)

/-! ## Python values -/

/-- A Python value. The key of a field is `none` if it is not a text, and `other` is a value that
no test here looks into. -/
inductive Value
  | none
  | bool (b : Bool)
  | int (n : ℤ)
  | str (s : String)
  | list (items : List Value)
  | tuple (items : List Value)
  | dict (fields : List (Option String × Value))
  | other

/-- The fields of a dictionary. -/
abbrev Fields := List (Option String × Value)

/-- `fields.get(key)`. -/
def get (key : String) (fields : Fields) : Option Value := fields.lookup (some key)

/-- The number that `isinstance(value, int)` lets through: a truth value is one. -/
def Value.asInt : Value → Option ℤ
  | .bool b => some b.toNat
  | .int n => some n
  | _ => Option.none

mutual

/-- `_completion_contains_reasoning_field`. -/
def containsReasoningField : Value → Bool
  | .dict fields =>
    fields.any (fun field => field.1 == some "reasoning_content" || field.1 == some "reasoning") ||
      fieldsContainReasoning fields
  | .list items => itemsContainReasoning items
  | _ => false

def fieldsContainReasoning : Fields → Bool
  | [] => false
  | (_, value) :: fields => containsReasoningField value || fieldsContainReasoning fields

def itemsContainReasoning : List Value → Bool
  | [] => false
  | item :: items => containsReasoningField item || itemsContainReasoning items

end

/-! ## The text -/

/-- The first choice, if it is a dictionary. -/
def firstChoice : Value → Option Fields
  | .dict completion =>
    match get "choices" completion with
    | some (.list (.dict choice :: _)) => some choice
    | _ => Option.none
  | _ => Option.none

/-- The text of a choice: its `text` before the content of its message. -/
def choiceText (choice : Fields) : Option String :=
  match get "text" choice with
  | some (.str text) => some text
  | _ =>
    match get "message" choice with
    | some (.dict message) =>
      match get "content" message with
      | some (.str content) => some content
      | _ => Option.none
    | _ => Option.none

/-- The text of a result. -/
def resultText : Value → Option String
  | .str text => some text
  | result => (firstChoice result).bind choiceText

/-- `str.lower` for one character. -/
def lowerChar (c : Char) : List Char :=
  if c = '\u0130' then ['i', '\u0307'] else if c = '\u212a' then ['k'] else [c.toLower]

/-- `str.lower`, on the characters. -/
def lower (s : List Char) : List Char := s.flatMap lowerChar

/-- `s.find(w)`. -/
def find (w s : List Char) : Option ℕ :=
  (List.range (s.length + 1)).find? fun i => w <+: s.drop i

/-- `<think>`. -/
def openTag : List Char := ['<', 't', 'h', 'i', 'n', 'k', '>']

/-- `</think>`. -/
def closeTag : List Char := ['<', '/', 't', 'h', 'i', 'n', 'k', '>']

/-- The text behind one exact empty wrapper, or all of it if it does not begin with the tag. -/
def skipThinkWrapper (cleaned : List Char) : Option (List Char) :=
  if openTag <+: lower cleaned then
    match find closeTag (lower cleaned) with
    | some stop =>
      if Text.strip ((cleaned.take stop).drop openTag.length) = [] then
        some (Text.lstrip (cleaned.drop (stop + closeTag.length)))
      else Option.none
    | Option.none => Option.none
  else some cleaned

/-- Neither tag stands in the text, in any case. -/
def ThinkFree (s : List Char) : Prop := ¬ openTag <:+: lower s ∧ ¬ closeTag <:+: lower s

instance (s : List Char) : Decidable (ThinkFree s) :=
  inferInstanceAs (Decidable (_ ∧ _))

/-- The part of `_normalize_plain_completion_result` that cleans the text. -/
def normalizeText (text : String) : Except String String :=
  match skipThinkWrapper (Text.strip text.toList) with
  | Option.none => .error "thinking_leaked"
  | some cleaned =>
    if ThinkFree cleaned then
      if dropImEnd cleaned = [] then .error "empty_completion_output"
      else .ok (String.ofList (dropImEnd cleaned))
    else .error "thinking_leaked"

/-! ## The result -/

/-- A normalised result: one assistant message with this content, and what stands beside it. -/
structure Normalized where
  content : String
  finishReason : Option String
  usage : Fields

/-- The finish reason of a result. -/
def finishReason (result : Value) : Option String :=
  match (firstChoice result).bind (get "finish_reason") with
  | some (.str reason) => if reason = "" then Option.none else some reason
  | _ => Option.none

/-- One count of the usage, if it is an integer that is not negative. -/
def usageField (usage : Fields) (key : String) : Option (Option String × Value) :=
  match get key usage with
  | some count => if ∃ n ∈ count.asInt, 0 ≤ n then some (some key, count) else Option.none
  | Option.none => Option.none

def usageKeys : List String := ["prompt_tokens", "completion_tokens", "total_tokens"]

/-- The usage of a result. -/
def usage : Value → Fields
  | .dict result =>
    match get "usage" result with
    | some (.dict usage) =>
      usageKeys.filterMap (usageField usage)
    | _ => []
  | _ => []

/-- `_normalize_plain_completion_result`: the normalised result, or why it is invalid. -/
def normalizePlainCompletionResult (result : Value) : Except String Normalized :=
  if containsReasoningField result then .error "thinking_leaked"
  else
    match resultText result with
    | Option.none => .error "malformed_completion_output"
    | some text => do
      let content ← normalizeText text
      return ⟨content, finishReason result, usage result⟩

/-! ## What is accepted -/

variable {s t : List Char}

@[simp] theorem lower_append : lower (s ++ t) = lower s ++ lower t := List.flatMap_append

theorem ThinkFree.of_append (free : ThinkFree (s ++ t)) : ThinkFree s := by
  unfold ThinkFree at free
  rw [lower_append] at free
  exact ⟨fun inside => free.1 (inside.trans (List.prefix_append ..).isInfix),
    fun inside => free.2 (inside.trans (List.prefix_append ..).isInfix)⟩

theorem endsTrimmed_of_suffix (suffix : t <:+ s) (trimmed : EndsTrimmed s) : EndsTrimmed t := by
  obtain ⟨pre, rfl⟩ := suffix
  intro c last
  refine trimmed c ?_
  cases t with
  | nil => cases last
  | cons c' t => rwa [List.getLast?_append_of_ne_nil _ (List.cons_ne_nil c' t)]

theorem strip_trimmed (s : List Char) :
    Stops Text.isSpace (Text.strip s) ∧ EndsTrimmed (Text.strip s) := by
  obtain ⟨_, _, _, starts⟩ := Text.lstrip_eq s
  obtain ⟨run, _, split, ends⟩ := Text.rstrip_eq (Text.lstrip s)
  refine ⟨?_, ends⟩
  by_cases empty : Text.strip s = []
  · rw [empty]
    exact Text.stops_nil
  · rw [split] at starts
    exact starts.of_append empty

theorem skipThinkWrapper_trimmed (skipped : skipThinkWrapper s = some t)
    (starts : Stops Text.isSpace s) (ends : EndsTrimmed s) :
    Stops Text.isSpace t ∧ EndsTrimmed t := by
  unfold skipThinkWrapper at skipped
  split at skipped
  · split at skipped
    · split at skipped
      · obtain rfl := Option.some.inj skipped
        exact ⟨Text.dropWhile_stops _ _, endsTrimmed_of_suffix
          ((List.dropWhile_suffix _).trans (List.drop_suffix ..)) ends⟩
      · cases skipped
    · cases skipped
  · obtain rfl := Option.some.inj skipped
    exact ⟨starts, ends⟩

/-- A content that is not empty, not surrounded by whitespace and without an exact think tag. -/
structure PlainContent (content : List Char) : Prop where
  nonempty : content ≠ []
  starts : Stops Text.isSpace content
  ends : EndsTrimmed content
  thinkFree : ThinkFree content

theorem normalizeText_ok {text content : String} (accepted : normalizeText text = .ok content) :
    PlainContent content.toList := by
  unfold normalizeText at accepted
  split at accepted
  · cases accepted
  · next cleaned skipped =>
    split at accepted
    · next free =>
      split at accepted
      · cases accepted
      · next nonempty =>
        cases accepted
        rw [String.toList_ofList]
        obtain ⟨starts, ends⟩ := skipThinkWrapper_trimmed skipped (strip_trimmed _).1
          (strip_trimmed _).2
        obtain ⟨a, marker, _, _, split, trimmed⟩ := ComputeNode.dropImEnd_spec ends
        refine ⟨nonempty, ?_, trimmed, ?_⟩
        · rw [split] at starts
          exact starts.of_append nonempty
        · rw [split] at free
          exact free.of_append
    · cases accepted

theorem finishReason_eq_some {result : Value} {reason : String}
    (given : finishReason result = some reason) :
    reason ≠ "" ∧
      ∃ choice ∈ firstChoice result, get "finish_reason" choice = some (.str reason) := by
  unfold finishReason at given
  split at given
  · next found =>
    split at given
    · cases given
    · next nonempty =>
      cases given
      obtain ⟨choice, first, found⟩ := Option.bind_eq_some_iff.mp found
      exact ⟨nonempty, choice, first, found⟩
  · cases given

theorem usageField_eq_some {fields : Fields} {key : String} {field : Option String × Value}
    (given : usageField fields key = some field) :
    field.1 = some key ∧ get key fields = some field.2 ∧ ∃ n ∈ field.2.asInt, 0 ≤ n := by
  unfold usageField at given
  split at given
  · next count found =>
    split at given
    · next counts =>
      cases given
      exact ⟨rfl, found, counts⟩
    · cases given
  · cases given

theorem mem_usage {result : Value} {field : Option String × Value} (member : field ∈ usage result) :
    ∃ fields own, result = .dict fields ∧ get "usage" fields = some (.dict own) ∧
      ∃ key ∈ usageKeys, field.1 = some key ∧ get key own = some field.2 ∧
        ∃ n ∈ field.2.asInt, 0 ≤ n := by
  unfold usage at member
  split at member
  · next fields =>
    split at member
    · next own found =>
      obtain ⟨key, isKey, given⟩ := List.mem_filterMap.mp member
      exact ⟨fields, own, rfl, found, key, isKey, usageField_eq_some given⟩
    · cases member
  · cases member

theorem normalize_ok {result : Value} {normalized : Normalized}
    (accepted : normalizePlainCompletionResult result = .ok normalized) :
    (∃ text ∈ resultText result, normalizeText text = .ok normalized.content) ∧
      PlainContent normalized.content.toList ∧ normalized.finishReason = finishReason result ∧
      normalized.usage = usage result := by
  unfold normalizePlainCompletionResult at accepted
  split at accepted
  · cases accepted
  · split at accepted
    · cases accepted
    · next text read =>
      cases cleaned : normalizeText text with
      | error reason =>
        rw [cleaned] at accepted
        cases accepted
      | ok content =>
        rw [cleaned] at accepted
        cases accepted
        exact ⟨⟨text, read, cleaned⟩, normalizeText_ok cleaned, rfl, rfl⟩

end PlainCompletion
