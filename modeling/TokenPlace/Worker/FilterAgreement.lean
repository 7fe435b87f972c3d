import TokenPlace.Worker.ThinkFilters

/-!
# Do the two filters agree?

A completion of the runtime goes through `_normalize_plain_completion_result` in the worker and
then through `_assistant_message_from_runtime_completion` in the relay client. This compares the
message with the one that the relay client alone makes of the completion.

Results:
1. `filters_agree_iff`: when both give the same content, or both none.
2. `second_wrapper_rejected`: a completion that only the worker rejects.
-/

namespace PlainCompletion

open ComputeNode (Message imEnd dropImEnd isBlank choiceMessage CleanContent QwenShape
  assistantMessageFromRuntimeCompletion qwenNonThinkingRequired hasReasoningField)

/-! ## Completions as Python values -/

mutual

/-- A JSON value as a Python value. -/
def Value.ofJson : Json → Value
  | .null => .none
  | .bool b => .bool b
  | .number n => if n.den = 1 then .int n.num else .other
  | .string s => .str s
  | .array items => .list (ofItems items)
  | .object fields => .dict (ofFields fields)

def Value.ofItems : List Json → List Value
  | [] => []
  | item :: items => ofJson item :: ofItems items

def Value.ofFields : List (String × Json) → Fields
  | [] => []
  | (key, value) :: fields => (some key, ofJson value) :: ofFields fields

end

/-- A count of the usage as JSON. -/
def countJson : Option String × Value → String × Json
  | (key, .bool b) => (key.getD "", .bool b)
  | (key, .int n) => (key.getD "", .number n)
  | (key, _) => (key.getD "", .null)

/-- The dictionary that the worker emits. -/
def Normalized.toJson (normalized : Normalized) : Json :=
  let message := Json.object
    [("role", .string "assistant"), ("content", .string normalized.content)]
  let choice := ("message", message) ::
    normalized.finishReason.toList.map fun reason => ("finish_reason", .string reason)
  .object (("choices", .array [.object choice]) ::
    if normalized.usage = [] then []
    else [("usage", .object (normalized.usage.map countJson))])

/-- The message that the relay client makes of what the worker emits. -/
def throughWorker (isWord : Char → Bool) (profile completion : Json) : Except String Message :=
  match normalizePlainCompletionResult (.ofJson completion) with
  | .ok normalized => assistantMessageFromRuntimeCompletion isWord profile normalized.toJson
  | .error reason => .error reason

/-- The decision about a completion, and the content if it is accepted. -/
def decision (message : Except String Message) : Option (Option Json) :=
  message.toOption.map (·.lookup "content")

/-! ## The condition -/

/-- The value if it is a text. -/
def textOf : Option Json → Option String
  | some (.string text) => some text
  | _ => none

/-- The content of a message if it is a text. -/
def contentOf : Option Json → Option String
  | some (.object message) => textOf (message.lookup "content")
  | _ => none

/-- The text that the worker reads out of a completion. -/
def workerText : Json → Option String
  | .string text => some text
  | completion => (ComputeNode.firstChoice completion).bind fun choice =>
    (textOf (choice.lookup "text")).or (contentOf (choice.lookup "message"))

/-- The text that the relay client reads out of a completion. -/
def relayText : Json → Option String
  | .string text => some text
  | completion => ((ComputeNode.firstChoice completion).bind choiceMessage).bind fun message =>
    textOf (message.lookup "content")

/-- The relay client returns a message for its tool calls, whatever its content is. -/
def ToolCallsOnly (completion : Json) : Prop :=
  ∃ message ∈ (ComputeNode.firstChoice completion).bind choiceMessage,
    ∀ content, message.lookup "content" = some (.string content) → isBlank content = true

variable (isWord : Char → Bool)

/-- A text of whitespace, empty wrappers in any spelling, this content and at most one marker. -/
def HasContent (text : String) (content : List Char) : Prop :=
  CleanContent isWord content ∧
    ∃ marker, QwenShape text.toList content marker ∧ (marker = [] → ¬ imEnd <:+ content)

/-- The same with no more than one exact wrapper in front, and with a second marker. -/
def PassesBoth (text : String) (content : List Char) : Prop :=
  OneWrapper text.toList ∧
    ∃ first, HasContent isWord text first ∧ dropImEnd first = content ∧ content ≠ []

/-- There is a reasoning field, or both filters read the same text and it has no content, or one
behind at most one exact wrapper and in front of at most one marker. Where they read different
texts, these have the same content. -/
def FiltersAgree (completion : Json) : Prop :=
  hasReasoningField completion = true ∨
    ¬ ToolCallsOnly completion ∧
      if workerText completion = relayText completion then
        ∀ text ∈ relayText completion, ∀ content, HasContent isWord text content →
          OneWrapper text.toList ∧ ¬ imEnd <:+ content
      else
        ∀ content, (∃ text ∈ workerText completion, PassesBoth isWord text content) ↔
          ∃ text ∈ relayText completion, HasContent isWord text content

/-! ## What the worker reads -/

theorem get_ofFields (key : String) (fields : List (String × Json)) :
    get key (Value.ofFields fields) = (fields.lookup key).map .ofJson := by
  induction fields with
  | nil => rfl
  | cons field fields ih =>
    obtain ⟨name, value⟩ := field
    rw [Value.ofFields, get, List.lookup_cons, List.lookup_cons]
    by_cases same : key = name
    · rw [same, beq_self_eq_true, beq_self_eq_true]
      rfl
    · rw [beq_eq_false_iff_ne.mpr same, beq_eq_false_iff_ne.mpr fun h => same (Option.some.inj h)]
      exact ih

theorem any_ofFields (fields : List (String × Json)) :
    (Value.ofFields fields).any (fun field =>
      field.1 == some "reasoning_content" || field.1 == some "reasoning") =
    fields.any fun field => field.1 == "reasoning_content" || field.1 == "reasoning" := by
  induction fields with
  | nil => rfl
  | cons field fields ih =>
    rw [Value.ofFields, List.any_cons, List.any_cons, ih]
    rfl

mutual

theorem containsReasoning_ofJson : ∀ v : Json,
    containsReasoningField (.ofJson v) = hasReasoningField v
  | .null | .bool _ | .string _ => rfl
  | .number n => by
    rw [Value.ofJson]
    split <;> rfl
  | .array items => containsReasoning_ofItems items
  | .object fields => by
    rw [Value.ofJson, containsReasoningField, hasReasoningField, any_ofFields,
      containsReasoning_ofFields fields]

theorem containsReasoning_ofItems : ∀ items : List Json,
    itemsContainReasoning (Value.ofItems items) = ComputeNode.itemsHaveReasoning items
  | [] => rfl
  | item :: items => by
    rw [Value.ofItems, itemsContainReasoning, ComputeNode.itemsHaveReasoning,
      containsReasoning_ofJson item, containsReasoning_ofItems items]

theorem containsReasoning_ofFields : ∀ fields : List (String × Json),
    fieldsContainReasoning (Value.ofFields fields) = ComputeNode.fieldsHaveReasoning fields
  | [] => rfl
  | (_, value) :: fields => by
    rw [Value.ofFields, fieldsContainReasoning, ComputeNode.fieldsHaveReasoning,
      containsReasoning_ofJson value, containsReasoning_ofFields fields]

end

theorem firstChoice_ofJson (v : Json) :
    firstChoice (.ofJson v) = (ComputeNode.firstChoice v).map Value.ofFields := by
  cases v with
  | object fields =>
    simp only [Value.ofJson, firstChoice, ComputeNode.firstChoice, get_ofFields]
    cases fields.lookup "choices" with
    | none => rfl
    | some choices =>
      cases choices with
      | array items =>
        cases items with
        | nil => rfl
        | cons item items =>
          cases item with
          | number n =>
            simp only [Option.map_some, Value.ofJson, Value.ofItems]
            by_cases whole : n.den = 1
            · rw [if_pos whole]; rfl
            · rw [if_neg whole]; rfl
          | _ => rfl
      | number n =>
        simp only [Option.map_some, Value.ofJson]
        by_cases whole : n.den = 1
        · rw [if_pos whole]; rfl
        · rw [if_neg whole]; rfl
      | _ => rfl
  | number n =>
    rw [Value.ofJson]
    split <;> rfl
  | _ => rfl

/-- The value if it is a text. -/
def strOf : Option Value → Option String
  | some (.str text) => some text
  | _ => none

theorem strOf_map (v : Option Json) : strOf (v.map .ofJson) = textOf v := by
  cases v with
  | none => rfl
  | some v =>
    cases v with
    | number n =>
      rw [Option.map_some, Value.ofJson]
      split <;> rfl
    | _ => rfl

theorem choiceText_eq (choice : Fields) :
    choiceText choice = (strOf (get "text" choice)).or
      (match get "message" choice with
      | some (.dict message) => strOf (get "content" message)
      | _ => none) := by
  unfold choiceText
  generalize get "text" choice = text
  cases text with
  | none => rfl
  | some v => cases v <;> rfl

theorem choiceText_ofFields (choice : List (String × Json)) :
    choiceText (Value.ofFields choice) =
      (textOf (choice.lookup "text")).or (contentOf (choice.lookup "message")) := by
  rw [choiceText_eq, get_ofFields, get_ofFields, strOf_map]
  congr 1
  cases choice.lookup "message" with
  | none => rfl
  | some message =>
    cases message with
    | object fields =>
      show strOf (get "content" (Value.ofFields fields)) = _
      rw [get_ofFields, strOf_map]
      rfl
    | number n =>
      simp only [Option.map_some, Value.ofJson]
      by_cases whole : n.den = 1
      · rw [if_pos whole]; rfl
      · rw [if_neg whole]; rfl
    | _ => rfl

theorem resultText_ofJson (v : Json) : resultText (.ofJson v) = workerText v := by
  have choices : ∀ v : Json, (firstChoice (.ofJson v)).bind choiceText =
      (ComputeNode.firstChoice v).bind fun choice =>
        (textOf (choice.lookup "text")).or (contentOf (choice.lookup "message")) := by
    intro v
    rw [firstChoice_ofJson]
    cases ComputeNode.firstChoice v with
    | none => rfl
    | some choice => exact choiceText_ofFields choice
  cases v with
  | string s => rfl
  | object fields => exact choices (.object fields)
  | number n =>
    rw [Value.ofJson]
    split <;> rfl
  | _ => rfl

/-! ## What the relay client makes of it -/

variable {isWord} {profile completion : Json}

theorem decision_normalized (required : qwenNonThinkingRequired profile = true) (raw : String)
    (build : String → Message)
    (content : ∀ cleaned, (build cleaned).lookup "content" = some (.string cleaned)) :
    decision (do
      let cleaned ← ComputeNode.normalizeQwenNonThinkingContent isWord profile (.string raw)
      return build cleaned) =
    (accepted isWord raw.toList).map fun content => some (.string (String.ofList content)) := by
  have same := @normalizeQwen_eq isWord profile required raw
  cases result : ComputeNode.normalizeQwenNonThinkingContent isWord profile (.string raw) with
  | error reason =>
    rw [result] at same
    rw [Option.map_eq_none_iff.mp same.symm]
    rfl
  | ok cleaned =>
    rw [result] at same
    obtain ⟨chars, given, rfl⟩ := Option.map_eq_some_iff.mp same.symm
    rw [given]
    show some ((build _).lookup "content") = _
    rw [content]
    rfl

theorem accepted_blank {text : String} (blank : isBlank text = true) :
    accepted isWord text.toList = none := by
  have spaces := Text.spaces_of_strip_eq_nil (beq_iff_eq.mp blank)
  unfold accepted
  rw [if_pos (core_of_spaces spaces)]

theorem qwenReasoning_clear (clear : hasReasoningField completion = false) :
    ComputeNode.qwenReasoningContentLeaked profile completion = false := by
  rw [ComputeNode.qwenReasoningContentLeaked, clear, Bool.and_false]

theorem relay_decision (required : qwenNonThinkingRequired profile = true)
    (clear : hasReasoningField completion = false) (spoken : ¬ ToolCallsOnly completion) :
    decision (assistantMessageFromRuntimeCompletion isWord profile completion) =
      ((relayText completion).bind fun text => accepted isWord text.toList).map fun content =>
        some (.string (String.ofList content)) := by
  have leak : ComputeNode.qwenReasoningContentLeaked profile completion = false :=
    qwenReasoning_clear clear
  unfold assistantMessageFromRuntimeCompletion
  cases first : ComputeNode.firstChoice completion with
  | some choice =>
    have read : relayText completion =
        (choiceMessage choice).bind fun message => textOf (message.lookup "content") := by
      cases completion with
      | string s => cases first
      | _ =>
        rw [relayText, first]
        · rfl
        · nofun
    simp only [leak, Bool.false_eq_true, if_false]
    rw [read]
    cases chosen : choiceMessage choice with
    | none => rfl
    | some message =>
      -- otherwise the message would be there for its tool calls only
      have heard : ∃ content, message.lookup "content" = some (.string content) ∧
          isBlank content = false := by
        by_contra silent
        refine spoken ⟨message, by rw [first]; exact chosen, fun content given => ?_⟩
        by_contra solid
        exact silent ⟨content, given, Bool.eq_false_iff.mpr solid⟩
      obtain ⟨content, given, solid⟩ := heard
      simp only [given, solid, Bool.false_eq_true, if_false, Option.bind_some, textOf]
      exact decision_normalized required content
        (fun cleaned => Json.setField "content" (.string cleaned) message)
        fun cleaned => Json.lookup_setField ..
  | none =>
    cases completion with
    | string text =>
      dsimp only [relayText]
      rw [Option.bind_some]
      by_cases blank : isBlank text = true
      · rw [if_pos blank, accepted_blank blank]
        rfl
      · rw [if_neg blank]
        exact decision_normalized required text
          (fun cleaned => [("role", .string "assistant"), ("content", .string cleaned)])
          fun _ => rfl
    | _ =>
      rw [relayText, first]
      · rfl
      · nofun

theorem relay_reasoning (required : qwenNonThinkingRequired profile = true)
    (leaked : hasReasoningField completion = true) :
    decision (assistantMessageFromRuntimeCompletion isWord profile completion) = none := by
  have leak : ComputeNode.qwenReasoningContentLeaked profile completion = true := by
    rw [ComputeNode.qwenReasoningContentLeaked, required, leaked, Bool.and_true]
  unfold assistantMessageFromRuntimeCompletion
  split
  · simp only [leak, if_true]
    rfl
  · split
    · cases leaked
    · rfl

theorem relay_toolCalls (clear : hasReasoningField completion = false)
    (silent : ToolCallsOnly completion) :
    ∃ content, decision (assistantMessageFromRuntimeCompletion isWord profile completion) =
      some content ∧ ∀ text, content = some (.string text) → isBlank text = true := by
  obtain ⟨message, given, blank⟩ := silent
  obtain ⟨choice, first, chosen⟩ := Option.bind_eq_some_iff.mp given
  have leak : ComputeNode.qwenReasoningContentLeaked profile completion = false :=
    qwenReasoning_clear clear
  refine ⟨message.lookup "content", ?_, blank⟩
  simp only [assistantMessageFromRuntimeCompletion, first, leak, Bool.false_eq_true, if_false,
    chosen]
  split
  · next content isContent =>
    rw [if_pos (blank content isContent)]
    rfl
  · rfl

theorem counts_clear {counts : Fields}
    (named : ∀ field ∈ counts, ∃ key ∈ usageKeys, field.1 = some key) :
    hasReasoningField (.object (counts.map countJson)) = false := by
  induction counts with
  | nil => rfl
  | cons field counts ih =>
    have rest := ih fun f member => named f (List.mem_cons_of_mem _ member)
    obtain ⟨key, isKey, name⟩ := named field List.mem_cons_self
    obtain ⟨name', value⟩ := field
    cases name
    have clear : (key == "reasoning_content" || key == "reasoning") = false := by
      simp only [usageKeys, List.mem_cons, List.not_mem_nil, or_false] at isKey
      obtain rfl | rfl | rfl := isKey <;> decide
    rw [hasReasoningField, Bool.or_eq_false_iff] at rest ⊢
    rw [List.map_cons, List.any_cons, Bool.or_eq_false_iff]
    cases value <;> exact ⟨⟨clear, rest.1⟩, rest.2⟩

theorem toJson_clear {normalized : Normalized}
    (named : ∀ field ∈ normalized.usage, ∃ key ∈ usageKeys, field.1 = some key) :
    hasReasoningField normalized.toJson = false := by
  have usage := counts_clear named
  unfold Normalized.toJson
  by_cases empty : normalized.usage = []
  · rw [if_pos empty]
    cases normalized.finishReason <;> rfl
  · rw [if_neg empty]
    cases normalized.finishReason <;>
    · show (hasReasoningField (.object (normalized.usage.map countJson)) || false) = false
      rw [usage]
      rfl

theorem toJson_message {normalized : Normalized} (solid : isBlank normalized.content = false) :
    (ComputeNode.firstChoice normalized.toJson).bind choiceMessage =
      some [("role", .string "assistant"), ("content", .string normalized.content)] := by
  let message : Message := [("role", .string "assistant"), ("content", .string normalized.content)]
  have role : message.lookup "role" = some (.string "assistant") := rfl
  have content : message.lookup "content" = some (.string normalized.content) := rfl
  have valid : ComputeNode.validAssistantMessage (some (.object message)) = some message := by
    simp only [ComputeNode.validAssistantMessage, role, content, solid, Bool.not_false,
      Bool.true_or, if_true, ne_eq, not_true_eq_false, if_false]
  have chosen : ∀ others,
      choiceMessage (("message", .object message) :: others) = some message := by
    intro others
    show (ComputeNode.validAssistantMessage (some (.object message)) <|> _) = _
    rw [valid]
    rfl
  unfold Normalized.toJson
  cases normalized.finishReason <;> exact chosen _

theorem not_blank {text : String} (nonempty : text.toList ≠ [])
    (starts : Text.Stops Text.isSpace text.toList) : isBlank text = false := by
  refine Bool.eq_false_iff.mpr fun blank => ?_
  have spaces := Text.spaces_of_strip_eq_nil (beq_iff_eq.mp blank)
  obtain ⟨c, rest, same⟩ := List.exists_cons_of_ne_nil nonempty
  rw [same] at spaces starts
  rw [Text.stops_cons, spaces c List.mem_cons_self] at starts
  cases starts

theorem throughWorker_decision (required : qwenNonThinkingRequired profile = true) :
    decision (throughWorker isWord profile completion) =
      if hasReasoningField completion then none
      else ((workerText completion).bind (filteredByWorker isWord)).map fun content =>
        some (.string (String.ofList content)) := by
  unfold throughWorker
  cases result : normalizePlainCompletionResult (.ofJson completion) with
  | error reason =>
    unfold normalizePlainCompletionResult at result
    rw [containsReasoning_ofJson, resultText_ofJson] at result
    split at result
    · next leaked => rw [if_pos leaked]; rfl
    · next clear =>
      rw [if_neg clear]
      split at result
      · next nothing => rw [nothing]; rfl
      · next text read =>
        rw [read, Option.bind_some, filteredByWorker]
        cases cleaned : normalizeText text with
        | error _ => rfl
        | ok content =>
          rw [cleaned] at result
          cases result
  | ok normalized =>
    obtain ⟨⟨text, read, cleaned⟩, content, _, counts⟩ := normalize_ok result
    rw [resultText_ofJson] at read
    have clear : hasReasoningField completion = false := by
      unfold normalizePlainCompletionResult at result
      rw [containsReasoning_ofJson] at result
      split at result
      · cases result
      · next clear => exact Bool.eq_false_iff.mpr clear
    have named : ∀ field ∈ normalized.usage, ∃ key ∈ usageKeys, field.1 = some key := by
      intro field member
      rw [counts] at member
      obtain ⟨_, _, _, _, key, isKey, name, _⟩ := mem_usage member
      exact ⟨key, isKey, name⟩
    have solid := not_blank content.nonempty content.starts
    have message := toJson_message solid
    have spoken : ¬ ToolCallsOnly normalized.toJson := by
      rintro ⟨other, given, silent⟩
      rw [message] at given
      cases given
      rw [silent normalized.content rfl] at solid
      cases solid
    have reads : relayText normalized.toJson = some normalized.content := by
      show ((ComputeNode.firstChoice normalized.toJson).bind choiceMessage).bind _ = _
      rw [message]
      rfl
    rw [relay_decision required (toJson_clear named) spoken, reads, clear, read, Option.bind_some,
      Option.bind_some, filteredByWorker, cleaned]
    rfl

/-! ## When they agree -/

variable {content : List Char}

theorem accepted_iff (left : isWord '<' = false) (right : isWord '>' = false)
    (space : ∀ c, Text.isSpace c → isWord c = false) (text : String) :
    accepted isWord text.toList = some content ↔ HasContent isWord text content := by
  have required : qwenNonThinkingRequired ComputeNode.qwenProfile = true := by decide +kernel
  have same := @normalizeQwen_eq isWord ComputeNode.qwenProfile required text
  constructor
  · intro given
    rw [given] at same
    have result : ComputeNode.normalizeQwenNonThinkingContent isWord ComputeNode.qwenProfile
        (.string text) = .ok (String.ofList content) := by
      cases result : ComputeNode.normalizeQwenNonThinkingContent isWord ComputeNode.qwenProfile
          (.string text) with
      | error _ => rw [result] at same; cases same
      | ok cleaned => rw [result] at same; rw [Option.some.inj same]
    have clean := (ComputeNode.normalizeQwen_ok left space required result).1
    rw [String.toList_ofList] at clean
    obtain ⟨lead, run, b, spacesLead, wrappers, spacesB, split, _, _, _⟩ := core_eq text.toList
    have dropped : dropImEnd (core text.toList) = content := by
      unfold accepted at given
      split at given
      · cases given
      · split at given
        · cases given
        · split at given
          · cases given
          · exact Option.some.inj given
    -- an end marker that was taken off is the one of the shape; without it the content is whole
    by_cases marked : imEnd <:+ core text.toList
    · obtain ⟨pre, whole⟩ := marked
      obtain ⟨a, spacesA, cut, _⟩ := Text.rstrip_eq pre
      have isRest : Text.rstrip pre = content := by
        rw [← dropped, ← whole, dropImEnd, if_pos (List.suffix_append ..), List.length_append,
          Nat.add_sub_cancel, List.take_left]
      refine ⟨clean, imEnd, ⟨lead, run, a, b, spacesLead, wrappers, spacesA, spacesB, .inr rfl, ?_⟩,
        by rintro ⟨⟩⟩
      rw [split, ← whole, cut, isRest]
      simp only [List.append_assoc]
    · rw [dropImEnd_of_not marked] at dropped
      refine ⟨clean, [], ⟨lead, run, [], b, spacesLead, wrappers, Text.spaces_nil, spacesB,
        .inl rfl, ?_⟩, fun _ => dropped ▸ marked⟩
      rw [split, dropped]
      rfl
  · rintro ⟨clean, marker, shape, closed⟩
    rw [ComputeNode.normalizeQwen_of_shape right space required clean shape closed] at same
    obtain ⟨chars, given, isContent⟩ := Option.map_eq_some_iff.mp same.symm
    rw [given, String.ofList_injective isContent]

theorem again_eq_some {first : List Char} :
    again first = some content ↔ dropImEnd first = content ∧ content ≠ [] := by
  unfold again
  split
  · next empty => exact iff_of_false nofun fun ⟨same, full⟩ => full (same ▸ empty)
  · next full =>
    constructor
    · intro given
      cases given
      exact ⟨rfl, full⟩
    · rintro ⟨rfl, _⟩
      rfl

theorem passesBoth_iff (left : isWord '<' = false) (right : isWord '>' = false)
    (space : ∀ c, Text.isSpace c → isWord c = false) (text : String) :
    filteredByWorker isWord text = some content ↔ PassesBoth isWord text content := by
  rw [filteredByWorker_eq_some left space, Option.bind_eq_some_iff]
  simp only [accepted_iff left right space, again_eq_some]
  rfl

theorem dropImEnd_eq_self (nonempty : content ≠ []) :
    dropImEnd content = content ↔ ¬ imEnd <:+ content := by
  constructor
  · rintro same ⟨pre, rfl⟩
    have shorter : (dropImEnd (pre ++ imEnd)).length ≤ pre.length := by
      rw [dropImEnd, if_pos (List.suffix_append ..), List.length_append, Nat.add_sub_cancel,
        List.take_left]
      exact (List.rdropWhile_prefix _ _).length_le
    rw [same, List.length_append] at shorter
    have : imEnd.length = 10 := by decide +kernel
    omega
  · exact dropImEnd_of_not

/-- For one text: both filters give the same, or its content has more around it than the worker
takes off. -/
theorem filteredByWorker_eq_accepted (left : isWord '<' = false) (right : isWord '>' = false)
    (space : ∀ c, Text.isSpace c → isWord c = false) (text : String) :
    filteredByWorker isWord text = accepted isWord text.toList ↔
      ∀ content, HasContent isWord text content →
        OneWrapper text.toList ∧ ¬ imEnd <:+ content := by
  cases given : accepted isWord text.toList with
  | none =>
    refine iff_of_true ?_ fun content has => ?_
    · cases passed : filteredByWorker isWord text with
      | none => rfl
      | some content =>
        obtain ⟨_, other⟩ := (filteredByWorker_eq_some left space text).mp passed
        rw [given] at other
        cases other
    · rw [(accepted_iff left right space text).mpr has] at given
      cases given
  | some first =>
    have has := (accepted_iff left right space text).mp given
    rw [filteredByWorker_eq_some left space, given, Option.bind_some, again_eq_some,
      dropImEnd_eq_self has.1.nonempty]
    constructor
    · rintro ⟨one, unmarked, _⟩ content other
      rw [(accepted_iff left right space text).mpr other] at given
      cases given
      exact ⟨one, unmarked⟩
    · intro all
      obtain ⟨one, unmarked⟩ := all first has
      exact ⟨one, unmarked, has.1.nonempty⟩

theorem PassesBoth.not_blank {text : String} (passes : PassesBoth isWord text content) :
    isBlank (String.ofList content) = false := by
  obtain ⟨_, first, ⟨clean, _⟩, rfl, nonempty⟩ := passes
  obtain ⟨a, marker, _, _, split, _⟩ := ComputeNode.dropImEnd_spec clean.ends
  have starts := clean.starts
  rw [split] at starts
  refine PlainCompletion.not_blank ?_ ?_ <;> rw [String.toList_ofList]
  · exact nonempty
  · exact starts.of_append nonempty

/-- The completion gives the same decision and content with the worker and without. -/
theorem filters_agree_iff (left : isWord '<' = false) (right : isWord '>' = false)
    (space : ∀ c, Text.isSpace c → isWord c = false)
    (required : qwenNonThinkingRequired profile = true) :
    decision (throughWorker isWord profile completion) =
        decision (assistantMessageFromRuntimeCompletion isWord profile completion) ↔
      FiltersAgree isWord completion := by
  unfold FiltersAgree
  rw [throughWorker_decision required]
  cases leaked : hasReasoningField completion with
  | true =>
    rw [relay_reasoning required leaked]
    exact iff_of_true rfl (.inl rfl)
  | false =>
    simp only [Bool.false_eq_true, if_false, false_or]
    by_cases silent : ToolCallsOnly completion
    · refine iff_of_false (fun same => ?_) fun ⟨spoken, _⟩ => spoken silent
      obtain ⟨other, decided, blank⟩ :=
        @relay_toolCalls isWord profile completion leaked silent
      rw [decided] at same
      obtain ⟨content, given, rfl⟩ := Option.map_eq_some_iff.mp same
      obtain ⟨text, _, passed⟩ := Option.bind_eq_some_iff.mp given
      have solid := ((passesBoth_iff left right space text).mp passed).not_blank
      rw [blank _ rfl] at solid
      cases solid
    · rw [relay_decision required leaked silent]
      have injective : Function.Injective fun content : List Char =>
          some (Json.string (String.ofList content)) := by
        intro c c' same
        exact String.ofList_injective (Json.string.inj (Option.some.inj same))
      rw [(Option.map_injective injective).eq_iff]
      simp only [silent, not_false_eq_true, true_and]
      split
      · next same =>
        rw [same]
        cases relayText completion with
        | none => exact iff_of_true rfl nofun
        | some text =>
          simp only [Option.bind_some, filteredByWorker_eq_accepted left right space,
            Option.mem_some_iff, forall_eq']
      · rw [Option.ext_iff]
        refine forall_congr' fun content => ?_
        simp only [Option.mem_def, Option.bind_eq_some_iff, passesBoth_iff left right space,
          accepted_iff left right space]

open ComputeNode (asciiWord qwenProfile)

def twoWrappers : String := "<think></think><think> </think> answer"

/-- The relay client strips both wrappers, and the worker takes the second for leaked thinking. -/
theorem second_wrapper_rejected :
    decision (assistantMessageFromRuntimeCompletion asciiWord qwenProfile
        (.string twoWrappers)) = some (some (.string "answer")) ∧
      decision (throughWorker asciiWord qwenProfile (.string twoWrappers)) = none := by
  have required : qwenNonThinkingRequired qwenProfile = true := by decide +kernel
  constructor
  · have given : accepted asciiWord twoWrappers.toList = some "answer".toList := by decide +kernel
    rw [relay_decision required rfl (fun ⟨_, inside, _⟩ => nomatch inside), relayText,
      Option.bind_some, given, Option.map_some, String.ofList_toList]
  · rw [throughWorker_decision required, workerText, Option.bind_some]
    have rejected : filteredByWorker asciiWord twoWrappers = none := by decide +kernel
    rw [rejected]
    rfl

def wrappedAnswer : String := "<think>\n</think> answer<|im_end|>"

/-- One wrapper in front of a content is taken off by either. -/
theorem one_wrapper_agrees :
    decision (throughWorker asciiWord qwenProfile (.string wrappedAnswer)) =
      decision (assistantMessageFromRuntimeCompletion asciiWord qwenProfile
        (.string wrappedAnswer)) := by
  have left : asciiWord '<' = false := by decide
  have right : asciiWord '>' = false := by decide
  refine (filters_agree_iff left right (fun _ => ComputeNode.asciiWord_space)
    (by decide +kernel)).mpr (.inr ⟨fun ⟨_, inside, _⟩ => (nomatch inside), ?_⟩)
  have same : workerText (.string wrappedAnswer) = relayText (.string wrappedAnswer) := rfl
  rw [if_pos same]
  rintro text ⟨⟩ content has
  have given : accepted asciiWord wrappedAnswer.toList = some "answer".toList := by decide +kernel
  rw [(accepted_iff left right (fun _ => ComputeNode.asciiWord_space) _).mpr has] at given
  cases given
  have skipped : skipThinkWrapper (Text.strip wrappedAnswer.toList) =
      some "answer<|im_end|>".toList := by decide +kernel
  exact ⟨oneWrapper_of_skip skipped (by decide +kernel), by decide +kernel⟩

end PlainCompletion
