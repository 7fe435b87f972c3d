import TokenPlace.Lib.Method
import TokenPlace.Node.ThinkTags

/-!
# The output is filtered fail-closed

What `_api_v1_normalize_qwen_non_thinking_content` accepts, what it rejects, and what follows for
the messages of all three shapes of completions. A blank content is not filtered: it only stands
next to tool calls.
-/

namespace ComputeNode

open Text (Spaces Stops EndsTrimmed)

variable {isWord : Char → Bool}

/-! ## The cleaned content -/

/-- A raw content: whitespace, empty think wrappers, the content and whitespace with at most one
end marker. -/
def QwenShape (raw content marker : List Char) : Prop :=
  ∃ lead run a b, Spaces lead ∧ ThinkWrappers run ∧ Spaces a ∧ Spaces b ∧
    (marker = [] ∨ marker = imEnd) ∧
    raw = lead ++ (run ++ (content ++ (a ++ (marker ++ b))))

/-- A content that is not empty, not surrounded by whitespace and without a think tag. -/
structure CleanContent (isWord : Char → Bool) (content : List Char) : Prop where
  nonempty : content ≠ []
  starts : Stops Text.isSpace content
  ends : EndsTrimmed content
  untagged : hasThinkTag isWord content = false

theorem dropImEnd_spec {s : List Char} (trimmed : EndsTrimmed s) :
    ∃ a marker, Spaces a ∧ (marker = [] ∨ marker = imEnd) ∧ s = dropImEnd s ++ (a ++ marker) ∧
      EndsTrimmed (dropImEnd s) := by
  unfold dropImEnd
  split
  · next suffix =>
    obtain ⟨pre, rfl⟩ := suffix
    obtain ⟨a, spaces, split, ends⟩ := Text.rstrip_eq pre
    have taken : (pre ++ imEnd).take ((pre ++ imEnd).length - imEnd.length) = pre := by
      rw [List.length_append, Nat.add_sub_cancel, List.take_left]
    rw [taken]
    refine ⟨a, imEnd, spaces, .inr rfl, ?_, ends⟩
    rw [← List.append_assoc, ← split]
  · exact ⟨[], [], Text.spaces_nil, .inl rfl, (List.append_nil s).symm, trimmed⟩

theorem dropImEnd_append {content a : List Char} (ends : EndsTrimmed content) (spaces : Spaces a) :
    dropImEnd (content ++ (a ++ imEnd)) = content := by
  unfold dropImEnd
  rw [← List.append_assoc, if_pos (List.suffix_append ..), List.length_append,
    Nat.add_sub_cancel, List.take_left, Text.rstrip_append ends spaces]

theorem stops_marker {a marker : List Char} (angle : isWord '<' = false)
    (space : ∀ c, Text.isSpace c → isWord c = false) (spaces : Spaces a)
    (isMarker : marker = [] ∨ marker = imEnd) : Stops isWord (a ++ marker) := by
  cases a with
  | nil =>
    obtain rfl | rfl := isMarker
    · exact Text.stops_nil
    · exact Text.stops_cons.mpr angle
  | cons c a => exact Text.stops_cons.mpr (space c (spaces c List.mem_cons_self))

theorem letterless_marker {a marker b : List Char} (spacesA : Spaces a) (spacesB : Spaces b)
    (isMarker : marker = [] ∨ marker = imEnd) :
    ∀ c ∈ a ++ (marker ++ b), c ∉ ['k', 'K', '\u212a'] := by
  have space : ∀ c, Text.isSpace c → c ∉ ['k', 'K', '\u212a'] := by
    intro c isSpace member
    simp only [List.mem_cons, List.not_mem_nil, or_false] at member
    obtain rfl | rfl | rfl := member <;> exact absurd isSpace (by decide)
  intro c member
  simp only [List.mem_append] at member
  obtain inA | inMarker | inB := member
  · exact space c (spacesA c inA)
  · obtain rfl | rfl := isMarker
    · cases inMarker
    · have letterless : imEnd.all (· ∉ ['k', 'K', '\u212a']) = true := by decide +kernel
      exact of_decide_eq_true (List.all_eq_true.mp letterless c inMarker)
  · exact space c (spacesB c inB)

variable {raw : String} {content marker : List Char} {completion : Json} {message : Message}
  {profile : Json}

theorem normalizeQwen_ok {raw content : String} (angle : isWord '<' = false)
    (space : ∀ c, Text.isSpace c → isWord c = false)
    (required : qwenNonThinkingRequired profile = true)
    (accepted : normalizeQwenNonThinkingContent isWord profile (.string raw) = .ok content) :
    CleanContent isWord content.toList ∧ ∃ marker, QwenShape raw.toList content.toList marker := by
  obtain ⟨lead, spacesLead, splitLead, starts⟩ := Text.lstrip_eq raw.toList
  obtain ⟨run, wrappers, splitRun, starts⟩ :=
    stripThinkWrappers_spec (Text.lstrip raw.toList) false starts
  obtain ⟨b, spacesB, splitB, ends⟩ :=
    Text.rstrip_eq (stripThinkWrappers (Text.lstrip raw.toList) false).1
  simp only [normalizeQwenNonThinkingContent, required, Bool.not_true, Bool.false_eq_true,
    if_false, Text.strip, Text.lstrip_of_stops starts] at accepted
  generalize (stripThinkWrappers (Text.lstrip raw.toList) false).1 = stripped at *
  generalize (stripThinkWrappers (Text.lstrip raw.toList) false).2 = strippedAny at *
  generalize Text.rstrip stripped = cleaned at *
  split at accepted
  · cases accepted
  · split at accepted
    · cases accepted
    · next untagged =>
      split at accepted
      · cases accepted
      · next nonempty =>
        cases accepted
        rw [String.toList_ofList]
        obtain ⟨a, marker, spacesA, isMarker, splitA, ends⟩ := dropImEnd_spec ends
        refine ⟨⟨nonempty, ?_, ends, ?_⟩, marker, lead, run, a, b, spacesLead, wrappers, spacesA,
          spacesB, isMarker, ?_⟩
        · rw [splitB, splitA, List.append_assoc] at starts
          exact starts.of_append nonempty
        · refine Bool.eq_false_iff.mpr fun tagged => untagged ?_
          rw [splitA]
          exact hasThinkTag_append (stops_marker angle space spacesA isMarker) tagged
        · rw [splitLead, splitRun, splitB]
          nth_rewrite 1 [splitA]
          simp only [List.append_assoc]

theorem normalizeQwen_of_shape
    (angle : isWord '>' = false) (space : ∀ c, Text.isSpace c → isWord c = false)
    (required : qwenNonThinkingRequired profile = true) (clean : CleanContent isWord content)
    (shape : QwenShape raw.toList content marker) (closed : marker = [] → ¬ imEnd <:+ content) :
    normalizeQwenNonThinkingContent isWord profile (.string raw) = .ok (String.ofList content) := by
  obtain ⟨lead, run, a, b, spacesLead, wrappers, spacesA, spacesB, isMarker, split⟩ := shape
  obtain ⟨nonempty, starts, ends, untagged⟩ := clean
  have tail : hasThinkTag isWord (content ++ (a ++ (marker ++ b))) = false :=
    Bool.eq_false_iff.mpr fun tagged => Bool.eq_false_iff.mp untagged
      (hasThinkTag_of_append (letterless_marker spacesA spacesB isMarker) tagged)
  have starts' : Stops Text.isSpace (content ++ (a ++ (marker ++ b))) := starts.append nonempty
  have done : emptyThinkWrapper (content ++ (a ++ (marker ++ b))) = none := by
    refine Option.eq_none_iff_forall_ne_some.mpr fun rest found => ?_
    obtain ⟨w, wrapper, same⟩ := emptyThinkWrapper_eq_some.mp found
    refine Bool.eq_false_iff.mp tail (hasThinkTag_iff.mpr ⟨_, List.suffix_rfl, ?_⟩)
    rw [same]
    exact wrapper.beginsThinkTag angle space
  have lstripped : Text.lstrip raw.toList = run ++ (content ++ (a ++ (marker ++ b))) := by
    rw [split]
    exact Text.lstrip_append spacesLead (wrappers.stops starts')
  have trimmed : ∃ cleaned, Text.rstrip (content ++ (a ++ (marker ++ b))) = cleaned ∧
      cleaned ≠ [] ∧ hasThinkTag isWord cleaned = false ∧ dropImEnd cleaned = content := by
    obtain rfl | rfl := isMarker
    · refine ⟨content, Text.rstrip_append ends (spacesA.append spacesB), nonempty, untagged, ?_⟩
      exact if_neg (closed rfl)
    · refine ⟨content ++ (a ++ imEnd), ?_, by simp [nonempty], ?_, dropImEnd_append ends spacesA⟩
      · rw [← List.append_assoc a, ← List.append_assoc]
        refine Text.rstrip_append ?_ spacesB
        intro c last
        have isLast : c = '>' := by
          rw [← List.append_assoc, List.getLast?_append_of_ne_nil _ (by decide)] at last
          exact (Option.some.inj last).symm
        rw [isLast]
        decide
      · refine Bool.eq_false_iff.mpr fun tagged => Bool.eq_false_iff.mp untagged ?_
        refine hasThinkTag_of_append ?_ tagged
        intro c member
        exact letterless_marker spacesA Text.spaces_nil (.inr rfl) c (by simpa using member)
  obtain ⟨cleaned, stripped, full, pure_, dropped⟩ := trimmed
  simp only [normalizeQwenNonThinkingContent, required, Bool.not_true, Bool.false_eq_true,
    if_false, lstripped, stripThinkWrappers_append wrappers done starts', Text.strip,
    Text.lstrip_of_stops starts', stripped, if_neg full, pure_, dropped, if_neg nonempty]

/-! ## Messages -/

/-- The content that the runtime put into a choice. -/
def choiceContent (choice : Message) : Option String :=
  match choice.lookup "message" with
  | some (.object message) =>
    match message.lookup "content" with
    | some (.string content) => some content
    | _ => none
  | some _ => none
  | none =>
    match choice.lookup "text" with
    | some (.string text) => some text
    | _ => none

/-- The raw content of a completion. -/
def rawContent (completion : Json) : Option String :=
  match firstChoice completion with
  | some choice => choiceContent choice
  | none =>
    match completion with
    | .string content => some content
    | _ => none

/-- No object at any depth has a reasoning field. -/
def ReasoningFree (completion : Json) : Prop :=
  ∀ fields, Json.Within (.object fields) completion →
    ∀ field ∈ fields, field.1 ≠ "reasoning_content" ∧ field.1 ≠ "reasoning"

theorem itemsHaveReasoning_of_mem {item : Json} {items : List Json} (member : item ∈ items)
    (found : hasReasoningField item = true) : itemsHaveReasoning items = true := by
  induction member with
  | head => simp [itemsHaveReasoning, found]
  | tail _ _ ih => simp [itemsHaveReasoning, ih]

theorem fieldsHaveReasoning_of_mem {key : String} {value : Json} {fields : List (String × Json)}
    (member : (key, value) ∈ fields) (found : hasReasoningField value = true) :
    fieldsHaveReasoning fields = true := by
  induction fields with
  | nil => cases member
  | cons field fields ih =>
    obtain rfl | member := List.mem_cons.mp member
    · simp [fieldsHaveReasoning, found]
    · simp [fieldsHaveReasoning, ih member]

theorem hasReasoningField_of_within {v completion : Json} (inside : Json.Within v completion)
    (found : hasReasoningField v = true) : hasReasoningField completion = true := by
  induction inside with
  | here => exact found
  | item member _ ih => exact itemsHaveReasoning_of_mem member ih
  | field member _ ih =>
    simp only [hasReasoningField, fieldsHaveReasoning_of_mem member ih, Bool.or_true]

theorem reasoningFree_of_walk (clear : hasReasoningField completion = false) :
    ReasoningFree completion := by
  intro fields inside field member
  by_contra reasoning
  have named : field.1 = "reasoning_content" ∨ field.1 = "reasoning" := by
    by_contra neither
    exact reasoning (not_or.mp neither)
  have found : hasReasoningField (.object fields) = true := by
    simp only [hasReasoningField, Bool.or_eq_true, List.any_eq_true, beq_iff_eq]
    exact .inl ⟨field, member, named⟩
  rw [hasReasoningField_of_within inside found] at clear
  cases clear

theorem validAssistantMessage_eq_some {raw : Option Json}
    (valid : validAssistantMessage raw = some message) :
    raw = some (.object message) ∧
      ∀ content, message.lookup "content" = some (.string content) → isBlank content = true →
        ∃ call calls, message.lookup "tool_calls" = some (.array (call :: calls)) := by
  unfold validAssistantMessage at valid
  split at valid
  · split at valid
    · split at valid
      · cases valid
      · simp only [Option.ite_none_right_eq_some, Option.some.injEq] at valid
        obtain ⟨given, rfl⟩ := valid
        refine ⟨rfl, fun content isContent blank => ?_⟩
        rw [isContent] at given
        simp only [blank, Bool.not_true, Bool.false_or] at given
        split at given
        · next call calls called => exact ⟨call, calls, called⟩
        · cases given
    · cases valid
  · cases valid

theorem withAssistantRole_eq_some {raw : Option Json}
    (given : withAssistantRole raw = some (.object message)) :
    ∃ before, raw = some (.object before) ∧
      message.lookup "content" = before.lookup "content" := by
  unfold withAssistantRole at given
  split at given
  · next before =>
    split at given
    · cases given
      exact ⟨before, rfl, Json.lookup_setField_of_ne (by decide) ..⟩
    · cases given
      exact ⟨_, rfl, rfl⟩
  · exact ⟨message, given, rfl⟩

theorem choiceMessage_content {choice message : Message}
    (chosen : choiceMessage choice = some message)
    (content : message.lookup "content" = some (.string raw)) :
    choiceContent choice = some raw ∧ (isBlank raw = true →
      ∃ call calls, message.lookup "tool_calls" = some (.array (call :: calls))) := by
  unfold choiceMessage at chosen
  cases valid : validAssistantMessage (withAssistantRole (choice.lookup "message")) with
  | some message' =>
    rw [valid] at chosen
    cases chosen
    obtain ⟨isMessage, tools⟩ := validAssistantMessage_eq_some valid
    obtain ⟨before, isBefore, same⟩ := withAssistantRole_eq_some isMessage
    refine ⟨?_, tools raw content⟩
    simp only [choiceContent, isBefore, ← same, content]
  | none =>
    rw [valid] at chosen
    change textMessage choice = some message at chosen
    unfold textMessage at chosen
    split at chosen
    · next text missing given =>
      split at chosen
      · cases chosen
      · next solid =>
        cases chosen
        cases content
        refine ⟨?_, fun blank => absurd blank solid⟩
        simp only [choiceContent, given, missing]
    · cases chosen

mutual

theorem reasoning_of_walk : ∀ {v : Json}, hasReasoningField v = true →
    ∃ fields, Json.Within (.object fields) v ∧
      ∃ field ∈ fields, field.1 = "reasoning_content" ∨ field.1 = "reasoning"
  | .object fields, found => by
    simp only [hasReasoningField, Bool.or_eq_true, List.any_eq_true, beq_iff_eq] at found
    obtain ⟨field, member, named⟩ | deeper := found
    · exact ⟨fields, .here, field, member, named⟩
    · obtain ⟨key, value, member, inner, inside, here⟩ := reasoning_of_fields deeper
      exact ⟨inner, .field member inside, here⟩
  | .array items, found => by
    obtain ⟨item, member, inner, inside, here⟩ := reasoning_of_items found
    exact ⟨inner, .item member inside, here⟩

theorem reasoning_of_fields : ∀ {fields : List (String × Json)},
    fieldsHaveReasoning fields = true → ∃ key value, (key, value) ∈ fields ∧
      ∃ inner, Json.Within (.object inner) value ∧
        ∃ field ∈ inner, field.1 = "reasoning_content" ∨ field.1 = "reasoning"
  | (key, value) :: fields, found => by
    simp only [fieldsHaveReasoning, Bool.or_eq_true] at found
    obtain here | later := found
    · exact ⟨key, value, List.mem_cons_self, reasoning_of_walk here⟩
    · obtain ⟨key', value', member, inner⟩ := reasoning_of_fields later
      exact ⟨key', value', List.mem_cons_of_mem _ member, inner⟩

theorem reasoning_of_items : ∀ {items : List Json},
    itemsHaveReasoning items = true → ∃ item ∈ items,
      ∃ inner, Json.Within (.object inner) item ∧
        ∃ field ∈ inner, field.1 = "reasoning_content" ∨ field.1 = "reasoning"
  | item :: items, found => by
    simp only [itemsHaveReasoning, Bool.or_eq_true] at found
    obtain here | later := found
    · exact ⟨item, List.mem_cons_self, reasoning_of_walk here⟩
    · obtain ⟨item', member, inner⟩ := reasoning_of_items later
      exact ⟨item', List.mem_cons_of_mem _ member, inner⟩

end

theorem hasReasoningField_eq_false :
    hasReasoningField completion = false ↔ ReasoningFree completion := by
  refine ⟨reasoningFree_of_walk, fun free => Bool.eq_false_iff.mpr fun found => ?_⟩
  obtain ⟨fields, inside, field, member, named⟩ := reasoning_of_walk found
  obtain ⟨first, second⟩ := free fields inside field member
  exact named.elim first second

/-- The message of the first choice, if there is one, is that of the assistant or has no role. -/
def AssistantRole (completion : Json) : Prop :=
  ∀ choice message, firstChoice completion = some choice →
    choice.lookup "message" = some (.object message) →
    message.lookup "role" = none ∨ message.lookup "role" = some (.string "assistant")

theorem choiceMessage_of_content {choice : Message} (solid : isBlank raw = false)
    (role : ∀ message, choice.lookup "message" = some (.object message) →
      message.lookup "role" = none ∨ message.lookup "role" = some (.string "assistant"))
    (content : choiceContent choice = some raw) :
    ∃ message, choiceMessage choice = some message ∧
      message.lookup "content" = some (.string raw) := by
  unfold choiceContent at content
  split at content
  · next message given =>
    split at content
    · next text isContent =>
      cases content
      have roled : ∃ after, withAssistantRole (some (.object message)) = some (.object after) ∧
          after.lookup "role" = some (.string "assistant") ∧
          after.lookup "content" = some (.string raw) := by
        obtain missing | there := role message given
        · refine ⟨Json.setField "role" (.string "assistant") message, ?_,
            Json.lookup_setField .., ?_⟩
          · simp only [withAssistantRole, missing, isContent, Option.isNone_none,
              Option.isSome_some, Bool.and_self, if_true]
          · rw [Json.lookup_setField_of_ne (by decide), isContent]
        · refine ⟨message, ?_, there, isContent⟩
          simp only [withAssistantRole, there, Option.isNone_some, Bool.false_and,
            Bool.false_eq_true, if_false]
      obtain ⟨after, isAfter, isRole, same⟩ := roled
      refine ⟨after, ?_, same⟩
      simp only [choiceMessage, given, isAfter, validAssistantMessage, isRole, same, solid,
        Bool.not_false, Bool.true_or, if_true, ne_eq, not_true_eq_false, if_false]
      rfl
    · cases content
  · cases content
  · next missing =>
    split at content
    · next text given =>
      cases content
      refine ⟨[("role", .string "assistant"), ("content", .string raw)], ?_, rfl⟩
      simp only [choiceMessage, missing, withAssistantRole, validAssistantMessage, textMessage,
        given, solid, Bool.false_eq_true, if_false]
      rfl
    · cases content

theorem QwenShape.not_blank
    (clean : CleanContent isWord content) (shape : QwenShape raw.toList content marker) :
    isBlank raw = false := by
  refine Bool.eq_false_iff.mpr fun blank => ?_
  have spaces := Text.spaces_of_strip_eq_nil (beq_iff_eq.mp blank)
  obtain ⟨lead, run, a, b, _, _, _, _, _, split⟩ := shape
  obtain ⟨c, rest, rfl⟩ := List.exists_cons_of_ne_nil clean.nonempty
  have solid := Text.stops_cons.mp clean.starts
  rw [spaces c (by rw [split]; simp)] at solid
  cases solid

/-- The output of a model that must not think is filtered fail-closed: a message whose content is
text has a clean content of the raw shape, or a blank content next to tool calls, and it comes
from a completion without a reasoning field. Every clean content is accepted in its shape, unless
it ends with the end marker and none follows. -/
theorem qwenOutput_fail_closed (left : isWord '<' = false) (right : isWord '>' = false)
    (space : ∀ c, Text.isSpace c → isWord c = false) {profile : Json}
    (required : qwenNonThinkingRequired profile = true) :
    (∀ completion message content,
      assistantMessageFromRuntimeCompletion isWord profile completion = .ok message →
      message.lookup "content" = some (.string content) →
      ReasoningFree completion ∧ ∃ raw, rawContent completion = some raw ∧
        (isBlank raw = false ∧ CleanContent isWord content.toList ∧
            (∃ marker, QwenShape raw.toList content.toList marker) ∨
          isBlank raw = true ∧ content = raw ∧
            ∃ call calls, message.lookup "tool_calls" = some (.array (call :: calls)))) ∧
    (∀ completion raw content marker, rawContent completion = some raw →
      ReasoningFree completion → AssistantRole completion → CleanContent isWord content →
      QwenShape raw.toList content marker → (marker = [] → ¬ imEnd <:+ content) →
      ∃ message, assistantMessageFromRuntimeCompletion isWord profile completion = .ok message ∧
        message.lookup "content" = some (.string (String.ofList content))) ∧
    ∀ s rest, emptyThinkWrapper s = some rest → (Text.lstrip rest).length < s.length := by
  refine ⟨fun completion message content accepted isContent => ?_,
    fun completion raw content marker isRaw free role clean shape closed => ?_,
    fun s rest matched => emptyThinkWrapper_length matched⟩
  · unfold assistantMessageFromRuntimeCompletion at accepted
    unfold rawContent
    cases choices : firstChoice completion with
    | some choice =>
      simp only [choices] at accepted ⊢
      split at accepted
      · cases accepted
      · next clear =>
        simp only [qwenReasoningContentLeaked, required, Bool.true_and] at clear
        refine ⟨reasoningFree_of_walk (Bool.eq_false_iff.mpr clear), ?_⟩
        split at accepted
        · cases accepted
        · next before chosen =>
          split at accepted
          · next raw isRaw =>
            obtain ⟨given, tools⟩ := choiceMessage_content chosen isRaw
            refine ⟨raw, given, ?_⟩
            split at accepted
            · next blank =>
              cases accepted
              cases isRaw.symm.trans isContent
              exact .inr ⟨blank, rfl, tools blank⟩
            · next solid =>
              obtain ⟨cleaned, normalized, same⟩ := Method.bind_ok_iff.mp accepted
              cases same
              rw [Json.lookup_setField] at isContent
              cases isContent
              exact .inl ⟨Bool.eq_false_iff.mpr solid,
                normalizeQwen_ok left space required normalized⟩
          · next other =>
            cases accepted
            exact absurd isContent (other _)
    | none =>
      simp only [choices] at accepted ⊢
      split at accepted
      · next raw =>
        refine ⟨by rintro fields ⟨⟩, raw, rfl, ?_⟩
        split at accepted
        · cases accepted
        · next solid =>
          obtain ⟨cleaned, normalized, same⟩ := Method.bind_ok_iff.mp accepted
          cases same
          cases isContent
          exact .inl ⟨Bool.eq_false_iff.mpr solid,
            normalizeQwen_ok left space required normalized⟩
      · cases accepted
  · have solid := shape.not_blank clean
    have normalized := normalizeQwen_of_shape right space required clean shape closed
    unfold rawContent at isRaw
    unfold assistantMessageFromRuntimeCompletion
    cases choices : firstChoice completion with
    | some choice =>
      simp only [choices] at isRaw ⊢
      obtain ⟨message, chosen, given⟩ :=
        choiceMessage_of_content solid (fun message => role choice message choices) isRaw
      refine ⟨Json.setField "content" (.string (String.ofList content)) message, ?_,
        Json.lookup_setField ..⟩
      simp only [qwenReasoningContentLeaked, hasReasoningField_eq_false.mpr free, Bool.and_false,
        Bool.false_eq_true, if_false, chosen, given, solid, normalized]
      rfl
    | none =>
      simp only [choices] at isRaw ⊢
      split at isRaw
      · cases isRaw
        refine ⟨[("role", .string "assistant"), ("content", .string (String.ofList content))], ?_,
          rfl⟩
        simp only [solid, Bool.false_eq_true, if_false, normalized]
        rfl
      · cases isRaw

/-- A profile that requires the filter. -/
def qwenProfile : Json :=
  .object [("provider", .string "qwen"), ("thinking_mode", .string "disabled")]

/-- The class `\w` on ASCII. -/
def asciiWord (c : Char) : Bool := c.isAlphanum || c == '_'

theorem asciiWord_space {c : Char} (space : Text.isSpace c) : asciiWord c = false := by
  have number : c.toNat = c.val.toNat := rfl
  simp only [Text.isSpace, number, Bool.or_eq_true, Bool.and_eq_true, decide_eq_true_eq,
    beq_iff_eq] at space
  have underscore : c ≠ '_' := by
    rintro rfl
    revert space
    decide
  simp only [asciiWord, Char.isAlphanum, Char.isAlpha, Char.isUpper, Char.isLower, Char.isDigit,
    beq_eq_false_iff_ne.mpr underscore, Bool.or_false, Bool.or_eq_false_iff, Bool.and_eq_false_iff,
    decide_eq_false_iff_not, UInt32.le_iff_toNat_le, ge_iff_le]
  have bounds : 'A'.val.toNat = 65 ∧ 'Z'.val.toNat = 90 ∧ 'a'.val.toNat = 97 ∧
      'z'.val.toNat = 122 ∧ '0'.val.toNat = 48 ∧ '9'.val.toNat = 57 := by decide
  omega

/-- A tool call without a content. -/
def toolCallMessage : Message :=
  [("role", .string "assistant"), ("content", .string ""), ("tool_calls", .array [.object []])]

/-- An empty content is returned next to a tool call, and the end marker alone is a clean content
that is rejected. -/
theorem qwenOutput_not_as_stated :
    (∃ message, assistantMessageFromRuntimeCompletion asciiWord qwenProfile
        (.object [("choices", .array [.object [("message", .object toolCallMessage)]])]) =
          .ok message ∧ message.lookup "content" = some (.string "")) ∧
      QwenShape "<|im_end|>".toList imEnd [] ∧ CleanContent asciiWord imEnd ∧
      assistantMessageFromRuntimeCompletion asciiWord qwenProfile (.string "<|im_end|>") =
        .error "unsupported_completion_shape" := by
  refine ⟨⟨toolCallMessage, rfl, rfl⟩, ?_, ?_, ?_⟩
  · exact ⟨[], [], [], [], Text.spaces_nil, .nil, Text.spaces_nil, Text.spaces_nil, .inl rfl,
      by decide +kernel⟩
  · exact ⟨by decide +kernel, by decide +kernel, by decide +kernel, by decide +kernel⟩
  · have stripped : stripThinkWrappers (Text.lstrip "<|im_end|>".toList) false = (imEnd, false) :=
      stripThinkWrappers_none (by decide +kernel)
    have normalized : normalizeQwenNonThinkingContent asciiWord qwenProfile
        (.string "<|im_end|>") = .error "unsupported_completion_shape" := by
      simp only [normalizeQwenNonThinkingContent, stripped]
      rfl
    simp only [assistantMessageFromRuntimeCompletion, firstChoice, normalized]
    rfl

theorem qwenOutput_sample :
    ∃ message, assistantMessageFromRuntimeCompletion asciiWord qwenProfile
        (.string "<think></think>\n hello <|im_end|>") = .ok message ∧
      message.lookup "content" = some (.string "hello") := by
  have clean : CleanContent asciiWord "hello".toList :=
    ⟨by decide +kernel, by decide +kernel, by decide +kernel, by decide +kernel⟩
  refine (qwenOutput_fail_closed (by decide +kernel) (by decide +kernel) (fun c => asciiWord_space)
    (by decide +kernel)).2.1 _ _ "hello".toList imEnd rfl (fun fields inside => nomatch inside)
    nofun clean ?_ nofun
  have wrapper : IsEmptyThinkWrapper "<think></think>".toList := by
    obtain ⟨w, wrapper, same⟩ := emptyThinkWrapper_eq_some.mp
      (by decide +kernel : emptyThinkWrapper "<think></think>".toList = some [])
    rw [same, List.append_nil]
    exact wrapper
  exact ⟨[], "<think></think>".toList ++ ("\n ".toList ++ []), [' '], [], Text.spaces_nil,
    .cons wrapper (by decide +kernel) .nil, by decide +kernel, Text.spaces_nil, .inr rfl,
    by decide +kernel⟩

end ComputeNode
