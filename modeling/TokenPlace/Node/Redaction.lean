import TokenPlace.Lib.JsonText
import TokenPlace.Lib.Text

/-!
# Redacted diagnostics of relay errors

The body of a relay response that is not 200 goes into logs as a snippet.
`_safe_api_v1_response_body_snippet` removes what is sensitive in one of two ways: a JSON body is
walked, and any other body is rewritten by patterns over its text.
-/

namespace ComputeNode

/-! ## Text substitution -/

/-- `re.sub` for a pattern whose matches are not empty: what stands for a match and how long the
match is. `skip` counts what is left of the last match. -/
def substituteFrom (pattern : List Char → Option (List Char × Nat)) :
    Nat → List Char → List Char
  | _, [] => []
  | skip + 1, _ :: s => substituteFrom pattern skip s
  | 0, c :: s =>
    match pattern (c :: s) with
    | some (new, length) => new ++ substituteFrom pattern (length - 1) s
    | none => c :: substituteFrom pattern 0 s

def substitute (pattern : List Char → Option (List Char × Nat)) (s : List Char) : List Char :=
  substituteFrom pattern 0 s

/-- `_API_V1_REDACTED`. -/
def redacted : List Char := Char.ofNat 0x5B :: "redacted".toList ++ [Char.ofNat 0x5D]

/-- `rendered.replace(secret, _API_V1_REDACTED)`. -/
def replaceSecret (rendered secret : List Char) : List Char :=
  if secret = [] then rendered
  else substitute (fun s => (Text.literal secret s).map fun _ => (redacted, secret.length)) rendered

/-- The lower-case letter that a pattern without regard to case takes a character for. -/
def foldCase (c : Char) : Char :=
  if c = '\u0131' ∨ c = '\u0130' then 'i'
  else if c = '\u017f' then 's'
  else if c = '\u212a' then 'k'
  else c.toLower

/-- What is left after a key, without regard to case. -/
def matchKey : List Char → List Char → Option (List Char)
  | [], s => some s
  | k :: key, c :: s => if foldCase c = k then matchKey key s else none
  | _ :: _, [] => none

/-- `\s*[=:]\s*`. -/
def matchSeparator (s : List Char) : Option (List Char) :=
  match Text.lstrip s with
  | c :: rest => if c = '=' ∨ c = ':' then some (Text.lstrip rest) else none
  | [] => none

/-- A key, its separator and a value: `((?:key|key)\s*[=:]\s*)(value+)`, of which all but the
value is kept. -/
def assignment (keys : List (List Char)) (isValue : Char → Bool) (s : List Char) :
    Option (List Char × Nat) :=
  keys.findSome? fun key => do
    let afterKey ← matchKey key s
    let afterSeparator ← matchSeparator afterKey
    let (_, rest) ← Text.many isValue afterSeparator
    return (s.take (s.length - afterSeparator.length) ++ redacted, s.length - rest.length)

/-- The key of the first pattern. -/
def tokenKeys : List (List Char) := ["x-relay-server-token".toList]

/-- The values of the first pattern: none of whitespace, `<`, `>`, `'` and `"`. -/
def isTokenValue (c : Char) : Bool :=
  !Text.isSpace c && c != '<' && c != '>' && c.toNat != 0x27 && c.toNat != 0x22

/-- `[_-]?` between two words. -/
def joined (first second : List String) : List String :=
  first.flatMap fun a => second.flatMap fun b => [a ++ "_" ++ b, a ++ "-" ++ b, a ++ b]

/-- The keys of the second pattern. -/
def fieldKeys : List (List Char) :=
  (joined ["private"] ["key"] ++ joined ["public"] ["key"] ++
    joined ["server"] (joined ["public"] ["key"]) ++
    joined ["client"] (joined ["public"] ["key"]) ++
    ["ciphertext", "cipherkey", "chat_history", "iv"] ++ joined ["control"] ["credential"] ++
    ["controlcred"] ++ joined ["control"] ["cred"] ++ ["prompt", "content"]).map String.toList

/-- The values of the second pattern: none of whitespace, `,`, `;`, the closing brace and `<`. -/
def isFieldValue (c : Char) : Bool :=
  !Text.isSpace c && c != ',' && c != ';' && c.toNat != 0x7D && c != '<'

/-- `[\r\n\x00]+`, for which a space stands. -/
def lineBreaks (s : List Char) : Option (List Char × Nat) :=
  (Text.many (fun c => c = '\r' || c = '\n' || c.toNat = 0) s).map fun found =>
    ([' '], found.1.length)

/-- `_API_V1_BODY_SNIPPET_LIMIT`. -/
def bodySnippetLimit : Nat := 512

/-- `_redact_sensitive_text`. -/
def redactSensitiveText (secrets : List (List Char)) (text : List Char) : List Char :=
  let rendered := secrets.foldl replaceSecret text
  let rendered := substitute (assignment tokenKeys isTokenValue) rendered
  let rendered := substitute (assignment fieldKeys isFieldValue) rendered
  let rendered := substitute lineBreaks rendered
  if bodySnippetLimit < rendered.length then rendered.take bodySnippetLimit ++ "...".toList
  else rendered

/-! ## The walk over a JSON body -/

/-- `_API_V1_SENSITIVE_BODY_KEYS`. -/
def sensitiveBodyKeys : List String :=
  ["x_relay_server_token", "relay_server_token", "server_registration_token",
    "registration_token", "control_credential", "controlcredential", "control_cred",
    "controlcred", "relay_control_credential", "relay_controlcredential",
    "relaycontrolcredential", "token", "authorization", "private_key", "privatekey",
    "public_key", "publickey", "client_public_key", "server_public_key", "ciphertext",
    "cipherkey", "chat_history", "iv", "messages", "prompt", "content", "api_v1_request",
    "api_v1_response"]

/-- `key.lower().replace("-", "_")`, as far as it gives ASCII. -/
def normalizedKey (key : String) : List Char :=
  key.toList.flatMap fun c =>
    if c = '\u0130' then ['i', '\u0307']
    else if c = '\u212a' then ['k']
    else if c = '-' then ['_']
    else [c.toLower]

def isSensitiveKey (key : String) : Bool :=
  (sensitiveBodyKeys.map String.toList).contains (normalizedKey key)

mutual

/-- `_sanitize_api_v1_json_body`. -/
def sanitizeJsonBody (secrets : List (List Char)) : Json → Json
  | .object fields => .object (sanitizeFields secrets fields)
  | .array items => .array (sanitizeItems secrets 10 items)
  | .string s => .string (String.ofList (redactSensitiveText secrets s.toList))
  | value => value

/-- The entries of a dictionary. -/
def sanitizeFields (secrets : List (List Char)) : List (String × Json) → List (String × Json)
  | [] => []
  | (key, item) :: fields =>
    (key, if isSensitiveKey key then .string (String.ofList redacted)
      else sanitizeJsonBody secrets item) :: sanitizeFields secrets fields

/-- `value[:bound]`, sanitized. -/
def sanitizeItems (secrets : List (List Char)) : Nat → List Json → List Json
  | bound + 1, item :: items =>
    sanitizeJsonBody secrets item :: sanitizeItems secrets bound items
  | 0, _ :: _ => []
  | _, [] => []

end

/-- What the function reads of a response: `response.json()`, if it does not raise, and
`response.text`. -/
structure RelayResponse where
  json : Option Json
  text : List Char

variable (number : ℚ → List Char)

/-- `json.dumps(sanitized, sort_keys=True, separators=(",", ":"))`. -/
def renderSanitized (sanitized : Json) : List Char :=
  sanitized.dumps { itemSpace := false, keySpace := false, sortKeys := true, number }

/-- `_safe_api_v1_response_body_snippet`. A JSON `null` is as good as no JSON. -/
def safeResponseBodySnippet (secrets : List (List Char)) (response : RelayResponse) :
    List Char × Option Json :=
  match response.json with
  | none => (redactSensitiveText secrets response.text, none)
  | some .null => (redactSensitiveText secrets response.text, none)
  | some parsed =>
    let sanitized := sanitizeJsonBody secrets parsed
    (redactSensitiveText secrets (renderSanitized number sanitized), some sanitized)

/-! ## Documents that differ in sensitive values -/

mutual

/-- The document without the values that stand under sensitive keys, at any depth. -/
def masked : Json → Json
  | .object fields => .object (maskedFields fields)
  | .array items => .array (maskedItems items)
  | value => value

def maskedFields : List (String × Json) → List (String × Json)
  | [] => []
  | (key, item) :: fields =>
    (key, if isSensitiveKey key then .null else masked item) :: maskedFields fields

def maskedItems : List Json → List Json
  | [] => []
  | item :: items => masked item :: maskedItems items

end

/-- The documents are equal except for the values under sensitive keys. -/
def EqualExceptSensitive (document other : Json) : Prop := masked document = masked other

mutual

/-- The walk does not look at what is under a sensitive key. -/
theorem sanitizeJsonBody_masked (secrets : List (List Char)) (document : Json) :
    sanitizeJsonBody secrets (masked document) = sanitizeJsonBody secrets document := by
  cases document with
  | null => rfl
  | bool b => rfl
  | number n => rfl
  | string s => rfl
  | array items => exact congrArg Json.array (sanitizeItems_masked secrets 10 items)
  | object fields => exact congrArg Json.object (sanitizeFields_masked secrets fields)

theorem sanitizeFields_masked (secrets : List (List Char)) (fields : List (String × Json)) :
    sanitizeFields secrets (maskedFields fields) = sanitizeFields secrets fields := by
  cases fields with
  | nil => rfl
  | cons field fields =>
    obtain ⟨key, item⟩ := field
    simp only [maskedFields, sanitizeFields, sanitizeFields_masked secrets fields]
    split
    · rfl
    · rw [sanitizeJsonBody_masked secrets item]

theorem sanitizeItems_masked (secrets : List (List Char)) (bound : Nat) (items : List Json) :
    sanitizeItems secrets bound (maskedItems items) = sanitizeItems secrets bound items := by
  cases items with
  | nil => rfl
  | cons item items =>
    cases bound with
    | zero => rfl
    | succ bound =>
      simp only [maskedItems, sanitizeItems, sanitizeItems_masked secrets bound items,
        sanitizeJsonBody_masked secrets item]

end

theorem masked_eq_null {document : Json} : masked document = .null ↔ document = .null := by
  cases document <;> simp [masked]

/-! ## Two runs -/

/-- The body of a response: a document and what follows it. `response.json()` takes whitespace
behind the document, everything else there makes it raise. -/
def responseOf (serialise : Json → List Char) (document : Json) (suffix : List Char) :
    RelayResponse where
  json := if suffix.all Json.isSpace then some document else none
  text := serialise document ++ suffix

/-- The snippet and the sanitised body are the same for all documents that are equal except for
sensitive values, with the same text behind them. -/
def HidesSensitive (serialise : Json → List Char) (suffix : List Char) : Prop :=
  ∀ secrets document other, EqualExceptSensitive document other →
    safeResponseBodySnippet number secrets (responseOf serialise document suffix) =
      safeResponseBodySnippet number secrets (responseOf serialise other suffix)

theorem snippet_json {secrets : List (List Char)} {response : RelayResponse} {parsed : Json}
    (is : response.json = some parsed) (value : parsed ≠ .null) :
    safeResponseBodySnippet number secrets response =
      (redactSensitiveText secrets (renderSanitized number (sanitizeJsonBody secrets parsed)),
        some (sanitizeJsonBody secrets parsed)) := by
  unfold safeResponseBodySnippet
  rw [is]
  cases parsed with
  | null => exact absurd rfl value
  | bool => rfl
  | number => rfl
  | string => rfl
  | array => rfl
  | object => rfl

/-- On a JSON body the walk hides what is sensitive, however the body is written. -/
theorem hidesSensitive_json (serialise : Json → List Char) {suffix : List Char}
    (blank : suffix.all Json.isSpace = true) : HidesSensitive number serialise suffix := by
  intro secrets document other same
  have same' : masked document = masked other := same
  have parses (d : Json) : (responseOf serialise d suffix).json = some d := if_pos blank
  by_cases null : document = .null
  · have null' : other = .null := by
      rw [← masked_eq_null, ← same', masked_eq_null]
      exact null
    rw [null, null']
  · have null' : other ≠ .null := by
      rwa [Ne, ← masked_eq_null, ← same', masked_eq_null]
    have sanitized : sanitizeJsonBody secrets document = sanitizeJsonBody secrets other := by
      rw [← sanitizeJsonBody_masked, same', sanitizeJsonBody_masked]
    rw [snippet_json number (parses document) null, snippet_json number (parses other) null',
      sanitized]

/-! ## What the patterns leave alone -/

variable {pattern : List Char → Option (List Char × Nat)}

/-- Text in which no match begins stays in front. -/
theorem substitute_front {front : List Char} (quiet : ∀ c ∈ front, ∀ s, pattern (c :: s) = none)
    (s : List Char) : substitute pattern (front ++ s) = front ++ substitute pattern s := by
  induction front with
  | nil => rfl
  | cons c front ih =>
    rw [List.forall_mem_cons] at quiet
    have step : substitute pattern (c :: (front ++ s)) = c :: substitute pattern (front ++ s) := by
      simp only [substitute, substituteFrom, quiet.1]
    rw [List.cons_append, step, ih quiet.2, List.cons_append]

/-- The character begins none of the keys. -/
def beginsNone (keys : List (List Char)) (c : Char) : Bool :=
  keys.all fun key => !key.isEmpty && key.head? != some (foldCase c)

theorem assignment_quiet {keys : List (List Char)} {isValue : Char → Bool} {c : Char}
    (none_ : beginsNone keys c = true) (s : List Char) :
    assignment keys isValue (c :: s) = none := by
  rw [assignment, List.findSome?_eq_none_iff]
  intro key member
  have begins := List.all_eq_true.mp none_ key member
  cases key with
  | nil => cases begins
  | cons k key =>
    have other : foldCase c ≠ k := by
      rintro rfl
      simp at begins
    simp only [matchKey, if_neg other]
    rfl

theorem lineBreaks_quiet {c : Char} (other : c ≠ '\r' ∧ c ≠ '\n' ∧ c.toNat ≠ 0) (s : List Char) :
    lineBreaks (c :: s) = none := by
  unfold lineBreaks Text.many
  rw [if_pos]
  · rfl
  · simp [other.1, other.2.1, other.2.2]

/-- A character with which no pattern begins to match. -/
def isQuiet (c : Char) : Bool :=
  beginsNone tokenKeys c && beginsNone fieldKeys c && c != '\r' && c != '\n' && c.toNat != 0

theorem redactSensitiveText_front {front : List Char} (quiet : front.all isQuiet = true)
    (short : front.length ≤ bodySnippetLimit) (s : List Char) :
    front <+: redactSensitiveText [] (front ++ s) := by
  have each (c) (member : c ∈ front) : beginsNone tokenKeys c = true ∧
      beginsNone fieldKeys c = true ∧ (c ≠ '\r' ∧ c ≠ '\n' ∧ c.toNat ≠ 0) := by
    have := List.all_eq_true.mp quiet c member
    simpa [isQuiet, and_assoc] using this
  unfold redactSensitiveText
  dsimp only [List.foldl_nil]
  rw [substitute_front fun c member => assignment_quiet (each c member).1,
    substitute_front fun c member => assignment_quiet (each c member).2.1,
    substitute_front fun c member => lineBreaks_quiet (each c member).2.2]
  split
  · exact ((List.prefix_take_iff.mpr ⟨List.prefix_append .., short⟩)).trans (List.prefix_append ..)
  · exact List.prefix_append ..

/-! ## When the diagnostics hide what is sensitive -/

/-- A document with a token. -/
def tokenDocument (token : String) : Json := .object [("token", .string token)]

theorem tokenDocument_equal (token other : String) :
    EqualExceptSensitive (tokenDocument token) (tokenDocument other) := by
  have sensitive : isSensitiveKey "token" = true := by decide +kernel
  simp [EqualExceptSensitive, tokenDocument, masked, maskedFields, sensitive]

theorem tokenDocument_dumps (format : Json.Format) (token : String) :
    (tokenDocument token).dumps format =
      Char.ofNat 0x7B :: (Json.quote "token" ++ (if format.keySpace then [':', ' '] else [':']) ++
        Json.quote token) ++ [Char.ofNat 0x7D] := by
  cases sorted : format.sortKeys <;>
    simp [tokenDocument, Json.dumps, Json.dumpsFields, Json.fieldsText, Json.separated, sorted,
      List.intercalate]

/-- No pattern matches in the text of the document: its keys are in quotes, and the quote stands
between the key and the colon. -/
theorem tokenDocument_quiet (format : Json.Format) {token : String}
    (known : token = "a" ∨ token = "b") :
    ((tokenDocument token).dumps format).all isQuiet = true ∧
      ((tokenDocument token).dumps format).length ≤ bodySnippetLimit := by
  rw [tokenDocument_dumps]
  obtain rfl | rfl := known <;> cases format.keySpace <;> decide +kernel

theorem snippet_text (secrets : List (List Char)) {serialise : Json → List Char}
    (document : Json) {suffix : List Char} (broken : suffix.all Json.isSpace = false) :
    safeResponseBodySnippet number secrets (responseOf serialise document suffix) =
      (redactSensitiveText secrets (serialise document ++ suffix), none) := by
  unfold safeResponseBodySnippet responseOf
  simp only [broken, Bool.false_eq_true, if_false]

theorem tokenDocument_shown (format : Json.Format) (suffix : List Char) :
    redactSensitiveText [] ((tokenDocument "a").dumps format ++ suffix) ≠
      redactSensitiveText [] ((tokenDocument "b").dumps format ++ suffix) := by
  intro same
  have quietA := tokenDocument_quiet format (.inl rfl : "a" = "a" ∨ "a" = "b")
  have quietB := tokenDocument_quiet format (.inr rfl : "b" = "a" ∨ "b" = "b")
  have front := redactSensitiveText_front quietA.1 quietA.2 suffix
  have front' := redactSensitiveText_front quietB.1 quietB.2 suffix
  rw [same] at front
  have texts := List.prefix_of_prefix_length_le front front' (by
    rw [tokenDocument_dumps, tokenDocument_dumps]
    cases format.keySpace <;> decide +kernel)
  rw [tokenDocument_dumps, tokenDocument_dumps] at texts
  revert texts
  cases format.keySpace <;> decide +kernel

/-- An error of the relay that quotes a registration token. -/
def unauthorizedDocument (token : String) : Json :=
  .object [("error", .string "unauthorized"), ("token", .string token)]

/-- The separators of `json.dumps` as they are by default. -/
def defaultFormat : Json.Format := ⟨true, true, false, fun n => (toString n.num).toList⟩

end ComputeNode
