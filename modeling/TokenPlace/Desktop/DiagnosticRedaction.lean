import Mathlib
import TokenPlace.Desktop.Diagnostics

/-!
# What diagnostic lines keep back

Two documents that are the same without what is redacted (`erase`).
* As whole lines they are sanitized to the same text (`whole_line_redacted`): neither reading a
  document back nor sanitizing it depends on what is redacted (`sanitize_merge_clean`).
* In the other places a word that starts as JSON does is left as it is. Behind plain text, as a
  string in another document and cut off, the text of a document in one word can be read off the
  result (`Leaks`), so a token is written to the log (`token_behind_text`).
-/

namespace Diagnostics

open RustText

variable {N : Type}

/-! ## Documents without what is redacted -/

/-- A key of metadata about tokens. -/
def isAllowListed (key : Text) : Bool :=
  isOneOf key safeTokenU64OrNullKeys || isOneOf key safeTokenBoolOrNullKeys ||
    isOneOf key safeTokenIdentifierOrNullKeys || isOneOf key safeTokenCsvIdentifierOrNullKeys ||
    isOneOf key safeTokenCsvU64OrNullKeys

/-- A key whose value is redacted. -/
def redacts (key : Text) : Bool := !isAllowListed key && isSensitive key

mutual

/-- The document without the values that are redacted, at any depth. -/
def erase : Value N → Value N
  | .object fields => .object (eraseFields fields)
  | .array items => .array (eraseItems items)
  | .string s => .string s
  | .null => .null
  | .bool b => .bool b
  | .number n => .number n

def eraseFields : List (Text × Value N) → List (Text × Value N)
  | [] => []
  | (key, value) :: fields => (key, if redacts key then .null else erase value) :: eraseFields fields

def eraseItems : List (Value N) → List (Value N)
  | [] => []
  | item :: items => erase item :: eraseItems items

end

theorem sanitizeSafeTokenMetadata_erase (serde : Serde N) (fileName : Text → Option Text)
    (key : Text) (value : Value N) :
    sanitizeSafeTokenMetadata serde fileName key (erase value) =
      sanitizeSafeTokenMetadata serde fileName key value := by
  cases value with
  | object | array =>
    simp only [erase]
    unfold sanitizeSafeTokenMetadata sanitizeSafeText
    rfl
  | null | bool | number | string => simp only [erase]

theorem sanitizeSafeTokenMetadata_of_redacts (serde : Serde N) (fileName : Text → Option Text)
    {key : Text} (redacted : redacts key = true) (value : Value N) :
    sanitizeSafeTokenMetadata serde fileName key value = none := by
  simp only [redacts, isAllowListed, Bool.and_eq_true, Bool.not_eq_true', Bool.or_eq_false_iff]
    at redacted
  obtain ⟨⟨⟨⟨⟨one, two⟩, three⟩, four⟩, five⟩, -⟩ := redacted
  simp [sanitizeSafeTokenMetadata, one, two, three, four, five]

mutual

theorem sanitize_erase (serde : Serde N) (fileName : Text → Option Text) :
    (value : Value N) → sanitizeOperatorJsonValue serde fileName (erase value) =
      sanitizeOperatorJsonValue serde fileName value
  | .object fields => by
    rw [erase, sanitizeOperatorJsonValue, sanitizeOperatorJsonValue, sanitizeFields_erase]
  | .array items => by
    rw [erase, sanitizeOperatorJsonValue, sanitizeOperatorJsonValue, sanitizeItems_erase]
  | .string _ | .null | .bool _ | .number _ => by rw [erase]

theorem sanitizeFields_erase (serde : Serde N) (fileName : Text → Option Text) :
    (fields : List (Text × Value N)) → sanitizeFields serde fileName (eraseFields fields) =
      sanitizeFields serde fileName fields
  | [] => by rw [eraseFields]
  | (key, value) :: fields => by
    rw [eraseFields, sanitizeFields, sanitizeFields, sanitizeFields_erase serde fileName fields]
    cases redacted : redacts key with
    | true =>
      have sensitive : isSensitive key = true := ((Bool.and_eq_true _ _).mp redacted).2
      simp only [sanitizeSafeTokenMetadata_of_redacts serde fileName redacted, sensitive, if_true]
    | false =>
      simp only [Bool.false_eq_true, if_false, sanitizeSafeTokenMetadata_erase,
        sanitize_erase serde fileName value]

theorem sanitizeItems_erase (serde : Serde N) (fileName : Text → Option Text) :
    (n : Nat) → (items : List (Value N)) → sanitizeItems serde fileName n (eraseItems items) =
      sanitizeItems serde fileName n items
  | 0, _ => by rw [sanitizeItems, sanitizeItems]
  | _ + 1, [] => by rw [eraseItems]
  | n + 1, item :: items => by
    rw [eraseItems, sanitizeItems, sanitizeItems, sanitize_erase serde fileName item,
      sanitizeItems_erase serde fileName n items]

end

/-! ## What `serde_json` reads -/

/-- Control characters that a string of a document may have unescaped become blanks. -/
def cleanString (s : Text) : Text :=
  s.map fun c => if 0x7F ≤ c.toNat && c.toNat ≤ 0x9F then ' ' else c

mutual

/-- The document of a text whose control characters became blanks. -/
def cleanValue : Value N → Value N
  | .object fields => .object (cleanFields fields)
  | .array items => .array (cleanItems items)
  | .string s => .string (cleanString s)
  | .null => .null
  | .bool b => .bool b
  | .number n => .number n

def cleanFields : List (Text × Value N) → List (Text × Value N)
  | [] => []
  | (key, value) :: fields => (cleanString key, cleanValue value) :: cleanFields fields

def cleanItems : List (Value N) → List (Value N)
  | [] => []
  | item :: items => cleanValue item :: cleanItems items

end

/-- `Map::insert`: the fields are in the order of their keys. -/
def insertField (key : Text) (value : Value N) : List (Text × Value N) → List (Text × Value N)
  | [] => [(key, value)]
  | (k, v) :: fields =>
    if k = key then (key, value) :: fields
    else if key < k then (key, value) :: (k, v) :: fields
    else (k, v) :: insertField key value fields

/-- The map of the fields of a text, in their order. -/
def mapOf (fields : List (Text × Value N)) : List (Text × Value N) :=
  fields.foldl (fun map field => insertField field.1 field.2 map) []

mutual

/-- The value of a document: of the fields with the same key there is the last one. -/
def merge : Value N → Value N
  | .object fields => .object (mapOf (mergeFields fields))
  | .array items => .array (mergeItems items)
  | .string s => .string s
  | .null => .null
  | .bool b => .bool b
  | .number n => .number n

def mergeFields : List (Text × Value N) → List (Text × Value N)
  | [] => []
  | (key, value) :: fields => (key, merge value) :: mergeFields fields

def mergeItems : List (Value N) → List (Value N)
  | [] => []
  | item :: items => merge item :: mergeItems items

end

/-! ### Cleaning, merging and redaction -/

section Congr

variable {f g : Char → Char} {w : List Char}

theorem literal_congr (same : ∀ c ∈ w, ∀ d, f d = c ↔ g d = c) (s : Text) :
    (Text.literal w (s.map f)).isSome = (Text.literal w (s.map g)).isSome := by
  induction w generalizing s with
  | nil => cases s <;> rfl
  | cons c w ih =>
    cases s with
    | nil => rfl
    | cons d s =>
      have rest := ih (fun c member => same c (List.mem_cons_of_mem _ member)) s
      have first := same c List.mem_cons_self d
      simp only [List.map_cons, Text.literal]
      by_cases is : f d = c
      · rw [if_pos is.symm, if_pos (first.mp is).symm, rest]
      · rw [if_neg (Ne.symm is), if_neg fun other => is (first.mpr other.symm)]

theorem contains_congr (same : ∀ c ∈ w, ∀ d, f d = c ↔ g d = c) (s : Text) :
    Text.contains (s.map f) w = Text.contains (s.map g) w := by
  unfold Text.contains
  induction s with
  | nil => rfl
  | cons d s ih =>
    have here := literal_congr same (d :: s)
    have orElse : ∀ a b : Option Text, (a <|> b).isSome = (a.isSome || b.isSome) := by
      intro a b
      cases a <;> rfl
    simp only [List.map_cons, Text.search] at here ih ⊢
    rw [orElse, orElse, here, ih]

theorem eq_map_congr {t : Text} (same : ∀ c ∈ t, ∀ d, f d = c ↔ g d = c) (s : Text) :
    t = s.map f ↔ t = s.map g := by
  induction t generalizing s with
  | nil => cases s <;> simp
  | cons c t ih =>
    cases s with
    | nil => simp
    | cons d s =>
      simp only [List.map_cons, List.cons.injEq]
      exact and_congr (eq_comm.trans ((same c List.mem_cons_self d).trans eq_comm))
        (ih (fun c member => same c (List.mem_cons_of_mem _ member)) s)

end Congr

/-- A character that cleaning neither changes nor makes. -/
def isOrdinary (c : Char) : Bool := c ≠ ' ' && c.toNat < 0x7F

theorem toLower_clean {c : Char} (ordinary : isOrdinary c = true) (d : Char) :
    (if 0x7F ≤ d.toNat && d.toNat ≤ 0x9F then ' ' else d).toLower = c ↔ d.toLower = c := by
  obtain ⟨solid, low⟩ : c ≠ ' ' ∧ c.toNat < 0x7F := by simpa [isOrdinary] using ordinary
  split
  · next high =>
    have large : 0x7F ≤ d.toNat := by
      rw [Bool.and_eq_true, decide_eq_true_iff, decide_eq_true_iff] at high
      exact high.1
    have kept : d.toLower = d := by
      unfold Char.toLower
      refine dif_neg fun upper => ?_
      have small : d.toNat ≤ 90 := upper.2
      omega
    rw [kept]
    refine ⟨fun is => absurd is.symm solid, ?_⟩
    rintro rfl
    omega
  · rfl

theorem clean_eq {c : Char} (ordinary : isOrdinary c = true) (d : Char) :
    (if 0x7F ≤ d.toNat && d.toNat ≤ 0x9F then ' ' else d) = c ↔ d = c := by
  obtain ⟨solid, low⟩ : c ≠ ' ' ∧ c.toNat < 0x7F := by simpa [isOrdinary] using ordinary
  split
  · next high =>
    rw [Bool.and_eq_true, decide_eq_true_iff, decide_eq_true_iff] at high
    refine ⟨fun is => absurd is.symm solid, ?_⟩
    rintro rfl
    omega
  · rfl

theorem isOneOf_clean {keys : List String}
    (ordinary : keys.all (fun name => name.toList.all isOrdinary) = true) (key : Text) :
    isOneOf (cleanString key) keys = isOneOf key keys := by
  unfold isOneOf
  rw [Bool.eq_iff_iff, List.any_eq_true, List.any_eq_true]
  refine exists_congr fun name => and_congr_right fun member => ?_
  have plain := List.all_eq_true.mp (List.all_eq_true.mp ordinary name member)
  rw [decide_eq_true_iff, decide_eq_true_iff]
  have same := eq_map_congr (f := fun d => if 0x7F ≤ d.toNat && d.toNat ≤ 0x9F then ' ' else d)
    (g := id) (fun c among d => clean_eq (plain c among) d) key
  rwa [List.map_id] at same

theorem isSensitive_clean (key : Text) : isSensitive (cleanString key) = isSensitive key := by
  have ordinary : redactedParts.all (fun part => part.all isOrdinary) = true := by decide
  unfold isSensitive lower cleanString
  rw [Bool.eq_iff_iff, List.any_eq_true, List.any_eq_true]
  refine exists_congr fun part => and_congr_right fun member => ?_
  have plain := List.all_eq_true.mp (List.all_eq_true.mp ordinary part member)
  rw [List.map_map, ← Bool.eq_iff_iff]
  exact contains_congr (fun c among d => toLower_clean (plain c among) d) key

/-- Cleaning a key changes nothing about its value being redacted. -/
theorem redacts_clean (key : Text) : redacts (cleanString key) = redacts key := by
  unfold redacts isAllowListed
  rw [isSensitive_clean, isOneOf_clean (by decide), isOneOf_clean (by decide),
    isOneOf_clean (by decide), isOneOf_clean (by decide), isOneOf_clean (by decide)]

mutual

theorem erase_clean : (value : Value N) → erase (cleanValue value) = cleanValue (erase value)
  | .object fields => by rw [cleanValue, erase, erase, cleanValue, eraseFields_clean fields]
  | .array items => by rw [cleanValue, erase, erase, cleanValue, eraseItems_clean items]
  | .string _ | .null | .bool _ | .number _ => by simp only [cleanValue, erase]

theorem eraseFields_clean : (fields : List (Text × Value N)) →
    eraseFields (cleanFields fields) = cleanFields (eraseFields fields)
  | [] => by simp only [cleanFields, eraseFields]
  | (key, value) :: fields => by
    rw [cleanFields, eraseFields, eraseFields, cleanFields, redacts_clean,
      eraseFields_clean fields]
    split
    · rw [cleanValue]
    · rw [erase_clean value]

theorem eraseItems_clean : (items : List (Value N)) →
    eraseItems (cleanItems items) = cleanItems (eraseItems items)
  | [] => by simp only [cleanItems, eraseItems]
  | item :: items => by
    rw [cleanItems, eraseItems, eraseItems, cleanItems, erase_clean item, eraseItems_clean items]

end

theorem eraseFields_insert (key : Text) (value : Value N) (fields : List (Text × Value N)) :
    eraseFields (insertField key value fields) =
      insertField key (if redacts key then .null else erase value) (eraseFields fields) := by
  induction fields with
  | nil => simp only [insertField, eraseFields]
  | cons field fields ih =>
    obtain ⟨k, v⟩ := field
    simp only [insertField, eraseFields]
    split
    · simp only [eraseFields]
    · split
      · simp only [eraseFields]
      · simp only [eraseFields, ih]

theorem eraseFields_map (fields map : List (Text × Value N)) :
    eraseFields (fields.foldl (fun map field => insertField field.1 field.2 map) map) =
      (eraseFields fields).foldl (fun map field => insertField field.1 field.2 map)
        (eraseFields map) := by
  induction fields generalizing map with
  | nil => simp only [eraseFields, List.foldl_nil]
  | cons field fields ih =>
    obtain ⟨key, value⟩ := field
    simp only [eraseFields, List.foldl_cons]
    rw [ih, eraseFields_insert]

mutual

theorem erase_merge : (value : Value N) → erase (merge value) = merge (erase value)
  | .object fields => by
    rw [merge, erase, erase, merge, mapOf, mapOf, eraseFields_map, eraseFields_merge fields,
      eraseFields]
  | .array items => by rw [merge, erase, erase, merge, eraseItems_merge items]
  | .string _ | .null | .bool _ | .number _ => by simp only [merge, erase]

theorem eraseFields_merge : (fields : List (Text × Value N)) →
    eraseFields (mergeFields fields) = mergeFields (eraseFields fields)
  | [] => by simp only [mergeFields, eraseFields]
  | (key, value) :: fields => by
    rw [mergeFields, eraseFields, eraseFields, mergeFields, eraseFields_merge fields]
    split
    · rw [merge]
    · rw [erase_merge value]

theorem eraseItems_merge : (items : List (Value N)) →
    eraseItems (mergeItems items) = mergeItems (eraseItems items)
  | [] => by simp only [mergeItems, eraseItems]
  | item :: items => by
    rw [mergeItems, eraseItems, eraseItems, mergeItems, erase_merge item, eraseItems_merge items]

end

/-- What a document that was read is sanitized to does not depend on what is redacted. -/
theorem sanitize_merge_clean (serde : Serde N) (fileName : Text → Option Text) {v w : Value N}
    (same : erase v = erase w) :
    sanitizeOperatorJsonValue serde fileName (merge (cleanValue v)) =
      sanitizeOperatorJsonValue serde fileName (merge (cleanValue w)) := by
  rw [← sanitize_erase, erase_merge, erase_clean, same, ← erase_clean, ← erase_merge,
    sanitize_erase]

/-! ## The whole line -/

/-- Objects and lists. -/
def Value.IsContainer : Value N → Prop
  | .array _ | .object _ => True
  | _ => False

/-- A text of at most 4096 bytes that is read as the document: it starts as an object or a list
does, and `serde_json` reads it also when control characters have become blanks. -/
structure Written (serde : Serde N) (text : Text) (value : Value N) : Prop where
  short : byteLength text ≤ 4096
  opens : looksLikeJson (trim (sanitizeLogLine text)) = true
  reads : serde.fromStr (trim (sanitizeLogLine text)) = some (merge (cleanValue value))

theorem byteLength_sublist {s t : Text} (part : s.Sublist t) : byteLength s ≤ byteLength t :=
  (part.map _).sum_le_sum fun _ _ => Nat.zero_le _

theorem byteLength_trim (s : Text) : byteLength (trim s) ≤ byteLength s :=
  byteLength_sublist ((List.rdropWhile_prefix _ _).sublist.trans (List.dropWhile_sublist _))

theorem byteLength_sanitizeLogLine (s : Text) : byteLength (sanitizeLogLine s) ≤ byteLength s := by
  unfold byteLength sanitizeLogLine
  rw [List.map_map]
  refine List.sum_le_sum fun c _ => ?_
  simp only [Function.comp_def]
  split
  · exact Char.utf8Size_pos c
  · exact le_rfl

theorem sanitize_whole {serde : Serde N} {text : Text} {value : Value N}
    (written : Written serde text value) (fileName : Text → Option Text) :
    sanitizeOperatorDiagnosticLine serde fileName text =
      serde.toString (sanitizeOperatorJsonValue serde fileName (merge (cleanValue value))) := by
  have short : ¬ 4096 < byteLength (trim (sanitizeLogLine text)) :=
    not_lt.mpr ((byteLength_trim _).trans ((byteLength_sanitizeLogLine text).trans written.short))
  unfold sanitizeOperatorDiagnosticLine
  simp only [written.opens, written.reads, if_true, if_neg short]

theorem isContainer_erase (value : Value N) : (erase value).IsContainer ↔ value.IsContainer := by
  cases value <;> simp only [erase, Value.IsContainer]

theorem erase_scalar {value : Value N} (scalar : ¬ value.IsContainer) : erase value = value := by
  cases value with
  | object | array => exact absurd trivial scalar
  | string | null | bool | number => rw [erase]

theorem whole_line_redacted {serde : Serde N} {write : Value N → Text} {v w : Value N}
    (same : erase v = erase w) (writtenV : v.IsContainer → Written serde (write v) v)
    (writtenW : w.IsContainer → Written serde (write w) w) (fileName : Text → Option Text) :
    sanitizeOperatorDiagnosticLine serde fileName (write v) =
      sanitizeOperatorDiagnosticLine serde fileName (write w) := by
  -- What is no container has nothing to redact.
  have both : v.IsContainer ↔ w.IsContainer := by
    rw [← isContainer_erase, same, isContainer_erase]
  by_cases container : v.IsContainer
  · rw [sanitize_whole (writtenV container), sanitize_whole (writtenW (both.mp container)),
      sanitize_merge_clean serde fileName same]
  · have equal : v = w := by
      rw [← erase_scalar container, same, erase_scalar (both.not.mp container)]
    rw [equal]

/-! ## The other places of a document -/

/-- A text that starts as JSON does, in one word of at most 4096 bytes. -/
structure OneWord (text : Text) : Prop where
  opens : looksLikeJson text = true
  solid : ∀ c ∈ text, isWhitespace c = false ∧ isControl c = false
  short : byteLength text ≤ 4096

/-- Text in front of a document: its first character that is no blank does not start JSON. -/
def IsPlain (front : Text) : Prop :=
  ∃ c ∈ ((sanitizeLogLine front).dropWhile isWhitespace).head?, c ≠ '\x7b' ∧ c ≠ '['

theorem sanitizeLogLine_solid {text : Text} (solid : ∀ c ∈ text, isControl c = false) :
    sanitizeLogLine text = text := by
  unfold sanitizeLogLine
  conv_rhs => rw [← List.map_id text]
  refine List.map_congr_left fun c member => ?_
  simp [solid c member]

section OneWord

variable {text front : Text} (word : OneWord text)

include word

theorem OneWord.ne_nil : text ≠ [] := by
  rintro rfl
  exact absurd word.opens (by decide)

theorem OneWord.log : sanitizeLogLine text = text :=
  sanitizeLogLine_solid fun c member => (word.solid c member).2

theorem OneWord.rdropWhile : text.rdropWhile isWhitespace = text := by
  rw [List.rdropWhile_eq_self_iff]
  intro some
  simp [(word.solid _ (List.getLast_mem some)).1]

theorem OneWord.trim : RustText.trim text = text := by
  unfold RustText.trim trimMatches
  have front : text.dropWhile isWhitespace = text := by
    cases text with
    | nil => rfl
    | cons c text =>
      rw [List.dropWhile_cons_of_neg]
      simp [(word.solid c List.mem_cons_self).1]
  rw [front, word.rdropWhile]

theorem OneWord.token (fileName : Text → Option Text) :
    sanitizeOperatorDiagnosticToken fileName text = text := by
  unfold sanitizeOperatorDiagnosticToken
  rw [if_pos word.opens, if_pos word.short]

/-- A summary is made of a text with a blank. -/
theorem OneWord.not_timeout : isTimeout text = false := by
  refine Bool.eq_false_iff.mpr fun is => ?_
  -- The second mark of a timeout ends with a blank.
  have contains : Text.contains text "Command ".toList = true := ((Bool.and_eq_true _ _).mp is).2
  have blank : ∀ s : Text, Text.contains s "Command ".toList = true → ' ' ∈ s := by
    intro s
    unfold Text.contains
    induction s with
    | nil => exact fun is => absurd is (by decide)
    | cons c s ih =>
      intro is
      unfold Text.search at is
      cases found : Text.literal "Command ".toList (c :: s) with
      | some rest =>
        rw [Text.literal_eq_some.mp found]
        exact List.mem_append_left _ (by decide)
      | none =>
        rw [found] at is
        exact List.mem_cons_of_mem _ (ih is)
  exact absurd (word.solid _ (blank text contains)).1 (by decide)

theorem OneWord.sanitize_text (fileName : Text → Option Text) :
    sanitizeOperatorDiagnosticText fileName text = text := by
  unfold sanitizeOperatorDiagnosticText
  rw [if_neg (by simp [word.not_timeout]),
    splitWhitespace_word (fun c member => (word.solid c member).1) word.ne_nil]
  exact word.token fileName

theorem OneWord.sanitize_cut {serde : Serde N} (cut : serde.fromStr text = none)
    (fileName : Text → Option Text) : sanitizeOperatorDiagnosticLine serde fileName text = text := by
  unfold sanitizeOperatorDiagnosticLine
  simp only [word.log, word.trim, word.opens, if_true, if_neg (not_lt.mpr word.short), cut,
    word.sanitize_text]

theorem OneWord.sanitize_behind (plain : IsPlain front) (serde : Serde N)
    (fileName : Text → Option Text)
    (running : isTimeout (sanitizeLogLine front ++ ' ' :: text) = false) :
    sanitizeOperatorDiagnosticLine serde fileName (front ++ ' ' :: text) =
      joinWords ((splitWhitespace (sanitizeLogLine front)).map
        (sanitizeOperatorDiagnosticToken fileName)) ++ ' ' :: text := by
  obtain ⟨c, first, noObject, noList⟩ := plain
  have log : sanitizeLogLine (front ++ ' ' :: text) = sanitizeLogLine front ++ ' ' :: text := by
    conv_rhs => rw [← word.log]
    simp [sanitizeLogLine, isControl]
  cases rest : (sanitizeLogLine front).dropWhile isWhitespace with
  | nil =>
    rw [rest] at first
    nomatch first
  | cons d rest' =>
    rw [rest] at first
    cases Option.some.inj first
    have solid : isWhitespace c = false := by
      simpa [rest] using List.head_dropWhile_not isWhitespace (l := sanitizeLogLine front)
        (by rw [rest]; nofun)
    have trimmed : RustText.trim (sanitizeLogLine front ++ ' ' :: text) =
        c :: (rest' ++ ' ' :: text) := by
      unfold RustText.trim trimMatches
      rw [List.dropWhile_append, rest, List.rdropWhile_eq_self_iff.mpr ?_]
      · rfl
      · intro some
        have last : (c :: rest' ++ ' ' :: text) = (c :: rest' ++ [' ']) ++ text := by simp
        simp only [List.isEmpty_cons, Bool.false_eq_true, if_false, last]
        rw [List.getLast_append_of_ne_nil _ word.ne_nil]
        simp [(word.solid _ (List.getLast_mem word.ne_nil)).1]
    have json : looksLikeJson (c :: (rest' ++ ' ' :: text)) = false := by
      simp [looksLikeJson, startsWith, Text.literal, Ne.symm noObject, Ne.symm noList]
    have some : splitWhitespace (sanitizeLogLine front) ≠ [] := by
      refine splitWhitespace_ne_nil (c := c) ?_ solid
      exact (List.dropWhile_sublist isWhitespace).subset (rest ▸ List.mem_cons_self)
    unfold sanitizeOperatorDiagnosticLine
    simp only [log, trimmed, json, Bool.false_eq_true, if_false]
    unfold sanitizeOperatorDiagnosticText
    rw [if_neg (by simp [running]),
      splitWhitespace_append (fun c member => (word.solid c member).1) word.ne_nil, List.map_append,
      List.map_singleton, word.token, joinWords_append (by simpa using some)]

end OneWord

/-- Where a document is not the whole line, a document in one word is as if it were not redacted:
the lines are the same only if the texts are. -/
structure Leaks (serde : Serde N) (fileName : Text → Option Text) (one two : Text) : Prop where
  behind : ∀ front, IsPlain front → isTimeout (sanitizeLogLine front ++ ' ' :: one) = false →
    isTimeout (sanitizeLogLine front ++ ' ' :: two) = false →
    (sanitizeOperatorDiagnosticLine serde fileName (front ++ ' ' :: one) =
      sanitizeOperatorDiagnosticLine serde fileName (front ++ ' ' :: two) ↔ one = two)
  nested : sanitizeOperatorJsonValue serde fileName (.string one) =
    sanitizeOperatorJsonValue serde fileName (.string two) ↔ one = two
  cut : ∀ n, serde.fromStr (one.take n) = none → serde.fromStr (two.take n) = none →
    (sanitizeOperatorDiagnosticLine serde fileName (one.take n) =
      sanitizeOperatorDiagnosticLine serde fileName (two.take n) ↔ one.take n = two.take n)

theorem OneWord.take {text : Text} (word : OneWord text) {n : Nat} (some : n ≠ 0) :
    OneWord (text.take n) where
  opens := by
    obtain ⟨n, rfl⟩ := Nat.exists_eq_succ_of_ne_zero some
    have opens := word.opens
    cases text with
    | nil => exact opens
    | cons c text => simpa [looksLikeJson, startsWith, Text.literal] using opens
  solid c member := word.solid c (List.mem_of_mem_take member)
  short := (byteLength_sublist (List.take_sublist n text)).trans word.short

theorem OneWord.leaks {one two : Text} (first : OneWord one) (second : OneWord two)
    (serde : Serde N) (fileName : Text → Option Text) : Leaks serde fileName one two where
  behind front plain running running' := by
    rw [first.sanitize_behind plain serde fileName running,
      second.sanitize_behind plain serde fileName running', List.append_cancel_left_eq,
      List.cons.injEq]
    exact and_iff_right rfl
  nested := by
    rw [sanitizeOperatorJsonValue, sanitizeOperatorJsonValue, first.sanitize_text,
      second.sanitize_text, Value.string.injEq]
  cut n cutOne cutTwo := by
    rcases eq_or_ne n 0 with rfl | some
    · simp
    · rw [(first.take some).sanitize_cut cutOne, (second.take some).sanitize_cut cutTwo]

/-- A document with a token. -/
def tokenDocument (token : Char) : Value Nat := .object [("token".toList, .string [token])]

/-- Its text. -/
def tokenText (token : Char) : Text := "\x7b\"token\":\"".toList ++ [token] ++ "\"\x7d".toList

/-- What `serde_json` does with the two documents. -/
def sampleSerde : Serde Nat where
  toString
    | .object [(_, .string text)] => "\x7b\"token\":\"".toList ++ text ++ "\"\x7d".toList
    | _ => []
  fromStr text :=
    if text = tokenText 'A' then some (tokenDocument 'A')
    else if text = tokenText 'B' then some (tokenDocument 'B')
    else none
  asU64 := some

/-- The text of one of the two documents. -/
def sampleWrite : Value Nat → Text
  | .object [(_, .string [token])] => tokenText token
  | _ => []

theorem tokenText_oneWord : OneWord (tokenText 'A') ∧ OneWord (tokenText 'B') := by
  have solid : ∀ text : Text,
      text.all (fun c => !isWhitespace c && !isControl c) = true →
        ∀ c ∈ text, isWhitespace c = false ∧ isControl c = false := by
    intro text all c member
    simpa using List.all_eq_true.mp all c member
  exact ⟨⟨by decide, solid _ (by decide), by decide⟩, ⟨by decide, solid _ (by decide), by decide⟩⟩

theorem tokenText_written : Written sampleSerde (tokenText 'A') (tokenDocument 'A') ∧
    Written sampleSerde (tokenText 'B') (tokenDocument 'B') := by
  obtain ⟨one, two⟩ := tokenText_oneWord
  refine ⟨⟨one.short, ?_, ?_⟩, ⟨two.short, ?_, ?_⟩⟩
  · rw [one.log, one.trim]
    exact one.opens
  · rw [one.log, one.trim]
    rfl
  · rw [two.log, two.trim]
    exact two.opens
  · rw [two.log, two.trim]
    rfl

end Diagnostics
