import TokenPlace.Desktop.DiagnosticPaths
import TokenPlace.Desktop.DiagnosticRedaction

/-!
# Redaction in the words of a line

What a line becomes does not depend on the user info, the path and the query of its URLs, nor on the
directories of its paths, and it does not change again in a second run. A URL in quotes is the
exception: its quote is trimmed off only after the word was taken for no URL.
-/

namespace Diagnostics

open RustText
open Search (infix_of_infix_append_cons)

/-! ## Words -/

/-- A word of a line. -/
inductive Token
  | other (s : Text)
  | url (u : Url)
  | path (p : Path)
  | keyedUrl (key : Text) (separator : Char) (u : Url)
  | keyedPath (key : Text) (separator : Char) (p : Path)

def Token.text : Token → Text
  | .other s => s
  | .url u => u.text
  | .path p => p.text
  | .keyedUrl key separator u => key ++ separator :: u.text
  | .keyedPath key separator p => key ++ separator :: p.text

/-- The word without what is to be hidden. -/
def Token.bare : Token → Token
  | .other s => .other s
  | .url u => .url u.bare
  | .path p => .path p.bare
  | .keyedUrl key separator u => .keyedUrl key separator u.bare
  | .keyedPath key separator p => .keyedPath key separator p.bare

/-- The rule for paths is reached: it comes first for a path of Windows with a drive or two slashes,
and last for another one. -/
def IsPathToken (s : Text) : Prop :=
  isWindowsDrivePathLike s = true ∨ isWindowsExtendedOrUncPathLike s = true ∨
    '=' ∉ s ∧ ':' ∉ s ∧ isPathLike s = true

/-- No word starts as JSON does. A URL is not wrapped, a path may be, and behind a key with a colon
neither has an equals sign. -/
def Token.Valid : Token → Prop
  | .other s => looksLikeJson s = false
  | .url u => u.Valid
  | .path p => p.Valid ∧ looksLikeJson p.text = false ∧ isUrl p.text = false ∧ IsPathToken p.text
  | .keyedUrl key separator u => IsKey key separator ∧ u.Valid ∧ (separator = ':' → '=' ∉ u.text)
  | .keyedPath key separator p =>
    IsKey key separator ∧ p.Valid ∧ isUrl p.text = false ∧ isPathLike p.text = true ∧
      (separator = ':' → '=' ∉ p.text)

/-- What a word becomes. -/
def Token.shown (fileName : Text → Option Text) : Token → Text
  | .other s => sanitizeOperatorDiagnosticToken fileName s
  | .url u => u.bare.text
  | .path p => shortPath p.shown
  | .keyedUrl key separator u => key ++ separator :: u.bare.text
  | .keyedPath key separator p => key ++ separator :: shortPath p.shown

section Token

variable {token : Token} (fileName : Text → Option Text)

/-- What a word becomes does not depend on what is to be hidden. -/
theorem Token.shown_bare : token.bare.shown fileName = token.shown fileName := by
  cases token <;> rfl

variable {s : Text}

theorem sanitizeToken_path (json : looksLikeJson s = false) (url : isUrl s = false)
    (path : IsPathToken s) :
    sanitizeOperatorDiagnosticToken fileName s = sanitizePathDisplay fileName s := by
  unfold sanitizeOperatorDiagnosticToken
  simp only [json, url, Bool.false_eq_true, if_false]
  rcases path with drive | unc | ⟨noEquals, noColon, is⟩
  · rw [drive, Bool.true_or, if_pos rfl]
  · rw [unc, Bool.or_true, if_pos rfl]
  · -- Without a separator the word goes past the rule for keys.
    have keyed : ∀ separator, separator ∉ s → sanitizeKeyed fileName s separator = none := by
      intro separator absent
      unfold sanitizeKeyed splitOnce
      rw [if_neg absent]
      rfl
    rw [keyed '=' noEquals, keyed ':' noColon]
    simp only [is, if_true, Option.orElse_eq_orElse, Option.orElse_none, ite_self]

theorem Token.Valid.sanitize (valid : token.Valid) :
    sanitizeOperatorDiagnosticToken fileName token.text = token.shown fileName := by
  cases token with
  | other s => rfl
  | url u =>
    have json : looksLikeJson u.text = false := by
      unfold Url.text Url.scheme
      split <;> rfl
    show sanitizeOperatorDiagnosticToken fileName u.text = u.bare.text
    unfold sanitizeOperatorDiagnosticToken
    simp only [json, isUrl_url, Bool.false_eq_true, if_false, if_true]
    exact sanitizeUrlDisplay_url valid
  | path p =>
    obtain ⟨valid, json, url, path⟩ := valid
    exact (sanitizeToken_path fileName json url path).trans (valid.display fileName)
  | keyedUrl key separator u =>
    obtain ⟨isKey, valid, single⟩ := valid
    refine isKey.sanitize fileName single ?_
    unfold sanitizeKeyed
    rw [isKey.splitOnce_same, Option.bind_some]
    dsimp only
    rw [if_pos (isUrl_url u), sanitizeUrlDisplay_url valid]
    rfl
  | keyedPath key separator p =>
    obtain ⟨isKey, valid, url, path, single⟩ := valid
    refine isKey.sanitize fileName single ?_
    unfold sanitizeKeyed
    rw [isKey.splitOnce_same, Option.bind_some]
    dsimp only
    rw [if_neg (by simp [url]), if_pos path, valid.display]
    rfl

/-- A path of at most two parts, which is not shown at all. -/
structure IsShallow (s : Text) : Prop where
  url : isUrl s = false
  path : IsPathToken s
  few : startsWith (trimMatches isQuote s) ['/'] &&
    decide ((((trimMatches isQuote s).splitOn '/').filter (· ≠ [])).length ≤ 2)

/-- A word that is short, and without slashes unless it is a URL or a path. -/
def Token.Stable : Token → Prop
  | .other s => NoSlash s ∧ s.length ≤ 4096 ∨ IsShallow s
  | .url _ => True
  | .path p => (shortPath p.shown).length ≤ 4096
  | .keyedUrl _ _ _ => True
  | .keyedPath key separator p => (key ++ separator :: shortPath p.shown).length ≤ 4096

theorem IsShallow.sanitize (shallow : IsShallow s) (json : looksLikeJson s = false) :
    sanitizeOperatorDiagnosticToken fileName s = "<path>".toList := by
  rw [sanitizeToken_path fileName json shallow.url shallow.path]
  unfold sanitizePathDisplay
  dsimp only
  rw [if_pos shallow.few]

theorem shortPath_noSlash {name : Text} (free : NoSlash name) : NoSlash (shortPath name) := by
  have around : NoSlash "<path:>".toList := noSlash_of_all (by decide)
  intro c member
  simp only [shortPath, List.mem_append] at member
  rcases member with (member | member) | member
  · exact around c (List.mem_append_left ['>'] member)
  · exact free c member
  · exact around c (List.mem_append_right "<path:".toList member)

theorem Token.Valid.sanitize_shown (valid : token.Valid) (stable : token.Stable) :
    sanitizeOperatorDiagnosticToken fileName (token.shown fileName) = token.shown fileName := by
  cases token with
  | other s =>
    rcases stable with ⟨free, short⟩ | shallow
    · have same := sanitizeToken_of_noSlash free valid short fileName
      show sanitizeOperatorDiagnosticToken fileName (sanitizeOperatorDiagnosticToken fileName s) =
        sanitizeOperatorDiagnosticToken fileName s
      rw [same, same]
    · show sanitizeOperatorDiagnosticToken fileName (sanitizeOperatorDiagnosticToken fileName s) =
        sanitizeOperatorDiagnosticToken fileName s
      rw [shallow.sanitize fileName valid]
      exact sanitizeToken_of_noSlash (noSlash_of_all (by decide)) (by decide) (by decide) fileName
  | url u =>
    have bare : (Token.url u.bare).Valid := Url.Valid.bare valid
    exact bare.sanitize fileName
  | path p =>
    exact sanitizeToken_of_noSlash (shortPath_noSlash valid.1.shown_noSlash) rfl stable fileName
  | keyedUrl key separator u =>
    obtain ⟨isKey, valid, single⟩ := valid
    have bare : (Token.keyedUrl key separator u.bare).Valid :=
      ⟨isKey, valid.bare, fun colon member => single colon (u.mem_of_mem_bare member)⟩
    exact bare.sanitize fileName
  | keyedPath key separator p =>
    obtain ⟨isKey, valid, -⟩ := valid
    refine sanitizeToken_of_noSlash (fun c member => ?_) isKey.not_json stable fileName
    rcases List.mem_append.mp member with member | member
    · exact isKey.name.noSlash c member
    · rcases List.mem_cons.mp member with rfl | member
      · rcases isKey.separator with rfl | ⟨rfl, -⟩ <;> decide
      · exact shortPath_noSlash valid.shown_noSlash c member

end Token

/-! ## Lines -/

theorem looksLikeJson_iff {s : Text} :
    looksLikeJson s = true ↔ ∃ c ∈ s.head?, c = '\x7b' ∨ c = '[' := by
  cases s with
  | nil => simp [looksLikeJson, startsWith, Text.literal]
  | cons c s =>
    have first : looksLikeJson (c :: s) = true ↔ '\x7b' = c ∨ '[' = c := by
      simp [looksLikeJson, startsWith, Text.literal]
    rw [first, @eq_comm _ _ c, @eq_comm _ _ c]
    simp

variable {tokens : List Token} {line : Text} {w : Text} {c : Char}

theorem sanitizeLine_of_words {N : Type} (serde : Serde N) (fileName : Text → Option Text)
    (json : ∀ word ∈ splitWhitespace (sanitizeLogLine line), looksLikeJson word = false)
    (running : isTimeout (sanitizeLogLine line) = false) :
    sanitizeOperatorDiagnosticLine serde fileName line =
      joinWords ((splitWhitespace (sanitizeLogLine line)).map
        (sanitizeOperatorDiagnosticToken fileName)) := by
  have plain : looksLikeJson (trim (sanitizeLogLine line)) = false := by
    refine Bool.eq_false_iff.mpr fun is => ?_
    obtain ⟨c, head, opens⟩ := looksLikeJson_iff.mp is
    -- The trimmed line starts as one of its words does.
    obtain ⟨word, member, front⟩ := mem_splitWhitespace_of_trim head
    have object : looksLikeJson word = true := looksLikeJson_iff.mpr ⟨c, front, opens⟩
    rw [json word member] at object
    exact absurd object (by decide)
  unfold sanitizeOperatorDiagnosticLine sanitizeOperatorDiagnosticText
  simp only [plain, running, Bool.false_eq_true, if_false]

/-- A line that is made of these words and is not about a command that took too long. -/
structure IsLine (line : Text) (tokens : List Token) : Prop where
  words : splitWhitespace (sanitizeLogLine line) = tokens.map Token.text
  valid : ∀ token ∈ tokens, token.Valid
  running : isTimeout (sanitizeLogLine line) = false

theorem Token.Valid.not_json {token : Token} (valid : token.Valid) :
    looksLikeJson token.text = false := by
  cases token with
  | other s => exact valid
  | url u =>
    show looksLikeJson u.text = false
    unfold Url.text Url.scheme
    split <;> rfl
  | path p => exact valid.2.1
  | keyedUrl | keyedPath => exact valid.1.not_json

theorem IsLine.sanitize {N : Type} (serde : Serde N) (fileName : Text → Option Text)
    (is : IsLine line tokens) :
    sanitizeOperatorDiagnosticLine serde fileName line =
      joinWords (tokens.map (Token.shown fileName)) := by
  have json : ∀ word ∈ splitWhitespace (sanitizeLogLine line), looksLikeJson word = false := by
    rw [is.words]
    exact List.forall_mem_map.mpr fun token member => (is.valid token member).not_json
  rw [sanitizeLine_of_words serde fileName json is.running, is.words, List.map_map]
  exact congrArg joinWords (List.map_congr_left fun token member =>
    (is.valid token member).sanitize fileName)

/-! ## A second run -/

/-- A text of letters that is no part of what stands for a path. -/
structure IsMark (w : Text) : Prop where
  some : w ≠ []
  letters : ∀ c ∈ w, c.isAlpha = true
  path : ¬ w <:+: "<path".toList

theorem IsMark.not_mem (mark : IsMark w) (other : c.isAlpha = false) :
    c ∉ w := by
  intro member
  rw [mark.letters c member] at other
  exact absurd other (by decide)

theorem IsMark.infix_path (mark : IsMark w) {p : Path}
    (inside : w <:+: shortPath p.shown) : w <:+: p.text := by
  have split : shortPath p.shown = "<path".toList ++ ':' :: (p.shown ++ '>' :: []) := by
    simp [shortPath]
  rw [split] at inside
  have shown : w <:+: p.shown ++ '>' :: [] :=
    (infix_of_infix_append_cons (mark.not_mem rfl) inside).resolve_left mark.path
  have name : w <:+: p.shown :=
    (infix_of_infix_append_cons (mark.not_mem rfl) shown).resolve_right fun none =>
      mark.some (List.infix_nil.mp none)
  obtain ⟨tail, whole⟩ := List.rdropWhile_prefix isQuote p.right
  refine name.trans ⟨p.left ++ (p.directory ++ [p.separator]), tail, ?_⟩
  unfold Path.shown Path.text Path.inner
  conv_rhs => rw [← whole]
  simp

theorem IsMark.infix_url (mark : IsMark w) {u : Url} (inside : w <:+: u.bare.text) :
    w <:+: u.text := by
  have split : u.bare.text = u.scheme ++ ':' :: ([] ++ '/' :: ([] ++ '/' :: u.host)) := by
    show u.scheme ++ "://".toList ++ ([] ++ u.host ++ []) = _
    simp
  have empty : ¬ w <:+: [] := fun none => mark.some (List.infix_nil.mp none)
  rw [split] at inside
  rcases infix_of_infix_append_cons (mark.not_mem rfl) inside with scheme | inside
  · exact scheme.trans ⟨[], "://".toList ++ (u.user ++ u.host ++ u.rest), by simp [Url.text]⟩
  · have inside := (infix_of_infix_append_cons (mark.not_mem rfl) inside).resolve_left empty
    have host := (infix_of_infix_append_cons (mark.not_mem rfl) inside).resolve_left empty
    exact host.trans ⟨u.scheme ++ "://".toList ++ u.user, u.rest, by simp [Url.text]⟩

section Second

variable {token : Token} (fileName : Text → Option Text) (valid : token.Valid)
  (stable : token.Stable)

include valid stable

theorem Token.Valid.shown_not_json : looksLikeJson (token.shown fileName) = false := by
  cases token with
  | other s =>
    rcases stable with ⟨free, short⟩ | shallow
    · exact (congrArg looksLikeJson (sanitizeToken_of_noSlash free valid short fileName)).trans
        valid
    · exact (congrArg looksLikeJson (shallow.sanitize fileName valid)).trans rfl
  | url u =>
    have bare : (Token.url u.bare).Valid := Url.Valid.bare valid
    exact bare.not_json
  | path => rfl
  | keyedUrl | keyedPath => exact valid.1.not_json

theorem Token.Valid.mem_of_mem_shown (member : c ∈ token.shown fileName) :
    c ∈ token.text ∨ c ∈ "<path:>".toList := by
  have short {p : Path} (member : c ∈ shortPath p.shown) :
      c ∈ p.text ∨ c ∈ "<path:>".toList := by
    simp only [shortPath, Path.shown, List.mem_append] at member
    rcases member with (member | member | member) | member
    · exact .inr (List.mem_append_left ['>'] member)
    · exact .inl (by simp [Path.text, Path.inner, member])
    · exact .inl (by simp [Path.text, (List.rdropWhile_prefix _ _).subset member])
    · exact .inr (List.mem_append_right "<path:".toList member)
  cases token with
  | other s =>
    rcases stable with ⟨free, few⟩ | shallow
    · exact .inl (sanitizeToken_of_noSlash free valid few fileName ▸ member)
    · have path : c ∈ "<path>".toList := shallow.sanitize fileName valid ▸ member
      refine .inr (List.Sublist.subset ?_ path)
      decide
  | url u => exact .inl (u.mem_of_mem_bare member)
  | path p => exact short member
  | keyedUrl key separator u =>
    refine .inl ?_
    show c ∈ key ++ separator :: u.text
    rcases List.mem_append.mp member with member | member
    · exact List.mem_append_left _ member
    · rcases List.mem_cons.mp member with rfl | member
      · exact List.mem_append_right _ List.mem_cons_self
      · exact List.mem_append_right _ (List.mem_cons_of_mem _ (u.mem_of_mem_bare member))
  | keyedPath key separator p =>
    show c ∈ key ++ separator :: p.text ∨ c ∈ "<path:>".toList
    rcases List.mem_append.mp member with member | member
    · exact .inl (List.mem_append_left _ member)
    · rcases List.mem_cons.mp member with rfl | member
      · exact .inl (List.mem_append_right _ List.mem_cons_self)
      · exact (short member).imp_left fun member =>
          List.mem_append_right _ (List.mem_cons_of_mem _ member)

theorem Token.Valid.shown_solid (solid : token.text ≠ [] ∧
    ∀ c ∈ token.text, isWhitespace c = false ∧ isControl c = false) :
    token.shown fileName ≠ [] ∧
      ∀ c ∈ token.shown fileName, isWhitespace c = false ∧ isControl c = false := by
  constructor
  · cases token with
    | other s =>
      rcases stable with ⟨free, few⟩ | shallow
      · exact fun none =>
          solid.1 ((sanitizeToken_of_noSlash free valid few fileName).symm.trans none)
      · exact fun none => absurd ((shallow.sanitize fileName valid).symm.trans none) (by decide)
    | url | path | keyedUrl | keyedPath => simp [Token.shown, Url.text, shortPath]
  · intro c member
    rcases valid.mem_of_mem_shown fileName stable member with member | member
    · exact solid.2 c member
    · have all : "<path:>".toList.all (fun c => !isWhitespace c && !isControl c) = true := by decide
      simpa using List.all_eq_true.mp all c member

theorem Token.Valid.infix_of_infix_shown (mark : IsMark w)
    (inside : w <:+: token.shown fileName) : w <:+: token.text := by
  have keyed {key value short : Text} {separator : Char} (isKey : IsKey key separator)
      (inside : w <:+: key ++ separator :: short) (value' : w <:+: short → w <:+: value) :
      w <:+: key ++ separator :: value := by
    have other : separator.isAlpha = false := by
      rcases isKey.separator with rfl | ⟨rfl, -⟩ <;> rfl
    rcases infix_of_infix_append_cons (mark.not_mem other) inside with front | inside
    · exact List.infix_append_of_infix_left front
    · exact List.infix_append_of_infix_right (List.infix_cons (value' inside))
  cases token with
  | other s =>
    rcases stable with ⟨free, few⟩ | shallow
    · exact sanitizeToken_of_noSlash free valid few fileName ▸ inside
    · have path : w <:+: "<path>".toList := shallow.sanitize fileName valid ▸ inside
      rcases infix_of_infix_append_cons (a := "<path".toList) (mark.not_mem rfl) path with
        front | none
      · exact absurd front mark.path
      · exact absurd (List.infix_nil.mp none) mark.some
  | url => exact mark.infix_url inside
  | path => exact mark.infix_path inside
  | keyedUrl => exact keyed valid.1 inside mark.infix_url
  | keyedPath => exact keyed valid.1 inside mark.infix_path

end Second

/-- One of the two marks of a timeout is missing. -/
def Calm (s : Text) : Prop :=
  Text.contains s "TimeoutExpired".toList = false ∨ Text.contains s "Command".toList = false

theorem IsLine.running_shown (is : IsLine line tokens)
    (fileName : Text → Option Text) (stable : ∀ token ∈ tokens, token.Stable)
    (calm : Calm (sanitizeLogLine line)) :
    isTimeout (joinWords (tokens.map (Token.shown fileName))) = false := by
  have kept {w : Text} (mark : IsMark w)
      (inside : w <:+: joinWords (tokens.map (Token.shown fileName))) :
      Text.contains (sanitizeLogLine line) w = true := by
    -- A mark has no blank: it is in one word, and was in that word before.
    obtain ⟨shown, member, inside⟩ :=
      infix_of_infix_joinWords mark.some (mark.not_mem rfl) inside
    obtain ⟨token, among, rfl⟩ := List.mem_map.mp member
    have word : token.text ∈ splitWhitespace (sanitizeLogLine line) :=
      is.words ▸ List.mem_map_of_mem among
    exact contains_iff.mpr (((is.valid token among).infix_of_infix_shown fileName
      (stable token among) mark inside).trans (infix_of_mem_splitWhitespace word))
  have expired : IsMark "TimeoutExpired".toList :=
    ⟨by decide, List.all_eq_true.mp (by decide), by decide⟩
  have command : IsMark "Command".toList :=
    ⟨by decide, List.all_eq_true.mp (by decide), by decide⟩
  refine Bool.eq_false_iff.mpr fun timeout => ?_
  obtain ⟨one, two⟩ := (Bool.and_eq_true _ _).mp timeout
  have both : "Command".toList <:+: "Command ".toList := by decide
  rcases calm with none | none
  · exact absurd (kept expired (contains_iff.mp one)) (Bool.eq_false_iff.mp none)
  · exact absurd (kept command (both.trans (contains_iff.mp two)))
      (Bool.eq_false_iff.mp none)

theorem IsLine.solid (is : IsLine line tokens) {token : Token}
    (among : token ∈ tokens) : token.text ≠ [] ∧
      ∀ c ∈ token.text, isWhitespace c = false ∧ isControl c = false := by
  have word : token.text ∈ splitWhitespace (sanitizeLogLine line) :=
    is.words ▸ List.mem_map_of_mem among
  obtain ⟨some, noBlank⟩ := solid_of_mem_splitWhitespace word
  refine ⟨some, fun c member => ⟨noBlank c member, ?_⟩⟩
  obtain ⟨d, -, replaced⟩ := List.mem_map.mp ((infix_of_mem_splitWhitespace word).subset member)
  split at replaced
  · cases replaced
    rfl
  · next kept =>
    cases replaced
    refine Bool.eq_false_iff.mpr fun control => ?_
    -- The tab is the one control character that stays, and it is a blank.
    have tab : c = '\t' := by simpa [control] using kept
    rw [tab] at member
    exact absurd (noBlank _ member) (by decide)

theorem IsLine.sanitize_shown {N : Type} (serde : Serde N) (fileName : Text → Option Text)
    (is : IsLine line tokens)
    (stable : ∀ token ∈ tokens, token.Stable) (calm : Calm (sanitizeLogLine line)) :
    sanitizeOperatorDiagnosticLine serde fileName (joinWords (tokens.map (Token.shown fileName))) =
      joinWords (tokens.map (Token.shown fileName)) := by
  have solid : ∀ word ∈ tokens.map (Token.shown fileName), word ≠ [] ∧
      ∀ c ∈ word, isWhitespace c = false ∧ isControl c = false :=
    List.forall_mem_map.mpr fun token among =>
      (is.valid token among).shown_solid fileName (stable token among) (is.solid among)
  have log : sanitizeLogLine (joinWords (tokens.map (Token.shown fileName))) =
      joinWords (tokens.map (Token.shown fileName)) := by
    refine sanitizeLogLine_solid fun c member => ?_
    rcases mem_joinWords member with rfl | ⟨word, among, member⟩
    · rfl
    · exact ((solid word among).2 c member).2
  have split : splitWhitespace (joinWords (tokens.map (Token.shown fileName))) =
      tokens.map (Token.shown fileName) :=
    splitWhitespace_joinWords fun word among =>
      ⟨(solid word among).1, fun c member => ((solid word among).2 c member).1⟩
  have json : ∀ word ∈ tokens.map (Token.shown fileName), looksLikeJson word = false :=
    List.forall_mem_map.mpr fun token among =>
      (is.valid token among).shown_not_json fileName (stable token among)
  have running := is.running_shown fileName stable calm
  rw [sanitizeLine_of_words serde fileName (by rwa [log, split]) (by rwa [log]), log, split,
    List.map_map]
  exact congrArg joinWords (List.map_congr_left fun token among =>
    (is.valid token among).sanitize_shown fileName (stable token among))

/-- A URL of one host. -/
def sampleUrl (user rest : Text) : Url := ⟨true, user, "h".toList, rest⟩

theorem sampleUrl_valid {user rest : Text} (info : user = [] ∨ ∃ info, user = info ++ ['@'])
    (userChars : user.all (fun c => c ≠ '/' && c ≠ '?' && c ≠ '#') = true)
    (front : (rest.rdropWhile isQuote).head?.all (fun c => c = '/' || c = '?' || c = '#') = true) :
    (sampleUrl user rest).Valid where
  user := info
  userChars c member := by simpa [and_assoc] using List.all_eq_true.mp userChars c member
  host := List.cons_ne_nil _ _
  hostChars c member := by
    cases List.mem_singleton.mp member
    decide
  rest c member := by
    have first : c ∈ (rest.rdropWhile isQuote).head? := member
    rw [Option.mem_def.mp first] at front
    simpa [or_assoc] using front

/-- A path in quotes. -/
def samplePath (directory : Text) : Path := ⟨['\''], directory, '/', "c".toList, ['\'']⟩

theorem samplePath_valid {directory : Text} (front : directory.head? = some '/')
    (deep : 2 ≤ ((directory.splitOn '/').filter (· ≠ [])).length) :
    (samplePath directory).Valid where
  separator := .inl rfl
  name := ⟨List.cons_ne_nil _ _, List.all_eq_true.mp rfl⟩
  wrapped := List.all_eq_true.mp rfl
  front c member := by
    have first : (samplePath directory).inner.head? = some '/' := by
      cases directory with
      | nil => nomatch front
      | cons d directory => exact front
    rw [first] at member
    cases Option.some.inj member
    decide
  deep _ := ⟨rfl, deep⟩

theorem sample_line {line directory user rest : Text}
    (words : splitWhitespace (sanitizeLogLine line) =
      [(samplePath directory).text, (sampleUrl user rest).text])
    (path : (samplePath directory).Valid) (isPath : IsPathToken (samplePath directory).text)
    (url : (sampleUrl user rest).Valid) (running : isTimeout (sanitizeLogLine line) = false) :
    IsLine line [.path (samplePath directory), .url (sampleUrl user rest)] where
  words := words
  valid := List.forall_mem_cons.mpr ⟨⟨path, rfl, rfl, isPath⟩, List.forall_mem_singleton.mpr url⟩
  running := running

/-- A URL in quotes. -/
def quoted (u : Url) : Text := '\'' :: u.text ++ ['\'']

end Diagnostics
