import TokenPlace.Desktop.Diagnostics

/-!
# URLs and paths in diagnostic words

What the two display functions make of an http URL and of a path. No rule changes a word without
slashes, and a word with a key goes to the rule for its separator.
-/

namespace Diagnostics

open RustText

/-! ## Text without slashes -/

/-- The text has neither a slash nor a backslash. -/
def NoSlash (s : Text) : Prop := ∀ c ∈ s, c ≠ '/' ∧ c ≠ '\\'

variable {s : Text} {c : Char}

theorem noSlash_of_all (all : s.all (fun c => c ≠ '/' && c ≠ '\\') = true) :
    NoSlash s := fun c member => by
  simpa using List.all_eq_true.mp all c member

theorem mem_of_mem_trimMatches {p : Char → Bool} (member : c ∈ trimMatches p s) : c ∈ s :=
  ((List.rdropWhile_prefix _ _).sublist.trans (List.dropWhile_sublist _)).subset member

theorem NoSlash.trim {p : Char → Bool} (free : NoSlash s) : NoSlash (trimMatches p s) :=
  fun c member => free c (mem_of_mem_trimMatches member)

theorem collapse_of_noSlash (free : NoSlash s) : collapseBackslashes s = s := by
  induction s with
  | nil => rfl
  | cons c s ih =>
    have rest := ih fun d member => free d (List.mem_cons_of_mem _ member)
    rw [collapseBackslashes.eq_def]
    split
    · next same => exact absurd (List.cons.inj same).1 (free c List.mem_cons_self).2
    · next same =>
      cases same
      rw [rest]
    · next same => nomatch same

theorem normalized_of_noSlash (free : NoSlash s) : normalized s = s := by
  unfold normalized
  rw [collapse_of_noSlash free]
  conv_rhs => rw [← List.map_id s]
  exact List.map_congr_left fun c member => if_neg (free c member).2

theorem toLower_slash (lowered : c.toLower = '/') : c = '/' := by
  unfold Char.toLower at lowered
  split at lowered
  · next upper =>
    have low : 65 ≤ c.val.toNat := upper.1
    have high : c.val.toNat ≤ 90 := upper.2
    have value : (c.val + 32).toNat = 47 := congrArg (fun d : Char => d.val.toNat) lowered
    rw [UInt32.toNat_add] at value
    have small : (c.val.toNat + 32) % 2 ^ 32 = c.val.toNat + 32 := Nat.mod_eq_of_lt (by omega)
    have code : (32 : UInt32).toNat = 32 := rfl
    omega
  · exact lowered

theorem literal_isSome {w s : Text} : (Text.literal w s).isSome = true ↔ ∃ rest, s = w ++ rest := by
  rw [Option.isSome_iff_exists]
  exact exists_congr fun rest => Text.literal_eq_some

theorem startsWith_of_noSlash {s w : Text} (free : ∀ c ∈ s, c ≠ '/') (slash : '/' ∈ w) :
    startsWith s w = false := by
  refine Bool.eq_false_iff.mpr fun is => ?_
  obtain ⟨rest, rfl⟩ := literal_isSome.mp is
  exact free '/' (List.mem_append_left _ slash) rfl

theorem isUrl_of_noSlash (free : NoSlash s) : isUrl s = false := by
  have none := fun c member => (free c member).1
  simp only [isUrl, startsWith_of_noSlash none (w := "http://".toList) (by decide),
    startsWith_of_noSlash none (w := "https://".toList) (by decide), Bool.or_self]

theorem isDrive_eq_true {p : Char → Bool} (is : isDrive p s = true) :
    ∃ c ∈ s, p c = true := by
  unfold isDrive at is
  split at is
  · next c _ => exact ⟨c, by simp, ((Bool.and_eq_true _ _).mp is).1⟩
  · exact absurd is (by decide)

theorem isExtendedOrUnc_eq_false (front : ∀ c ∈ s.head?, c ≠ '/') :
    isExtendedOrUnc s = false := by
  have literal : ∀ w : Text, Text.literal ('/' :: w) s = none := by
    intro w
    cases s with
    | nil => rfl
    | cons c s => exact if_neg (Ne.symm (front c rfl))
  have start : ∀ w : Text, startsWith s ('/' :: w) = false := by
    intro w
    rw [startsWith, literal]
    rfl
  unfold isExtendedOrUnc
  rw [show "//?/".toList = '/' :: "/?/".toList from rfl, literal,
    show "/?/".toList = '/' :: "?/".toList from rfl, literal,
    show "//?/unc/".toList = '/' :: "/?/unc/".toList from rfl, start,
    show "//".toList = '/' :: ['/'] from rfl, start]
  simp

theorem search_eq_none {w s : Text} (free : ∀ c ∈ s, c ≠ '/') (slash : '/' ∈ w) :
    Text.contains s w = false := by
  unfold Text.contains
  have none : ∀ t : Text, (∀ c ∈ t, c ≠ '/') → Text.literal w t = none := by
    intro t free
    exact Option.isNone_iff_eq_none.mp (by
      simpa [startsWith] using startsWith_of_noSlash free slash)
  induction s with
  | nil =>
    rw [Text.search, none [] free]
    rfl
  | cons c s ih =>
    rw [Text.search, none _ free]
    exact ih fun d member => free d (List.mem_cons_of_mem _ member)

theorem lower_noSlash (free : NoSlash s) : ∀ c ∈ lower s, c ≠ '/' := by
  intro c member
  obtain ⟨d, among, rfl⟩ := List.mem_map.mp member
  exact fun lowered => (free d among).1 (toLower_slash lowered)

theorem isDrive_of_noSlash (free : NoSlash s) :
    isDrive (fun c => c = '/' || c = '\\') s = false := by
  refine Bool.eq_false_iff.mpr fun is => ?_
  obtain ⟨c, member, slash⟩ := isDrive_eq_true is
  have none := free c member
  simp [none.1, none.2] at slash

theorem isPathLike_of_noSlash (free : NoSlash s) : isPathLike s = false := by
  have trimmed : NoSlash (trimMatches isWrapper s) := free.trim
  have none : ∀ c ∈ trimMatches isWrapper s, c ≠ '/' := fun c member => (trimmed c member).1
  have lowered := lower_noSlash trimmed
  have back : startsWith (trimMatches isWrapper s) ['\\'] = false := by
    refine Bool.eq_false_iff.mpr fun is => ?_
    obtain ⟨rest, same⟩ := literal_isSome.mp is
    exact (trimmed '\\' (by rw [same]; exact List.mem_cons_self)).2 rfl
  unfold isPathLike
  dsimp only
  rw [normalized_of_noSlash trimmed]
  simp only [startsWith_of_noSlash none (w := ['/']) (by decide),
    startsWith_of_noSlash none (w := "~/".toList) (by decide),
    startsWith_of_noSlash none (w := "file://".toList) (by decide), back,
    isExtendedOrUnc_eq_false fun c head => lowered c (List.mem_of_mem_head? head),
    search_eq_none lowered (w := "/users/".toList) (by decide),
    search_eq_none lowered (w := "/appdata/".toList) (by decide),
    search_eq_none lowered (w := "/programs/python/".toList) (by decide),
    isDrive_of_noSlash trimmed, Bool.or_false, Bool.false_or, decide_eq_false_iff_not]
  exact fun member => none '/' member rfl

theorem sanitizeKeyed_of_noSlash (free : NoSlash s) (fileName : Text → Option Text)
    (separator : Char) : sanitizeKeyed fileName s separator = none := by
  unfold sanitizeKeyed splitOnce
  split
  · have value : NoSlash (s.dropWhile (· ≠ separator)).tail := fun c member =>
      free c ((List.dropWhile_sublist _).subset (List.mem_of_mem_tail member))
    simp only [Option.bind_some, isUrl_of_noSlash value, isPathLike_of_noSlash value,
      Bool.false_eq_true, if_false]
  · rfl

theorem sanitizeToken_of_noSlash (free : NoSlash s) (json : looksLikeJson s = false)
    (short : s.length ≤ 4096) (fileName : Text → Option Text) :
    sanitizeOperatorDiagnosticToken fileName s = s := by
  have trimmed : NoSlash (trimMatches isWrapper s) := free.trim
  have drive : isWindowsDrivePathLike s = false := isDrive_of_noSlash trimmed
  have unc : isWindowsExtendedOrUncPathLike s = false := by
    unfold isWindowsExtendedOrUncPathLike
    rw [normalized_of_noSlash trimmed]
    exact isExtendedOrUnc_eq_false fun c head =>
      lower_noSlash trimmed c (List.mem_of_mem_head? head)
  unfold sanitizeOperatorDiagnosticToken
  simp only [json, isUrl_of_noSlash free, drive, unc, isPathLike_of_noSlash free,
    sanitizeKeyed_of_noSlash free, Bool.false_eq_true, if_false, Bool.or_self]
  exact List.take_of_length_le short

/-! ## Names, URLs and paths -/

/-- What may stand in a key and in the last part of a path. -/
def isNameChar (c : Char) : Bool :=
  !isWhitespace c && !isControl c && !isWrapper c &&
    c ∉ ['/', '\\', '=', ':', '?', '#', '@', '\x7b']

structure IsName (s : Text) : Prop where
  some : s ≠ []
  chars : ∀ c ∈ s, isNameChar c = true

/-- An http URL: user info with its `@`, a host and what follows. -/
structure Url where
  secure : Bool
  user : Text
  host : Text
  rest : Text

def Url.scheme (u : Url) : Text := if u.secure then "https".toList else "http".toList

def Url.text (u : Url) : Text := u.scheme ++ "://".toList ++ (u.user ++ u.host ++ u.rest)

/-- The URL with its host alone. -/
def Url.bare (u : Url) : Url := { u with user := [], rest := [] }

structure Url.Valid (u : Url) : Prop where
  user : u.user = [] ∨ ∃ info, u.user = info ++ ['@']
  userChars : ∀ c ∈ u.user, c ≠ '/' ∧ c ≠ '?' ∧ c ≠ '#'
  host : u.host ≠ []
  hostChars : ∀ c ∈ u.host, (c ≠ '/' ∧ c ≠ '?' ∧ c ≠ '#') ∧ c ≠ '@' ∧ isQuote c = false
  rest : ∀ c ∈ (u.rest.rdropWhile isQuote).head?, c = '/' ∨ c = '?' ∨ c = '#'

theorem Url.Valid.bare {u : Url} (valid : u.Valid) : u.bare.Valid where
  user := .inl rfl
  userChars := nofun
  host := valid.host
  hostChars := valid.hostChars
  rest := nofun

theorem Url.mem_of_mem_bare (u : Url) (member : c ∈ u.bare.text) : c ∈ u.text := by
  simp only [Url.text, Url.bare, Url.scheme, List.mem_append, List.not_mem_nil, false_or,
    or_false] at member ⊢
  tauto

theorem rdropWhile_append {p : Char → Bool} {s t : Text} (some : s ≠ [])
    (last : p (s.getLast some) = false) : (s ++ t).rdropWhile p = s ++ t.rdropWhile p := by
  induction t using List.reverseRecOn with
  | nil =>
    rw [List.append_nil, List.rdropWhile_nil, List.append_nil]
    exact List.rdropWhile_eq_self_iff.mpr fun _ => by simp [last]
  | append_singleton t c ih =>
    rw [← List.append_assoc]
    cases trims : p c with
    | true =>
      rw [List.rdropWhile_concat_pos _ _ _ trims, List.rdropWhile_concat_pos _ _ _ trims, ih]
    | false =>
      rw [List.rdropWhile_concat_neg _ _ _ (by simp [trims]),
        List.rdropWhile_concat_neg _ _ _ (by simp [trims]), List.append_assoc]

theorem before_append {s t : Text} (free : ∀ d ∈ s, d ≠ c) :
    before c (s ++ t) = s ++ before c t := by
  unfold before
  exact List.takeWhile_append_of_pos fun d member => by simpa using free d member

theorem head_before {p : Char → Prop} (head : ∀ d ∈ s.head?, p d) :
    ∀ d ∈ (before c s).head?, p d ∧ d ≠ c := by
  intro d member
  cases s with
  | nil => nomatch member
  | cons e s =>
    unfold before at member
    by_cases same : e = c
    · rw [List.takeWhile_cons_of_neg (by simp [same])] at member
      nomatch member
    · rw [List.takeWhile_cons_of_pos (by simp [same])] at member
      cases Option.some.inj member
      exact ⟨head d rfl, same⟩

theorem afterLast_at {user host : Text} (form : user = [] ∨ ∃ info, user = info ++ ['@'])
    (free : ∀ c ∈ host, c ≠ '@') : afterLast '@' (user ++ host) = host := by
  have all : host.reverse.takeWhile (· ≠ '@') = host.reverse :=
    List.takeWhile_eq_self_iff.mpr fun c member => by
      simpa using free c (List.mem_reverse.mp member)
  unfold afterLast List.rtakeWhile
  rcases form with rfl | ⟨info, rfl⟩
  · rw [List.nil_append, all, List.reverse_reverse]
  · rw [List.reverse_append, List.takeWhile_append_of_pos fun c member => by
      simpa using free c (List.mem_reverse.mp member), List.reverse_append]
    simp

theorem sanitizeUrlDisplay_url {u : Url} (valid : u.Valid) :
    sanitizeUrlDisplay u.text = u.bare.text := by
  have front : ∀ t : Text, (u.scheme ++ t).dropWhile isQuote = u.scheme ++ t := by
    intro t
    unfold Url.scheme
    split <;> exact List.dropWhile_cons_of_neg (by decide)
  have some : u.scheme ++ "://".toList ++ (u.user ++ u.host) ≠ [] := by simp
  have last : isQuote ((u.scheme ++ "://".toList ++ (u.user ++ u.host)).getLast some) = false := by
    rw [List.getLast_append_of_ne_nil _ (by simp [valid.host]),
      List.getLast_append_of_ne_nil _ valid.host]
    exact (valid.hostChars _ (List.getLast_mem valid.host)).2.2
  have trimmed : trimMatches isQuote u.text =
      u.scheme ++ "://".toList ++ (u.user ++ u.host) ++ u.rest.rdropWhile isQuote := by
    unfold trimMatches Url.text
    rw [List.append_assoc, front, ← List.append_assoc, ← List.append_assoc,
      rdropWhile_append some last]
  -- What is behind the host starts with a slash, a question mark or a hash, so a cut gets it.
  have head := valid.rest
  generalize u.rest.rdropWhile isQuote = rest at trimmed head
  have scheme : ∀ c ∈ u.scheme ++ "://".toList, c ≠ '#' ∧ c ≠ '?' := by
    have all : (u.scheme ++ "://".toList).all (fun c => c ≠ '#' && c ≠ '?') = true := by
      unfold Url.scheme
      split <;> decide
    intro c member
    simpa using List.all_eq_true.mp all c member
  have free : ∀ c ∈ u.scheme ++ "://".toList ++ (u.user ++ u.host), c ≠ '#' ∧ c ≠ '?' := by
    intro c member
    rcases List.mem_append.mp member with member | member
    · exact scheme c member
    · rcases List.mem_append.mp member with member | member
      · exact ⟨(valid.userChars c member).2.2, (valid.userChars c member).2.1⟩
      · exact ⟨(valid.hostChars c member).1.2.2, (valid.hostChars c member).1.2.1⟩
  have cut : before '?' (before '#' (trimMatches isQuote u.text)) =
      u.scheme ++ "://".toList ++ (u.user ++ u.host ++ before '?' (before '#' rest)) := by
    rw [trimmed, before_append fun c member => (free c member).1,
      before_append fun c member => (free c member).2, List.append_assoc]
  have slash : ∀ c ∈ (before '?' (before '#' rest)).head?, c = '/' := by
    intro c member
    obtain ⟨⟨is, noHash⟩, noQuery⟩ := head_before (head_before head) c member
    tauto
  have path : before '/' (before '?' (before '#' rest)) = [] := by
    generalize before '?' (before '#' rest) = t at slash
    cases t with
    | nil => rfl
    | cons c t =>
      cases slash c rfl
      rfl
  have once : ∀ t : Text, splitOnceAt "://".toList (u.scheme ++ "://".toList ++ t) =
      Option.some (u.scheme, t) := by
    intro t
    unfold Url.scheme
    split <;> rfl
  have authority : before '/' (u.user ++ u.host ++ before '?' (before '#' rest)) =
      u.user ++ u.host := by
    rw [before_append, path, List.append_nil]
    intro c member
    rcases List.mem_append.mp member with member | member
    · exact (valid.userChars c member).1
    · exact (valid.hostChars c member).1.1
  have named : u.scheme ≠ [] := by
    unfold Url.scheme
    split <;> decide
  unfold sanitizeUrlDisplay
  dsimp only
  rw [cut, once]
  dsimp only
  rw [authority, afterLast_at valid.user fun c member => (valid.hostChars c member).2.1,
    if_pos ⟨named, valid.host⟩]
  show u.scheme ++ "://".toList ++ u.host = u.scheme ++ "://".toList ++ ([] ++ u.host ++ [])
  rw [List.nil_append, List.append_nil]

theorem isUrl_url (u : Url) : isUrl u.text = true := by
  unfold Url.text Url.scheme
  split <;> rfl

/-- A path: what it is wrapped in, its directory and its name. -/
structure Path where
  left : Text
  directory : Text
  separator : Char
  name : Text
  right : Text

/-- The path without what it is wrapped in. -/
def Path.inner (p : Path) : Text := p.directory ++ p.separator :: p.name

def Path.text (p : Path) : Text := p.left ++ (p.inner ++ p.right)

/-- The path without its directory. -/
def Path.bare (p : Path) : Path := { p with directory := [], separator := '/' }

/-- What is left of a path: its name, with what is trimmed off no path. -/
def Path.shown (p : Path) : Text := p.name ++ p.right.rdropWhile isQuote

structure Path.Valid (p : Path) : Prop where
  separator : p.separator = '/' ∨ p.separator = '\\'
  name : IsName p.name
  wrapped : ∀ c ∈ p.left ++ p.right, isWrapper c = true
  front : ∀ c ∈ p.inner.head?, isWrapper c = false ∧ c ≠ '\x7b'
  deep : p.inner.head? = some '/' →
    p.separator = '/' ∧ 2 ≤ ((p.directory.splitOn '/').filter (· ≠ [])).length

/-- A path that is shortened. -/
def shortPath (name : Text) : Text := "<path:".toList ++ name ++ ['>']

theorem isNameChar_iff : isNameChar c = true ↔
    (isWhitespace c = false ∧ isControl c = false ∧ isWrapper c = false) ∧ c ≠ '/' ∧ c ≠ '\\' ∧
      c ≠ '=' ∧ c ≠ ':' ∧ c ≠ '?' ∧ c ≠ '#' ∧ c ≠ '@' ∧ c ≠ '\x7b' := by
  simp [isNameChar, and_assoc]

theorem isQuote_of_isWrapper (free : isWrapper c = false) : isQuote c = false := by
  simp only [isWrapper, Bool.or_eq_false_iff] at free
  exact free.1.1

theorem IsName.noSlash (name : IsName s) : NoSlash s := fun c member =>
  have is := (isNameChar_iff.mp (name.chars c member)).2
  ⟨is.1, is.2.1⟩

theorem collapse_cons (single : c = '\\' → ∀ d ∈ s.head?, d ≠ '\\') :
    collapseBackslashes (c :: s) = c :: collapseBackslashes s := by
  rw [collapseBackslashes.eq_def]
  split
  · next same =>
    cases same
    exact absurd rfl (single rfl '\\' rfl)
  · next same =>
    cases same
    rfl
  · next same => nomatch same

theorem collapse_append (directory : Text) {name : Text} {separator : Char}
    (is : separator = '/' ∨ separator = '\\') (free : NoSlash name) :
    ∃ front separator', (separator' = '/' ∨ separator' = '\\') ∧
      collapseBackslashes (directory ++ separator :: name) = front ++ separator' :: name := by
  have last : collapseBackslashes (separator :: name) = separator :: name := by
    rw [collapse_cons fun _ d head => (free d (List.mem_of_mem_head? head)).2,
      collapse_of_noSlash free]
  induction directory using collapseBackslashes.induct with
  | case1 s ih =>
    obtain ⟨front, separator', is', whole⟩ := ih
    exact ⟨'\\' :: front, separator', is', by
      simp only [List.cons_append, collapseBackslashes, whole]⟩
  | case2 c s single ih =>
    obtain ⟨front, separator', is', whole⟩ := ih
    -- The separator itself may be the second backslash of a pair.
    by_cases both : c = '\\' ∧ s = [] ∧ separator = '\\'
    · obtain ⟨rfl, rfl, rfl⟩ := both
      exact ⟨[], '\\', .inr rfl, by
        rw [List.singleton_append, collapseBackslashes, collapse_of_noSlash free, List.nil_append]⟩
    · refine ⟨c :: front, separator', is', ?_⟩
      rw [List.cons_append, collapse_cons, whole, List.cons_append]
      rintro rfl d head rfl
      cases s with
      | nil => exact both ⟨rfl, rfl, Option.some.inj head⟩
      | cons e s =>
        cases Option.some.inj head
        exact single s rfl rfl
  | case3 => exact ⟨[], separator, is, last⟩

theorem afterLast_normalized {directory name : Text} {separator : Char}
    (is : separator = '/' ∨ separator = '\\') (free : NoSlash name) :
    afterLast '/' (normalized (directory ++ separator :: name)) = name := by
  obtain ⟨front, separator', is', whole⟩ := collapse_append directory is free
  have kept : name.map (fun c => if c = '\\' then '/' else c) = name := by
    conv_rhs => rw [← List.map_id name]
    exact List.map_congr_left fun c member => if_neg (free c member).2
  have slash : (if separator' = '\\' then '/' else separator') = '/' := by
    rcases is' with rfl | rfl <;> rfl
  unfold normalized afterLast List.rtakeWhile
  rw [whole, List.map_append, List.map_cons, kept, slash, List.reverse_append, List.reverse_cons,
    List.append_assoc, List.takeWhile_append_of_pos fun c member => by
      simpa using (free c (List.mem_reverse.mp member)).1]
  simp

theorem isWrapper_slash (wraps : isWrapper c = true) : c ≠ '/' ∧ c ≠ '\\' := by
  constructor <;>
  · rintro rfl
    exact absurd wraps (by decide)

section Path

variable {p : Path} (valid : p.Valid)

include valid

theorem Path.Valid.shown_noSlash : NoSlash p.shown := by
  intro c member
  rcases List.mem_append.mp member with member | member
  · exact valid.name.noSlash c member
  · have right := (List.rdropWhile_prefix isQuote p.right).subset member
    exact isWrapper_slash (valid.wrapped c (List.mem_append_right _ right))

theorem Path.Valid.trim : ∃ left, (∀ c ∈ left, isWrapper c = true) ∧
    trimMatches isQuote p.text = left ++ p.directory ++ p.separator :: p.shown := by
  have plain : (p.inner ++ p.right).dropWhile isQuote = p.inner ++ p.right := by
    cases same : p.inner with
    | nil => exact absurd same (by simp [Path.inner])
    | cons c rest =>
      refine List.dropWhile_cons_of_neg ?_
      simp [isQuote_of_isWrapper (valid.front c (by rw [same]; rfl)).1]
  have front : p.text.dropWhile isQuote = p.left.dropWhile isQuote ++ (p.inner ++ p.right) := by
    unfold Path.text
    rw [List.dropWhile_append, plain]
    split
    · next none => rw [List.isEmpty_iff.mp none, List.nil_append]
    · rfl
  have some : p.left.dropWhile isQuote ++ p.inner ≠ [] := by simp [Path.inner]
  have last : (p.left.dropWhile isQuote ++ p.inner).getLast some ∈ p.name := by
    simp only [Path.inner]
    rw [List.getLast_append_of_ne_nil _ (by simp), List.getLast_append_of_ne_nil _ (by simp),
      List.getLast_cons valid.name.some]
    exact List.getLast_mem _
  refine ⟨p.left.dropWhile isQuote, fun c member => valid.wrapped c
    (List.mem_append_left _ ((List.dropWhile_sublist _).subset member)), ?_⟩
  unfold trimMatches
  rw [front, ← List.append_assoc, rdropWhile_append some
    (isQuote_of_isWrapper (isNameChar_iff.mp (valid.name.chars _ last)).1.2.2)]
  simp [Path.inner, Path.shown]

theorem Path.Valid.display (fileName : Text → Option Text) :
    sanitizePathDisplay fileName p.text = shortPath p.shown := by
  obtain ⟨left, wraps, trimmed⟩ := valid.trim
  have some : p.shown ≠ [] := by simp [Path.shown, valid.name.some]
  -- A path of at most two parts would not be shown at all.
  have shallow : ¬ ((startsWith (trimMatches isQuote p.text) ['/'] &&
      decide ((((trimMatches isQuote p.text).splitOn '/').filter (· ≠ [])).length ≤ 2)) =
        true) := by
    rw [Bool.and_eq_true, decide_eq_true_iff]
    rintro ⟨starts, few⟩
    obtain ⟨rest, whole⟩ := literal_isSome.mp starts
    cases left with
    | cons c left =>
      rw [trimmed] at whole
      cases (List.cons.inj whole).1
      exact (isWrapper_slash (wraps '/' List.mem_cons_self)).1 rfl
    | nil =>
      rw [trimmed, List.nil_append] at whole few
      have head : p.inner.head? = Option.some '/' := by
        have same := congrArg List.head? whole
        unfold Path.inner
        cases directory : p.directory with
        | nil =>
          rw [directory] at same
          exact same
        | cons c directory' =>
          rw [directory] at same
          exact same
      obtain ⟨separator, many⟩ := valid.deep head
      have last : p.shown.splitOn '/' = [p.shown] := List.splitOnP_eq_singleton fun c member => by
        simpa using (valid.shown_noSlash c member).1
      rw [separator] at few
      unfold List.splitOn at few many last
      rw [List.splitOnP_append_cons _ _ (by simp), last, List.filter_append, List.length_append,
        List.filter_cons_of_pos (by simpa using some)] at few
      simp only [List.filter_nil, List.length_cons, List.length_nil] at few
      omega
  have name : afterLast '/' (normalized (trimMatches isQuote p.text)) = p.shown :=
    trimmed ▸ afterLast_normalized valid.separator valid.shown_noSlash
  have found : (Option.some p.shown).filter (fun name => decide (name ≠ [])) =
      Option.some p.shown := by
    rw [Option.filter_some, if_pos (by simpa using some)]
  unfold sanitizePathDisplay
  dsimp only
  rw [if_neg shallow, name, found]
  rfl

end Path

/-! ## Keys -/

/-- A key and its separator. A colon does not follow one letter, which would be a drive, nor the
scheme of a URL. -/
structure IsKey (key : Text) (separator : Char) : Prop where
  name : IsName key
  separator : separator = '=' ∨ separator = ':' ∧ key.length ≠ 1 ∧ key ≠ "http".toList ∧
    key ≠ "https".toList

section Key

variable {key value : Text} {separator : Char} (is : IsKey key separator)

include is

theorem IsKey.not_name : isNameChar separator = false := by
  rcases is.separator with rfl | ⟨rfl, -⟩ <;> decide

theorem IsKey.takeWhile (value : Text) :
    (key ++ separator :: value).takeWhile isNameChar = key := by
  rw [List.takeWhile_append_of_pos is.name.chars,
    List.takeWhile_cons_of_neg (by simp [is.not_name]), List.append_nil]

theorem IsKey.head : ∃ c rest, key = c :: rest ∧ isNameChar c = true := by
  cases key with
  | nil => exact absurd rfl is.name.some
  | cons c rest => exact ⟨c, rest, rfl, is.name.chars c List.mem_cons_self⟩

theorem IsKey.not_json : looksLikeJson (key ++ separator :: value) = false := by
  obtain ⟨c, rest, rfl, isName⟩ := is.head
  have plain := isNameChar_iff.mp isName
  have noList : c ≠ '[' := by
    rintro rfl
    exact absurd plain.1.2.2 (by decide)
  simp [looksLikeJson, startsWith, Text.literal, Ne.symm noList, Ne.symm plain.2.2.2.2.2.2.2.2]

theorem IsKey.not_url : isUrl (key ++ separator :: value) = false := by
  have scheme : ∀ name : Text, (∀ c ∈ name, isNameChar c = true) → (separator = ':' → key ≠ name) →
      startsWith (key ++ separator :: value) (name ++ "://".toList) = false := by
    intro name chars other
    refine Bool.eq_false_iff.mpr fun starts => ?_
    obtain ⟨rest, whole⟩ := literal_isSome.mp starts
    have run : (name ++ "://".toList ++ rest).takeWhile isNameChar = name := by
      rw [List.append_assoc, List.takeWhile_append_of_pos chars]
      exact List.append_nil name
    have same : key = name := by rw [← is.takeWhile value, whole, run]
    subst same
    rw [List.append_assoc, List.append_cancel_left_eq] at whole
    exact other (List.cons.inj whole).1 rfl
  have letters : ∀ name : Text, name.all isNameChar = true → ∀ c ∈ name, isNameChar c = true :=
    fun name all => List.all_eq_true.mp all
  -- A scheme would be the whole key, with a colon behind it.
  have http := scheme "http".toList (letters _ (by decide)) fun colon => by
    rcases is.separator with rfl | ⟨-, -, no, -⟩
    · exact absurd colon (by decide)
    · exact no
  have https := scheme "https".toList (letters _ (by decide)) fun colon => by
    rcases is.separator with rfl | ⟨-, -, -, no⟩
    · exact absurd colon (by decide)
    · exact no
  unfold isUrl
  rw [Bool.or_eq_false_iff]
  exact ⟨http, https⟩

theorem IsKey.trim (value : Text) :
    ∃ t, trimMatches isWrapper (key ++ separator :: value) = key ++ t ∧
      ∀ c ∈ t.head?, c = separator := by
  obtain ⟨c, rest, rfl, isName⟩ := is.head
  have front : ((c :: rest) ++ separator :: value).dropWhile isWrapper =
      (c :: rest) ++ separator :: value :=
    List.dropWhile_cons_of_neg (by simp [(isNameChar_iff.mp isName).1.2.2])
  refine ⟨(separator :: value).rdropWhile isWrapper, ?_, ?_⟩
  · unfold trimMatches
    rw [front, rdropWhile_append (List.cons_ne_nil c rest)]
    exact (isNameChar_iff.mp (is.name.chars _ (List.getLast_mem _))).1.2.2
  · intro d member
    obtain ⟨tail, whole⟩ := List.rdropWhile_prefix isWrapper (separator :: value)
    cases cut : (separator :: value).rdropWhile isWrapper with
    | nil =>
      rw [cut] at member
      nomatch member
    | cons e t =>
      rw [cut] at member whole
      cases Option.some.inj member
      exact (List.cons.inj whole).1

theorem IsKey.not_drive : isWindowsDrivePathLike (key ++ separator :: value) = false := by
  obtain ⟨t, trimmed, head⟩ := is.trim value
  unfold isWindowsDrivePathLike
  rw [trimmed]
  refine Bool.eq_false_iff.mpr fun drive => ?_
  cases key with
  | nil => exact is.name.some rfl
  | cons c rest =>
    cases rest with
    | nil =>
      cases t with
      | nil => exact absurd drive (by simp [isDrive])
      | cons d t =>
        cases head d rfl
        rcases is.separator with rfl | ⟨-, one, -⟩
        · exact absurd drive (by simp [isDrive])
        · exact one rfl
    | cons d rest =>
      have noColon : d ≠ ':' :=
        (isNameChar_iff.mp (is.name.chars d (by simp))).2.2.2.2.1
      unfold isDrive at drive
      split at drive
      · next same => exact noColon (List.cons.inj (List.cons.inj same).2).1
      · exact absurd drive (by decide)

theorem IsKey.not_unc : isWindowsExtendedOrUncPathLike (key ++ separator :: value) = false := by
  obtain ⟨t, trimmed, -⟩ := is.trim value
  obtain ⟨c, rest, rfl, isName⟩ := is.head
  have plain := (isNameChar_iff.mp isName).2
  unfold isWindowsExtendedOrUncPathLike
  rw [trimmed, List.cons_append]
  refine isExtendedOrUnc_eq_false fun d member => ?_
  unfold normalized lower at member
  rw [collapse_cons fun back => absurd back plain.2.1, List.map_cons, List.map_cons,
    if_neg plain.2.1] at member
  cases Option.some.inj member
  exact fun lowered => plain.1 (toLower_slash lowered)

theorem IsKey.splitOnce_same : splitOnce separator (key ++ separator :: value) =
    some (key, value) := by
  have other : ∀ c ∈ key, decide (c ≠ separator) = true := by
    intro c member
    rw [decide_eq_true_iff]
    rintro rfl
    exact absurd (is.name.chars c member) (by simp [is.not_name])
  unfold splitOnce before
  rw [if_pos (by simp), List.takeWhile_append_of_pos other, List.dropWhile_append_of_pos other]
  simp

/-- What a word with a key becomes: its value is sanitized as a URL or as a path. -/
theorem IsKey.sanitize (fileName : Text → Option Text) (single : separator = ':' → '=' ∉ value)
    {safe : Text} (sanitized : sanitizeKeyed fileName (key ++ separator :: value) separator =
      some safe) :
    sanitizeOperatorDiagnosticToken fileName (key ++ separator :: value) = safe := by
  -- The equals sign is tried first, so a colon needs that there is none.
  have first : (sanitizeKeyed fileName (key ++ separator :: value) '=' <|>
      sanitizeKeyed fileName (key ++ separator :: value) ':') = some safe := by
    rcases is.separator with rfl | ⟨rfl, -⟩
    · rw [sanitized]
      rfl
    · have none : sanitizeKeyed fileName (key ++ ':' :: value) '=' = none := by
        unfold sanitizeKeyed splitOnce
        rw [if_neg]
        · rfl
        · intro member
          rcases List.mem_append.mp member with member | member
          · exact (isNameChar_iff.mp (is.name.chars _ member)).2.2.2.1 rfl
          · exact single rfl ((List.mem_cons.mp member).resolve_left (by decide))
      rw [none, sanitized]
      rfl
  unfold sanitizeOperatorDiagnosticToken
  simp only [is.not_json, is.not_url, is.not_drive, is.not_unc, first, Bool.false_eq_true, if_false,
    Bool.or_self]

end Key

end Diagnostics
