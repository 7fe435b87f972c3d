import Mathlib.Algebra.GroupWithZero.Nat
import TokenPlace.Lib.Search
import TokenPlace.Lib.Text

/-!
# Rust text

The methods of `str` that cut a text, on its characters.
-/

namespace RustText

open Text (literal)

/-- `char::is_whitespace`. -/
def isWhitespace (c : Char) : Bool :=
  let n := c.toNat
  (9 ≤ n && n ≤ 13) || n == 32 || n == 0x85 || n == 0xA0 || n == 0x1680 ||
    (0x2000 ≤ n && n ≤ 0x200A) || n == 0x2028 || n == 0x2029 || n == 0x202F || n == 0x205F ||
    n == 0x3000

/-- `char::is_control`. -/
def isControl (c : Char) : Bool :=
  let n := c.toNat
  n < 32 || (0x7F ≤ n && n ≤ 0x9F)

/-- The length of a text, in bytes. -/
def byteLength (s : List Char) : Nat := (s.map Char.utf8Size).sum

/-- `trim_matches`. -/
def trimMatches (p : Char → Bool) (s : List Char) : List Char := (s.dropWhile p).rdropWhile p

/-- `trim`. -/
def trim (s : List Char) : List Char := trimMatches isWhitespace s

/-- `starts_with`, for a literal. -/
def startsWith (s w : List Char) : Bool := (literal w s).isSome

/-- `split_whitespace`. -/
def splitWhitespace (s : List Char) : List (List Char) :=
  (s.splitOnP isWhitespace).filter (· ≠ [])

/-- `split(c).next()`. -/
def before (c : Char) (s : List Char) : List Char := s.takeWhile (· ≠ c)

/-- `rsplit(c).next()`. -/
def afterLast (c : Char) (s : List Char) : List Char := s.rtakeWhile (· ≠ c)

/-- `split_once`, for a character. -/
def splitOnce (c : Char) (s : List Char) : Option (List Char × List Char) :=
  if c ∈ s then some (before c s, (s.dropWhile (· ≠ c)).tail) else none

/-- `split_once`, for a literal. -/
def splitOnceAt (w : List Char) : List Char → Option (List Char × List Char)
  | [] => (literal w []).map fun rest => ([], rest)
  | c :: s =>
    match literal w (c :: s) with
    | some rest => some ([], rest)
    | none => (splitOnceAt w s).map fun parts => (c :: parts.1, parts.2)

/-- `split(w).nth(1)`: what is between the first two occurrences of a literal. -/
def between (w s : List Char) : Option (List Char) :=
  (splitOnceAt w s).map fun parts => ((splitOnceAt w parts.2).map (·.1)).getD parts.2

/-- `to_ascii_lowercase`. -/
def lower (s : List Char) : List Char := s.map Char.toLower

/-- `replace` of two backslashes by one. -/
def collapseBackslashes : List Char → List Char
  | '\\' :: '\\' :: s => '\\' :: collapseBackslashes s
  | c :: s => c :: collapseBackslashes s
  | [] => []

/-- Words with blanks between them. -/
def joinWords : List (List Char) → List Char
  | [] => []
  | [word] => word
  | word :: words => word ++ ' ' :: joinWords words

variable {s t word : List Char} {words : List (List Char)}

theorem joinWords_append (some : words ≠ []) :
    joinWords (words ++ [word]) = joinWords words ++ ' ' :: word := by
  induction words with
  | nil => exact absurd rfl some
  | cons first words ih =>
    cases words with
    | nil => rfl
    | cons second words =>
      have inner := ih nofun
      show first ++ ' ' :: joinWords (second :: words ++ [word]) =
        (first ++ ' ' :: joinWords (second :: words)) ++ ' ' :: word
      rw [inner, List.append_assoc, List.cons_append]

theorem splitWhitespace_append (solid : ∀ c ∈ word, isWhitespace c = false) (some : word ≠ []) :
    splitWhitespace (s ++ ' ' :: word) = splitWhitespace s ++ [word] := by
  unfold splitWhitespace
  rw [List.splitOnP_append_cons _ _ (by decide), List.filter_append,
    List.splitOnP_eq_singleton solid, List.filter_cons_of_pos (by simpa using some),
    List.filter_nil]

theorem splitWhitespace_word (solid : ∀ c ∈ word, isWhitespace c = false) (some : word ≠ []) :
    splitWhitespace word = [word] := by
  unfold splitWhitespace
  rw [List.splitOnP_eq_singleton solid, List.filter_cons_of_pos (by simpa using some),
    List.filter_nil]

/-- A text with a character that is not blank has a word. -/
theorem splitWhitespace_ne_nil {c : Char} (member : c ∈ s) (solid : isWhitespace c = false) :
    splitWhitespace s ≠ [] := by
  induction s with
  | nil => nomatch member
  | cons d s ih =>
    unfold splitWhitespace
    rw [List.splitOnP_cons_eq_if_modifyHead]
    split
    · next blank =>
      rcases List.mem_cons.mp member with rfl | member
      · exact absurd blank (by simp [solid])
      · rw [List.filter_cons_of_neg (by simp)]
        exact ih member
    · cases split : s.splitOnP isWhitespace with
      | nil => exact absurd split (List.splitOnP_ne_nil _ _)
      | cons first words => simp

theorem solid_of_mem_splitOnP {p : Char → Bool} :
    ∀ piece ∈ s.splitOnP p, ∀ c ∈ piece, p c = false := by
  induction s with
  | nil => simp
  | cons c s ih =>
    rw [List.splitOnP_cons_eq_if_modifyHead]
    split
    · exact List.forall_mem_cons.mpr ⟨nofun, ih⟩
    · next other =>
      cases split : s.splitOnP p with
      | nil => exact absurd split (List.splitOnP_ne_nil _ _)
      | cons first rest =>
        rw [split] at ih
        obtain ⟨front, pieces⟩ := List.forall_mem_cons.mp ih
        exact List.forall_mem_cons.mpr
          ⟨List.forall_mem_cons.mpr ⟨Bool.eq_false_iff.mpr other, front⟩, pieces⟩

theorem solid_of_mem_splitWhitespace (member : word ∈ splitWhitespace s) :
    word ≠ [] ∧ ∀ c ∈ word, isWhitespace c = false := by
  obtain ⟨piece, some⟩ := List.mem_filter.mp member
  exact ⟨by simpa using some, solid_of_mem_splitOnP word piece⟩

/-- What a line that is not blank starts with, a word of it starts with. -/
theorem mem_splitWhitespace_of_dropWhile {c : Char}
    (head : c ∈ (s.dropWhile isWhitespace).head?) :
    ∃ word ∈ splitWhitespace s, c ∈ word.head? := by
  induction s with
  | nil => nomatch head
  | cons d s ih =>
    unfold splitWhitespace
    rw [List.splitOnP_cons_eq_if_modifyHead]
    split
    · next blank =>
      rw [List.dropWhile_cons_of_pos blank] at head
      rw [List.filter_cons_of_neg (by simp)]
      exact ih head
    · next solid =>
      rw [List.dropWhile_cons_of_neg solid] at head
      cases split : s.splitOnP isWhitespace with
      | nil => exact absurd split (List.splitOnP_ne_nil _ _)
      | cons first words => exact ⟨d :: first, by simp, head⟩

theorem mem_splitWhitespace_of_trim {c : Char} (head : c ∈ (trim s).head?) :
    ∃ word ∈ splitWhitespace s, c ∈ word.head? := by
  refine mem_splitWhitespace_of_dropWhile ?_
  obtain ⟨tail, whole⟩ := List.rdropWhile_prefix isWhitespace (s.dropWhile isWhitespace)
  rw [← whole]
  unfold trim trimMatches at head
  cases cut : (s.dropWhile isWhitespace).rdropWhile isWhitespace with
  | nil =>
    rw [cut] at head
    nomatch head
  | cons d rest =>
    rw [cut] at head
    exact head

theorem splitWhitespace_joinWords
    (solid : ∀ word ∈ words, word ≠ [] ∧ ∀ c ∈ word, isWhitespace c = false) :
    splitWhitespace (joinWords words) = words := by
  induction words using List.reverseRecOn with
  | nil => rfl
  | append_singleton words word ih =>
    obtain ⟨some, chars⟩ := solid word (by simp)
    rcases eq_or_ne words [] with rfl | more
    · exact splitWhitespace_word chars some
    · rw [joinWords_append more, splitWhitespace_append chars some,
        ih fun word member => solid word (List.mem_append_left _ member)]

theorem mem_joinWords {c : Char} (member : c ∈ joinWords words) :
    c = ' ' ∨ ∃ word ∈ words, c ∈ word := by
  induction words using List.reverseRecOn with
  | nil => nomatch member
  | append_singleton words word ih =>
    rcases eq_or_ne words [] with rfl | more
    · exact .inr ⟨word, by simp, member⟩
    · rw [joinWords_append more] at member
      rcases List.mem_append.mp member with member | member
      · exact (ih member).imp_right fun ⟨word, among, member⟩ =>
          ⟨word, List.mem_append_left _ among, member⟩
      · exact (List.mem_cons.mp member).imp_right fun member => ⟨word, by simp, member⟩

/-! ## Parts of a text -/

theorem contains_iff {w : List Char} : Text.contains s w = true ↔ w <:+: s := by
  unfold Text.contains
  induction s with
  | nil => cases w <;> simp [Text.search, literal]
  | cons c s ih =>
    rw [Text.search, List.infix_cons_iff]
    cases found : literal w (c :: s) with
    | some rest =>
      have front : w <+: c :: s := ⟨rest, (Text.literal_eq_some.mp found).symm⟩
      simp [front]
    | none =>
      have other : ¬ w <+: c :: s := by
        rintro ⟨rest, whole⟩
        rw [Text.literal_eq_some.mpr whole.symm] at found
        cases found
      simpa [other] using ih

theorem infix_of_mem_splitOnP {p : Char → Bool} :
    ∃ first rest, s.splitOnP p = first :: rest ∧ first <+: s ∧ ∀ piece ∈ rest, piece <:+: s := by
  induction s with
  | nil => exact ⟨[], [], rfl, List.nil_prefix, nofun⟩
  | cons c s ih =>
    obtain ⟨first, rest, whole, front, pieces⟩ := ih
    rw [List.splitOnP_cons_eq_if_modifyHead, whole]
    split
    · refine ⟨[], first :: rest, rfl, List.nil_prefix, fun piece member => ?_⟩
      rcases List.mem_cons.mp member with rfl | member
      · exact List.infix_cons front.isInfix
      · exact List.infix_cons (pieces piece member)
    · exact ⟨c :: first, rest, rfl, (List.prefix_cons_inj c).mpr front,
        fun piece member => List.infix_cons (pieces piece member)⟩

theorem infix_of_mem_splitWhitespace (member : word ∈ splitWhitespace s) : word <:+: s := by
  obtain ⟨first, rest, whole, front, pieces⟩ := infix_of_mem_splitOnP (p := isWhitespace) (s := s)
  unfold splitWhitespace at member
  rw [whole] at member
  rcases List.mem_cons.mp (List.mem_of_mem_filter member) with rfl | member
  · exact front.isInfix
  · exact pieces word member

theorem infix_of_infix_joinWords {w : List Char} (some : w ≠ []) (free : ' ' ∉ w)
    (inside : w <:+: joinWords words) : ∃ word ∈ words, w <:+: word := by
  induction words using List.reverseRecOn with
  | nil => exact absurd (List.infix_nil.mp inside) some
  | append_singleton words word ih =>
    rcases eq_or_ne words [] with rfl | more
    · exact ⟨word, by simp, inside⟩
    · rw [joinWords_append more] at inside
      rcases Search.infix_of_infix_append_cons free inside with front | last
      · obtain ⟨word, member, inside⟩ := ih front
        exact ⟨word, List.mem_append_left _ member, inside⟩
      · exact ⟨word, by simp, last⟩

end RustText
