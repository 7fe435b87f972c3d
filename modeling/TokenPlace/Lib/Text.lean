import Mathlib.Data.List.DropRight

/-!
# Python text

What `str.strip` and the class `\s` of a regular expression take for whitespace, the methods
that trim it, and the pieces of a match that runs from left to right: a literal and a run of one
class that is as long as possible.
-/

namespace Text

/-- `str.isspace` for one character, also the class `\s` of a text pattern. -/
def isSpace (c : Char) : Bool :=
  let n := c.toNat
  (9 ≤ n && n ≤ 13) || (28 ≤ n && n ≤ 32) || n == 0x85 || n == 0xA0 || n == 0x1680 ||
    (0x2000 ≤ n && n ≤ 0x200A) || n == 0x2028 || n == 0x2029 || n == 0x202F || n == 0x205F ||
    n == 0x3000

/-- `str.lstrip`, on the characters. -/
def lstrip (s : List Char) : List Char := s.dropWhile isSpace

/-- `str.rstrip`, on the characters. -/
def rstrip (s : List Char) : List Char := s.rdropWhile isSpace

/-- `str.strip`, on the characters. -/
def strip (s : List Char) : List Char := rstrip (lstrip s)

/-- What is left after a literal. -/
def literal : List Char → List Char → Option (List Char)
  | [], s => some s
  | c :: w, c' :: s => if c = c' then literal w s else none
  | _ :: _, [] => none

/-- A run of one class that is not empty, and what is left after it. -/
def many (p : Char → Bool) (s : List Char) : Option (List Char × List Char) :=
  if s.takeWhile p = [] then none else some (s.takeWhile p, s.dropWhile p)

/-- The first character, if there is one, is not of the class. -/
def Stops (p : Char → Bool) (s : List Char) : Prop := ∀ c ∈ s.head?, p c = false

instance (p : Char → Bool) (s : List Char) : Decidable (Stops p s) :=
  decidable_of_iff (s.head?.all (!p ·)) (by unfold Stops; cases s.head? <;> simp)

/-- What a match gives at the first place where there is one. -/
def search {α : Type} (pattern : List Char → Option α) : List Char → Option α
  | [] => pattern []
  | c :: s => pattern (c :: s) <|> search pattern s

/-- `w in s`. -/
def contains (s w : List Char) : Bool := (search (literal w) s).isSome

/-- `str.lower` as far as it gives ASCII letters. -/
def lower (s : List Char) : List Char :=
  s.map fun c => if c = '\u212a' then 'k' else if c = '\u0130' then 'i' else c.toLower

/-- Where `str.splitlines` ends a line. -/
def isLineBreak (c : Char) : Bool :=
  let n := c.toNat
  (10 ≤ n && n ≤ 13) || (28 ≤ n && n ≤ 30) || n == 0x85 || n == 0x2028 || n == 0x2029

/-- `str.splitlines`. -/
def splitLines : List Char → List (List Char)
  | [] => []
  | '\r' :: '\n' :: s => [] :: splitLines s
  | c :: s =>
    if isLineBreak c then [] :: splitLines s
    else
      match splitLines s with
      | [] => [[c]]
      | line :: lines => (c :: line) :: lines

variable {p q : Char → Bool} {c : Char} {s w rest run : List Char}

theorem splitLines_append (whole : ∀ c ∈ s, isLineBreak c = false) :
    splitLines (s ++ '\n' :: rest) = s :: splitLines rest := by
  induction s with
  | nil =>
    rw [List.nil_append, splitLines, if_pos (by decide)]
    intro _ feed
    exact absurd feed (by decide)
  | cons c s ih =>
    obtain ⟨here, later⟩ := List.forall_mem_cons.mp whole
    rw [List.cons_append, splitLines, if_neg (by simp [here]), ih later]
    rintro _ rfl
    exact absurd here (by decide)

@[simp] theorem literal_eq_some : literal w s = some rest ↔ s = w ++ rest := by
  induction w generalizing s with
  | nil => simp [literal]
  | cons c w ih =>
    cases s with
    | nil => simp [literal]
    | cons c' s =>
      simp only [literal, List.cons_append, List.cons.injEq]
      split
      · next same => rw [ih]; simp [same]
      · next other => simp [Ne.symm other]

theorem stops_nil : Stops p [] := nofun

theorem stops_cons : Stops p (c :: s) ↔ p c = false := by simp [Stops]

theorem dropWhile_append_of_stops (all : ∀ c ∈ run, p c) (stops : Stops p rest) :
    (run ++ rest).dropWhile p = rest := by
  rw [List.dropWhile_append_of_pos all]
  cases rest with
  | nil => rfl
  | cons c rest => simp [stops_cons.mp stops]

theorem dropWhile_stops (p : Char → Bool) (s : List Char) : Stops p (s.dropWhile p) := by
  intro c head
  exact Bool.eq_false_iff.mpr fun isP => by
    have := List.head?_dropWhile_not p s
    simp [Option.mem_def.mp head, isP] at this

/-! ## Trimming -/

/-- A run of whitespace, which may be empty. -/
def Spaces (s : List Char) : Prop := ∀ c ∈ s, isSpace c

/-- The last character, if there is one, is no whitespace. -/
def EndsTrimmed (s : List Char) : Prop := ∀ c ∈ s.getLast?, isSpace c = false

instance (s : List Char) : Decidable (Spaces s) :=
  decidable_of_iff (s.all isSpace) (by simp [Spaces])

instance (s : List Char) : Decidable (EndsTrimmed s) :=
  decidable_of_iff (s.getLast?.all (!isSpace ·)) (by
    unfold EndsTrimmed
    cases s.getLast? <;> simp)

variable {s t : List Char}

theorem Spaces.append (hs : Spaces s) (ht : Spaces t) : Spaces (s ++ t) := by
  intro c member
  obtain here | there := List.mem_append.mp member
  · exact hs c here
  · exact ht c there

theorem lstrip_eq (s : List Char) :
    ∃ run, Spaces run ∧ s = run ++ lstrip s ∧ Stops isSpace (lstrip s) :=
  ⟨s.takeWhile isSpace, fun _ member => List.mem_takeWhile_imp member,
    List.takeWhile_append_dropWhile.symm, dropWhile_stops isSpace s⟩

theorem lstrip_append (spaces : Spaces s) (stops : Stops isSpace t) : lstrip (s ++ t) = t :=
  dropWhile_append_of_stops spaces stops

theorem spaces_nil : Spaces [] := nofun

theorem lstrip_of_stops (stops : Stops isSpace s) : lstrip s = s := lstrip_append spaces_nil stops

theorem rstrip_eq_reverse (s : List Char) : rstrip s = (lstrip s.reverse).reverse := by
  unfold rstrip lstrip List.rdropWhile
  rfl

theorem endsTrimmed_iff : EndsTrimmed s ↔ Stops isSpace s.reverse := by
  unfold EndsTrimmed Stops
  rw [List.head?_reverse]

theorem rstrip_eq (s : List Char) :
    ∃ run, Spaces run ∧ s = rstrip s ++ run ∧ EndsTrimmed (rstrip s) := by
  obtain ⟨run, spaces, split, stops⟩ := lstrip_eq s.reverse
  refine ⟨run.reverse, fun c member => spaces c (List.mem_reverse.mp member), ?_, ?_⟩
  · rw [rstrip_eq_reverse, ← List.reverse_append, ← split, List.reverse_reverse]
  · rw [endsTrimmed_iff, rstrip_eq_reverse, List.reverse_reverse]
    exact stops

theorem rstrip_append (trimmed : EndsTrimmed s) (spaces : Spaces t) : rstrip (s ++ t) = s := by
  rw [rstrip_eq_reverse, List.reverse_append, lstrip_append, List.reverse_reverse]
  · exact fun c member => spaces c (List.mem_reverse.mp member)
  · exact endsTrimmed_iff.mp trimmed

theorem Stops.append {p : Char → Bool} (nonempty : s ≠ []) (stops : Stops p s) :
    Stops p (s ++ t) := by
  cases s with
  | nil => exact absurd rfl nonempty
  | cons c s => exact stops

theorem Stops.of_append {p : Char → Bool} (nonempty : s ≠ []) (stops : Stops p (s ++ t)) :
    Stops p s := by
  cases s with
  | nil => exact absurd rfl nonempty
  | cons c s => exact stops

theorem spaces_of_strip_eq_nil (stripped : strip s = []) : Spaces s := by
  obtain ⟨front, spacesFront, splitFront, _⟩ := lstrip_eq s
  obtain ⟨back, spacesBack, splitBack, _⟩ := rstrip_eq (lstrip s)
  rw [splitFront, splitBack, show rstrip (lstrip s) = [] from stripped]
  exact spacesFront.append spacesBack

end Text
