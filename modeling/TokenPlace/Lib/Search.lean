import Mathlib.Data.List.Infix

/-!
# The first occurrence of a word

`find`, as a method of texts and of byte strings: where a word begins for the first time. Results
are about a text that goes on, and about one that loses its front.
-/

namespace Search

/-- A word that fits is in the front already, when the front is long enough. -/
theorem prefix_of_prefix_append {β : Type} {w s t : List β} (long : w.length ≤ s.length)
    (here : w <+: s ++ t) : w <+: s :=
  List.prefix_of_prefix_length_le here (List.prefix_append s t) long

/-- What does not have a character is on one side of it. -/
theorem infix_of_infix_append_cons {β : Type} {c : β} {w a b : List β} (free : c ∉ w)
    (inside : w <:+: a ++ c :: b) : w <:+: a ∨ w <:+: b := by
  obtain ⟨front, back, whole⟩ := inside
  obtain ⟨more, rfl, -⟩ | ⟨more, left, right⟩ := List.append_eq_append_iff.mp whole
  · exact .inl ⟨front, more, rfl⟩
  · cases more with
    | nil => exact .inl ⟨front, [], by rw [List.append_nil, left, List.append_nil]⟩
    | cons d more =>
      obtain ⟨rfl, rfl⟩ := List.cons.inj right
      obtain ⟨rest, -, split⟩ | ⟨rest, -, split⟩ := List.append_eq_append_iff.mp left
      · exact absurd (split ▸ List.mem_append_right _ List.mem_cons_self) free
      · cases rest with
        | nil => exact absurd (by rw [← List.nil_append w, ← split]; simp) free
        | cons e rest =>
          obtain ⟨-, rfl⟩ := List.cons.inj split
          exact .inr ⟨rest, back, rfl⟩

variable {α : Type} [DecidableEq α] {w s t : List α} {i start : ℕ}

/-- `find`. -/
def find (w : List α) : List α → Option ℕ
  | [] => if w = [] then some 0 else none
  | c :: s => if w <+: c :: s then some 0 else (find w s).map (· + 1)

/-- `find`, from some place on. -/
def findFrom (w s : List α) (start : ℕ) : Option ℕ := (find w (s.drop start)).map (· + start)

theorem find_eq_some_iff : find w s = some i ↔
    i ≤ s.length ∧ w <+: s.drop i ∧ ∀ j < i, ¬ w <+: s.drop j := by
  induction s generalizing i with
  | nil =>
    unfold find
    cases w with
    | nil =>
      constructor
      · intro found
        cases found
        exact ⟨le_rfl, List.nil_prefix, nofun⟩
      · rintro ⟨small, -, -⟩
        rw [Nat.le_zero.mp small]
        rfl
    | cons c w =>
      rw [if_neg (List.cons_ne_nil c w)]
      refine ⟨nofun, fun ⟨_, here, _⟩ => ?_⟩
      rw [List.drop_nil] at here
      exact absurd (List.prefix_nil.mp here) (List.cons_ne_nil c w)
  | cons c s ih =>
    unfold find
    split
    · next here =>
      constructor
      · intro found
        cases found
        exact ⟨Nat.zero_le _, here, nofun⟩
      · rintro ⟨-, -, first⟩
        cases i with
        | zero => rfl
        | succ i => exact absurd here (first 0 (Nat.succ_pos i))
    · next other =>
      rw [Option.map_eq_some_iff]
      constructor
      · rintro ⟨i, found, rfl⟩
        obtain ⟨small, here, first⟩ := ih.mp found
        refine ⟨Nat.succ_le_succ small, here, fun j before => ?_⟩
        cases j with
        | zero => exact other
        | succ j => exact first j (Nat.lt_of_succ_lt_succ before)
      · rintro ⟨small, here, first⟩
        cases i with
        | zero => exact absurd here other
        | succ i =>
          exact ⟨i, ih.mpr ⟨Nat.le_of_succ_le_succ small, here, fun j before =>
            first (j + 1) (Nat.succ_lt_succ before)⟩, rfl⟩

theorem find_eq_none_iff : find w s = none ↔ ∀ i ≤ s.length, ¬ w <+: s.drop i := by
  induction s with
  | nil =>
    unfold find
    cases w with
    | nil => simp
    | cons c w => simp
  | cons c s ih =>
    unfold find
    split
    · next here => simpa using ⟨0, Nat.zero_le _, here⟩
    · next other =>
      rw [Option.map_eq_none_iff, ih]
      constructor
      · intro none i small
        cases i with
        | zero => exact other
        | succ i => exact none i (Nat.le_of_succ_le_succ small)
      · exact fun none i small => none (i + 1) (Nat.succ_le_succ small)

theorem find_drop (found : find w s = some i) : s.drop i = w ++ s.drop (i + w.length) := by
  obtain ⟨-, ⟨rest, whole⟩, -⟩ := find_eq_some_iff.mp found
  rw [← List.drop_drop, ← whole, List.drop_left]

theorem find_append (found : find w s = some i) (t : List α) : find w (s ++ t) = some i := by
  obtain ⟨small, here, first⟩ := find_eq_some_iff.mp found
  have long : w.length ≤ (s.drop i).length := here.length_le
  refine find_eq_some_iff.mpr ⟨?_, ?_, fun j before there => first j before ?_⟩
  · rw [List.length_append]
    omega
  · rw [List.drop_append_of_le_length small]
    exact here.trans (List.prefix_append _ t)
  · rw [List.drop_append_of_le_length (by omega)] at there
    refine prefix_of_prefix_append ?_ there
    rw [List.length_drop] at long ⊢
    omega

/-- A text in front of which no word begins can be left out. -/
theorem find_append_of_none {front : List α}
    (none : ∀ i < front.length, ¬ w <+: (front ++ s).drop i) :
    find w (front ++ s) = (find w s).map (· + front.length) := by
  induction front with
  | nil => simp
  | cons c front ih =>
    have rest := ih fun i small => none (i + 1) (Nat.succ_lt_succ small)
    have other : ¬ w <+: c :: (front ++ s) := none 0 (Nat.succ_pos _)
    rw [List.cons_append, find, if_neg other, rest, Option.map_map]
    rfl

end Search
