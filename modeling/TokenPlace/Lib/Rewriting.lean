import Mathlib.Data.List.Basic

/-!
# Rewriting of texts

The global replacement of a pattern, over any alphabet: from left to right, at the first place where
the pattern matches, and on behind the match.
-/

namespace Rewriting

variable {α : Type}

/-- A pattern gives for a text that begins with a match what replaces it, and how long it is. -/
abbrev Pattern (α : Type) := List α → Option (List α × Nat)

/-- The replacement where some letters are still part of a match. -/
def replaceFrom (pattern : Pattern α) : Nat → List α → List α
  | _, [] => []
  | skip + 1, _ :: s => replaceFrom pattern skip s
  | 0, c :: s =>
    match pattern (c :: s) with
    | some (replacement, length) => replacement ++ replaceFrom pattern (length - 1) s
    | none => c :: replaceFrom pattern 0 s

/-- The replacement of every match. -/
def replaceAll (pattern : Pattern α) (s : List α) : List α := replaceFrom pattern 0 s

/-- The text before the first `close`, if all its letters are of the class. -/
def before [DecidableEq α] (close : List α) (p : α → Bool) : List α → Option (List α)
  | [] => if close = [] then some [] else none
  | c :: s =>
    if close <+: c :: s then some []
    else if p c then (before close p s).map (c :: ·)
    else none

variable {pattern : Pattern α} {c : α} {s inner close : List α} {p : α → Bool}

theorem replaceFrom_eq (pattern : Pattern α) (skip : Nat) (s : List α) :
    replaceFrom pattern skip s = replaceAll pattern (s.drop skip) := by
  induction s generalizing skip with
  | nil =>
    rw [List.drop_nil]
    cases skip <;> rfl
  | cons c s ih =>
    cases skip with
    | zero => rfl
    | succ skip =>
      rw [replaceFrom, ih]
      rfl

/-- A relation between texts that every single replacement respects, wherever it stands. -/
theorem replaceAll_rel {R : List α → List α → Prop} (refl : ∀ s, R s s)
    (trans : ∀ s t u, R s t → R t u → R s u)
    (replaces : ∀ front s replacement length, pattern s = some (replacement, length) →
      0 < length ∧ R (front ++ s) (front ++ (replacement ++ s.drop length)))
    (front s : List α) : R (front ++ s) (front ++ replaceAll pattern s) := by
  induction length : s.length using Nat.strongRecOn generalizing front s with
  | ind n ih =>
    cases s with
    | nil => exact refl _
    | cons c s =>
      rw [replaceAll, replaceFrom]
      cases found : pattern (c :: s) with
      | none =>
        have rest := ih s.length (by rw [← length]; exact Nat.lt_succ_self _) (front ++ [c]) s rfl
        simpa [replaceFrom_eq] using rest
      | some result =>
        obtain ⟨replacement, consumed⟩ := result
        obtain ⟨some, here⟩ := replaces front (c :: s) replacement consumed found
        obtain ⟨k, rfl⟩ : ∃ k, consumed = k + 1 := ⟨consumed - 1, by omega⟩
        rw [List.drop_succ_cons] at here
        have rest := ih (s.drop k).length (by
          rw [← length, List.length_drop, List.length_cons]
          omega) (front ++ replacement) (s.drop k) rfl
        refine trans _ _ _ here ?_
        simpa [replaceFrom_eq, List.append_assoc] using rest

/-- What stands before a mark, and the mark. -/
theorem before_eq_some [DecidableEq α] (found : before close p s = some inner) :
    ∃ rest, s = inner ++ (close ++ rest) ∧ ∀ c ∈ inner, p c = true := by
  induction s generalizing inner with
  | nil =>
    rw [before] at found
    split at found
    · next empty =>
      cases found
      exact ⟨[], by rw [empty]; rfl, nofun⟩
    · cases found
  | cons c s ih =>
    rw [before] at found
    split at found
    · next here =>
      cases found
      obtain ⟨rest, same⟩ := here
      exact ⟨rest, same.symm, nofun⟩
    · split at found
      · next isP =>
        obtain ⟨inner', found', rfl⟩ := Option.map_eq_some_iff.mp found
        obtain ⟨rest, rfl, all⟩ := ih found'
        exact ⟨rest, rfl, List.forall_mem_cons.mpr ⟨isP, all⟩⟩
      · cases found

end Rewriting
