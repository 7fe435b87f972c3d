import Mathlib.Data.List.Basic

/-!
# First occurrences

A loop that appends what its list does not hold yet keeps the first occurrence of everything,
in order. `List.eraseDups` says what such a loop gives.
-/

namespace FirstOccurrences

variable {α : Type} [DecidableEq α]

theorem nodup_eraseDups (xs : List α) : xs.eraseDups.Nodup := by
  match xs with
  | [] => simp
  | x :: xs =>
    rw [List.eraseDups_cons, List.nodup_cons, List.mem_eraseDups]
    have shorter := List.length_filter_le (fun y => !y == x) xs
    exact ⟨by simp, nodup_eraseDups (xs.filter fun y => !y == x)⟩
termination_by xs.length

theorem eraseDups_of_nodup {xs : List α} (nodup : xs.Nodup) : xs.eraseDups = xs := by
  induction xs with
  | nil => rfl
  | cons x xs ih =>
    obtain ⟨fresh, nodup⟩ := List.nodup_cons.mp nodup
    rw [List.eraseDups_cons, List.filter_eq_self.mpr, ih nodup]
    intro y member
    simp only [Bool.not_eq_true', beq_eq_false_iff_ne]
    rintro rfl
    exact fresh member

/-- What is still to be appended after one more was. -/
theorem eraseDups_filter_cons {acc : List α} {x : α} (fresh : x ∉ acc) (xs : List α) :
    ((x :: xs).filter (· ∉ acc)).eraseDups =
      x :: (xs.filter (· ∉ acc ++ [x])).eraseDups := by
  rw [List.filter_cons_of_pos (by simpa using fresh), List.eraseDups_cons, List.filter_filter]
  congr 3
  funext y
  by_cases same : y = x <;> simp [same]

/-- A loop over a list that appends what is new. -/
theorem foldl_push (xs acc : List α) :
    xs.foldl (fun acc x => if x ∉ acc then acc ++ [x] else acc) acc =
      acc ++ (xs.filter (· ∉ acc)).eraseDups := by
  induction xs generalizing acc with
  | nil => simp
  | cons x xs ih =>
    simp only [List.foldl_cons]
    split
    · next fresh => rw [ih, eraseDups_filter_cons fresh, List.append_assoc, List.singleton_append]
    · next seen => rw [ih, List.filter_cons_of_neg (by simpa using seen)]

end FirstOccurrences
