import Mathlib.Data.List.Basic

/-!
# First-in-first-out lists under keys

Every key has a list of entries, and every entry belongs to a group. `append`
puts an entry at the end of a list, `take` removes the first entry whose group is
wanted and answers with it, and `discard` removes all of them.

Results:
1. `taken_sublist`: along a run, what was taken of a group, followed by what is
   left of it, is a sublist of what there was and what was appended. So no entry
   is taken twice, and the entries of a group leave in the order they came in.
2. `taken_append_part`: a group that no `discard` wants loses nothing else.
-/

namespace KeyedFifo

variable {K E G : Type}

/-- An operation on the lists. -/
inductive Op (K E G : Type) where
  | append (key : K) (entry : E)
  | take (key : K) (wanted : G → Bool)
  | discard (key : K) (wanted : G → Bool)

/-- The answer to an operation. -/
inductive Answer (E : Type) where
  | appended
  | taken (entry : Option E)
  | discarded (count : Nat)
deriving DecidableEq

/-- The lists of all keys. -/
abbrev Lists (K E : Type) := K → List E

section Operations

variable [DecidableEq K] (group : E → G)

/-- The answer to an operation, and the lists after it. -/
def step : Op K E G → Lists K E → Answer E × Lists K E
  | .append key entry, f => (.appended, Function.update f key (f key ++ [entry]))
  | .take key wanted, f =>
    (.taken ((f key).find? fun e => wanted (group e)),
      Function.update f key ((f key).eraseP fun e => wanted (group e)))
  | .discard key wanted, f =>
    (.discarded ((f key).countP fun e => wanted (group e)),
      Function.update f key ((f key).filter fun e => !wanted (group e)))

/-- The answers to a run of operations, and the lists after it. -/
def run : List (Op K E G) → Lists K E → List (Answer E) × Lists K E
  | [], f => ([], f)
  | op :: ops, f =>
    let (answer, f) := step group op f
    let (answers, f) := run ops f
    (answer :: answers, f)

end Operations

/-! ## Accounting for one group of one key -/

section Accounting

variable [DecidableEq K] [DecidableEq G] (group : E → G) (key : K) (g : G)

/-- The entries of the group among those of a list. -/
def part (l : List E) : List E := l.filter fun e => group e = g

/-- What an operation appends to the group. -/
def appended : Op K E G → List E
  | .append k e => if k = key ∧ group e = g then [e] else []
  | _ => []

/-- What an operation takes of the group, by its answer. -/
def taken : Op K E G → Answer E → List E
  | .take k _, .taken (some e) => if k = key ∧ group e = g then [e] else []
  | _, _ => []

/-- The operation discards the group. -/
def Op.Discards : Op K E G → Prop
  | .discard k wanted => k = key ∧ wanted g = true
  | _ => False

variable {group key g}

/-- Taking the first wanted entry takes the first of its group, and only that. -/
theorem part_eraseP (wanted : G → Bool) (l : List E) :
    part group g l =
      (match l.find? fun e => wanted (group e) with
        | some e => if group e = g then [e] else []
        | none => []) ++ part group g (l.eraseP fun e => wanted (group e)) := by
  induction l with
  | nil => rfl
  | cons e l ih =>
    cases found : wanted (group e) with
    | true =>
      rw [List.find?_cons_of_pos (by exact found), List.eraseP_cons_of_pos (by exact found)]
      by_cases same : group e = g <;> simp [part, same]
    | false =>
      rw [List.find?_cons_of_neg (by simp [found]), List.eraseP_cons_of_neg (by simp [found])]
      by_cases same : group e = g
      · -- no entry of the group is wanted
        have nothing : (match l.find? fun e => wanted (group e) with
            | some e => if group e = g then [e] else []
            | none => []) = ([] : List E) := by
          split
          · next e' found' =>
            have wanted' := List.find?_some found'
            refine if_neg fun same' => ?_
            rw [same', ← same, found] at wanted'
            cases wanted'
          · rfl
        rw [nothing, List.nil_append] at ih ⊢
        simpa [part, same] using ih
      · simpa [part, same] using ih

/-- What is wanted or not stays of a group that a `discard` does not want. -/
theorem part_filter_of_unwanted {wanted : G → Bool} (unwanted : wanted g = false) (l : List E) :
    part group g (l.filter fun e => !wanted (group e)) = part group g l := by
  unfold part
  rw [List.filter_filter]
  refine List.filter_congr fun e _ => ?_
  by_cases same : group e = g <;> simp [same, unwanted]

/-- One operation either discards the group or moves its entries only. -/
theorem part_step (op : Op K E G) (f : Lists K E) (kept : ¬ op.Discards key g) :
    part group g (f key) ++ appended group key g op =
      taken group key g op (step group op f).1 ++ part group g ((step group op f).2 key) := by
  cases op with
  | append k e =>
    by_cases hk : k = key
    · subst hk
      by_cases same : group e = g <;> simp [step, appended, taken, part, same]
    · simp [step, appended, taken, hk, Function.update_of_ne (Ne.symm hk)]
  | take k wanted =>
    by_cases hk : k = key
    · subst hk
      have moved : part group g (f k) = _ := part_eraseP wanted (f k)
      simp only [step, appended, List.append_nil, Function.update_self]
      rw [moved]
      cases (f k).find? fun e => wanted (group e) <;> simp [taken]
    · have others : taken group key g (.take k wanted) (step group (.take k wanted) f).1 = [] := by
        simp only [step]
        cases (f k).find? fun e => wanted (group e) <;> simp [taken, hk]
      rw [others]
      simp [step, appended, Function.update_of_ne (Ne.symm hk)]
  | discard k wanted =>
    by_cases hk : k = key
    · subst hk
      have unwanted : wanted g = false := by simpa [Op.Discards] using kept
      simp [step, appended, taken, part_filter_of_unwanted unwanted]
    · simp [step, appended, taken, Function.update_of_ne (Ne.symm hk)]

theorem part_step_discarded (op : Op K E G) (f : Lists K E) (discards : op.Discards key g) :
    part group g ((step group op f).2 key) = [] ∧
      taken group key g op (step group op f).1 = [] := by
  cases op with
  | append k e | take k wanted => exact discards.elim
  | discard k wanted =>
    obtain ⟨rfl, want⟩ := discards
    refine ⟨?_, rfl⟩
    simp only [step, Function.update_self, part, List.filter_filter, List.filter_eq_nil_iff]
    rintro e - both
    obtain ⟨same, unwanted⟩ := (Bool.and_eq_true _ _).mp both
    rw [of_decide_eq_true same, want] at unwanted
    cases unwanted

theorem taken_sublist (ops : List (Op K E G)) (f : Lists K E) :
    List.Sublist
      ((List.zipWith (taken group key g) ops (run group ops f).1).flatten ++
        part group g ((run group ops f).2 key))
      (part group g (f key) ++ (ops.map (appended group key g)).flatten) := by
  induction ops generalizing f with
  | nil => simp [run]
  | cons op ops ih =>
    simp only [run, List.zipWith_cons_cons, List.flatten_cons, List.map_cons, List.append_assoc]
    by_cases discards : op.Discards key g
    · have gone : part group g ((step group op f).2 key) = [] ∧
          taken group key g op (step group op f).1 = [] := part_step_discarded op f discards
      obtain ⟨left, took⟩ := gone
      have later := ih (step group op f).2
      rw [left, List.nil_append] at later
      rw [took, List.nil_append]
      exact later.trans ((List.sublist_append_right _ _).trans (List.sublist_append_right _ _))
    · rw [← List.append_assoc (part group g (f key)), part_step op f discards, List.append_assoc]
      exact (List.Sublist.refl _).append (ih _)

theorem taken_append_part {ops : List (Op K E G)} (kept : ∀ op ∈ ops, ¬ op.Discards key g)
    (f : Lists K E) :
    (List.zipWith (taken group key g) ops (run group ops f).1).flatten ++
        part group g ((run group ops f).2 key) =
      part group g (f key) ++ (ops.map (appended group key g)).flatten := by
  induction ops generalizing f with
  | nil => simp [run]
  | cons op ops ih =>
    simp only [run, List.zipWith_cons_cons, List.flatten_cons, List.map_cons, List.append_assoc]
    rw [ih (fun op' member => kept op' (List.mem_cons_of_mem _ member)),
      ← List.append_assoc, ← part_step op f (kept op List.mem_cons_self), List.append_assoc]

end Accounting

end KeyedFifo
