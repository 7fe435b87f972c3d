import Mathlib.Data.List.Basic

/-!
# Schedules of a step function

A system whose every event is one application of a step function. `runs` executes
a schedule and `Along` says that every event of it meets a guard in the state it
happens in. `along_runs` is the invariant rule.
-/

namespace Schedules

variable {σ ε : Type} (step : ε → σ → σ)

/-- The state after a schedule. -/
def runs : List ε → σ → σ
  | [], s => s
  | ev :: evs, s => runs evs (step ev s)

/-- Every event of the schedule meets the guard in the state it happens in. -/
def Along (G : ε → σ → Prop) : List ε → σ → Prop
  | [], _ => True
  | ev :: evs, s => G ev s ∧ Along G evs (step ev s)

instance decidableAlong (G : ε → σ → Prop) [∀ ev s, Decidable (G ev s)] :
    (evs : List ε) → (s : σ) → Decidable (Along step G evs s)
  | [], _ => .isTrue trivial
  | ev :: evs, s =>
    have := decidableAlong G evs (step ev s)
    inferInstanceAs (Decidable (G ev s ∧ Along step G evs (step ev s)))

variable {step}

theorem runs_append (evs evs' : List ε) (s : σ) :
    runs step (evs ++ evs') s = runs step evs' (runs step evs s) := by
  induction evs generalizing s with
  | nil => rfl
  | cons ev evs ih => exact ih (step ev s)

variable {G : ε → σ → Prop} {evs : List ε} {J : σ → Prop} {s : σ}

/-- What every event that meets the guard keeps holds after every schedule whose
events meet it. -/
theorem along_runs (kept : ∀ ev s, G ev s → J s → J (step ev s))
    (along : Along step G evs s) (h : J s) : J (runs step evs s) := by
  induction evs generalizing s with
  | nil => exact h
  | cons ev evs ih => exact ih along.2 (kept ev s along.1 h)

/-- What every event keeps holds after every schedule. -/
theorem invariant_runs (kept : ∀ ev s, J s → J (step ev s)) (evs : List ε)
    (h : J s) : J (runs step evs s) := by
  induction evs generalizing s with
  | nil => exact h
  | cons ev evs ih => exact ih (kept ev s h)

/-- What a guard keeps and an invariant implies together holds along the schedule. -/
theorem along_of_along {G H : ε → σ → Prop}
    (kept : ∀ ev s, G ev s → J s → J (step ev s)) (implies : ∀ ev s, G ev s → J s → H ev s)
    (along : Along step G evs s) (start : J s) : Along step H evs s := by
  induction evs generalizing s with
  | nil => trivial
  | cons ev evs ih =>
    exact ⟨implies ev s along.1 start, ih along.2 (kept ev s along.1 start)⟩

theorem Along.take (along : Along step G evs s) (n : Nat) :
    Along step G (evs.take n) s := by
  induction evs generalizing s n with
  | nil => simpa using along
  | cons ev evs ih =>
    cases n with
    | zero => trivial
    | succ n => exact ⟨along.1, ih along.2 n⟩

theorem Along.drop (along : Along step G evs s) (n : Nat) :
    Along step G (evs.drop n) (runs step (evs.take n) s) := by
  induction evs generalizing s n with
  | nil => cases n <;> trivial
  | cons ev evs ih =>
    cases n with
    | zero => exact along
    | succ n => exact ih along.2 n

theorem runs_take_drop (evs : List ε) (s : σ) (n : Nat) :
    runs step (evs.drop n) (runs step (evs.take n) s) = runs step evs s := by
  rw [← runs_append, List.take_append_drop]

/-- A guard is exact when its events keep an invariant that implies `P`, and every
other event leads out of `P`. -/
theorem along_iff_take {J P : σ → Prop}
    (kept : ∀ ev s, G ev s → J s → J (step ev s)) (holds : ∀ s, J s → P s)
    (lost : ∀ ev s, J s → ¬ G ev s → ¬ P (step ev s)) (start : J s) :
    (∀ n, P (runs step (evs.take n) s)) ↔ Along step G evs s := by
  constructor
  · intro all
    induction evs generalizing s with
    | nil => trivial
    | cons ev evs ih =>
      have guarded : G ev s := by
        by_contra unguarded
        exact lost ev s start unguarded (all 1)
      exact ⟨guarded, ih (kept ev s guarded start) fun n => all (n + 1)⟩
  · exact fun along n => holds _ (along_runs kept (along.take n) start)

end Schedules
