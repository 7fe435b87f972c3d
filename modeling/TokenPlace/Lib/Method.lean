import Mathlib.Logic.Basic

/-!
# Methods of an object with mutable state that may raise

A `Method σ ε α` reads and writes a state `σ` and returns an `α` or raises an
`ε`. Nothing is rolled back: what was written before the raise stays written.

`Ends m s Q` says that running `m` from `s` ends with a result and a state that
satisfy `Q`. The `ends_` lemmas compute it for every way to build a method, so a
specification of a method body becomes the conjunction of the conditions on its
paths. `ends_forEach` is the invariant rule of a loop.
-/

/-- A method body over a state `σ` with exceptions `ε`. -/
def Method (σ ε α : Type) : Type := σ → Except ε α × σ

namespace Method

variable {σ ε α β : Type}

/-! ## Building methods -/

/-- Continues with the result, or passes the exception on in the state it left. -/
def andThen (m : Method σ ε α) (f : α → Method σ ε β) : Method σ ε β := fun s =>
  match m s with
  | (.ok a, s') => f a s'
  | (.error e, s') => (.error e, s')

instance : Monad (Method σ ε) where
  pure a := fun s => (.ok a, s)
  bind := andThen

/-- Reads the state. -/
def getState : Method σ ε σ := fun s => (.ok s, s)

/-- Writes the state. -/
def modifyState (f : σ → σ) : Method σ ε Unit := fun s => (.ok (), f s)

/-- Raises `e`. -/
def raise (e : ε) : Method σ ε α := fun s => (.error e, s)

/-- Raises `e` when `c` holds. -/
def raiseIf (c : Prop) [Decidable c] (e : ε) : Method σ ε Unit :=
  if c then raise e else pure ()

/-- A computation that does not touch the state. -/
def ofExcept : Except ε α → Method σ ε α
  | .ok a => pure a
  | .error e => raise e

/-- Runs `h` in the state that `m` left when it raised. -/
def catching (m : Method σ ε α) (h : ε → Method σ ε α) : Method σ ε α := fun s =>
  match m s with
  | (.ok a, s') => (.ok a, s')
  | (.error e, s') => h e s'

/-- A `for` loop over a list fixed before the loop starts. -/
def forEach : List α → (α → Method σ ε Unit) → Method σ ε Unit
  | [], _ => pure ()
  | a :: l, f => do
    f a
    forEach l f

/-- A chain of checks that succeeds has passed every one of them. -/
theorem bind_ok_iff {x : Except ε α} {f : α → Except ε β} {b : β} :
    (x >>= f) = .ok b ↔ ∃ a, x = .ok a ∧ f a = .ok b := by
  cases x with
  | error e => exact ⟨nofun, nofun⟩
  | ok a => exact ⟨fun h => ⟨a, rfl, h⟩, fun ⟨_, ha, h⟩ => by cases ha; exact h⟩

/-! ## Specifications -/

/-- Running `m` from `s` ends with a result and a state that satisfy `Q`. -/
def Ends (m : Method σ ε α) (s : σ) (Q : Except ε α → σ → Prop) : Prop :=
  Q (m s).1 (m s).2

/-- What follows a call: the rest of the body, or the exception. -/
def Follow (f : α → Method σ ε β) (Q : Except ε β → σ → Prop) : Except ε α → σ → Prop
  | .ok a, s => Ends (f a) s Q
  | .error e, s => Q (.error e) s

variable {m : Method σ ε α} {Q : Except ε α → σ → Prop} {s : σ} {f : α → Method σ ε β}

theorem Ends.mono {Q R : Except ε α → σ → Prop}
    (h : Ends m s Q) (hQR : ∀ r s', Q r s' → R r s') : Ends m s R :=
  hQR _ _ h

theorem Ends.and {Q R : Except ε α → σ → Prop} (h : Ends m s Q)
    (h' : Ends m s R) : Ends m s fun r s' => Q r s' ∧ R r s' := ⟨h, h'⟩

theorem Ends.of_eq {s s' : σ} {r : Except ε α} (h : Ends m s Q) (he : m s = (r, s')) : Q r s' := by
  unfold Ends at h
  rw [he] at h
  exact h

@[simp] theorem ends_pure {a : α} {s : σ} {Q : Except ε α → σ → Prop} :
    Ends (pure a) s Q ↔ Q (.ok a) s := Iff.rfl

theorem ends_bind {Q : Except ε β → σ → Prop} : Ends (m >>= f) s Q ↔ Ends m s (Follow f Q) := by
  show Q (andThen m f s).1 (andThen m f s).2 ↔ Follow f Q (m s).1 (m s).2
  unfold andThen
  rcases m s with ⟨_ | _, _⟩ <;> exact Iff.rfl

@[simp] theorem follow_ok {f : α → Method σ ε β} {Q : Except ε β → σ → Prop} {a : α} {s : σ} :
    Follow f Q (.ok a) s ↔ Ends (f a) s Q := Iff.rfl

@[simp] theorem follow_error {f : α → Method σ ε β} {Q : Except ε β → σ → Prop} {e : ε} {s : σ} :
    Follow f Q (.error e) s ↔ Q (.error e) s := Iff.rfl

@[simp] theorem ends_getState {s : σ} {Q : Except ε σ → σ → Prop} :
    Ends getState s Q ↔ Q (.ok s) s := Iff.rfl

@[simp] theorem ends_modifyState {f : σ → σ} {s : σ} {Q : Except ε Unit → σ → Prop} :
    Ends (modifyState f) s Q ↔ Q (.ok ()) (f s) := Iff.rfl

@[simp] theorem ends_raise {e : ε} {s : σ} {Q : Except ε α → σ → Prop} :
    Ends (raise e) s Q ↔ Q (.error e) s := Iff.rfl

@[simp] theorem ends_raiseIf {c : Prop} [Decidable c] {e : ε} {s : σ}
    {Q : Except ε Unit → σ → Prop} :
    Ends (raiseIf c e) s Q ↔ (c → Q (.error e) s) ∧ (¬c → Q (.ok ()) s) := by
  unfold raiseIf
  by_cases h : c <;> simp [h]

@[simp] theorem ends_ofExcept {x : Except ε α} {s : σ} {Q : Except ε α → σ → Prop} :
    Ends (ofExcept x) s Q ↔ Q x s := by
  cases x <;> exact Iff.rfl

theorem ends_catching {h : ε → Method σ ε α} :
    Ends (catching m h) s Q ↔ Ends m s fun r s' =>
      match r with
      | .ok a => Q (.ok a) s'
      | .error e => Ends (h e) s' Q := by
  unfold Ends catching
  rcases m s with ⟨_ | _, _⟩ <;> exact Iff.rfl

theorem ends_ite {c : Prop} [Decidable c] {m n : Method σ ε α} :
    Ends (if c then m else n) s Q ↔ (c → Ends m s Q) ∧ (¬c → Ends n s Q) := by
  by_cases h : c <;> simp [h]

/-- A loop keeps an invariant that every iteration keeps, also when one of them raises. -/
theorem ends_forEach {I : σ → Prop} {f : α → Method σ ε Unit} {l : List α} (h : I s)
    (step : ∀ a ∈ l, ∀ s, I s → Ends (f a) s fun _ s' => I s') :
    Ends (forEach l f) s fun _ s' => I s' := by
  induction l generalizing s with
  | nil => exact h
  | cons a l ih =>
    refine ends_bind.mpr ((step a List.mem_cons_self s h).mono ?_)
    intro r s' hs'
    cases r with
    | error e => exact hs'
    | ok _ => exact ih hs' fun b hb => step b (List.mem_cons_of_mem a hb)

/-- A call from a state the specification was proved for. -/
theorem ends_bind_of {P : Except ε α → σ → Prop} {Q : Except ε β → σ → Prop} (h : Ends m s P)
    (ok : ∀ a s', P (.ok a) s' → Ends (f a) s' Q)
    (error : ∀ e s', P (.error e) s' → Q (.error e) s') : Ends (m >>= f) s Q := by
  refine ends_bind.mpr (h.mono ?_)
  intro r s' hs'
  cases r with
  | ok a => exact ok a s' hs'
  | error e => exact error e s' hs'

end Method
