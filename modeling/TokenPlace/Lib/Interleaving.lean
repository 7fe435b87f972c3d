import Mathlib.Data.List.Basic

/-!
# Interleavings of threads over a shared state

A thread is the list of the atomic actions it still has to take. Executing the
first of them changes the shared state and either puts more actions in front of
the rest or answers the call, which ends the thread. A `System` is a shared state
with its threads, and an `Event` starts a thread, runs the next action of one, or
changes the shared state from outside. `runs` executes a schedule, that is, any
list of events.

The rules are about one event first and then about a schedule:
* `holds_step`: an invariant of the shared state together with a condition on
  every action that is still to be taken;
* `along_runs`: an invariant of the system along a schedule whose events all meet
  a guard.
-/

namespace Interleaving

variable {σ κ τ ε ρ : Type}

/-- What an action leaves its thread to do. -/
inductive Next (τ ρ : Type) where
  | proceed (actions : List τ)
  | answer (reply : ρ)

namespace Next

/-- The actions that an action puts in front of its thread. -/
def actions : Next τ ρ → List τ
  | .proceed l => l
  | .answer _ => []

/-- The reply that ends the thread. -/
def reply : Next τ ρ → Option ρ
  | .proceed _ => none
  | .answer r => some r

/-- The thread after the action, `rest` being what followed it. -/
def followedBy : Next τ ρ → List τ → List τ
  | .proceed l, rest => l ++ rest
  | .answer _, _ => []

@[simp] theorem actions_proceed (l : List τ) : (Next.proceed l : Next τ ρ).actions = l := rfl

@[simp] theorem actions_answer (r : ρ) : (Next.answer r : Next τ ρ).actions = [] := rfl

@[simp] theorem reply_proceed (l : List τ) : (Next.proceed l : Next τ ρ).reply = none := rfl

@[simp] theorem reply_answer (r : ρ) : (Next.answer r : Next τ ρ).reply = some r := rfl

theorem mem_followedBy {n : Next τ ρ} {rest : List τ} {u : τ} (h : u ∈ n.followedBy rest) :
    u ∈ n.actions ∨ u ∈ rest := by
  cases n with
  | proceed l => exact List.mem_append.mp h
  | answer r => cases h

end Next

/-- Calls start threads, threads execute actions, and the environment may change
the shared state between two of them. -/
structure Machine (σ κ τ ε ρ : Type) where
  handler : κ → List τ
  exec : τ → σ → σ × Next τ ρ
  environment : ε → σ → σ

/-- The shared state and the threads over it. -/
structure System (σ τ : Type) where
  shared : σ
  threads : List (List τ)

/-- An event of a schedule. -/
inductive Event (κ ε : Type) where
  | spawn (call : κ)
  | run (thread : Nat)
  | environment (change : ε)

/-- Some thread still has to take the action. -/
def System.Awaits (s : System σ τ) (t : τ) : Prop := ∃ thread ∈ s.threads, t ∈ thread

/-- The action that an event executes. -/
def fired : Event κ ε → System σ τ → Option τ
  | .run i, s => s.threads[i]?.bind List.head?
  | _, _ => none

variable {s : System σ τ} {ev : Event κ ε} {t : τ}

theorem fired_eq_some :
    fired ev s = some t ↔ ∃ i rest, ev = .run i ∧ s.threads[i]? = some (t :: rest) := by
  cases ev with
  | spawn k | environment e => simp [fired]
  | run i =>
    simp only [fired, Option.bind_eq_some_iff, List.head?_eq_some_iff]
    constructor
    · rintro ⟨thread, found, rest, rfl⟩
      exact ⟨i, rest, rfl, found⟩
    · rintro ⟨j, rest, same, found⟩
      cases same
      exact ⟨_, found, rest, rfl⟩

theorem awaits_of_fired (h : fired ev s = some t) :
    s.Awaits t := by
  obtain ⟨i, rest, rfl, found⟩ := fired_eq_some.mp h
  exact ⟨t :: rest, List.mem_of_getElem? found, List.mem_cons_self⟩

namespace Machine

variable (m : Machine σ κ τ ε ρ)

/-- The system after one event. A thread that has ended or does not exist does
nothing when it is run. -/
def step : Event κ ε → System σ τ → System σ τ
  | .spawn k, s => { s with threads := s.threads ++ [m.handler k] }
  | .environment e, s => { s with shared := m.environment e s.shared }
  | .run i, s =>
    match s.threads[i]? with
    | some (t :: rest) =>
      ⟨(m.exec t s.shared).1, s.threads.set i ((m.exec t s.shared).2.followedBy rest)⟩
    | _ => s

/-- The reply that an event sends. -/
def replied (ev : Event κ ε) (s : System σ τ) : Option ρ :=
  (fired ev s).bind fun t => (m.exec t s.shared).2.reply

/-- The system after a schedule. -/
def runs : List (Event κ ε) → System σ τ → System σ τ
  | [], s => s
  | ev :: evs, s => runs evs (m.step ev s)

/-- Every event of the schedule meets the guard in the state it happens in. -/
def Along (G : Event κ ε → System σ τ → Prop) : List (Event κ ε) → System σ τ → Prop
  | [], _ => True
  | ev :: evs, s => G ev s ∧ Along G evs (m.step ev s)

instance decidableAlong (G : Event κ ε → System σ τ → Prop) [∀ ev s, Decidable (G ev s)] :
    (evs : List (Event κ ε)) → (s : System σ τ) → Decidable (m.Along G evs s)
  | [], _ => .isTrue trivial
  | ev :: evs, s =>
    have := decidableAlong G evs (m.step ev s)
    inferInstanceAs (Decidable (G ev s ∧ m.Along G evs (m.step ev s)))

variable {m}

theorem runs_append (evs evs' : List (Event κ ε)) (s : System σ τ) :
    m.runs (evs ++ evs') s = m.runs evs' (m.runs evs s) := by
  induction evs generalizing s with
  | nil => rfl
  | cons ev evs ih => exact ih (m.step ev s)

/-! ## One event -/

theorem replied_eq_some {r : ρ} :
    m.replied ev s = some r ↔
      ∃ t, fired ev s = some t ∧ (m.exec t s.shared).2.reply = some r :=
  Option.bind_eq_some_iff

theorem shared_of_fired (h : fired ev s = some t) :
    (m.step ev s).shared = (m.exec t s.shared).1 := by
  obtain ⟨i, rest, rfl, found⟩ := fired_eq_some.mp h
  simp only [step, found]

/-- After an action, what is left to do was left before or was put there by it. -/
theorem awaits_after (h : fired ev s = some t) {u : τ}
    (after : (m.step ev s).Awaits u) : u ∈ (m.exec t s.shared).2.actions ∨ s.Awaits u := by
  obtain ⟨i, rest, rfl, found⟩ := fired_eq_some.mp h
  obtain ⟨thread, member, inThread⟩ := after
  simp only [step, found] at member
  rcases List.mem_or_eq_of_mem_set member with kept | rfl
  · exact Or.inr ⟨thread, kept, inThread⟩
  · rcases Next.mem_followedBy inThread with new | old
    · exact Or.inl new
    · exact Or.inr ⟨t :: rest, List.mem_of_getElem? found, List.mem_cons_of_mem t old⟩

/-- An event that executes no action starts a thread, is the environment's, or
changes nothing. -/
theorem step_of_not_fired (h : fired ev s = none) :
    (∃ k, ev = .spawn k) ∨ (∃ e, ev = .environment e) ∨ m.step ev s = s := by
  cases ev with
  | spawn k => exact Or.inl ⟨k, rfl⟩
  | environment e => exact Or.inr (Or.inl ⟨e, rfl⟩)
  | run i =>
    refine Or.inr (Or.inr ?_)
    cases found : s.threads[i]? with
    | none => simp only [step, found]
    | some thread =>
      cases thread with
      | nil => simp only [step, found]
      | cons t rest =>
        simp only [fired, found, Option.bind_some, List.head?_cons] at h
        cases h

/-! ## Invariants -/

/-- The shared state satisfies `I` and every action still to be taken satisfies `T`. -/
def Holds (I : σ → Prop) (T : τ → σ → Prop) (s : System σ τ) : Prop :=
  I s.shared ∧ ∀ u, s.Awaits u → T u s.shared

/-- The step rule: an action has to keep the invariant, to justify the actions
it leaves to its thread, and to leave those of the other threads justified. -/
theorem holds_step {I : σ → Prop} {T : τ → σ → Prop}
    (spawned : ∀ k, ev = .spawn k → ∀ u ∈ m.handler k, T u s.shared)
    (changed : ∀ e, I s.shared → I (m.environment e s.shared) ∧
      ∀ u, T u s.shared → T u (m.environment e s.shared))
    (executed : ∀ t, fired ev s = some t → I (m.exec t s.shared).1 ∧
      (∀ u ∈ (m.exec t s.shared).2.actions, T u (m.exec t s.shared).1) ∧
      ∀ u, s.Awaits u → T u (m.exec t s.shared).1)
    (h : Holds I T s) : Holds I T (m.step ev s) := by
  cases hf : fired ev s with
  | some t =>
    obtain ⟨kept, new, others⟩ := executed t hf
    rw [← m.shared_of_fired hf] at kept new others
    refine ⟨kept, fun u after => ?_⟩
    rcases awaits_after hf after with left | old
    · exact new u left
    · exact others u old
  | none =>
    rcases m.step_of_not_fired hf with ⟨k, rfl⟩ | ⟨e, rfl⟩ | same
    · refine ⟨h.1, ?_⟩
      rintro u ⟨thread, member, inThread⟩
      rcases List.mem_append.mp member with old | new
      · exact h.2 u ⟨thread, old, inThread⟩
      · rw [List.mem_singleton] at new
        exact spawned k rfl u (new ▸ inThread)
    · exact ⟨(changed e h.1).1, fun u after => (changed e h.1).2 u (h.2 u after)⟩
    · rw [same]
      exact h

/-- The shared state keeps what every action and the environment keep. -/
theorem shared_step {I : σ → Prop}
    (changed : ∀ e x, I x → I (m.environment e x)) (executed : ∀ t x, I x → I (m.exec t x).1)
    (h : I s.shared) : I (m.step ev s).shared := by
  have held : Holds I (fun _ _ => True) s := ⟨h, fun _ _ => trivial⟩
  refine (m.holds_step (fun _ _ _ _ => trivial) (fun e hI => ⟨changed e _ hI, fun _ _ => trivial⟩)
    (fun t _ => ⟨executed t _ h, fun _ _ => trivial, fun _ _ => trivial⟩) held).1

/-- The run rule: what every event that meets the guard keeps holds after every
schedule whose events meet it. -/
theorem along_runs {G : Event κ ε → System σ τ → Prop} {J : System σ τ → Prop}
    (kept : ∀ ev s, G ev s → J s → J (m.step ev s)) {evs : List (Event κ ε)}
    (along : m.Along G evs s) (h : J s) : J (m.runs evs s) := by
  induction evs generalizing s with
  | nil => exact h
  | cons ev evs ih => exact ih along.2 (kept ev s along.1 h)

/-- The run rule without a guard. -/
theorem invariant_runs {J : System σ τ → Prop} (kept : ∀ ev s, J s → J (m.step ev s))
    (evs : List (Event κ ε)) (h : J s) : J (m.runs evs s) := by
  induction evs generalizing s with
  | nil => exact h
  | cons ev evs ih => exact ih (kept ev s h)

end Machine

end Interleaving
