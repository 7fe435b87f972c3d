import TokenPlace.Desktop.Sidecar
import TokenPlace.Lib.Schedules

/-!
# One sidecar at a time

The check for a running sidecar and the region that puts a new one into the slots are apart, and
the cleanup after the output acts on whatever the slots hold. As long as no sidecar is spawned
while the call that spawned an earlier one goes on, or while the slot holds one that has not
ended, requests do not meet each other.

Results:
1. `isolation_while_spawns_are_alone`: in every run whose sidecars are spawned alone, the
   requests are isolated in every state.
2. `cleanup_takes_next_child`: a request that is started after another was cancelled can lose
   its child to the cleanup of the cancelled one.
-/

namespace Sidecar

open Operator (ExitStatus)
open Schedules (runs Along along_runs)

/-! ## Isolation -/

/-- The sidecar that a call of `start_sidecar` has spawned, while the call goes on. -/
def StartPhase.process : StartPhase → Option Nat
  | .checking | .resolving | .returned => none
  | .spawned p | .reading p _ | .taking p _ | .waiting p _ _ | .clearing p => some p

/-- At most one sidecar is alive; the handle of one that is alive is in the slot, or with a call
that has just spawned it or waits for it; and what a cleanup takes, waits for or clears and what
a call emits is that of the sidecar of the call, under its own `request_id`. -/
structure Isolated (s : SidecarState) : Prop where
  single : ∀ p q, s.alive p → s.alive q → p = q
  held : ∀ p, s.alive p → s.child = some p ∨
    ∃ i, s.phase i = some (.spawned p) ∨
      ∃ q sawError, s.phase i = some (.waiting q (some p) sawError)
  cleanups : ∀ i p, (i, p) ∈ s.cleanups → s.owner p = some i
  waits : ∀ i q p sawError, s.phase i = some (.waiting q (some p) sawError) → s.owner p = some i
  emissions : ∀ e ∈ s.emitted, s.owner e.process = some e.call ∧
    s.starts[e.call]?.map (·.requestId) = some e.requestId

/-- When a call spawns its sidecar, no other call that has spawned one goes on, and the slot
does not hold one that has not ended. -/
def SpawnsAlone (event : Event) (s : SidecarState) : Prop :=
  match event with
  | .spawnChild i true => s.phase i = some .resolving →
      (∀ c ∈ s.starts, c.phase.process = none) ∧ s.child.all (fun p => !s.alive p) = true
  | _ => True

instance (event : Event) (s : SidecarState) : Decidable (SpawnsAlone event s) := by
  unfold SpawnsAlone
  split <;> infer_instance

/-! ## The parts of the state -/

variable {s s' : SidecarState} {i j p q : Nat}

theorem phase_setPhase (s : SidecarState) (i j : Nat) (phase : StartPhase) :
    (s.setPhase i phase).phase j =
      if i = j then (s.phase j).map fun _ => phase else s.phase j := by
  simp only [SidecarState.phase, SidecarState.setPhase, List.getElem?_modify]
  split <;> cases s.starts[j]? <;> simp

theorem phase_setPhase_self {old : StartPhase} (h : s.phase i = some old) (phase : StartPhase) :
    (s.setPhase i phase).phase i = some phase := by
  simp [phase_setPhase, h]

theorem phase_setPhase_ne (h : i ≠ j) (phase : StartPhase) :
    (s.setPhase i phase).phase j = s.phase j := by
  simp [phase_setPhase, h]

theorem requestIds_setPhase (s : SidecarState) (i j : Nat) (phase : StartPhase) :
    (s.setPhase i phase).starts[j]?.map (·.requestId) = s.starts[j]?.map (·.requestId) := by
  simp only [SidecarState.setPhase, List.getElem?_modify]
  split <;> cases s.starts[j]? <;> simp

@[simp] theorem alive_setPhase (s : SidecarState) (i : Nat) (phase : StartPhase) (p : Nat) :
    (s.setPhase i phase).alive p = s.alive p := rfl

@[simp] theorem owner_setPhase (s : SidecarState) (i : Nat) (phase : StartPhase) (p : Nat) :
    (s.setPhase i phase).owner p = s.owner p := rfl

theorem owner_endProcess (s : SidecarState) (p : Nat) (status : ExitStatus) (q : Nat) :
    (s.endProcess p status).owner q = s.owner q := by
  simp only [SidecarState.owner, SidecarState.endProcess, List.getElem?_modify]
  split <;> cases s.processes[q]? <;> simp

theorem alive_of_alive_endProcess {status : ExitStatus} (h : (s.endProcess p status).alive q) :
    s.alive q ∧ p ≠ q := by
  simp only [SidecarState.alive, SidecarState.endProcess, List.getElem?_modify] at h
  split at h
  · cases hq : s.processes[q]? <;> simp_all
  · next hne => exact ⟨by simpa [SidecarState.alive] using h, hne⟩

theorem exitStatus_of_alive (h : s.alive p) : s.exitStatus p = none := by
  cases hp : s.processes[p]? with
  | none => simp [SidecarState.exitStatus, hp]
  | some process => simpa [SidecarState.alive, SidecarState.exitStatus, hp] using h

theorem owner_spawn (h : s.owner p = some i) (call : Nat) :
    (spawnChild s call true).owner p = some i := by
  obtain ⟨process, hprocess, rfl⟩ := Option.map_eq_some_iff.mp h
  have hp : p < s.processes.length := (List.getElem?_eq_some_iff.mp hprocess).1
  simp [spawnChild, SidecarState.owner, SidecarState.setPhase, List.getElem?_append_left hp,
    hprocess]

theorem alive_spawn (h : (spawnChild s i true).alive p) : p = s.processes.length ∨ s.alive p := by
  obtain hp | hp := Nat.lt_or_ge p s.processes.length
  · right
    simpa [spawnChild, SidecarState.alive, SidecarState.setPhase,
      List.getElem?_append_left hp] using h
  · left
    simp only [spawnChild, SidecarState.alive, SidecarState.setPhase, if_true,
      List.getElem?_append_right hp] at h
    cases hp' : p - s.processes.length with
    | zero => omega
    | succ n => simp [hp'] at h

/-! ## The invariant -/

/-- The slots hold nothing but what belongs to that sidecar. -/
structure Slots (s : SidecarState) (p : Nat) : Prop where
  child : ∀ q, s.child = some q → q = p
  stdin : ∀ q, s.stdin = some q → q = p

/-- Where the sidecar of a call in progress is. -/
def Located (s : SidecarState) (p : Nat) : StartPhase → Prop
  | .reading _ _ | .taking _ _ => Slots s p ∧ (s.alive p → s.child = some p)
  | .waiting _ runningChild _ =>
    Slots s p ∧ (∀ q, runningChild = some q → q = p) ∧ (s.alive p → runningChild = some p)
  | .clearing _ => Slots s p ∧ ¬ s.alive p
  | _ => True

/-- No call that has spawned a sidecar goes on. -/
structure Idle (s : SidecarState) : Prop where
  idle : ∀ j phase, s.phase j = some phase → phase.process = none
  parked : ∀ q, s.alive q → s.child = some q

/-- That call is the only one that has spawned a sidecar and goes on. -/
structure Busy (s : SidecarState) (i : Nat) (phase : StartPhase) (p : Nat) : Prop where
  at_phase : s.phase i = some phase
  process : phase.process = some p
  owner : s.owner p = some i
  only : ∀ j phase', s.phase j = some phase' → phase'.process ≠ none → j = i
  alone : ∀ q, s.alive q → q = p
  located : Located s p phase

/-- What the cleanups touched and what the calls emitted is their own. -/
structure Own (s : SidecarState) : Prop where
  cleanups : ∀ i p, (i, p) ∈ s.cleanups → s.owner p = some i
  emissions : ∀ e ∈ s.emitted, s.owner e.process = some e.call ∧
    s.starts[e.call]?.map (·.requestId) = some e.requestId

/-- What every step keeps whose sidecars are spawned alone. -/
def Invariant (s : SidecarState) : Prop :=
  Own s ∧ (Idle s ∨ ∃ i phase p, Busy s i phase p)

theorem Invariant.empty : Invariant .empty := by
  refine ⟨⟨?_, ?_⟩, .inl ⟨?_, ?_⟩⟩ <;>
    simp [SidecarState.empty, SidecarState.phase, SidecarState.alive]

variable {phase : StartPhase}

theorem Invariant.busy (inv : Invariant s) (at_phase : s.phase i = some phase)
    (process : phase.process = some p) : Busy s i phase p := by
  obtain ⟨-, idle | ⟨i', phase', p', busy⟩⟩ := inv
  · exact absurd process (by simp [idle.idle i phase at_phase])
  · obtain rfl := busy.only i phase at_phase (by simp [process])
    obtain rfl := Option.some_inj.mp (at_phase.symm.trans busy.at_phase)
    obtain rfl := Option.some_inj.mp (process.symm.trans busy.process)
    exact busy

theorem Invariant.isolated (inv : Invariant s) : Isolated s where
  single p q hp hq := by
    obtain ⟨-, idle | ⟨i, phase, r, busy⟩⟩ := inv
    · exact Option.some_inj.mp ((idle.parked p hp).symm.trans (idle.parked q hq))
    · rw [busy.alone p hp, busy.alone q hq]
  held p hp := by
    obtain ⟨-, idle | ⟨i, phase, r, busy⟩⟩ := inv
    · exact .inl (idle.parked p hp)
    -- a child that is not in its slot is in the hands of the call that waits for it
    · obtain rfl := busy.alone p hp
      have located := busy.located
      have process := busy.process
      have at_phase := busy.at_phase
      cases phase with
      | checking | resolving | returned => simp [StartPhase.process] at process
      | spawned q =>
        obtain rfl : q = p := by simpa [StartPhase.process] using process
        exact .inr ⟨i, .inl at_phase⟩
      | reading _ _ | taking _ _ => exact .inl (located.2 hp)
      | waiting q runningChild sawError =>
        rw [located.2.2 hp] at at_phase
        exact .inr ⟨i, .inr ⟨q, sawError, at_phase⟩⟩
      | clearing _ => exact absurd hp located.2
  cleanups := inv.1.cleanups
  waits i q p sawError h := by
    have busy := inv.busy h rfl
    rw [busy.located.2.1 p rfl]
    exact busy.owner
  emissions := inv.1.emissions

/-! ## Steps that leave the call in progress where it is -/

/-- No call that has spawned a sidecar moves, no sidecar is added, and a slot is at most cleared,
that of the children only when its child has ended. -/
structure Frame (s s' : SidecarState) : Prop where
  phases : ∀ j phase, phase.process ≠ none → (s'.phase j = some phase ↔ s.phase j = some phase)
  owner : ∀ p, s'.owner p = s.owner p
  alive : ∀ p, s'.alive p → s.alive p
  child : ∀ p, s'.child = some p → s.child = some p
  parked : ∀ p, s'.alive p → s.child = some p → s'.child = some p
  stdin : ∀ p, s'.stdin = some p → s.stdin = some p
  requestIds : ∀ (j : Nat) (id : String), s.starts[j]?.map StartCall.requestId = some id →
    s'.starts[j]?.map StartCall.requestId = some id
  cleanups : s'.cleanups = s.cleanups
  emitted : s'.emitted = s.emitted

theorem Frame.own (frame : Frame s s') (own : Own s) : Own s' := by
  constructor
  · intro i p h
    rw [frame.owner]
    exact own.cleanups i p (by rwa [← frame.cleanups])
  · intro e he
    rw [frame.emitted] at he
    obtain ⟨howner, hid⟩ := own.emissions e he
    exact ⟨by rw [frame.owner, howner], frame.requestIds _ _ hid⟩

theorem Frame.slots (frame : Frame s s') (slots : Slots s p) : Slots s' p :=
  ⟨fun q hq => slots.child q (frame.child q hq), fun q hq => slots.stdin q (frame.stdin q hq)⟩

theorem Frame.located (frame : Frame s s') (located : Located s p phase) :
    Located s' p phase := by
  cases phase with
  | checking | resolving | spawned _ | returned => trivial
  | reading _ _ | taking _ _ =>
    refine ⟨frame.slots located.1, fun alive => frame.parked p alive ?_⟩
    exact located.2 (frame.alive p alive)
  | waiting _ _ _ =>
    exact ⟨frame.slots located.1, located.2.1, fun alive => located.2.2 (frame.alive p alive)⟩
  | clearing _ => exact ⟨frame.slots located.1, fun alive => located.2 (frame.alive p alive)⟩

theorem Frame.invariant (frame : Frame s s') (inv : Invariant s) : Invariant s' := by
  refine ⟨frame.own inv.1, ?_⟩
  obtain ⟨-, idle | ⟨i, phase, p, busy⟩⟩ := inv
  · refine .inl ⟨fun j phase h => ?_, fun q alive => ?_⟩
    · by_contra hprocess
      exact hprocess (idle.idle j phase ((frame.phases j phase hprocess).mp h))
    · exact frame.parked q alive (idle.parked q (frame.alive q alive))
  · have hprocess : phase.process ≠ none := by simp [busy.process]
    refine .inr ⟨i, phase, p, (frame.phases i phase hprocess).mpr busy.at_phase, busy.process, ?_,
      fun j phase' h hne => busy.only j phase' ((frame.phases j phase' hne).mp h) hne,
      fun q alive => busy.alone q (frame.alive q alive), frame.located busy.located⟩
    rw [frame.owner, busy.owner]

theorem Frame.refl (s : SidecarState) : Frame s s :=
  ⟨fun _ _ _ => .rfl, fun _ => rfl, fun _ => id, fun _ => id, fun _ _ => id, fun _ => id,
    fun _ _ => id, rfl, rfl⟩

theorem Frame.trans {s₁ s₂ s₃ : SidecarState} (h : Frame s₁ s₂) (h' : Frame s₂ s₃) :
    Frame s₁ s₃ where
  phases j phase hne := (h'.phases j phase hne).trans (h.phases j phase hne)
  owner p := (h'.owner p).trans (h.owner p)
  alive p alive := h.alive p (h'.alive p alive)
  child p hp := h.child p (h'.child p hp)
  parked p alive hp := h'.parked p alive (h.parked p (h'.alive p alive) hp)
  stdin p hp := h.stdin p (h'.stdin p hp)
  requestIds j id hid := h'.requestIds j id (h.requestIds j id hid)
  cleanups := h'.cleanups.trans h.cleanups
  emitted := h'.emitted.trans h.emitted

theorem Frame.setPhase {old phase : StartPhase} (at_phase : s.phase i = some old)
    (hold : old.process = none) (hnew : phase.process = none) : Frame s (s.setPhase i phase) where
  phases j phase' hne := by
    by_cases hij : i = j
    · subst hij
      simp only [phase_setPhase_self at_phase, at_phase, Option.some_inj]
      constructor
      · rintro rfl
        exact absurd hnew hne
      · rintro rfl
        exact absurd hold hne
    · rw [phase_setPhase_ne hij]
  owner _ := rfl
  alive _ := id
  child _ := id
  parked _ _ := id
  stdin _ := id
  requestIds j id hid := by rwa [requestIds_setPhase]
  cleanups := rfl
  emitted := rfl

theorem Frame.clear (hchild : ∀ p, s.child = some p → ¬ s.alive p) :
    Frame s { s with child := none, stdin := none } where
  phases _ _ _ := .rfl
  owner _ := rfl
  alive _ := id
  child _ h := nomatch h
  parked p alive h := absurd alive (hchild p h)
  stdin _ h := nomatch h
  requestIds _ _ := id
  cleanups := rfl
  emitted := rfl

theorem Frame.endProcess (s : SidecarState) (p : Nat) (status : ExitStatus) :
    Frame s (s.endProcess p status) where
  phases _ _ _ := .rfl
  owner := owner_endProcess s p status
  alive _ alive := (alive_of_alive_endProcess alive).1
  child _ := id
  parked _ _ := id
  stdin _ := id
  requestIds _ _ := id
  cleanups := rfl
  emitted := rfl

theorem Frame.cancels (s : SidecarState) (cancels : List CancelPhase) :
    Frame s { s with cancels := cancels } :=
  ⟨fun _ _ _ => .rfl, fun _ => rfl, fun _ => id, fun _ => id, fun _ _ => id, fun _ => id,
    fun _ _ => id, rfl, rfl⟩

theorem frame_startSidecar (s : SidecarState) (requestId : String) :
    Frame s { s with starts := s.starts ++ [⟨requestId, .checking⟩] } where
  phases j phase hne := by
    simp only [SidecarState.phase]
    rcases Nat.lt_trichotomy j s.starts.length with hj | hj | hj
    · rw [List.getElem?_append_left hj]
    · subst hj
      have hchecking : phase ≠ .checking := by
        rintro rfl
        exact hne rfl
      simp [hchecking.symm]
    · rw [List.getElem?_eq_none (by simp; omega), List.getElem?_eq_none (by omega)]
  owner _ := rfl
  alive _ := id
  child _ := id
  parked _ _ := id
  stdin _ := id
  requestIds j id hid := by
    obtain ⟨c, hc, rfl⟩ := Option.map_eq_some_iff.mp hid
    have hj : j < s.starts.length := (List.getElem?_eq_some_iff.mp hc).1
    rw [List.getElem?_append_left hj, hc]
    rfl
  cleanups := rfl
  emitted := rfl

theorem frame_checkRunning (at_phase : s.phase i = some .checking) (tryWaitFails : Bool) :
    Frame s (checkRunning s i tryWaitFails) := by
  unfold checkRunning
  split
  · exact .setPhase at_phase rfl rfl
  · next hcheck =>
    have at_phase' : { s with child := none, stdin := none : SidecarState }.phase i =
      some .checking := at_phase
    refine .trans (.clear fun p hp alive => hcheck ?_) (.setPhase at_phase' rfl rfl)
    simp [hp, exitStatus_of_alive alive]

theorem frame_stopChild (s : SidecarState) (tryWaitFails : Bool) :
    Frame s (stopChild s tryWaitFails) := by
  unfold stopChild
  split
  · next h => exact .clear fun p hp => by simp [h] at hp
  · next p h =>
    split
    · exact .refl _
    · refine .trans (.endProcess _ p killed) (.clear fun q hq alive => ?_)
      obtain rfl := Option.some_inj.mp (h.symm.trans hq)
      exact (alive_of_alive_endProcess alive).2 rfl

/-! ## Steps of the call in progress -/

section progress

variable {s₁ : SidecarState} {old : StartPhase}

theorem phase_of_starts (starts : s₁.starts = s.starts) (j : Nat) : s₁.phase j = s.phase j := by
  simp only [SidecarState.phase, starts]

theorem owner_of_processes (processes : s₁.processes = s.processes) (p : Nat) :
    s₁.owner p = s.owner p := by
  simp only [SidecarState.owner, processes]

theorem alive_of_processes (processes : s₁.processes = s.processes) (p : Nat) :
    s₁.alive p = s.alive p := by
  simp only [SidecarState.alive, processes]

theorem Located.setPhase (located : Located s p phase) (i : Nat)
    (new : StartPhase) : Located (s.setPhase i new) p phase := by
  cases phase with
  | checking | resolving | spawned _ | returned => trivial
  | reading _ _ | taking _ _ | waiting _ _ _ | clearing _ =>
    exact ⟨⟨located.1.child, located.1.stdin⟩, located.2⟩

theorem Busy.next (busy : Busy s i old p) (starts : s₁.starts = s.starts)
    (processes : s₁.processes = s.processes) (process : phase.process = some p)
    (located : Located s₁ p phase) : Busy (s₁.setPhase i phase) i phase p where
  at_phase := phase_setPhase_self ((phase_of_starts starts i).trans busy.at_phase) phase
  process := process
  owner := (owner_of_processes processes p).trans busy.owner
  only j phase' h hne := by
    by_cases hij : i = j
    · exact hij.symm
    · rw [phase_setPhase_ne hij, phase_of_starts starts] at h
      exact busy.only j phase' h hne
  alone q alive := busy.alone q (by rwa [alive_setPhase, alive_of_processes processes] at alive)
  located := located.setPhase i phase

theorem Busy.returns (busy : Busy s i old p) (starts : s₁.starts = s.starts)
    (processes : s₁.processes = s.processes) (parked : s₁.alive p → s₁.child = some p) :
    Idle (s₁.setPhase i .returned) where
  idle j phase h := by
    by_cases hij : i = j
    · subst hij
      rw [phase_setPhase_self ((phase_of_starts starts i).trans busy.at_phase),
        Option.some_inj] at h
      exact h ▸ rfl
    · rw [phase_setPhase_ne hij, phase_of_starts starts] at h
      by_contra hne
      exact hij (busy.only j phase h hne).symm
  parked q alive := by
    obtain rfl := busy.alone q (by rwa [alive_setPhase, alive_of_processes processes] at alive)
    exact parked alive

/-- What the call in progress emits is about its own sidecar, and its cleanup touches only
that. -/
theorem Busy.own (busy : Busy s i old p) (own : Own s)
    (starts : s₁.starts = s.starts) (processes : s₁.processes = s.processes)
    (cleanups : ∀ c ∈ s₁.cleanups, c ∈ s.cleanups ∨ c = (i, p))
    (emitted : ∀ e ∈ s₁.emitted, e ∈ s.emitted ∨ ∃ event, e = ⟨s.requestId i, event, i, p⟩) :
    Own (s₁.setPhase i phase) := by
  constructor
  · intro j q h
    rw [owner_setPhase, owner_of_processes processes]
    obtain h | h := cleanups (j, q) h
    · exact own.cleanups j q h
    · obtain ⟨rfl, rfl⟩ := Prod.mk.inj h
      exact busy.owner
  · intro e he
    rw [owner_setPhase, owner_of_processes processes, requestIds_setPhase, starts]
    obtain h | ⟨event, rfl⟩ := emitted e he
    · exact own.emissions e h
    · obtain ⟨c, hc, -⟩ := Option.map_eq_some_iff.mp busy.at_phase
      exact ⟨busy.owner, by simp [SidecarState.requestId, hc]⟩

theorem Busy.quiet (busy : Busy s i old p) (own : Own s)
    (process : phase.process = some p) (located : Located s p phase) :
    Invariant (s.setPhase i phase) :=
  ⟨busy.own own rfl rfl (fun _ => .inl) (fun _ => .inl),
    .inr ⟨i, phase, p, busy.next rfl rfl process located⟩⟩

theorem Busy.leave (busy : Busy s i old p) (own : Own s) (parked : s.alive p → s.child = some p) :
    Invariant (s.setPhase i .returned) :=
  ⟨busy.own own rfl rfl (fun _ => .inl) (fun _ => .inl), .inl (busy.returns rfl rfl parked)⟩

theorem Busy.emits (busy : Busy s i old p) (own : Own s) (event : SidecarEvent)
    (process : phase.process = some p) (located : Located s p phase) :
    Invariant ((s.emit i p event).setPhase i phase) := by
  refine ⟨busy.own own rfl rfl (fun _ => .inl) (fun e he => ?_),
    .inr ⟨i, phase, p, busy.next rfl rfl process ?_⟩⟩
  · exact (List.mem_append.mp he).imp id fun h => ⟨event, List.mem_singleton.mp h⟩
  · cases phase with
    | checking | resolving | spawned _ | returned => trivial
    | reading _ _ | taking _ _ | waiting _ _ _ | clearing _ =>
      exact ⟨⟨located.1.child, located.1.stdin⟩, located.2⟩

theorem invariant_spawnChild (inv : Invariant s) (at_phase : s.phase i = some .resolving)
    (idle : ∀ c ∈ s.starts, c.phase.process = none)
    (ended : s.child.all (fun p => !s.alive p) = true) : Invariant (spawnChild s i true) := by
  have none_alive : ∀ q, ¬ s.alive q := by
    intro q alive
    obtain ⟨-, free | ⟨j, phase, p, busy⟩⟩ := inv
    · simp [free.parked q alive, alive] at ended
    · obtain ⟨c, hc, rfl⟩ := Option.map_eq_some_iff.mp busy.at_phase
      exact absurd busy.process (by simp [idle c (List.mem_of_getElem? hc)])
  refine ⟨⟨fun j q h => owner_spawn (inv.1.cleanups j q h) i, fun e he => ?_⟩,
    .inr ⟨i, .spawned s.processes.length, s.processes.length, ?_⟩⟩
  · obtain ⟨howner, hid⟩ := inv.1.emissions e he
    exact ⟨owner_spawn howner i, (requestIds_setPhase _ i _ _).trans hid⟩
  · refine ⟨phase_setPhase_self at_phase _, rfl, ?_, fun j phase h hne => ?_, fun q alive => ?_,
      trivial⟩
    · simp [spawnChild, SidecarState.owner, SidecarState.setPhase]
    · by_contra hji
      replace h := (phase_setPhase_ne (Ne.symm hji) _).symm.trans h
      obtain ⟨c, hc, rfl⟩ := Option.map_eq_some_iff.mp h
      exact hne (idle c (List.mem_of_getElem? hc))
    · exact (alive_spawn alive).resolve_right (none_alive q)

theorem invariant_installChild (busy : Busy s i (.spawned p) p) (own : Own s) :
    Invariant (installChild s i p) := by
  unfold installChild
  refine ⟨busy.own own rfl rfl (fun _ => .inl) (fun _ => .inl),
    .inr ⟨i, _, p, busy.next rfl rfl rfl ⟨⟨?_, ?_⟩, fun _ => rfl⟩⟩⟩
  · exact fun q hq => (Option.some_inj.mp hq).symm
  · exact fun q hq => (Option.some_inj.mp hq).symm

variable {sawError : Bool}

theorem invariant_readLine (busy : Busy s i (.reading p sawError) p) (own : Own s)
    (line : Option SidecarEvent) (emitFails : Bool) :
    Invariant (readLine s i p sawError line emitFails) := by
  unfold readLine
  split
  · exact ⟨own, .inr ⟨i, _, p, busy⟩⟩
  · split
    · exact busy.leave own busy.located.2
    · exact busy.emits own _ rfl busy.located

theorem invariant_takeChild (busy : Busy s i (.taking p sawError) p)
    (own : Own s) : Invariant (takeChild s i p sawError) := by
  obtain ⟨slots, parked⟩ := busy.located
  unfold takeChild
  refine ⟨busy.own own rfl rfl (fun c hc => ?_) (fun _ => .inl),
    .inr ⟨i, _, p, busy.next rfl rfl rfl ⟨⟨nofun, slots.stdin⟩, slots.child, parked⟩⟩⟩
  refine (List.mem_append.mp hc).imp id fun h => ?_
  obtain ⟨q, hq, rfl⟩ := by simpa using h
  rw [slots.child q hq]

theorem invariant_waitChild (display : ExitStatus → String) {runningChild : Option Nat}
    (busy : Busy s i (.waiting p runningChild sawError) p) (own : Own s)
    (emitFails : Bool) : Invariant (waitChild display s i p runningChild sawError emitFails) := by
  obtain ⟨slots, mine, taken⟩ := busy.located
  unfold waitChild
  split
  · exact busy.quiet own rfl ⟨slots, fun alive => nomatch taken alive⟩
  · next q =>
    obtain rfl := mine q rfl
    split
    · exact ⟨own, .inr ⟨i, _, q, busy⟩⟩
    · next status hstatus =>
      have ended : ¬ s.alive q := by
        intro alive
        simp [exitStatus_of_alive alive] at hstatus
      split
      · split
        · exact busy.leave own fun alive => absurd alive ended
        · exact busy.emits own _ rfl ⟨slots, ended⟩
      · exact busy.quiet own rfl ⟨slots, ended⟩

theorem invariant_clearStdin (busy : Busy s i (.clearing p) p) (own : Own s) :
    Invariant (clearStdin s i) := by
  obtain ⟨slots, ended⟩ := busy.located
  unfold clearStdin
  refine ⟨busy.own own rfl rfl (fun c hc => ?_) (fun _ => .inl),
    .inl (busy.returns rfl rfl fun alive => absurd alive ended)⟩
  refine (List.mem_append.mp hc).imp id fun h => ?_
  obtain ⟨q, hq, rfl⟩ := by simpa using h
  rw [slots.stdin q hq]

end progress

/-! ## Runs -/

theorem invariant_step (display : ExitStatus → String) (event : Event) (s : SidecarState)
    (guarded : SpawnsAlone event s) (inv : Invariant s) : Invariant (step display event s) := by
  cases event with
  | startSidecar requestId => exact (frame_startSidecar s requestId).invariant inv
  | cancelSidecar => exact (Frame.cancels s _).invariant inv
  | checkRunning i tryWaitFails =>
    simp only [step]
    split
    · next h => exact (frame_checkRunning h tryWaitFails).invariant inv
    · exact inv
  | spawnChild i succeeds =>
    simp only [step]
    split
    · next h =>
      cases succeeds with
      | false => exact (Frame.setPhase h rfl rfl).invariant inv
      | true => exact invariant_spawnChild inv h (guarded h).1 (guarded h).2
    · exact inv
  | installChild i =>
    simp only [step]
    split
    · next h => exact invariant_installChild (inv.busy h rfl) inv.1
    · exact inv
  | readLine i line emitFails =>
    simp only [step]
    split
    · next h => exact invariant_readLine (inv.busy h rfl) inv.1 line emitFails
    · exact inv
  | readFails i =>
    simp only [step]
    split
    · next h => exact (inv.busy h rfl).leave inv.1 (inv.busy h rfl).located.2
    · exact inv
  | outputEnds i =>
    simp only [step]
    split
    · next h => exact (inv.busy h rfl).quiet inv.1 rfl (inv.busy h rfl).located
    · exact inv
  | takeChild i =>
    simp only [step]
    split
    · next h => exact invariant_takeChild (inv.busy h rfl) inv.1
    · exact inv
  | waitChild i emitFails =>
    simp only [step]
    split
    · next h => exact invariant_waitChild display (inv.busy h rfl) inv.1 emitFails
    · exact inv
  | clearStdin i =>
    simp only [step]
    split
    · next h => exact invariant_clearStdin (inv.busy h rfl) inv.1
    · exact inv
  | writeCancel i fails =>
    simp only [step]
    split
    · exact (Frame.cancels s _).invariant inv
    · exact inv
  | stopChild i tryWaitFails =>
    simp only [step]
    split
    · exact ((frame_stopChild s tryWaitFails).trans (.cancels _ _)).invariant inv
    · exact inv
  | exit p status => exact (Frame.endProcess s p status).invariant inv

/-- In every run whose sidecars are spawned alone, the requests are isolated in every state. -/
theorem isolation_while_spawns_are_alone (display : ExitStatus → String) (events : List Event)
    (guarded : Along (step display) SpawnsAlone events .empty) :
    Isolated (runs (step display) events .empty) :=
  (along_runs (invariant_step display) guarded Invariant.empty).isolated

/-- Two requests, of which the second starts when the first has returned. -/
def twoRequests : List Event :=
  [.startSidecar "first", .checkRunning 0 false, .spawnChild 0 true, .installChild 0,
    .readLine 0 (some .started) false, .cancelSidecar, .writeCancel 0 false, .stopChild 0 false,
    .outputEnds 0, .takeChild 0, .waitChild 0 false, .clearStdin 0,
    .startSidecar "second", .checkRunning 1 false, .spawnChild 1 true, .installChild 1,
    .exit 1 (.code 3), .outputEnds 1, .takeChild 1, .waitChild 1 false, .clearStdin 1]

theorem isolation_of_two_requests :
    Isolated (runs (step fun _ => "exit status: 3") twoRequests .empty) :=
  isolation_while_spawns_are_alone _ twoRequests (by decide +kernel)

/-- The first request is cancelled, and the second starts before the first has returned. -/
def cancelledRequest : List Event :=
  [.startSidecar "first", .checkRunning 0 false, .spawnChild 0 true, .installChild 0,
    .readLine 0 (some .started) false, .cancelSidecar, .writeCancel 0 false, .stopChild 0 false,
    .startSidecar "second", .checkRunning 1 false, .spawnChild 1 true, .installChild 1,
    .outputEnds 0, .takeChild 0, .exit 1 (.code 3), .waitChild 0 false]

/-- The cleanup of the first request takes the child of the second, and reports its exit. -/
theorem cleanup_takes_next_child :
    ¬ Isolated (runs (step fun _ => "exit status: 3") cancelledRequest .empty) := by
  intro isolated
  have taken := isolated.cleanups 0 1 (by decide +kernel)
  revert taken
  decide +kernel

end Sidecar
