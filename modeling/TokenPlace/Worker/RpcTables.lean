import TokenPlace.Lib.Schedules
import TokenPlace.Worker.Rpc

/-!
# What a command leaves behind

A command has entries in four tables of its proxy. Its call removes them at its end, and the
reader marks a command completed after it has handed the frame over, when the call may have ended
already. A stream sends its command before the `finally` that removes them is entered.

Results:
1. `tables_empty_at_rest`: in every run in which no command is marked after its end and every
   stream can send its command, nothing is left when no call is in progress.
2. `late_mark_stays`: one command whose call is faster than the reader stays marked.
-/

namespace Rpc

open Schedules (runs Along along_runs)

/-! ## Entries and calls -/

/-- The command of a call, from its registration until its entries are removed. -/
def CallPhase.command : CallPhase → Option Nat
  | .registering | .ended _ => none
  | .sending id | .dispatching id _ | .popping id _ _ | .polling id | .waiting id
  | .received id _ | .yielding id | .leaving id _ => some id

/-- A call has returned, raised or been closed. -/
def CallPhase.hasEnded : CallPhase → Bool
  | .ended _ => true
  | _ => false

theorem CallPhase.command_of_hasEnded {phase : CallPhase} (ended : phase.hasEnded) :
    phase.command = none := by
  cases phase with
  | ended outcome => rfl
  | _ => cases ended

/-- A command has an entry in one of the tables. -/
def Tracked (s : Proxy) (id : Nat) : Prop :=
  id ∈ s.pending ∨ id ∈ s.completedCommands ∨ id ∈ s.commandProgress ∨ id ∈ s.latestProgress

/-- A command is that of a call in progress. -/
def Held (s : Proxy) (id : Nat) : Prop :=
  ∃ (i : Nat) (c : Call), s.calls[i]? = some c ∧ c.phase.command = some id

/-- Every entry is that of a call in progress. -/
def Tidy (s : Proxy) : Prop := ∀ id, Tracked s id → Held s id

/-- No call is in progress, and the reader waits for a line or has ended. -/
def AtRest (s : Proxy) : Prop :=
  (∀ c ∈ s.calls, c.phase.hasEnded) ∧ (s.reader = .idle ∨ s.reader = .ended)

instance (s : Proxy) (id : Nat) : Decidable (Tracked s id) :=
  inferInstanceAs (Decidable (_ ∨ _ ∨ _ ∨ _))

instance (s : Proxy) : Decidable (AtRest s) := inferInstanceAs (Decidable (_ ∧ _))

/-- A command that is marked completed is still pending, and a stream finds a healthy worker and
can write its command. -/
def KeepsTrack (event : Event) (s : Proxy) : Prop :=
  match event with
  | .callStep i choice =>
    match s.calls[i]? with
    | some ⟨binding, .sending _, _⟩ =>
      binding.stream = true → s.closed = false ∧ s.alive = true ∧ choice.write = .written
    | _ => True
  | .readerStep _ =>
    match s.reader with
    | .marking id => id ∈ s.pending
    | _ => True
  | _ => True

instance (event : Event) (s : Proxy) : Decidable (KeepsTrack event s) := by
  unfold KeepsTrack
  split
  · split <;> infer_instance
  · split <;> infer_instance
  · infer_instance

variable {s s' : Proxy} {i id : Nat} {c : Call}

theorem Held.modify {f : Call → Call} (at_call : s.calls[i]? = some c)
    (same : (f c).phase.command = c.phase.command) (calls : s'.calls = s.calls.modify i f)
    (held : Held s id) : Held s' id := by
  obtain ⟨j, c', hj, hid⟩ := held
  by_cases hij : i = j
  · subst hij
    obtain rfl := Option.some_inj.mp (at_call.symm.trans hj)
    exact ⟨i, f c, by rw [calls, List.getElem?_modify, hj]; simp, by rw [same, hid]⟩
  · exact ⟨j, c', by rw [calls, List.getElem?_modify, hj]; simp [hij], hid⟩

theorem Held.modify_ne {f : Call → Call} (at_call : s.calls[i]? = some c)
    (other : c.phase.command ≠ some id) (calls : s'.calls = s.calls.modify i f)
    (held : Held s id) : Held s' id := by
  obtain ⟨j, c', hj, hid⟩ := held
  have hij : i ≠ j := by
    rintro rfl
    obtain rfl := Option.some_inj.mp (at_call.symm.trans hj)
    exact other hid
  exact ⟨j, c', by rw [calls, List.getElem?_modify, hj]; simp [hij], hid⟩

theorem Tidy.of_subset (tidy : Tidy s) (tracked : ∀ id, Tracked s' id → Tracked s id)
    (held : ∀ id, Held s id → Held s' id) : Tidy s' :=
  fun id entry => held id (tidy id (tracked id entry))

theorem Tidy.of_call {f : Call → Call} (tidy : Tidy s) (at_call : s.calls[i]? = some c)
    (same : (f c).phase.command = c.phase.command) (calls : s'.calls = s.calls.modify i f)
    (tracked : ∀ id, Tracked s' id → Tracked s id) : Tidy s' :=
  tidy.of_subset tracked fun _ => Held.modify at_call same calls

theorem Tidy.setPhase {s₁ : Proxy} {phase : CallPhase} (tidy : Tidy s)
    (at_call : s.calls[i]? = some c) (same : phase.command = c.phase.command)
    (calls : s₁.calls = s.calls) (tracked : ∀ id, Tracked s₁ id → Tracked s id) :
    Tidy (s₁.setPhase i phase) :=
  tidy.of_call (f := fun c => { c with phase := phase }) at_call same
    (by simp [Proxy.setPhase, calls]) tracked

/-! ## Steps of a call -/

theorem tidy_register (tidy : Tidy s) (at_call : s.calls[i]? = some c)
    (phase : c.phase = .registering) : Tidy (register s i c.binding) := by
  intro id entry
  by_cases new : id = s.commandSequence + 1
  · subst new
    refine ⟨i, { c with phase := .sending (s.commandSequence + 1) }, ?_, rfl⟩
    simp [register, Proxy.setPhase, at_call]
  · refine Held.modify_ne at_call (by simp [phase, CallPhase.command]) rfl (tidy id ?_)
    simpa [Tracked, register, Proxy.setPhase, new] using entry

theorem tidy_forget {outcome : Outcome} (tidy : Tidy s) (at_call : s.calls[i]? = some c)
    (phase : c.phase = .leaving id outcome) : Tidy (forget s i id outcome) := by
  intro k entry
  have entry : k ≠ id ∧ Tracked s k := by
    simp only [Tracked, forget, Proxy.setPhase, OrderedDict.mem_erase] at entry ⊢
    tauto
  refine Held.modify_ne at_call ?_ rfl (tidy k entry.2)
  simpa [phase, CallPhase.command] using entry.1.symm

theorem tracked_dispatch {closed : Bool} {k : Nat}
    (entry : Tracked (dispatchPendingProgress s id closed) k) : Tracked s k := by
  simp only [Tracked, dispatchPendingProgress, OrderedDict.mem_erase] at entry ⊢
  tauto

theorem tidy_sendCommand (tidy : Tidy s) (at_call : s.calls[i]? = some c)
    (phase : c.phase = .sending id) (write : Write)
    (sends : c.binding.stream = true → s.closed = false ∧ s.alive = true ∧ write = .written) :
    Tidy (sendCommand s i id c.binding write) := by
  have command : c.phase.command = some id := by rw [phase, CallPhase.command]
  cases stream : c.binding.stream with
  | true =>
    obtain ⟨opened, alive, rfl⟩ := sends stream
    simp only [sendCommand, send, stream, opened, alive]
    exact tidy.setPhase at_call (by rw [command]; rfl) rfl fun _ entry => entry
  | false =>
    have sent : (send s c.binding.checkHealth write).1.calls = s.calls ∧
        ∀ k, Tracked (send s c.binding.checkHealth write).1 k → Tracked s k := by
      unfold send
      split
      · exact ⟨rfl, fun _ entry => entry⟩
      · cases write <;> exact ⟨rfl, fun _ entry => entry⟩
    simp only [sendCommand, stream, Bool.false_or]
    split <;> exact tidy.setPhase at_call (by rw [command]; rfl) sent.1 sent.2

theorem tidy_poll (tidy : Tidy s) (at_call : s.calls[i]? = some c)
    (phase : c.phase = .polling id) (stream : Bool) : Tidy (poll s i id stream) := by
  unfold poll
  split
  · refine tidy.setPhase at_call ?_ rfl fun _ entry => entry
    cases stream <;> simp [phase, CallPhase.command]
  · exact tidy.setPhase at_call (by simp [phase, CallPhase.command]) rfl fun _ entry => entry

theorem tidy_get (tidy : Tidy s) (at_call : s.calls[i]? = some c)
    (phase : c.phase = .waiting id) (stream : Bool) : Tidy (get s i id stream) := by
  unfold get
  split <;>
    exact tidy.setPhase at_call (by simp [phase, CallPhase.command]) rfl fun _ entry => entry

theorem tidy_timeout (tidy : Tidy s) (at_call : s.calls[i]? = some c)
    (phase : c.phase = .waiting id) (stream confirmedDead : Bool) :
    Tidy (timeout s i id stream confirmedDead) := by
  have command : (CallPhase.leaving id .timedOut).command = c.phase.command := by
    simp [phase, CallPhase.command]
  cases stream <;> exact tidy.setPhase at_call command rfl fun _ entry => entry

theorem tidy_receive {message : Message} (tidy : Tidy s) (at_call : s.calls[i]? = some c)
    (phase : c.phase = .received id message) (stream : Bool) :
    Tidy (receive s i id stream message) := by
  have leaves (outcome : Outcome) : (CallPhase.leaving id outcome).command = c.phase.command := by
    simp [phase, CallPhase.command]
  have yields (f : Call → Call) (at_yield : (f c).phase = .yielding id) :
      Tidy { s with calls := s.calls.modify i f } :=
    tidy.of_call at_call (by simp [at_yield, phase, CallPhase.command]) rfl fun _ entry => entry
  unfold receive
  split
  · cases stream <;> exact tidy.setPhase at_call (leaves _) rfl fun _ entry => entry
  · exact tidy.setPhase at_call (leaves _) rfl fun _ entry => entry
  · split
    · split
      · exact tidy.setPhase at_call (leaves _) rfl fun _ entry => entry
      · exact yields _ rfl
      · exact yields _ rfl
    · exact tidy.setPhase at_call (leaves _) rfl fun _ entry => entry

theorem tidy_callStep (tidy : Tidy s) (at_call : s.calls[i]? = some c) (choice : Choice)
    (sends : ∀ id, c.phase = .sending id → c.binding.stream = true →
      s.closed = false ∧ s.alive = true ∧ choice.write = .written) :
    Tidy (callStep s i c choice) := by
  unfold callStep
  cases phase : c.phase with
  | registering => exact tidy_register tidy at_call phase
  | sending id => exact tidy_sendCommand tidy at_call phase choice.write (sends id phase)
  | dispatching id polls =>
    exact tidy.setPhase at_call (by simp [phase, CallPhase.command]) rfl fun _ entry => entry
  | popping id polls closed =>
    refine tidy.setPhase at_call ?_ rfl fun _ => tracked_dispatch
    cases polls <;> simp [phase, CallPhase.command]
  | polling id => exact tidy_poll tidy at_call phase c.binding.stream
  | waiting id =>
    simp only
    split
    · exact tidy_timeout tidy at_call phase c.binding.stream choice.confirmedDead
    · exact tidy_get tidy at_call phase c.binding.stream
  | received id message => exact tidy_receive tidy at_call phase c.binding.stream
  | yielding id =>
    refine tidy.setPhase at_call ?_ rfl fun _ entry => entry
    cases choice.abandoned <;> simp [phase, CallPhase.command]
  | leaving id outcome => exact tidy_forget tidy at_call phase
  | ended outcome => exact tidy

/-! ## Steps of the reader -/

theorem Tidy.of_calls (tidy : Tidy s) (calls : s'.calls = s.calls)
    (tracked : ∀ id, Tracked s' id → Tracked s id) : Tidy s' :=
  tidy.of_subset tracked fun _ ⟨i, c, at_call, command⟩ => ⟨i, c, calls ▸ at_call, command⟩

theorem tidy_route (tidy : Tidy s) (frame : Frame) : Tidy (route s frame) := by
  unfold route
  split
  · split
    · exact tidy.of_calls rfl fun _ entry => entry
    · exact tidy
  · split
    · exact tidy
    · split
      · split <;> exact tidy.of_calls rfl fun _ entry => entry
      · exact tidy

theorem tidy_coalesce (tidy : Tidy s) (id : Nat) (fields : ProgressFields) :
    Tidy (coalesce s id fields) := by
  unfold coalesce
  simp only
  split
  · exact tidy.of_calls rfl fun _ entry => entry
  · next context hcontext =>
    refine tidy.of_calls rfl fun k entry => ?_
    -- the progress is only kept for a command that has a context already
    have known : id ∈ s.commandProgress := OrderedDict.mem_of_get? hcontext
    simp only [Tracked, OrderedDict.mem_set] at entry ⊢
    obtain entry | entry | (rfl | entry) | (rfl | entry) := entry <;> tauto

theorem tidy_mark (tidy : Tidy s) (pending : id ∈ s.pending) :
    Tidy { s with completedCommands := s.completedCommands.set id (), reader := .idle } := by
  refine tidy.of_calls rfl fun k entry => ?_
  simp only [Tracked, OrderedDict.mem_set] at entry ⊢
  obtain entry | (rfl | entry) | entry := entry <;> tauto

theorem tidy_readerStep (tidy : Tidy s) (deliveryFails : Bool)
    (pending : ∀ id, s.reader = .marking id → id ∈ s.pending) :
    Tidy (readerStep s deliveryFails) := by
  unfold readerStep
  split
  · exact tidy
  · exact tidy
  · exact tidy_coalesce tidy _ _
  · exact tidy.of_calls rfl fun _ entry => entry
  · unfold deliver
    split <;> exact tidy.of_calls rfl fun _ entry => entry
  · next id marking => exact tidy_mark tidy (pending id marking)
  · exact tidy.of_calls rfl fun _ entry => entry
  · exact tidy.of_calls rfl fun _ entry => entry
  · exact tidy.of_calls rfl fun _ entry => entry
  · exact tidy.of_calls rfl fun _ entry => entry

/-! ## Runs -/

theorem tidy_step (event : Event) (s : Proxy) (keeps : KeepsTrack event s) (tidy : Tidy s) :
    Tidy (step event s) := by
  cases event with
  | call binding =>
    refine tidy.of_subset (fun _ entry => entry) fun id ⟨j, c, hj, command⟩ => ⟨j, c, ?_, command⟩
    have bound : j < s.calls.length := (List.getElem?_eq_some_iff.mp hj).1
    exact (List.getElem?_append_left bound).trans hj
  | callStep i choice =>
    simp only [step]
    split
    · next c at_call =>
      refine tidy_callStep tidy at_call choice fun id phase stream => ?_
      obtain ⟨binding, phase', yielded⟩ := c
      obtain rfl : phase' = .sending id := phase
      simp only [KeepsTrack, at_call] at keeps
      exact keeps stream
    · exact tidy
  | line frame =>
    simp only [step]
    split
    · exact tidy_route tidy frame
    · exact tidy
  | endOfOutput =>
    simp only [step]
    split
    · exact tidy.of_calls rfl fun _ entry => entry
    · exact tidy
  | readerStep deliveryFails =>
    refine tidy_readerStep tidy deliveryFails fun id marking => ?_
    simpa only [KeepsTrack, marking] using keeps
  | exit => exact tidy.of_calls rfl fun _ entry => entry

theorem tidy_start : Tidy .start := by
  intro id entry
  obtain entry | entry | entry | entry := entry <;> cases entry

/-- In every run in which no command is marked after its end and every stream can send its
command, nothing is left of the commands when no call is in progress. -/
theorem tables_empty_at_rest (events : List Event) (keeps : Along step KeepsTrack events .start)
    (rest : AtRest (runs step events .start)) (id : Nat) :
    ¬ Tracked (runs step events .start) id := by
  intro entry
  obtain ⟨i, c, at_call, command⟩ := along_runs tidy_step keeps tidy_start id entry
  have ended := rest.1 c (List.mem_of_getElem? at_call)
  rw [CallPhase.command_of_hasEnded ended] at command
  cases command

/-- A health-checked `_rpc` without an observer. -/
def plainRpc : Binding := ⟨false, true, false, none, 0⟩

/-- What the environment decides when nothing goes wrong. -/
def smooth : Choice := ⟨.written, false, false, false⟩

/-- A command up to the result that the reader has put into its queue. -/
def answeredRpc : List Event :=
  [.call plainRpc, .callStep 0 smooth, .callStep 0 smooth, .callStep 0 smooth, .callStep 0 smooth,
    .callStep 0 smooth, .line ⟨true, some 1, .result "text"⟩, .readerStep false, .readerStep false]

/-- The call takes its message and ends. -/
def endRpc : List Event := [.callStep 0 smooth, .callStep 0 smooth, .callStep 0 smooth]

theorem tables_empty_after_rpc :
    ¬ Tracked (runs step (answeredRpc ++ [.readerStep false] ++ endRpc) .start) 1 :=
  tables_empty_at_rest _ (by decide +kernel) (by decide +kernel) 1

/-- A command whose call ends before the reader marks it stays in `_completed_commands`, and one of
a stream that cannot be sent stays in `_pending`. -/
theorem late_mark_stays :
    (AtRest (runs step (answeredRpc ++ endRpc ++ [.readerStep false]) .start) ∧
      Tracked (runs step (answeredRpc ++ endRpc ++ [.readerStep false]) .start) 1) ∧
    (AtRest (runs step [.call { plainRpc with stream := true }, .exit, .callStep 0 smooth,
        .callStep 0 smooth] .start) ∧
      Tracked (runs step [.call { plainRpc with stream := true }, .exit, .callStep 0 smooth,
        .callStep 0 smooth] .start) 1) := by
  decide +kernel

end Rpc
