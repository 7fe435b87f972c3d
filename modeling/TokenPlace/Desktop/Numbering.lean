import TokenPlace.Desktop.Mirror

/-!
# The events of a bridge in the order written

A thread of the bridge builds its payload first and numbers it under the lock of
`emit_operator_event` when it writes it. In between another worker may have come up and
another thread may have written its generation. A process that replaces itself goes on with
the number in the environment, and an exception that escapes from `run` is written with the
number 1. `Timely` names the steps that the operator would discard.
-/

namespace Operator

open Schedules

variable {session : String} {status status' : ComputeNodeStatus} {payload : Payload}

/-! ## The bridge -/

/-- The bridge of a session: the `status_sequence` of `run`, the number in the environment,
the `_llm_generation` once there is a model manager, what each thread has built and not
written, whether an exception has escaped from `run`, and what was written. The first thread
is the one of `run`. -/
structure BridgeState where
  session : String
  statusSequence : Nat
  environmentSequence : Nat
  llmGeneration : Option Nat
  threads : List (Option BridgeEvent)
  escaped : Bool
  written : List Payload
deriving DecidableEq

/-- The event may be built: with the literal generation before there is a model manager,
and with the present one, or none when that cannot be read, after that. -/
def BridgeEvent.buildable (llmGeneration : Option Nat) : BridgeEvent → Bool
  | .provisioning => llmGeneration.isNone
  | .startupError _ => true
  | .started report | .status report | .error _ report | .stopped report _ =>
    llmGeneration.isSome &&
      (report.workerGeneration.isNone || decide (report.workerGeneration = llmGeneration))

/-- A thread builds a payload or writes it, a poll thread is started, the model manager is
made, a worker is replaced, the process replaces itself, or an exception escapes from
`run`. -/
inductive BridgeStep
  | build (i : Nat) (event : BridgeEvent)
  | emit (i : Nat)
  | spawn
  | makeRuntime
  | replaceWorker
  | reexec
  | escape (message : String)
deriving DecidableEq

/-- `emit_operator_event`. -/
def emitOperatorEvent (b : BridgeState) (event : BridgeEvent) : BridgeState :=
  { b with
    statusSequence := b.statusSequence + 1
    environmentSequence := b.statusSequence + 1
    written := b.written ++
      [{ event.payload with
        operatorSessionId := some b.session
        sequence := some (b.statusSequence + 1) }] }

/-- The error event of `main`. -/
def escapedPayload (session message : String) : Payload :=
  { structuredStartupErrorPayload message with
    operatorSessionId := some session
    sequence := some 1 }

/-- The bridge after one step. A step that cannot be taken changes nothing. -/
def bridgeStep (step : BridgeStep) (b : BridgeState) : BridgeState :=
  match step with
  | .build i event =>
    if b.threads[i]? = some none ∧ event.buildable b.llmGeneration ∧ (i = 0 → b.escaped = false) then
      { b with threads := b.threads.set i (some event) }
    else b
  | .emit i =>
    match b.threads[i]? with
    | some (some event) => emitOperatorEvent { b with threads := b.threads.set i none } event
    | _ => b
  | .spawn =>
    if 0 < b.statusSequence ∧ b.llmGeneration.isSome ∧ b.escaped = false then
      { b with threads := b.threads ++ [none] }
    else b
  | .makeRuntime => { b with llmGeneration := b.llmGeneration.or (some 0) }
  | .replaceWorker => { b with llmGeneration := b.llmGeneration.map (· + 1) }
  | .reexec =>
    if b.llmGeneration.isNone ∧ b.escaped = false then
      { b with threads := [none], statusSequence := b.environmentSequence }
    else b
  | .escape message =>
    if b.escaped then b
    else
      { b with
        escaped := true
        threads := b.threads.set 0 none
        written := b.written ++ [escapedPayload b.session message] }

/-- The bridge that has been spawned for a session. -/
def newBridge (session : String) : BridgeState where
  session := session
  statusSequence := 0
  environmentSequence := 0
  llmGeneration := none
  threads := [none]
  escaped := false
  written := []

/-! ## Statement -/

/-- The operator's status after the events, if it accepts each of them. -/
def takesAll (status : ComputeNodeStatus) (written : List Payload) : Option ComputeNodeStatus :=
  written.foldlM updateStatusFromEvent status

/-- The operator accepts what was written, in that order, and the numbers and the
generations say why. -/
structure Accepted (b : BridgeState) : Prop where
  session : ∀ p ∈ b.written, p.operatorSessionId = some b.session
  sequence : b.written.Pairwise fun p q => ∃ m n, p.sequence = some m ∧ q.sequence = some n ∧ m < n
  generation : b.written.Pairwise fun p q =>
    ∀ g ∈ p.workerGeneration, ∀ g' ∈ q.workerGeneration, g ≤ g'
  accepted : (takesAll (runningStatus b.session) b.written).isSome

/-- A payload is written before a later generation is, and an exception escapes from `run`
before anything was written. -/
def Timely : BridgeStep → BridgeState → Prop
  | .emit i, b => ∀ event, b.threads[i]? = some (some event) →
    ∀ g ∈ event.payload.workerGeneration, ∀ p ∈ b.written, ∀ g' ∈ p.workerGeneration, g' ≤ g
  | .escape _, b => b.escaped = false → b.written = []
  | _, _ => True

instance (step : BridgeStep) (b : BridgeState) : Decidable (Timely step b) :=
  match step with
  | .emit i =>
    decidable_of_iff (∀ event ∈ b.threads[i]?.join, ∀ g ∈ event.payload.workerGeneration,
      ∀ p ∈ b.written, ∀ g' ∈ p.workerGeneration, g' ≤ g) (by
        simp [Timely, Option.join_eq_some_iff])
  | .escape _ => inferInstanceAs (Decidable (b.escaped = false → b.written = []))
  | .build _ _ | .spawn | .makeRuntime | .replaceWorker | .reexec => .isTrue trivial

/-! ## One event -/

theorem acceptsEvent_of_later {a : String} {m n : Nat} (named : a ≠ "")
    (published : status.operatorSessionId = some a) (event : payload.operatorSessionId = some a)
    (number : status.sequence = some m) (number' : payload.sequence = some n) (later : m < n)
    (newer : ∀ g ∈ status.workerGeneration, ∀ g' ∈ payload.workerGeneration, g ≤ g') :
    acceptsEvent status payload := by
  simp only [acceptsEvent, published, event, number, number', decide_true, Bool.and_true,
    Bool.true_or, Bool.or_eq_true, Bool.and_eq_true, decide_eq_true_eq]
  refine ⟨⟨.inr named, .inl later⟩, ?_⟩
  cases shown : status.workerGeneration with
  | none => rfl
  | some g =>
    cases carried : payload.workerGeneration with
    | none => rfl
    | some g' => simp [newer g shown g' carried]

/-! ## Every run -/

variable {b : BridgeState}

/-- What holds between any two steps. -/
structure Numbered (b : BridgeState) : Prop where
  named : b.session ≠ ""
  environment : b.environmentSequence = b.statusSequence
  alone : b.statusSequence = 0 → b.threads.length = 1
  closed : b.escaped → b.threads = [none]
  unwritten : b.written = [] → b.statusSequence = 0
  session : ∀ p ∈ b.written, p.operatorSessionId = some b.session
  sequence : b.written.Pairwise fun p q => ∃ m n, p.sequence = some m ∧ q.sequence = some n ∧ m < n
  bounded : b.escaped = false → ∀ p ∈ b.written, ∃ n ≤ b.statusSequence, p.sequence = some n
  generation : b.written.Pairwise fun p q =>
    ∀ g ∈ p.workerGeneration, ∀ g' ∈ q.workerGeneration, g ≤ g'
  accepted : ∃ status, takesAll (runningStatus b.session) b.written = some status ∧
    status.operatorSessionId = some b.session ∧
    (b.escaped = false → status.sequence = some b.statusSequence) ∧
    ∀ g ∈ status.workerGeneration, ∃ p ∈ b.written, p.workerGeneration = some g

theorem newBridge_numbered (named : session ≠ "") : Numbered (newBridge session) := by
  refine ⟨named, rfl, fun _ => rfl, ?_, fun _ => rfl, ?_, .nil, ?_, .nil,
    runningStatus session, rfl, rfl, fun _ => rfl, ?_⟩ <;>
    simp [newBridge, runningStatus, ComputeNodeStatus.default]

theorem Numbered.statement (numbered : Numbered b) : Accepted b := by
  refine ⟨numbered.session, numbered.sequence, numbered.generation, ?_⟩
  obtain ⟨status, taken, _⟩ := numbered.accepted
  exact Option.isSome_iff_exists.mpr ⟨status, taken⟩

theorem Numbered.takes (numbered : Numbered b) (open_ : b.escaped = false) {n : Nat}
    (event : payload.operatorSessionId = some b.session) (number : payload.sequence = some n)
    (later : b.statusSequence < n)
    (newer : ∀ g ∈ payload.workerGeneration, ∀ p ∈ b.written, ∀ g' ∈ p.workerGeneration, g' ≤ g) :
    ∃ status, takesAll (runningStatus b.session) (b.written ++ [payload]) = some status ∧
      status.operatorSessionId = some b.session ∧ status.sequence = some n ∧
      ∀ g ∈ status.workerGeneration, ∃ p ∈ b.written ++ [payload], p.workerGeneration = some g := by
  obtain ⟨status, taken, published, sequence, generation⟩ := numbered.accepted
  have accepts : acceptsEvent status payload := by
    refine acceptsEvent_of_later numbered.named published event (sequence open_) number later ?_
    intro g shown g' carried
    obtain ⟨p, mem, same⟩ := generation g shown
    exact newer g' carried p mem g same
  obtain ⟨status', accepted⟩ : ∃ status', updateStatusFromEvent status payload = some status' :=
    ⟨_, if_pos accepts⟩
  obtain ⟨published', sequence', generation'⟩ := updateStatusFromEvent_fields accepted
  refine ⟨status', ?_, ?_, ?_, ?_⟩
  · unfold takesAll at taken ⊢
    rw [List.foldlM_append, taken]
    simp [accepted]
  · rw [published', event]
    rfl
  · rw [sequence', number]
    rfl
  · intro g shown
    rw [generation'] at shown
    cases carried : payload.workerGeneration with
    | none =>
      rw [carried] at shown
      obtain ⟨p, mem, same⟩ := generation g shown
      exact ⟨p, List.mem_append_left _ mem, same⟩
    | some g' =>
      rw [carried] at shown
      cases shown
      exact ⟨payload, List.mem_append_right _ (List.mem_singleton.mpr rfl), carried⟩

theorem Numbered.pairwise (numbered : Numbered b) (open_ : b.escaped = false) {n : Nat}
    (number : payload.sequence = some n) (later : b.statusSequence < n)
    (newer : ∀ g ∈ payload.workerGeneration, ∀ p ∈ b.written, ∀ g' ∈ p.workerGeneration, g' ≤ g) :
    ((b.written ++ [payload]).Pairwise fun p q =>
      ∃ m n, p.sequence = some m ∧ q.sequence = some n ∧ m < n) ∧
    (b.written ++ [payload]).Pairwise fun p q =>
      ∀ g ∈ p.workerGeneration, ∀ g' ∈ q.workerGeneration, g ≤ g' := by
  constructor
  · refine List.pairwise_append.mpr ⟨numbered.sequence, List.pairwise_singleton _ _, ?_⟩
    intro p mem q last
    obtain rfl := List.mem_singleton.mp last
    obtain ⟨m, le, earlier⟩ := numbered.bounded open_ p mem
    exact ⟨m, n, earlier, number, Nat.lt_of_le_of_lt le later⟩
  · refine List.pairwise_append.mpr ⟨numbered.generation, List.pairwise_singleton _ _, ?_⟩
    intro p mem q last g before g' after
    obtain rfl := List.mem_singleton.mp last
    exact newer g' after p mem g before

theorem Numbered.emits (numbered : Numbered b) (open_ : b.escaped = false)
    (event : BridgeEvent)
    (newer : ∀ g ∈ event.payload.workerGeneration, ∀ p ∈ b.written,
      ∀ g' ∈ p.workerGeneration, g' ≤ g) : Numbered (emitOperatorEvent b event) := by
  have later := Nat.lt_succ_self b.statusSequence
  have number : ({ event.payload with
      operatorSessionId := some b.session
      sequence := some (b.statusSequence + 1) } : Payload).sequence =
        some (b.statusSequence + 1) := rfl
  obtain ⟨sequence, generation⟩ := numbered.pairwise open_ number later newer
  obtain ⟨status, taken, published, shows, shown⟩ := numbered.takes open_ rfl number later newer
  refine ⟨numbered.named, rfl, nofun, numbered.closed, ?_, ?_, sequence, ?_, generation,
    status, taken, published, fun _ => shows, shown⟩
  · simp [emitOperatorEvent]
  · intro p mem
    obtain old | new := List.mem_append.mp mem
    · exact numbered.session p old
    · rw [List.mem_singleton.mp new]
      rfl
  · intro _ p mem
    obtain old | new := List.mem_append.mp mem
    · obtain ⟨n, le, eq⟩ := numbered.bounded open_ p old
      exact ⟨n, Nat.le_succ_of_le le, eq⟩
    · rw [List.mem_singleton.mp new]
      exact ⟨_, Nat.le_refl _, rfl⟩

theorem Numbered.keeps (numbered : Numbered b) (threads : List (Option BridgeEvent))
    (llmGeneration : Option Nat) (alone : b.statusSequence = 0 → threads.length = 1)
    (closed : b.escaped → threads = [none]) :
    Numbered { b with threads, llmGeneration } :=
  ⟨numbered.named, numbered.environment, alone, closed, numbered.unwritten, numbered.session,
    numbered.sequence, numbered.bounded, numbered.generation, numbered.accepted⟩

theorem bridgeStep_numbered (step : BridgeStep) (b : BridgeState) (timely : Timely step b)
    (numbered : Numbered b) : Numbered (bridgeStep step b) := by
  cases step with
  | build i event =>
    simp only [bridgeStep]
    split
    · next can =>
      refine numbered.keeps _ _ (fun zero => ?_) fun escaped => ?_
      · rw [List.length_set]
        exact numbered.alone zero
      · -- after an exception only the thread of `run` is left, and it builds nothing
        obtain ⟨here, _, main⟩ := can
        rw [numbered.closed escaped] at here
        obtain ⟨bound, _⟩ := List.getElem?_eq_some_iff.mp here
        rw [List.length_singleton, Nat.lt_one_iff] at bound
        rw [main bound] at escaped
        cases escaped
    · exact numbered
  | emit i =>
    simp only [bridgeStep]
    split
    · next event here =>
      have open_ : b.escaped = false := by
        cases escaped : b.escaped with
        | false => rfl
        | true =>
          rw [numbered.closed escaped] at here
          cases i <;> simp at here
      have kept : Numbered { b with threads := b.threads.set i none } := by
        refine numbered.keeps _ _ (fun zero => ?_) fun escaped => ?_
        · rw [List.length_set]
          exact numbered.alone zero
        · rw [open_] at escaped
          cases escaped
      exact kept.emits open_ event (timely event here)
    · exact numbered
  | spawn =>
    simp only [bridgeStep]
    split
    · next can =>
      obtain ⟨positive, _, open_⟩ := can
      refine numbered.keeps _ _ (fun zero => absurd zero (Nat.ne_of_gt positive)) fun escaped => ?_
      rw [open_] at escaped
      cases escaped
    · exact numbered
  | makeRuntime | replaceWorker => exact numbered.keeps _ _ numbered.alone numbered.closed
  | reexec =>
    simp only [bridgeStep]
    split
    · have kept := numbered.keeps [none] b.llmGeneration (fun _ => rfl) fun _ => rfl
      simpa only [numbered.environment] using kept
    · exact numbered
  | escape message =>
    simp only [bridgeStep]
    split
    · exact numbered
    · next can =>
      have open_ : b.escaped = false := by simpa using can
      have unwritten : b.written = [] := timely open_
      have zero := numbered.unwritten unwritten
      have alone := numbered.alone zero
      have later : b.statusSequence < 1 := by omega
      have newer : ∀ g ∈ (escapedPayload b.session message).workerGeneration, ∀ p ∈ b.written,
          ∀ g' ∈ p.workerGeneration, g' ≤ g := nofun
      obtain ⟨sequence, generation⟩ := numbered.pairwise open_ rfl later newer
      obtain ⟨status, taken, published, _, shown⟩ := numbered.takes open_ rfl rfl later newer
      refine ⟨numbered.named, numbered.environment, fun _ => ?_, fun _ => ?_, ?_, ?_, sequence,
        nofun, generation, status, taken, published, nofun, shown⟩
      · rw [List.length_set]
        exact alone
      · obtain ⟨t, only⟩ := List.length_eq_one_iff.mp alone
        rw [only]
        rfl
      · simp
      · simp [unwritten, escapedPayload]

/-- In a run of timely steps, everything that a bridge has written carries its session,
rising numbers and generations that do not fall, and the operator accepts it from the status
that it has published for the session. -/
theorem bridge_events_accepted (n : Nat) (steps : List BridgeStep)
    (timely : Along bridgeStep Timely steps (newBridge (toString n))) :
    Accepted (runs bridgeStep steps (newBridge (toString n))) :=
  (along_runs bridgeStep_numbered timely (newBridge_numbered Nat.repr_ne_empty)).statement

/-- What `worker_lifecycle_status` adds to a report. -/
def generationReport (generation : Nat) : BridgeReport :=
  ⟨"ready", true, 0, none, some generation, none, none⟩

/-- A process that replaces itself, two threads with a worker each, and the last event. -/
def timelySteps : List BridgeStep :=
  [.build 0 .provisioning, .emit 0, .reexec, .build 0 .provisioning, .emit 0, .makeRuntime, .spawn,
    .build 1 (.status (generationReport 0)), .emit 1, .replaceWorker,
    .build 1 (.status (generationReport 1)), .emit 1,
    .build 0 (.stopped (generationReport 1) ⟨false, false, "not_required", 0, 0, none⟩), .emit 0]

theorem bridge_events_accepted_sample :
    Along bridgeStep Timely timelySteps (newBridge (toString 1)) ∧
      Accepted (runs bridgeStep timelySteps (newBridge (toString 1))) := by
  have timely : Along bridgeStep Timely timelySteps (newBridge (toString 1)) := by
    decide +kernel
  exact ⟨timely, bridge_events_accepted 1 timelySteps timely⟩

/-- An exception escapes from `run` after the first event. -/
def escapedRun : List BridgeStep :=
  [.build 0 .provisioning, .emit 0, .escape "failed"]

/-- A thread writes the report of a worker that has been replaced since, after another
thread has written that of its successor. -/
def overtaken : List BridgeStep :=
  [.build 0 .provisioning, .emit 0, .makeRuntime, .spawn, .build 0 (.status (generationReport 0)),
    .replaceWorker, .build 1 (.status (generationReport 1)), .emit 1, .emit 0]

/-- The last event of each run is discarded. -/
theorem bridge_events_discarded :
    ¬ Accepted (runs bridgeStep escapedRun (newBridge (toString 1))) ∧
      ¬ Accepted (runs bridgeStep overtaken (newBridge (toString 1))) := by
  have discarded : ∀ {b : BridgeState}, takesAll (runningStatus b.session) b.written = none →
      ¬ Accepted b := by
    intro b none_ accepted
    have taken := accepted.accepted
    rw [none_] at taken
    cases taken
  exact ⟨discarded (by decide +kernel), discarded (by decide +kernel)⟩

end Operator
