import TokenPlace.Lib.Schedules
import TokenPlace.Node.Supervision

/-!
# What a response is submitted under

The thread of a request leaves the loop of the supervisor with an answer at most
once, and every POST comes from that answer after one last look at the flags, the
cancellation epoch and the clock. The loop is left with an answer only while no
control response has ended the request.

The last look at the clock is not the supervisor's: it compares with the deadline
of the metadata, and what the control responses have taken off that deadline is
lost. `InTime` excludes the runs where the look falls into the difference.
-/

namespace ComputeNode

open Schedules

variable {env : RequestEnv} {outerDeadline : ℚ} {snapshot : Option Nat} {s s' : RequestState}

/-! ## Statement -/

/-- The earliest deadline that is known after the control responses. -/
def tightestDeadline (outerDeadline : ℚ) (received : List (ControlResponse × ℚ)) : ℚ :=
  received.foldl (fun current r => deadlineAfterResponse current r.1 r.2) outerDeadline

/-- What a POST to `/relay/responses` is made under. -/
structure Submission.Safe (outerDeadline : ℚ) (snapshot : Option Nat) (s : RequestState)
    (submission : Submission) : Prop where
  returned : s.inference = .done (.returned submission.envelope)
  nonterminal : ∀ r ∈ s.received, r.1.terminalReason = none
  running : submission.stopped = false
  unlatched : submission.latched = false
  uncancelled : ∀ epoch, snapshot = some epoch → submission.epoch = epoch
  early : submission.now < tightestDeadline outerDeadline s.received

/-- At most one POST is made for the request, and it is safe. -/
structure SubmissionSafe (x : RequestSystem) : Prop where
  once : x.shared.submissions.length ≤ 1
  safe : ∀ submission ∈ x.shared.submissions,
    submission.Safe x.outerDeadline x.cancelSnapshot x.shared

theorem deadlineAfterResponse_le (current : ℚ) (c : ControlResponse) (now : ℚ) :
    deadlineAfterResponse current c now ≤ current := by
  unfold deadlineAfterResponse
  split
  · exact le_rfl
  · exact min_le_left _ _

theorem tightestDeadline_append (received : List (ControlResponse × ℚ)) (c : ControlResponse)
    (now : ℚ) :
    tightestDeadline outerDeadline (received ++ [(c, now)]) =
      deadlineAfterResponse (tightestDeadline outerDeadline received) c now :=
  List.foldl_append ..

/-- The deadline that the supervisor works with. -/
def RequestSystem.workingDeadline (x : RequestSystem) : Option ℚ :=
  x.task.locals.map (·.localDeadline)

/-- The last look at the clock is not taken between a deadline that a control
response has brought forward and the deadline of the metadata. -/
def InTime : RequestEvent → RequestSystem → Prop
  | .run, x =>
    match x.task with
    | .postDeadline .. =>
      x.outerDeadline ≤ tightestDeadline x.outerDeadline x.shared.received ∨
        x.shared.now < tightestDeadline x.outerDeadline x.shared.received
    | _ => True
  | _, _ => True

instance (ev : RequestEvent) (x : RequestSystem) : Decidable (InTime ev x) := by
  unfold InTime
  split
  · split <;> infer_instance
  · infer_instance

/-! ## The phases of a request -/

/-- How far a request has come on the way to its submission. A closed request
submits nothing any more. -/
inductive Phase
  | opening
  | supervising (deadline : ℚ)
  | inferred (deadline : ℚ) (result : InferenceResult)
  | answered (envelope : ResponseEnvelope)
  | looking (envelope : ResponseEnvelope) (stopped latched : Bool)
  | submitting (submission : Submission)
  | closed

/-- The phase of an outcome. -/
def SupervisorOutcome.phase (outcome : SupervisorOutcome) : Phase :=
  match outcome.responseEnvelope with
  | some envelope => .answered envelope
  | none => .closed

def RequestTask.phase : RequestTask → Phase
  | .entry _ | .snapshot | .checkCredential | .submitInference | .firstPoll => .opening
  | .loop v | .checkStopped v _ | .checkLatched v _ | .checkInference v _ | .inferenceRaised v =>
    .supervising v.localDeadline
  | .inferredStopped v result | .inferredLatched v result => .inferred v.localDeadline result
  | .checkRemaining v | .submitControl v | .controlPending v | .controlStopped v =>
    .supervising v.localDeadline
  | .controlDeadline v | .takeControl v | .takenStopped v _ | .takenDeadline v _ =>
    .supervising v.localDeadline
  | .tighten v _ | .schedule v _ | .backOff v | .sleep v | .collect v =>
    .supervising v.localDeadline
  | .terminate _ | .quiesce _ _ => .closed
  | .supervised outcome => outcome.phase
  | .guardCancelled a | .guardLatched a _ | .guardStopped a _ _ | .guardDeadline a _ _ _ =>
    .answered a.envelope
  | .postBegin a | .postEncrypt a | .postCancelled a | .postStopped a _ => .answered a.envelope
  | .postDeadline a _ stopped latched => .looking a.envelope stopped latched
  | .post _ submission => .submitting submission
  | .postEnd _ _ | .postedLatched _ _ | .postedStopped _ _ | .finished _ => .closed

/-- The deadline of the supervisor in a phase. -/
def Phase.deadline : Phase → Option ℚ
  | .supervising d | .inferred d _ => some d
  | _ => none

theorem workingDeadline_eq (x : RequestSystem) : x.workingDeadline = x.task.phase.deadline := by
  unfold RequestSystem.workingDeadline
  cases x.task with
  | supervised outcome =>
    obtain ⟨_ | _, _, _, _⟩ := outcome <;> rfl
  | _ => rfl

/-- The request may still submit something. -/
def Phase.pending : Phase → Bool
  | .submitting _ | .closed => false
  | _ => true

/-- A completed inference, the control responses and the submissions stay what they are. -/
structure Undisturbed (s s' : RequestState) : Prop where
  inference : ∀ result, s.inference = .done result → s'.inference = .done result
  received : s'.received = s.received
  submissions : s'.submissions = s.submissions

theorem Undisturbed.refl (s : RequestState) : Undisturbed s s := ⟨fun _ h => h, rfl, rfl⟩

/-- The steps of the request, and what does not move it on. -/
inductive Move (outerDeadline : ℚ) (snapshot : Option Nat) (s : RequestState) :
    Phase → RequestState → Phase → Prop
  | stay (p : Phase) {s' : RequestState} (same : Undisturbed s s') :
      Move outerDeadline snapshot s p s' p
  | prepare {s' : RequestState} (received : s'.received = s.received)
      (submissions : s'.submissions = s.submissions) :
      Move outerDeadline snapshot s .opening s' .opening
  | supervise : Move outerDeadline snapshot s .opening s (.supervising outerDeadline)
  | observe (d : ℚ) {result : InferenceResult} (done : s.inference = .done result) :
      Move outerDeadline snapshot s (.supervising d) s (.inferred d result)
  | raised (d : ℚ) : Move outerDeadline snapshot s (.inferred d .raised) s (.supervising d)
  | answer (d : ℚ) (envelope : ResponseEnvelope) :
      Move outerDeadline snapshot s (.inferred d (.returned envelope)) s (.answered envelope)
  | collect (d : ℚ) {envelope : ResponseEnvelope}
      (done : s.inference = .done (.returned envelope)) :
      Move outerDeadline snapshot s (.supervising d) s (.answered envelope)
  | tighten (d : ℚ) {c : ControlResponse} (active : c.terminalReason = none) :
      Move outerDeadline snapshot s (.supervising d)
        { s with received := s.received ++ [(c, s.now)] }
        (.supervising (deadlineAfterResponse d c s.now))
  | look (envelope : ResponseEnvelope) :
      Move outerDeadline snapshot s (.answered envelope) s
        (.looking envelope s.pollingStopped s.mutationLatched)
  | pass (envelope : ResponseEnvelope) {epoch : Nat} {latched : Bool}
      (early : s.now < outerDeadline) (same : ∀ g, snapshot = some g → epoch = g) :
      Move outerDeadline snapshot s (.looking envelope false latched) s
        (.submitting ⟨envelope, epoch, false, latched, s.now⟩)
  | submit (submission : Submission) :
      Move outerDeadline snapshot s (.submitting submission)
        { s with submissions := s.submissions ++ [submission] } .closed
  | close {p : Phase} {s' : RequestState} (pending : p.pending)
      (submissions : s'.submissions = s.submissions) :
      Move outerDeadline snapshot s p s' .closed

theorem Move.deadline_le {p p' : Phase} (move : Move outerDeadline snapshot s p s' p') {d d' : ℚ}
    (before : p.deadline = some d) (after : p'.deadline = some d') : d' ≤ d := by
  cases move with
  | stay =>
    rw [before] at after
    cases after
    exact le_rfl
  | observe | raised =>
    cases before
    cases after
    exact le_rfl
  | tighten =>
    cases before
    cases after
    exact deadlineAfterResponse_le d _ s.now
  | prepare | supervise => cases before
  | answer | collect | look | pass | submit | close => cases after

/-! ## What holds in a phase -/

/-- Nothing has been submitted, and no control response has ended the request. -/
structure Clear (s : RequestState) : Prop where
  submissions : s.submissions = []
  nonterminal : ∀ r ∈ s.received, r.1.terminalReason = none

def Phase.Holds (outerDeadline : ℚ) (snapshot : Option Nat) (s : RequestState) : Phase → Prop
  | .opening => s.received = [] ∧ s.submissions = []
  | .supervising d => Clear s ∧ d = tightestDeadline outerDeadline s.received
  | .inferred d result =>
    Clear s ∧ d = tightestDeadline outerDeadline s.received ∧ s.inference = .done result
  | .answered envelope => Clear s ∧ s.inference = .done (.returned envelope)
  | .looking envelope stopped latched =>
    Clear s ∧ s.inference = .done (.returned envelope) ∧ (latched → stopped)
  | .submitting submission => s.submissions = [] ∧ submission.Safe outerDeadline snapshot s
  | .closed =>
    s.submissions.length ≤ 1 ∧
      ∀ submission ∈ s.submissions, submission.Safe outerDeadline snapshot s

theorem Clear.transfer (clear : Clear s) (same : Undisturbed s s') : Clear s' :=
  ⟨same.submissions.trans clear.submissions, same.received ▸ clear.nonterminal⟩

theorem Submission.Safe.transfer {submission : Submission}
    (safe : submission.Safe outerDeadline snapshot s) (same : Undisturbed s s') :
    submission.Safe outerDeadline snapshot s' where
  returned := same.inference _ safe.returned
  nonterminal := same.received ▸ safe.nonterminal
  running := safe.running
  unlatched := safe.unlatched
  uncancelled := safe.uncancelled
  early := same.received ▸ safe.early

theorem Phase.Holds.transfer {p : Phase} (holds : p.Holds outerDeadline snapshot s)
    (same : Undisturbed s s') : p.Holds outerDeadline snapshot s' := by
  cases p with
  | opening => exact ⟨same.received.trans holds.1, same.submissions.trans holds.2⟩
  | supervising d => exact ⟨holds.1.transfer same, same.received ▸ holds.2⟩
  | inferred d result =>
    obtain ⟨clear, deadline, done⟩ := holds
    exact ⟨clear.transfer same, same.received ▸ deadline, same.inference _ done⟩
  | answered envelope => exact ⟨holds.1.transfer same, same.inference _ holds.2⟩
  | looking envelope stopped latched =>
    obtain ⟨clear, done, ordered⟩ := holds
    exact ⟨clear.transfer same, same.inference _ done, ordered⟩
  | submitting submission =>
    exact ⟨same.submissions.trans holds.1, holds.2.transfer same⟩
  | closed =>
    obtain ⟨once, safe⟩ := holds
    rw [← same.submissions] at once safe
    exact ⟨once, fun submission mem => (safe submission mem).transfer same⟩

/-- A request that may still submit something has not submitted anything. -/
theorem Phase.Holds.unsubmitted {p : Phase} (holds : p.Holds outerDeadline snapshot s)
    (pending : p.pending) : s.submissions = [] := by
  cases p with
  | opening => exact holds.2
  | supervising | inferred | answered | looking => exact holds.1.submissions
  | submitting | closed => cases pending

/-- The look at the clock that the last check takes, in the phase of the check. -/
def Phase.InTime (outerDeadline : ℚ) (s : RequestState) : Phase → Prop
  | .looking .. =>
    outerDeadline ≤ tightestDeadline outerDeadline s.received ∨
      s.now < tightestDeadline outerDeadline s.received
  | _ => True

theorem Move.holds {p p' : Phase} (move : Move outerDeadline snapshot s p s' p')
    (ordered : s.mutationLatched → s.pollingStopped) (intime : p.InTime outerDeadline s)
    (holds : p.Holds outerDeadline snapshot s) : p'.Holds outerDeadline snapshot s' := by
  cases move with
  | stay p same => exact holds.transfer same
  | prepare received submissions =>
    exact ⟨received.trans holds.1, submissions.trans holds.2⟩
  | supervise =>
    obtain ⟨received, submissions⟩ := holds
    refine ⟨⟨submissions, ?_⟩, ?_⟩
    · simp [received]
    · rw [received]
      rfl
  | observe d done => exact ⟨holds.1, holds.2, done⟩
  | raised d => exact ⟨holds.1, holds.2.1⟩
  | answer d envelope => exact ⟨holds.1, holds.2.2⟩
  | collect d done => exact ⟨holds.1, done⟩
  | tighten d active =>
    obtain ⟨clear, deadline⟩ := holds
    refine ⟨⟨clear.submissions, ?_⟩, ?_⟩
    · intro r mem
      rcases List.mem_append.mp mem with before | new
      · exact clear.nonterminal r before
      · rw [List.mem_singleton.mp new]
        exact active
    · rw [tightestDeadline_append, ← deadline]
  | look envelope => exact ⟨holds.1, holds.2, ordered⟩
  | pass envelope early same =>
    obtain ⟨clear, done, latched⟩ := holds
    refine ⟨clear.submissions, done, clear.nonterminal, rfl, ?_, same, ?_⟩
    · exact Bool.eq_false_iff.mpr fun h => Bool.false_ne_true (latched h)
    · -- the clock is before the deadline of the metadata, which is the tightest one if
      -- no response has brought it forward
      rcases intime with unshortened | early'
      · exact lt_of_lt_of_le early unshortened
      · exact early'
  | submit submission =>
    obtain ⟨none, safe⟩ := holds
    have only : s.submissions ++ [submission] = [submission] := by rw [none, List.nil_append]
    refine ⟨?_, ?_⟩
    · simp [only]
    · intro other mem
      rw [only, List.mem_singleton] at mem
      subst mem
      obtain ⟨returned, nonterminal, running, unlatched, uncancelled, early⟩ := safe
      exact ⟨returned, nonterminal, running, unlatched, uncancelled, early⟩
  | close pending submissions =>
    have none := submissions.trans (holds.unsubmitted pending)
    refine ⟨?_, ?_⟩
    · simp [none]
    · simp [none]

/-! ## The steps are moves -/

theorem Move.remain (p : Phase) : Move outerDeadline snapshot s p s p :=
  .stay p (.refl s)

theorem Move.shut {p : Phase} (pending : p.pending) :
    Move outerDeadline snapshot s p s .closed :=
  .close pending rfl

theorem observed_move (v : Supervising) (result : InferenceResult) :
    Move outerDeadline snapshot s (.inferred v.localDeadline result) s
      (observed s v result).phase := by
  cases result with
  | returned envelope => exact .answer _ envelope
  | raised => exact .raised _

theorem superviseStep_move {task task' : RequestTask}
    (step : superviseStep env outerDeadline s task = some (s', task')) :
    Move outerDeadline snapshot s task.phase s' task'.phase := by
  cases task with
  | checkCredential | checkRemaining v | controlStopped v | controlDeadline v | takenStopped v c
  | takenDeadline v c =>
    cases step
    split
    · exact .shut rfl
    · exact .remain _
  | submitInference =>
    cases step
    exact .prepare rfl rfl
  | firstPoll =>
    cases step
    exact .supervise
  | loop v | backOff v | terminate reason =>
    cases step
    exact .remain _
  | checkStopped v now | controlPending v | schedule v c =>
    cases step
    split <;> exact .remain _
  | checkLatched v now =>
    cases step
    split
    · exact .remain _
    · exact .shut rfl
  | checkInference v now =>
    cases step
    split
    · next done => exact .observe _ done
    · split
      · exact .shut rfl
      · split <;> exact .remain _
  | inferredStopped v result =>
    cases step
    split
    · exact .remain _
    · exact observed_move v result
  | inferredLatched v result =>
    cases step
    split
    · exact observed_move v result
    · exact .shut rfl
  | inferenceRaised v =>
    cases step
    split <;> exact .shut rfl
  | submitControl v | quiesce reason recovered =>
    cases step
    exact .stay _ ⟨fun _ done => done, rfl, rfl⟩
  | takeControl v =>
    cases step
    split
    · exact .stay _ ⟨fun _ done => done, rfl, rfl⟩
    · exact .close rfl rfl
    · exact .stay _ ⟨fun _ done => done, rfl, rfl⟩
  | tighten v c =>
    cases step
    split
    · exact .close rfl rfl
    · next active => exact .tighten _ active
  | sleep v =>
    cases step
    split <;> exact .stay _ ⟨fun _ done => done, rfl, rfl⟩
  | collect v =>
    cases step
    split
    · next done => exact .collect _ done
    · exact .shut rfl
    · exact .remain _
  | _ => cases step

theorem guarded_move (a : Answer) (cancelled latched stopped expired : Bool) :
    Move outerDeadline snapshot s (.answered a.envelope) s
      (guarded a cancelled latched stopped expired).phase := by
  unfold guarded
  split
  · exact .shut rfl
  · exact .remain _

theorem checkedPost_move (a : Answer) (epoch : Nat) (stopped latched : Bool) :
    Move outerDeadline snapshot s (.looking a.envelope stopped latched) s
      (checkedPost outerDeadline snapshot a ⟨a.envelope, epoch, stopped, latched, s.now⟩).phase := by
  unfold checkedPost
  split
  · exact .shut rfl
  · next running =>
    split
    · exact .shut rfl
    · next early =>
      split
      · exact .shut rfl
      · next uncancelled =>
        obtain rfl := Bool.eq_false_iff.mpr running
        refine .pass a.envelope (not_le.mp early) fun g eq => ?_
        subst eq
        by_contra differs
        exact uncancelled (decide_eq_true (Ne.symm differs))

theorem submitStep_move (task : RequestTask) :
    Move outerDeadline snapshot s task.phase (submitStep outerDeadline snapshot s task).1
      (submitStep outerDeadline snapshot s task).2.phase := by
  cases task with
  | supervised outcome =>
    obtain ⟨_ | envelope, code, health, allowed⟩ := outcome <;> exact .remain _
  | guardDeadline a cancelled latched stopped => exact guarded_move a cancelled latched stopped _
  | postBegin a =>
    simp only [submitStep]
    split
    · exact .shut rfl
    · exact .stay _ ⟨fun _ done => done, rfl, rfl⟩
  | postEncrypt a =>
    simp only [submitStep]
    split
    · exact .remain _
    · exact .shut rfl
  | postStopped a epoch => exact .look a.envelope
  | postDeadline a epoch stopped latched => exact checkedPost_move a epoch stopped latched
  | post a submission => exact .submit submission
  | postEnd a outcome => exact .stay _ ⟨fun _ done => done, rfl, rfl⟩
  | postedLatched a outcome =>
    simp only [submitStep]
    split
    · exact .remain _
    · split
      · exact .remain _
      · split <;> exact .remain _
  | postedStopped a outcome =>
    simp only [submitStep]
    split <;> exact .remain _
  | _ => exact .remain _

/-! ## Runs -/

variable {x : RequestSystem} {ev : RequestEvent}

/-- What holds between two events. -/
structure Underway (x : RequestSystem) : Prop where
  ordered : x.shared.mutationLatched → x.shared.pollingStopped
  phase : x.task.phase.Holds x.outerDeadline x.cancelSnapshot x.shared

theorem superviseStep_flags {task task' : RequestTask}
    (step : superviseStep env outerDeadline s task = some (s', task')) :
    s'.mutationLatched = s.mutationLatched ∧ (s.pollingStopped → s'.pollingStopped) := by
  cases task with
  | quiesce reason recovered =>
    cases step
    exact ⟨rfl, fun stopped => by simp [stopped]⟩
  | submitInference | submitControl | takeControl | tighten | sleep =>
    cases step
    exact ⟨rfl, id⟩
  | _ =>
    cases step <;> exact ⟨rfl, id⟩

theorem submitStep_flags (task : RequestTask) :
    (submitStep outerDeadline snapshot s task).1.mutationLatched = s.mutationLatched ∧
      (submitStep outerDeadline snapshot s task).1.pollingStopped = s.pollingStopped := by
  cases task with
  | postBegin a =>
    simp only [submitStep]
    split <;> exact ⟨rfl, rfl⟩
  | _ => exact ⟨rfl, rfl⟩

theorem surround_undisturbed (s : RequestState) (ev : RequestEvent) :
    Undisturbed s (surround s ev) := by
  cases ev with
  | inferred result =>
    refine ⟨fun other done => ?_, rfl, rfl⟩
    simp [surround, done]
  | _ => exact ⟨fun _ done => done, rfl, rfl⟩

theorem surround_ordered (ordered : s.mutationLatched → s.pollingStopped) (ev : RequestEvent) :
    (surround s ev).mutationLatched → (surround s ev).pollingStopped := by
  cases ev with
  | stop => exact fun _ => rfl
  | latch =>
    intro latched
    simp only [surround, Bool.or_eq_true] at latched
    rcases latched with before | stopped
    · exact ordered before
    · exact stopped
  | _ => exact ordered

theorem advance_move (env : RequestEnv) (task : RequestTask) :
    Move outerDeadline snapshot s task.phase
      ((superviseStep env outerDeadline s task).getD (submitStep outerDeadline snapshot s task)).1
      ((superviseStep env outerDeadline s task).getD
        (submitStep outerDeadline snapshot s task)).2.phase := by
  cases step : superviseStep env outerDeadline s task with
  | none => exact submitStep_move task
  | some next => exact superviseStep_move step

theorem advance_ordered (env : RequestEnv) (task : RequestTask)
    (ordered : s.mutationLatched → s.pollingStopped) :
    ((superviseStep env outerDeadline s task).getD
        (submitStep outerDeadline snapshot s task)).1.mutationLatched →
      ((superviseStep env outerDeadline s task).getD
        (submitStep outerDeadline snapshot s task)).1.pollingStopped := by
  cases step : superviseStep env outerDeadline s task with
  | none =>
    obtain ⟨latch, stop⟩ := @submitStep_flags outerDeadline snapshot s task
    simp only [Option.getD_none, latch, stop]
    exact ordered
  | some next =>
    obtain ⟨latch, stop⟩ := superviseStep_flags step
    simp only [Option.getD_some, latch]
    exact fun latched => stop (ordered latched)

theorem runStep_cases (env : RequestEnv) (x : RequestSystem) :
    (x.task.phase = .opening ∧ (runStep env x).task.phase = .opening ∧
      (runStep env x).shared = x.shared) ∨
    runStep env x =
      { x with
        shared := ((superviseStep env x.outerDeadline x.shared x.task).getD
          (submitStep x.outerDeadline x.cancelSnapshot x.shared x.task)).1
        task := ((superviseStep env x.outerDeadline x.shared x.task).getD
          (submitStep x.outerDeadline x.cancelSnapshot x.shared x.task)).2 } := by
  unfold runStep
  split
  · next metadata entry => exact .inl ⟨by rw [entry]; rfl, rfl, rfl⟩
  · next snapshot => exact .inl ⟨by rw [snapshot]; rfl, rfl, rfl⟩
  · exact .inr rfl

theorem InTime.phase (intime : InTime .run x) : x.task.phase.InTime x.outerDeadline x.shared := by
  cases task : x.task with
  | postDeadline =>
    simp only [InTime, task] at intime
    exact intime
  | supervised outcome =>
    obtain ⟨_ | _, _, _, _⟩ := outcome <;> trivial
  | _ => trivial

theorem runStep_underway (intime : InTime .run x)
    (underway : Underway x) : Underway (runStep env x) := by
  rcases runStep_cases env x with ⟨before, after, same⟩ | eq
  · have holds := underway.phase
    rw [before] at holds
    refine ⟨?_, ?_⟩
    · rw [same]
      exact underway.ordered
    · rw [after, same]
      exact holds
  · rw [eq]
    exact ⟨advance_ordered env x.task underway.ordered,
      (advance_move env x.task).holds underway.ordered intime.phase underway.phase⟩

theorem requestStep_cases (env : RequestEnv) (ev : RequestEvent) (x : RequestSystem) :
    (ev = .run ∧ requestStep env ev x = runStep env x) ∨
      requestStep env ev x = { x with shared := surround x.shared ev } := by
  cases ev with
  | run => exact .inl ⟨rfl, rfl⟩
  | _ => exact .inr rfl

theorem requestStep_underway (intime : InTime ev x)
    (underway : Underway x) : Underway (requestStep env ev x) := by
  rcases requestStep_cases env ev x with ⟨rfl, eq⟩ | eq
  · rw [eq]
    exact runStep_underway intime underway
  · rw [eq]
    exact ⟨surround_ordered underway.ordered ev, underway.phase.transfer (surround_undisturbed x.shared ev)⟩

theorem incoming_underway (metadata : RequestMetadata) (now : ℚ) (stopped latched : Bool) :
    Underway (incoming metadata now stopped latched) where
  ordered := fun h => by simp_all [incoming]
  phase := ⟨rfl, rfl⟩

theorem Phase.Holds.safe {p : Phase} (holds : p.Holds outerDeadline snapshot s) :
    s.submissions.length ≤ 1 ∧
      ∀ submission ∈ s.submissions, submission.Safe outerDeadline snapshot s := by
  cases p with
  | closed => exact holds
  | submitting submission => simp [holds.1]
  | _ => simp [holds.unsubmitted rfl]

theorem Underway.safe (underway : Underway x) : SubmissionSafe x :=
  ⟨underway.phase.safe.1, underway.phase.safe.2⟩

/-- No event moves the deadline of the supervisor back. -/
theorem requestStep_workingDeadline {d d' : ℚ} (before : x.workingDeadline = some d)
    (after : (requestStep env ev x).workingDeadline = some d') : d' ≤ d := by
  rw [workingDeadline_eq] at before after
  rcases requestStep_cases env ev x with ⟨-, eq⟩ | eq
  · rcases runStep_cases env x with ⟨opening, -⟩ | advanced
    · rw [opening] at before
      cases before
    · rw [eq, advanced] at after
      exact (advance_move env x.task).deadline_le before after
  · rw [eq, before] at after
    cases after
    exact le_rfl

/-- What a request submits is safe, and the deadline of its supervisor never
increases, whatever order its inference, its control calls, a stop, a shutdown, a
cancellation and the clock come in. -/
theorem submission_safe (env : RequestEnv) (metadata : RequestMetadata) (now : ℚ)
    (stopped latched : Bool) (evs : List RequestEvent)
    (intime : Along (requestStep env) InTime evs (incoming metadata now stopped latched)) :
    SubmissionSafe (runs (requestStep env) evs (incoming metadata now stopped latched)) ∧
      ∀ ev d d',
        (runs (requestStep env) evs (incoming metadata now stopped latched)).workingDeadline =
          some d →
        (requestStep env ev
          (runs (requestStep env) evs (incoming metadata now stopped latched))).workingDeadline =
          some d' →
        d' ≤ d := by
  have underway := along_runs (fun _ _ => requestStep_underway) intime
    (incoming_underway metadata now stopped latched)
  exact ⟨underway.safe, fun _ _ _ before after => requestStep_workingDeadline before after⟩

/-- A request with a deadline in 60 s. The first control response leaves it
`remaining` seconds, and the inference completes while the supervisor sleeps. -/
def submissionSample (remaining : ℚ) : List RequestEvent :=
  List.replicate 10 .run ++
    [.controlled (.response ⟨"active", some 5, some remaining, none⟩)] ++
    List.replicate 6 .run ++ [.tick (19 / 20)] ++ List.replicate 3 .run ++
    [.inferred (.returned ⟨"r", "text", none⟩), .tick (21 / 20)] ++ List.replicate 16 .run

/-- The request after the sample. -/
def sampledRequest (remaining : ℚ) : RequestSystem :=
  runs (requestStep ⟨true, true, true⟩) (submissionSample remaining)
    (incoming ⟨some 60, none⟩ 0 false false)

/-- With 50 s left the response is submitted in time. -/
theorem submission_safe_sample :
    SubmissionSafe (sampledRequest 50) ∧ (sampledRequest 50).shared.submissions.length = 1 := by
  have intime : Along (requestStep ⟨true, true, true⟩) InTime (submissionSample 50)
      (incoming ⟨some 60, none⟩ 0 false false) := by decide +kernel
  exact ⟨(submission_safe ⟨true, true, true⟩ ⟨some 60, none⟩ 0 false false _ intime).1,
    by decide +kernel⟩

/-- With 1 s left it is submitted although the last check reads a clock that is past
the deadline of the supervisor. -/
theorem submitted_past_deadline : ¬ SubmissionSafe (sampledRequest 1) := by
  intro h
  have late : ∃ submission ∈ (sampledRequest 1).shared.submissions,
      tightestDeadline (sampledRequest 1).outerDeadline (sampledRequest 1).shared.received ≤
        submission.now := by
    decide +kernel
  obtain ⟨submission, mem, late⟩ := late
  exact absurd (h.safe submission mem).early (not_lt.mpr late)

end ComputeNode
