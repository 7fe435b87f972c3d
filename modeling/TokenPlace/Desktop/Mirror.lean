import TokenPlace.Desktop.Window
import TokenPlace.Desktop.Finality

/-!
# The window mirrors the operator

An event of the published session reaches the window with the same fields that the operator
takes from it, so the two agree after it as long as the window takes it as well. It does
when it shows that session and has not planted a number of its own, and for the first event
of a session that it does not show. `Expected` says when that is so, and `Synced` is what
the writes of the two sides keep in between.
-/

namespace Operator

open Schedules

variable {c : BridgeChoice} {s s' : ComputeNodeState} {x : DesktopSystem} {task : Task}
  {t : Thread} {session : String} {window window' : WindowStatus}
  {status status' : ComputeNodeStatus} {payload : Payload} {e : NumberedEvent}

/-! ## Statement -/

/-- The window shows what the operator publishes. -/
structure Mirrored (window : WindowStatus) (status : ComputeNodeStatus) : Prop where
  session : window.operatorSessionId = status.operatorSessionId
  sequence : window.sequence = status.sequence
  generation : window.workerGeneration = status.workerGeneration
  running : window.running = status.running
  registered : window.registered = status.registered

/-- An event of the published session reaches the window, which mirrors the operator after
it. One of an older session changes nothing there. -/
def Mirrors (x : DesktopSystem) : DesktopEvent → Prop
  | .run i c =>
    match x.operator.threads[i]?, c.line with
    | some ⟨.readStdout session _ _, none⟩, .event e =>
      acceptsEvent x.operator.shared.status (e.payload session) →
        if x.operator.shared.status.operatorSessionId = some session then
          mergesEvent x.window (e.payload session) ∧
            Mirrored (desktopStep (.run i c) x).window
              (desktopStep (.run i c) x).operator.shared.status
        else (desktopStep (.run i c) x).window = x.window
    | _, _ => True
  | _ => True

/-- An event of the published session finds the window with that session and without a
number of its own, or is a fresh one there, and it carries the generation of the worker
unless both sides agree on that. One of an older session finds the window with another
session that runs. -/
def Expected (window : WindowStatus) (status : ComputeNodeStatus) (session : String)
    (e : NumberedEvent) : Prop :=
  if status.operatorSessionId = some session then
    (∀ shown ∈ window.operatorSessionId,
      if shown = session then window.sequence ≠ some maxSafeInteger
      else isFreshSessionEvent window (e.payload session)) ∧
    ((e.payload session).workerGeneration = none →
      window.workerGeneration = status.workerGeneration)
  else ∃ shown ∈ window.operatorSessionId, shown ≠ session ∧ window.running

/-- The same for an event of the system. -/
def Conforms : DesktopEvent → DesktopSystem → Prop
  | .run i c, x =>
    match x.operator.threads[i]?, c.line with
    | some ⟨.readStdout session _ _, none⟩, .event e =>
      acceptsEvent x.operator.shared.status (e.payload session) →
        Expected x.window x.operator.shared.status session e
    | _, _ => True
  | _, _ => True

instance : Decidable (Mirrored window status) :=
  decidable_of_iff (window.operatorSessionId = status.operatorSessionId ∧
      window.sequence = status.sequence ∧ window.workerGeneration = status.workerGeneration ∧
      window.running = status.running ∧ window.registered = status.registered)
    ⟨fun ⟨session, sequence, generation, running, registered⟩ =>
      ⟨session, sequence, generation, running, registered⟩,
    fun ⟨session, sequence, generation, running, registered⟩ =>
      ⟨session, sequence, generation, running, registered⟩⟩

instance (x : DesktopSystem) (ev : DesktopEvent) : Decidable (Mirrors x ev) := by
  unfold Mirrors
  split
  · split <;> infer_instance
  · infer_instance

instance : Decidable (Expected window status session e) := by
  unfold Expected
  infer_instance

instance (ev : DesktopEvent) (x : DesktopSystem) : Decidable (Conforms ev x) := by
  unfold Conforms
  split
  · split <;> infer_instance
  · infer_instance

/-! ## One event on both sides -/

theorem NumberedEvent.payload_session : (e.payload session).operatorSessionId = some session := rfl

theorem NumberedEvent.payload_sequence : (e.payload session).sequence = some e.sequence := rfl

/-- A bridge always says whether it runs and whether it is registered, and its last event
says that it does not and is not. -/
theorem NumberedEvent.payload_flags (e : NumberedEvent) (session : String) :
    ∃ running registered, (e.payload session).running = some running ∧
      (e.payload session).registered = some registered ∧
      ((e.payload session).type = some "stopped" → running = false ∧ registered = false) := by
  obtain ⟨event, sequence, safe⟩ := e
  cases event with
  | provisioning =>
    exact ⟨true, false, rfl, rfl,
      by simp [payload, BridgeEvent.payload, structuredProvisioningPayload]⟩
  | startupError | stopped report cleanup => exact ⟨false, false, rfl, rfl, fun _ => ⟨rfl, rfl⟩⟩
  | started report | status report =>
    exact ⟨true, _, rfl, rfl, by simp [payload, BridgeEvent.payload, buildStatusPayload]⟩
  | error running report =>
    exact ⟨running, _, rfl, rfl, by simp [payload, BridgeEvent.payload, buildStatusPayload]⟩

theorem updateStatusFromEvent_fields
    (accepted : updateStatusFromEvent status payload = some status') :
    status'.operatorSessionId = payload.operatorSessionId.or status.operatorSessionId ∧
      status'.sequence = payload.sequence.or status.sequence ∧
      status'.workerGeneration = payload.workerGeneration.or status.workerGeneration := by
  unfold updateStatusFromEvent at accepted
  split at accepted
  · cases accepted
    simp only [takeIdentity, takeCleanup]
    split <;> exact ⟨rfl, rfl, rfl⟩
  · cases accepted

theorem mirrored_of_merges (merges : mergesEvent window (e.payload session))
    (accepted : updateStatusFromEvent status (e.payload session) = some status')
    (generation : (e.payload session).workerGeneration = none →
      window.workerGeneration = status.workerGeneration) :
    Mirrored (window.receives (some (e.payload session))) status' := by
  obtain ⟨running, registered, hr, hg, stopped⟩ := e.payload_flags session
  obtain ⟨_, runs, registers⟩ := updateStatusFromEvent_flags accepted
  obtain ⟨session', sequence', generation'⟩ := updateStatusFromEvent_fields accepted
  rw [hr] at runs
  rw [hg] at registers
  simp only [WindowStatus.receives, Option.bind_some, mergeComputeStatusEvent, if_pos merges,
    Option.getD_some]
  refine ⟨session'.symm, sequence'.symm, ?_, ?_, ?_⟩
  · rw [generation']
    cases known : (e.payload session).workerGeneration with
    | none => exact generation known
    | some => rfl
  · rw [runs, hr]
    by_cases last : (e.payload session).type = some "stopped"
    · simp [last, stoppedComputeStatus, (stopped last).1]
    · simp [last]
  · rw [registers, hg]
    by_cases last : (e.payload session).type = some "stopped"
    · simp [last, stoppedComputeStatus, (stopped last).2]
    · simp [last]

/-! ## Writes of the operator -/

/-- The session, the number and the generation of the published status. -/
structure SameIdentity (status status' : ComputeNodeStatus) : Prop where
  session : status'.operatorSessionId = status.operatorSessionId
  sequence : status'.sequence = status.sequence
  generation : status'.workerGeneration = status.workerGeneration

theorem SameIdentity.refl (status : ComputeNodeStatus) : SameIdentity status status :=
  ⟨rfl, rfl, rfl⟩

theorem SameIdentity.ite (same : SameIdentity status status') (current : Bool) :
    SameIdentity status (if current then status' else status) := by
  cases current with
  | true => exact same
  | false => exact .refl status

theorem taskStep_identity (c : Choice) (s : ComputeNodeState) (task : Task) :
    SameIdentity s.status (taskStep c s task).shared.status ∨
      ∃ a stage, task.stage = some (a, stage) ∧
        (taskStep c s task).shared.status.operatorSessionId = some a := by
  have frame := taskStep_frame c s task
  have kept : task.publishes = false → SameIdentity s.status (taskStep c s task).shared.status := by
    intro quiet
    rw [frame.status quiet]
    exact .refl _
  cases task with
  | reserve a =>
    simp only [taskStep, reserveStarting]
    split
    · exact .inl (.refl _)
    · next s' reserved =>
      split at reserved <;> cases reserved
      exact .inr ⟨a, .reserving, rfl, rfl⟩
  | startupFailed a lastError failure =>
    simp only [taskStep, notifies, completeNoChild_status]
    split
    · exact .inr ⟨a, .starting, rfl, rfl⟩
    · exact .inl (.refl _)
  | publish a =>
    simp only [taskStep, goes, publishRunning]
    split
    · exact .inr ⟨a, .reading, rfl, rfl⟩
    · exact .inl (.refl _)
  | readStdout a startup error =>
    simp only [taskStep, readStep]
    cases c.line with
    | unparsed | terminal => exact .inl (.refl _)
    | event payload =>
      simp only
      split
      · exact .inl (.refl _)
      · next s' acknowledges applied =>
        exact .inr ⟨a, .reading, rfl, updateStatusFromEvent_session rfl (applyEvent_status applied)⟩
  | spawnedFailed a shutdown failure =>
    left
    simp only [taskStep, notifies, completeSpawned_status]
    split
    · exact ⟨rfl, rfl, rfl⟩
    · exact .refl _
  | report => exact .inl ⟨rfl, rfl, rfl⟩
  | bridgeExit locals shutdown exitStatus acknowledged =>
    simp only [taskStep, bridgeExitStep, goes, finalizeBridgeExit]
    split
    · exact .inl (.refl _)
    · next published =>
      exact .inr ⟨locals.session, .finalizing, rfl, by simpa using published⟩
  | finalizeWrite finalizer shutdown stopError =>
    left
    simp only [taskStep, goes, finalizedStatus]
    refine SameIdentity.ite ?_ _
    exact ⟨rfl, rfl, rfl⟩
  | _ => exact .inl (kept rfl)

/-- The session of a start whose bridge has not been read. -/
def Task.unread : Task → Option String
  | .reserve session | .launch session | .attach session _ | .publish session => some session
  | _ => none

variable {a : String} {startup error : Bool} {i : Nat} {next : Task}

theorem Leads.unread (leads : Leads task next)
    (unread : next.unread = some a) : task.unread = some a ∨ task = .nextSession := by
  cases leads with
  | reserves => exact .inr rfl
  | launches | attaches | publishes => exact .inl unread
  | replaced a result | completed a result => cases result <;> cases unread
  | childless owner _ shutdown | observed owner _ shutdown | killed owner _ shutdown =>
    cases owner with
    | supervisor =>
      simp only [Owner.after] at unread
      split at unread <;> cases unread
    | _ => cases unread
  | finalized finalizer => cases finalizer <;> cases unread
  | _ => cases unread

theorem Leads.reads_session (leads : Leads task next) (reads : next.readSession = some a) :
    task.readSession = some a ∨ task.unread = some a := by
  cases leads with
  | reads | published => exact .inr reads
  | line => exact .inl reads
  | replaced a result | completed a result => cases result <;> cases reads
  | childless owner _ shutdown | observed owner _ shutdown | killed owner _ shutdown =>
    cases owner with
    | supervisor =>
      simp only [Owner.after] at reads
      split at reads <;> cases reads
    | _ => cases reads
  | finalized finalizer => cases finalizer <;> cases reads
  | _ => cases reads

theorem Task.stage_of_unread (unread : task.unread = some a) :
    ∃ stage, task.stage = some (a, stage) := by
  cases task <;> cases unread <;> exact ⟨_, rfl⟩

theorem Task.stage_of_readSession (reads : task.readSession = some a) :
    task.stage = some (a, .reading) := by
  cases task <;> cases reads
  rfl

/-! ## Writes of the window -/

/-- What an event does to what the window knows of a session: it leaves it, or it is an event
of the start whose session the window shows then. -/
theorem receives_emitted (window : WindowStatus) (c : BridgeChoice) (s : ComputeNodeState)
    (task : Task) :
    ((window.receives (emitted c s task)).operatorSessionId = window.operatorSessionId ∧
      (window.receives (emitted c s task)).sequence = window.sequence ∧
      (window.receives (emitted c s task)).workerGeneration = window.workerGeneration) ∨
    task.unread = none ∧ ∃ a stage, task.stage = some (a, stage) ∧
      (window.receives (emitted c s task)).operatorSessionId = some a := by
  -- an event of that session is merged or not
  have received : ∀ (payload : Payload) (a : String), payload.operatorSessionId = some a →
      window.receives (some payload) = window ∨
        (window.receives (some payload)).operatorSessionId = some a := by
    intro payload a event
    simp only [WindowStatus.receives, Option.bind_some, mergeComputeStatusEvent]
    split
    · right
      rw [event]
      rfl
    · exact .inl rfl
  cases task with
  | readStdout a startup error =>
    simp only [emitted]
    split
    · next e _ =>
      split
      · obtain same | shown := received (e.payload a) a rfl
        · rw [same]
          exact .inl ⟨rfl, rfl, rfl⟩
        · exact .inr ⟨rfl, a, .reading, rfl, shown⟩
      · exact .inl ⟨rfl, rfl, rfl⟩
    · exact .inl ⟨rfl, rfl, rfl⟩
  | bridgeExit locals shutdown exitStatus acknowledged =>
    simp only [emitted]
    cases built : bridgeExitEvent s.status exitStatus locals c.diagnostic with
    | none => exact .inl ⟨rfl, rfl, rfl⟩
    | some payload =>
      have event : payload.operatorSessionId = some locals.session := by
        unfold bridgeExitEvent at built
        split at built
        · cases built
        · obtain ⟨lastError, _, rfl⟩ := Option.map_eq_some_iff.mp built
          rfl
      obtain same | shown := received payload locals.session event
      · rw [same]
        exact .inl ⟨rfl, rfl, rfl⟩
      · exact .inr ⟨rfl, locals.session, .finalizing, rfl, shown⟩
  | report failed error =>
    left
    simp only [emitted, WindowStatus.receives, Option.bind_some, mergeComputeStatusEvent]
    split <;> exact ⟨rfl, rfl, rfl⟩
  | _ => exact .inl ⟨rfl, rfl, rfl⟩

/-! ## What the two sides keep -/

/-- The window has planted a number of its own, or it has not gone past the published one. -/
def Follows (window : WindowStatus) (status : ComputeNodeStatus) : Prop :=
  window.sequence = some maxSafeInteger ∨
    (∃ shown sequence, window.sequence = some shown ∧ status.sequence = some sequence ∧
      shown ≤ sequence) ∧ window.workerGeneration = status.workerGeneration

/-- What holds between any two steps. -/
structure Synced (x : DesktopSystem) : Prop where
  coherent : Coherent x.operator
  counted : ∀ a, x.window.operatorSessionId = some a →
    ∃ n ≤ x.operator.shared.nextSessionId, a = toString n
  blank : x.window.operatorSessionId = none →
    x.window.sequence = none ∧ x.window.workerGeneration = none
  unread : ∀ t ∈ x.operator.threads, ∀ a, t.task.unread = some a →
    x.window.operatorSessionId ≠ some a
  follows : ∀ t ∈ x.operator.threads, ∀ a, t.task.readSession = some a →
    x.window.operatorSessionId = some a → x.operator.shared.status.operatorSessionId = some a →
    Follows x.window x.operator.shared.status

theorem newDesktop_synced : Synced newDesktop := by
  refine ⟨newOperator_coherent, ?_, ?_, ?_, ?_⟩ <;>
    simp [newDesktop, newOperator, defaultComputeStatus]

theorem ne_empty_of_counted {bound : Nat} (counted : ∃ n ≤ bound, a = toString n) : a ≠ "" := by
  obtain ⟨n, _, rfl⟩ := counted
  exact Nat.repr_ne_empty

theorem Synced.mirrors (synced : Synced x)
    (at_ : x.operator.threads[i]? = some ⟨.readStdout session startup error, none⟩)
    (accepts : acceptsEvent x.operator.shared.status (e.payload session))
    (expected : Expected x.window x.operator.shared.status session e) :
    if x.operator.shared.status.operatorSessionId = some session then
      mergesEvent x.window (e.payload session) ∧
        ((e.payload session).workerGeneration = none →
          x.window.workerGeneration = x.operator.shared.status.workerGeneration)
    else mergesEvent x.window (e.payload session) = false := by
  have mem := List.mem_of_getElem? at_
  unfold Expected at expected
  split
  · next published =>
    rw [if_pos published] at expected
    obtain ⟨fresh, generation⟩ := expected
    refine ⟨?_, generation⟩
    cases shows : x.window.operatorSessionId with
    | none =>
      obtain ⟨unnumbered, ungenerated⟩ := synced.blank shows
      simp [mergesEvent, shows, unnumbered, ungenerated]
    | some shown =>
      have known := fresh shown shows
      by_cases same : shown = session
      · subst same
        rw [if_pos rfl] at known
        obtain planted | ⟨⟨shown', sequence, number, published', le⟩, generation'⟩ :=
          synced.follows _ mem shown rfl shows published
        · exact absurd planted known
        · -- the operator has found the number and the generation new enough
          simp only [acceptsEvent, isFreshStartEvent, published, published',
            NumberedEvent.payload_session, NumberedEvent.payload_sequence, Option.any_some,
            ne_eq, not_true, decide_false, Bool.and_false, Bool.or_false, Bool.and_eq_true,
            decide_eq_true_eq] at accepts
          obtain ⟨⟨_, later⟩, newer⟩ := accepts
          simp only [mergesEvent, shows, number, generation', NumberedEvent.payload_session,
            NumberedEvent.payload_sequence, decide_true, Bool.or_true, Bool.true_or,
            Bool.true_and, Bool.and_eq_true, Bool.or_eq_true, decide_eq_true_eq]
          refine ⟨.inl (Nat.lt_of_le_of_lt le later), ?_⟩
          split at newer <;> simp_all
      · rw [if_neg same] at known
        simp only [mergesEvent, known, Bool.or_true]
        split <;> split <;> split <;> rfl
  · next other =>
    rw [if_neg other] at expected
    obtain ⟨shown, shows, differ, running⟩ := expected
    have shown_ne := ne_empty_of_counted (synced.counted shown shows)
    have session_ne := ne_empty_of_counted (synced.coherent.counted _ mem session .reading rfl)
    have shows : x.window.operatorSessionId = some shown := shows
    simp only [mergesEvent, isFreshSessionEvent, shows, running, NumberedEvent.payload_session]
    simp [differ, shown_ne, session_ne]

theorem Synced.follows_other (synced : Synced x) {i j : Nat} {t' : Thread}
    (at_ : x.operator.threads[i]? = some ⟨task, none⟩) (ne : j ≠ i)
    (at' : x.operator.threads[j]? = some t') (reads : t'.task.readSession = some a)
    (shows : (x.window.receives (emitted c x.operator.shared task)).operatorSessionId = some a)
    (published : (taskStep (c.choice task) x.operator.shared task).shared.status.operatorSessionId =
      some a) :
    Follows (x.window.receives (emitted c x.operator.shared task))
      (taskStep (c.choice task) x.operator.shared task).shared.status := by
  have own := Task.stage_of_readSession reads
  have foreign : ∀ {stage}, task.stage ≠ some (a, stage) := fun stage =>
    ne (synced.coherent.distinct _ _ _ _ _ _ _ at' at_ own stage)
  obtain ⟨session, sequence, generation⟩ | ⟨_, b, stage, here, shows'⟩ :=
    receives_emitted x.window c x.operator.shared task
  · obtain same | ⟨b, stage, here, published'⟩ :=
      taskStep_identity (c.choice task) x.operator.shared task
    · have before := synced.follows t' (List.mem_of_getElem? at') a reads
        (session.symm.trans shows) (same.session.symm.trans published)
      unfold Follows
      rw [sequence, generation, same.sequence, same.generation]
      exact before
    · rw [published] at published'
      cases published'
      exact absurd here foreign
  · rw [shows] at shows'
    cases shows'
    exact absurd here foreign

theorem readStep_status (line : c.line = .event e) (startup error : Bool) :
    (taskStep (c.choice (.readStdout session startup error)) s
      (.readStdout session startup error)).shared.status =
        (updateStatusFromEvent s.status (e.payload session)).getD s.status := by
  simp only [taskStep, readStep, BridgeChoice.choice, line]
  split
  · next rejected =>
    unfold applyEvent at rejected
    split at rejected
    · next same => exact (congrArg (Option.getD · s.status) same).symm
    · split at rejected <;> cases rejected
  · next applied => exact (congrArg (Option.getD · s.status) (applyEvent_status applied)).symm

theorem Synced.follows_own (synced : Synced x)
    (at_ : x.operator.threads[i]? = some ⟨.readStdout session startup error, none⟩)
    (expected : ∀ e, c.line = .event e →
      acceptsEvent x.operator.shared.status (e.payload session) →
      Expected x.window x.operator.shared.status session e)
    (shows : (x.window.receives
      (emitted c x.operator.shared (.readStdout session startup error))).operatorSessionId =
        some session)
    (published : (taskStep (c.choice (.readStdout session startup error)) x.operator.shared
      (.readStdout session startup error)).shared.status.operatorSessionId = some session) :
    Follows (x.window.receives (emitted c x.operator.shared (.readStdout session startup error)))
      (taskStep (c.choice (.readStdout session startup error)) x.operator.shared
        (.readStdout session startup error)).shared.status := by
  have before := synced.follows _ (List.mem_of_getElem? at_) session rfl
  cases line : c.line with
  | unparsed | terminal =>
    simp only [taskStep, readStep, BridgeChoice.choice, emitted, line] at shows published ⊢
    exact before shows published
  | event e =>
    rw [readStep_status line] at published ⊢
    simp only [emitted, line] at shows ⊢
    by_cases accepts : acceptsEvent x.operator.shared.status (e.payload session)
    · rw [if_pos accepts] at shows ⊢
      obtain ⟨status', accepted⟩ : ∃ status', updateStatusFromEvent x.operator.shared.status
          (e.payload session) = some status' := ⟨_, if_pos accepts⟩
      rw [accepted, Option.getD_some] at published ⊢
      obtain ⟨_, numbered, _⟩ := updateStatusFromEvent_fields accepted
      have mirrors := synced.mirrors at_ accepts (expected e line accepts)
      split at mirrors
      · obtain ⟨merges, generation⟩ := mirrors
        have mirrored := mirrored_of_merges merges accepted generation
        refine .inr ⟨⟨e.sequence, e.sequence, ?_, numbered, Nat.le_refl _⟩, mirrored.generation⟩
        exact mirrored.sequence.trans numbered
      · next other =>
        -- an event of an older session finds the window with another one
        have kept : x.window.receives (some (e.payload session)) = x.window := by
          simp only [WindowStatus.receives, Option.bind_some, mergeComputeStatusEvent, mirrors]
          rfl
        rw [kept] at shows
        have known := expected e line accepts
        unfold Expected at known
        rw [if_neg other] at known
        obtain ⟨shown, shows', differ, _⟩ := known
        rw [shows] at shows'
        cases shows'
        exact absurd rfl differ
    · rw [if_neg accepts] at shows ⊢
      rw [updateStatusFromEvent, if_neg accepts, Option.getD_none] at published ⊢
      exact before shows published

theorem conforms_expected (conforms : Conforms (.run i c) x)
    (at_ : x.operator.threads[i]? = some ⟨.readStdout session startup error, none⟩) :
    ∀ e, c.line = .event e → acceptsEvent x.operator.shared.status (e.payload session) →
      Expected x.window x.operator.shared.status session e := by
  intro e line
  simpa only [Conforms, at_, line] using conforms

/-! ## One step -/

theorem desktopStep_run (at_ : x.operator.threads[i]? = some ⟨task, none⟩) :
    desktopStep (.run i c) x =
      { x with
        operator := ⟨(taskStep (c.choice task) x.operator.shared task).shared,
          x.operator.threadsAfter i (taskStep (c.choice task) x.operator.shared task)⟩
        window := x.window.receives (emitted c x.operator.shared task) } := by
  simp only [desktopStep, at_, operatorStep_run (c.choice task) at_]
  rfl

theorem Synced.task_step (synced : Synced x)
    (at_ : x.operator.threads[i]? = some ⟨task, none⟩) (conforms : Conforms (.run i c) x) :
    Synced (desktopStep (.run i c) x) := by
  have mem := List.mem_of_getElem? at_
  have coherent := operatorStep_coherent (.run i (c.choice task)) x.operator synced.coherent
  have effect := taskStep_effect (c.choice task) x.operator.shared task
  have grows := threadStep_grows (c.choice task) x.operator.shared ⟨task, none⟩
  have leads := taskStep_leads (c.choice task) x.operator.shared task
  have received := receives_emitted x.window c x.operator.shared task
  rw [operatorStep_run (c.choice task) at_] at coherent
  rw [desktopStep_run at_]
  refine ⟨coherent, ?_, ?_, ?_, ?_⟩
  · intro a shows
    have counted : ∃ n ≤ x.operator.shared.nextSessionId, a = toString n := by
      obtain ⟨session, _, _⟩ | ⟨_, b, stage, here, shows'⟩ := received
      · exact synced.counted a (session.symm.trans shows)
      · have same : b = a := Option.some.inj (shows'.symm.trans shows)
        subst same
        exact synced.coherent.counted _ mem b stage here
    obtain ⟨n, le, eq⟩ := counted
    exact ⟨n, Nat.le_trans le grows, eq⟩
  · intro empty
    obtain ⟨session, sequence, generation⟩ | ⟨_, b, stage, here, shows'⟩ := received
    · simp only [sequence, generation]
      exact synced.blank (session.symm.trans empty)
    · rw [show _ = none from empty] at shows'
      cases shows'
  · intro t' mem' a unread shows
    obtain ⟨j, after⟩ := List.mem_iff_getElem?.mp mem'
    obtain ⟨-, rfl⟩ | ⟨ne, old⟩ | ⟨task', started, rfl, -⟩ := threadsAfter_elim after
    · obtain before | rfl := leads.unread unread
      · obtain ⟨session, _, _⟩ | ⟨read, _⟩ := received
        · exact synced.unread _ mem a before (session.symm.trans shows)
        · rw [read] at before
          cases before
      · cases unread
        exact not_counted (synced.counted _ shows) rfl
    · obtain ⟨session, _, _⟩ | ⟨_, b, stage, here, shows'⟩ := received
      · exact synced.unread t' (List.mem_of_getElem? old) a unread (session.symm.trans shows)
      · have same : b = a := Option.some.inj (shows'.symm.trans shows)
        subst same
        obtain ⟨stage', at'⟩ := Task.stage_of_unread unread
        exact ne (synced.coherent.distinct _ _ _ _ _ _ _ old at_ at' here)
    · obtain ⟨_, _, rfl⟩ := effect.started_eq started
      cases unread
  · intro t' mem' a reads shows published
    obtain ⟨j, after⟩ := List.mem_iff_getElem?.mp mem'
    obtain ⟨-, rfl⟩ | ⟨ne, old⟩ | ⟨task', started, rfl, -⟩ := threadsAfter_elim after
    · obtain before | before := leads.reads_session reads
      · cases task <;> cases before
        exact synced.follows_own at_ (conforms_expected conforms at_) shows published
      · obtain ⟨session, _, _⟩ | ⟨read, _⟩ := received
        · exact absurd (session.symm.trans shows) (synced.unread _ mem a before)
        · rw [read] at before
          cases before
    · exact synced.follows_other at_ ne old reads shows published
    · obtain ⟨_, _, rfl⟩ := effect.started_eq started
      cases reads

/-- The window knows of the same session, with the same number or with the planted one. -/
structure Shows (window window' : WindowStatus) : Prop where
  session : window'.operatorSessionId = window.operatorSessionId
  generation : window'.workerGeneration = window.workerGeneration
  sequence : window'.sequence = window.sequence ∨
    window'.sequence = (optimisticStatus window).sequence

theorem Shows.refl (window : WindowStatus) : Shows window window :=
  ⟨rfl, rfl, .inl rfl⟩

theorem Synced.quiet (synced : Synced x) {y : DesktopSystem} (coherent : Coherent y.operator)
    (counter : y.operator.shared.nextSessionId = x.operator.shared.nextSessionId)
    (status : y.operator.shared.status = x.operator.shared.status)
    (threads : ∀ t' ∈ y.operator.threads,
      (∃ t ∈ x.operator.threads, t'.task = t.task) ∨ t'.task.unread = none ∧
        t'.task.readSession = none)
    (shows : Shows x.window y.window) : Synced y := by
  refine ⟨coherent, ?_, ?_, ?_, ?_⟩
  · rw [shows.session, counter]
    exact synced.counted
  · intro empty
    have empty' := shows.session.symm.trans empty
    obtain ⟨unnumbered, ungenerated⟩ := synced.blank empty'
    refine ⟨?_, shows.generation.trans ungenerated⟩
    obtain same | planted := shows.sequence
    · exact same.trans unnumbered
    · simpa [optimisticStatus, empty'] using planted
  · intro t' mem a unread
    rw [shows.session]
    obtain ⟨t, old, same⟩ | ⟨none_, _⟩ := threads t' mem
    · rw [same] at unread
      exact synced.unread t old a unread
    · rw [none_] at unread
      cases unread
  · intro t' mem a reads here published
    obtain ⟨t, old, same⟩ | ⟨_, none_⟩ := threads t' mem
    · rw [same] at reads
      rw [status] at published ⊢
      have here' := shows.session.symm.trans here
      obtain number | planted := shows.sequence
      · have before := synced.follows t old a reads here' published
        unfold Follows
        rw [number, shows.generation]
        exact before
      · left
        have nonempty := ne_empty_of_counted (synced.counted a here')
        rw [planted]
        simp [optimisticStatus, here', nonempty]
    · rw [none_] at reads
      cases reads

theorem desktopStep_synced (ev : DesktopEvent) (x : DesktopSystem) (conforms : Conforms ev x)
    (synced : Synced x) : Synced (desktopStep ev x) := by
  have coherent := fun ev => operatorStep_coherent ev x.operator synced.coherent
  have same : ∀ t' ∈ x.operator.threads, (∃ t ∈ x.operator.threads, t'.task = t.task) ∨
      t'.task.unread = none ∧ t'.task.readSession = none := fun t' mem => .inl ⟨t', mem, rfl⟩
  have called : ∀ task : Task, task.unread = none → task.readSession = none →
      ∀ t' ∈ x.operator.threads ++ [⟨task, none⟩],
        (∃ t ∈ x.operator.threads, t'.task = t.task) ∨
          t'.task.unread = none ∧ t'.task.readSession = none := by
    intro task unread reads t' mem
    obtain mem | mem := List.mem_append.mp mem
    · exact same t' mem
    · rw [List.mem_singleton.mp mem]
      exact .inr ⟨unread, reads⟩
  cases ev with
  | startComputeNode =>
    exact synced.quiet (coherent .start) rfl rfl (called _ rfl rfl) ⟨rfl, rfl, .inr rfl⟩
  | startRejected attempt message =>
    simp only [desktopStep]
    split
    · exact synced
    · exact synced.quiet synced.coherent rfl rfl same ⟨rfl, rfl, .inl rfl⟩
  | stopComputeNode => exact synced.quiet (coherent .stop) rfl rfl (called _ rfl rfl) (.refl _)
  | stopReturned i =>
    simp only [desktopStep]
    split
    · next result _ _ =>
      refine synced.quiet synced.coherent rfl rfl same ?_
      cases result <;> exact ⟨rfl, rfl, .inl rfl⟩
    · exact synced
  | run i c =>
    cases at_ : x.operator.threads[i]? with
    | none => simpa only [desktopStep, at_] using synced
    | some t =>
      obtain ⟨task, notifying⟩ := t
      cases notifying with
      | none => exact synced.task_step at_ conforms
      | some notify =>
        have stepped := coherent (.run i (c.choice task))
        simp only [desktopStep, at_]
        rw [operatorStep_run (c.choice task) at_] at stepped ⊢
        refine synced.quiet stepped rfl rfl (fun t' mem => .inl ?_) (.refl _)
        obtain ⟨j, after⟩ := List.mem_iff_getElem?.mp mem
        obtain ⟨-, rfl⟩ | ⟨_, old⟩ | ⟨task', started, rfl, -⟩ := threadsAfter_elim after
        · exact ⟨_, List.mem_of_getElem? at_, rfl⟩
        · exact ⟨t', List.mem_of_getElem? old, rfl⟩
        · cases started
  | exit bridge exitStatus =>
    exact synced.quiet (coherent (.exit bridge exitStatus)) rfl rfl same (.refl _)
  | tick elapsed => exact synced.quiet (coherent (.tick elapsed)) rfl rfl same (.refl _)

theorem Synced.mirrors_run (synced : Synced x) {ev : DesktopEvent} (conforms : Conforms ev x) :
    Mirrors x ev := by
  cases ev with
  | run i c =>
    simp only [Mirrors]
    split
    · next t session startup error e at_ line =>
      intro accepts
      have expected := conforms_expected conforms at_ e line accepts
      have mirrors := synced.mirrors at_ accepts expected
      obtain ⟨status', accepted⟩ : ∃ status', updateStatusFromEvent x.operator.shared.status
          (e.payload session) = some status' := ⟨_, if_pos accepts⟩
      have received : emitted c x.operator.shared (.readStdout session startup error) =
          some (e.payload session) := by
        simp only [emitted, line, if_pos accepts]
      rw [desktopStep_run at_]
      simp only [received, readStep_status line, accepted, Option.getD_some]
      split at mirrors
      · next published =>
        rw [if_pos published]
        exact ⟨mirrors.1, mirrored_of_merges mirrors.1 accepted mirrors.2⟩
      · next other =>
        rw [if_neg other]
        simp only [WindowStatus.receives, Option.bind_some, mergeComputeStatusEvent, mirrors]
        rfl
    · trivial
  | _ => trivial

/-- In a run whose steps all conform, every event of the published session that the operator
accepts reaches the window, which has the same session, number, generation and flags after
it, and one of an older session changes nothing there. -/
theorem window_mirrors_operator (evs : List DesktopEvent)
    (conforms : Along desktopStep Conforms evs newDesktop) :
    ∀ n ev, evs[n]? = some ev → Mirrors (runs desktopStep (evs.take n) newDesktop) ev := by
  intro n ev at_
  have synced := along_runs desktopStep_synced (conforms.take n) newDesktop_synced
  refine synced.mirrors_run ?_
  have rest := conforms.drop n
  obtain ⟨bound, get⟩ := List.getElem?_eq_some_iff.mp at_
  rw [List.drop_eq_getElem_cons bound, get] at rest
  exact rest.1

/-- The next steps of a thread, whose bridge closes its output at once. -/
def windowTurns (i n : Nat) : List DesktopEvent :=
  List.replicate n (.run i ⟨.spawned, .terminal, none⟩)

/-- A start task reads an event. -/
def readsEvent (i : Nat) (event : BridgeEvent) (sequence : Nat)
    (safe : sequence < maxSafeInteger) : DesktopEvent :=
  .run i ⟨.spawned, .event ⟨event, sequence, safe⟩, none⟩

/-- The report of a bridge that is registered at one relay. -/
def readyReport (generation : Nat) : BridgeReport :=
  ⟨"ready", true, 1, none, some generation, none, none⟩

/-- A session whose third worker runs, and which ends by itself, and a second session. -/
def restarted : List DesktopEvent :=
  [.startComputeNode] ++ windowTurns 0 6 ++
    [readsEvent 0 (.started (readyReport 3)) 1 (by decide), .exit 0 (.code 0)] ++
    windowTurns 0 14 ++ [.startComputeNode] ++ windowTurns 1 6

theorem window_mirrors_operator_sample :
    Along desktopStep Conforms (restarted ++ [readsEvent 1 .provisioning 1 (by decide)])
      newDesktop ∧
    Mirrors (runs desktopStep restarted newDesktop)
      (readsEvent 1 .provisioning 1 (by decide)) := by
  have conforms : Along desktopStep Conforms
      (restarted ++ [readsEvent 1 .provisioning 1 (by decide)]) newDesktop := by decide +kernel
  exact ⟨conforms, window_mirrors_operator _ conforms 30 _ rfl⟩

/-- A session whose bridge runs, and a start attempt that is rejected. -/
def rejectedStart : List DesktopEvent :=
  [.startComputeNode] ++ windowTurns 0 6 ++
    [readsEvent 0 .provisioning 1 (by decide), .startComputeNode] ++ windowTurns 1 3

/-- After a rejected start the window takes no event of the session that runs, and after a
start whose bridge fails at once it has the generation of the session before. -/
theorem window_differs :
    ¬ Mirrors (runs desktopStep rejectedStart newDesktop)
        (readsEvent 0 (.status (readyReport 1)) 2 (by decide)) ∧
      ¬ Mirrors (runs desktopStep restarted newDesktop)
        (readsEvent 1 (.startupError "failed") 1 (by decide)) := by
  constructor <;> decide +kernel

end Operator
