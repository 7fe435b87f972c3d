import TokenPlace.Desktop.Evidence

/-!
# A successful stop

A stop returns success when it finds it in the record of its session, or when there has
been no session at all. The record gets it from a task that has either had no child or
knows that the child and its session have ended as they should (`Informed`). From then on
neither the process nor the evidence changes, no child is attached, and the status keeps
the session down.
-/

namespace Operator

open Schedules

variable {c : Choice} {s s' : ComputeNodeState} {x : OperatorSystem} {task : Task} {o : Outcome}
  {r r' : BridgeProcessRecord} {t : Thread} {session : String}

/-! ## Before the first session -/

/-- A task that there may be before the first reservation. A stop has no session then. -/
def Task.Prior : Task → Prop
  | .nextSession | .reserve _ | .report _ _ | .snapshot | .finished => True
  | .readDeadline session | .mark session _ | .returned none session _ => session = none
  | .finalizeRead (.stopCall session) _ _ | .finalizeWrite (.stopCall session) _ _ =>
    session = none
  | _ => False

/-- As long as no session was reserved, none is published and none is stopped. -/
def Blank (x : OperatorSystem) : Prop :=
  x.shared.bridgeProcess = none →
    x.shared.status.operatorSessionId = none ∧ ∀ t ∈ x.threads, t.task.Prior

theorem newOperator_blank : Blank newOperator := by
  simp [Blank, newOperator, ComputeNodeStatus.default]

theorem Effect.recorded (effect : Effect s task o) (after : o.shared.bridgeProcess = none) :
    s.bridgeProcess = none := by
  cases effect with
  | keeps record => rwa [record] at after
  | numbers _ out =>
    subst out
    exact after
  | reserves _ _ out | takes _ _ _ _ _ out | claims _ _ _ _ _ _ _ out | marks _ _ _ _ out
  | completes _ _ _ _ out =>
    subst out
    cases after
  | attaches _ _ _ _ shared =>
    rw [shared] at after
    cases after
  | decides _ _ _ record =>
    rw [record] at after
    cases after

theorem Task.Prior.step (prior : task.Prior) (unreserved : s.bridgeProcess = none)
    (unpublished : s.status.operatorSessionId = none)
    (after : (taskStep c s task).shared.bridgeProcess = none) :
    (taskStep c s task).shared.status.operatorSessionId = none ∧
      (taskStep c s task).task.Prior := by
  cases task with
  | nextSession | finished | returned | readDeadline => exact ⟨unpublished, prior⟩
  | report => exact ⟨unpublished, trivial⟩
  | reserve a =>
    simp [taskStep, reserveStarting, unreserved, notifies] at after
  | snapshot =>
    refine ⟨unpublished, ?_⟩
    simp only [taskStep, goes, snapshotStopSession, unreserved]
    exact unpublished
  | mark =>
    simp only [taskStep, markStep, unreserved]
    exact ⟨unpublished, prior⟩
  | finalizeRead finalizer shutdown =>
    cases finalizer with
    | stopCall => exact ⟨unpublished, prior⟩
    | supervisor | stdoutEnd => cases prior
  | finalizeWrite finalizer shutdown =>
    cases finalizer with
    | stopCall session =>
      refine ⟨?_, prior⟩
      exact (finalizedStatus_lowers _ session shutdown.hadChild _).1.trans unpublished
    | supervisor | stdoutEnd => cases prior
  | _ => cases prior

variable {stopSession : Option String} {shutdown : Shutdown} {waiter : Option Waiter}
  {owner : Owner} {acknowledged : Bool} {i : Nat}

theorem Blank.run (blank : Blank x) (at_ : x.threads[i]? = some t) (c : Choice) :
    Blank ⟨(threadStep c x.shared t).shared, x.threadsAfter i (threadStep c x.shared t)⟩ := by
  intro after
  have effect := threadStep_effect c x.shared t
  have unreserved := effect.recorded after
  obtain ⟨unpublished, prior⟩ := blank unreserved
  have own : (threadStep c x.shared t).shared.status.operatorSessionId = none ∧
      (threadStep c x.shared t).task.Prior := by
    have mem := prior t (List.mem_of_getElem? at_)
    obtain ⟨task, notifying⟩ := t
    cases notifying with
    | some notify => exact ⟨unpublished, mem⟩
    | none => exact mem.step unreserved unpublished after
  refine ⟨own.1, fun t' mem' => ?_⟩
  obtain ⟨j, at'⟩ := List.mem_iff_getElem?.mp mem'
  obtain ⟨-, rfl⟩ | ⟨_, old⟩ | ⟨task, started, rfl, -⟩ := threadsAfter_elim at'
  · exact own.2
  · exact prior t' (List.mem_of_getElem? old)
  · obtain ⟨_, _, r, _, found, _⟩ := effect.started_marks started
    rw [unreserved] at found
    cases found

theorem Blank.call (blank : Blank x) (prior : t.task.Prior) :
    Blank { x with threads := x.threads ++ [t] } := by
  intro unreserved
  obtain ⟨unpublished, old⟩ := blank unreserved
  refine ⟨unpublished, fun t' mem => ?_⟩
  obtain mem | mem := List.mem_append.mp mem
  · exact old t' mem
  · rwa [List.mem_singleton.mp mem]

theorem operatorStep_blank (ev : OperatorEvent) (blank : Blank x) : Blank (operatorStep ev x) := by
  cases ev with
  | start | stop => exact blank.call trivial
  | run i c =>
    cases at_ : x.threads[i]? with
    | none => rwa [operatorStep_run_none c at_]
    | some t =>
      rw [operatorStep_run c at_]
      exact blank.run at_ c
  | exit | tick => exact blank

/-! ## What the tasks know -/

/-- What the tasks know is so, and nothing makes it otherwise. -/
structure Informed (x : OperatorSystem) : Prop where
  coherent : Coherent x
  guarded : Guarded x
  attachments : Attachments x
  evident : Evident x
  blank : Blank x
  reports : ∀ t ∈ x.threads, t.task.Reports x.shared

theorem newOperator_informed : Informed newOperator :=
  ⟨newOperator_coherent, newOperator_guarded, newOperator_attachments, newOperator_evident,
    newOperator_blank, by simp [newOperator]⟩

theorem Informed.persists (informed : Informed x) (mem : t ∈ x.threads) (c : Choice) :
    Persists x.shared (threadStep c x.shared t).shared := by
  refine ⟨?_, ?_, fun p exitStatus => informed.guarded.exited mem⟩
  · obtain same | ⟨_, _, _, _, _, _, _, added, _⟩ :=
      ((threadStep_effect c x.shared t).attached informed.attachments.held).2
    · rw [same]
      exact fun _ => id
    · rw [added]
      exact fun _ => List.mem_append_left _
  · obtain ⟨task, notifying⟩ := t
    cases notifying with
    | some notify => exact fun _ => id
    | none => exact (informed.evident.step mem).1

theorem stopOutcomeError_eq_none {status : ComputeNodeStatus}
    (none_ : stopOutcomeError status stopSession shutdown acknowledged = none)
    (had : shutdown.hadChild) :
    shutdown.bridgeKilled = false ∧ shutdown.childExitStatus.any ExitStatus.success ∧
      (∃ session, stopSession = some session ∧ status.operatorSessionId = some session) ∧
      acknowledged ∧ coherentSuccess status := by
  cases stopSession with
  | none => simp [stopOutcomeError, had] at none_
  | some expected =>
    cases published : status.operatorSessionId with
    | none => simp [stopOutcomeError, had, published] at none_
    | some actual =>
      simp only [stopOutcomeError, had, published] at none_
      split at none_
      · cases none_
      · next ended =>
        split at none_
        · cases none_
        · next evidence =>
          simp only [Bool.true_and, Bool.or_eq_true, Bool.and_eq_true, Bool.not_eq_true',
            decide_eq_false_iff_not, not_or, not_and, Bool.not_eq_true, Bool.not_eq_false,
            Decidable.not_not] at ended evidence
          obtain ⟨⟨unkilled, exited⟩, same⟩ := ended
          exact ⟨unkilled, exited unkilled, ⟨expected, rfl, by rw [same]⟩, evidence⟩

theorem Informed.succeeds (informed : Informed x) {finalizer : Finalizer}
    (witnessed : Witnessed x.shared finalizer.session shutdown)
    (conclusive : (Task.finalizeRead finalizer shutdown acknowledged).Conclusive c x.shared)
    (none_ : stopOutcomeError x.shared.status finalizer.session shutdown acknowledged = none) :
    Succeeds x.shared finalizer.session shutdown := by
  refine ⟨fun had a mem => ?_, fun sessionless => ?_⟩
  · obtain ⟨unkilled, success, ⟨session, eq, published⟩, rfl, coherent⟩ :=
      stopOutcomeError_eq_none none_ had
    obtain ⟨p, exitStatus, ended, exited, attached⟩ := witnessed.exited had unkilled
    have same : session = a := Option.some.inj (eq.symm.trans mem)
    subst same
    have ack := conclusive session mem published had coherent
    refine ⟨informed.evident.acknowledged session ack coherent, p, exitStatus,
      attached session mem, exited, ?_⟩
    simpa [ended] using success
  · cases had : shutdown.hadChild with
    | false => rfl
    | true =>
      obtain ⟨_, _, ⟨session, eq, _⟩, _⟩ := stopOutcomeError_eq_none none_ had
      rw [sessionless] at eq
      cases eq

theorem Owner.after_reports
    (witnessed : Witnessed s owner.session shutdown) : (owner.after shutdown).Reports s := by
  cases owner with
  | failedStart | superseded => trivial
  | supervisor locals =>
    simp only [Owner.after]
    split
    · exact witnessed
    · exact ⟨witnessed, trivial⟩
  | stdoutEnd => exact witnessed

theorem startReturned_reports (session : String) (result : StopResult) :
    (startReturned session result).Reports s := by
  cases result <;> trivial

/-- The child of the record belongs to whoever shuts it down. -/
theorem Informed.attachedFor (informed : Informed x) (found : x.shared.bridgeProcess = some r)
    (matching : r.matchesSession stopSession) {p : Nat}
    (child : r.child = some p) : AttachedFor x.shared stopSession p := by
  intro a mem
  have attached := informed.attachments.held r found p child
  cases mem
  rwa [(informed.coherent.matchesSession_iff found a).mp matching] at attached

theorem claimStdoutEnd_claimed {notify deadline : Nat} {child stdin : Option Nat}
    (claimed : (claimStdoutEnd s session).2 = .claimed notify deadline child stdin) :
    ∃ r, s.bridgeProcess = some r ∧ r.sessionId = session ∧ r.child = child := by
  unfold claimStdoutEnd at claimed
  split at claimed
  · cases claimed
  · next r found =>
    obtain ⟨found, owned⟩ := recordOf_eq_some.mp found
    split at claimed
    · cases claimed
    · split at claimed
      · cases claimed
      · cases claimed
        exact ⟨r, found, owned, rfl⟩

theorem Informed.own (informed : Informed x) (mem : (⟨task, none⟩ : Thread) ∈ x.threads)
    (conclusive : task.Conclusive c x.shared)
    (looks : ∀ owner child, task ≠ .tryWait owner child) :
    (taskStep c x.shared task).task.Reports x.shared := by
  have reports := informed.reports _ mem
  cases task with
  | nextSession | startupFailed | publish | sessionCurrent | spawnedFailed | report | commitEnd
  | snapshot | readDeadline | register | returned | registerSupervisor | commitStop | finished =>
    trivial
  | reserve =>
    simp only [taskStep]
    split <;> trivial
  | launch a =>
    simp only [taskStep, launchStep]
    cases c.launch with
    | failed | spawned => trivial
    | missingPipe => exact fun p _ => by rintro _ ⟨⟩
  | attach a child =>
    simp only [taskStep, attachStep]
    split
    · trivial
    · trivial
    · exact fun p _ => by rintro _ ⟨⟩
  | readStdout a startup error =>
    simp only [taskStep, readStep]
    split
    · trivial
    · trivial
    · split <;> trivial
  | stdoutEnd a startup error =>
    simp only [taskStep]
    split
    · trivial
    · next claimed =>
      obtain ⟨r, found, owned, rfl⟩ := claimStdoutEnd_claimed claimed
      intro p child
      rintro _ ⟨⟩
      rw [← owned]
      exact informed.attachments.held r found p child
  | readCurrent a result =>
    simp only [taskStep, goes]
    split
    · trivial
    · exact startReturned_reports a result
  | complete a result => exact startReturned_reports a result
  | acknowledged locals shutdown =>
    simp only [taskStep, goes]
    split
    · next ended => exact ⟨reports, ended⟩
    · rintro ⟨⟩
  | bridgeExit locals shutdown exitStatus acknowledged =>
    obtain ⟨witnessed, ended⟩ := reports
    have had : shutdown.hadChild := by
      by_contra childless
      rw [witnessed.none_ (by simpa using childless)] at ended
      cases ended
    simp only [taskStep, bridgeExitStep, goes]
    split
    · exact ⟨witnessed, had⟩
    · rintro ⟨⟩
  | cancel owner child stdin =>
    simp only [taskStep, goes]
    cases child with
    | none => exact Owner.after_reports ⟨fun _ => rfl, by simp⟩
    | some p =>
      have attached : AttachedFor x.shared owner.session p := reports p rfl
      cases owner <;> exact attached
  | tryWait owner child => exact absurd rfl (looks owner child)
  | untilDeadline owner child =>
    simp only [taskStep, goes]
    split <;> exact reports
  | kill owner child => exact Owner.after_reports ⟨by simp, fun _ => by simp⟩
  | mark a firstDeadline =>
    simp only [taskStep, markStep]
    split
    · next unreserved =>
      have sessionless : a = none := (informed.blank unreserved).2 _ mem
      exact ⟨⟨fun _ => rfl, by simp⟩, sessionless⟩
    · split
      · trivial
      · split <;> trivial
  | check waiter seen =>
    simp only [taskStep, checkStep]
    split
    · split <;> trivial
    · trivial
  | pastDeadline | parked | awaitChild =>
    simp only [taskStep, goes]
    split <;> trivial
  | supervise a marked =>
    simp only [taskStep, goes]
    split <;> trivial
  | takeChild locals seen =>
    simp only [taskStep, takeChildStep]
    split
    · rintro _ ⟨⟩
    · next r found =>
      split
      · trivial
      · next matching =>
        split
        · trivial
        · exact fun p child => informed.attachedFor found (by simpa using matching) child
  | childDeadline locals child seen =>
    simp only [taskStep, goes]
    split
    · exact reports
    · trivial
  | registerAck => exact reports
  | checkAck locals shutdown seen =>
    simp only [taskStep, goes]
    split
    · exact ⟨reports, trivial⟩
    · split
      · exact ⟨reports, trivial⟩
      · exact reports
  | ackDeadline locals shutdown seen =>
    simp only [taskStep, goes]
    split
    · exact ⟨reports, trivial⟩
    · exact reports
  | awaitAck =>
    simp only [taskStep, goes]
    split <;> exact reports
  | finalizeRead finalizer shutdown acknowledged =>
    exact ⟨reports.2, informed.succeeds reports.1 conclusive⟩
  | finalizeWrite finalizer shutdown stopError =>
    obtain ⟨sound, succeeds⟩ := reports
    have none_ : stopResultOf stopError = .ok () → stopError = none := by
      cases stopError with
      | none => exact fun _ => rfl
      | some => rintro ⟨⟩
    cases finalizer with
    | supervisor => exact fun ok => succeeds (none_ ok)
    | stdoutEnd => exact fun ok => (succeeds (none_ ok)).proven sound _ rfl
    | stopCall => trivial

/-- A process that is held and has exited has not been killed. -/
theorem Informed.look (informed : Informed x) {child : Nat}
    (mem : (⟨.tryWait owner child, none⟩ : Thread) ∈ x.threads) :
    (taskStep c x.shared (.tryWait owner child)).task.Reports
      (taskStep c x.shared (.tryWait owner child)).shared := by
  have attached : AttachedFor x.shared owner.session child := informed.reports _ mem
  have open_ := informed.guarded.unsettled mem
    (show Task.child (.tryWait owner child) = some child from rfl)
  simp only [taskStep]
  split
  · exact attached
  · next exitStatus ended =>
    obtain ⟨bridge, found, exited⟩ := Option.bind_eq_some_iff.mp ended
    have unkilled : bridge.killed = false := by
      simp only [ComputeNodeState.unsettled, found, Option.any_some, Bool.and_eq_true,
        Bool.not_eq_true'] at open_
      exact open_.2
    refine Owner.after_reports ⟨by simp, fun _ _ => ⟨child, exitStatus, rfl, ?_, attached⟩⟩
    exact ⟨{ bridge with observed := true }, by simp [goes, found], exited, rfl, unkilled⟩

theorem Informed.run (informed : Informed x) (at_ : x.threads[i]? = some t)
    (conclusive : Conclusive (.run i c) x) :
    Informed ⟨(threadStep c x.shared t).shared, x.threadsAfter i (threadStep c x.shared t)⟩ := by
  have mem := List.mem_of_getElem? at_
  have persists := informed.persists mem c
  have step : operatorStep (.run i c) x = _ := operatorStep_run c at_
  refine ⟨?_, informed.guarded.run informed.coherent at_ c,
    informed.attachments.run informed.coherent at_ c, informed.evident.run informed.coherent at_ c,
    informed.blank.run at_ c, ?_⟩
  · rw [← step]
    exact operatorStep_coherent _ _ informed.coherent
  · intro t' mem'
    obtain ⟨j, after⟩ := List.mem_iff_getElem?.mp mem'
    obtain ⟨-, rfl⟩ | ⟨_, old⟩ | ⟨task, started, rfl, -⟩ := threadsAfter_elim after
    · obtain ⟨task, notifying⟩ := t
      cases notifying with
      | some notify =>
        have reports : task.Reports x.shared := informed.reports _ mem
        exact persists.reports reports
      | none =>
        by_cases looks : ∃ owner child, task = .tryWait owner child
        · obtain ⟨owner, child, rfl⟩ := looks
          exact informed.look mem
        · refine persists.reports (informed.own mem (conclusive_task conclusive at_) ?_)
          exact fun owner child same => looks ⟨owner, child, same⟩
    · exact persists.reports (informed.reports t' (List.mem_of_getElem? old))
    · obtain ⟨_, _, rfl⟩ := (threadStep_effect c x.shared t).started_eq started
      trivial

theorem exit_persists (bridge : Nat) (exitStatus : ExitStatus) :
    Persists x.shared (operatorStep (.exit bridge exitStatus) x).shared := by
  refine ⟨fun _ => id, fun _ => id, fun p status exited => exited_modify exited ?_⟩
  intro _ bridge ended observed unkilled
  exact ⟨by simp [BridgeProcess.exits, ended], observed, unkilled⟩

theorem operatorStep_informed (ev : OperatorEvent) (conclusive : Conclusive ev x)
    (informed : Informed x) : Informed (operatorStep ev x) := by
  have called : ∀ task : Task, task.stage = none → task.child = none → task.Prior →
      task.Reports x.shared →
      Informed { x with threads := x.threads ++ [⟨task, none⟩] } := by
    intro task stage free prior reports
    refine ⟨informed.coherent.call stage, informed.guarded.call free,
      informed.attachments.call stage, informed.evident.call stage, informed.blank.call prior,
      fun t mem => ?_⟩
    obtain mem | mem := List.mem_append.mp mem
    · exact informed.reports t mem
    · rw [List.mem_singleton.mp mem]
      exact reports
  have waited : ∀ ev, (operatorStep ev x).threads = x.threads →
      Persists x.shared (operatorStep ev x).shared → Informed (operatorStep ev x) := by
    intro ev same persists
    refine ⟨operatorStep_coherent ev x informed.coherent,
      operatorStep_guarded ev x informed.coherent informed.guarded,
      operatorStep_attachments ev x informed.coherent informed.attachments,
      operatorStep_evident ev x informed.coherent informed.evident,
      operatorStep_blank ev informed.blank, fun t mem => ?_⟩
    rw [same] at mem
    exact persists.reports (informed.reports t mem)
  cases ev with
  | start | stop => exact called _ rfl rfl trivial trivial
  | run i c =>
    cases at_ : x.threads[i]? with
    | none => rwa [operatorStep_run_none c at_]
    | some t =>
      rw [operatorStep_run c at_]
      exact informed.run at_ conclusive
  | exit bridge exitStatus => exact waited _ rfl (exit_persists bridge exitStatus)
  | tick elapsed => exact waited _ rfl ⟨fun _ => id, fun _ => id, fun _ _ => id⟩

/-! ## Successes -/

theorem Attachments.truthful (attachments : Attachments x) (proven : Proven x.shared session) :
    x.shared.Truthful session := by
  obtain ⟨evidence, p, exitStatus, attached, exited, success⟩ := proven
  intro q attached'
  obtain rfl := attachments.once session p q attached attached'
  exact ⟨evidence, exitStatus, exited, success⟩

theorem Persists.truthful (persists : Persists s s')
    (same : ∀ p, (session, p) ∈ s'.attachments → (session, p) ∈ s.attachments)
    (truthful : s.Truthful session) : s'.Truthful session := by
  intro p attached
  obtain ⟨evidence, exitStatus, exited, success⟩ := truthful p (same p attached)
  exact ⟨persists.evidence _ evidence, exitStatus, persists.exited _ _ exited, success⟩

/-- A success is stored for a session that has had no child or has ended well. -/
theorem Informed.decides (informed : Informed x) (mem : (⟨task, none⟩ : Thread) ∈ x.threads)
    (conclusive : task.Conclusive c x.shared) (here : task.Decides (.ok ()))
    (found : x.shared.bridgeProcess = some r) (owned : task.DecidesFor r) :
    x.shared.Truthful r.sessionId := by
  have reports := informed.reports _ mem
  generalize success : (.ok () : StopResult) = result at here
  cases here with
  | startupFailed a lastError failure =>
    have same : r.sessionId = a := owned
    intro p attached
    exact nomatch informed.attachments.late _ p attached _ mem .starting (by rw [same]; rfl)
  | spawnedFailed => cases success
  | commitEnd locals shutdown =>
    have same : r.sessionId = locals.session := owned
    rw [same]
    exact informed.attachments.truthful (reports success.symm)
  | commitStop locals shutdown =>
    cases had : shutdown.hadChild with
    | false =>
      intro p attached
      exact absurd rfl ((conclusive r found owned).2 success.symm had _ attached)
    | true =>
      have succeeds := reports success.symm
      cases named : locals.session with
      | none =>
        rw [succeeds.childless named] at had
        cases had
      | some a =>
        have same : r.sessionId = a :=
          (informed.coherent.matchesSession_iff found a).mp (named ▸ owned)
        rw [same]
        exact informed.attachments.truthful (succeeds.proven had a named)

theorem Informed.truthful_run (informed : Informed x) (mem : t ∈ x.threads) (c : Choice)
    (ended : Over x session) (truthful : x.shared.Truthful session) :
    (threadStep c x.shared t).shared.Truthful session := by
  refine (informed.persists mem c).truthful (fun p attached => ?_) truthful
  obtain same | ⟨r, a, child, _, found, owned, pending, added, _⟩ :=
    ((threadStep_effect c x.shared t).attached informed.attachments.held).2
  · rwa [same] at attached
  · rw [added] at attached
    obtain old | new := List.mem_append.mp attached
    · exact old
    · cases List.mem_singleton.mp new
      have completed := (informed.coherent.sound r found).decided.mp (ended.decided r found owned)
      obtain starting | stopping := pending
      · rw [starting] at completed
        cases completed
      · rw [stopping] at completed
        cases completed

theorem Owner.after_ne_returned {result : StopResult} :
    .returned waiter stopSession result ≠ owner.after shutdown := by
  cases owner with
  | supervisor =>
    simp only [Owner.after]
    split <;> simp
  | _ => rintro ⟨⟩

/-- A stop returns a success that it finds in the record of the session, that it has returned
before, or that it has found without a record. -/
theorem taskStep_returned
    (returned : (taskStep c s task).task = .returned waiter (some session) (.ok ())) :
    (∃ r, s.bridgeProcess = some r ∧ r.sessionId = session ∧ r.stopResult = some (.ok ())) ∨
      task = .returned waiter (some session) (.ok ()) ∨
      ∃ shutdown stopError, task = .finalizeWrite (.stopCall (some session)) shutdown stopError := by
  have leads := taskStep_leads c s task
  rw [returned] at leads
  generalize target : Task.returned waiter (some session) (.ok ()) = next at leads
  cases leads with
  | unmarked a session' firstDeadline result =>
    cases target
    simp only [taskStep, markStep] at returned
    split at returned
    · cases returned
    · next r found =>
      split at returned
      · cases returned
      · split at returned
        · next result decided =>
          cases returned
          exact .inl ⟨r, found, rfl, decided⟩
        · cases returned
  | answered waiter seen session' result =>
    cases target
    simp only [taskStep, checkStep] at returned
    split at returned
    · next r filtered =>
      obtain ⟨found, _⟩ := Option.filter_eq_some_iff.mp filtered
      split at returned
      · next result decided =>
        cases returned
        exact .inl ⟨r, found, rfl, decided⟩
      · cases returned
    · cases returned
  | late waiter seen session' result =>
    cases target
    simp only [taskStep, goes] at returned
    split at returned
    · simp at returned
    · cases returned
  | returned =>
    cases target
    exact .inr (.inl rfl)
  | replaced a result | completed a result => cases result <;> cases target
  | childless | observed | killed => exact absurd target Owner.after_ne_returned
  | finalized finalizer shutdown stopError =>
    cases finalizer with
    | stopCall stopSession =>
      simp only [Finalizer.after, Task.returned.injEq] at target
      obtain ⟨_, rfl, _⟩ := target
      exact .inr (.inr ⟨shutdown, stopError, rfl⟩)
    | supervisor | stdoutEnd => cases target
  | _ => cases target

/-! ## Every run -/

/-- Every success that was stored or returned is a true one. -/
structure TruthfulStops (x : OperatorSystem) : Prop where
  stored : ∀ r, x.shared.bridgeProcess = some r → r.stopResult = some (.ok ()) →
    x.shared.Truthful r.sessionId
  returned : ∀ t ∈ x.threads, ∀ waiter session,
    t.task = .returned waiter (some session) (.ok ()) → x.shared.Truthful session

/-- What holds between any two steps. -/
structure Vouched (x : OperatorSystem) : Prop where
  informed : Informed x
  rests : Rests x
  stored : ∀ r, x.shared.bridgeProcess = some r → r.stopResult = some (.ok ()) →
    x.shared.Truthful r.sessionId
  returned : ∀ t ∈ x.threads, ∀ waiter session,
    t.task = .returned waiter (some session) (.ok ()) → Over x session ∧ x.shared.Truthful session

theorem newOperator_vouched : Vouched newOperator :=
  ⟨newOperator_informed, newOperator_rests, by simp [newOperator], by simp [newOperator]⟩

theorem Vouched.found (vouched : Vouched x) (found : x.shared.bridgeProcess = some r)
    (success : r.stopResult = some (.ok ())) : Over x r.sessionId ∧ x.shared.Truthful r.sessionId :=
  ⟨vouched.informed.coherent.over_ found (Option.isSome_iff_exists.mpr ⟨_, success⟩),
    vouched.stored r found success⟩

theorem Vouched.run_stored (vouched : Vouched x) (at_ : x.threads[i]? = some t)
    (conclusive : Conclusive (.run i c) x)
    (after : (threadStep c x.shared t).shared.bridgeProcess = some r')
    (success : r'.stopResult = some (.ok ())) :
    (threadStep c x.shared t).shared.Truthful r'.sessionId := by
  have mem := List.mem_of_getElem? at_
  have effect := threadStep_effect c x.shared t
  obtain ⟨r, found, same, before⟩ | ⟨r, found, same, here, owned⟩ :=
    effect.decided_by after success
  · rw [← same]
    obtain ⟨ended, truthful⟩ := vouched.found found before
    exact vouched.informed.truthful_run mem c ended truthful
  · obtain ⟨task, notifying⟩ := t
    cases notifying with
    | some notify => exact vouched.stored r' after success
    | none =>
      rw [← same]
      have truthful := vouched.informed.decides mem (conclusive_task conclusive at_) here found owned
      refine (vouched.informed.persists mem c).truthful (fun p attached => ?_) truthful
      obtain kept | ⟨_, _, _, attaches, _⟩ :=
        (effect.attached vouched.informed.attachments.held).2
      · rwa [kept] at attached
      · rw [attaches] at here
        cases here

theorem Vouched.run (vouched : Vouched x) (at_ : x.threads[i]? = some t)
    (conclusive : Conclusive (.run i c) x) :
    Vouched ⟨(threadStep c x.shared t).shared, x.threadsAfter i (threadStep c x.shared t)⟩ := by
  have mem := List.mem_of_getElem? at_
  have informed := vouched.informed
  have kept : ∀ session, Over x session ∧ x.shared.Truthful session →
      Over ⟨(threadStep c x.shared t).shared, x.threadsAfter i (threadStep c x.shared t)⟩ session ∧
        (threadStep c x.shared t).shared.Truthful session :=
    fun session known => ⟨known.1.run at_ c, informed.truthful_run mem c known.1 known.2⟩
  refine ⟨informed.run at_ conclusive, ?_, fun r' after success =>
    vouched.run_stored at_ conclusive after success, ?_⟩
  · rw [← operatorStep_run c at_]
    exact operatorStep_rests _ x informed.coherent conclusive vouched.rests
  · intro t' mem' waiter session returned
    refine kept session ?_
    obtain ⟨j, after⟩ := List.mem_iff_getElem?.mp mem'
    obtain ⟨-, rfl⟩ | ⟨_, old⟩ | ⟨task, started, rfl, -⟩ := threadsAfter_elim after
    · obtain ⟨task, notifying⟩ := t
      cases notifying with
      | some notify => exact vouched.returned _ mem waiter session returned
      | none =>
        obtain ⟨r, found, rfl, success⟩ | rfl | ⟨shutdown, stopError, rfl⟩ :=
          taskStep_returned returned
        · exact vouched.found found success
        · exact vouched.returned _ mem waiter session rfl
        · exact nomatch (informed.reports _ mem).1
    · exact vouched.returned t' (List.mem_of_getElem? old) waiter session returned
    · obtain ⟨_, _, rfl⟩ := (threadStep_effect c x.shared t).started_eq started
      cases returned

theorem operatorStep_vouched (ev : OperatorEvent) (x : OperatorSystem)
    (conclusive : Conclusive ev x) (vouched : Vouched x) : Vouched (operatorStep ev x) := by
  have informed := operatorStep_informed ev conclusive vouched.informed
  have rests := operatorStep_rests ev x vouched.informed.coherent conclusive vouched.rests
  have waited : (operatorStep ev x).shared.bridgeProcess = x.shared.bridgeProcess →
      (∀ session, x.shared.Truthful session → (operatorStep ev x).shared.Truthful session) →
      (∀ t ∈ (operatorStep ev x).threads, t ∈ x.threads ∨
        ∀ waiter session result, t.task ≠ .returned waiter session result) →
      Vouched (operatorStep ev x) := by
    intro record truthful threads
    refine ⟨informed, rests, fun r found success => ?_, fun t mem waiter session returned => ?_⟩
    · rw [record] at found
      exact truthful _ (vouched.stored r found success)
    · obtain old | new := threads t mem
      · obtain ⟨ended, known⟩ := vouched.returned t old waiter session returned
        exact ⟨operatorStep_over ev ended, truthful session known⟩
      · exact absurd returned (new _ _ _)
  cases ev with
  | start | stop =>
    refine waited rfl (fun _ => id) fun t mem => ?_
    obtain old | new := List.mem_append.mp mem
    · exact .inl old
    · rw [List.mem_singleton.mp new]
      exact .inr nofun
  | run i c =>
    cases at_ : x.threads[i]? with
    | none => rwa [operatorStep_run_none c at_]
    | some t =>
      rw [operatorStep_run c at_]
      exact vouched.run at_ conclusive
  | exit bridge exitStatus =>
    exact waited rfl (fun _ => (exit_persists bridge exitStatus).truthful fun _ => id)
      fun _ => .inl
  | tick elapsed => exact waited rfl (fun _ => id) fun _ => .inl

/-- In a run of conclusive steps, a stop returns success for a session, and a record has it as
its result, only if no child was attached for the session or the child has exited by itself
with success and the session has acknowledged its stop with coherent evidence. From the moment
a record has a result, the status does not show its session as running or registered. -/
theorem successful_stop_truthful (evs : List OperatorEvent)
    (conclusive : Along operatorStep Conclusive evs newOperator) :
    TruthfulStops (runs operatorStep evs newOperator) ∧
      ∀ n r, (runs operatorStep (evs.take n) newOperator).shared.bridgeProcess = some r →
        r.stopResult.isSome → (runs operatorStep evs newOperator).shared.Calm r.sessionId := by
  have vouched := along_runs operatorStep_vouched conclusive newOperator_vouched
  refine ⟨⟨vouched.stored, fun t mem waiter session returned =>
    (vouched.returned t mem waiter session returned).2⟩, fun n r found decided => ?_⟩
  have before := along_runs operatorStep_vouched (conclusive.take n) newOperator_vouched
  have coherent := before.informed.coherent
  rw [← runs_take_drop evs newOperator n]
  exact (coherent.over_ found decided).calm_runs (conclusive.drop n) coherent
    (before.rests r found decided)

/-- The first event of a bridge. -/
def startedPayload : Payload :=
  { Payload.empty with
    type := some "started"
    sequence := some 1
    running := some true
    registered := some true }

/-- The last event of a bridge that was registered at one relay. -/
def stoppedPayload : Payload :=
  { Payload.empty with
    type := some "stopped"
    sequence := some 2
    running := some false
    registered := some false
    unregisterRequired := some (some true)
    unregisterAttempted := some (some true)
    unregisterOutcome := some (some "complete")
    unregisterSuccessCount := some (some 1)
    unregisterFailureCount := some (some 0) }

/-- The start task reads an event. -/
def reads (payload : Payload) : OperatorEvent :=
  .run 0 ⟨.spawned, .event payload, none⟩

/-- A session that is started, stopped, and left by its bridge as it should be. -/
def cleanStop : List OperatorEvent :=
  [.start] ++ turns 0 6 ++ [reads startedPayload, .stop] ++ turns 1 3 ++ turns 2 6 ++
    [reads stoppedPayload, .exit 0 (.code 0)] ++ turns 0 1 ++ turns 2 7 ++ turns 1 2

theorem successful_stop_truthful_sample :
    Along operatorStep Conclusive cleanStop newOperator ∧
      TruthfulStops (runs operatorStep cleanStop newOperator) := by
  have conclusive : Along operatorStep Conclusive cleanStop newOperator := by decide +kernel
  exact ⟨conclusive, (successful_stop_truthful cleanStop conclusive).1⟩

/-- The supervisor of a stop has looked in vain for the child until the deadline, and the
child is attached before the result is stored. -/
def missedChild : List OperatorEvent :=
  [.start] ++ turns 0 4 ++ [.stop] ++ turns 1 3 ++ [.tick 12000] ++ turns 2 7 ++ turns 0 1 ++
    turns 2 2 ++ turns 1 2

/-- The bridge is killed at the deadline, and its first event is read after that. -/
def lateOutput : List OperatorEvent :=
  [.start] ++ turns 0 6 ++ [.stop] ++ turns 1 3 ++ turns 2 6 ++ [.tick 12000] ++ turns 2 6 ++
    [reads startedPayload]

/-- A stop succeeds while the bridge of its session runs, and a session that has been stopped
is shown as running and registered again. -/
theorem successful_stop_untrue :
    ¬ TruthfulStops (runs operatorStep missedChild newOperator) ∧
      ∃ n r, (runs operatorStep (lateOutput.take n) newOperator).shared.bridgeProcess = some r ∧
        r.stopResult.isSome ∧
        ¬ (runs operatorStep lateOutput newOperator).shared.Calm r.sessionId := by
  constructor
  · intro truthful
    have returned : (⟨.returned (some ⟨some "1", 1, 12000⟩) (some "1") (.ok ()), none⟩ : Thread) ∈
        (runs operatorStep missedChild newOperator).threads := by decide +kernel
    have attached : ("1", 0) ∈ (runs operatorStep missedChild newOperator).shared.attachments := by
      decide +kernel
    have unacknowledged : "1" ∉ (runs operatorStep missedChild newOperator).shared.evidence := by
      decide +kernel
    exact unacknowledged (truthful.returned _ returned _ _ rfl 0 attached).1
  · have shown : ((runs operatorStep (lateOutput.take 24) newOperator).shared.bridgeProcess.any
        fun r => r.stopResult.isSome &&
          !decide ((runs operatorStep lateOutput newOperator).shared.Calm r.sessionId)) = true := by
      decide +kernel
    obtain ⟨r, found, decided⟩ := (Option.any_eq_true _ _).mp shown
    rw [Bool.and_eq_true, Bool.not_eq_true', decide_eq_false_iff_not] at decided
    exact ⟨24, r, found, decided.1, decided.2⟩

end Operator
