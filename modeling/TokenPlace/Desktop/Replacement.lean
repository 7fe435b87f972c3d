import TokenPlace.Lib.Schedules
import TokenPlace.Desktop.Workers

/-!
# Tasks of a replaced session

Once a session has been reserved, the tasks of the earlier ones leave its record, the
published status and the acknowledgement alone: each of them compares its session with
that of the record or of the status before it writes.

Three steps do not, and `Fenced` excludes them. A `started` event with the sequence
number 1 is taken from any session while the status is not running. The command that
started a session publishes the error of the start without a look at the session. A
supervisor whose stop began before the first session has no session to compare.
-/

namespace Operator

open Schedules

variable {c : Choice} {s s' : ComputeNodeState} {x : OperatorSystem} {task : Task} {o : Outcome}
  {r r' : BridgeProcessRecord} {t : Thread}

/-! ## Statement -/

/-- The session of a task of `stop_compute_node`. -/
def Task.stopSession : Task → Option String
  | .readDeadline session | .mark session _ => session
  | .register waiter | .check waiter _ | .pastDeadline waiter _ | .parked waiter _ => waiter.session
  | .finalizeRead (.stopCall session) _ _ | .finalizeWrite (.stopCall session) _ _ => session
  | _ => none

/-- The task belongs to a session that was reserved before that of the record. -/
inductive Task.Stale (r : BridgeProcessRecord) (task : Task) : Prop
  | start {session : String} {stage : Stage} (at_ : task.stage = some (session, stage))
      (reserved : stage ≠ .reserving) (other : session ≠ r.sessionId)
  | supervisor {session : Option String} {marked : Nat}
      (at_ : task.marked = some (session, marked)) (other : marked ≠ r.notify)
  | stopCall {session : String} (at_ : task.stopSession = some session)
      (other : session ≠ r.sessionId)

/-- A step of a stale task changes neither the record nor the status nor the
acknowledgement. -/
def Untouched : OperatorEvent → OperatorSystem → Prop
  | .run i c, x => ∀ t r, x.threads[i]? = some t → x.shared.bridgeProcess = some r →
      t.task.Stale r →
      (operatorStep (.run i c) x).shared.bridgeProcess = x.shared.bridgeProcess ∧
        (operatorStep (.run i c) x).shared.status = x.shared.status ∧
        (operatorStep (.run i c) x).shared.stoppedEventAckSessionId =
          x.shared.stoppedEventAckSessionId
  | _, _ => True

/-- The published session is that of the record. -/
def Published (x : OperatorSystem) : Prop :=
  ∀ r, x.shared.bridgeProcess = some r → x.shared.status.operatorSessionId = some r.sessionId

/-- The step of a task is none of the three that look at no session. -/
def Task.Admitted (c : Choice) (status : ComputeNodeStatus) (r : BridgeProcessRecord) :
    Task → Prop
  | .readStdout session _ _ =>
    match c.line with
    | .event payload => session = r.sessionId ∨
        isFreshStartEvent status { payload with operatorSessionId := some session } = false
    | _ => True
  | .report (some session) _ => session = r.sessionId
  | .takeChild locals _ | .commitStop locals _ _ | .finalizeWrite (.supervisor locals) _ _ =>
    locals.session = none → locals.marked = r.notify
  | _ => True

instance (c : Choice) (status : ComputeNodeStatus) (r : BridgeProcessRecord) (task : Task) :
    Decidable (task.Admitted c status r) := by
  unfold Task.Admitted
  split
  · split <;> infer_instance
  all_goals infer_instance

/-- No stale session makes a fresh start, reports an error, or is stopped by a
supervisor without a session. -/
def Fenced : OperatorEvent → OperatorSystem → Prop
  | .run i c, x =>
    match x.threads[i]? with
    | some ⟨task, none⟩ => ∀ r ∈ x.shared.bridgeProcess, task.Admitted c x.shared.status r
    | _ => True
  | _, _ => True

instance (ev : OperatorEvent) (x : OperatorSystem) : Decidable (Fenced ev x) := by
  unfold Fenced
  induction ev using OperatorEvent.casesOn with
  | run i c =>
    dsimp only
    exact match x.threads[i]? with
      | some ⟨_, none⟩ => by dsimp only; infer_instance
      | some ⟨_, some _⟩ | none => isTrue trivial
  | _ => exact isTrue trivial

/-! ## Events of another session -/

variable {payload : Payload} {session : String} {marked : Nat}

theorem updateStatusFromEvent_other {status : ComputeNodeStatus}
    {session current : String} (event : payload.operatorSessionId = some session)
    (published : status.operatorSessionId = some current) (other : session ≠ current)
    (stale : isFreshStartEvent status payload = false) :
    updateStatusFromEvent status payload = none := by
  have rejected : acceptsEvent status payload = false := by
    simp [acceptsEvent, event, published, stale, Ne.symm other]
  simp [updateStatusFromEvent, rejected]

theorem updateStatusFromEvent_session {status status' : ComputeNodeStatus}
    (event : payload.operatorSessionId = some session)
    (accepted : updateStatusFromEvent status payload = some status') :
    status'.operatorSessionId = some session := by
  unfold updateStatusFromEvent at accepted
  split at accepted
  · cases accepted
    simp [takeIdentity, event]
  · cases accepted

theorem applyEvent_none (rejected : updateStatusFromEvent s.status payload = none) :
    applyEvent s payload = none := by
  simp [applyEvent, rejected]

theorem applyEvent_status {acknowledges : Bool}
    (applied : applyEvent s payload = some (s', acknowledges)) :
    updateStatusFromEvent s.status payload = some s'.status := by
  unfold applyEvent at applied
  split at applied
  · cases applied
  · next status accepted =>
    split at applied <;> cases applied <;> exact accepted

/-! ## A stale task -/

theorem Task.Stale.of_start {stage : Stage} (stale : task.Stale r)
    (at_ : task.stage = some (session, stage)) (marked : task.marked = none)
    (calls : task.stopSession = none) : stage ≠ .reserving ∧ session ≠ r.sessionId := by
  cases stale with
  | start at' reserved other =>
    rw [at_] at at'
    cases at'
    exact ⟨reserved, other⟩
  | supervisor at' =>
    rw [marked] at at'
    cases at'
  | stopCall at' =>
    rw [calls] at at'
    cases at'

theorem Task.Stale.of_supervisor {session : Option String} (stale : task.Stale r)
    (at_ : task.marked = some (session, marked)) (starts : task.stage = none)
    (calls : task.stopSession = none) : marked ≠ r.notify := by
  cases stale with
  | start at' =>
    rw [starts] at at'
    cases at'
  | supervisor at' other =>
    rw [at_] at at'
    cases at'
    exact other
  | stopCall at' =>
    rw [calls] at at'
    cases at'

theorem Task.Stale.of_stopCall (stale : task.Stale r) (starts : task.stage = none)
    (marked : task.marked = none) :
    ∃ session, task.stopSession = some session ∧ session ≠ r.sessionId := by
  cases stale with
  | start at' =>
    rw [starts] at at'
    cases at'
  | supervisor at' =>
    rw [marked] at at'
    cases at'
  | stopCall at' other => exact ⟨_, at', other⟩

theorem Roles.other_session (roles : Roles x) (found : x.shared.bridgeProcess = some r)
    (mem : (⟨task, none⟩ : Thread) ∈ x.threads) {session : Option String}
    (at_ : task.marked = some (session, marked)) (other : marked ≠ r.notify) :
    ∀ a, session = some a → a ≠ r.sessionId :=
  fun a eq same => other
    ((roles.anchored _ mem _ (Task.role_of_marked at_)).named a eq r found same.symm).symm

theorem Roles.unmatched (roles : Roles x) (coherent : Coherent x)
    (found : x.shared.bridgeProcess = some r) (mem : (⟨task, none⟩ : Thread) ∈ x.threads)
    {session : Option String} (at_ : task.marked = some (session, marked))
    (other : marked ≠ r.notify) (admitted : session = none → marked = r.notify) :
    ¬ r.matchesSession session := by
  cases session with
  | none => exact absurd (admitted rfl) other
  | some a =>
    intro matching
    have owned := (coherent.matchesSession_iff found a).mp matching
    exact roles.other_session found mem at_ other a rfl owned.symm

theorem recordOf_other (found : s.bridgeProcess = some r)
    (other : session ≠ r.sessionId) : s.recordOf session = none := by
  simp [ComputeNodeState.recordOf, found, Option.filter, Ne.symm other]

theorem Task.Stale.record (stale : task.Stale r) (coherent : Coherent x) (roles : Roles x)
    (found : x.shared.bridgeProcess = some r) (mem : (⟨task, none⟩ : Thread) ∈ x.threads)
    (admitted : task.Admitted c x.shared.status r) :
    (taskStep c x.shared task).shared.bridgeProcess = x.shared.bridgeProcess := by
  have effect := taskStep_effect c x.shared task
  generalize taskStep c x.shared task = o at effect ⊢
  have current : ∀ {r'}, x.shared.bridgeProcess = some r' → r' = r := by
    intro r' found'
    rw [found] at found'
    exact (Option.some.inj found').symm
  cases effect with
  | keeps record => exact record
  | numbers _ out =>
    subst out
    rfl
  | reserves here =>
    subst here
    exact absurd rfl (stale.of_start rfl rfl rfl).1
  | attaches here found' owned | claims here found' owned | completes here found' owned =>
    subst here
    rw [current found'] at owned
    exact absurd owned.symm (stale.of_start rfl rfl rfl).2
  | takes here found' matching =>
    subst here
    rw [current found'] at matching
    have other := stale.of_supervisor rfl rfl rfl
    exact absurd matching (roles.unmatched coherent found mem rfl other admitted)
  | @marks _ session _ here found' matching =>
    subst here
    obtain ⟨a, at_, other⟩ := stale.of_stopCall rfl rfl
    have same : session = some a := at_
    rw [current found', same] at matching
    exact absurd ((coherent.matchesSession_iff found a).mp matching).symm other
  | decides here found' owned =>
    rw [current found'] at owned
    cases here with
    | startupFailed | spawnedFailed | commitEnd =>
      exact absurd (Eq.symm owned) (stale.of_start rfl rfl rfl).2
    | commitStop =>
      have other := stale.of_supervisor rfl rfl rfl
      exact absurd owned (roles.unmatched coherent found mem rfl other admitted)

theorem finalizedStatus_other {status : ComputeNodeStatus} {session current : String}
    (published : status.operatorSessionId = some current) (other : session ≠ current)
    (hadChild : Bool) (stopError : Option String) :
    finalizedStatus status (some session) hadChild stopError = status := by
  simp [finalizedStatus, published, other]

theorem readEvent_rejected {startup error : Bool}
    (published : s.status.operatorSessionId = some r.sessionId) (other : session ≠ r.sessionId)
    (admitted : (Task.readStdout session startup error).Admitted c s.status r)
    (line : c.line = .event payload) :
    applyEvent s { payload with operatorSessionId := some session } = none := by
  simp only [Task.Admitted, line] at admitted
  exact applyEvent_none
    (updateStatusFromEvent_other rfl published other (admitted.resolve_left other))

theorem Task.Stale.status (stale : task.Stale r) (roles : Roles x)
    (found : x.shared.bridgeProcess = some r)
    (published : x.shared.status.operatorSessionId = some r.sessionId)
    (mem : (⟨task, none⟩ : Thread) ∈ x.threads) (admitted : task.Admitted c x.shared.status r) :
    (taskStep c x.shared task).shared.status = x.shared.status := by
  have frame := taskStep_frame c x.shared task
  cases task with
  | reserve session => exact absurd rfl (stale.of_start rfl rfl rfl).1
  | startupFailed session lastError failure =>
    have other := (stale.of_start rfl rfl rfl).2
    simp [taskStep, notifies, completeNoChild, published, Ne.symm other, recordOf_other found other]
  | spawnedFailed session shutdown failure =>
    have other := (stale.of_start rfl rfl rfl).2
    simp [taskStep, notifies, completeSpawned, published, Ne.symm other, recordOf_other found other]
  | publish session =>
    have other := (stale.of_start rfl rfl rfl).2
    simp [taskStep, goes, publishRunning, recordOf_other found other]
  | readStdout session startup error =>
    have other := (stale.of_start rfl rfl rfl).2
    simp only [taskStep, readStep]
    cases line : c.line with
    | unparsed | terminal => rfl
    | event payload =>
      simp only [readEvent_rejected published other admitted line]
      rfl
  | report session error =>
    cases session with
    | none => exact absurd (stale.of_stopCall rfl rfl) (by rintro ⟨_, at_, _⟩; cases at_)
    | some session => exact absurd admitted (stale.of_start rfl rfl rfl).2
  | bridgeExit stdoutEnd shutdown exitStatus cleanupAcknowledged =>
    have other := (stale.of_start rfl rfl rfl).2
    simp [taskStep, bridgeExitStep, goes, finalizeBridgeExit, published, Ne.symm other]
  | finalizeWrite finalizer shutdown stopError =>
    simp only [taskStep, goes]
    cases finalizer with
    | stdoutEnd locals =>
      exact finalizedStatus_other published (stale.of_start rfl rfl rfl).2 _ _
    | supervisor locals =>
      have other := stale.of_supervisor rfl rfl rfl
      simp only [Finalizer.session]
      cases session : locals.session with
      | none => exact absurd (admitted session) other
      | some a =>
        exact finalizedStatus_other published
          (roles.other_session found mem rfl other a session) _ _
    | stopCall session =>
      obtain ⟨a, at_, other⟩ := stale.of_stopCall rfl rfl
      cases at_
      exact finalizedStatus_other published other _ _
  | _ => exact frame.status rfl

theorem Task.Stale.ack (stale : task.Stale r)
    (published : s.status.operatorSessionId = some r.sessionId)
    (admitted : task.Admitted c s.status r) :
    (taskStep c s task).shared.stoppedEventAckSessionId = s.stoppedEventAckSessionId := by
  have frame := taskStep_frame c s task
  cases task with
  | reserve session => exact absurd rfl (stale.of_start rfl rfl rfl).1
  | readStdout session startup error =>
    have other := (stale.of_start rfl rfl rfl).2
    simp only [taskStep, readStep]
    cases line : c.line with
    | unparsed | terminal => rfl
    | event payload =>
      simp only [readEvent_rejected published other admitted line]
      rfl
  | _ => exact frame.ack rfl

/-! ## The published session -/

theorem finalizedStatus_session (status : ComputeNodeStatus) (session : Option String)
    (hadChild : Bool) (stopError : Option String) :
    (finalizedStatus status session hadChild stopError).operatorSessionId =
      status.operatorSessionId := by
  simp only [finalizedStatus, apply_ite ComputeNodeStatus.operatorSessionId, ite_self]

theorem reserve_published
    (published : ∀ r, s.bridgeProcess = some r → s.status.operatorSessionId = some r.sessionId)
    (after : (taskStep c s (.reserve session)).shared.bridgeProcess = some r) :
    (taskStep c s (.reserve session)).shared.status.operatorSessionId = some r.sessionId := by
  simp only [taskStep, reserveStarting] at after ⊢
  cases free : s.bridgeProcess.any BridgeProcessRecord.isActive with
  | true =>
    simp only [free, if_true] at after ⊢
    exact published r after
  | false =>
    simp only [free] at after ⊢
    cases after
    rfl

theorem taskStep_published (published : s.status.operatorSessionId = some r.sessionId)
    (admitted : task.Admitted c s.status r) (reserves : ∀ session, task ≠ .reserve session) :
    (taskStep c s task).shared.status.operatorSessionId = some r.sessionId := by
  have frame := taskStep_frame c s task
  cases task with
  | reserve session => exact absurd rfl (reserves session)
  | startupFailed session lastError failure =>
    simp only [taskStep, notifies, completeNoChild]
    split <;> split <;> simp_all [decideRecord, startupFailureStatus]
  | spawnedFailed session shutdown failure =>
    simp only [taskStep, notifies, completeSpawned]
    split <;> split <;> simp_all [decideRecord, spawnedFailureStatus]
  | publish session =>
    simp only [taskStep, goes, publishRunning]
    split
    · next still =>
      rw [published] at still
      exact still.2.symm ▸ rfl
    · exact published
  | readStdout session startup error =>
    simp only [taskStep, readStep]
    cases line : c.line with
    | unparsed | terminal => exact published
    | event payload =>
      simp only
      split
      · exact published
      · next applied =>
        have accepted := applyEvent_status applied
        by_cases same : session = r.sessionId
        · rw [← same]
          exact updateStatusFromEvent_session rfl accepted
        · rw [readEvent_rejected published same admitted line] at applied
          cases applied
  | report session error => exact published
  | bridgeExit stdoutEnd shutdown exitStatus cleanupAcknowledged =>
    simp only [taskStep, bridgeExitStep, goes, finalizeBridgeExit]
    split <;> exact published
  | finalizeWrite finalizer shutdown stopError =>
    exact (finalizedStatus_session _ _ _ _).trans published
  | _ => rw [frame.status rfl]; exact published

/-- What holds between any two steps. -/
structure Settled (x : OperatorSystem) : Prop where
  coherent : Coherent x
  roles : Roles x
  published : Published x

theorem newOperator_settled : Settled newOperator :=
  ⟨newOperator_coherent, newOperator_roles, by simp [Published, newOperator]⟩

theorem operatorStep_settled (ev : OperatorEvent) (x : OperatorSystem) (fenced : Fenced ev x)
    (settled : Settled x) : Settled (operatorStep ev x) := by
  refine ⟨operatorStep_coherent ev x settled.coherent,
    operatorStep_roles ev x settled.coherent settled.roles, ?_⟩
  cases ev with
  | start | stop | exit | tick => exact settled.published
  | run i c =>
    cases at_ : x.threads[i]? with
    | none =>
      rw [operatorStep_run_none c at_]
      exact settled.published
    | some t =>
      obtain ⟨task, notifying⟩ := t
      rw [operatorStep_run c at_]
      intro r' after
      cases notifying with
      | some notify => exact settled.published r' after
      | none =>
        by_cases reserves : ∃ session, task = .reserve session
        · obtain ⟨session, rfl⟩ := reserves
          exact reserve_published settled.published after
        · have effect := taskStep_effect c x.shared task
          obtain ⟨r, found, same, -, -⟩ | ⟨session, here, -, -⟩ := effect.origin after
          · rw [same]
            simp only [Fenced, at_] at fenced
            exact taskStep_published (settled.published r found) (fenced r found)
              fun session here => reserves ⟨session, here⟩
          · exact absurd ⟨session, here⟩ reserves

/-! ## Every run -/

/-- A step that meets the fence leaves the session of the record alone, when its task
belongs to an earlier one. -/
theorem Settled.untouched (settled : Settled x) {ev : OperatorEvent} (fenced : Fenced ev x) :
    Untouched ev x := by
  cases ev with
  | start | stop | exit | tick => trivial
  | run i c =>
    intro t r at_ found stale
    rw [operatorStep_run c at_]
    obtain ⟨task, notifying⟩ := t
    cases notifying with
    | some notify => exact ⟨rfl, rfl, rfl⟩
    | none =>
      have mem := List.mem_of_getElem? at_
      have published := settled.published r found
      simp only [Fenced, at_] at fenced
      exact ⟨stale.record settled.coherent settled.roles found mem (fenced r found),
        stale.status settled.roles found published mem (fenced r found),
        stale.ack published (fenced r found)⟩

/-- In every run in which no stale session makes a fresh start, reports an error or is
stopped by a supervisor without a session, the tasks of earlier sessions leave the
record, the status and the acknowledgement of the current one alone, and the published
session is the one that was reserved last. -/
theorem stale_sessions_untouched (evs : List OperatorEvent)
    (fenced : Along operatorStep Fenced evs newOperator) :
    Along operatorStep Untouched evs newOperator ∧ Published (runs operatorStep evs newOperator) :=
  ⟨along_of_along operatorStep_settled (fun _ _ fenced settled => settled.untouched fenced) fenced
      newOperator_settled,
    (along_runs operatorStep_settled fenced newOperator_settled).published⟩

/-- A session is stopped while its start task still has output to read, and a second
one is reserved. -/
def replacedSession : List OperatorEvent :=
  [.start] ++ turns 0 6 ++ [.stop] ++ turns 1 3 ++ turns 2 5 ++ [.exit 0 (.code 0)] ++ turns 2 1 ++
    [.tick 12000] ++ turns 2 7 ++ [.start] ++ turns 3 2

theorem stale_sessions_untouched_sample :
    Along operatorStep Untouched (replacedSession ++ turns 0 8) newOperator ∧
      Published (runs operatorStep (replacedSession ++ turns 0 8) newOperator) :=
  stale_sessions_untouched (replacedSession ++ turns 0 8) (by decide +kernel)

/-- The read of the buffered first event of the first session. -/
def bufferedStart : OperatorEvent :=
  .run 0 ⟨.spawned, .event { Payload.empty with type := some "started", sequence := some 1 }, none⟩

/-- The buffered first event of a stopped session takes the status over from the session
that was reserved after it. -/
theorem stale_start_accepted :
    ¬ Untouched bufferedStart (runs operatorStep replacedSession newOperator) ∧
      ¬ Published (runs operatorStep (replacedSession ++ [bufferedStart]) newOperator) := by
  have at_ : (runs operatorStep replacedSession newOperator).threads[0]? =
      some ⟨.readStdout "1" false false, none⟩ := by decide +kernel
  obtain ⟨r, found⟩ : ∃ r, (runs operatorStep replacedSession newOperator).shared.bridgeProcess =
      some r := Option.isSome_iff_exists.mp (by decide +kernel)
  have current : ∀ r ∈ (runs operatorStep replacedSession newOperator).shared.bridgeProcess,
      "1" ≠ r.sessionId := by decide +kernel
  constructor
  · intro untouched
    have stale : (Task.readStdout "1" false false).Stale r :=
      .start rfl nofun (current r found)
    have changed : (operatorStep bufferedStart
        (runs operatorStep replacedSession newOperator)).shared.status ≠
          (runs operatorStep replacedSession newOperator).shared.status := by decide +kernel
    exact changed (untouched _ r at_ found stale).2.1
  · have mixed : ∀ r ∈ (runs operatorStep (replacedSession ++ [bufferedStart])
        newOperator).shared.bridgeProcess, (runs operatorStep (replacedSession ++ [bufferedStart])
          newOperator).shared.status.operatorSessionId ≠ some r.sessionId := by decide +kernel
    intro published
    obtain ⟨r, found⟩ : ∃ r, (runs operatorStep (replacedSession ++ [bufferedStart])
        newOperator).shared.bridgeProcess = some r := Option.isSome_iff_exists.mp (by decide +kernel)
    exact mixed r found (published r found)

end Operator
