import TokenPlace.Desktop.Custody
import TokenPlace.Desktop.Finality

/-!
# What a successful stop vouches for

A stop succeeds when its session never had a bridge, or when the bridge has exited by
itself with success and has sent a `stopped` event with coherent evidence. The task that
shuts the bridge down learns the first two facts from the process that it holds and the
last one from the acknowledgement. `Reports` is what such a task knows at each point,
and none of it is undone by another one.
-/

namespace Operator

open Schedules

variable {c : Choice} {s s' : ComputeNodeState} {x : OperatorSystem} {task : Task} {o : Outcome}
  {r r' : BridgeProcessRecord} {t : Thread}

/-! ## Statement -/

/-- The operator has seen the process exit by itself, with that status. -/
def ComputeNodeState.Exited (s : ComputeNodeState) (p : Nat) (exitStatus : ExitStatus) : Prop :=
  ∃ bridge, s.bridges[p]? = some bridge ∧ bridge.exitStatus = some exitStatus ∧
    bridge.observed ∧ bridge.killed = false

/-- A child that was attached to the record of the session has exited by itself with
success, and the session has acknowledged its stop with coherent evidence. -/
def ComputeNodeState.Truthful (s : ComputeNodeState) (session : String) : Prop :=
  ∀ p, (session, p) ∈ s.attachments →
    session ∈ s.evidence ∧ ∃ exitStatus, s.Exited p exitStatus ∧ exitStatus.success

/-! ## What a task reports -/

/-- The session for which a process is shut down, if that is for the result of a stop. -/
def Owner.session : Owner → Option String
  | .supervisor locals => locals.session
  | .stdoutEnd locals => some locals.session
  | _ => none

variable {session : String}

/-- The process was attached for the session. -/
def AttachedFor (s : ComputeNodeState) (session : Option String) (p : Nat) : Prop :=
  ∀ a ∈ session, (a, p) ∈ s.attachments

/-- How a process was shut down agrees with the process. -/
structure Witnessed (s : ComputeNodeState) (session : Option String)
    (shutdown : Shutdown) : Prop where
  none_ : shutdown.hadChild = false → shutdown.childExitStatus = none
  exited : shutdown.hadChild → shutdown.bridgeKilled = false → ∃ p exitStatus,
    shutdown.childExitStatus = some exitStatus ∧ s.Exited p exitStatus ∧ AttachedFor s session p

/-- The evidence of a success with a child. -/
def Proven (s : ComputeNodeState) (session : String) : Prop :=
  session ∈ s.evidence ∧
    ∃ p exitStatus, (session, p) ∈ s.attachments ∧ s.Exited p exitStatus ∧ exitStatus.success

/-- A shutdown that ends without an error. -/
structure Succeeds (s : ComputeNodeState) (session : Option String)
    (shutdown : Shutdown) : Prop where
  proven : shutdown.hadChild → ∀ a ∈ session, Proven s a
  childless : session = none → shutdown.hadChild = false

/-- Whoever calls `finalize_stop_status` without a child is a supervisor, or a stop that
was called before the first session. -/
def Finalizer.Sound (shutdown : Shutdown) : Finalizer → Prop
  | .supervisor _ => True
  | .stdoutEnd _ => shutdown.hadChild
  | .stopCall session => session = none

/-- What a task that shuts a process down knows. -/
def Task.Reports (s : ComputeNodeState) : Task → Prop
  | .childDeadline locals child _ => ∀ p ∈ child, AttachedFor s locals.session p
  | .cancel owner child _ => ∀ p ∈ child, AttachedFor s owner.session p
  | .tryWait owner child | .untilDeadline owner child | .kill owner child =>
    AttachedFor s owner.session child
  | .acknowledged locals shutdown => Witnessed s (some locals.session) shutdown
  | .bridgeExit locals shutdown exitStatus _ =>
    Witnessed s (some locals.session) shutdown ∧ shutdown.childExitStatus = some exitStatus
  | .registerAck locals shutdown | .checkAck locals shutdown _ => Witnessed s locals.session shutdown
  | .ackDeadline locals shutdown _ | .awaitAck locals shutdown _ =>
    Witnessed s locals.session shutdown
  | .finalizeRead finalizer shutdown _ =>
    Witnessed s finalizer.session shutdown ∧ finalizer.Sound shutdown
  | .finalizeWrite finalizer shutdown stopError =>
    finalizer.Sound shutdown ∧ (stopError = none → Succeeds s finalizer.session shutdown)
  | .commitStop locals shutdown result => result = .ok () → Succeeds s locals.session shutdown
  | .commitEnd locals _ result => result = .ok () → Proven s locals.session
  | _ => True

/-- What is never undone. -/
structure Persists (s s' : ComputeNodeState) : Prop where
  attachments : ∀ a ∈ s.attachments, a ∈ s'.attachments
  evidence : ∀ a ∈ s.evidence, a ∈ s'.evidence
  exited : ∀ p exitStatus, s.Exited p exitStatus → s'.Exited p exitStatus

variable {exitStatus : ExitStatus} {a : Option String} {shutdown : Shutdown} {payload : Payload}
  {p : Nat} {i : Nat}

theorem Persists.attachedFor (persists : Persists s s')
    (attached : AttachedFor s a p) : AttachedFor s' a p :=
  fun a mem => persists.attachments _ (attached a mem)

theorem Persists.witnessed (persists : Persists s s')
    (witnessed : Witnessed s a shutdown) : Witnessed s' a shutdown := by
  refine ⟨witnessed.none_, fun had unkilled => ?_⟩
  obtain ⟨p, exitStatus, eq, exited, attached⟩ := witnessed.exited had unkilled
  exact ⟨p, exitStatus, eq, persists.exited _ _ exited, persists.attachedFor attached⟩

theorem Persists.proven (persists : Persists s s') (proven : Proven s session) :
    Proven s' session := by
  obtain ⟨evidence, p, exitStatus, attached, exited, success⟩ := proven
  exact ⟨persists.evidence _ evidence, p, exitStatus, persists.attachments _ attached,
    persists.exited _ _ exited, success⟩

theorem Persists.succeeds (persists : Persists s s')
    (succeeds : Succeeds s a shutdown) : Succeeds s' a shutdown :=
  ⟨fun had a mem => persists.proven (succeeds.proven had a mem), succeeds.childless⟩

theorem Persists.reports (persists : Persists s s')
    (reports : task.Reports s) : task.Reports s' := by
  cases task with
  | childDeadline | cancel => exact fun p mem => persists.attachedFor (reports p mem)
  | tryWait | untilDeadline | kill => exact persists.attachedFor reports
  | acknowledged | registerAck | checkAck | ackDeadline | awaitAck =>
    exact persists.witnessed reports
  | bridgeExit | finalizeRead => exact ⟨persists.witnessed reports.1, reports.2⟩
  | finalizeWrite => exact ⟨reports.1, fun none_ => persists.succeeds (reports.2 none_)⟩
  | commitStop => exact fun ok => persists.succeeds (reports ok)
  | commitEnd => exact fun ok => persists.proven (reports ok)
  | _ => trivial

/-! ## Nobody else ends a process that was seen to exit -/

/-- A process is held at most once, and by nobody once its end is known. -/
def Guarded (x : OperatorSystem) : Prop :=
  ∀ p, x.holders p ≤ if x.shared.unsettled p then 1 else 0

theorem newOperator_guarded : Guarded newOperator :=
  fun p => Nat.le_of_eq (newOperator_custody p)

theorem Guarded.unsettled (guarded : Guarded x) (mem : t ∈ x.threads)
    (held : t.task.child = some p) : x.shared.unsettled p := by
  have count := guarded p
  have positive : 0 < x.threads.countP fun t => decide (t.task.child = some p) :=
    List.countP_pos_iff.mpr ⟨t, mem, by simp [held]⟩
  by_contra settled
  rw [if_neg settled] at count
  simp only [OperatorSystem.holders] at count
  omega

theorem commitStop_holders (locals : Supervisor) (shutdown : Shutdown) (result : StopResult)
    (p : Nat) :
    holds (commitSupervisor s locals.session shutdown result).1.recordChild p ≤
        holds s.recordChild p ∧
      (commitSupervisor s locals.session shutdown result).1.bridges = s.bridges := by
  unfold commitSupervisor
  split
  · exact ⟨Nat.le_refl _, rfl⟩
  · exact ⟨Nat.zero_le _, rfl⟩

theorem Guarded.run (guarded : Guarded x) (coherent : Coherent x)
    (at_ : x.threads[i]? = some t) (c : Choice) :
    Guarded ⟨(threadStep c x.shared t).shared, x.threadsAfter i (threadStep c x.shared t)⟩ := by
  intro p
  have mem := List.mem_of_getElem? at_
  have before := guarded p
  have count := holders_run at_ (threadStep_started_child c x.shared t) p
  by_cases commits : ∃ locals shutdown result, t = ⟨.commitStop locals shutdown result, none⟩
  · obtain ⟨locals, shutdown, result, rfl⟩ := commits
    obtain ⟨record, bridges⟩ := @commitStop_holders x.shared locals shutdown result p
    have same := unsettled_congr bridges p
    simp only [threadStep, taskStep, notifies, Task.child, same] at count ⊢
    omega
  · have releases : Releases (.run i c) x := by
      simp only [Releases, at_]
      split
      · next eq =>
        cases eq
        exact absurd ⟨_, _, _, rfl⟩ commits
      · trivial
    have handover : Handover x.shared t.task (threadStep c x.shared t) :=
      threadStep_handover fun quiet => coherent.free at_ quiet releases
    have balance := handover.balance (fun q held => guarded.unsettled mem held) p
    simp only at count ⊢
    omega

theorem Guarded.call (guarded : Guarded x) (free : t.task.child = none) :
    Guarded { x with threads := x.threads ++ [t] } := by
  intro p
  have before := guarded p
  simpa [OperatorSystem.holders, List.countP_append, free] using before

theorem operatorStep_guarded (ev : OperatorEvent) (x : OperatorSystem) (coherent : Coherent x)
    (guarded : Guarded x) : Guarded (operatorStep ev x) := by
  cases ev with
  | start | stop => exact guarded.call rfl
  | run i c =>
    cases at_ : x.threads[i]? with
    | none => rwa [operatorStep_run_none c at_]
    | some t =>
      rw [operatorStep_run c at_]
      exact guarded.run coherent at_ c
  | exit bridge exitStatus =>
    intro p
    simp only [operatorStep, unsettled_exits]
    exact guarded p
  | tick elapsed => exact guarded

theorem exited_modify {f : BridgeProcess → BridgeProcess} {p q : Nat}
    (exited : s.Exited p exitStatus)
    (keeps : q = p → ∀ bridge, bridge.exitStatus = some exitStatus → bridge.observed →
      bridge.killed = false →
      (f bridge).exitStatus = some exitStatus ∧ (f bridge).observed ∧ (f bridge).killed = false) :
    ComputeNodeState.Exited { s with bridges := s.bridges.modify q f } p exitStatus := by
  obtain ⟨bridge, found, status, observed, unkilled⟩ := exited
  by_cases same : q = p
  · refine ⟨f bridge, ?_, keeps same bridge status observed unkilled⟩
    simp [found, same]
  · refine ⟨bridge, ?_, status, observed, unkilled⟩
    simp [found, same]

theorem exited_settled (exited : s.Exited p exitStatus) :
    s.unsettled p = false := by
  obtain ⟨bridge, found, _, observed, _⟩ := exited
  simp [ComputeNodeState.unsettled, found, observed]

theorem Guarded.exited (guarded : Guarded x) (mem : t ∈ x.threads)
    (exited : x.shared.Exited p exitStatus) :
    (threadStep c x.shared t).shared.Exited p exitStatus := by
  obtain ⟨task, notifying⟩ := t
  cases notifying with
  | some notify => exact exited
  | none =>
    have frame := taskStep_frame c x.shared task
    cases touches : task.touchesBridge with
    | false =>
      obtain ⟨bridge, found, rest⟩ := exited
      exact ⟨bridge, (congrArg (·[p]?) (frame.bridges touches)).trans found, rest⟩
    | true =>
      cases task with
      | launch a =>
        obtain ⟨bridge, found, rest⟩ := exited
        have bound := (List.getElem?_eq_some_iff.mp found).1
        have appended : ComputeNodeState.Exited
            { x.shared with bridges := x.shared.bridges ++ [spawnedBridge] } p exitStatus :=
          ⟨bridge, (List.getElem?_append_left bound).trans found, rest⟩
        simp only [threadStep, taskStep, launchStep]
        cases c.launch with
        | failed => exact ⟨bridge, found, rest⟩
        | missingPipe | spawned => exact appended
      | cancel owner child stdin =>
        cases stdin with
        | none => exact exited
        | some q => exact exited_modify exited fun _ bridge status observed unkilled =>
            ⟨status, observed, unkilled⟩
      | tryWait owner child =>
        simp only [threadStep, taskStep]
        split
        · exact exited
        · exact exited_modify exited fun _ bridge status observed unkilled =>
            ⟨status, rfl, unkilled⟩
      | kill owner child =>
        -- the process that is killed has not been settled
        refine exited_modify exited fun same => ?_
        have open_ := guarded.unsettled mem (show Task.child (.kill owner child) = some child from rfl)
        rw [same, exited_settled exited] at open_
        cases open_
      | _ => cases touches

/-! ## Attachments -/

theorem Effect.attached (effect : Effect s task o)
    (held : ∀ r, s.bridgeProcess = some r → ∀ p ∈ r.child, (r.sessionId, p) ∈ s.attachments) :
    (∀ r', o.shared.bridgeProcess = some r' → ∀ p ∈ r'.child,
      (r'.sessionId, p) ∈ o.shared.attachments) ∧
    (o.shared.attachments = s.attachments ∨ ∃ r a child, task = .attach a child ∧
      s.bridgeProcess = some r ∧ r.sessionId = a ∧ (r.phase = .starting ∨ r.phase = .stopping) ∧
      o.shared.attachments = s.attachments ++ [(a, child)] ∧ o.task.stage = some (a, .reading)) := by
  cases effect with
  | keeps record _ attachments =>
    rw [record, attachments]
    exact ⟨held, .inl rfl⟩
  | numbers _ out =>
    subst out
    exact ⟨held, .inl rfl⟩
  | reserves _ _ out =>
    subst out
    refine ⟨?_, .inl rfl⟩
    rintro r' ⟨⟩ p ⟨⟩
  | @attaches r a child _ here found owned pending shared next =>
    rw [shared]
    refine ⟨?_, .inr ⟨r, a, child, here, found, owned, ?_, rfl, ?_⟩⟩
    · rintro r' ⟨⟩ p ⟨⟩
      rw [← owned]
      exact List.mem_append_right _ (List.mem_singleton.mpr rfl)
    · obtain ⟨starting, _⟩ | ⟨stopping, _⟩ := pending
      · exact .inl starting
      · exact .inr stopping
    · obtain next | next := next <;> (rw [next]; rfl)
  | takes _ found _ _ taken out | claims _ found _ _ _ _ taken out =>
    subst out
    refine ⟨?_, .inl rfl⟩
    rintro r' ⟨⟩ p child
    rw [taken] at child
    cases child
  | marks _ found _ _ out | completes _ found _ _ out =>
    have old := held _ found
    subst out
    refine ⟨?_, .inl rfl⟩
    rintro r' ⟨⟩
    exact old
  | decides _ found _ record decided _ attachments _ child =>
    rw [record, attachments]
    refine ⟨?_, .inl rfl⟩
    rintro r' ⟨⟩ p mem
    rw [decided.sessionId]
    obtain none_ | ⟨same, _⟩ := child
    · rw [none_] at mem
      cases mem
    · rw [same] at mem
      exact held _ found p mem

/-- What an attachment says of its session. -/
structure Attachments (x : OperatorSystem) : Prop where
  counted : ∀ a p, (a, p) ∈ x.shared.attachments → ∃ n ≤ x.shared.nextSessionId, a = toString n
  late : ∀ a p, (a, p) ∈ x.shared.attachments → ∀ t ∈ x.threads, ∀ stage,
    t.task.stage = some (a, stage) → stage.early = false
  once : ∀ a p q, (a, p) ∈ x.shared.attachments → (a, q) ∈ x.shared.attachments → p = q
  held : ∀ r, x.shared.bridgeProcess = some r → ∀ p ∈ r.child,
    (r.sessionId, p) ∈ x.shared.attachments

theorem newOperator_attachments : Attachments newOperator := by
  constructor <;> simp [newOperator]

theorem Attachments.run (attachments : Attachments x) (coherent : Coherent x)
    (at_ : x.threads[i]? = some t) (c : Choice) :
    Attachments ⟨(threadStep c x.shared t).shared, x.threadsAfter i (threadStep c x.shared t)⟩ := by
  have effect := threadStep_effect c x.shared t
  have grows := threadStep_grows c x.shared t
  have stages := @threadStep_stage c x.shared t
  have mem := List.mem_of_getElem? at_
  generalize threadStep c x.shared t = o at effect grows stages ⊢
  obtain ⟨held, attached⟩ := effect.attached attachments.held
  -- what was attached before the step stays late
  have kept : ∀ a, (∃ n ≤ x.shared.nextSessionId, a = toString n) →
      (∀ t ∈ x.threads, ∀ stage, t.task.stage = some (a, stage) → stage.early = false) →
      ∀ t' ∈ x.threadsAfter i o, ∀ stage, t'.task.stage = some (a, stage) →
        stage.early = false := by
    intro a counted late t' mem' stage at'
    obtain ⟨j, after⟩ := List.mem_iff_getElem?.mp mem'
    obtain ⟨-, rfl⟩ | ⟨_, old⟩ | ⟨task, started, rfl, -⟩ := threadsAfter_elim after
    · obtain ⟨stage', before, -, early⟩ | ⟨new, -⟩ := stages at'
      · cases h : stage.early with
        | false => rfl
        | true => exact (early h).symm.trans (late t mem stage' before)
      · exact absurd new (not_counted counted)
    · exact late t' (List.mem_of_getElem? old) stage at'
    · rw [effect.started_stage started] at at'
      cases at'
  obtain same | ⟨r, a, child, here, found, owned, _, added, reading⟩ := attached
  · refine ⟨?_, ?_, ?_, held⟩
    · intro a p mem
      rw [same] at mem
      obtain ⟨n, le, eq⟩ := attachments.counted a p mem
      exact ⟨n, Nat.le_trans le grows, eq⟩
    · intro a p mem
      rw [same] at mem
      exact kept a (attachments.counted a p mem) (attachments.late a p mem)
    · rw [same]
      exact attachments.once
  · have own : t.task.stage = some (a, .starting) := by rw [here]; rfl
    have counted := coherent.counted t mem a .starting own
    have fresh : ∀ p, (a, p) ∉ x.shared.attachments :=
      fun p old => nomatch attachments.late a p old t mem .starting own
    refine ⟨?_, ?_, ?_, held⟩
    · intro b p mem'
      rw [added] at mem'
      obtain old | new := List.mem_append.mp mem'
      · obtain ⟨n, le, eq⟩ := attachments.counted b p old
        exact ⟨n, Nat.le_trans le grows, eq⟩
      · cases List.mem_singleton.mp new
        obtain ⟨n, le, eq⟩ := counted
        exact ⟨n, Nat.le_trans le grows, eq⟩
    · intro b p mem'
      rw [added] at mem'
      obtain old | new := List.mem_append.mp mem'
      · exact kept b (attachments.counted b p old) (attachments.late b p old)
      · cases List.mem_singleton.mp new
        -- only this start task has the session, and it has gone on
        intro t' mem'' stage at'
        obtain ⟨j, after⟩ := List.mem_iff_getElem?.mp mem''
        obtain ⟨-, rfl⟩ | ⟨ne, old⟩ | ⟨task, started, rfl, -⟩ := threadsAfter_elim after
        · rw [reading] at at'
          cases at'
          rfl
        · exact absurd (coherent.distinct _ _ _ _ _ _ _ old at_ at' own) ne
        · rw [effect.started_stage started] at at'
          cases at'
    · intro b p q mem₁ mem₂
      rw [added] at mem₁ mem₂
      obtain old₁ | new₁ := List.mem_append.mp mem₁ <;> obtain old₂ | new₂ := List.mem_append.mp mem₂
      · exact attachments.once b p q old₁ old₂
      · cases List.mem_singleton.mp new₂
        exact absurd old₁ (fresh p)
      · cases List.mem_singleton.mp new₁
        exact absurd old₂ (fresh q)
      · cases List.mem_singleton.mp new₁
        cases List.mem_singleton.mp new₂
        rfl

theorem Attachments.call (attachments : Attachments x) (stage : t.task.stage = none) :
    Attachments { x with threads := x.threads ++ [t] } := by
  refine ⟨attachments.counted, ?_, attachments.once, attachments.held⟩
  intro a p mem t' mem' stage' at'
  obtain old | new := List.mem_append.mp mem'
  · exact attachments.late a p mem t' old stage' at'
  · rw [List.mem_singleton.mp new, stage] at at'
    cases at'

theorem operatorStep_attachments (ev : OperatorEvent) (x : OperatorSystem) (coherent : Coherent x)
    (attachments : Attachments x) : Attachments (operatorStep ev x) := by
  cases ev with
  | start | stop => exact attachments.call rfl
  | run i c =>
    cases at_ : x.threads[i]? with
    | none => rwa [operatorStep_run_none c at_]
    | some t =>
      rw [operatorStep_run c at_]
      exact attachments.run coherent at_ c
  | exit | tick =>
    exact ⟨attachments.counted, attachments.late, attachments.once, attachments.held⟩

/-! ## Evidence -/

/-- The acknowledged session has sent what the coherent fields say. A start task that has
not attached a child has no acknowledgement of another session beside it. -/
structure Evident (x : OperatorSystem) : Prop where
  acknowledged : ∀ a, x.shared.stoppedEventAckSessionId = some a →
    coherentSuccess x.shared.status → a ∈ x.shared.evidence
  starting : ∀ t ∈ x.threads, ∀ a, t.task.stage = some (a, .starting) →
    x.shared.status.operatorSessionId = some a → x.shared.stoppedEventAckSessionId = none

theorem newOperator_evident : Evident newOperator := by
  constructor <;> simp [newOperator]

theorem spawnedFailureStatus_incoherent (status : ComputeNodeStatus) (killed : Bool) :
    coherentSuccess (spawnedFailureStatus status killed) = false := by
  simp only [coherentSuccess, spawnedFailureStatus]
  split
  · next eq _ _ _ _ =>
    cases killed <;> (cases eq; simp)
  · rfl

theorem finalizeBridgeExit_coherent (status : ComputeNodeStatus) (exitStatus : ExitStatus)
    (startup error : Bool) (expected : String) (diagnostic : Option String) :
    coherentSuccess (finalizeBridgeExit status exitStatus startup error expected diagnostic) =
      coherentSuccess status := by
  unfold finalizeBridgeExit
  split <;> rfl

theorem finalizedStatus_coherent (status : ComputeNodeStatus) (stopSession : Option String)
    (hadChild : Bool) (stopError : Option String) :
    coherentSuccess (finalizedStatus status stopSession hadChild stopError) =
      coherentSuccess status := by
  simp only [finalizedStatus]
  rw [apply_ite coherentSuccess]
  exact ite_id _

/-- An event that is no acknowledgement leaves the cleanup fields as they are. -/
theorem updateStatusFromEvent_coherent {status status' : ComputeNodeStatus}
    {session : String} (event : payload.operatorSessionId = some session)
    (accepted : updateStatusFromEvent status payload = some status')
    (other : ¬ (payload.type = some "stopped" ∧
      payload.operatorSessionId.any (fun session => session ≠ "") ∧
      status'.operatorSessionId = payload.operatorSessionId)) :
    coherentSuccess status' = coherentSuccess status := by
  have own := updateStatusFromEvent_session event accepted
  have unstopped : ¬ (payload.type = some "stopped" ∧
      payload.operatorSessionId.any fun session => session ≠ "") :=
    fun stopped => other ⟨stopped.1, stopped.2, own.trans event.symm⟩
  have kept : ∀ status : ComputeNodeStatus, takeCleanup status payload = status := by
    intro status
    exact if_neg fun stopped => unstopped ⟨stopped.1, stopped.2.1⟩
  unfold updateStatusFromEvent at accepted
  split at accepted
  · cases accepted
    rw [kept]
    rfl
  · cases accepted

theorem applyEvent_acknowledged {session : String} {acknowledges : Bool}
    (event : payload.operatorSessionId = some session)
    (applied : applyEvent s payload = some (s', acknowledges))
    (evident : ∀ a, s.stoppedEventAckSessionId = some a → coherentSuccess s.status →
      a ∈ s.evidence) :
    (∀ a ∈ s.evidence, a ∈ s'.evidence) ∧
      ∀ a, s'.stoppedEventAckSessionId = some a → coherentSuccess s'.status → a ∈ s'.evidence := by
  have accepted := applyEvent_status applied
  unfold applyEvent at applied
  split at applied
  · cases applied
  · next status same =>
    split at applied
    · cases applied
      refine ⟨fun a mem => List.mem_append_left _ mem, fun a acknowledged coherent => ?_⟩
      have eq : payload.operatorSessionId = some a := acknowledged
      rw [if_pos coherent, eq]
      exact List.mem_append_right _ (List.mem_singleton.mpr rfl)
    · next other =>
      cases applied
      refine ⟨fun a mem => mem, fun a acknowledged coherent => ?_⟩
      rw [updateStatusFromEvent_coherent event accepted other] at coherent
      exact evident a acknowledged coherent

theorem Evident.step (evident : Evident x) (mem : (⟨task, none⟩ : Thread) ∈ x.threads) :
    (∀ a ∈ x.shared.evidence, a ∈ (taskStep c x.shared task).shared.evidence) ∧
      ∀ a, (taskStep c x.shared task).shared.stoppedEventAckSessionId = some a →
        coherentSuccess (taskStep c x.shared task).shared.status →
        a ∈ (taskStep c x.shared task).shared.evidence := by
  have frame := taskStep_frame c x.shared task
  -- a write that makes no evidence
  have writes : (∀ session startup error, task ≠ .readStdout session startup error) →
      task.acknowledges = false →
      (∀ a, x.shared.stoppedEventAckSessionId = some a →
        coherentSuccess (taskStep c x.shared task).shared.status → coherentSuccess x.shared.status) →
      (∀ a ∈ x.shared.evidence, a ∈ (taskStep c x.shared task).shared.evidence) ∧
        ∀ a, (taskStep c x.shared task).shared.stoppedEventAckSessionId = some a →
          coherentSuccess (taskStep c x.shared task).shared.status →
          a ∈ (taskStep c x.shared task).shared.evidence := by
    intro silent unacknowledged before
    rw [frame.evidence silent, frame.ack unacknowledged]
    exact ⟨fun _ => id, fun a ack coherent =>
      evident.acknowledged a ack (before a ack coherent)⟩
  have quiet : (∀ session startup error, task ≠ .readStdout session startup error) →
      task.acknowledges = false → task.publishes = false → _ :=
    fun silent unacknowledged unpublished => writes silent unacknowledged fun _ _ coherent => by
      rwa [frame.status unpublished] at coherent
  cases task with
  | reserve a =>
    simp only [taskStep, reserveStarting]
    split
    · exact ⟨fun _ => id, evident.acknowledged⟩
    · next s' reserved =>
      split at reserved <;> cases reserved
      exact ⟨fun _ => id, by rintro _ ⟨⟩⟩
  | readStdout a startup error =>
    simp only [taskStep, readStep]
    cases c.line with
    | unparsed | terminal => exact ⟨fun _ => id, evident.acknowledged⟩
    | event payload =>
      simp only
      split
      · exact ⟨fun _ => id, evident.acknowledged⟩
      · next s' acknowledges applied =>
        exact applyEvent_acknowledged rfl applied evident.acknowledged
  | startupFailed a lastError failure =>
    refine writes (by simp) rfl fun b ack coherent => ?_
    simp only [taskStep, notifies, completeNoChild_status] at coherent
    split at coherent
    · next published =>
      rw [evident.starting _ mem a rfl published] at ack
      cases ack
    · exact coherent
  | spawnedFailed a shutdown failure =>
    refine writes (by simp) rfl fun b ack coherent => ?_
    simp only [taskStep, notifies, completeSpawned_status] at coherent
    split at coherent
    · rw [spawnedFailureStatus_incoherent] at coherent
      cases coherent
    · exact coherent
  | publish a =>
    refine writes (by simp) rfl fun b ack coherent => ?_
    simp only [taskStep, goes, publishRunning] at coherent
    split at coherent
    · cases coherent
    · exact coherent
  | report => exact writes (by simp) rfl fun _ _ coherent => coherent
  | bridgeExit =>
    refine writes (by simp) rfl fun b ack coherent => ?_
    simp only [taskStep, bridgeExitStep, goes, finalizeBridgeExit_coherent] at coherent
    exact coherent
  | finalizeWrite =>
    refine writes (by simp) rfl fun b ack coherent => ?_
    simp only [taskStep, goes, finalizedStatus_coherent] at coherent
    exact coherent
  | _ => exact quiet (by simp) rfl rfl

theorem taskStep_session (unacknowledged : task.acknowledges = false) :
    (taskStep c s task).shared.status.operatorSessionId = s.status.operatorSessionId := by
  cases raises : task.raises with
  | false => exact (taskStep_lowers c s task raises).1
  | true =>
    cases task with
    | reserve | readStdout => cases unacknowledged
    | publish a =>
      simp only [taskStep, goes, publishRunning]
      split
      · next running => exact running.2.symm
      · rfl
    | _ => cases raises

/-- A session whose start has not attached a child is published without an
acknowledgement, before a step and after it. -/
theorem Evident.starting_step (evident : Evident x) (coherent : Coherent x) {i j : Nat}
    (at_ : x.threads[i]? = some ⟨task, none⟩) {t' : Thread} (at' : x.threads[j]? = some t')
    {a : String} (early : t'.task.stage = some (a, .starting))
    (published : (taskStep c x.shared task).shared.status.operatorSessionId = some a) :
    (taskStep c x.shared task).shared.stoppedEventAckSessionId = none := by
  have frame := taskStep_frame c x.shared task
  have before := evident.starting t' (List.mem_of_getElem? at') a early
  cases acknowledges : task.acknowledges with
  | false =>
    rw [taskStep_session acknowledges] at published
    rw [frame.ack acknowledges]
    exact before published
  | true =>
    cases task with
    | reserve b =>
      simp only [taskStep, reserveStarting] at published ⊢
      split at published
      · exact before published
      · next s' reserved =>
        split at reserved <;> cases reserved
        rfl
    | readStdout b startup error =>
      simp only [taskStep, readStep] at published ⊢
      cases line : c.line with
      | unparsed | terminal =>
        rw [line] at published
        exact before published
      | event payload =>
        rw [line] at published
        simp only at published ⊢
        split at published
        · exact before published
        · next s' acknowledges' applied =>
          have own := updateStatusFromEvent_session rfl (applyEvent_status applied)
          have same : b = a := Option.some.inj (own.symm.trans published)
          subst same
          have here : j = i := coherent.distinct _ _ _ _ _ _ _ at' at_ early rfl
          subst here
          rw [at_] at at'
          cases at'
          cases early
    | _ => cases acknowledges

theorem reserve_acknowledged {a : String} {stage : Stage}
    (after : (taskStep c s (.reserve a)).task.stage = some (a, stage)) :
    (taskStep c s (.reserve a)).shared.stoppedEventAckSessionId = none := by
  simp only [taskStep, reserveStarting] at after ⊢
  split at after
  · cases after
  · next s' reserved =>
    split at reserved <;> cases reserved
    rfl

theorem Task.reserve_of_stage {a : String} (at_ : task.stage = some (a, .reserving)) :
    task = .reserve a := by
  cases task with
  | reserve =>
    cases at_
    rfl
  | cancel owner | tryWait owner | untilDeadline owner | kill owner => cases owner <;> cases at_
  | finalizeRead finalizer | finalizeWrite finalizer => cases finalizer <;> cases at_
  | report session => cases session <;> cases at_
  | _ => cases at_

theorem Evident.run (evident : Evident x) (coherent : Coherent x)
    (at_ : x.threads[i]? = some t) (c : Choice) :
    Evident ⟨(threadStep c x.shared t).shared, x.threadsAfter i (threadStep c x.shared t)⟩ := by
  have effect := threadStep_effect c x.shared t
  have mem := List.mem_of_getElem? at_
  constructor
  · obtain ⟨task, notifying⟩ := t
    cases notifying with
    | some notify => exact evident.acknowledged
    | none => exact (evident.step mem).2
  · intro t' mem' a early published
    obtain ⟨j, after⟩ := List.mem_iff_getElem?.mp mem'
    obtain ⟨task, notifying⟩ := t
    obtain ⟨-, rfl⟩ | ⟨_, old⟩ | ⟨task', started, rfl, -⟩ := threadsAfter_elim after
    · cases notifying with
      | some notify => exact evident.starting _ mem a early published
      | none =>
        obtain ⟨stage, before, -, still⟩ | ⟨_, _, reserving⟩ := threadStep_stage early
        · cases stage with
          | reserving =>
            have here := Task.reserve_of_stage before
            subst here
            exact reserve_acknowledged early
          | starting => exact evident.starting_step coherent at_ at_ before published
          | reading | finalizing | ended | reporting => exact nomatch still rfl
        · cases reserving
    · cases notifying with
      | some notify => exact evident.starting t' (List.mem_of_getElem? old) a early published
      | none => exact evident.starting_step coherent at_ old early published
    · rw [effect.started_stage started] at early
      cases early

theorem Evident.call (evident : Evident x) (stage : t.task.stage = none) :
    Evident { x with threads := x.threads ++ [t] } := by
  refine ⟨evident.acknowledged, fun t' mem a early => ?_⟩
  obtain old | new := List.mem_append.mp mem
  · exact evident.starting t' old a early
  · rw [List.mem_singleton.mp new, stage] at early
    cases early

theorem operatorStep_evident (ev : OperatorEvent) (x : OperatorSystem) (coherent : Coherent x)
    (evident : Evident x) : Evident (operatorStep ev x) := by
  cases ev with
  | start | stop => exact evident.call rfl
  | run i c =>
    cases at_ : x.threads[i]? with
    | none => rwa [operatorStep_run_none c at_]
    | some t =>
      rw [operatorStep_run c at_]
      exact evident.run coherent at_ c
  | exit | tick => exact ⟨evident.acknowledged, evident.starting⟩

/-! ## Every run -/

/-- In every run a process is held in at most one place, and nowhere once it is settled; a session
gets one process at most, and the record holds none but its own; and where the status shows a
coherent stop of the acknowledged session, that session has sent it. -/
theorem processes_held_once (evs : List OperatorEvent) :
    let x := runs operatorStep evs newOperator
    Guarded x ∧ Attachments x ∧ Evident x := by
  intro x
  have kept : Coherent x ∧ Guarded x ∧ Attachments x ∧ Evident x := by
    refine invariant_runs (J := fun x => Coherent x ∧ Guarded x ∧ Attachments x ∧ Evident x)
      ?_ evs ⟨newOperator_coherent, newOperator_guarded, newOperator_attachments,
        newOperator_evident⟩
    rintro ev y ⟨coherent, guarded, attachments, evident⟩
    exact ⟨operatorStep_coherent ev y coherent, operatorStep_guarded ev y coherent guarded,
      operatorStep_attachments ev y coherent attachments,
      operatorStep_evident ev y coherent evident⟩
  exact kept.2

end Operator
