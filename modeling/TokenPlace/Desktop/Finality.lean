import TokenPlace.Desktop.Replacement

/-!
# The status after a stop

Once the stop of a session has a result, nothing but the session's own output may show
it as running or registered again: the flags are lowered before the result is stored,
`Running` is published only for a record in that phase, and no other write raises them.
An event that the bridge has left in its pipe does. `Conclusive` names the steps that
make a result untrue or not final, and `Over` is what stays true of a session that has
its result.
-/

namespace Operator

open Schedules

variable {c : Choice} {s s' : ComputeNodeState} {x : OperatorSystem} {task : Task} {o : Outcome}
  {r r' : BridgeProcessRecord} {t : Thread} {session : String}

/-! ## Statement -/

/-- The status does not show that session as running or registered. -/
def ComputeNodeState.Calm (s : ComputeNodeState) (session : String) : Prop :=
  s.status.operatorSessionId = some session →
    s.status.running = false ∧ s.status.registered = false

/-- The session has the current record, and no result yet. -/
def ComputeNodeState.Undecided (s : ComputeNodeState) (session : String) : Prop :=
  ∃ r ∈ s.bridgeProcess, r.sessionId = session ∧ r.stopResult = none

/-- Neither does an event of a session with a result raise the flags, nor is a result
stored while they are up, nor is one of success by a supervisor that has missed the
child, nor has the acknowledgement gone to another session when the evidence is read. -/
def Task.Conclusive (c : Choice) (s : ComputeNodeState) : Task → Prop
  | .readStdout session _ _ =>
    match c.line with
    | .event payload =>
      acceptsEvent s.status { payload with operatorSessionId := some session } →
        s.Undecided session ∨
          payload.running.getD s.status.running = false ∧
            payload.registered.getD s.status.registered = false
    | _ => True
  | .finalizeRead finalizer shutdown true =>
    ∀ session ∈ finalizer.session, s.status.operatorSessionId = some session →
      shutdown.hadChild → coherentSuccess s.status → s.stoppedEventAckSessionId = some session
  | .commitEnd locals _ _ => ∀ r ∈ s.bridgeProcess, r.sessionId = locals.session →
      s.Calm locals.session
  | .commitStop locals shutdown result =>
    ∀ r ∈ s.bridgeProcess, r.matchesSession locals.session → s.Calm r.sessionId ∧
      (result = .ok () → shutdown.hadChild = false →
        ∀ attachment ∈ s.attachments, attachment.1 ≠ r.sessionId)
  | _ => True

/-- The same for an event. -/
def Conclusive : OperatorEvent → OperatorSystem → Prop
  | .run i c, x =>
    match x.threads[i]? with
    | some ⟨task, none⟩ => task.Conclusive c x.shared
    | _ => True
  | _, _ => True

instance (s : ComputeNodeState) (session : String) : Decidable (s.Calm session) := by
  unfold ComputeNodeState.Calm
  infer_instance

instance (s : ComputeNodeState) (session : String) : Decidable (s.Undecided session) :=
  inferInstanceAs (Decidable (∃ r ∈ s.bridgeProcess, r.sessionId = session ∧ r.stopResult = none))

instance (c : Choice) (s : ComputeNodeState) (task : Task) : Decidable (task.Conclusive c s) := by
  unfold Task.Conclusive
  induction task using Task.casesOn with
  | readStdout =>
    dsimp only
    exact match c.line with
      | .event _ => by dsimp only; infer_instance
      | .unparsed | .terminal => isTrue trivial
  | finalizeRead _ _ ready =>
    exact match ready with
      | true => by dsimp only; infer_instance
      | false => isTrue trivial
  | _ => dsimp only; infer_instance

instance (ev : OperatorEvent) (x : OperatorSystem) : Decidable (Conclusive ev x) := by
  unfold Conclusive
  induction ev using OperatorEvent.casesOn with
  | run i c =>
    dsimp only
    exact match x.threads[i]? with
      | some ⟨_, none⟩ => by dsimp only; infer_instance
      | some ⟨_, some _⟩ | none => isTrue trivial
  | _ => exact isTrue trivial

/-! ## Sessions that have their result -/

/-- The session has its result, or its record has been replaced. -/
structure Over (x : OperatorSystem) (session : String) : Prop where
  counted : ∃ n ≤ x.shared.nextSessionId, session = toString n
  decided : ∀ r, x.shared.bridgeProcess = some r → r.sessionId = session → r.stopResult.isSome
  reserved : ∀ t ∈ x.threads, t.task.stage ≠ some (session, .reserving)

theorem Coherent.over_ (coherent : Coherent x) (found : x.shared.bridgeProcess = some r)
    (decided : r.stopResult.isSome) : Over x r.sessionId := by
  refine ⟨coherent.recorded r found, ?_, ?_⟩
  · intro r' found' _
    rw [found] at found'
    cases found'
    exact decided
  · exact fun t mem stage => coherent.staged r found t mem .reserving stage

theorem Over.run (ended : Over x session) {i : Nat} (at_ : x.threads[i]? = some t) (c : Choice) :
    Over ⟨(threadStep c x.shared t).shared, x.threadsAfter i (threadStep c x.shared t)⟩
      session := by
  have effect := threadStep_effect c x.shared t
  have grows := threadStep_grows c x.shared t
  have stages := @threadStep_stage c x.shared t
  have mem := List.mem_of_getElem? at_
  generalize threadStep c x.shared t = o at effect grows stages ⊢
  refine ⟨?_, ?_, ?_⟩
  · obtain ⟨n, le, eq⟩ := ended.counted
    exact ⟨n, Nat.le_trans le grows, eq⟩
  · intro r' after owned
    obtain ⟨r, found, continues⟩ | ⟨a, here, rfl, -⟩ := effect.origin after
    · exact continues.decided (ended.decided r found (continues.sessionId.symm.trans owned))
    · have same : a = session := owned
      exact absurd (by rw [here, same]; rfl) (ended.reserved t mem)
  · intro t' mem' stage
    obtain ⟨j, after⟩ := List.mem_iff_getElem?.mp mem'
    obtain ⟨-, rfl⟩ | ⟨_, at'⟩ | ⟨task, started, rfl, -⟩ := threadsAfter_elim after
    · obtain ⟨stage', before, reserving, -⟩ | ⟨new, -⟩ := stages stage
      · rw [reserving rfl] at before
        exact ended.reserved t mem before
      · exact not_counted ended.counted new
    · exact ended.reserved t' (List.mem_of_getElem? at') stage
    · rw [effect.started_stage started] at stage
      cases stage

theorem operatorStep_over (ev : OperatorEvent) (ended : Over x session) :
    Over (operatorStep ev x) session := by
  have called : ∀ task : Task, task.stage = none →
      Over { x with threads := x.threads ++ [⟨task, none⟩] } session := by
    intro task stage
    refine ⟨ended.counted, ended.decided, fun t mem at_ => ?_⟩
    obtain mem | mem := List.mem_append.mp mem
    · exact ended.reserved t mem at_
    · rw [List.mem_singleton.mp mem, stage] at at_
      cases at_
  cases ev with
  | start | stop => exact called _ rfl
  | run i c =>
    cases at_ : x.threads[i]? with
    | none => rwa [operatorStep_run_none c at_]
    | some t =>
      rw [operatorStep_run c at_]
      exact ended.run at_ c
  | exit | tick => exact ⟨ended.counted, ended.decided, ended.reserved⟩

/-! ## Writes of the status -/

/-- The write keeps the session, and the flags unless it lowers them. -/
def Lowers (status status' : ComputeNodeStatus) : Prop :=
  status'.operatorSessionId = status.operatorSessionId ∧
    ((status'.running = status.running ∧ status'.registered = status.registered) ∨
      (status'.running = false ∧ status'.registered = false))

theorem Lowers.refl (status : ComputeNodeStatus) : Lowers status status :=
  ⟨rfl, .inl ⟨rfl, rfl⟩⟩

theorem Lowers.calm (lowers : Lowers s.status s'.status) (calm : s.Calm session) :
    s'.Calm session := by
  intro published
  obtain ⟨same, ⟨running, registered⟩ | lowered⟩ := lowers
  · rw [running, registered]
    exact calm (same.symm.trans published)
  · exact lowered

theorem finalizeBridgeExit_lowers (status : ComputeNodeStatus) (exitStatus : ExitStatus)
    (startup error : Bool) (expected : String) (diagnostic : Option String) :
    Lowers status (finalizeBridgeExit status exitStatus startup error expected diagnostic) := by
  unfold finalizeBridgeExit
  split
  · exact .refl status
  · exact ⟨rfl, .inr ⟨rfl, rfl⟩⟩

theorem Lowers.ite {status status' : ComputeNodeStatus} (lowers : Lowers status status')
    (current : Bool) : Lowers status (if current then status' else status) := by
  cases current with
  | true => exact lowers
  | false => exact .refl status

theorem finalizedStatus_lowers (status : ComputeNodeStatus) (stopSession : Option String)
    (hadChild : Bool) (stopError : Option String) :
    Lowers status (finalizedStatus status stopSession hadChild stopError) := by
  unfold finalizedStatus
  refine Lowers.ite ?_ _
  exact ⟨rfl, .inr ⟨rfl, rfl⟩⟩

theorem completeNoChild_status (session lastError : String) :
    (completeNoChild s session lastError).status =
      if s.status.operatorSessionId = some session then startupFailureStatus session lastError
      else s.status := by
  unfold completeNoChild
  split
  · simp only
    split <;> rfl
  · simp only
    split <;> rfl

theorem completeSpawned_status (session : String) (shutdown : Shutdown) :
    (completeSpawned s session shutdown).status =
      if s.status.operatorSessionId = some session then
        spawnedFailureStatus s.status shutdown.bridgeKilled
      else s.status := by
  unfold completeSpawned
  split
  · simp only
    split <;> rfl
  · simp only
    split <;> rfl

theorem completeNoChild_lowers (session lastError : String) :
    Lowers s.status (completeNoChild s session lastError).status := by
  rw [completeNoChild_status]
  split
  · next published => exact ⟨published.symm, .inr ⟨rfl, rfl⟩⟩
  · exact .refl _

theorem completeSpawned_lowers (session : String) (shutdown : Shutdown) :
    Lowers s.status (completeSpawned s session shutdown).status := by
  rw [completeSpawned_status]
  split
  · exact ⟨rfl, .inr ⟨rfl, rfl⟩⟩
  · exact .refl _

/-- The tasks that may raise a flag or change the session. -/
def Task.raises : Task → Bool
  | .reserve _ | .publish _ | .readStdout _ _ _ => true
  | _ => false

theorem taskStep_lowers (c : Choice) (s : ComputeNodeState) (task : Task)
    (lowers : task.raises = false) : Lowers s.status (taskStep c s task).shared.status := by
  have frame := taskStep_frame c s task
  have kept : task.publishes = false → Lowers s.status (taskStep c s task).shared.status := by
    intro quiet
    rw [frame.status quiet]
    exact .refl _
  cases task with
  | reserve | publish | readStdout => cases lowers
  | startupFailed session lastError => exact completeNoChild_lowers session lastError
  | spawnedFailed session shutdown => exact completeSpawned_lowers session shutdown
  | report => exact ⟨rfl, .inr ⟨rfl, rfl⟩⟩
  | bridgeExit => exact finalizeBridgeExit_lowers ..
  | finalizeWrite => exact finalizedStatus_lowers ..
  | _ => exact kept rfl

theorem updateStatusFromEvent_flags {status status' : ComputeNodeStatus} {payload : Payload}
    (accepted : updateStatusFromEvent status payload = some status') :
    acceptsEvent status payload ∧ status'.running = payload.running.getD status.running ∧
      status'.registered = payload.registered.getD status.registered := by
  unfold updateStatusFromEvent at accepted
  split at accepted
  · next accepts =>
    cases accepted
    refine ⟨accepts, ?_⟩
    simp only [takeIdentity, takeCleanup]
    split <;> exact ⟨rfl, rfl⟩
  · cases accepted

theorem Over.calm_step (ended : Over x session) (coherent : Coherent x)
    (mem : (⟨task, none⟩ : Thread) ∈ x.threads) (conclusive : task.Conclusive c x.shared)
    (calm : x.shared.Calm session) : (taskStep c x.shared task).shared.Calm session := by
  cases raises : task.raises with
  | false => exact (taskStep_lowers c x.shared task raises).calm calm
  | true =>
    cases task with
    | reserve a =>
      simp only [taskStep, reserveStarting]
      split
      · exact calm
      · next s' reserved =>
        split at reserved
        · cases reserved
        · cases reserved
          intro published
          have same : a = session := Option.some.inj published
          exact absurd (by rw [← same]; rfl) (ended.reserved _ mem)
    | publish a =>
      simp only [taskStep, goes, publishRunning]
      split
      · next running =>
        intro published
        have same : a = session := Option.some.inj published
        cases record : x.shared.recordOf a with
        | none => simp [record] at running
        | some r =>
          obtain ⟨found, owned⟩ := recordOf_eq_some.mp record
          have phase : r.phase = .running := by simpa [record] using running.1
          have completed := (coherent.sound r found).decided.mp
            (ended.decided r found (owned.trans same))
          rw [phase] at completed
          cases completed
      · exact calm
    | readStdout a startup error =>
      simp only [taskStep, readStep]
      simp only [Task.Conclusive] at conclusive
      cases line : c.line with
      | unparsed | terminal => exact calm
      | event payload =>
        simp only [line] at conclusive ⊢
        split
        · exact calm
        · next s' acknowledges applied =>
          intro published
          have accepted := applyEvent_status applied
          have own := updateStatusFromEvent_session rfl accepted
          obtain ⟨accepts, running, registered⟩ := updateStatusFromEvent_flags accepted
          have same : a = session := Option.some.inj (own.symm.trans published)
          subst same
          obtain ⟨r, found, owned, undecided⟩ | ⟨lowered, lowered'⟩ := conclusive accepts
          · have decided := ended.decided r found owned
            rw [undecided] at decided
            cases decided
          · exact ⟨running.trans lowered, registered.trans lowered'⟩
    | _ => cases raises

/-! ## A result is stored -/

theorem Effect.decided_by (effect : Effect s task o) (after : o.shared.bridgeProcess = some r')
    {result : StopResult} (decided : r'.stopResult = some result) :
    (∃ r, s.bridgeProcess = some r ∧ r.sessionId = r'.sessionId ∧ r.stopResult = some result) ∨
      ∃ r, s.bridgeProcess = some r ∧ r.sessionId = r'.sessionId ∧ task.Decides result ∧
        task.DecidesFor r := by
  cases effect with
  | keeps record =>
    rw [record] at after
    exact .inl ⟨r', after, rfl, decided⟩
  | numbers _ out =>
    subst out
    exact .inl ⟨r', after, rfl, decided⟩
  | reserves _ _ out =>
    subst out
    cases after
    cases decided
  | attaches _ found _ _ shared =>
    rw [shared] at after
    cases after
    exact .inl ⟨_, found, rfl, decided⟩
  | takes _ found _ _ taken out | claims _ found _ _ _ _ taken out =>
    subst out
    cases after
    rw [taken] at decided
    exact .inl ⟨_, found, by rw [taken], decided⟩
  | marks _ found _ _ out | completes _ found _ _ out =>
    subst out
    cases after
    exact .inl ⟨_, found, rfl, decided⟩
  | decides here found owned record decided' =>
    rw [record] at after
    cases after
    rw [decided'.stopResult] at decided
    cases decided
    exact .inr ⟨_, found, decided'.sessionId.symm, here, owned⟩

theorem Task.Decides.calm {result : StopResult} (here : task.Decides result)
    (found : s.bridgeProcess = some r) (owned : task.DecidesFor r)
    (conclusive : task.Conclusive c s) : (taskStep c s task).shared.Calm r.sessionId := by
  have frame := taskStep_frame c s task
  cases here with
  | startupFailed a lastError failure =>
    have same : r.sessionId = a := owned
    subst same
    intro published
    simp only [taskStep, notifies, completeNoChild_status] at published ⊢
    split at published
    · next current => simp [current, startupFailureStatus, ComputeNodeStatus.default]
    · next other => exact absurd published other
  | spawnedFailed a shutdown failure =>
    have same : r.sessionId = a := owned
    subst same
    intro published
    simp only [taskStep, notifies, completeSpawned_status] at published ⊢
    split at published
    · next current => simp [current, spawnedFailureStatus]
    · next other => exact absurd published other
  | commitEnd locals shutdown result =>
    have same : r.sessionId = locals.session := owned
    have calm := conclusive r found same
    rw [← same] at calm
    unfold ComputeNodeState.Calm
    rw [frame.status rfl]
    exact calm
  | commitStop locals shutdown result =>
    have calm := (conclusive r found owned).1
    unfold ComputeNodeState.Calm
    rw [frame.status rfl]
    exact calm

/-! ## Every run -/

/-- The status does not show a session with a result as running or registered. -/
def Rests (x : OperatorSystem) : Prop :=
  ∀ r, x.shared.bridgeProcess = some r → r.stopResult.isSome → x.shared.Calm r.sessionId

theorem conclusive_task {i : Nat} (conclusive : Conclusive (.run i c) x)
    (at_ : x.threads[i]? = some ⟨task, none⟩) : task.Conclusive c x.shared := by
  simpa only [Conclusive, at_] using conclusive

theorem Over.calm_run (ended : Over x session) (coherent : Coherent x) {i : Nat}
    (at_ : x.threads[i]? = some t) (conclusive : Conclusive (.run i c) x)
    (calm : x.shared.Calm session) : (threadStep c x.shared t).shared.Calm session := by
  obtain ⟨task, notifying⟩ := t
  cases notifying with
  | some notify => exact calm
  | none =>
    exact ended.calm_step coherent (List.mem_of_getElem? at_) (conclusive_task conclusive at_) calm

/-- A session that is over stays so, and the status keeps it down. -/
theorem operatorStep_calm (ev : OperatorEvent) (coherent : Coherent x)
    (conclusive : Conclusive ev x) (ended : Over x session) (calm : x.shared.Calm session) :
    Over (operatorStep ev x) session ∧ (operatorStep ev x).shared.Calm session := by
  refine ⟨operatorStep_over ev ended, ?_⟩
  cases ev with
  | start | stop | exit | tick => exact calm
  | run i c =>
    cases at_ : x.threads[i]? with
    | none => rwa [operatorStep_run_none c at_]
    | some t =>
      rw [operatorStep_run c at_]
      exact ended.calm_run coherent at_ conclusive calm

theorem operatorStep_rests (ev : OperatorEvent) (x : OperatorSystem) (coherent : Coherent x)
    (conclusive : Conclusive ev x) (rests : Rests x) : Rests (operatorStep ev x) := by
  cases ev with
  | start | stop | exit | tick => exact rests
  | run i c =>
    cases at_ : x.threads[i]? with
    | none => rwa [operatorStep_run_none c at_]
    | some t =>
      rw [operatorStep_run c at_]
      intro r' after decided
      have effect := threadStep_effect c x.shared t
      obtain ⟨result, result_eq⟩ := Option.isSome_iff_exists.mp decided
      obtain ⟨r, found, same, before⟩ | ⟨r, found, same, here, owned⟩ :=
        effect.decided_by after result_eq
      · rw [← same]
        have before : r.stopResult.isSome := Option.isSome_iff_exists.mpr ⟨result, before⟩
        exact (coherent.over_ found before).calm_run coherent at_ conclusive (rests r found before)
      · obtain ⟨task, notifying⟩ := t
        cases notifying with
        | some notify =>
          rw [← same]
          refine rests r found ?_
          have same : r = r' := Option.some.inj (found.symm.trans after)
          rwa [same]
        | none =>
          rw [← same]
          exact here.calm found owned (conclusive_task conclusive at_)

theorem newOperator_rests : Rests newOperator := by
  simp [Rests, newOperator]

theorem Over.calm_runs {evs : List OperatorEvent}
    (conclusive : Along operatorStep Conclusive evs x) (coherent : Coherent x)
    (ended : Over x session) (calm : x.shared.Calm session) :
    (runs operatorStep evs x).shared.Calm session := by
  have kept : Coherent (runs operatorStep evs x) ∧ Over (runs operatorStep evs x) session ∧
      (runs operatorStep evs x).shared.Calm session := by
    refine along_runs (J := fun y => Coherent y ∧ Over y session ∧ y.shared.Calm session)
      ?_ conclusive ⟨coherent, ended, calm⟩
    rintro ev y guarded ⟨coherent, ended, calm⟩
    exact ⟨operatorStep_coherent ev y coherent, operatorStep_calm ev coherent guarded ended calm⟩
  exact kept.2.2

end Operator
