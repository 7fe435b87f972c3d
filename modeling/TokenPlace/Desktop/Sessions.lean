import TokenPlace.Desktop.Effects

/-!
# Sessions and their records

No two start tasks have the same session, the record is of a session that was
counted, and it looks as the stage of the start task of its session says. A record in
its `Stopping` phase always has a task that will complete it.
-/

namespace Operator

variable {c : Choice} {s s' : ComputeNodeState} {x : OperatorSystem} {task : Task} {o : Outcome}
  {r r' : BridgeProcessRecord}

/-! ## Threads -/

theorem threadStep_effect (c : Choice) (s : ComputeNodeState) (t : Thread) :
    Effect s t.task (threadStep c s t) := by
  unfold threadStep
  split
  · exact .moves rfl rfl rfl rfl rfl rfl
  · exact taskStep_effect c s t.task

/-- The threads after a step of the `i`th. -/
def OperatorSystem.threadsAfter (x : OperatorSystem) (i : Nat) (o : Outcome) : List Thread :=
  x.threads.set i ⟨o.task, o.notifying⟩ ++
    (o.started.map fun task => (⟨task, none⟩ : Thread)).toList

variable {i : Nat} {task' : Task} {t' : Thread}

theorem operatorStep_run {t : Thread} (c : Choice) (at_ : x.threads[i]? = some t) :
    operatorStep (.run i c) x =
      ⟨(threadStep c x.shared t).shared, x.threadsAfter i (threadStep c x.shared t)⟩ := by
  simp only [operatorStep, at_, OperatorSystem.threadsAfter]

theorem operatorStep_run_none (c : Choice) (absent : x.threads[i]? = none) :
    operatorStep (.run i c) x = x := by
  simp only [operatorStep, absent]

theorem threadsAfter_elim {i j : Nat} (after : (x.threadsAfter i o)[j]? = some t') :
    (j = i ∧ t' = ⟨o.task, o.notifying⟩) ∨ (j ≠ i ∧ x.threads[j]? = some t') ∨
      ∃ task, o.started = some task ∧ t' = ⟨task, none⟩ ∧ j = x.threads.length := by
  unfold OperatorSystem.threadsAfter at after
  by_cases bound : j < x.threads.length
  · rw [List.getElem?_append_left (by simpa using bound)] at after
    by_cases same : i = j
    · subst same
      rw [List.getElem?_set_self bound] at after
      exact .inl ⟨rfl, (Option.some.inj after).symm⟩
    · rw [List.getElem?_set_ne same] at after
      exact .inr (.inl ⟨Ne.symm same, after⟩)
  · rw [List.getElem?_append_right (by simpa using bound)] at after
    cases started : o.started with
    | none => simp [started] at after
    | some task =>
      rw [started, List.length_set] at after
      simp only [Option.map_some, Option.toList_some, List.getElem?_singleton] at after
      split at after
      · cases after
        exact .inr (.inr ⟨task, rfl, rfl, by omega⟩)
      · cases after

theorem threadsAfter_self {t : Thread} (at_ : x.threads[i]? = some t) :
    (⟨o.task, o.notifying⟩ : Thread) ∈ x.threadsAfter i o := by
  have bound := (List.getElem?_eq_some_iff.mp at_).1
  exact List.mem_append_left _ (List.mem_set bound _)

theorem threadsAfter_other {i j : Nat} (ne : j ≠ i)
    (at_ : x.threads[j]? = some t') : t' ∈ x.threadsAfter i o := by
  refine List.mem_append_left _ (List.mem_of_getElem? (i := j) ?_)
  rw [List.getElem?_set_ne (Ne.symm ne), at_]

theorem threadsAfter_started (started : o.started = some task) :
    (⟨task, none⟩ : Thread) ∈ x.threadsAfter i o :=
  List.mem_append_right _ (by simp [started])

/-- How many threads do `P` after a step: the one that took it has changed, and what was
started does not. -/
theorem countP_threadsAfter {t : Thread} (P : Task → Bool)
    (at_ : x.threads[i]? = some t) (idle : ∀ task, o.started = some task → P task = false) :
    (x.threadsAfter i o).countP (fun t => P t.task) + (if P t.task then 1 else 0) =
      x.threads.countP (fun t => P t.task) + if P o.task then 1 else 0 := by
  obtain ⟨bound, get⟩ := List.getElem?_eq_some_iff.mp at_
  have extra : (o.started.map fun task => (⟨task, none⟩ : Thread)).toList.countP
      (fun t => P t.task) = 0 := by
    cases started : o.started with
    | none => rfl
    | some task => simp [idle task started]
  have present : (if P t.task then 1 else 0) ≤ x.threads.countP fun t => P t.task := by
    split
    · next does => exact List.countP_pos_iff.mpr ⟨t, List.mem_of_getElem? at_, does⟩
    · exact Nat.zero_le _
  simp only [OperatorSystem.threadsAfter, List.countP_append, extra, List.countP_set bound, get]
  omega

theorem Effect.started_marks (effect : Effect s task o) (started : o.started = some task') :
    ∃ session firstDeadline r, task = .mark session firstDeadline ∧ s.bridgeProcess = some r ∧
      r.matchesSession session ∧ r.shutdownWorkerStarted = false ∧
      task' = .supervise session r.notify ∧
      ∀ r', o.shared.bridgeProcess = some r' → r'.shutdownWorkerStarted := by
  cases effect with
  | keeps _ _ _ none_ | attaches _ _ _ _ _ _ none_ | decides _ _ _ _ _ _ _ none_ =>
    rw [none_] at started
    cases started
  | numbers _ out | reserves _ _ out | takes _ _ _ _ _ out | claims _ _ _ _ _ _ _ out
  | completes _ _ _ _ out =>
    rw [out] at started
    cases started
  | marks here found matching _ out =>
    rw [out] at started ⊢
    simp only at started
    split at started
    · cases started
    · next unstarted =>
      cases started
      refine ⟨_, _, _, here, found, matching, by simpa using unstarted, rfl, ?_⟩
      rintro r' ⟨⟩
      rfl

theorem Effect.started_eq (effect : Effect s task o)
    (started : o.started = some task') : ∃ session marked, task' = .supervise session marked := by
  obtain ⟨session, _, r, _, _, _, _, rfl, _⟩ := effect.started_marks started
  exact ⟨session, r.notify, rfl⟩

theorem Effect.started_stage (effect : Effect s task o)
    (started : o.started = some task') : task'.stage = none := by
  obtain ⟨_, _, rfl⟩ := effect.started_eq started
  rfl

/-! ## The record at each stage -/

/-- What the record of a session looks like while its start task is at a stage. -/
def Stage.Holds (r : BridgeProcessRecord) : Stage → Prop
  | .reserving => False
  | .starting => r.phase ≠ .running ∧ r.child = none
  | .reading => r.phase ≠ .starting
  | .finalizing => (r.phase = .stopping ∨ r.phase = .completed) ∧ r.child = none
  | .ended => r.phase = .stopping ∨ r.phase = .completed
  | .reporting => True

/-- What every record looks like. -/
structure BridgeProcessRecord.Sound (r : BridgeProcessRecord) : Prop where
  unattached : r.phase = .starting → r.child = none
  released : r.phase = .completed → r.child = none
  decided : r.stopResult.isSome ↔ r.phase = .completed
  worker : r.shutdownWorkerStarted → r.phase = .stopping ∨ r.phase = .completed

/-- The sessions and their start tasks agree with the record. -/
structure Coherent (x : OperatorSystem) : Prop where
  distinct : ∀ (i j : Nat) (t t' : Thread) session stage stage', x.threads[i]? = some t → x.threads[j]? = some t' →
    t.task.stage = some (session, stage) → t'.task.stage = some (session, stage') → i = j
  counted : ∀ t ∈ x.threads, ∀ session stage, t.task.stage = some (session, stage) →
    ∃ n ≤ x.shared.nextSessionId, session = toString n
  recorded : ∀ r, x.shared.bridgeProcess = some r →
    ∃ n ≤ x.shared.nextSessionId, r.sessionId = toString n
  sound : ∀ r, x.shared.bridgeProcess = some r → r.Sound
  staged : ∀ r, x.shared.bridgeProcess = some r → ∀ t ∈ x.threads, ∀ stage,
    t.task.stage = some (r.sessionId, stage) → stage.Holds r
  worked : ∀ r, x.shared.bridgeProcess = some r → r.phase = .stopping →
    ∃ t ∈ x.threads, t.task.WorksFor r

theorem newOperator_coherent : Coherent newOperator := by
  constructor <;> simp [newOperator]

/-! ## One step -/

section Step

variable {t : Thread}

theorem Effect.sound (effect : Effect s task o) (sound : ∀ r, s.bridgeProcess = some r → r.Sound)
    (staged : ∀ r, s.bridgeProcess = some r → ∀ stage, task.stage = some (r.sessionId, stage) →
      stage.Holds r)
    (after : o.shared.bridgeProcess = some r') : r'.Sound := by
  cases effect with
  | keeps record => exact sound r' (record ▸ after)
  | numbers _ out =>
    rw [out] at after
    exact sound r' after
  | reserves _ _ out =>
    rw [out] at after
    cases after
    exact ⟨fun _ => rfl, nofun, by simp [BridgeProcessRecord.new], nofun⟩
  | attaches here found owned pending shared =>
    rw [shared] at after
    cases after
    have old := sound _ found
    obtain ⟨starting, rfl⟩ | ⟨stopping, rfl⟩ := pending
    · refine ⟨nofun, nofun, ?_, fun worker => ?_⟩
      · simpa [starting] using old.decided
      · have := old.worker worker
        simp [starting] at this
    · refine ⟨?_, ?_, old.decided, old.worker⟩ <;> simp [stopping]
  | takes here found matching undecided taken out =>
    rw [out] at after
    cases after
    have old := sound _ found
    rw [taken]
    exact ⟨fun _ => rfl, fun _ => rfl, old.decided, old.worker⟩
  | claims here found owned unstopped uncompleted undecided claimed out =>
    rw [out] at after
    cases after
    rw [claimed]
    exact ⟨fun _ => rfl, fun _ => rfl, by simp [undecided], fun _ => .inl rfl⟩
  | marks here found matching undecided out =>
    rw [out] at after
    cases after
    exact ⟨nofun, nofun, by simp [undecided], fun _ => .inl rfl⟩
  | decides here found owned record decided decisions attachments started child =>
    rw [record] at after
    cases after
    refine ⟨fun starting => ?_, fun _ => ?_, by simp [decided.stopResult, decided.phase],
      fun _ => .inr decided.phase⟩
    · rw [decided.phase] at starting
      cases starting
    · obtain none_ | ⟨same, session, lastError, failure, rfl⟩ := child
      · exact none_
      · have stage := staged _ found .starting (by rw [show _ = session from owned]; rfl)
        exact same.trans stage.2
  | completes here found owned unstopped out =>
    subst here
    rw [out] at after
    cases after
    have old := sound _ found
    obtain stopping | completed := staged _ found .ended (by rw [owned]; rfl)
    · exact absurd stopping unstopped
    · exact ⟨nofun, fun _ => old.released completed, by simp [old.decided, completed],
        fun _ => .inr rfl⟩

/-- The start task has not attached a child yet. -/
def Stage.early : Stage → Bool
  | .reserving | .starting => true
  | _ => false

variable {stage' : Stage} {session : String}

/-- The session of a start task never changes, and a new one is counted. -/
theorem threadStep_stage (after : (threadStep c s t).task.stage = some (session, stage')) :
    (∃ stage, t.task.stage = some (session, stage) ∧ (stage' = .reserving → stage = .reserving) ∧
        (stage'.early → stage.early)) ∨
      session = toString (s.nextSessionId + 1) ∧
        (threadStep c s t).shared.nextSessionId = s.nextSessionId + 1 ∧ stage' = .reserving := by
  have effect := threadStep_effect c s t
  generalize threadStep c s t = o at after effect ⊢
  cases effect with
  | keeps _ _ _ _ passes =>
    generalize t.task.stage = before at passes ⊢
    rw [after] at passes
    cases passes with
    | same => exact .inl ⟨_, rfl, id, id⟩
    | reports _ stage => exact .inl ⟨stage, rfl, nofun, nofun⟩
    | ends => exact .inl ⟨_, rfl, nofun, nofun⟩
  | numbers here out =>
    subst out
    cases after
    exact .inr ⟨rfl, rfl, rfl⟩
  | reserves here _ out =>
    subst out
    cases after
    exact .inl ⟨.reserving, by rw [here]; rfl, fun _ => rfl, fun _ => rfl⟩
  | attaches here _ _ _ _ next =>
    obtain next | next := next <;>
      (rw [next] at after; cases after; exact .inl ⟨.starting, by rw [here]; rfl, nofun, nofun⟩)
  | takes _ _ _ _ _ out | marks _ _ _ _ out =>
    subst out
    cases after
  | claims here _ _ _ _ _ _ out =>
    subst out
    cases after
    exact .inl ⟨.reading, by rw [here]; rfl, nofun, nofun⟩
  | decides _ _ _ _ _ _ _ _ _ next =>
    obtain ⟨⟨stage, before⟩, ended⟩ := next session stage' after
    obtain rfl | rfl := ended <;> exact .inl ⟨stage, before, nofun, nofun⟩
  | completes here _ _ _ out =>
    subst out
    obtain ⟨rfl, rfl⟩ := startReturned_stage after
    exact .inl ⟨.ended, by rw [here]; rfl, nofun, nofun⟩

theorem Effect.staged (effect : Effect s task o) (sound : ∀ r, s.bridgeProcess = some r → r.Sound)
    (staged : ∀ r, s.bridgeProcess = some r → ∀ stage, task.stage = some (r.sessionId, stage) →
      stage.Holds r)
    (recorded : ∀ r, s.bridgeProcess = some r → r.sessionId ≠ toString (s.nextSessionId + 1))
    (after : o.shared.bridgeProcess = some r')
    (next : o.task.stage = some (r'.sessionId, stage')) : stage'.Holds r' := by
  cases effect with
  | keeps record _ _ _ passes =>
    rw [record] at after
    generalize before_eq : task.stage = before at passes
    rw [next] at passes
    cases passes with
    | same => exact staged r' after stage' before_eq
    | reports => trivial
    | ends closed =>
      obtain stopping | decided | completed := closed r' after rfl
      · exact .inl stopping
      · exact .inr ((sound r' after).decided.mp decided)
      · exact .inr completed
  | numbers _ out =>
    subst out
    have same : toString (s.nextSessionId + 1) = r'.sessionId := (Prod.mk.inj (Option.some.inj next)).1
    exact absurd same.symm (recorded r' after)
  | reserves _ _ out =>
    subst out
    cases after
    cases next
    exact ⟨nofun, rfl⟩
  | attaches here _ _ pending shared next' =>
    rw [shared] at after
    cases after
    have reading : stage' = .reading := by
      obtain next' | next' := next' <;> (rw [next'] at next; cases next; rfl)
    subst reading
    obtain ⟨_, rfl⟩ | ⟨stopping, rfl⟩ := pending
    · exact nofun
    · simp [Stage.Holds, stopping]
  | takes _ _ _ _ _ out | marks _ _ _ _ out =>
    subst out
    cases next
  | claims _ _ _ _ _ _ claimed out =>
    subst out
    cases after
    cases next
    rw [claimed]
    exact ⟨.inl rfl, rfl⟩
  | decides _ _ _ record decided _ _ _ _ next' =>
    rw [record] at after
    cases after
    obtain rfl | rfl := (next' _ _ next).2
    · exact .inr decided.phase
    · trivial
  | completes _ _ _ _ out =>
    subst out
    obtain ⟨-, rfl⟩ := startReturned_stage next
    trivial

/-- A step leaves the record as another start task needs it. -/
theorem Effect.staged_other (effect : Effect s task o)
    (after : o.shared.bridgeProcess = some r')
    (other : ∀ stage, task.stage ≠ some (r'.sessionId, stage))
    (staged : ∀ r, s.bridgeProcess = some r → r.sessionId = r'.sessionId → stage'.Holds r) :
    stage'.Holds r' := by
  cases effect with
  | keeps record =>
    rw [record] at after
    exact staged r' after rfl
  | numbers _ out =>
    subst out
    exact staged r' after rfl
  | reserves here _ out =>
    subst out
    cases after
    subst here
    exact absurd rfl (other .reserving)
  | attaches here _ owned _ shared =>
    rw [shared] at after
    cases after
    subst here
    exact absurd (by rw [← owned]; rfl) (other .starting)
  | takes _ found _ _ taken out =>
    subst out
    cases after
    have old := staged _ found (by rw [taken])
    rw [taken]
    cases stage' with
    | starting => exact ⟨old.1, rfl⟩
    | finalizing => exact ⟨old.1, rfl⟩
    | _ => exact old
  | claims here _ owned _ _ _ claimed out =>
    subst out
    cases after
    subst here
    exact absurd (by rw [claimed, ← owned]; rfl) (other .reading)
  | marks _ found _ _ out =>
    subst out
    cases after
    have old := staged _ found rfl
    cases stage' with
    | reserving => exact old.elim
    | starting => exact ⟨nofun, old.2⟩
    | reading => exact nofun
    | finalizing => exact ⟨.inl rfl, old.2⟩
    | ended => exact .inl rfl
    | reporting => trivial
  | decides _ found _ record decided _ _ _ child =>
    rw [record] at after
    cases after
    have old := staged _ found decided.sessionId.symm
    have released : ∀ {r : BridgeProcessRecord}, r.child = none → r'.child = r.child → r'.child = none :=
      fun free same => same.trans free
    cases stage' with
    | reserving => exact old.elim
    | starting =>
      refine ⟨by simp [decided.phase], ?_⟩
      obtain free | ⟨same, _⟩ := child
      · exact free
      · exact released old.2 same
    | reading => simp [Stage.Holds, decided.phase]
    | finalizing =>
      refine ⟨.inr decided.phase, ?_⟩
      obtain free | ⟨same, _⟩ := child
      · exact free
      · exact released old.2 same
    | ended => exact .inr decided.phase
    | reporting => trivial
  | completes here found owned _ out =>
    subst out
    cases after
    subst here
    exact absurd (by rw [← owned]; rfl) (other .ended)

/-- A record in its `Stopping` phase keeps a task that will complete it. -/
theorem Effect.worked (effect : Effect s t.task o) (at_ : x.threads[i]? = some t)
    (shared : s = x.shared) (coherent : Coherent x) (after : o.shared.bridgeProcess = some r')
    (stopping : r'.phase = .stopping) : ∃ t' ∈ x.threadsAfter i o, t'.task.WorksFor r' := by
  subst shared
  -- a task of another thread, or of this one when it works on
  have carried : ∀ r, x.shared.bridgeProcess = some r → r.phase = .stopping →
      (∀ task : Task, task.WorksFor r → task.WorksFor r') →
      (t.task.WorksFor r → o.task.WorksFor r') → ∃ t' ∈ x.threadsAfter i o, t'.task.WorksFor r' := by
    intro r found old same own
    obtain ⟨t', mem, works⟩ := coherent.worked r found old
    obtain ⟨j, at'⟩ := List.mem_iff_getElem?.mp mem
    by_cases ne : j = i
    · subst ne
      rw [at_] at at'
      cases at'
      exact ⟨_, threadsAfter_self at_, own works⟩
    · exact ⟨t', threadsAfter_other ne at', same _ works⟩
  cases effect with
  | keeps record _ _ _ _ works =>
    rw [record] at after
    have undecided : r'.stopResult = none := by
      have sound := (coherent.sound r' after).decided
      simpa [stopping] using sound
    exact carried r' after stopping (fun _ h => h) (works r' after undecided)
  | numbers here out =>
    subst out
    exact carried r' after stopping (fun _ h => h) fun h => by
      rw [here] at h
      exact absurd h (@Task.not_worksFor .nextSession rfl (by rintro _ ⟨⟩) r')
  | reserves _ _ out | completes _ _ _ _ out =>
    subst out
    cases after
    cases stopping
  | @attaches _ session child _ here found _ pending shared =>
    rw [shared] at after
    cases after
    obtain ⟨_, rfl⟩ | ⟨old, _⟩ := pending
    · cases stopping
    · exact carried _ found old (fun _ h => h) fun h => by
        rw [here] at h
        exact absurd h (@Task.not_worksFor (.attach session child) rfl (by rintro _ ⟨⟩) _)
  | @takes r _ _ _ _ here found _ _ taken out =>
    subst out
    cases after
    have same : ∀ task : Task, task.WorksFor r → task.WorksFor r' := by
      rw [taken]
      exact fun _ h => h
    refine carried _ found (by rw [taken] at stopping; exact stopping) same fun h => ?_
    rw [here] at h
    obtain ⟨session, at', matching⟩ | at' := same _ h
    · exact .inl ⟨session, at', matching⟩
    · cases at'
  | claims here found owned _ _ _ claimed out =>
    subst out
    cases after
    refine ⟨_, threadsAfter_self at_, .inr ?_⟩
    rw [claimed]
    simp [goes, Task.stage, Owner.stage, owned]
  | marks here found matching undecided out =>
    subst out
    cases after
    next r _ _ =>
    by_cases started : r.shutdownWorkerStarted
    · have old : r.phase = .stopping := by
        have sound := coherent.sound r found
        obtain stopping | completed := sound.worker started
        · exact stopping
        · have decided := sound.decided.mpr completed
          simp [undecided] at decided
      refine carried r found old (fun _ h => h) fun h => ?_
      rw [here] at h
      exact absurd h (@Task.not_worksFor (.mark _ _) rfl (by rintro _ ⟨⟩) r)
    · refine ⟨_, threadsAfter_started (by simp only [started]; rfl), .inl ⟨_, rfl, matching⟩⟩
  | decides _ _ _ record decided =>
    rw [record] at after
    cases after
    rw [decided.phase] at stopping
    cases stopping

theorem threadStep_grows (c : Choice) (s : ComputeNodeState) (t : Thread) :
    s.nextSessionId ≤ (threadStep c s t).shared.nextSessionId := by
  unfold threadStep
  split
  · exact Nat.le_refl _
  · by_cases new : t.task = .nextSession
    · rw [new]
      exact Nat.le_succ _
    · exact Nat.le_of_eq ((taskStep_frame c s t.task).counter new).symm

theorem not_counted {n : Nat} (counted : ∃ m ≤ n, session = toString m) :
    session ≠ toString (n + 1) := by
  obtain ⟨m, le, rfl⟩ := counted
  intro same
  have := toString_injective same
  omega

/-- The record is the same one, later. -/
structure Continues (r r' : BridgeProcessRecord) : Prop where
  sessionId : r'.sessionId = r.sessionId
  notify : r'.notify = r.notify
  worker : r.shutdownWorkerStarted → r'.shutdownWorkerStarted
  decided : r.stopResult.isSome → r'.stopResult.isSome

theorem Continues.refl (r : BridgeProcessRecord) : Continues r r :=
  ⟨rfl, rfl, id, id⟩

theorem Effect.origin (effect : Effect s task o) (after : o.shared.bridgeProcess = some r') :
    (∃ r, s.bridgeProcess = some r ∧ Continues r r') ∨
      ∃ session, task = .reserve session ∧ r' = .new session s.notified.length ∧
        o.shared.notified.length = s.notified.length + 1 := by
  cases effect with
  | keeps record =>
    rw [record] at after
    exact .inl ⟨r', after, .refl r'⟩
  | numbers _ out =>
    subst out
    exact .inl ⟨r', after, .refl r'⟩
  | reserves here _ out =>
    subst out
    cases after
    exact .inr ⟨_, here, rfl, by simp [notifies]⟩
  | attaches _ found _ _ shared =>
    rw [shared] at after
    cases after
    exact .inl ⟨_, found, rfl, rfl, id, id⟩
  | takes _ found _ _ taken out =>
    subst out
    cases after
    refine .inl ⟨_, found, ?_⟩
    rw [taken]
    exact ⟨rfl, rfl, id, id⟩
  | claims _ found _ _ _ _ claimed out =>
    subst out
    cases after
    refine .inl ⟨_, found, ?_⟩
    rw [claimed]
    exact ⟨rfl, rfl, fun _ => rfl, id⟩
  | marks _ found _ _ out =>
    subst out
    cases after
    exact .inl ⟨_, found, rfl, rfl, fun _ => rfl, id⟩
  | completes _ found _ _ out =>
    subst out
    cases after
    exact .inl ⟨_, found, rfl, rfl, id, id⟩
  | decides _ found _ record decided =>
    rw [record] at after
    cases after
    exact .inl ⟨_, found, decided.sessionId, decided.notify, by rw [decided.worker]; exact id,
      fun _ => by simp [decided.stopResult]⟩

theorem Effect.remains (effect : Effect s task o) (found : s.bridgeProcess = some r) :
    (∃ r', o.shared.bridgeProcess = some r' ∧ r'.notify = r.notify) ∨
      ∃ session, task = .reserve session ∧ r.isActive = false := by
  have same : ∀ {r₀ : BridgeProcessRecord}, s.bridgeProcess = some r₀ → r₀.notify = r.notify := by
    intro r₀ found₀
    rw [found] at found₀
    cases found₀
    rfl
  cases effect with
  | keeps record =>
    rw [record]
    exact .inl ⟨r, found, rfl⟩
  | numbers _ out =>
    subst out
    exact .inl ⟨r, found, rfl⟩
  | reserves here free =>
    rw [found] at free
    exact .inr ⟨_, here, by simpa using free⟩
  | attaches _ found' _ _ shared =>
    have here := same found'
    rw [shared]
    exact .inl ⟨_, rfl, here⟩
  | takes _ found' _ _ taken out | claims _ found' _ _ _ _ taken out =>
    have here := same found'
    subst out
    exact .inl ⟨_, rfl, by rw [taken]; exact here⟩
  | marks _ found' _ _ out | completes _ found' _ _ out =>
    have here := same found'
    subst out
    exact .inl ⟨_, rfl, here⟩
  | decides _ found' _ record decided =>
    exact .inl ⟨_, record, decided.notify.trans (same found')⟩

theorem Coherent.run (coherent : Coherent x) (at_ : x.threads[i]? = some t) (c : Choice) :
    Coherent ⟨(threadStep c x.shared t).shared, x.threadsAfter i (threadStep c x.shared t)⟩ := by
  have effect := threadStep_effect c x.shared t
  have grows := threadStep_grows c x.shared t
  have stages := @threadStep_stage c x.shared t
  have mem := List.mem_of_getElem? at_
  have own : ∀ r, x.shared.bridgeProcess = some r → ∀ stage,
      t.task.stage = some (r.sessionId, stage) → stage.Holds r :=
    fun r found stage at' => coherent.staged r found t mem stage at'
  have counted := coherent.counted t mem
  generalize threadStep c x.shared t = o at effect grows stages ⊢
  -- the threads after the step whose tasks belong to a session
  have old : ∀ {j : Nat} {t' : Thread} {session stage},
      (x.threadsAfter i o)[j]? = some t' → t'.task.stage = some (session, stage) →
      (∃ t'' stage', x.threads[j]? = some t'' ∧ t''.task.stage = some (session, stage')) ∨
        (j = i ∧ session = toString (x.shared.nextSessionId + 1) ∧
          o.shared.nextSessionId = x.shared.nextSessionId + 1) := by
    intro j t' session stage after stage_eq
    obtain ⟨rfl, rfl⟩ | ⟨_, at'⟩ | ⟨task, started, rfl, -⟩ := threadsAfter_elim after
    · obtain ⟨stage', before, _⟩ | new := stages stage_eq
      · exact .inl ⟨t, stage', at_, before⟩
      · exact .inr ⟨rfl, new.1, new.2.1⟩
    · exact .inl ⟨t', stage, at', stage_eq⟩
    · rw [effect.started_stage started] at stage_eq
      cases stage_eq
  refine ⟨?_, ?_, ?_, ?_, ?_, ?_⟩
  · intro j k t₁ t₂ session stage stage' at₁ at₂ stage₁ stage₂
    obtain ⟨t₁', _, at₁', stage₁'⟩ | ⟨rfl, new₁, _⟩ := old at₁ stage₁ <;>
      obtain ⟨t₂', _, at₂', stage₂'⟩ | ⟨rfl, new₂, _⟩ := old at₂ stage₂
    · exact coherent.distinct _ _ _ _ _ _ _ at₁' at₂' stage₁' stage₂'
    · exact absurd new₂ (not_counted (coherent.counted _ (List.mem_of_getElem? at₁') _ _ stage₁'))
    · exact absurd new₁ (not_counted (coherent.counted _ (List.mem_of_getElem? at₂') _ _ stage₂'))
    · rfl
  · intro t' mem' session stage stage_eq
    obtain ⟨j, after⟩ := List.mem_iff_getElem?.mp mem'
    obtain ⟨t'', stage', at', before⟩ | ⟨_, new, next⟩ := old after stage_eq
    · obtain ⟨n, le, eq⟩ := coherent.counted _ (List.mem_of_getElem? at') _ _ before
      exact ⟨n, Nat.le_trans le grows, eq⟩
    · exact ⟨_, Nat.le_of_eq next.symm, new⟩
  · intro r after
    obtain ⟨r₀, found, same⟩ | ⟨session, here, rfl, -⟩ := effect.origin after
    · obtain ⟨n, le, eq⟩ := coherent.recorded r₀ found
      exact ⟨n, Nat.le_trans le grows, same.sessionId.trans eq⟩
    · obtain ⟨n, le, eq⟩ := counted session .reserving (by rw [here]; rfl)
      exact ⟨n, Nat.le_trans le grows, eq⟩
  · exact fun r after => effect.sound coherent.sound own after
  · intro r after t' mem' stage stage_eq
    obtain ⟨j, at'⟩ := List.mem_iff_getElem?.mp mem'
    obtain ⟨rfl, rfl⟩ | ⟨ne, at'⟩ | ⟨task, started, rfl, -⟩ := threadsAfter_elim at'
    · exact effect.staged coherent.sound own
        (fun r found => not_counted (coherent.recorded r found)) after stage_eq
    · refine effect.staged_other after (fun stage' own' => ne ?_) fun r₀ found same => ?_
      · exact coherent.distinct _ _ _ _ _ _ _ at' at_ stage_eq own'
      · rw [← same] at stage_eq
        exact coherent.staged r₀ found t' (List.mem_of_getElem? at') stage stage_eq
    · rw [effect.started_stage started] at stage_eq
      cases stage_eq
  · exact fun r after stopping => effect.worked at_ rfl coherent after stopping

end Step

theorem Coherent.call (coherent : Coherent x) {t : Thread} (stage : t.task.stage = none) :
    Coherent { x with threads := x.threads ++ [t] } := by
  have elim : ∀ {j : Nat} {t' : Thread} {session stage},
      (x.threads ++ [t])[j]? = some t' → t'.task.stage = some (session, stage) →
      x.threads[j]? = some t' := by
    intro j t' session stage' after stage_eq
    by_cases bound : j < x.threads.length
    · rwa [List.getElem?_append_left bound] at after
    · rw [List.getElem?_append_right (Nat.le_of_not_lt bound)] at after
      have mem := List.mem_of_getElem? after
      rw [List.mem_singleton] at mem
      rw [mem, stage] at stage_eq
      cases stage_eq
  refine ⟨?_, ?_, coherent.recorded, coherent.sound, ?_, ?_⟩
  · intro j k t₁ t₂ session stage₁ stage₂ at₁ at₂ eq₁ eq₂
    exact coherent.distinct j k t₁ t₂ _ _ _ (elim at₁ eq₁) (elim at₂ eq₂) eq₁ eq₂
  · intro t' mem session stage' eq
    obtain ⟨j, at_⟩ := List.mem_iff_getElem?.mp mem
    exact coherent.counted t' (List.mem_of_getElem? (elim at_ eq)) session stage' eq
  · intro r found t' mem stage' eq
    obtain ⟨j, at_⟩ := List.mem_iff_getElem?.mp mem
    exact coherent.staged r found t' (List.mem_of_getElem? (elim at_ eq)) stage' eq
  · intro r found stopping
    obtain ⟨t', mem, works⟩ := coherent.worked r found stopping
    exact ⟨t', List.mem_append_left _ mem, works⟩

theorem operatorStep_coherent (ev : OperatorEvent) (x : OperatorSystem) (coherent : Coherent x) :
    Coherent (operatorStep ev x) := by
  cases ev with
  | start | stop => exact coherent.call rfl
  | run i c =>
    cases at_ : x.threads[i]? with
    | none => rwa [operatorStep_run_none c at_]
    | some t =>
      rw [operatorStep_run c at_]
      exact coherent.run at_ c
  | exit bridge exitStatus | tick elapsed =>
    exact ⟨coherent.distinct, coherent.counted, coherent.recorded, coherent.sound,
      coherent.staged, coherent.worked⟩

end Operator
