import TokenPlace.Desktop.Sessions

/-!
# Shutdown workers and waiting stops

A supervisor and a waiting stop belong to the record that their stop has marked, and a
finalizer to the record that it has claimed; the `Notify` of the record names it.
`Anchored` is what the name and the session have to do with the current record, for
good. Each record has at most one shutdown worker, supervisor or finalizer.
-/

namespace Operator

variable {c : Choice} {s s' : ComputeNodeState} {x : OperatorSystem} {task : Task} {o : Outcome}
  {r r' : BridgeProcessRecord} {t : Thread}

/-! ## Roles -/

/-- What a task does for a record: it shuts its process down, or waits for its result. -/
inductive Role
  | supervisor (session : Option String) (marked : Nat)
  | finalizer (session : String) (notify : Nat)
  | waiter (waiter : Waiter)

/-- The session that the role is played for. -/
def Role.session : Role → Option String
  | .supervisor session _ => session
  | .finalizer session _ => some session
  | .waiter locals => locals.session

/-- The `Notify` of the record that the role is played for. -/
def Role.notify : Role → Nat
  | .supervisor _ marked => marked
  | .finalizer _ notify => notify
  | .waiter locals => locals.notify

/-- The role of a shutdown worker. -/
def Role.works : Role → Bool
  | .waiter _ => false
  | _ => true

def Owner.role : Owner → Option Role
  | .supervisor locals => some (.supervisor locals.session locals.marked)
  | .stdoutEnd locals => some (.finalizer locals.session locals.notify)
  | _ => none

def Finalizer.role : Finalizer → Option Role
  | .supervisor locals => some (.supervisor locals.session locals.marked)
  | .stdoutEnd locals => some (.finalizer locals.session locals.notify)
  | .stopCall _ => none

/-- The role of a task. A stop that has returned is still the one that has waited. -/
def Task.role : Task → Option Role
  | .supervise session marked => some (.supervisor session marked)
  | .registerSupervisor locals | .takeChild locals _ | .childDeadline locals _ _ =>
    some (.supervisor locals.session locals.marked)
  | .awaitChild locals _ | .registerAck locals _ | .checkAck locals _ _ =>
    some (.supervisor locals.session locals.marked)
  | .ackDeadline locals _ _ | .awaitAck locals _ _ | .commitStop locals _ _ =>
    some (.supervisor locals.session locals.marked)
  | .acknowledged locals _ | .bridgeExit locals _ _ _ | .commitEnd locals _ _ =>
    some (.finalizer locals.session locals.notify)
  | .cancel owner _ _ | .tryWait owner _ | .untilDeadline owner _ | .kill owner _ => owner.role
  | .finalizeRead finalizer _ _ | .finalizeWrite finalizer _ _ => finalizer.role
  | .register waiter | .check waiter _ | .pastDeadline waiter _ | .parked waiter _ =>
    some (.waiter waiter)
  | .returned (some waiter) _ _ => some (.waiter waiter)
  | _ => none

theorem Owner.role_of_marked {owner : Owner} {session : Option String} {marked : Nat}
    (at_ : owner.marked = some (session, marked)) :
    owner.role = some (.supervisor session marked) := by
  cases owner with
  | supervisor =>
    cases at_
    rfl
  | _ => cases at_

theorem Task.role_of_marked {session : Option String} {marked : Nat}
    (at_ : task.marked = some (session, marked)) : task.role = some (.supervisor session marked) := by
  cases task with
  | cancel owner | tryWait owner | untilDeadline owner | kill owner => exact owner.role_of_marked at_
  | finalizeRead finalizer | finalizeWrite finalizer =>
    cases finalizer with
    | supervisor =>
      cases at_
      rfl
    | _ => cases at_
  | supervise | registerSupervisor | takeChild | childDeadline | awaitChild | registerAck
  | checkAck | ackDeadline | awaitAck | commitStop =>
    cases at_
    rfl
  | _ => cases at_

theorem Owner.after_role (owner : Owner) (shutdown : Shutdown) :
    (owner.after shutdown).role = owner.role := by
  cases owner with
  | supervisor locals =>
    simp only [Owner.after]
    split <;> rfl
  | _ => rfl

theorem Finalizer.after_role (finalizer : Finalizer) (shutdown : Shutdown) (result : StopResult) :
    (finalizer.after shutdown result).role = finalizer.role := by
  cases finalizer <;> rfl

theorem startReturned_role (session : String) (result : StopResult) :
    (startReturned session result).role = none := by
  cases result <;> rfl

/-- Whether a step may give a task its role. -/
def Task.takesRole : Task → Bool
  | .mark _ _ | .stdoutEnd _ _ _ => true
  | _ => false

theorem Leads.role {task' : Task} (leads : Leads task task') (keeps : task.takesRole = false) :
    task'.role = task.role ∨ task'.role = none := by
  cases leads with
  | recordless | unmarked | marked | unclaimed | claims => cases keeps
  | childless owner | observed owner | killed owner => exact .inl (owner.after_role _)
  | finalized finalizer => exact .inl (finalizer.after_role _ _)
  | replaced | completed => exact .inr (startReturned_role _ _)
  | abandoned | stale | committed | ended => exact .inr rfl
  | _ => exact .inl rfl

/-- A role that a step takes on: for the current record, which has no worker yet if it is
the role of one, and has one then. -/
structure NewRole (s : ComputeNodeState) (o : Outcome) (role : Role) (r : BridgeProcessRecord) :
    Prop where
  found : s.bridgeProcess = some r
  matching : r.matchesSession role.session
  notify : role.notify = r.notify
  unstarted : role.works → r.Sound → r.shutdownWorkerStarted = false
  started : role.works → ∀ r', o.shared.bridgeProcess = some r' → r'.shutdownWorkerStarted

theorem markStep_role (session : Option String) (firstDeadline : Nat) {role : Role}
    (after : (markStep s session firstDeadline).task.role = some role) :
    ∃ r, NewRole s (markStep s session firstDeadline) role r ∧ role.works = false := by
  unfold markStep at after
  split at after
  · cases after
  · next r found =>
    split at after
    · cases after
    · next matching =>
      split at after
      · cases after
      · cases after
        exact ⟨r, ⟨found, by simpa [Role.session] using matching, rfl, nofun, nofun⟩, rfl⟩

theorem stdoutEnd_role {session : String} {startup error : Bool} {role : Role}
    (after : (taskStep c s (.stdoutEnd session startup error)).task.role = some role) :
    ∃ r, NewRole s (taskStep c s (.stdoutEnd session startup error)) role r ∧
      (taskStep c s (.stdoutEnd session startup error)).started = none := by
  simp only [taskStep, claimStdoutEnd] at after ⊢
  cases found : s.recordOf session with
  | none =>
    rw [found] at after
    cases after
  | some r =>
    rw [found] at after
    obtain ⟨current, owned⟩ := recordOf_eq_some.mp found
    by_cases stopping : r.phase = .stopping
    · simp only [stopping, if_true] at after
      cases after
    · by_cases completed : r.stopResult.isSome ∨ r.phase = .completed
      · simp only [stopping, completed, if_true, if_false] at after
        cases after
      · simp only [stopping, completed, if_false] at after ⊢
        cases after
        refine ⟨r, ⟨current, ?_, rfl, fun _ sound => ?_, fun _ r' after => ?_⟩, rfl⟩
        · simp [BridgeProcessRecord.matchesSession, Role.session, owned]
        · by_contra started
          obtain phase | phase := sound.worker (by simpa using started)
          · exact stopping phase
          · exact completed (.inr phase)
        · cases after
          rfl

theorem threadStep_role (c : Choice) (s : ComputeNodeState) (t : Thread) {role : Role}
    (after : (threadStep c s t).task.role = some role) :
    t.task.role = some role ∨
      ∃ r, NewRole s (threadStep c s t) role r ∧ (role.works → (threadStep c s t).started = none) := by
  obtain ⟨task, notifying⟩ := t
  cases notifying with
  | some notify => exact .inl after
  | none =>
    cases takes : task.takesRole with
    | false =>
      obtain same | none_ := (taskStep_leads c s task).role takes
      · exact .inl (same.symm.trans after)
      · rw [show (threadStep c s ⟨task, none⟩).task.role = none from none_] at after
        cases after
    | true =>
      cases task with
      | mark session firstDeadline =>
        obtain ⟨r, new, waits⟩ := markStep_role session firstDeadline after
        exact .inr ⟨r, new, fun works => by rw [waits] at works; cases works⟩
      | stdoutEnd session startup error =>
        obtain ⟨r, new, none_⟩ := @stdoutEnd_role c s session startup error role after
        exact .inr ⟨r, new, fun _ => none_⟩
      | _ => cases takes

/-! ## Notices -/

theorem threadStep_notified (c : Choice) (s : ComputeNodeState) (t : Thread) :
    s.notified.length ≤ (threadStep c s t).shared.notified.length ∧
      ∀ notify < s.notified.length,
        s.notices notify ≤ (threadStep c s t).shared.notices notify := by
  have modified : ∀ notify, s.notified.length ≤ (notifyWaiters s notify).notified.length ∧
      ∀ n < s.notified.length, s.notices n ≤ (notifyWaiters s notify).notices n := by
    intro notify
    refine ⟨by simp [notifyWaiters], fun n _ => ?_⟩
    simp only [ComputeNodeState.notices, notifyWaiters, List.getElem?_modify]
    cases s.notified[n]? with
    | none => exact Nat.le_refl _
    | some count => by_cases same : notify = n <;> simp [same]
  unfold threadStep
  split
  · exact modified _
  · have frame := taskStep_frame c s t.task
    cases changes : t.task.changesNotices with
    | false =>
      have same := frame.notified changes
      simp only [ComputeNodeState.notices, same]
      exact ⟨Nat.le_refl _, fun _ _ => Nat.le_refl _⟩
    | true =>
      cases task_eq : t.task with
      | reserve session =>
        simp only [taskStep, reserveStarting]
        split
        · exact ⟨Nat.le_refl _, fun _ _ => Nat.le_refl _⟩
        · next h =>
          split at h <;> cases h
          refine ⟨by simp [notifies], fun n bound => ?_⟩
          simp [ComputeNodeState.notices, notifies, List.getElem?_append_left bound]
      | stdoutEnd session startup error =>
        simp only [taskStep, claimStdoutEnd]
        cases s.recordOf session with
        | none => exact ⟨Nat.le_refl _, fun _ _ => Nat.le_refl _⟩
        | some r =>
          by_cases stopping : r.phase = .stopping
          · simp only [stopping, if_true]
            exact modified _
          · by_cases completed : r.stopResult.isSome ∨ r.phase = .completed
            · simp only [stopping, completed, if_true, if_false]
              exact modified _
            · simp only [stopping, completed, if_false]
              exact ⟨Nat.le_refl _, fun _ _ => Nat.le_refl _⟩
      | takeChild supervisor seen =>
        simp only [taskStep, takeChildStep]
        split
        · exact ⟨Nat.le_refl _, fun _ _ => Nat.le_refl _⟩
        · split
          · exact ⟨Nat.le_refl _, fun _ _ => Nat.le_refl _⟩
          · split
            · exact modified _
            · exact ⟨Nat.le_refl _, fun _ _ => Nat.le_refl _⟩
      | _ =>
        rw [task_eq] at changes
        cases changes

/-! ## Records that are named for good -/

/-- The session and the `Notify` are those of one record, whether it is the current one
or has been replaced. -/
structure Anchored (x : OperatorSystem) (session : Option String) (notify : Nat) : Prop where
  bound : notify < x.shared.notified.length
  matching : ∀ r, x.shared.bridgeProcess = some r → r.notify = notify → r.matchesSession session
  named : ∀ a, session = some a → ∀ r, x.shared.bridgeProcess = some r → r.sessionId = a →
    r.notify = notify
  reserved : ∀ a, session = some a → ∀ t ∈ x.threads, t.task.stage ≠ some (a, .reserving)
  counted : ∀ a, session = some a → ∃ n ≤ x.shared.nextSessionId, a = toString n

theorem matchesSession_congr (same : r'.sessionId = r.sessionId) (session : Option String) :
    r'.matchesSession session = r.matchesSession session := by
  simp only [BridgeProcessRecord.matchesSession, same]

theorem Coherent.sessionId_ne (coherent : Coherent x) (found : x.shared.bridgeProcess = some r) :
    r.sessionId ≠ "" := by
  obtain ⟨n, _, eq⟩ := coherent.recorded r found
  rw [eq]
  exact Nat.repr_ne_empty

theorem Coherent.matchesSession_iff (coherent : Coherent x)
    (found : x.shared.bridgeProcess = some r) (a : String) :
    r.matchesSession (some a) ↔ r.sessionId = a := by
  simp [BridgeProcessRecord.matchesSession, coherent.sessionId_ne found]

theorem Coherent.anchored (coherent : Coherent x) (found : x.shared.bridgeProcess = some r)
    (bound : r.notify < x.shared.notified.length) {session : Option String}
    (matching : r.matchesSession session) : Anchored x session r.notify := by
  have same : ∀ a, session = some a → r.sessionId = a := by
    rintro a rfl
    exact (coherent.matchesSession_iff found a).mp matching
  refine ⟨bound, ?_, ?_, ?_, ?_⟩
  · intro r' found' _
    rw [found] at found'
    cases found'
    exact matching
  · intro a _ r' found' _
    rw [found] at found'
    cases found'
    rfl
  · intro a eq t mem stage
    rw [← same a eq] at stage
    exact coherent.staged r found t mem .reserving stage
  · intro a eq
    rw [← same a eq]
    exact coherent.recorded r found

theorem Anchored.run {session : Option String} {notify : Nat} (anchored : Anchored x session notify)
    {i : Nat} (at_ : x.threads[i]? = some t) (c : Choice) :
    Anchored ⟨(threadStep c x.shared t).shared, x.threadsAfter i (threadStep c x.shared t)⟩
      session notify := by
  have effect := threadStep_effect c x.shared t
  have grows := threadStep_grows c x.shared t
  have longer := (threadStep_notified c x.shared t).1
  have stages := @threadStep_stage c x.shared t
  have mem := List.mem_of_getElem? at_
  generalize threadStep c x.shared t = o at effect grows longer stages ⊢
  refine ⟨Nat.lt_of_lt_of_le anchored.bound longer, ?_, ?_, ?_, ?_⟩
  · intro r' after eq
    obtain ⟨r, found, same⟩ | ⟨a, _, rfl, next⟩ := effect.origin after
    · rw [matchesSession_congr same.sessionId]
      exact anchored.matching r found (same.notify.symm.trans eq)
    · exact absurd eq (Nat.ne_of_gt anchored.bound)
  · intro a eq r' after owned
    obtain ⟨r, found, same⟩ | ⟨a', here, rfl, next⟩ := effect.origin after
    · exact same.notify.trans (anchored.named a eq r found (same.sessionId.symm.trans owned))
    · have same : a' = a := owned
      subst same
      exact absurd (by rw [here]; rfl) (anchored.reserved a' eq t mem)
  · intro a eq t' mem' stage
    obtain ⟨j, at'⟩ := List.mem_iff_getElem?.mp mem'
    obtain ⟨rfl, rfl⟩ | ⟨_, at'⟩ | ⟨task, started, rfl, -⟩ := threadsAfter_elim at'
    · obtain ⟨stage', before, reserving, -⟩ | ⟨new, _⟩ := stages stage
      · rw [reserving rfl] at before
        exact anchored.reserved a eq t mem before
      · exact not_counted (anchored.counted a eq) new
    · exact anchored.reserved a eq t' (List.mem_of_getElem? at') stage
    · rw [effect.started_stage started] at stage
      cases stage
  · intro a eq
    obtain ⟨n, le, same⟩ := anchored.counted a eq
    exact ⟨n, Nat.le_trans le grows, same⟩

theorem Anchored.call {session : Option String} {notify : Nat}
    (anchored : Anchored x session notify)
    (stage : t.task.stage = none) : Anchored { x with threads := x.threads ++ [t] } session notify := by
  refine ⟨anchored.bound, anchored.matching, anchored.named, ?_, anchored.counted⟩
  intro a eq t' mem stage'
  obtain mem | mem := List.mem_append.mp mem
  · exact anchored.reserved a eq t' mem stage'
  · rw [List.mem_singleton.mp mem, stage] at stage'
    cases stage'

/-- Workers and waiting stops belong to a record, and no record has two workers. -/
structure Roles (x : OperatorSystem) : Prop where
  bound : ∀ r, x.shared.bridgeProcess = some r → r.notify < x.shared.notified.length
  anchored : ∀ t ∈ x.threads, ∀ role, t.task.role = some role → Anchored x role.session role.notify
  once : ∀ (i j : Nat) (t t' : Thread) role role', x.threads[i]? = some t →
    x.threads[j]? = some t' → t.task.role = some role → t'.task.role = some role' →
    role.works → role'.works → role.notify = role'.notify → i = j
  started : ∀ r, x.shared.bridgeProcess = some r → ∀ t ∈ x.threads, ∀ role,
    t.task.role = some role → role.works → role.notify = r.notify → r.shutdownWorkerStarted

theorem newOperator_roles : Roles newOperator := by
  constructor <;> simp [newOperator]

theorem Roles.run (roles : Roles x) (coherent : Coherent x) {i : Nat} (at_ : x.threads[i]? = some t)
    (c : Choice) :
    Roles ⟨(threadStep c x.shared t).shared, x.threadsAfter i (threadStep c x.shared t)⟩ := by
  have effect := threadStep_effect c x.shared t
  have role := @threadStep_role c x.shared t
  have longer := (threadStep_notified c x.shared t).1
  have stable : ∀ {session notify}, Anchored x session notify → Anchored
      ⟨(threadStep c x.shared t).shared, x.threadsAfter i (threadStep c x.shared t)⟩ session notify :=
    fun anchored => anchored.run at_ c
  have mem := List.mem_of_getElem? at_
  generalize threadStep c x.shared t = o at effect role longer stable ⊢
  -- the roles after the step
  have after : ∀ {j : Nat} {t' : Thread} {role}, (x.threadsAfter i o)[j]? = some t' →
      t'.task.role = some role →
      (∃ t'', x.threads[j]? = some t'' ∧ t''.task.role = some role) ∨
        ∃ r, NewRole x.shared o role r ∧
          (role.works → j = if o.started.isSome then x.threads.length else i) := by
    intro j t' role' after eq
    obtain ⟨rfl, rfl⟩ | ⟨_, at'⟩ | ⟨task, started, rfl, length⟩ := threadsAfter_elim after
    · obtain before | ⟨r, new, only⟩ := role eq
      · exact .inl ⟨t, at_, before⟩
      · exact .inr ⟨r, new, fun works => by simp [only works]⟩
    · exact .inl ⟨t', at', eq⟩
    · obtain ⟨session', _, r, _, found, matching, unstarted, rfl, flagged⟩ :=
        effect.started_marks started
      cases eq
      exact .inr ⟨r, ⟨found, matching, rfl, fun _ _ => unstarted, fun _ => flagged⟩,
        fun _ => by simp [started, length]⟩
  refine ⟨?_, ?_, ?_, ?_⟩
  · intro r' after
    obtain ⟨r, found, same⟩ | ⟨a, here, rfl, next⟩ := effect.origin after
    · rw [same.notify]
      exact Nat.lt_of_lt_of_le (roles.bound r found) longer
    · rw [next]
      exact Nat.lt_succ_self _
  · intro t' mem' role' eq
    obtain ⟨j, at'⟩ := List.mem_iff_getElem?.mp mem'
    obtain ⟨t'', at'', before⟩ | ⟨r, new, _⟩ := after at' eq
    · exact stable (roles.anchored t'' (List.mem_of_getElem? at'') role' before)
    · rw [new.notify]
      exact stable (coherent.anchored new.found (roles.bound r new.found) new.matching)
  · intro j k t₁ t₂ role₁ role₂ at₁ at₂ eq₁ eq₂ works₁ works₂ same
    -- a worker of the same record would have raised its flag
    have flagged : ∀ {t' : Thread} {l : Nat} {role role' : Role} {r}, x.threads[l]? = some t' →
        t'.task.role = some role → role.works → role'.works → NewRole x.shared o role' r →
        role.notify = role'.notify → False := by
      intro t' l role role' r at' eq works works' new same
      have started := roles.started r new.found t' (List.mem_of_getElem? at') role eq works
        (same.trans new.notify)
      rw [new.unstarted works' (coherent.sound r new.found)] at started
      cases started
    obtain ⟨t₁', at₁', before₁⟩ | ⟨r₁, new₁, place₁⟩ := after at₁ eq₁ <;>
      obtain ⟨t₂', at₂', before₂⟩ | ⟨r₂, new₂, place₂⟩ := after at₂ eq₂
    · exact roles.once _ _ _ _ _ _ at₁' at₂' before₁ before₂ works₁ works₂ same
    · exact (flagged at₁' before₁ works₁ works₂ new₂ same).elim
    · exact (flagged at₂' before₂ works₂ works₁ new₁ same.symm).elim
    · exact (place₁ works₁).trans (place₂ works₂).symm
  · intro r' after' t' mem' role' eq works same
    obtain ⟨j, at'⟩ := List.mem_iff_getElem?.mp mem'
    obtain ⟨t'', at'', before⟩ | ⟨_, new, _⟩ := after at' eq
    · have mem'' := List.mem_of_getElem? at''
      obtain ⟨r, found, continues⟩ | ⟨a, _, rfl, next⟩ := effect.origin after'
      · exact continues.worker
          (roles.started r found t'' mem'' role' before works (same.trans continues.notify))
      · have bound := (roles.anchored t'' mem'' role' before).bound
        rw [same] at bound
        exact absurd bound (Nat.lt_irrefl _)
    · exact new.started works r' after'

theorem Roles.call (roles : Roles x) (stage : t.task.stage = none) (role : t.task.role = none) :
    Roles { x with threads := x.threads ++ [t] } := by
  have elim : ∀ {j : Nat} {t' : Thread} {role'}, (x.threads ++ [t])[j]? = some t' →
      t'.task.role = some role' → x.threads[j]? = some t' := by
    intro j t' role' after eq
    by_cases bound : j < x.threads.length
    · rwa [List.getElem?_append_left bound] at after
    · rw [List.getElem?_append_right (Nat.le_of_not_lt bound)] at after
      have mem := List.mem_of_getElem? after
      rw [List.mem_singleton] at mem
      rw [mem, role] at eq
      cases eq
  refine ⟨roles.bound, ?_, ?_, ?_⟩
  · intro t' mem role' eq
    obtain ⟨j, at_⟩ := List.mem_iff_getElem?.mp mem
    exact (roles.anchored t' (List.mem_of_getElem? (elim at_ eq)) role' eq).call stage
  · intro j k t₁ t₂ role₁ role₂ at₁ at₂ eq₁ eq₂
    exact roles.once j k t₁ t₂ _ _ (elim at₁ eq₁) (elim at₂ eq₂) eq₁ eq₂
  · intro r found t' mem role' eq
    obtain ⟨j, at_⟩ := List.mem_iff_getElem?.mp mem
    exact roles.started r found t' (List.mem_of_getElem? (elim at_ eq)) role' eq

theorem operatorStep_roles (ev : OperatorEvent) (x : OperatorSystem) (coherent : Coherent x)
    (roles : Roles x) : Roles (operatorStep ev x) := by
  cases ev with
  | start | stop => exact roles.call rfl rfl
  | run i c =>
    cases at_ : x.threads[i]? with
    | none => rwa [operatorStep_run_none c at_]
    | some t =>
      rw [operatorStep_run c at_]
      exact roles.run coherent at_ c
  | exit bridge exitStatus | tick elapsed =>
    have same : ∀ {session notify}, Anchored x session notify →
        ∀ {shared : ComputeNodeState}, shared.bridgeProcess = x.shared.bridgeProcess →
          shared.notified = x.shared.notified → shared.nextSessionId = x.shared.nextSessionId →
          Anchored { x with shared } session notify := by
      intro session notify anchored shared record notified counter
      exact ⟨notified ▸ anchored.bound, record ▸ anchored.matching, record ▸ anchored.named,
        anchored.reserved, counter ▸ anchored.counted⟩
    exact ⟨roles.bound, fun t mem role eq => same (roles.anchored t mem role eq) rfl rfl rfl,
      roles.once, roles.started⟩

end Operator
