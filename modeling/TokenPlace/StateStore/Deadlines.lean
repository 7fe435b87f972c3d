import TokenPlace.StateStore.Control

/-!
# Deadline authority

A request that ends at or after its deadline should end as expired. The reaper
sees to it: it terminalizes the due lifecycles before it evicts a node, and what
it has to defer for want of room the eviction cannot terminalize either
(`Settled`). The methods that evict or remove a node without the reaper do not,
nor does a cancellation of a request whose expiry was deferred for want of a
control tombstone.

* `Op.Timely`: the calls that cannot get ahead of a deadline;
* `deadlines_win`: in every run of such calls the deadlines win.
-/

namespace StateStore

open Method

/-- A lifecycle whose deadline has passed ends as expired. -/
def DeadlineFirst (now : Epoch) : TerminalPolicy := fun w outcome reason =>
  w.requestDeadlineEpoch ≤ now → outcome = .expired ∧ reason = .requestDeadlineExpired

section

variable {env : StoreEnv} {P : TerminalPolicy} {now : Epoch} {s s' : Store} {id : Identity}

/-! ## Tombstones and terminal records -/

/-- A control tombstone is outlived by the terminal record of its request. -/
def TombstoneInv (s : Store) : Prop :=
  ∀ id c, s.controlTombstones.get? id = some c →
    ∃ t, s.terminals.get? id = some t ∧ c.expiresAtEpoch ≤ t.expiresAtEpoch

theorem TombstoneInv.of_same (inv : TombstoneInv s)
    (tombstones : s'.controlTombstones = s.controlTombstones)
    (terminals : s'.terminals = s.terminals) : TombstoneInv s' := by
  unfold TombstoneInv
  rw [tombstones, terminals]
  exact inv

theorem reapRetained_tombstoneInv (inv : TombstoneInv s) :
    TombstoneInv (reapRetainedLocked now s) := by
  intro id c hc
  rw [reapRetained_controlTombstones, OrderedDict.get?_filter] at hc
  obtain ⟨found, fresh⟩ := Option.filter_eq_some_iff.mp hc
  obtain ⟨t, ht, later⟩ := inv id c found
  have current : now < t.expiresAtEpoch := lt_of_lt_of_le (by simpa using fresh) later
  have fate : TerminalFate now t ((reapRetainedLocked now s).terminals.get? id) :=
    reapRetained_fate ht
  obtain ⟨t', ht', -⟩ := fate.fresh current
  rw [ht'] at fate
  cases fate with
  | kept evolves => exact ⟨t', ht', evolves.expires ▸ later⟩

variable {t : TerminalOutcomeRecord} {w : Work} {k : Identity} {c : Call} {status : Outcome}
  {n : String} {reason : Reason} {force : Bool}

theorem Terminalizes.tombstoneInv (h : Terminalizes env P now k w status reason force s s')
    (inv : TombstoneInv s) : TombstoneInv s' := by
  intro id c hc
  rw [h.post, writeTerminal_controlTombstones] at hc
  rw [h.terminals]
  rcases eq_or_ne id k with rfl | hne
  · refine ⟨_, if_pos rfl, ?_⟩
    cases hclaim : tombstoneClaim s id w status now force with
    | none =>
      rw [hclaim] at hc
      obtain ⟨t, ht, -⟩ := inv id c hc
      exact absurd (OrderedDict.mem_of_get? ht) h.not_terminal
    | some claim =>
      rw [hclaim] at hc
      have found := ((OrderedDict.get?_set ..).trans (if_pos rfl)).symm.trans hc
      cases found
      exact (min_le_left _ _).trans (add_le_add (le_refl now) env.durations.control_le)
  · rw [if_neg hne]
    refine inv id c ?_
    cases hclaim : tombstoneClaim s k w status now force with
    | none =>
      rw [hclaim] at hc
      exact hc
    | some claim =>
      rw [hclaim] at hc
      exact ((OrderedDict.get?_set ..).trans (if_neg hne)).symm.trans hc

theorem Sweep.tombstoneInv (h : Sweep env P now s s') (inv : TombstoneInv s) : TombstoneInv s' := by
  cases h with
  | reapRetained => exact reapRetained_tombstoneInv inv
  | terminalize h => exact h.tombstoneInv inv
  | defer h | touchFences h | finishRemoval h => exact inv.of_same (by rw [h.post]) (by rw [h.post])
  | lapse h | startRemoval h | discardWork h =>
    exact inv.of_same (by rw [h.post]; rfl) (by rw [h.post]; rfl)

/-- Setting the record of an identity keeps the invariant if the new record lasts as long as
the old one, or there was none. -/
theorem TombstoneInv.set (inv : TombstoneInv s)
    (tombstones : s'.controlTombstones = s.controlTombstones)
    (terminals : s'.terminals = s.terminals.set k t)
    (longer : ∀ t₀, s.terminals.get? k = some t₀ → t₀.expiresAtEpoch ≤ t.expiresAtEpoch) :
    TombstoneInv s' := by
  intro id c hc
  rw [tombstones] at hc
  obtain ⟨t₀, ht₀, later⟩ := inv id c hc
  rw [terminals, OrderedDict.get?_set]
  rcases eq_or_ne id k with rfl | hne
  · exact ⟨t, if_pos rfl, later.trans (longer t₀ ht₀)⟩
  · exact ⟨t₀, (if_neg hne).trans ht₀, later⟩

theorem Commit.tombstoneInv {drawn : String} {op : Op} {r : Except StoreError Reply}
    (h : Commit env now drawn op s r s') (inv : TombstoneInv s) : TombstoneInv s' := by
  cases h with
  | register h | reregister _ h | renew h | setScheduler h | advance h | claim _ _ h
  | renewClaim _ h => exact inv.of_same (by rw [h.post]) (by rw [h.post])
  | reserve _ h | enqueue _ h => exact inv.of_same (by rw [h.post]; rfl) (by rw [h.post]; rfl)
  | acknowledgeControl _ h =>
    rw [h.post]
    intro id c hc
    have found := (OrderedDict.get?_set ..).symm.trans hc
    split at found
    · rename_i hid
      cases found
      obtain ⟨t, ht, later⟩ := inv _ _ h.present
      exact ⟨t, hid ▸ ht, later⟩
    · exact inv id c found
  | accept _ h =>
    refine inv.set (by rw [h.post]; rfl) (congrArg Store.terminals h.post) fun t₀ ht₀ => ?_
    rw [h.not_terminal] at ht₀
    cases ht₀
  | acknowledgeResponse _ h | repair _ h =>
    refine inv.set (by rw [h.post]) (congrArg Store.terminals h.post) fun t₀ ht₀ => ?_
    cases h.present.symm.trans ht₀
    exact le_refl _
  | cancel _ h => exact h.tombstoneInv inv

theorem Reachable.tombstoneInv (h : Reachable env s) : TombstoneInv s :=
  h.invariant (fun _ _ present => by cases present) (fun _ _ _ step => step.tombstoneInv)
    fun _ _ _ _ _ _ commit => commit.tombstoneInv

/-! ## What one clock reading retains -/

/-- Nothing that is retained is over at this reading. -/
structure Retained (now : Epoch) (s : Store) : Prop where
  responses : ∀ e ∈ s.responses.entries, now < e.2.replayExpiresAtEpoch
  terminals : ∀ e ∈ s.terminals.entries, now < e.2.expiresAtEpoch
  tombstones : ∀ e ∈ s.controlTombstones.entries, now < e.2.expiresAtEpoch

theorem Retained.foldl_reapResponse (l : List (Identity × ResponseRecord))
    (fresh : ∀ e ∈ l, now < e.2.replayExpiresAtEpoch) : l.foldl (reapResponse now) s = s := by
  induction l with
  | nil => rfl
  | cons e l ih =>
    have first : reapResponse now s e = s := if_neg (not_le.mpr (fresh e List.mem_cons_self))
    rw [List.foldl_cons, first]
    exact ih fun e he => fresh e (List.mem_cons_of_mem _ he)

theorem Retained.reapRetained (h : Retained now s) :
    (reapRetainedLocked now s).terminals = s.terminals ∧
      (reapRetainedLocked now s).controlTombstones = s.controlTombstones := by
  unfold reapRetainedLocked
  rw [Retained.foldl_reapResponse _ h.responses]
  dsimp only
  refine ⟨OrderedDict.filter_eq_self fun e he => ?_, OrderedDict.filter_eq_self fun e he => ?_⟩
  · exact decide_eq_true (not_le.mpr (h.terminals e he))
  · exact decide_eq_true (not_le.mpr (h.tombstones e he))

theorem retained_reapRetained : Retained now (reapRetainedLocked now s) := by
  constructor
  · intro e he
    have found := OrderedDict.mem_entries.mp he
    rw [reapRetained_responses] at found
    simpa using (Option.filter_eq_some_iff.mp found).2
  · intro e he
    have found := OrderedDict.mem_entries.mp he
    rw [reapRetained_terminals] at found
    simpa using (Option.filter_eq_some_iff.mp found).2
  · intro e he
    have found := OrderedDict.mem_entries.mp he
    rw [reapRetained_controlTombstones, OrderedDict.get?_filter] at found
    simpa using (Option.filter_eq_some_iff.mp found).2

theorem Retained.of_same (h : Retained now s) (responses : s'.responses = s.responses)
    (terminals : s'.terminals = s.terminals)
    (tombstones : s'.controlTombstones = s.controlTombstones) : Retained now s' :=
  ⟨responses ▸ h.responses, terminals ▸ h.terminals, tombstones ▸ h.tombstones⟩

theorem Terminalizes.retained_fresh (h : Terminalizes env P now k w status reason force s s')
    (fresh : Retained now s) : Retained now s' := by
  rw [h.post]
  constructor
  · rw [writeTerminal_responses]
    exact fresh.responses
  · rintro ⟨id, t⟩ he
    have found := OrderedDict.mem_entries.mp he
    rw [writeTerminal_terminals, OrderedDict.get?_set] at found
    split at found
    · cases found
      exact lt_add_of_pos_right now (retention_pos env)
    · exact fresh.terminals ⟨id, t⟩ (OrderedDict.mem_entries.mpr found)
  · rintro ⟨id, t⟩ he
    have found := OrderedDict.mem_entries.mp he
    rw [writeTerminal_controlTombstones] at found
    cases hclaim : tombstoneClaim s k w status now force with
    | none =>
      rw [hclaim] at found
      exact fresh.tombstones ⟨id, t⟩ (OrderedDict.mem_entries.mpr found)
    | some claim =>
      rw [hclaim] at found
      have found := (OrderedDict.get?_set ..).symm.trans found
      split at found
      · cases found
        exact lt_min (lt_add_of_pos_right now (controlTtl_pos env))
          (lt_add_of_pos_right now (by norm_num))
      · exact fresh.tombstones ⟨id, t⟩ (OrderedDict.mem_entries.mpr found)

theorem Sweep.retained_fresh (h : Sweep env P now s s') (fresh : Retained now s) :
    Retained now s' := by
  cases h with
  | reapRetained => exact retained_reapRetained
  | terminalize h => exact h.retained_fresh fresh
  | defer h | touchFences h | finishRemoval h =>
    exact fresh.of_same (by rw [h.post]) (by rw [h.post]) (by rw [h.post])
  | lapse h => exact fresh.of_same (by rw [h.post]; rfl) (by rw [h.post]; rfl) (by rw [h.post]; rfl)
  | startRemoval h | discardWork h =>
    exact fresh.of_same (by rw [h.post]; rfl) (by rw [h.post]; rfl) (by rw [h.post]; rfl)

/-! ## After the loop over the due lifecycles -/

/-- No due lifecycle that is left has room to be terminalized by a removal. -/
structure Settled (env : StoreEnv) (now : Epoch) (s : Store) : Prop where
  requests : RequestInv s
  retained : Retained now s
  tracked : DueTracked env now [] s

theorem Settled.blocks (h : Settled env now s) (hw : s.HasWork id w)
    (room : HasRoom env s id) : now < w.requestDeadlineEpoch := by
  refine not_le.mp fun due => ?_
  rcases h.tracked.due id w hw due with listed | terminal | full
  · cases listed
  · exact h.requests.live_not_terminal id w hw terminal
  · exact full room

theorem DueTracked.of_same (h : DueTracked env now [] s) (terminals : s'.terminals = s.terminals)
    (tombstones : s'.controlTombstones = s.controlTombstones) (claims : s'.claims = s.claims)
    (work : ∀ id w, s'.HasWork id w → s.HasWork id w) : DueTracked env now [] s' := by
  constructor
  · rw [tombstones, terminals]
    exact h.tombstones
  · intro id w hw due
    rw [terminals]
    refine (h.due id w (work id w hw) due).imp_right (Or.imp_right fun full room => full ?_)
    refine ⟨fun reached => room.terminal ?_, fun c hc reached => room.tombstone c ?_ ?_⟩
    · unfold terminalCapacityReached
      rw [terminals]
      exact reached
    · rw [claims]
      exact hc
    · unfold controlTombstoneCapacityReached
      rw [tombstones]
      exact reached

theorem Sweep.settled (h : Sweep env P now s s') (settled : Settled env now s) :
    Settled env now s' := by
  refine ⟨h.requestInv settled.requests, h.retained_fresh settled.retained, ?_⟩
  have work := h.shrinks.work
  have tracked := settled.tracked
  cases h with
  | reapRetained =>
    obtain ⟨terminals, tombstones⟩ := settled.retained.reapRetained
    exact tracked.of_same terminals tombstones reapRetained_sameRequests.claims work
  | @terminalize id w _ _ _ _ _ h =>
    have listed : DueTracked env now [(id, w)] s :=
      ⟨tracked.tombstones, fun k v hv due => (tracked.due k v hv due).imp_left nofun⟩
    exact listed.terminalize h
  | defer h | touchFences h | finishRemoval h =>
    exact tracked.of_same (by rw [h.post]) (by rw [h.post]) (by rw [h.post]) work
  | lapse h | startRemoval h | discardWork h =>
    exact tracked.of_same (by rw [h.post]; rfl) (by rw [h.post]; rfl) (by rw [h.post]; rfl) work

theorem reapLocked_deadlineFirst (requests : RequestInv s) (tombstones : TombstoneInv s) :
    Ends (reapLocked env now) s fun _ s' => Sweeps env (DeadlineFirst now) now s s' := by
  refine reapLocked_ends (J := Settled env now) (fun _ _ _ => ⟨rfl, rfl⟩)
    (fun _ _ step => step.settled) ?_ ?_
  · intro p s id w settled hw room due
    exact absurd due (not_le.mpr (settled.blocks hw room))
  · intro s₁ steps tracked
    have requests' : RequestInv (reapRetainedLocked now s) :=
      reapRetained_sameRequests.keeps requests
    refine ⟨steps.keeps (fun _ _ step => step.requestInv) requests',
      steps.keeps (fun _ _ step => step.retained_fresh) retained_reapRetained, tracked ⟨?_, ?_⟩⟩
    · intro id hid
      obtain ⟨c, hc⟩ := OrderedDict.mem_def.mp hid
      obtain ⟨t, ht, -⟩ := reapRetained_tombstoneInv tombstones id c hc
      exact OrderedDict.mem_of_get? ht
    · exact fun id w hw due => .inl (dueWork_spec.mpr ⟨hw, due⟩)

/-! ## Calls that cannot get ahead of a deadline -/

/-- The work of the node is not due. -/
def OnTime (now : Epoch) (s : Store) (n : String) : Prop :=
  ∀ id ∈ (s.workOf n).keys, ∀ w ∈ s.workRecord id, now < w.requestDeadlineEpoch

instance (n : String) : Decidable (OnTime now s n) :=
  inferInstanceAs (Decidable (∀ id ∈ (s.workOf n).keys, ∀ w ∈ s.workRecord id,
    now < w.requestDeadlineEpoch))

/-- The work of the nodes whose lease has run out is not due. -/
def LeasesOnTime (now : Epoch) (s : Store) : Prop :=
  ∀ r ∈ expiredRecords s now, OnTime now s r.nodeId

instance : Decidable (LeasesOnTime now s) :=
  inferInstanceAs (Decidable (∀ r ∈ expiredRecords s now, OnTime now s r.nodeId))

/-- The deadline sweep of a cancellation defers its request for want of terminal room only. -/
def DeferredForTerminals (env : StoreEnv) (now : Epoch) (s : Store) (id : Identity) : Prop :=
  ∀ w ∈ (deadlinesReaped env now s).workRecord id, w.requestDeadlineEpoch ≤ now →
    terminalCapacityReached env (deadlinesReaped env now s) id.1

instance (id : Identity) : Decidable (DeferredForTerminals env now s id) :=
  inferInstanceAs (Decidable (∀ w ∈ (deadlinesReaped env now s).workRecord id,
    w.requestDeadlineEpoch ≤ now → terminalCapacityReached env (deadlinesReaped env now s) id.1))

/-- The call cannot end a due lifecycle in any other way than by its deadline: the nodes that
it evicts or removes without running the reaper have no due work, and the request that it
cancels was not deferred for want of a control tombstone. -/
def Op.Timely (env : StoreEnv) (now : Epoch) (s : Store) : Op → Prop
  | .register .. => LeasesOnTime now s
  | .renew .. => LeasesOnTime now s
  | .get _ => LeasesOnTime now s
  | .list => LeasesOnTime now s
  | .setSchedulerState .. => LeasesOnTime now s
  | .expire => LeasesOnTime now s ∧
      ∀ n ∈ (s.pendingNodeTransitions.keys.insertionSort (· ≤ ·)).head?, OnTime now s n
  | .unregister n _ => OnTime now s n
  | .unregisterNodeAndTransitionWork n _ _ => OnTime now s n
  | .cancelOrExpireRequest client request _ .cancelled _ =>
    match identityOf env client request with
    | .ok id => DeferredForTerminals env now s id
    | .error _ => True
  | _ => True

theorem OnTime.work (h : OnTime now s n) (requests : RequestInv s)
    (hid : id ∈ s.workOf n) (hw : s.HasWork id w) : now < w.requestDeadlineEpoch :=
  h id (OrderedDict.mem_keys.mpr hid) w (requests.workRecord hw)

theorem LeasesOnTime.reapRetained (h : LeasesOnTime now s) :
    LeasesOnTime now (reapRetainedLocked now s) := by
  unfold LeasesOnTime OnTime
  rw [expiredRecords_reapRetained, reapRetained_eq]
  exact h

theorem leases_deadlineFirst (requests : RequestInv s) (onTime : LeasesOnTime now s) :
    Ends (leaseHousekeeping env now) s fun _ s' => Sweeps env (DeadlineFirst now) now s s' := by
  unfold leaseHousekeeping
  refine ends_bind_of (expireLocked_ends (P := DeadlineFirst now) (J := fun _ => True)
    (Q := fun w => now < w.requestDeadlineEpoch) (fun _ _ _ _ => trivial) ?_ trivial ?_ nofun)
    (fun _ _ h => ends_pure.mpr h) fun _ _ h => h
  · exact fun _ _ _ w _ early _ _ due => absurd due (not_le.mpr early)
  · exact fun r hr id hid w hw => (onTime r hr).work requests hid hw

/-- The started removal that `expire` advances is the least. -/
theorem continued_least {expired : List ComputeNodeRegistration} (inv : NodeInv env s)
    (registered : ∀ r ∈ expired, r.nodeId ∈ s.records) (h : Continued s expired n) :
    (s.pendingNodeTransitions.keys.insertionSort (· ≤ ·)).head? = some n := by
  obtain ⟨pending, least⟩ := h
  have least := least fun r hr hp => inv.not_pending r.nodeId (registered r hr) hp
  have listed := OrderedDict.mem_keys.mpr pending
  cases head : (s.pendingNodeTransitions.keys.insertionSort (· ≤ ·)).head? with
  | none =>
    rw [List.head?_eq_none_iff] at head
    rw [← List.mem_insertionSort (· ≤ ·), head] at listed
    cases listed
  | some m =>
    obtain ⟨member, below⟩ := head?_insertionSort head
    rw [le_antisymm (below n listed) (least m (OrderedDict.mem_keys.mp member))]

theorem Op.housekeeping_deadlineFirst (op : Op) (requests : RequestInv s) (inv : NodeInv env s)
    (tombstones : TombstoneInv s) (timely : op.Timely env now s) :
    Ends (op.housekeeping env now) s fun _ s' => Sweeps env (DeadlineFirst now) now s s' := by
  cases op with
  | register n caps d =>
    show Ends (registerHousekeeping env now) s _
    unfold registerHousekeeping
    rw [ends_bind, ends_modifyState, follow_ok]
    have swept : Ends (leaseHousekeeping env now) (reapRetainedLocked now s) fun _ s' =>
        Sweeps env (DeadlineFirst now) now (reapRetainedLocked now s) s' :=
      leases_deadlineFirst (reapRetained_sameRequests.keeps requests)
        (LeasesOnTime.reapRetained timely)
    exact swept.mono fun r s' h => (Sweeps.one (.reapRetained s)).trans h
  | expire =>
    obtain ⟨onTime, pending⟩ := timely
    refine ends_bind_of (expireLocked_ends (P := DeadlineFirst now) (J := fun _ => True)
      (Q := fun w => now < w.requestDeadlineEpoch) (fun _ _ _ _ => trivial) ?_ trivial ?_ ?_)
      (fun _ _ h => ends_pure.mpr h) fun _ _ h => h
    · exact fun _ _ _ w _ early _ _ due => absurd due (not_le.mpr early)
    · exact fun r hr id hid w hw => (onTime r hr).work requests hid hw
    · intro _ n continued id hid w hw
      have registered : ∀ r ∈ expiredRecords s now, r.nodeId ∈ s.records :=
        fun r hr => OrderedDict.mem_of_get? ((expiredRecords_toEvict inv).registered r hr)
      exact (pending n (continued_least inv registered continued)).work requests hid hw
  | unregister n d | unregisterNodeAndTransitionWork n d cause => exact Sweeps.one (.reapRetained s)
  | renew n d caps | get n | list | setSchedulerState n d state =>
    exact leases_deadlineFirst requests timely
  | _ => exact reapLocked_deadlineFirst requests tombstones

theorem unregister_deadlineFirst {d : Option String} {cause : Cause}
    (requests : RequestInv s) (onTime : OnTime now s n) :
    Ends (unregisterNodeAndTransitionWork env now n d cause) s fun _ s' =>
      Sweeps env (DeadlineFirst now) now s s' := by
  have reaped : Sweeps env (DeadlineFirst now) now s (reapRetainedLocked now s) :=
    .one (.reapRetained s)
  unfold unregisterNodeAndTransitionWork
  refine ends_publicCall (fun _ _ => .refl s) (fun _ _ => .refl s) ?_ ?_
  · intro _ _ _ _ _ hh
    cases hh
  · intro _ _ _ _ hh
    cases hh
    refine (transitionNodeLocked_ends (P := DeadlineFirst now) (J := fun _ => True)
      (Q := fun w => now < w.requestDeadlineEpoch) (fun _ _ _ _ => trivial) ?_ trivial ?_).mono
      fun _ _ outcome => reaped.trans outcome.sweeps
    · exact fun _ _ _ w _ early _ _ due => absurd due (not_le.mpr early)
    · intro id hid w hw
      have before := reaped.shrinks
      exact onTime.work requests (before.index n id hid) (before.work id w hw)

/-- The sweeps of a timely call obey the deadlines; the body of the method may still write. -/
inductive Ruled (env : StoreEnv) (c : Call) (s : Store) : Store → Prop
  | swept {s' : Store} : Sweeps env (DeadlineFirst c.clock) c.clock s s' → Ruled env c s s'
  | committed {s₁ s' : Store} {r : Except StoreError Reply} :
      c.op.housekeeping env c.clock s = (.ok (), s₁) →
      Sweeps env (DeadlineFirst c.clock) c.clock s s₁ →
      Commit env c.clock c.drawn c.op s₁ r s' → Ruled env c s s'

theorem Call.ruled (requests : RequestInv s) (inv : NodeInv env s)
    (tombstones : TombstoneInv s) (timely : c.op.Timely env c.clock s) :
    Ruled env c s (c.next env s) := by
  have swept : ∀ {r : Except StoreError Unit} {s₁ : Store},
      c.op.housekeeping env c.clock s = (r, s₁) →
      Sweeps env (DeadlineFirst c.clock) c.clock s s₁ := fun hh =>
    (c.op.housekeeping_deadlineFirst requests inv tombstones timely).of_eq hh
  have outcome : CallOutcome env c s (c.result env s) (c.next env s) := c.next_outcome s
  generalize hs : c.next env s = s' at outcome ⊢
  generalize c.result env s = r at outcome
  cases outcome with
  | rejected _ | invalidProof _ | unread _ | noLease _ _ => exact .swept (.refl s)
  | stopped _ _ hh => exact .swept (swept hh)
  | body _ _ hh body =>
    cases body with
    | unchanged _ => exact .swept (swept hh)
    | committed h => exact .committed hh (swept hh) h
  | @removal n cause _ _ _ _ _ _ _ _ removal =>
    rw [← hs]
    obtain ⟨clock, drawn, op⟩ := c
    cases removal with
    | @unregister _ d =>
      have removed : Ends (unregister env clock n d) s fun _ s' =>
          Sweeps env (DeadlineFirst clock) clock s s' :=
        ends_bind_of (unregister_deadlineFirst requests timely) (fun _ _ h => ends_pure.mpr h)
          fun _ _ h => h
      have replied : Ends (replying .flag (unregister env clock n d)) s fun _ s' =>
          Sweeps env (DeadlineFirst clock) clock s s' := ends_replying.mpr removed
      exact .swept replied
    | @transition _ d cause =>
      have replied : Ends (replying .transition
          (unregisterNodeAndTransitionWork env clock n d cause)) s fun _ s' =>
          Sweeps env (DeadlineFirst clock) clock s s' :=
        ends_replying.mpr (unregister_deadlineFirst requests timely)
      exact .swept replied

/-! ## The records that a timely call creates -/

theorem Evolves.outcome {t t' : TerminalOutcomeRecord} (h : Evolves t t') :
    t'.outcome = t.outcome ∧ t'.reason = t.reason := by
  cases h <;> exact ⟨rfl, rfl⟩

theorem Sweeps.created (h : Sweeps env P now s s') (absent : s.terminals.get? id = none)
    (ht : s'.terminals.get? id = some t) :
    ∃ w, s.HasWork id w ∧ P w t.outcome t.reason := by
  refine (h.keeps (I := fun x => (∀ w, x.HasWork id w → s.HasWork id w) ∧
    ∀ t, x.terminals.get? id = some t → ∃ w, s.HasWork id w ∧ P w t.outcome t.reason) ?_
    ⟨fun _ hw => hw, fun t ht => by rw [absent] at ht; cases ht⟩).2 t ht
  rintro a b step ⟨live, old⟩
  refine ⟨fun w hw => live w (step.shrinks.work id w hw), fun t hb => ?_⟩
  cases ha : a.terminals.get? id with
  | none =>
    obtain ⟨⟨w, hw, policy⟩, -⟩ := step.created ha hb
    exact ⟨w, live w hw, policy⟩
  | some t₀ =>
    have fate := step.terminal_fate ha
    rw [hb] at fate
    cases fate with
    | kept evolves =>
      rw [evolves.outcome.1, evolves.outcome.2]
      exact old t₀ ha

theorem Sweep.stays_full {client : String} (h : Sweep env P now s s') (fresh : Retained now s)
    (full : terminalCapacityReached env s client) : terminalCapacityReached env s' client := by
  have same : s'.terminals = s.terminals → terminalCapacityReached env s' client := by
    intro heq
    unfold terminalCapacityReached
    rw [heq]
    exact full
  cases h with
  | reapRetained => exact same fresh.reapRetained.1
  | terminalize h =>
    rw [h.post]
    exact terminalCapacity_mono h.not_terminal full
  | defer h | touchFences h | finishRemoval h => exact same (by rw [h.post])
  | lapse h | startRemoval h | discardWork h => exact same (by rw [h.post]; rfl)

theorem reapLocked_through :
    Sweeps env Any now (reapRetainedLocked now s) (deadlinesReaped env now s) ∧
      Ends (reapLocked env now) s fun _ s' =>
        Sweeps env Any now (deadlinesReaped env now s) s' := by
  have due : Ends (forEach (dueWork (reapRetainedLocked now s) now) (expireDue env now))
      (reapRetainedLocked now s) fun r s' => r = .ok () ∧
        Sweeps env Any now (reapRetainedLocked now s) s' := by
    refine (expireDue_ends (P := Any) (fun _ _ => trivial) _ ?_).mono fun r s' h => ⟨h.1, h.2.1⟩
    intro id w hm
    obtain ⟨live, hd⟩ := dueWork_spec.mp hm
    exact ⟨hd, .inr live⟩
  unfold reapLocked deadlinesReaped
  simp only [ends_bind, ends_modifyState, ends_getState, follow_ok]
  unfold Ends at due ⊢
  generalize forEach (dueWork (reapRetainedLocked now s) now) (expireDue env now)
    (reapRetainedLocked now s) = ended at due ⊢
  obtain ⟨answer, s₁⟩ := ended
  obtain ⟨rfl, sweeps⟩ := due
  refine ⟨sweeps, ?_⟩
  rw [follow_ok, ends_bind]
  refine expireLocked_sweeps.mono ?_
  rintro (e | expired) s₂ later
  · exact later
  · refine later.trans (reapReservations_sweeps _ s₂.reservations.nodup ?_)
    exact fun id r hm => OrderedDict.mem_entries.mp hm

theorem DeferredForTerminals.early {s₁ : Store} (requests : RequestInv s)
    (deferred : DeferredForTerminals env now s id)
    (housekept : reapLocked env now s = (.ok (), s₁)) (hw : s₁.HasWork id w)
    (room : ¬terminalCapacityReached env s₁ id.1) : now < w.requestDeadlineEpoch := by
  obtain ⟨before, after⟩ := @reapLocked_through env now s
  have after := after.of_eq housekept
  have requests₁ : RequestInv (deadlinesReaped env now s) :=
    before.keeps (fun _ _ step => step.requestInv) (reapRetained_sameRequests.keeps requests)
  have fresh : Retained now (deadlinesReaped env now s) :=
    before.keeps (fun _ _ step => step.retained_fresh) retained_reapRetained
  refine not_le.mp fun due => ?_
  have live : (deadlinesReaped env now s).workRecord id = some w :=
    requests₁.workRecord (after.shrinks.work id w hw)
  have full := after.keeps
    (I := fun x => Retained now x ∧ terminalCapacityReached env x id.1)
    (fun _ _ step h => ⟨step.retained_fresh h.1, step.stays_full h.1 h.2⟩)
    ⟨fresh, deferred w live due⟩
  exact room full.2

theorem Ruled.created (requests : RequestInv s) (cancels : PendingCancels s)
    (timely : c.op.Timely env c.clock s) (h : Ruled env c s s')
    (absent : s.terminals.get? id = none)
    (ht : s'.terminals.get? id = some t) :
    ∃ w, s.HasWork id w ∧ DeadlineFirst c.clock w t.outcome t.reason := by
  cases h with
  | swept sweeps => exact sweeps.created absent ht
  | @committed s₁ _ _ housekept sweeps commit =>
    have requests₁ : RequestInv s₁ := sweeps.keeps (fun _ _ step => step.requestInv) requests
    have cancels₁ : PendingCancels s₁ := sweeps.keeps (fun _ _ step => step.pendingCancels) cancels
    cases h₁ : s₁.terminals.get? id with
    | some t₁ =>
      have fate := commit.terminal_fate h₁
      rw [ht] at fate
      cases fate with
      | kept evolves =>
        rw [evolves.outcome.1, evolves.outcome.2]
        exact sweeps.created absent h₁
    | none =>
      rcases commit.ends_request h₁ ht with ⟨-, claim, claimed, early⟩ |
        ⟨k, w, status, reason, ⟨client, request, token, hop, hid⟩, ends⟩
      · obtain ⟨q, queued, -, -, -, deadline⟩ := requests₁.claim_queued id claim claimed
        rw [deadline] at early
        exact ⟨.queued q, sweeps.shrinks.work id _ queued, fun due => absurd due (not_le.mpr early)⟩
      · rw [ends.terminals] at ht
        split at ht
        · rename_i same
          cases same
          cases ht
          refine ⟨w, sweeps.shrinks.work id w ends.live, fun due => ?_⟩
          cases status with
          | expired =>
            have origin := ends.origin
            generalize hstatus : Outcome.expired = status at origin
            cases origin with
            | deadline _ => exact ⟨rfl, rfl⟩
            | requester => cases hstatus
            | node pending => cases hstatus.trans (cancels₁ _ _ pending)
          | cancelled =>
            have deferred : DeferredForTerminals env c.clock s id := by
              rw [hop] at timely
              dsimp only [Op.Timely] at timely
              rw [hid] at timely
              exact timely
            have reaped : reapLocked env c.clock s = (.ok (), s₁) := by
              rw [hop] at housekept
              exact housekept
            exact absurd due (not_le.mpr (deferred.early requests reaped ends.live
              ends.terminal_room))
          | completed =>
            have origin := ends.origin
            generalize hstatus : Outcome.completed = status at origin
            cases origin with
            | deadline _ => cases hstatus
            | requester => cases hstatus
            | node pending => cases hstatus.trans (cancels₁ _ _ pending)
        · rw [h₁] at ht
          cases ht

end

/-! ## Runs -/

/-- Every call of the sequence is timely in the state in which it is made. -/
def TimelyRun (env : StoreEnv) : List Call → Store → Prop
  | [], _ => True
  | c :: calls, s => c.op.Timely env c.clock s ∧ TimelyRun env calls (c.next env s)

variable {calls : List Call}

theorem TimelyRun.snoc {env : StoreEnv} {c : Call} {s : Store}
    (h : TimelyRun env (calls ++ [c]) s) :
    TimelyRun env calls s ∧ c.op.Timely env c.clock (runs env calls s) := by
  induction calls generalizing s with
  | nil => exact ⟨trivial, h.1⟩
  | cons d calls ih =>
    obtain ⟨rest, last⟩ := ih h.2
    exact ⟨⟨h.1, rest⟩, last⟩

theorem TimelyRun.of_prefix {env : StoreEnv} {calls reached : List Call} {s : Store}
    (h : TimelyRun env calls s) (split : reached <+: calls) : TimelyRun env reached s := by
  induction reached generalizing calls s with
  | nil => exact trivial
  | cons c reached ih =>
    obtain ⟨rest, rfl⟩ := split
    exact ⟨h.1, ih h.2 (List.prefix_append reached rest)⟩

/-- The record was created by a call of the run for a lifecycle that was live when the call
was made, and as expired if the deadline of that lifecycle had passed. -/
def DeadlineKept (env : StoreEnv) (calls : List Call) (id : Identity) (t : TerminalOutcomeRecord) :
    Prop :=
  ∃ before c w, before ++ [c] <+: calls ∧ (stateAfter env before).terminals.get? id = none ∧
    (stateAfter env before).HasWork id w ∧
    t.expiresAtEpoch = c.clock + env.config.terminalRetentionSeconds ∧
    (w.requestDeadlineEpoch ≤ c.clock → t.outcome = .expired ∧ t.reason = .requestDeadlineExpired)

theorem DeadlineKept.later {env : StoreEnv} {c : Call} {id : Identity}
    {t t' : TerminalOutcomeRecord} (h : DeadlineKept env calls id t) (evolves : Evolves t t') :
    DeadlineKept env (calls ++ [c]) id t' := by
  obtain ⟨before, call, w, split, absent, live, expires, rule⟩ := h
  refine ⟨before, call, w, split.trans (List.prefix_append calls [c]), absent, live, ?_, ?_⟩
  · rw [evolves.expires, expires]
  · rw [evolves.outcome.1, evolves.outcome.2]
    exact rule

theorem deadlineKept_of_timely {env : StoreEnv}
    (timely : TimelyRun env calls Store.initial) {id : Identity} {t : TerminalOutcomeRecord}
    (ht : (stateAfter env calls).terminals.get? id = some t) : DeadlineKept env calls id t := by
  induction calls using List.reverseRecOn generalizing t with
  | nil => cases ht
  | append_singleton calls c ih =>
    obtain ⟨earlier, last⟩ := timely.snoc
    have reachable : Reachable env (stateAfter env calls) := reachable_runs calls
    have outcome : CallOutcome env c (stateAfter env calls) _ _ := c.next_outcome _
    rw [stateAfter_snoc] at ht
    cases h₀ : (stateAfter env calls).terminals.get? id with
    | some t₀ =>
      have fate := outcome.terminal_fate reachable.requestInv h₀
      rw [ht] at fate
      cases fate with
      | kept evolves => exact (ih earlier h₀).later evolves
    | none =>
      have ruled : Ruled env c (stateAfter env calls) (c.next env (stateAfter env calls)) :=
        Call.ruled reachable.requestInv reachable.nodeInv reachable.tombstoneInv last
      obtain ⟨w, live, rule⟩ :=
        ruled.created reachable.requestInv reachable.pendingCancels last h₀ ht
      exact ⟨calls, c, w, List.prefix_refl _, h₀, live,
        (outcome.created reachable.requestInv h₀ ht).2, rule⟩

/-- In every run in which no call removes or evicts a node with due work before the reaper
has seen it, and no call cancels a request whose expiry was deferred for want of a control
tombstone: every terminal record of every state reached was created for a live lifecycle,
and as expired if the deadline of that lifecycle had passed. -/
theorem deadlines_win (env : StoreEnv) (calls : List Call)
    (timely : TimelyRun env calls Store.initial) (reached : List Call) (split : reached <+: calls)
    (id : Identity) (t : TerminalOutcomeRecord)
    (ht : (stateAfter env reached).terminals.get? id = some t) : DeadlineKept env reached id t :=
  deadlineKept_of_timely (timely.of_prefix split) ht

/-! ## Concrete runs -/

/-- The request of the sample run is due at 10 and the deadlines are reaped at 20. -/
theorem deadlines_win_reaped :
    let calls := registration :: admission 10 ++ [sampleCall 20 .terminalRecords]
    ∃ t, (stateAfter defaultEnv calls).terminals.get? sampleIdentity = some t ∧
      DeadlineKept defaultEnv calls sampleIdentity t := by
  intro calls
  have registers : LeasesOnTime registration.clock Store.initial := by decide +kernel
  have timely : TimelyRun defaultEnv calls Store.initial :=
    ⟨registers, trivial, trivial, trivial, trivial⟩
  have present : ((stateAfter defaultEnv calls).terminals.get? sampleIdentity).isSome = true := by
    decide +kernel
  obtain ⟨t, ht⟩ := Option.isSome_iff_exists.mp present
  exact ⟨t, ht, deadlines_win defaultEnv calls timely calls (List.prefix_refl _) sampleIdentity t ht⟩

/-- The request is due at 10; at 31 the lease of its node runs out, and a read of the node
evicts it before any reaper has run: the request ends as cancelled. -/
theorem eviction_ahead_of_deadline :
    let s := stateAfter defaultEnv (registration :: admission 10)
    (s.queued.get? sampleIdentity).map (·.requestDeadlineEpoch) = some 10 ∧
      ((Call.next defaultEnv (sampleCall 31 (.get "node-a")) s).terminals.get? sampleIdentity).map
          (fun t => (t.acceptedAtEpoch, t.outcome, t.reason)) =
        some (31, .cancelled, .serverUnregistered) := by
  decide +kernel

end StateStore
