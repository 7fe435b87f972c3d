import TokenPlace.StateStore.RequestSide

/-!
# What becomes of a lifecycle

One effect at a time: a queued request stays or becomes terminal, a reservation
may also be queued on its node or lapse, and a terminal record changes its
retrieval state at most once and goes when its retention is over.

* `no_request_lost`: the same for every call on every reachable store;
* `requests_isolated`: a call leaves alone the requests that do not concern it.
-/

namespace StateStore

/-! ## Terminal records -/

/-- A terminal record changes its retrieval state at most once. -/
inductive Evolves (t : TerminalOutcomeRecord) : TerminalOutcomeRecord → Prop
  | same : Evolves t t
  | acknowledged : t.retrievalState = .responseReady →
      Evolves t { t with retrievalState := .acknowledged }
  | retrievalExpired : t.retrievalState = .responseReady →
      Evolves t { t with retrievalState := .retrievalExpired }

theorem Evolves.trans {t t' t'' : TerminalOutcomeRecord} (h : Evolves t t') (h' : Evolves t' t'') :
    Evolves t t'' := by
  cases h with
  | same => exact h'
  | acknowledged ready =>
    cases h' with
    | same => exact .acknowledged ready
    | acknowledged again => cases again
    | retrievalExpired again => cases again
  | retrievalExpired ready =>
    cases h' with
    | same => exact .retrievalExpired ready
    | acknowledged again => cases again
    | retrievalExpired again => cases again

theorem Evolves.expires {t t' : TerminalOutcomeRecord} (h : Evolves t t') :
    t'.expiresAtEpoch = t.expiresAtEpoch := by
  cases h <;> rfl

theorem expireRetrieval_evolves (t : TerminalOutcomeRecord) : Evolves t (expireRetrieval t) := by
  unfold expireRetrieval
  split
  · next ready => exact .retrievalExpired ready
  · exact .same

/-- What becomes of a terminal record: it stays, or its retention is over. -/
inductive TerminalFate (now : Epoch) (t : TerminalOutcomeRecord) :
    Option TerminalOutcomeRecord → Prop
  | kept {t' : TerminalOutcomeRecord} : Evolves t t' → TerminalFate now t (some t')
  | reaped : t.expiresAtEpoch ≤ now → TerminalFate now t none

section

variable {env : StoreEnv} {P : TerminalPolicy} {now : Epoch} {s s' : Store} {id : Identity}

theorem retention_pos (env : StoreEnv) : 0 < env.config.terminalRetentionSeconds := by
  have least : (0 : Epoch) < 1 / 1000 := by norm_num
  exact lt_of_lt_of_le least env.durations.retention.1

variable {t : TerminalOutcomeRecord} {r : Except StoreError Reply} {drawn : String}
  {status : Outcome} {reason : Reason} {force : Bool} {w : Work} {op : Op} {k : Identity} {c : Call}

theorem reapRetained_fate (ht : s.terminals.get? id = some t) :
    TerminalFate now t ((reapRetainedLocked now s).terminals.get? id) := by
  rw [reapRetained_terminals, ht, Option.map_some]
  have evolves : Evolves t
      (if replayOver now s.responses.entries id then expireRetrieval t else t) := by
    split
    · exact expireRetrieval_evolves t
    · exact .same
  generalize (if replayOver now s.responses.entries id then expireRetrieval t else t) = t'
    at evolves
  by_cases h : now < t'.expiresAtEpoch
  · rw [Option.filter_some, if_pos (decide_eq_true h)]
    exact .kept evolves
  · rw [Option.filter_some, if_neg (by simpa using h)]
    exact .reaped (evolves.expires ▸ not_lt.mp h)

theorem Terminalizes.terminals
    (h : Terminalizes env P now id w status reason force s s') (k : Identity) :
    s'.terminals.get? k = if k = id then some (terminalOf env s id w status reason now
      (tombstoneClaim s id w status now force)) else s.terminals.get? k := by
  rw [h.post, writeTerminal_terminals, OrderedDict.get?_set]

theorem Terminalizes.fate (h : Terminalizes env P now k w status reason force s s')
    (ht : s.terminals.get? id = some t) :
    TerminalFate now t (s'.terminals.get? id) := by
  have hne : id ≠ k := by
    rintro rfl
    exact h.not_terminal (OrderedDict.mem_of_get? ht)
  rw [h.terminals, if_neg hne, ht]
  exact .kept .same

theorem Sweep.terminal_fate (h : Sweep env P now s s')
    (ht : s.terminals.get? id = some t) : TerminalFate now t (s'.terminals.get? id) := by
  have same : s'.terminals = s.terminals → TerminalFate now t (s'.terminals.get? id) := by
    intro heq
    rw [heq, ht]
    exact .kept .same
  cases h with
  | reapRetained => exact reapRetained_fate ht
  | terminalize h => exact h.fate ht
  | defer h | touchFences h | finishRemoval h => exact same (by rw [h.post])
  | lapse h | startRemoval h | discardWork h => exact same (by rw [h.post]; rfl)

theorem Commit.terminal_fate (h : Commit env now drawn op s r s')
    (ht : s.terminals.get? id = some t) : TerminalFate now t (s'.terminals.get? id) := by
  have same : s'.terminals = s.terminals → TerminalFate now t (s'.terminals.get? id) := by
    intro heq
    rw [heq, ht]
    exact .kept .same
  cases h with
  | register h | reregister _ h | renew h | setScheduler h | advance h | claim _ _ h
  | renewClaim _ h | acknowledgeControl _ h => exact same (by rw [h.post])
  | reserve _ h | enqueue _ h => exact same (by rw [h.post]; rfl)
  | accept _ h =>
    rw [h.post]
    show TerminalFate now t ((s.terminals.set _ _).get? id)
    rw [OrderedDict.get?_set, if_neg, ht]
    · exact .kept .same
    · rintro rfl
      rw [h.not_terminal] at ht
      cases ht
  | acknowledgeResponse _ h =>
    rw [h.post]
    dsimp only
    rw [OrderedDict.get?_set]
    split
    · next hid =>
      rw [hid, h.present] at ht
      cases ht
      exact .kept (.acknowledged h.ready)
    · rw [ht]
      exact .kept .same
  | repair _ h =>
    rw [h.post]
    dsimp only
    rw [OrderedDict.get?_set]
    split
    · next hid =>
      rw [hid, h.present] at ht
      cases ht
      exact .kept (.retrievalExpired h.ready)
    · rw [ht]
      exact .kept .same
  | cancel _ h => exact h.fate ht

/-- A record that a sweep creates belongs to a lifecycle that was live. -/
structure Created (env : StoreEnv) (P : TerminalPolicy) (now : Epoch) (id : Identity) (s : Store)
    (t : TerminalOutcomeRecord) : Prop where
  live : ∃ w, s.HasWork id w ∧ P w t.outcome t.reason
  expires : t.expiresAtEpoch = now + env.config.terminalRetentionSeconds

theorem Terminalizes.created (h : Terminalizes env P now k w status reason force s s')
    (ht : s.terminals.get? id = none)
    (ht' : s'.terminals.get? id = some t) : Created env P now id s t := by
  rw [h.terminals] at ht'
  split at ht'
  · next hid =>
    subst hid
    cases ht'
    exact ⟨⟨w, h.live, h.allowed⟩, rfl⟩
  · rw [ht] at ht'
    cases ht'

theorem Sweep.created (h : Sweep env P now s s') (ht : s.terminals.get? id = none)
    (ht' : s'.terminals.get? id = some t) :
    Created env P now id s t := by
  have same : s'.terminals = s.terminals → Created env P now id s t := by
    intro heq
    rw [heq, ht] at ht'
    cases ht'
  cases h with
  | reapRetained =>
    rw [reapRetained_terminals, ht] at ht'
    cases ht'
  | terminalize h => exact h.created ht ht'
  | defer h | touchFences h | finishRemoval h => exact same (by rw [h.post])
  | lapse h | startRemoval h | discardWork h => exact same (by rw [h.post]; rfl)

/-- A record that a commit creates completes or cancels a live request. -/
inductive CommitCreates (env : StoreEnv) (now : Epoch) (id : Identity) (s : Store)
    (t : TerminalOutcomeRecord) : Prop
  | terminalized : Created env Any now id s t → CommitCreates env now id s t
  | completed {q : QueuedRequest} : s.queued.get? id = some q → now < q.requestDeadlineEpoch →
      t.expiresAtEpoch = now + env.config.terminalRetentionSeconds →
      CommitCreates env now id s t

theorem Commit.created
    (inv : RequestInv s) (h : Commit env now drawn op s r s') (ht : s.terminals.get? id = none)
    (ht' : s'.terminals.get? id = some t) :
    CommitCreates env now id s t := by
  have same : s'.terminals = s.terminals → CommitCreates env now id s t := by
    intro heq
    rw [heq, ht] at ht'
    cases ht'
  cases h with
  | register h | reregister _ h | renew h | setScheduler h | advance h | claim _ _ h
  | renewClaim _ h | acknowledgeControl _ h => exact same (by rw [h.post])
  | reserve _ h | enqueue _ h => exact same (by rw [h.post]; rfl)
  | accept _ h =>
    rw [h.post] at ht'
    have found := (OrderedDict.get?_set ..).symm.trans ht'
    split at found
    · next hid =>
      subst hid
      cases found
      obtain ⟨q, hq, same⟩ := inv.claim_queued _ _ h.claimed
      exact .completed hq (same.2.2.2 ▸ h.unexpired) rfl
    · rw [ht] at found
      cases found
  | acknowledgeResponse _ h | repair _ h =>
    rw [h.post] at ht'
    have present := mem_of_set_present h.present (OrderedDict.mem_of_get? ht')
    exact absurd present (OrderedDict.not_mem_iff.mpr ht)
  | cancel _ h => exact .terminalized (h.created ht ht')

/-! ## Live records -/

/-- A terminal record that this clock reading does not reap. -/
def FreshTerminal (now : Epoch) (id : Identity) (s : Store) : Prop :=
  ∃ t, s.terminals.get? id = some t ∧ now < t.expiresAtEpoch

theorem TerminalFate.fresh {o : Option TerminalOutcomeRecord}
    (h : TerminalFate now t o) (ht : now < t.expiresAtEpoch) :
    ∃ t', o = some t' ∧ now < t'.expiresAtEpoch := by
  cases h with
  | kept h => exact ⟨_, rfl, h.expires ▸ ht⟩
  | reaped elapsed => exact absurd elapsed (not_le.mpr ht)

theorem Sweep.freshTerminal (h : Sweep env P now s s') (ht : FreshTerminal now id s) :
    FreshTerminal now id s' := by
  obtain ⟨t, ht, fresh⟩ := ht
  exact (h.terminal_fate ht).fresh fresh

theorem Commit.freshTerminal (h : Commit env now drawn op s r s') (ht : FreshTerminal now id s) :
    FreshTerminal now id s' := by
  obtain ⟨t, ht, fresh⟩ := ht
  exact (h.terminal_fate ht).fresh fresh

theorem Terminalizes.freshTerminal (h : Terminalizes env P now id w status reason force s s') :
    FreshTerminal now id s' := by
  refine ⟨_, (h.terminals id).trans (if_pos rfl), ?_⟩
  show now < now + env.config.terminalRetentionSeconds
  exact lt_add_of_pos_right now (retention_pos env)

theorem Terminalizes.live_fate (inv : RequestInv s) {w v : Work}
    (h : Terminalizes env P now k w status reason force s s')
    (hv : s.HasWork id v) : s'.HasWork id v ∨ FreshTerminal now id s' := by
  rcases eq_or_ne id k with rfl | hne
  · exact .inr h.freshTerminal
  · exact .inl ((h.removed inv).hasWork.mpr ⟨hne, hv⟩)

theorem Sweep.live_fate (inv : RequestInv s) (h : Sweep env P now s s') (hw : s.HasWork id w) :
    s'.HasWork id w ∨ FreshTerminal now id s' ∨
      ∃ r, w = .reservation r ∧ r.reservationExpiresAtEpoch ≤ now ∧
        s'.terminals.get? id = none := by
  cases h with
  | reapRetained =>
    rw [reapRetained_eq]
    exact .inl (by cases w <;> exact hw)
  | terminalize h => exact (h.live_fate inv hw).imp_right .inl
  | defer h | startRemoval h | discardWork h | touchFences h | finishRemoval h =>
    rw [h.post]
    exact .inl (by cases w <;> exact hw)
  | @lapse k r _ _ h =>
    rcases eq_or_ne id k with rfl | hne
    · refine .inr (.inr ⟨r, inv.work_unique hw h.live, h.lapsed, ?_⟩)
      rw [h.post]
      exact OrderedDict.not_mem_iff.mp (inv.live_not_terminal id _ hw)
    · exact .inl ((h.removed inv).hasWork.mpr ⟨hne, hw⟩)

theorem Commit.live_fate (inv : RequestInv s) (h : Commit env now drawn op s r s')
    (hw : s.HasWork id w) :
    s'.HasWork id w ∨ FreshTerminal now id s' ∨
      ∃ r q, w = .reservation r ∧ s'.queued.get? id = some q ∧
        q.selectedNodeId = r.selectedNodeId := by
  cases h with
  | register h | reregister _ h | renew h | setScheduler h | advance h | claim _ _ h
  | renewClaim _ h | acknowledgeControl _ h | acknowledgeResponse _ h | repair _ h =>
    rw [h.post]
    exact .inl (by cases w <;> exact hw)
  | reserve _ h => exact .inl (h.hasWork.mpr (.inr hw))
  | @enqueue _ _ _ _ _ _ _ _ _ req r _ _ _ h =>
    rcases eq_or_ne id req.identity with rfl | hne
    · have queued : s'.HasWork req.identity (.queued _) := h.hasWork.mpr (.inl ⟨rfl, rfl⟩)
      exact .inr (.inr ⟨r, _, inv.work_unique hw h.reserved, queued, h.node.symm⟩)
    · exact .inl (h.hasWork.mpr (.inr ⟨hne, hw⟩))
  | @accept _ _ _ _ _ _ _ req _ _ _ _ _ _ _ _ _ h =>
    rcases eq_or_ne id req.identity with rfl | hne
    · refine .inr (.inl ?_)
      rw [h.post]
      refine ⟨_, (OrderedDict.get?_set ..).trans (if_pos rfl), ?_⟩
      show now < now + env.config.terminalRetentionSeconds
      exact lt_add_of_pos_right now (retention_pos env)
    · exact .inl ((h.removed inv).hasWork.mpr ⟨hne, hw⟩)
  | cancel _ h => exact (h.live_fate inv hw).imp_right .inl

/-- The identity has neither a live nor a terminal record. -/
structure Gone (id : Identity) (s : Store) : Prop where
  not_live : ∀ w, ¬s.HasWork id w
  not_terminal : s.terminals.get? id = none

theorem Sweep.gone (h : Sweep env P now s s') (gone : Gone id s) : Gone id s' := by
  refine ⟨fun w hw => gone.not_live w (h.shrinks.work id w hw), ?_⟩
  cases ht : s'.terminals.get? id with
  | none => rfl
  | some t =>
    obtain ⟨w, hw, -⟩ := (h.created gone.not_terminal ht).live
    exact absurd hw (gone.not_live w)

/-- Where a queued record after a commit comes from. -/
inductive QueuedOrigin (env : StoreEnv) (now : Epoch) (op : Op) (s s' : Store) (id : Identity)
    (q : QueuedRequest) : Prop
  | kept : s.queued.get? id = some q → QueuedOrigin env now op s s' id q
  | enqueued {client request token n model tier : String} {due : Epoch}
      {envelope : EncryptedEnvelope} {cancellation : String} {req : EnqueueRequest}
      {r : ReservationRecord} :
      op = .enqueueEncryptedRequest client request token n model tier due envelope cancellation →
      validateEnqueue env client request token n model tier due envelope cancellation = .ok req →
      Enqueues env now req r s s' → req.identity = id →
      q = queuedOf req now (s.nextQueueSequence + 1) → QueuedOrigin env now op s s' id q

theorem Commit.queued_origin (inv : RequestInv s) (h : Commit env now drawn op s r s')
    {q : QueuedRequest}
    (hq : s'.queued.get? id = some q) : QueuedOrigin env now op s s' id q := by
  have same : s'.queued = s.queued → QueuedOrigin env now op s s' id q := by
    intro heq
    rw [heq] at hq
    exact .kept hq
  cases h with
  | register h | reregister _ h | renew h | setScheduler h | advance h | claim _ _ h
  | renewClaim _ h | acknowledgeControl _ h | acknowledgeResponse _ h | repair _ h =>
    exact same (by rw [h.post])
  | reserve _ h => exact same (by rw [h.post]; rfl)
  | enqueue valid h =>
    have queued : s'.HasWork id (.queued q) := hq
    rcases h.hasWork.mp queued with ⟨rfl, new⟩ | ⟨-, hw⟩
    · cases new
      exact .enqueued rfl valid h rfl rfl
    · exact .kept hw
  | accept _ h | cancel _ h => exact .kept ((some_of_removed (h.removed inv).queued).mp hq).2

theorem Commit.gone (inv : RequestInv s) (h : Commit env now drawn op s r s') (gone : Gone id s) :
    s'.queued.get? id = none ∧ s'.terminals.get? id = none := by
  constructor
  · cases hq : s'.queued.get? id with
    | none => rfl
    | some q =>
      cases h.queued_origin inv hq with
      | kept hq => exact absurd hq (gone.not_live (.queued q))
      | enqueued _ _ h same _ => exact absurd (same ▸ h.reserved) (gone.not_live (.reservation _))
  · cases ht : s'.terminals.get? id with
    | none => rfl
    | some t =>
      cases h.created inv gone.not_terminal ht with
      | terminalized created =>
        obtain ⟨w, hw, -⟩ := created.live
        exact absurd hw (gone.not_live w)
      | completed hq _ _ => exact absurd hq (gone.not_live (.queued _))

/-! ## Every call -/

theorem CallOutcome.queued_fate (inv : RequestInv s)
    (h : CallOutcome env c s r s') {q : QueuedRequest} (hq : s.queued.get? id = some q) :
    s'.queued.get? id = some q ∨ FreshTerminal c.clock id s' := by
  have tracked : RequestInv s' ∧ (s'.HasWork id (.queued q) ∨ FreshTerminal c.clock id s') := by
    refine h.keeps (I := fun x => RequestInv x ∧
      (x.HasWork id (.queued q) ∨ FreshTerminal c.clock id x)) ?_ ?_ ⟨inv, .inl hq⟩
    · rintro a b step ⟨inv, live | terminal⟩
      · refine ⟨step.requestInv inv, ?_⟩
        rcases step.live_fate inv live with live | terminal | ⟨r, hr, -⟩
        · exact .inl live
        · exact .inr terminal
        · cases hr
      · exact ⟨step.requestInv inv, .inr (step.freshTerminal terminal)⟩
    · rintro a r b step ⟨inv, live | terminal⟩
      · refine ⟨step.requestInv inv, ?_⟩
        rcases step.live_fate inv live with live | terminal | ⟨r, _, hr, -⟩
        · exact .inl live
        · exact .inr terminal
        · cases hr
      · exact ⟨step.requestInv inv, .inr (step.freshTerminal terminal)⟩
  exact tracked.2

/-- What becomes of a reservation. -/
inductive ReservationFate (now : Epoch) (id : Identity) (r : ReservationRecord) (s : Store) : Prop
  | kept : s.reservations.get? id = some r → ReservationFate now id r s
  | queued {q : QueuedRequest} : s.queued.get? id = some q →
      q.selectedNodeId = r.selectedNodeId → ReservationFate now id r s
  | terminal : FreshTerminal now id s → ReservationFate now id r s
  | lapsed : r.reservationExpiresAtEpoch ≤ now → s.queued.get? id = none →
      s.terminals.get? id = none → ReservationFate now id r s

theorem CallOutcome.reserved_fate (inv : RequestInv s) {res : Except StoreError Reply}
    (h : CallOutcome env c s res s') {r : ReservationRecord}
    (hr : s.reservations.get? id = some r) : ReservationFate c.clock id r s' := by
  refine h.reaches (I := fun x => RequestInv x ∧ (x.HasWork id (.reservation r) ∨
    FreshTerminal c.clock id x ∨ (r.reservationExpiresAtEpoch ≤ c.clock ∧ Gone id x)))
    (K := ReservationFate c.clock id r) ?_ ?_ ?_ ⟨inv, .inl hr⟩
  · rintro a b step ⟨inv, live | terminal | ⟨lapsed, gone⟩⟩
    · refine ⟨step.requestInv inv, ?_⟩
      rcases step.live_fate inv live with live | terminal | ⟨r', hr', lapsed, absent⟩
      · exact .inl live
      · exact .inr (.inl terminal)
      · cases hr'
        by_cases still : ∃ w, b.HasWork id w
        · obtain ⟨w, hw⟩ := still
          rw [inv.work_unique (step.shrinks.work id w hw) live] at hw
          exact .inl hw
        · exact .inr (.inr ⟨lapsed, fun w hw => still ⟨w, hw⟩, absent⟩)
    · exact ⟨step.requestInv inv, .inr (.inl (step.freshTerminal terminal))⟩
    · exact ⟨step.requestInv inv, .inr (.inr ⟨lapsed, step.gone gone⟩)⟩
  · rintro a _ b step ⟨inv, live | terminal | ⟨lapsed, gone⟩⟩
    · rcases step.live_fate inv live with live | terminal | ⟨r', q, hr', queued, node⟩
      · exact .kept live
      · exact .terminal terminal
      · cases hr'
        exact .queued queued node
    · exact .terminal (step.freshTerminal terminal)
    · obtain ⟨queued, terminal⟩ := step.gone inv gone
      exact .lapsed lapsed queued terminal
  · rintro a ⟨inv, live | terminal | ⟨lapsed, gone⟩⟩
    · exact .kept live
    · exact .terminal terminal
    · refine .lapsed lapsed (OrderedDict.not_mem_iff.mp fun hq => ?_) gone.not_terminal
      obtain ⟨q, hq⟩ := OrderedDict.mem_def.mp hq
      exact gone.not_live (.queued q) hq

theorem CallOutcome.terminal_fate (inv : RequestInv s) (h : CallOutcome env c s r s')
    (ht : s.terminals.get? id = some t) : TerminalFate c.clock t (s'.terminals.get? id) := by
  have dead : ∀ {x : Store} {t' : TerminalOutcomeRecord}, RequestInv x →
      x.terminals.get? id = some t' → ∀ w, ¬x.HasWork id w := fun inv ht w hw =>
    inv.live_not_terminal id w hw (OrderedDict.mem_of_get? ht)
  refine h.reaches (I := fun x => RequestInv x ∧ ((∃ t', x.terminals.get? id = some t' ∧
    Evolves t t') ∨ (t.expiresAtEpoch ≤ c.clock ∧ Gone id x)))
    (K := fun x => TerminalFate c.clock t (x.terminals.get? id)) ?_ ?_ ?_
    ⟨inv, .inl ⟨t, ht, .same⟩⟩
  · rintro a b step ⟨inv, ⟨t', ht', evolves⟩ | ⟨elapsed, gone⟩⟩
    · refine ⟨step.requestInv inv, ?_⟩
      have fate := step.terminal_fate ht'
      cases hb : b.terminals.get? id with
      | some t'' =>
        rw [hb] at fate
        cases fate with
        | kept h => exact .inl ⟨t'', rfl, evolves.trans h⟩
      | none =>
        rw [hb] at fate
        cases fate with
        | reaped elapsed =>
          exact .inr ⟨evolves.expires ▸ elapsed, fun w hw =>
            dead inv ht' w (step.shrinks.work id w hw), hb⟩
    · exact ⟨step.requestInv inv, .inr ⟨elapsed, step.gone gone⟩⟩
  · rintro a _ b step ⟨inv, ⟨t', ht', evolves⟩ | ⟨elapsed, gone⟩⟩
    · have fate := step.terminal_fate ht'
      cases hb : b.terminals.get? id with
      | some t'' =>
        rw [hb] at fate
        cases fate with
        | kept h => exact .kept (evolves.trans h)
      | none =>
        rw [hb] at fate
        cases fate with
        | reaped elapsed => exact .reaped (evolves.expires ▸ elapsed)
    · rw [(step.gone inv gone).2]
      exact .reaped elapsed
  · rintro a ⟨-, ⟨t', ht', evolves⟩ | ⟨elapsed, gone⟩⟩
    · rw [ht']
      exact .kept evolves
    · rw [gone.not_terminal]
      exact .reaped elapsed

theorem CallOutcome.created (inv : RequestInv s)
    (h : CallOutcome env c s r s') (ht : s.terminals.get? id = none)
    (ht' : s'.terminals.get? id = some t) :
    (∃ w, s.HasWork id w) ∧
      t.expiresAtEpoch = c.clock + env.config.terminalRetentionSeconds := by
  have new : ∀ t, s'.terminals.get? id = some t → (∃ w, s.HasWork id w) ∧
      t.expiresAtEpoch = c.clock + env.config.terminalRetentionSeconds := by
    refine h.reaches (I := fun x => RequestInv x ∧ (∀ w, x.HasWork id w → s.HasWork id w) ∧
      ∀ t, x.terminals.get? id = some t → (∃ w, s.HasWork id w) ∧
        t.expiresAtEpoch = c.clock + env.config.terminalRetentionSeconds)
      (K := fun x => ∀ t, x.terminals.get? id = some t → (∃ w, s.HasWork id w) ∧
        t.expiresAtEpoch = c.clock + env.config.terminalRetentionSeconds) ?_ ?_
      (fun _ h => h.2.2) ⟨inv, fun _ hw => hw, fun t ht' => by rw [ht] at ht'; cases ht'⟩
    · rintro a b step ⟨inv, live, old⟩
      refine ⟨step.requestInv inv, fun w hw => live w (step.shrinks.work id w hw), fun t hb => ?_⟩
      cases ha : a.terminals.get? id with
      | none =>
        obtain ⟨⟨w, hw, -⟩, expires⟩ := step.created ha hb
        exact ⟨⟨w, live w hw⟩, expires⟩
      | some t₀ =>
        have fate := step.terminal_fate ha
        rw [hb] at fate
        cases fate with
        | kept evolves => exact ⟨(old t₀ ha).1, evolves.expires.trans (old t₀ ha).2⟩
    · rintro a _ b step ⟨inv, live, old⟩ t hb
      cases ha : a.terminals.get? id with
      | none =>
        cases step.created inv ha hb with
        | terminalized created =>
          obtain ⟨⟨w, hw, -⟩, expires⟩ := created
          exact ⟨⟨w, live w hw⟩, expires⟩
        | completed hq _ expires => exact ⟨⟨_, live (.queued _) hq⟩, expires⟩
      | some t₀ =>
        have fate := step.terminal_fate ha
        rw [hb] at fate
        cases fate with
        | kept evolves => exact ⟨(old t₀ ha).1, evolves.expires.trans (old t₀ ha).2⟩
  exact new t ht'

/-- No accepted request is lost between the states `s` and `s'` of one call at `now`. -/
structure NoLoss (env : StoreEnv) (now : Epoch) (s s' : Store) : Prop where
  queued : ∀ id q, s.queued.get? id = some q →
    s'.queued.get? id = some q ∨ id ∈ s'.terminals
  reserved : ∀ id r, s.reservations.get? id = some r →
    id ∈ s'.reservations ∨
      (∃ q, s'.queued.get? id = some q ∧ q.selectedNodeId = r.selectedNodeId) ∨
      id ∈ s'.terminals ∨
      (id ∉ s'.reservations ∧ id ∉ s'.queued ∧ id ∉ s'.terminals ∧
        r.reservationExpiresAtEpoch ≤ now)
  terminal : ∀ id t, s.terminals.get? id = some t →
    (∃ t', s'.terminals.get? id = some t' ∧ t'.expiresAtEpoch = t.expiresAtEpoch) ∨
      (id ∉ s'.terminals ∧ t.expiresAtEpoch ≤ now)
  created : ∀ id t, id ∉ s.terminals → s'.terminals.get? id = some t →
    t.expiresAtEpoch = now + env.config.terminalRetentionSeconds

theorem FreshTerminal.mem (h : FreshTerminal now id s) : id ∈ s.terminals :=
  h.elim fun _ ht => OrderedDict.mem_of_get? ht.1

variable {op : Op} {c : Call}

/-- What the tables have of one request. -/
def Store.requestOf (s : Store) (id : Identity) :=
  (s.reservations.get? id, s.queued.get? id, s.claims.get? id, s.responses.get? id,
    s.terminals.get? id, s.controlTombstones.get? id, s.queuedTokenDigests.get? id,
    s.cancellationTokenDigests.get? id)

/-- The method is called for the request, or may hand it out. -/
def Op.Concerns (env : StoreEnv) (s : Store) (id : Identity) : Op → Prop
  | .selectAndReserve client request _ _ _ _
  | .enqueueEncryptedRequest client request _ _ _ _ _ _ _
  | .renewClaimOrReadControl _ _ _ client request _ _
  | .acceptEncryptedResponse _ _ _ client request _ _
  | .retrieveEncryptedResponse client request _ _
  | .cancelOrExpireRequest client request _ _ _ => identityOf env client request = .ok id
  | .claimQueuedRequest n _ _ => ∃ q ∈ s.queueOf n, q.identity = id
  | _ => False

theorem Commit.requestOf (h : Commit env now drawn op s r s') (apart : ¬op.Concerns env s id) :
    s'.requestOf id = s.requestOf id := by
  have ne {client request k} (of : identityOf env client request = .ok k)
      (other : identityOf env client request ≠ .ok id) : id ≠ k := by
    rintro rfl
    exact other of
  cases h with
  | register h | reregister _ h | renew h | setScheduler h | advance h =>
    rw [h.post]
    rfl
  | @reserve _ _ _ _ _ _ req _ _ _ _ valid h =>
    have ne := ne (validateSelection_ok valid.1).1 apart
    rw [h.post]
    unfold writeReservation
    cases req.cancellationDigest <;> simp [Store.requestOf, OrderedDict.get?_set, ne]
  | enqueue valid h =>
    have ne := ne (validateEnqueue_ok valid).1 apart
    rw [h.post]
    simp [Store.requestOf, writeQueued, OrderedDict.get?_set, OrderedDict.get?_erase, ne]
  | claim _ _ h =>
    have ne : id ≠ _ := fun same => apart ⟨_, h.queued, same.symm⟩
    rw [h.post]
    simp [Store.requestOf, OrderedDict.get?_set, ne]
  | renewClaim valid h | acknowledgeControl valid h =>
    have ne := ne (validateOwner_ok valid).2.2.2.2 apart
    rw [h.post]
    simp [Store.requestOf, OrderedDict.get?_set, ne]
  | accept valid h =>
    have ne := ne (validateOwner_ok (validateAcceptance_ok valid).1).2.2.2.2 apart
    rw [h.post]
    simp [Store.requestOf, removeQueuedIdentityLocked, discardNodeWorkIdentityLocked,
      OrderedDict.get?_set, OrderedDict.get?_erase, ne]
  | acknowledgeResponse valid h | repair valid h =>
    have ne := ne valid apart
    rw [h.post]
    simp [Store.requestOf, OrderedDict.get?_set, ne]
  | cancel valid h =>
    have ne := ne valid apart
    rw [h.post]
    generalize tombstoneClaim _ _ _ _ _ _ = claim
    cases claim <;> simp [Store.requestOf, writeTerminal_claims, writeTerminal_controlTombstones,
      OrderedDict.get?_set, OrderedDict.get?_erase, ne]

end

end StateStore
