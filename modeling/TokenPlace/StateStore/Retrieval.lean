import TokenPlace.StateStore.Availability
import TokenPlace.StateStore.Removal

/-!
# Two-phase retrieval

An accepted response is replayed to its requester until its replay deadline or
its acknowledgement, whichever comes first.

* `ResponseInv`: a terminal record is ready exactly while its response is stored;
* `Replayable`, `Over`: the two phases of an accepted response;
* `LastReserved.tokenHeld`: the credential of a response is the token of its reservation;
* `two_phase_retrieval`: what every later call can do, in every run.
-/

namespace StateStore

open Method

section

variable {env : StoreEnv} {P : TerminalPolicy} {now : Epoch} {s s' : Store} {id : Identity}

/-! ## Ready records and their responses -/

/-- A terminal record is ready exactly while its response is stored, and outlives it. -/
structure ResponseInv (s : Store) : Prop where
  stored : ∀ id t, s.terminals.get? id = some t → t.retrievalState = .responseReady →
    ∃ r, s.responses.get? id = some r ∧ r.replayExpiresAtEpoch ≤ t.expiresAtEpoch
  ready : ∀ id r, s.responses.get? id = some r →
    ∃ t, s.terminals.get? id = some t ∧ t.retrievalState = .responseReady

theorem responseInv_initial : ResponseInv Store.initial where
  stored := fun _ _ present _ => by cases present
  ready := fun _ _ present => by cases present

theorem ResponseInv.of_same (inv : ResponseInv s) (terminals : s'.terminals = s.terminals)
    (responses : s'.responses = s.responses) : ResponseInv s' := by
  refine ⟨?_, ?_⟩
  · rw [terminals, responses]
    exact inv.stored
  · rw [terminals, responses]
    exact inv.ready

theorem reapRetained_ready {t : TerminalOutcomeRecord}
    (ht : (reapRetainedLocked now s).terminals.get? id = some t)
    (ready : t.retrievalState = .responseReady) :
    s.terminals.get? id = some t ∧ ∀ r, s.responses.get? id = some r →
      now < r.replayExpiresAtEpoch := by
  rw [reapRetained_terminals] at ht
  obtain ⟨found, -⟩ := Option.filter_eq_some_iff.mp ht
  obtain ⟨t₀, ht₀, same⟩ := Option.map_eq_some_iff.mp found
  by_cases elapsed : replayOver now s.responses.entries id
  · rw [if_pos elapsed] at same
    have settled : (expireRetrieval t₀).retrievalState ≠ .responseReady := by
      unfold expireRetrieval
      split
      · nofun
      · next other => exact other
    exact absurd (same ▸ ready) settled
  · rw [if_neg elapsed] at same
    cases same
    refine ⟨ht₀, fun r hr => not_le.mp fun late => elapsed ?_⟩
    exact replayOver_entries.mpr ⟨r, hr, late⟩

theorem reapRetained_responseInv (inv : ResponseInv s) :
    ResponseInv (reapRetainedLocked now s) := by
  constructor
  · intro id t ht ready
    obtain ⟨before, early⟩ := reapRetained_ready ht ready
    obtain ⟨r, hr, later⟩ := inv.stored id t before ready
    refine ⟨r, ?_, later⟩
    rw [reapRetained_responses, hr]
    simp [Option.filter, early r hr]
  · intro id r hr
    rw [reapRetained_responses] at hr
    obtain ⟨before, early⟩ := Option.filter_eq_some_iff.mp hr
    obtain ⟨t, ht, ready⟩ := inv.ready id r before
    obtain ⟨r', hr', later⟩ := inv.stored id t ht ready
    rw [before] at hr'
    cases hr'
    -- the record outlives the response, so neither of them is reaped
    have fresh : now < t.expiresAtEpoch := lt_of_lt_of_le (of_decide_eq_true early) later
    have current : ¬replayOver now s.responses.entries id := by
      intro elapsed
      obtain ⟨r', hr', late⟩ := replayOver_entries.mp elapsed
      rw [before] at hr'
      cases hr'
      exact absurd (of_decide_eq_true early) (not_lt.mpr late)
    refine ⟨t, ?_, ready⟩
    rw [reapRetained_terminals, ht]
    simp [current, Option.filter, fresh]

variable {r : Except StoreError Reply} {acknowledgement : Option String}
  {client request credential : String} {envelope : EncryptedEnvelope} {drawn : String} {op : Op}
  {c : Call} {j : Call} {supplied : String} {k : Identity} {status : Outcome} {reason : Reason}
  {force : Bool} {s₁ : Store} {w : Work}

theorem Terminalizes.responseInv (h : Terminalizes env P now k w status reason force s s')
    (inv : ResponseInv s) : ResponseInv s' := by
  have responses : s'.responses = s.responses := by rw [h.post, writeTerminal_responses]
  constructor
  · intro id t ht ready
    rw [h.terminals] at ht
    rw [responses]
    split at ht
    · cases ht
      cases ready
    · exact inv.stored id t ht ready
  · intro id r hr
    rw [responses] at hr
    obtain ⟨t, ht, ready⟩ := inv.ready id r hr
    have hne : id ≠ k := by
      rintro rfl
      exact h.not_terminal (OrderedDict.mem_of_get? ht)
    exact ⟨t, by rw [h.terminals, if_neg hne]; exact ht, ready⟩

theorem Sweep.responseInv (h : Sweep env P now s s') (inv : ResponseInv s) : ResponseInv s' := by
  cases h with
  | reapRetained => exact reapRetained_responseInv inv
  | terminalize h => exact h.responseInv inv
  | defer h | touchFences h | finishRemoval h => exact inv.of_same (by rw [h.post]) (by rw [h.post])
  | lapse h | startRemoval h | discardWork h =>
    exact inv.of_same (by rw [h.post]; rfl) (by rw [h.post]; rfl)

theorem Commit.responseInv
    (h : Commit env now drawn op s r s') (inv : ResponseInv s) : ResponseInv s' := by
  cases h with
  | register h | reregister _ h | renew h | setScheduler h | advance h | claim _ _ h
  | renewClaim _ h | acknowledgeControl _ h => exact inv.of_same (by rw [h.post]) (by rw [h.post])
  | reserve _ h | enqueue _ h => exact inv.of_same (by rw [h.post]; rfl) (by rw [h.post]; rfl)
  | accept _ h =>
    rw [h.post]
    refine ⟨fun id t ht ready => ?_, fun id r hr => ?_⟩
    · have found := (OrderedDict.get?_set ..).symm.trans ht
      show ∃ r, (s.responses.set _ _).get? id = some r ∧ _
      rw [OrderedDict.get?_set]
      split at found
      · cases found
        rename_i hid
        rw [if_pos hid]
        exact ⟨_, rfl, add_le_add (le_refl now) env.durations.replay_le⟩
      · rename_i hid
        rw [if_neg hid]
        exact inv.stored id t found ready
    · have found := (OrderedDict.get?_set ..).symm.trans hr
      show ∃ t, (s.terminals.set _ _).get? id = some t ∧ _
      rw [OrderedDict.get?_set]
      split at found
      · rename_i hid
        rw [if_pos hid]
        exact ⟨_, rfl, rfl⟩
      · rename_i hid
        rw [if_neg hid]
        exact inv.ready id r found
  | acknowledgeResponse _ h =>
    rw [h.post]
    refine ⟨fun id t ht ready => ?_, fun id r hr => ?_⟩
    · have found := (OrderedDict.get?_set ..).symm.trans ht
      show ∃ r, (s.responses.erase _).get? id = some r ∧ _
      rw [OrderedDict.get?_erase]
      split at found
      · cases found
        cases ready
      · rename_i hid
        rw [if_neg hid]
        exact inv.stored id t found ready
    · obtain ⟨hid, found⟩ := (some_of_removed fun k => OrderedDict.get?_erase ..).mp hr
      show ∃ t, (s.terminals.set _ _).get? id = some t ∧ _
      rw [OrderedDict.get?_set, if_neg hid]
      exact inv.ready id r found
  | repair _ h =>
    -- a ready record has its response
    obtain ⟨r, hr, -⟩ := inv.stored _ _ h.present h.ready
    rw [h.missing] at hr
    cases hr
  | cancel _ h => exact h.responseInv inv

theorem Reachable.responseInv (h : Reachable env s) : ResponseInv s :=
  h.invariant responseInv_initial (fun _ _ _ step => step.responseInv)
    fun _ _ _ _ _ _ commit => commit.responseInv

/-! ## The two phases of an accepted response -/

/-- What an acceptance fixes: the identity, the envelope, the digest of the credential
and the time. -/
structure Delivery where
  id : Identity
  envelope : EncryptedEnvelope
  credential : String
  acceptedAt : Epoch

/-- `_response_digest`. -/
def Delivery.digest (env : StoreEnv) (v : Delivery) : String :=
  env.runtime.sha256 (utf8 (serializedResponseEnvelope v.envelope))

/-- The acknowledgement token of the response. -/
def Delivery.token (env : StoreEnv) (v : Delivery) : String :=
  deriveAcknowledgementToken env v.id v.acceptedAt (v.digest env)

/-- The replay deadline of the response. -/
def Delivery.until_ (env : StoreEnv) (v : Delivery) : Epoch :=
  v.acceptedAt + env.config.responseReplayTtlSeconds

/-- The terminal record is the one of the delivery. -/
structure Delivery.Records (env : StoreEnv) (v : Delivery) (t : TerminalOutcomeRecord) : Prop where
  ready : t.retrievalState = .responseReady
  credential : t.retrievalCredentialDigest = v.credential
  accepted : t.acceptedAtEpoch = v.acceptedAt
  digest : t.responseDigest = v.digest env
  acknowledgement : t.acknowledgementDigest = acknowledgementDigest env (v.token env)
  expires : v.until_ env ≤ t.expiresAtEpoch

/-- The response can be replayed. -/
structure Replayable (env : StoreEnv) (v : Delivery) (s : Store) : Prop where
  terminal : ∃ t, s.terminals.get? v.id = some t ∧ v.Records env t
  response : ∃ r, s.responses.get? v.id = some r ∧ r.envelope = v.envelope ∧
    r.replayExpiresAtEpoch = v.until_ env

/-- The identity has no response that could be replayed. -/
def Over (id : Identity) (s : Store) : Prop :=
  ∀ t, s.terminals.get? id = some t → t.retrievalState ≠ .responseReady

variable {v : Delivery}

theorem Replayable.of_same (h : Replayable env v s)
    (terminals : s'.terminals.get? v.id = s.terminals.get? v.id)
    (responses : s'.responses.get? v.id = s.responses.get? v.id) : Replayable env v s' :=
  ⟨terminals ▸ h.terminal, responses ▸ h.response⟩

theorem reapRetained_replayable (h : Replayable env v s) :
    (now < v.until_ env → Replayable env v (reapRetainedLocked now s)) ∧
      (v.until_ env ≤ now → Over v.id (reapRetainedLocked now s)) := by
  obtain ⟨t, ht, records⟩ := h.terminal
  obtain ⟨r, hr, envelope, replay⟩ := h.response
  constructor
  · intro early
    have current : ¬replayOver now s.responses.entries v.id := by
      intro elapsed
      obtain ⟨r', hr', late⟩ := replayOver_entries.mp elapsed
      rw [hr] at hr'
      cases hr'
      exact absurd early (not_lt.mpr (replay ▸ late))
    refine ⟨⟨t, ?_, records⟩, r, ?_, envelope, replay⟩
    · rw [reapRetained_terminals, ht]
      simp [current, Option.filter, lt_of_lt_of_le early records.expires]
    · rw [reapRetained_responses, hr]
      simp [Option.filter, replay, early]
  · intro late t' ht' ready
    obtain ⟨-, early⟩ := reapRetained_ready ht' ready
    exact absurd (early r hr) (not_lt.mpr (replay ▸ late))

theorem Terminalizes.replayable (h : Terminalizes env P now k w status reason force s s')
    (ready : Replayable env v s) : Replayable env v s' := by
  have hne : v.id ≠ k := by
    rintro rfl
    obtain ⟨t, ht, -⟩ := ready.terminal
    exact h.not_terminal (OrderedDict.mem_of_get? ht)
  refine ready.of_same ?_ ?_
  · rw [h.terminals, if_neg hne]
  · rw [h.post, writeTerminal_responses]

theorem Terminalizes.over (h : Terminalizes env P now k w status reason force s s')
    (elapsed : Over id s) : Over id s' := by
  intro t ht
  rw [h.terminals] at ht
  split at ht
  · cases ht
    rintro ⟨⟩
  · exact elapsed t ht

theorem Sweep.replayable (h : Sweep env P now s s') (ready : Replayable env v s) :
    Replayable env v s' ∨ (v.until_ env ≤ now ∧ Over v.id s') := by
  cases h with
  | reapRetained =>
    rcases lt_or_ge now (v.until_ env) with early | late
    · exact .inl ((reapRetained_replayable ready).1 early)
    · exact .inr ⟨late, (reapRetained_replayable ready).2 late⟩
  | terminalize h => exact .inl (h.replayable ready)
  | defer h | touchFences h | finishRemoval h =>
    exact .inl (ready.of_same (by rw [h.post]) (by rw [h.post]))
  | lapse h | startRemoval h | discardWork h =>
    exact .inl (ready.of_same (by rw [h.post]; rfl) (by rw [h.post]; rfl))

theorem Sweep.over (h : Sweep env P now s s') (elapsed : Over id s) : Over id s' := by
  have same : s'.terminals = s.terminals → Over id s' := by
    intro heq
    unfold Over
    rw [heq]
    exact elapsed
  cases h with
  | reapRetained =>
    intro t ht ready
    exact elapsed t (reapRetained_ready ht ready).1 ready
  | terminalize h => exact h.over elapsed
  | defer h | touchFences h | finishRemoval h => exact same (by rw [h.post])
  | lapse h | startRemoval h | discardWork h => exact same (by rw [h.post]; rfl)

theorem Sweeps.replayable (h : Sweeps env P now s s')
    (phase : Replayable env v s ∨ (v.until_ env ≤ now ∧ Over v.id s)) :
    Replayable env v s' ∨ (v.until_ env ≤ now ∧ Over v.id s') := by
  refine h.keeps (I := fun x => Replayable env v x ∨ (v.until_ env ≤ now ∧ Over v.id x)) ?_ phase
  rintro a b step (ready | ⟨late, elapsed⟩)
  · exact step.replayable ready
  · exact .inr ⟨late, step.over elapsed⟩

theorem Sweeps.over (h : Sweeps env P now s s') (elapsed : Over id s) : Over id s' :=
  h.keeps (fun _ _ step => step.over) elapsed

/-- The call acknowledges the response: it carries a credential and a token with the
digests of the delivery. -/
structure Consumes (env : StoreEnv) (v : Delivery) (op : Op) (r : Except StoreError Reply) :
    Prop where
  call : ∃ client request credential token,
    op = .retrieveEncryptedResponse client request credential (some token) ∧
    identityOf env client request = .ok v.id ∧
    safeRetrievalCredentialDigest env credential = v.credential ∧
    safeAcknowledgementDigest env token = acknowledgementDigest env (v.token env)
  result : r = .ok (.retrieval (.settled .acknowledged))

theorem Commit.replayable (h : Commit env now drawn op s r s') (ready : Replayable env v s) :
    Replayable env v s' ∨ (Over v.id s' ∧ Consumes env v op r) := by
  obtain ⟨t, ht, records⟩ := ready.terminal
  cases h with
  | register h | reregister _ h | renew h | setScheduler h | advance h | claim _ _ h
  | renewClaim _ h | acknowledgeControl _ h =>
    exact .inl (ready.of_same (by rw [h.post]) (by rw [h.post]))
  | reserve _ h | enqueue _ h =>
    exact .inl (ready.of_same (by rw [h.post]; rfl) (by rw [h.post]; rfl))
  | @accept _ _ _ _ _ _ _ req _ _ _ _ _ _ _ _ _ h =>
    have hne : v.id ≠ req.identity := by
      intro same
      rw [same, h.not_terminal] at ht
      cases ht
    rw [h.post]
    refine .inl (ready.of_same ?_ ?_)
    · exact (OrderedDict.get?_set ..).trans (if_neg hne)
    · exact (OrderedDict.get?_set ..).trans (if_neg hne)
  | @acknowledgeResponse client request credential token k _ _ _ _ identity h =>
    rw [h.post]
    rcases eq_or_ne v.id k with rfl | hne
    · refine .inr ⟨fun t' ht' => ?_, ⟨client, request, credential, token, rfl, identity, ?_, ?_⟩,
        rfl⟩
      · cases ((OrderedDict.get?_set ..).trans (if_pos rfl)).symm.trans ht'
        nofun
      · have same := h.present.symm.trans ht
        cases same
        exact h.credential.trans records.credential
      · have same := h.present.symm.trans ht
        cases same
        exact h.token.trans records.acknowledgement
    · refine .inl (ready.of_same ?_ ?_)
      · exact (OrderedDict.get?_set ..).trans (if_neg hne)
      · exact (OrderedDict.get?_erase ..).trans (if_neg hne)
  | @repair client request credential token k _ _ _ identity h =>
    have hne : v.id ≠ k := by
      rintro rfl
      obtain ⟨r, hr, -⟩ := ready.response
      rw [h.missing] at hr
      cases hr
    rw [h.post]
    exact .inl (ready.of_same ((OrderedDict.get?_set ..).trans (if_neg hne)) rfl)
  | cancel _ h => exact .inl (h.replayable ready)

/-- The call newly accepts a response for the identity. -/
structure AcceptsFor (env : StoreEnv) (id : Identity) (envelope : EncryptedEnvelope) (op : Op)
    (r : Except StoreError Reply) : Prop where
  call : ∃ n d consumer client request generation,
    op = .acceptEncryptedResponse n d consumer client request generation envelope ∧
    identityOf env client request = .ok id
  result : ∃ a, r = .ok (.acceptance a) ∧ a.newOutcome = true

theorem Commit.over (h : Commit env now drawn op s r s') (elapsed : Over id s) :
    Over id s' ∨ ∃ envelope, AcceptsFor env id envelope op r := by
  have same : s'.terminals = s.terminals → Over id s' := by
    intro heq
    unfold Over
    rw [heq]
    exact elapsed
  -- a record that is not ready, or that belongs to another identity, is written
  have set : ∀ {k : Identity} {t : TerminalOutcomeRecord}, s'.terminals = s.terminals.set k t →
      t.retrievalState ≠ .responseReady → Over id s' := by
    intro k t heq settled t' ht'
    rw [heq, OrderedDict.get?_set] at ht'
    split at ht'
    · cases ht'
      exact settled
    · exact elapsed t' ht'
  cases h with
  | register h | reregister _ h | renew h | setScheduler h | advance h | claim _ _ h
  | renewClaim _ h | acknowledgeControl _ h => exact .inl (same (by rw [h.post]))
  | reserve _ h | enqueue _ h => exact .inl (same (by rw [h.post]; rfl))
  | @accept n d consumer client request generation envelope req _ _ _ _ _ _ _ _ valid h =>
    rcases eq_or_ne id req.identity with rfl | hne
    · have identity := (validateOwner_ok (validateAcceptance_ok valid).1).2.2.2.2
      exact .inr ⟨envelope, ⟨n, d, consumer, client, request, generation, rfl, identity⟩, _, rfl, rfl⟩
    · refine .inl fun t ht => ?_
      rw [h.post] at ht
      exact elapsed t (((OrderedDict.get?_set ..).trans (if_neg hne)).symm.trans ht)
  | acknowledgeResponse _ h | repair _ h => exact .inl (set (congrArg Store.terminals h.post) (by simp))
  | cancel _ h => exact .inl (h.over elapsed)

/-! ## What a retrieval returns -/

/-- The answers to a retrieval of a response that can be replayed. -/
inductive ReplayAnswer (env : StoreEnv) (v : Delivery) (credential : String)
    (acknowledgement : Option String) (s : Store) :
    Except StoreError ResponseRetrievalResult → Store → Prop
  | stranger : safeRetrievalCredentialDigest env credential ≠ v.credential →
      ReplayAnswer env v credential acknowledgement s (.ok .invalidRetrievalCredential) s
  | replay : safeRetrievalCredentialDigest env credential = v.credential →
      acknowledgement = none → ReplayAnswer env v credential acknowledgement s
        (.ok (.ready v.envelope (v.token env) (v.until_ env))) s
  | rejected : safeRetrievalCredentialDigest env credential = v.credential →
      acknowledgement ≠ none →
      ReplayAnswer env v credential acknowledgement s (.ok .invalidAcknowledgement) s
  | consumed {s' : Store} : acknowledgement ≠ none → Over v.id s' →
      ReplayAnswer env v credential acknowledgement s (.ok (.settled .acknowledged)) s'

theorem retrieve_replayable {credential : String} (ready : Replayable env v s) :
    Ends (retrieveEncryptedResponseLocked env v.id credential acknowledgement) s
      (ReplayAnswer env v credential acknowledgement s) := by
  obtain ⟨t, ht, records⟩ := ready.terminal
  obtain ⟨r, hr, envelope, replay⟩ := ready.response
  have token : deriveAcknowledgementToken env v.id t.acceptedAtEpoch t.responseDigest =
      v.token env := by
    rw [records.accepted, records.digest]
    rfl
  unfold retrieveEncryptedResponseLocked
  simp only [ends_bind, ends_getState, follow_ok, ht, ends_ite, ends_pure]
  refine ⟨fun wrong => .stranger (records.credential ▸ wrong), fun right => ?_⟩
  rw [not_not, records.credential] at right
  refine ⟨fun settled => absurd records.ready settled, fun _ => ?_⟩
  unfold retrieveReadyLocked
  simp only [ends_bind, ends_getState, follow_ok, hr, token]
  cases acknowledgement with
  | none =>
    rw [ends_pure, envelope, replay]
    exact .replay right rfl
  | some supplied =>
    simp only [ends_ite, ends_pure, ends_bind, ends_modifyState, follow_ok]
    refine ⟨fun _ => .rejected right (by simp), fun _ => .consumed (by simp) fun t' ht' => ?_⟩
    cases ((OrderedDict.get?_set ..).trans (if_pos rfl)).symm.trans ht'
    simp

theorem retrieve_over {credential : String} (elapsed : Over id s) :
    Ends (retrieveEncryptedResponseLocked env id credential acknowledgement) s fun r s' =>
      s' = s ∧ ∀ envelope token expires, r ≠ .ok (.ready envelope token expires) := by
  unfold retrieveEncryptedResponseLocked
  simp only [ends_bind, ends_getState, follow_ok]
  cases ht : s.terminals.get? id with
  | none => exact ⟨rfl, by rintro _ _ _ ⟨⟩⟩
  | some t =>
    simp only [ends_ite, ends_pure]
    refine ⟨fun _ => ⟨trivial, by simp⟩, fun _ => ⟨fun _ =>
      ⟨fun _ => ⟨trivial, by simp⟩, fun _ => ⟨trivial, by simp⟩⟩, fun ready => ?_⟩⟩
    exact absurd (not_not.mp ready) (elapsed t ht)

theorem Starts.retrieval (h : Starts env c s s₁)
    (hop : c.op = .retrieveEncryptedResponse client request credential acknowledgement)
    (hid : identityOf env client request = .ok id) :
    c.run env s = replying .retrieval
      (retrieveEncryptedResponseLocked env id credential acknowledgement) s₁ := by
  obtain ⟨clock, drawn, op⟩ := c
  subst hop
  have housekept : reapLocked env clock s = (.ok (), s₁) := h.housekept
  have called : retrieveEncryptedResponse env clock client request credential acknowledgement s =
      retrieveEncryptedResponseLocked env id credential acknowledgement s₁ :=
    publicCall_eq hid h.finite housekept
  show andThen _ _ s = andThen _ _ s₁
  unfold andThen
  rw [called]

/-- The state after the housekeeping of a retrieval has passed through retention. -/
theorem reapLocked_from_retained :
    Ends (reapLocked env now) s fun _ s' => Sweeps env Any now (reapRetainedLocked now s) s' := by
  unfold reapLocked
  simp only [ends_bind, ends_modifyState, ends_getState, follow_ok]
  refine (expireDue_ends (P := Any) (fun _ _ => trivial) _ fun id w hm => ?_).mono ?_
  · obtain ⟨live, hd⟩ := dueWork_spec.mp hm
    exact ⟨hd, .inr live⟩
  rintro _ s₁ ⟨rfl, steps, -⟩
  rw [follow_ok, ends_bind]
  refine expireLocked_sweeps.mono ?_
  rintro (e | expired) s₂ later
  · exact steps.trans later
  · refine (steps.trans later).trans (reapReservations_sweeps _ s₂.reservations.nodup ?_)
    exact fun id r hm => OrderedDict.mem_entries.mp hm

theorem Starts.replay_phase (h : Starts env c s s₁)
    (hop : c.op = .retrieveEncryptedResponse client request credential acknowledgement)
    (ready : Replayable env v s) :
    (c.clock < v.until_ env ∧ Replayable env v s₁) ∨ (v.until_ env ≤ c.clock ∧ Over v.id s₁) := by
  have housekept : reapLocked env c.clock s = (.ok (), s₁) := by
    have kept := h.housekept
    rw [hop] at kept
    exact kept
  have sweeps := reapLocked_from_retained.of_eq housekept
  rcases lt_or_ge c.clock (v.until_ env) with early | late
  · refine .inl ⟨early, ?_⟩
    refine (sweeps.replayable (.inl ((reapRetained_replayable ready).1 early))).resolve_right ?_
    exact fun elapsed => absurd early (not_lt.mpr elapsed.1)
  · exact .inr ⟨late, sweeps.over ((reapRetained_replayable ready).2 late)⟩

theorem retrieval_starts {reply : ResponseRetrievalResult}
    (hop : c.op = .retrieveEncryptedResponse client request credential acknowledgement)
    (ok : c.result env s = .ok (.retrieval reply)) : ∃ s₁, Starts env c s s₁ := by
  have lease : ¬LeaseOverflows env c := by
    rintro ⟨⟨n, caps, d, heq⟩, -⟩
    cases hop.symm.trans heq
  have outcome : CallOutcome env c s (c.result env s) (c.next env s) := c.next_outcome s
  rw [ok] at outcome
  generalize c.next env s = s' at outcome
  cases outcome with
  | body finite valid hh _ => exact ⟨_, finite, valid, lease, hh⟩
  | removal _ _ _ _ removal =>
    rw [hop] at removal
    cases removal

/-! ## Calls and runs -/

theorem AcceptsFor.queued
    (h : AcceptsFor env id envelope c.op (c.result env s)) : ∃ q, s.queued.get? id = some q := by
  obtain ⟨n, d, consumer, client, request, generation, hop, hid⟩ := h.call
  obtain ⟨a, ok, new⟩ := h.result
  have outcome : CallOutcome env c s (c.result env s) (c.next env s) := c.next_outcome s
  rw [ok] at outcome
  obtain ⟨s₁, -, -, hh, commit⟩ := outcome.committed new nofun
  have shrinks := ((c.op.housekeeping_sweeps c.clock).of_eq hh).shrinks
  generalize c.next env s = s' at commit
  rw [hop] at commit
  cases commit with
  | @accept _ _ _ _ _ _ _ req _ _ _ q _ _ _ _ valid accepts =>
    have identity : req.identity = id := by
      have checked := (validateOwner_ok (validateAcceptance_ok valid).1).2.2.2.2
      exact Except.ok.inj (checked.symm.trans hid)
    have queued : s₁.HasWork id (.queued q) := identity ▸ accepts.queued
    exact ⟨q, shrinks.work id (.queued q) queued⟩

/-- No second response is accepted while the first can be replayed. -/
theorem Replayable.unaccepted (ready : Replayable env v s) (inv : RequestInv s)
    (envelope : EncryptedEnvelope) : ¬AcceptsFor env v.id envelope j.op (j.result env s) := by
  intro accepts
  obtain ⟨t, ht, -⟩ := ready.terminal
  obtain ⟨q, queued⟩ := accepts.queued
  exact inv.live_not_terminal v.id (.queued q) queued (OrderedDict.mem_of_get? ht)

theorem Call.replayable (inv : RequestInv s) (ready : Replayable env v s) :
    Replayable env v (j.next env s) ∨ (Over v.id (j.next env s) ∧
      (v.until_ env ≤ j.clock ∨ Consumes env v j.op (j.result env s))) := by
  have led := (j.next_outcome s).leads
    (I := fun x => Replayable env v x ∨ (v.until_ env ≤ j.clock ∧ Over v.id x))
    (Q := fun r x => (Replayable env v x ∨ (Over v.id x ∧
      (v.until_ env ≤ j.clock ∨ Consumes env v j.op r))) ∨ ∃ e, AcceptsFor env v.id e j.op r)
    (fun _ _ step => (Sweeps.one step).replayable) ?_ ?_ (.inl ready)
  · exact led.resolve_right fun ⟨envelope, accepts⟩ => ready.unaccepted inv envelope accepts
  · rintro a r b commit (ready | ⟨late, elapsed⟩)
    · refine .inl ((commit.replayable ready).imp_right ?_)
      exact fun ⟨elapsed, consumes⟩ => ⟨elapsed, .inr consumes⟩
    · exact (commit.over elapsed).imp_left fun elapsed => .inr ⟨elapsed, .inl late⟩
  · rintro a r (ready | ⟨late, elapsed⟩)
    · exact .inl (.inl ready)
    · exact .inl (.inr ⟨elapsed, .inl late⟩)

theorem Call.over (unaccepted : ∀ envelope, ¬AcceptsFor env id envelope j.op (j.result env s))
    (elapsed : Over id s) : Over id (j.next env s) :=
  (j.next_outcome s).keeps_unless (E := fun r => ∃ envelope, AcceptsFor env id envelope j.op r)
    (fun _ _ step => step.over) (fun _ _ _ commit => commit.over)
    (fun ⟨envelope, accepts⟩ => unaccepted envelope accepts) elapsed

/-- The terminal record of the identity, if any, is not acknowledged. -/
def NotAcknowledged (id : Identity) (s : Store) : Prop :=
  ∀ t, s.terminals.get? id = some t → t.retrievalState ≠ .acknowledged

theorem Sweep.notAcknowledged (h : Sweep env P now s s') (never : NotAcknowledged id s) :
    NotAcknowledged id s' := by
  have same : s'.terminals = s.terminals → NotAcknowledged id s' := by
    intro heq
    unfold NotAcknowledged
    rw [heq]
    exact never
  cases h with
  | reapRetained =>
    intro t ht
    rw [reapRetained_terminals] at ht
    obtain ⟨t₀, ht₀, rfl⟩ := Option.map_eq_some_iff.mp (Option.filter_eq_some_iff.mp ht).1
    split
    · unfold expireRetrieval
      split
      · simp
      · exact never t₀ ht₀
    · exact never t₀ ht₀
  | terminalize h =>
    intro t ht
    rw [h.terminals] at ht
    split at ht
    · cases ht
      rintro ⟨⟩
    · exact never t ht
  | defer h | touchFences h | finishRemoval h => exact same (by rw [h.post])
  | lapse h | startRemoval h | discardWork h => exact same (by rw [h.post]; rfl)

/-- With nothing to replay, the body of a method acknowledges nothing. -/
theorem Commit.notAcknowledged
    (h : Commit env now drawn op s r s') (elapsed : Over id s) (never : NotAcknowledged id s) :
    NotAcknowledged id s' := by
  have same : s'.terminals = s.terminals → NotAcknowledged id s' := by
    intro heq
    unfold NotAcknowledged
    rw [heq]
    exact never
  have set : ∀ {k : Identity} {t : TerminalOutcomeRecord}, s'.terminals = s.terminals.set k t →
      (id = k → t.retrievalState ≠ .acknowledged) → NotAcknowledged id s' := by
    intro k t heq settled t' ht'
    rw [heq, OrderedDict.get?_set] at ht'
    split at ht'
    · rename_i hk
      cases ht'
      exact settled hk
    · exact never t' ht'
  cases h with
  | register h | reregister _ h | renew h | setScheduler h | advance h | claim _ _ h
  | renewClaim _ h | acknowledgeControl _ h => exact same (by rw [h.post])
  | reserve _ h | enqueue _ h => exact same (by rw [h.post]; rfl)
  | accept _ h | repair _ h => exact set (congrArg Store.terminals h.post) (by rintro _ ⟨⟩)
  | acknowledgeResponse _ h =>
    refine set (congrArg Store.terminals h.post) fun hk => ?_
    exact absurd h.ready (elapsed _ (hk ▸ h.present))
  | cancel _ h => exact Sweep.notAcknowledged (.terminalize h) never

/-- Only the credential and the token of the response move its record to acknowledged. -/
theorem Call.notAcknowledged (phase : Replayable env v s ∨ Over v.id s)
    (never : NotAcknowledged v.id s) :
    NotAcknowledged v.id (j.next env s) ∨ Consumes env v j.op (j.result env s) := by
  refine (j.next_outcome s).leads
    (I := fun x => (Replayable env v x ∨ Over v.id x) ∧ NotAcknowledged v.id x)
    (Q := fun r x => NotAcknowledged v.id x ∨ Consumes env v j.op r) ?_ ?_
    (fun _ _ h => .inl h.2) ⟨phase, never⟩
  · rintro a b step ⟨ready | elapsed, never⟩
    · exact ⟨(step.replayable ready).imp_right And.right, step.notAcknowledged never⟩
    · exact ⟨.inr (step.over elapsed), step.notAcknowledged never⟩
  · rintro a r b commit ⟨ready | elapsed, never⟩
    · rcases commit.replayable ready with ready' | ⟨-, consumes⟩
      · refine .inl fun t ht => ?_
        obtain ⟨t', ht', records⟩ := ready'.terminal
        cases ht.symm.trans ht'
        rw [records.ready]
        nofun
      · exact .inr consumes
    · exact .inl (commit.notAcknowledged elapsed never)

/-- A retrieval of the identity that reports the acknowledgement. -/
structure Acknowledges (env : StoreEnv) (id : Identity) (op : Op) (r : Except StoreError Reply) :
    Prop where
  call : ∃ client request credential token,
    op = .retrieveEncryptedResponse client request credential (some token) ∧
    identityOf env client request = .ok id
  result : r = .ok (.retrieval (.settled .acknowledged))

theorem Consumes.acknowledges (h : Consumes env v op r) :
    Acknowledges env v.id op r := by
  obtain ⟨client, request, credential, token, hop, hid, -⟩ := h.call
  exact ⟨⟨client, request, credential, token, hop, hid⟩, h.result⟩

theorem Acknowledges.over (h : Acknowledges env v.id j.op (j.result env s))
    (ready : Replayable env v s) : Over v.id (j.next env s) := by
  obtain ⟨client, request, credential, token, hop, hid⟩ := h.call
  obtain ⟨s₁, starts⟩ := retrieval_starts hop h.result
  have ran := starts.retrieval hop hid
  have result : (replying .retrieval
      (retrieveEncryptedResponseLocked env v.id credential (some token)) s₁).1 =
      .ok (.retrieval (.settled .acknowledged)) := (congrArg Prod.fst ran).symm.trans h.result
  show Over v.id (j.run env s).2
  rw [ran]
  rcases starts.replay_phase hop ready with ⟨-, ready₁⟩ | ⟨-, elapsed⟩
  · have answer : Ends (replying .retrieval
        (retrieveEncryptedResponseLocked env v.id credential (some token))) s₁ fun r s' =>
        r = .ok (.retrieval (.settled .acknowledged)) → Over v.id s' := by
      rw [ends_replying]
      refine (retrieve_replayable ready₁).mono ?_
      intro r s' answer settled
      cases answer with
      | stranger _ | replay _ _ | rejected _ _ => cases settled
      | consumed _ elapsed => exact elapsed
    exact answer result
  · have answer : Ends (replying .retrieval
        (retrieveEncryptedResponseLocked env v.id credential (some token))) s₁ fun _ s' =>
        s' = s₁ := by
      rw [ends_replying]
      exact (retrieve_over elapsed).mono fun _ _ h => h.1
    rw [show (replying .retrieval
      (retrieveEncryptedResponseLocked env v.id credential (some token)) s₁).2 = s₁ from answer]
    exact elapsed

/-- Some call of the sequence reports the acknowledgement. -/
def Acknowledged (env : StoreEnv) (id : Identity) (s : Store) (calls : List Call) : Prop :=
  ∃ l j, l ++ [j] <+: calls ∧ Acknowledges env id j.op (j.result env (runs env l s))

/-- No call of the sequence newly accepts a response for the identity. -/
def Unaccepted (env : StoreEnv) (id : Identity) (s : Store) (calls : List Call) : Prop :=
  ∀ l j, l ++ [j] <+: calls → ∀ envelope, ¬AcceptsFor env id envelope j.op (j.result env (runs env l s))

/-- The two phases of an accepted response, along every sequence of calls without
another acceptance. -/
theorem runs_replayable {calls : List Call} (reachable : Reachable env s)
    (unaccepted : Unaccepted env v.id s calls) (ready : Replayable env v s) :
    (Replayable env v (runs env calls s) ∧ ¬Acknowledged env v.id s calls) ∨
      (Over v.id (runs env calls s) ∧
        ((∃ j ∈ calls, v.until_ env ≤ j.clock) ∨ Acknowledged env v.id s calls)) := by
  induction calls using List.reverseRecOn with
  | nil =>
    refine .inl ⟨ready, ?_⟩
    rintro ⟨l, j, split, -⟩
    exact absurd (List.prefix_nil.mp split) (by simp)
  | append_singleton calls j ih =>
    have shorter := List.prefix_append calls [j]
    have last := unaccepted calls j (List.prefix_refl _)
    have ih := ih fun l k split => unaccepted l k (split.trans shorter)
    have longer : Acknowledged env v.id s calls → Acknowledged env v.id s (calls ++ [j]) :=
      fun ⟨l, k, split, acknowledges⟩ => ⟨l, k, split.trans shorter, acknowledges⟩
    rw [runs_snoc]
    rcases ih with ⟨ready, unacknowledged⟩ | ⟨elapsed, cause⟩
    · rcases Call.replayable (reachable.runs calls).requestInv ready with
        ready' | ⟨elapsed, late | consumes⟩
      · refine .inl ⟨ready', ?_⟩
        rintro ⟨l, k, split, acknowledges⟩
        rcases prefix_snoc split with split | same
        · exact unacknowledged ⟨l, k, split, acknowledges⟩
        · obtain ⟨rfl, rfl⟩ := List.append_singleton_inj.mp same
          -- a reported acknowledgement would have ended the replay
          obtain ⟨t, ht, records⟩ := ready'.terminal
          exact acknowledges.over ready t ht records.ready
      · exact .inr ⟨elapsed, .inl ⟨j, by simp, late⟩⟩
      · exact .inr ⟨elapsed, .inr ⟨calls, j, List.prefix_refl _, consumes.acknowledges⟩⟩
    · refine .inr ⟨Call.over last elapsed, ?_⟩
      rcases cause with ⟨k, hk, late⟩ | acknowledged
      · exact .inl ⟨k, List.mem_append_left _ hk, late⟩
      · exact .inr (longer acknowledged)

/-! ## The credential -/

/-- The token whose digests the live records of the identity hold. -/
structure TokenHeld (env : StoreEnv) (id : Identity) (token : String) (s : Store) : Prop where
  reserved : ∀ r, s.reservations.get? id = some r → r.tokenDigest = tokenDigestOf env token
  queued : ∀ d, s.queuedTokenDigests.get? id = some d →
    d = tokenDigestOf env token ∧ isSha256Hex token = true

variable {token : String}

theorem TokenHeld.of_same (held : TokenHeld env id token s)
    (reservations : s'.reservations = s.reservations)
    (tokens : s'.queuedTokenDigests = s.queuedTokenDigests) : TokenHeld env id token s' :=
  ⟨reservations ▸ held.reserved, tokens ▸ held.queued⟩

theorem Removed.tokenHeld (h : Removed k s s') (held : TokenHeld env id token s) :
    TokenHeld env id token s' :=
  ⟨fun r hr => held.reserved r ((some_of_removed h.reservations).mp hr).2,
    fun d hd => held.queued d ((some_of_removed h.tokens).mp hd).2⟩

theorem Sweep.tokenHeld (h : Sweep env P now s s') (inv : RequestInv s)
    (held : TokenHeld env id token s) : TokenHeld env id token s' := by
  cases h with
  | reapRetained =>
    exact held.of_same reapRetained_sameRequests.reservations reapRetained_sameRequests.tokens
  | terminalize h | lapse h => exact (h.removed inv).tokenHeld held
  | defer h | touchFences h | finishRemoval h =>
    exact held.of_same (by rw [h.post]) (by rw [h.post])
  | startRemoval h | discardWork h => exact held.of_same (by rw [h.post]; rfl) (by rw [h.post]; rfl)

/-- The call creates a reservation for the identity and hands out its token. -/
structure ReservesFor (env : StoreEnv) (id : Identity) (token : String) (op : Op)
    (r : Except StoreError Reply) : Prop where
  call : ∃ client request model tier due proof,
    op = .selectAndReserve client request model tier due proof ∧
    identityOf env client request = .ok id
  result : ∃ a, r = .ok (.selection a) ∧ a.created = true ∧ a.reservationToken = some token

theorem Enqueues.tokenHeld {req : EnqueueRequest} {r : ReservationRecord}
    (collisionFree : env.runtime.CollisionFree) (h : Enqueues env now req r s s')
    (valid : tokenDigest env supplied = .ok req.tokenDigest) (held : TokenHeld env id token s) :
    TokenHeld env id token s' := by
  rw [h.post]
  constructor
  · intro r' hr'
    exact held.reserved r' ((some_of_removed fun k => OrderedDict.get?_erase ..).mp hr').2
  · intro d hd
    have found := (OrderedDict.get?_set ..).symm.trans hd
    split at found
    · rename_i same
      cases found
      have reserved := held.reserved r (same ▸ h.reserved)
      rw [h.token] at reserved
      unfold tokenDigest at valid
      split at valid
      · rename_i hex
        -- the supplied token has the digest of the reservation, hence it is the same token
        have digests : tokenDigestOf env supplied = tokenDigestOf env token :=
          (Except.ok.inj valid).trans reserved
        have tokens : supplied = token := utf8_injective (collisionFree digests)
        exact ⟨reserved, tokens ▸ hex⟩
      · cases valid
    · exact held.queued d found

theorem Commit.tokenHeld
    (collisionFree : env.runtime.CollisionFree) (h : Commit env now drawn op s r s')
    (inv : RequestInv s) (held : TokenHeld env id token s) :
    TokenHeld env id token s' ∨ ∃ token', ReservesFor env id token' op r := by
  cases h with
  | register h | reregister _ h | renew h | setScheduler h | advance h | claim _ _ h
  | renewClaim _ h | acknowledgeControl _ h | acknowledgeResponse _ h | repair _ h =>
    exact .inl (held.of_same (by rw [h.post]) (by rw [h.post]))
  | @reserve client request model tier due proof req record _ _ _ valid h =>
    rcases eq_or_ne id req.identity with rfl | hne
    · have identity := (validateSelection_ok valid.1).1
      exact .inr ⟨drawn, ⟨client, request, model, tier, due, proof, rfl, identity⟩, _, rfl, rfl, rfl⟩
    · refine .inl ⟨fun r hr => held.reserved r ?_, ?_⟩
      · rw [h.post] at hr
        exact ((OrderedDict.get?_set ..).trans (if_neg hne)).symm.trans hr
      · rw [h.post]
        exact held.queued
  | enqueue valid h =>
    exact .inl (h.tokenHeld collisionFree (validateEnqueue_ok valid).2.2.2.2 held)
  | accept _ h | cancel _ h => exact .inl ((h.removed inv).tokenHeld held)

theorem Call.tokenHeld (collisionFree : env.runtime.CollisionFree)
    (inv : RequestInv s) (unreserved : ∀ token', ¬ReservesFor env id token' j.op (j.result env s))
    (held : TokenHeld env id token s) : TokenHeld env id token (j.next env s) := by
  refine ((j.next_outcome s).keeps_unless (I := fun x => RequestInv x ∧ TokenHeld env id token x)
    (E := fun r => ∃ token', ReservesFor env id token' j.op r) ?_ ?_
    (fun ⟨token', reserves⟩ => unreserved token' reserves) ⟨inv, held⟩).2
  · rintro a b step ⟨inv, held⟩
    exact ⟨step.requestInv inv, step.tokenHeld inv held⟩
  · rintro a r b commit ⟨inv, held⟩
    exact (commit.tokenHeld collisionFree inv held).imp_left fun held => ⟨commit.requestInv inv, held⟩

theorem ReservesFor.tokenHeld (inv : RequestInv s)
    (h : ReservesFor env id token c.op (c.result env s)) : TokenHeld env id token (c.next env s) := by
  obtain ⟨client, request, model, tier, due, proof, hop, hid⟩ := h.call
  obtain ⟨a, ok, created, handed⟩ := h.result
  have outcome : CallOutcome env c s (c.result env s) (c.next env s) := c.next_outcome s
  rw [ok] at outcome
  obtain ⟨s₁, -, -, hh, commit⟩ := outcome.committed created nofun
  have inv₁ : RequestInv s₁ := ((c.op.housekeeping_sweeps c.clock).of_eq hh).keeps
    (fun _ _ step => step.requestInv) inv
  generalize c.next env s = s' at commit ⊢
  rw [hop] at commit
  cases commit with
  | @reserve _ _ _ _ _ _ req record _ _ _ valid reserves =>
    have identity : req.identity = id :=
      Except.ok.inj ((validateSelection_ok valid.1).1.symm.trans hid)
    have drawn : c.drawn = token := Option.some.inj handed
    rw [reserves.post]
    refine ⟨fun r hr => ?_, fun d hd => ?_⟩
    · have found := ((OrderedDict.get?_set ..).trans (if_pos identity.symm)).symm.trans hr
      cases found
      rw [valid.2, drawn]
    · -- the identity was not queued
      have queued := (inv₁.token_iff id).mp (OrderedDict.mem_of_get? hd)
      rw [← identity] at queued
      exact absurd queued (OrderedDict.not_mem_iff.mpr reserves.not_queued)

/-- The token of the last reservation that was created for the identity. -/
def LastReserved (env : StoreEnv) (id : Identity) (token : String) (calls : List Call) : Prop :=
  ∃ before c after, calls = before ++ c :: after ∧
    ReservesFor env id token c.op (c.result env (stateAfter env before)) ∧
    ∀ l j, l ++ [j] <+: after → ∀ token',
      ¬ReservesFor env id token' j.op (j.result env (runs env (c :: l) (stateAfter env before)))

theorem LastReserved.tokenHeld {calls : List Call} (collisionFree : env.runtime.CollisionFree)
    (h : LastReserved env id token calls) : TokenHeld env id token (stateAfter env calls) := by
  obtain ⟨before, c, after, rfl, reserves, last⟩ := h
  have start : TokenHeld env id token (c.next env (stateAfter env before)) :=
    reserves.tokenHeld (reachable_runs before).requestInv
  show TokenHeld env id token (runs env (before ++ c :: after) Store.initial)
  rw [runs_append]
  show TokenHeld env id token (runs env after (c.next env (stateAfter env before)))
  induction after using List.reverseRecOn with
  | nil => exact start
  | append_singleton after j ih =>
    have shorter := List.prefix_append after [j]
    have held := ih fun l k split => last l k (split.trans shorter)
    rw [runs_snoc]
    have reachable : Reachable env (runs env after (c.next env (stateAfter env before))) :=
      ((reachable_runs before).step c).runs after
    exact Call.tokenHeld collisionFree reachable.requestInv
      (last after j (List.prefix_refl _)) held

/-! ## Acceptance -/

theorem AcceptsFor.replayable (inv : RequestInv s) (held : TokenHeld env id token s)
    (h : AcceptsFor env id envelope c.op (c.result env s)) :
    isSha256Hex token = true ∧
      Replayable env ⟨id, envelope, tokenDigestOf env token, c.clock⟩ (c.next env s) := by
  obtain ⟨n, d, consumer, client, request, generation, hop, hid⟩ := h.call
  obtain ⟨a, ok, new⟩ := h.result
  have outcome : CallOutcome env c s (c.result env s) (c.next env s) := c.next_outcome s
  rw [ok] at outcome
  obtain ⟨s₁, -, -, hh, commit⟩ := outcome.committed new nofun
  obtain ⟨-, held₁⟩ := ((c.op.housekeeping_sweeps c.clock).of_eq hh).keeps
    (I := fun x => RequestInv x ∧ TokenHeld env id token x)
    (fun _ _ step ⟨inv, held⟩ => ⟨step.requestInv inv, step.tokenHeld inv held⟩) ⟨inv, held⟩
  generalize c.next env s = s' at commit ⊢
  rw [hop] at commit
  cases commit with
  | @accept _ _ _ _ _ _ _ req digest registration claim q retrieval cancellation _ _ valid accepts =>
    obtain ⟨owner, hdigest⟩ := validateAcceptance_ok valid
    have identity : req.identity = id :=
      Except.ok.inj ((validateOwner_ok owner).2.2.2.2.symm.trans hid)
    obtain ⟨credential, hex⟩ := held₁.queued retrieval (identity ▸ accepts.token)
    subst identity
    refine ⟨hex, ⟨completedTerminal env req registration.controlCredentialDigest digest retrieval
      cancellation c.clock, ?_, ?_⟩, responseOf env req q envelope digest c.clock, ?_, rfl, rfl⟩
    · rw [accepts.post]
      exact (OrderedDict.get?_set ..).trans (if_pos rfl)
    · exact ⟨rfl, credential, rfl, hdigest, by rw [hdigest]; rfl,
        add_le_add (le_refl _) env.durations.replay_le⟩
    · rw [accepts.post]
      exact (OrderedDict.get?_set ..).trans (if_pos rfl)

theorem credential_eq (collisionFree : env.runtime.CollisionFree)
    (noZero : env.runtime.NoZeroDigest)
    (h : safeRetrievalCredentialDigest env supplied = tokenDigestOf env token) :
    supplied = token := by
  unfold safeRetrievalCredentialDigest at h
  split at h
  · exact utf8_injective (collisionFree h)
  · exact absurd h.symm (noZero _)

theorem acknowledgement_eq (collisionFree : env.runtime.CollisionFree)
    (noZero : env.runtime.NoZeroDigest)
    (h : safeAcknowledgementDigest env supplied = acknowledgementDigest env token) :
    supplied = token := by
  unfold safeAcknowledgementDigest at h
  split at h
  · exact utf8_injective (collisionFree h)
  · exact absurd h.symm (noZero _)

theorem Starts.replays {k : Call} {client request : String} (h : Starts env k s s₁)
    (hex : isSha256Hex token = true) (credential : v.credential = tokenDigestOf env token)
    (hop : k.op = .retrieveEncryptedResponse client request token none)
    (hid : identityOf env client request = .ok v.id) (early : k.clock < v.until_ env)
    (ready : Replayable env v s) :
    k.result env s = .ok (.retrieval (.ready v.envelope (v.token env) (v.until_ env))) := by
  have ready₁ : Replayable env v s₁ := by
    rcases h.replay_phase hop ready with ⟨-, ready₁⟩ | ⟨late, -⟩
    · exact ready₁
    · exact absurd early (not_lt.mpr late)
  have right : safeRetrievalCredentialDigest env token = v.credential := by
    rw [credential]
    exact if_pos hex
  have answer : Ends (replying .retrieval (retrieveEncryptedResponseLocked env v.id token none)) s₁
      fun r _ => r = .ok (.retrieval (.ready v.envelope (v.token env) (v.until_ env))) := by
    rw [ends_replying]
    refine (retrieve_replayable ready₁).mono ?_
    intro r s' answer
    cases answer with
    | stranger wrong => exact absurd right wrong
    | replay _ _ => rfl
    | rejected _ supplied | consumed supplied _ => exact absurd rfl supplied
  exact (congrArg Prod.fst (h.retrieval hop hid)).trans answer

theorem ready_result {k : Call} {ack : String} {expires : Epoch}
    (hop : k.op = .retrieveEncryptedResponse client request credential acknowledgement)
    (hid : identityOf env client request = .ok v.id)
    (phase : Replayable env v s ∨ Over v.id s)
    (ok : k.result env s = .ok (.retrieval (.ready envelope ack expires))) :
    Replayable env v s ∧ k.clock < v.until_ env ∧
      safeRetrievalCredentialDigest env credential = v.credential ∧ envelope = v.envelope ∧
      ack = v.token env ∧ expires = v.until_ env := by
  obtain ⟨s₁, starts⟩ := retrieval_starts hop ok
  have ran : (replying .retrieval
      (retrieveEncryptedResponseLocked env v.id credential acknowledgement) s₁).1 =
      .ok (.retrieval (.ready envelope ack expires)) :=
    (congrArg Prod.fst (starts.retrieval hop hid)).symm.trans ok
  have never : ¬Over v.id s₁ := by
    intro elapsed
    have answer : Ends (replying .retrieval
        (retrieveEncryptedResponseLocked env v.id credential acknowledgement)) s₁ fun r _ =>
        r ≠ .ok (.retrieval (.ready envelope ack expires)) := by
      rw [ends_replying]
      refine (retrieve_over elapsed).mono fun r s' h => ?_
      rcases r with e | a
      · nofun
      · exact fun same => h.2 envelope ack expires
          (congrArg Except.ok (Reply.retrieval.inj (Except.ok.inj same)))
    exact answer ran
  rcases phase with ready | elapsed
  · rcases starts.replay_phase hop ready with ⟨early, ready₁⟩ | ⟨-, elapsed⟩
    · refine ⟨ready, early, ?_⟩
      have answer : Ends (replying .retrieval
          (retrieveEncryptedResponseLocked env v.id credential acknowledgement)) s₁ fun r _ =>
          r = .ok (.retrieval (.ready envelope ack expires)) →
            safeRetrievalCredentialDigest env credential = v.credential ∧ envelope = v.envelope ∧
            ack = v.token env ∧ expires = v.until_ env := by
        rw [ends_replying]
        refine (retrieve_replayable ready₁).mono ?_
        intro r s' answer same
        cases answer with
        | stranger _ | rejected _ _ | consumed _ _ => cases same
        | replay right _ =>
          cases same
          exact ⟨right, rfl, rfl, rfl⟩
      exact answer ran
    · exact absurd elapsed never
  · exact absurd (((k.op.housekeeping_sweeps k.clock).of_eq starts.housekept).over elapsed) never

end

/-- A retrieval with the credential and the acknowledgement token of the response. -/
def AcknowledgingCall (env : StoreEnv) (id : Identity) (credential token : String)
    (op : Op) : Prop :=
  ∃ client request, identityOf env client request = .ok id ∧
    op = .retrieveEncryptedResponse client request credential (some token)

theorem Consumes.acknowledging {env : StoreEnv} {v : Delivery} {token : String} {op : Op}
    {r : Except StoreError Reply} (collisionFree : env.runtime.CollisionFree)
    (noZero : env.runtime.NoZeroDigest) (credential : v.credential = tokenDigestOf env token)
    (h : Consumes env v op r) : AcknowledgingCall env v.id token (v.token env) op := by
  obtain ⟨client, request, supplied, ack, hop, hid, hcredential, hack⟩ := h.call
  rw [credential] at hcredential
  obtain rfl := credential_eq collisionFree noZero hcredential
  obtain rfl := acknowledgement_eq collisionFree noZero hack
  exact ⟨client, request, hid, hop⟩

/-- In every run with a clock that never goes back, after a response was newly accepted and
until another one is accepted for the same identity: a retrieval with the reservation token
and no acknowledgement, before the replay deadline and the first acknowledgement, returns the
accepted envelope and one acknowledgement token, if and only if every expired registration
finds room when the sweep of that retrieval comes to it. Nobody else gets the envelope, and
nobody after the deadline or the acknowledgement; only the two tokens together acknowledge
or delete it early; the replay deadline never changes; and a ready record always has its
response. -/
theorem two_phase_retrieval (env : StoreEnv) (collisionFree : env.runtime.CollisionFree)
    (noZero : env.runtime.NoZeroDigest) (before rest : List Call) (c : Call) (id : Identity)
    (envelope : EncryptedEnvelope) (token : String)
    (clock : ClockNondecreasing (before ++ c :: rest))
    (reserved : LastReserved env id token before)
    (accepted : AcceptsFor env id envelope c.op (c.result env (stateAfter env before)))
    (mid : List Call) (k : Call) (split : mid ++ [k] <+: rest)
    (unaccepted : Unaccepted env id (c.next env (stateAfter env before)) mid) :
    let s := c.next env (stateAfter env before)
    let x := runs env mid s
    let until_ := c.clock + env.config.responseReplayTtlSeconds
    let ackToken := deriveAcknowledgementToken env id c.clock
      (env.runtime.sha256 (utf8 (serializedResponseEnvelope envelope)))
    (∀ client request, identityOf env client request = .ok id →
      k.op = .retrieveEncryptedResponse client request token none → isfinite k.clock →
      k.clock < until_ → ¬Acknowledged env id s mid →
      (k.result env x = .ok (.retrieval (.ready envelope ackToken until_)) ↔
        k.op.SweepsFreely env k.clock x)) ∧
    (∀ client request credential acknowledgement envelope' ack expires,
      identityOf env client request = .ok id →
      k.op = .retrieveEncryptedResponse client request credential acknowledgement →
      k.result env x = .ok (.retrieval (.ready envelope' ack expires)) →
      credential = token ∧ envelope' = envelope ∧ ack = ackToken ∧ expires = until_ ∧
        k.clock < until_ ∧ ¬Acknowledged env id s mid) ∧
    (id ∈ x.responses → id ∉ (k.next env x).responses →
      until_ ≤ k.clock ∨ AcknowledgingCall env id token ackToken k.op) ∧
    (NotAcknowledged id x → ¬NotAcknowledged id (k.next env x) →
      AcknowledgingCall env id token ackToken k.op) ∧
    (∀ r, x.responses.get? id = some r →
      r.envelope = envelope ∧ r.replayExpiresAtEpoch = until_) ∧
    (∀ s₁, k.op.housekeeping env k.clock x = (.ok (), s₁) → ∀ id' t,
      s₁.terminals.get? id' = some t → t.retrievalState = .responseReady → id' ∈ s₁.responses) := by
  intro s x until_ ackToken
  have held := reserved.tokenHeld collisionFree
  obtain ⟨hex, ready⟩ := accepted.replayable (reachable_runs before).requestInv held
  let v : Delivery := ⟨id, envelope, tokenDigestOf env token, c.clock⟩
  have reachableS : Reachable env s := (reachable_runs before).step c
  have reachable : Reachable env x := reachableS.runs mid
  have ordered : ClockNondecreasing (c :: rest) := (List.pairwise_append.mp clock).2.1
  have earlier : ∀ j ∈ mid, j.clock ≤ k.clock := by
    intro j hj
    have tail := (List.pairwise_cons.mp ordered).2.sublist split.sublist
    exact (List.pairwise_append.mp tail).2.2 j hj k List.mem_cons_self
  have phase : (Replayable env v x ∧ ¬Acknowledged env id s mid) ∨ (Over id x ∧
      ((∃ j ∈ mid, until_ ≤ j.clock) ∨ Acknowledged env id s mid)) :=
    runs_replayable reachableS unaccepted ready
  refine ⟨?replay, ?only, ?deletes, ?acknowledges, ?deadline, ?repair⟩
  case replay =>
    intro client request hid hop finite early unacknowledged
    have readyX : Replayable env v x := by
      rcases phase with ⟨ready, -⟩ | ⟨-, ⟨j, hj, late⟩ | acknowledged⟩
      · exact ready
      · exact absurd early (not_lt.mpr (late.trans (earlier j hj)))
      · exact absurd acknowledged unacknowledged
    have valid : k.op.validate env = .ok () := by
      rw [hop]
      show discarding (identityOf env client request) = .ok ()
      rw [hid]
      rfl
    have notLease : ¬LeaseOverflows env k := by
      rintro ⟨⟨n, caps, d, heq⟩, -⟩
      cases hop.symm.trans heq
    have sweeps : k.op.sweepsLeases = true := by
      rw [hop]
      rfl
    have swept : SweepResult env k.clock (k.op.sweepStart env k.clock x)
        (k.op.housekeeping env k.clock x).1 :=
      k.op.housekeeping_result sweeps finite reachable.requestInv reachable.nodeInv
    rcases swept with ⟨free, ok⟩ | ⟨blocked, e, error, -⟩
    · refine ⟨fun _ => free, fun _ => ?_⟩
      have starts : Starts env k x (k.op.housekeeping env k.clock x).2 :=
        ⟨finite, valid, notLease, Prod.ext ok rfl⟩
      have replayed : k.result env x =
          .ok (.retrieval (.ready v.envelope (v.token env) (v.until_ env))) :=
        starts.replays hex rfl hop hid early readyX
      exact replayed
    · refine ⟨fun read => ?_, fun free => absurd free blocked⟩
      rw [k.raises_of_housekeeping finite valid notLease error] at read
      cases read
  case only =>
    intro client request credential acknowledgement envelope' ack expires hid hop ok
    have either : Replayable env v x ∨ Over v.id x := phase.imp And.left And.left
    obtain ⟨readyX, early, right, rfl, rfl, rfl⟩ := ready_result hop hid either ok
    refine ⟨credential_eq collisionFree noZero right, rfl, rfl, rfl, early, ?_⟩
    rcases phase with ⟨-, unacknowledged⟩ | ⟨elapsed, -⟩
    · exact unacknowledged
    · obtain ⟨t, ht, records⟩ := readyX.terminal
      exact absurd records.ready (elapsed t ht)
  case deletes =>
    intro stored deleted
    obtain ⟨r, hr⟩ := OrderedDict.mem_def.mp stored
    obtain ⟨t, ht, readyT⟩ := reachable.responseInv.ready id r hr
    have readyX : Replayable env v x := by
      rcases phase with ⟨ready, -⟩ | ⟨elapsed, -⟩
      · exact ready
      · exact absurd readyT (elapsed t ht)
    rcases Call.replayable reachable.requestInv readyX with ready' | ⟨-, late | consumes⟩
    · obtain ⟨r', hr', -⟩ := ready'.response
      exact absurd (OrderedDict.mem_of_get? hr') deleted
    · exact .inl late
    · exact .inr (consumes.acknowledging collisionFree noZero rfl)
  case acknowledges =>
    intro never moved
    have either : Replayable env v x ∨ Over v.id x := phase.imp And.left And.left
    have consumes := (Call.notAcknowledged either never).resolve_left moved
    exact consumes.acknowledging collisionFree noZero rfl
  case deadline =>
    intro r hr
    obtain ⟨t, ht, readyT⟩ := reachable.responseInv.ready id r hr
    rcases phase with ⟨readyX, -⟩ | ⟨elapsed, -⟩
    · obtain ⟨r', hr', same, deadline⟩ := readyX.response
      cases hr.symm.trans hr'
      exact ⟨same, deadline⟩
    · exact absurd readyT (elapsed t ht)
  case repair =>
    intro s₁ housekept id' t ht readyT
    have swept := (k.op.housekeeping_sweeps k.clock).of_eq housekept
    have inv := swept.keeps (fun _ _ step => step.responseInv) reachable.responseInv
    obtain ⟨r, hr, -⟩ := inv.stored id' t ht readyT
    exact OrderedDict.mem_of_get? hr

/-! ## Concrete runs -/

/-- The requester retrieves the sample response. -/
def retrieving (clock : Epoch) (acknowledgement : Option String) : Call :=
  sampleCall clock (.retrieveEncryptedResponse "client-1" "request-1" sampleToken acknowledgement)

theorem sample_lastReserved :
    LastReserved defaultEnv sampleIdentity sampleToken (registration :: admission 100 ++ [claiming]) := by
  refine ⟨[registration], _, _, rfl, ⟨⟨"client-1", "request-1", "model", "8k-fast", 100,
    some "cancel-1", rfl, by decide +kernel⟩, ?_⟩, ?_⟩
  · exact ⟨⟨"node-a", "model", .fast8k, 100, some 16, some sampleToken, true, .reserved⟩,
      by decide +kernel, rfl, rfl⟩
  · intro l j split token' reserves
    obtain ⟨client, request, model, tier, due, proof, hop, -⟩ := reserves.call
    have hj := split.subset (List.mem_append_right l List.mem_cons_self)
    rcases List.mem_cons.mp hj with rfl | hj
    · cases hop
    · cases List.mem_singleton.mp hj
      cases hop

/-- The response of the sample request is replayed at 2. -/
theorem two_phase_retrieval_replayed :
    let x := answering.next defaultEnv (stateAfter defaultEnv
      (registration :: admission 100 ++ [claiming]))
    Call.result defaultEnv (retrieving 2 none) x = .ok (.retrieval (.ready responseEnvelope
      "932fcd8a5ac28417e179eac216cc63aac2c6a4d679e7f0a12d9b65d753437666" 301)) := by
  intro x
  have accepted : AcceptsFor defaultEnv sampleIdentity responseEnvelope answering.op
      (answering.result defaultEnv (stateAfter defaultEnv
        (registration :: admission 100 ++ [claiming]))) :=
    ⟨⟨"node-a", credentialA, "consumer-1", "client-1", "request-1", 1, rfl, by decide +kernel⟩,
      ⟨1, 1, 301, true⟩, by decide +kernel, rfl⟩
  have none_before : ∀ (l : List Call) (j : Call), ¬l ++ [j] <+: [] := fun l j split =>
    absurd (List.prefix_nil.mp split) (by simp)
  have token : deriveAcknowledgementToken defaultEnv sampleIdentity answering.clock
      (defaultEnv.runtime.sha256 (utf8 (serializedResponseEnvelope responseEnvelope))) =
      "932fcd8a5ac28417e179eac216cc63aac2c6a4d679e7f0a12d9b65d753437666" := by decide +kernel
  have deadline : answering.clock + defaultEnv.config.responseReplayTtlSeconds = 301 := by
    decide +kernel
  rw [← token, ← deadline]
  exact ((two_phase_retrieval defaultEnv sampleRuntime_collisionFree sampleRuntime_noZeroDigest
    (registration :: admission 100 ++ [claiming]) [retrieving 2 none] answering sampleIdentity
    responseEnvelope sampleToken (by decide +kernel) sample_lastReserved accepted []
    (retrieving 2 none) (List.prefix_refl _) fun l j split => absurd split (none_before l j)).1
    "client-1" "request-1" (by decide +kernel) rfl (by decide +kernel) (by decide +kernel)
    fun ⟨l, j, split, _⟩ => none_before l j split).mpr (by decide +kernel)

/-- The lease of another node runs out while one node tombstone is all the store may hold:
the requester gets a capacity error and no envelope. -/
theorem replay_blocked_by_eviction :
    let x := stateAfter oneTombstoneEnv
      ([registration] ++ admission 100 ++ service ++
        [sampleCall 1 (.register "node-b" sampleCapabilities credentialA),
          sampleCall 2 (.unregister "node-a" credentialA)])
    (x.responses.get? sampleIdentity).map (fun r => (r.envelope, r.replayExpiresAtEpoch)) =
        some (responseEnvelope, 301) ∧
      Call.result oneTombstoneEnv (retrieving 31 none) x =
        .error (capacityExceeded "node tombstone capacity reached") := by
  decide +kernel

end StateStore
