import TokenPlace.StateStore.Quiescence
import TokenPlace.StateStore.Scheduling

/-!
# Reservation tokens

A reservation in the store was granted by one selection of the run and has stood
ever since (`Stands`). Its token digest ties an admission to that selection: with
fresh tokens and collision-free digests a token admits one request at most
(`admits_once`), on the node and with the parameters that were selected
(`Admits.granted`), and before the reservation expires as long as the clock does
not go back (`Admits.unexpired`).
-/

namespace StateStore

open Method

section

variable {env : StoreEnv} {s s' : Store} {now : Epoch} {id : Identity}

/-! ## The selection behind a reservation -/

/-- The reservation token that the call returns. -/
def Call.token? (env : StoreEnv) (c : Call) (s : Store) : Option String :=
  match c.result env s with
  | .ok (.selection r) => r.reservationToken
  | _ => none

/-- The reservation tokens that a run returns, in order. -/
def returnedTokens (env : StoreEnv) : List Call → Store → List String
  | [], _ => []
  | c :: calls, s => (c.token? env s).toList ++ returnedTokens env calls (c.next env s)

/-- No token is returned twice in the run. -/
def FreshTokens (env : StoreEnv) (calls : List Call) : Prop :=
  (returnedTokens env calls Store.initial).Nodup

instance (env : StoreEnv) (calls : List Call) : Decidable (FreshTokens env calls) :=
  inferInstanceAs (Decidable (List.Nodup _))

theorem returnedTokens_append {a b : List Call} :
    returnedTokens env (a ++ b) s = returnedTokens env a s ++
      returnedTokens env b (runs env a s) := by
  induction a generalizing s with
  | nil => rfl
  | cons c a ih =>
    rw [List.cons_append, returnedTokens, returnedTokens, ih, List.append_assoc]
    rfl

variable {r : ReservationRecord} {req : EnqueueRequest} {c : Call} {res : Except StoreError Reply}
  {before mid after : List Call} {e : Call} {drawn : String} {s₁ : Store} {op : Op}

theorem mem_returnedTokens {calls : List Call} {token : String}
    (h : c.token? env s = some token) : token ∈ returnedTokens env (c :: calls) s :=
  List.mem_append_left _ (Option.mem_toList.mpr h)

theorem FreshTokens.apart {c d : Call} {token : String}
    (fresh : FreshTokens env (before ++ c :: mid ++ d :: after))
    (first : c.token? env (stateAfter env before) = some token) :
    d.token? env (stateAfter env (before ++ c :: mid)) ≠ some token := by
  intro second
  unfold FreshTokens at fresh
  rw [returnedTokens_append] at fresh
  have earlier : token ∈ returnedTokens env (before ++ c :: mid) Store.initial := by
    rw [returnedTokens_append]
    exact List.mem_append_right _ (mem_returnedTokens first)
  exact (List.nodup_append.mp fresh).2.2 token earlier token (mem_returnedTokens second) rfl

/-- The call grants the reservation `r` for `id`. -/
def GrantsRecord (env : StoreEnv) (c : Call) (s : Store) (id : Identity) (r : ReservationRecord) :
    Prop :=
  ∃ req n evicted s₁, c.Asks env req ∧ GrantsReservation env c req n evicted s s₁ ∧
    req.identity = id ∧ r = reservationOf env c.clock c.drawn req n

theorem GrantsRecord.identity {s' : Store} {id' : Identity} {r r' : ReservationRecord}
    (h : GrantsRecord env c s id r) (h' : GrantsRecord env c s' id' r') : id = id' := by
  obtain ⟨req, n, evicted, s₁, asks, -, rfl, -⟩ := h
  obtain ⟨req', n', evicted', s₁', asks', -, rfl, -⟩ := h'
  rw [asks.unique asks']

theorem GrantsRecord.result (h : GrantsRecord env c s id r) :
    c.result env s = .ok (.selection (selectionResult r (some c.drawn) true)) ∧
      r.tokenDigest = tokenDigestOf env c.drawn := by
  obtain ⟨req, n, evicted, s₁, -, grants, rfl, rfl⟩ := h
  exact ⟨grants.result, rfl⟩

theorem GrantsRecord.token (h : GrantsRecord env c s id r) :
    c.token? env s = some c.drawn := by
  unfold Call.token?
  rw [h.result.1]
  rfl

/-- The reservation was granted by a call of the run and is there ever since. -/
def Stands (env : StoreEnv) (calls : List Call) (id : Identity) (r : ReservationRecord) : Prop :=
  ∃ before c after, calls = before ++ c :: after ∧ GrantsRecord env c (stateAfter env before) id r ∧
    ∀ a b, after = a ++ b →
      (stateAfter env (before ++ c :: a)).reservations.get? id = some r

theorem Commit.reservation_origin (h : Commit env now drawn op s res s')
    (hr : s'.reservations.get? id = some r) :
    s.reservations.get? id = some r ∨ ∃ x, res = .ok (.selection x) ∧ x.created = true := by
  cases h with
  | reserve _ _ => exact .inr ⟨_, rfl, rfl⟩
  | enqueue _ h =>
    exact .inl (by
      rcases (h.hasWork (w := .reservation r)).mp hr with ⟨-, other⟩ | ⟨-, old⟩
      · cases other
      · exact old)
  | cancel _ h =>
    have live : s'.HasWork id (.reservation r) := hr
    rw [h.post] at live
    exact .inl (writeTerminal_hasWork.mp live).2
  | register h | reregister _ h | renew h | setScheduler h | advance h | claim _ _ h
  | renewClaim _ h | acknowledgeControl _ h | accept _ h | acknowledgeResponse _ h | repair _ h =>
    rw [h.post] at hr; exact .inl hr

theorem Call.reservation_origin (reachable : Reachable env s)
    (hr : (c.next env s).reservations.get? id = some r) :
    s.reservations.get? id = some r ∨ GrantsRecord env c s id r := by
  by_cases selects : ∃ x, c.result env s = .ok (.selection x) ∧ x.created = true
  · obtain ⟨x, result, created⟩ := selects
    obtain ⟨req, n, evicted, s₁, asks, grants⟩ := reachable.grants result created
    rw [grants.post] at hr
    have found := (OrderedDict.get?_set ..).symm.trans hr
    split at found
    · next same =>
      cases found
      exact .inr ⟨req, n, evicted, s₁, asks, grants, same.symm, rfl⟩
    · have sweeps : Sweeps env Any c.clock s s₁ := reapLocked_sweeps.of_eq grants.swept
      exact .inl (sweeps.shrinks.work id (.reservation r) found)
  · refine .inl ((c.next_outcome s).keeps_unless
      (I := fun x => x.reservations.get? id = some r → s.reservations.get? id = some r)
      (E := fun res => ∃ x, res = .ok (.selection x) ∧ x.created = true) ?_ ?_ selects (fun h => h)
      hr)
    · exact fun a b step old new => old (step.shrinks.work id (.reservation r) new)
    · intro a res b commit old
      by_cases new : b.reservations.get? id = some r
      · exact (commit.reservation_origin new).imp_left fun h _ => old h
      · exact .inl fun h => absurd h new

theorem stands (calls : List Call)
    (hr : (stateAfter env calls).reservations.get? id = some r) : Stands env calls id r := by
  induction calls using List.reverseRecOn with
  | nil => cases hr
  | append_singleton calls c ih =>
    have here := hr
    rw [stateAfter_snoc] at hr
    rcases c.reservation_origin (reachable_runs calls) hr with old | granted
    · obtain ⟨before, d, after, rfl, granted, standing⟩ := ih old
      refine ⟨before, d, after ++ [c], by simp, granted, fun a b split => ?_⟩
      rcases List.eq_nil_or_concat b with rfl | ⟨b, last, rfl⟩
      · rw [List.append_nil] at split
        rw [← split]
        simpa using here
      · rw [List.concat_eq_append, ← List.append_assoc] at split
        exact standing a b (List.append_inj_left' split rfl)
    · refine ⟨calls, c, [], rfl, granted, fun a b split => ?_⟩
      obtain ⟨rfl, -⟩ := List.append_eq_nil_iff.mp split.symm
      exact here

/-! ## Admission -/

/-- The call is an `enqueue_encrypted_request` with this token and the checked arguments
`req`. -/
def Call.Submits (env : StoreEnv) (e : Call) (token : String) (req : EnqueueRequest) : Prop :=
  ∃ client request n model tier due envelope cancellation,
    e.op = .enqueueEncryptedRequest client request token n model tier due envelope cancellation ∧
      validateEnqueue env client request token n model tier due envelope cancellation = .ok req

/-- The call queues a new request and returns `result`. -/
structure Admits (env : StoreEnv) (e : Call) (s : Store) (token : String) (req : EnqueueRequest)
    (result : EnqueueResult) : Prop where
  submits : e.Submits env token req
  answer : e.result env s = .ok (.enqueued result)
  created : result.created = true

/-- A reservation is turned into a queued request. -/
structure Admitted (now : Epoch) (req : EnqueueRequest) (r : ReservationRecord)
    (result : EnqueueResult) (s s' : Store) : Prop where
  not_queued : s.queued.get? req.identity = none
  reserved : s.reservations.get? req.identity = some r
  unexpired : now < req.deadline
  model : r.requestedModelId = req.modelId
  tier : r.requestedContextTier = req.tier
  deadline : r.requestDeadlineEpoch = req.deadline
  node : r.selectedNodeId = req.selectedNodeId
  token : r.tokenDigest = req.tokenDigest
  cancellation : ∀ d, s.cancellationTokenDigests.get? req.identity = some d →
    d = req.cancellationDigest
  result : result = enqueueResult (queuedOf req now (s.nextQueueSequence + 1)) true
  post : s' = writeQueued req now s

/-- Every check of `enqueue_encrypted_request` has passed when it queues a request. -/
theorem enqueueEncryptedRequestLocked_admitted :
    Ends (enqueueEncryptedRequestLocked env req now) s fun r s' =>
      ∀ x, r = .ok x → x.created = true → ∃ res, Admitted now req res x s s' := by
  unfold enqueueEncryptedRequestLocked
  simp only [ends_bind, ends_getState, ends_raiseIf, follow_ok, follow_error]
  refine ⟨fun _ => by simp, fun unexpired => ⟨fun _ => by simp, fun _ => ?_⟩⟩
  cases hq : s.queued.get? req.identity with
  | some q =>
    unfold enqueueRetryLocked
    simp only [requireSameParameters, ends_bind, ends_getState, ends_raiseIf, follow_ok,
      follow_error]
    refine ⟨fun _ => by simp, fun _ => ⟨fun _ => by simp, fun _ => ?_⟩⟩
    cases s.queuedTokenDigests.get? req.identity with
    | none => simp
    | some stored =>
      simp only [ends_bind, ends_raiseIf, follow_ok, follow_error]
      refine ⟨fun _ => by simp, fun _ => ?_⟩
      cases s.cancellationTokenDigests.get? req.identity with
      | none => simp
      | some stored =>
        simp only [ends_bind, ends_raiseIf, follow_ok, follow_error, ends_pure]
        refine ⟨fun _ => by simp, fun _ x hx created => ?_⟩
        cases hx
        cases created
  | none =>
    unfold enqueueNewLocked
    simp only [ends_bind, ends_getState, ends_raiseIf, follow_ok, follow_error]
    refine ⟨fun _ => by simp, fun _ => ?_⟩
    cases hr : s.reservations.get? req.identity with
    | none => simp
    | some r =>
      simp only [requireSameParameters, ends_bind, ends_raiseIf, follow_ok, follow_error,
        ends_modifyState, ends_pure]
      refine ⟨fun _ => by simp, fun _ => ⟨fun _ => by simp, fun same => ?_⟩⟩
      refine ⟨fun _ => by simp, fun cancellation => ⟨fun _ => by simp, fun holder => ?_⟩⟩
      refine ⟨fun _ => by simp, fun _ => ⟨fun _ => by simp, fun _ x hx _ => ?_⟩⟩
      simp only [not_or, ne_eq, not_not] at same holder
      cases hx
      refine ⟨r, hq, hr, not_le.mp unexpired, same.1, same.2.1, same.2.2, holder.1, holder.2,
        fun d hd => ?_, rfl, rfl⟩
      by_contra different
      exact cancellation ⟨d, hd, different⟩

theorem Call.Submits.runs {token : String}
    (submits : e.Submits env token req) (finite : isfinite e.clock)
    (swept : reapLocked env e.clock s = (.ok (), s₁)) :
    e.result env s = (enqueueEncryptedRequestLocked env req e.clock s₁).1.map .enqueued ∧
      e.next env s = (enqueueEncryptedRequestLocked env req e.clock s₁).2 := by
  obtain ⟨client, request, n, model, tier, due, envelope, cancellation, hop, valid⟩ := submits
  have run : e.run env = replying .enqueued
      (enqueueEncryptedRequest env e.clock client request token n model tier due envelope
        cancellation) := by
    unfold Call.run
    rw [hop]
  exact Call.run_body run valid finite swept

theorem Call.Submits.token {token : String}
    (submits : e.Submits env token req) : req.tokenDigest = tokenDigestOf env token := by
  obtain ⟨client, request, n, model, tier, due, envelope, cancellation, hop, valid⟩ := submits
  obtain ⟨-, -, -, -, digest⟩ := validateEnqueue_ok valid
  unfold tokenDigest at digest
  split at digest
  · exact (Except.ok.inj digest).symm
  · cases digest

/-- An admission turns a reservation that its housekeeping left into a queued request. -/
theorem Admits.admitted {token : String}
    {result : EnqueueResult} (h : Admits env e s token req result) :
    ∃ s₁ r, isfinite e.clock ∧ reapLocked env e.clock s = (.ok (), s₁) ∧
      Admitted e.clock req r result s₁ (e.next env s) := by
  have outcome : CallOutcome env e s (e.result env s) (e.next env s) := e.next_outcome s
  rw [h.answer] at outcome
  obtain ⟨s₁, finite, -, swept, -⟩ := outcome.committed h.created nofun
  have reaped : reapLocked env e.clock s = (.ok (), s₁) := by
    obtain ⟨_, _, _, _, _, _, _, _, hop, -⟩ := h.submits
    rw [← swept, hop]
    rfl
  obtain ⟨same, next⟩ := h.submits.runs finite reaped
  have body : Ends (enqueueEncryptedRequestLocked env req e.clock) s₁ fun r s' =>
      ∀ x, r = .ok x → x.created = true → ∃ res, Admitted e.clock req res x s₁ s' :=
    enqueueEncryptedRequestLocked_admitted
  unfold Ends at body
  rw [h.answer] at same
  rw [next]
  cases hb : (enqueueEncryptedRequestLocked env req e.clock s₁).1 with
  | error err =>
    rw [hb] at same
    cases same
  | ok x =>
    rw [hb] at same
    cases same
    obtain ⟨r, admitted⟩ := body _ hb h.created
    exact ⟨s₁, r, finite, reaped, admitted⟩

/-! ## One admission for each token -/

theorem FreshTokens.unique {calls before before' after after' : List Call} {c c' : Call}
    {token : String} (fresh : FreshTokens env calls) (split : calls = before ++ c :: after)
    (split' : calls = before' ++ c' :: after')
    (returns : c.token? env (stateAfter env before) = some token)
    (returns' : c'.token? env (stateAfter env before') = some token) :
    before = before' ∧ c = c' ∧ after = after' := by
  rcases List.append_eq_append_iff.mp (split.symm.trans split') with
    ⟨mid, rfl, rest⟩ | ⟨mid, rfl, rest⟩
  · cases mid with
    | nil =>
      cases rest
      exact ⟨(List.append_nil before).symm, rfl, rfl⟩
    | cons e mid =>
      cases rest
      exact absurd returns' (FreshTokens.apart (split' ▸ fresh) returns)
  · cases mid with
    | nil =>
      cases rest
      exact ⟨List.append_nil before', rfl, rfl⟩
    | cons e mid =>
      cases rest
      exact absurd returns (FreshTokens.apart (split ▸ fresh) returns')

theorem Admits.stands (collisionFree : env.runtime.CollisionFree) {before : List Call}
    {token : String} {result : EnqueueResult}
    (h : Admits env e (stateAfter env before) token req result) :
    ∃ pre c mid s₁ r, before = pre ++ c :: mid ∧
      GrantsRecord env c (stateAfter env pre) req.identity r ∧
      c.drawn = token ∧
      (∀ a b, mid = a ++ b →
        (stateAfter env (pre ++ c :: a)).reservations.get? req.identity = some r) ∧
      reapLocked env e.clock (stateAfter env before) = (.ok (), s₁) ∧
      Admitted e.clock req r result s₁ (e.next env (stateAfter env before)) := by
  obtain ⟨s₁, r, finite, swept, admitted⟩ := h.admitted
  have sweeps : Sweeps env Any e.clock (stateAfter env before) s₁ := reapLocked_sweeps.of_eq swept
  have reserved : (stateAfter env before).reservations.get? req.identity = some r :=
    sweeps.shrinks.work req.identity (.reservation r) admitted.reserved
  obtain ⟨pre, c, mid, rfl, granted, standing⟩ := StateStore.stands before reserved
  obtain ⟨-, digest⟩ := granted.result
  have same : c.drawn = token := by
    refine utf8_injective (collisionFree ?_)
    exact digest.symm.trans (admitted.token.trans h.submits.token)
  exact ⟨pre, c, mid, s₁, r, rfl, granted, same, standing, swept, admitted⟩

theorem admits_once (collisionFree : env.runtime.CollisionFree) {e e' : Call}
    (fresh : FreshTokens env (before ++ e :: mid ++ e' :: after)) {token : String}
    {req req' : EnqueueRequest} {result result' : EnqueueResult}
    (first : Admits env e (stateAfter env before) token req result) :
    ¬Admits env e' (stateAfter env (before ++ e :: mid)) token req' result' := by
  intro second
  obtain ⟨pre, c, rest, s₁, r, rfl, granted, rfl, standing, swept, admitted⟩ :=
    first.stands collisionFree
  obtain ⟨pre', c', rest', s₁', r', split, granted', drawn, standing', -, -⟩ :=
    second.stands collisionFree
  have whole : pre ++ c :: rest ++ e :: mid ++ e' :: after =
      pre' ++ c' :: (rest' ++ e' :: after) := by
    rw [split, List.append_assoc]
    rfl
  obtain ⟨rfl, rfl, -⟩ := fresh.unique (by rw [List.append_assoc, List.append_assoc]; rfl) whole
    granted.token (drawn ▸ granted'.token)
  have same := granted.identity granted'
  -- the reservation of the second admission stood when the first one consumed it
  have kept := standing' (rest ++ [e]) mid (by simpa using split.symm)
  have consumed : stateAfter env (pre ++ c :: (rest ++ [e])) = writeQueued req e.clock s₁ := by
    rw [← List.cons_append, ← List.append_assoc, stateAfter_snoc]
    exact admitted.post
  rw [consumed, ← same] at kept
  have erased : (writeQueued req e.clock s₁).reservations.get? req.identity = none :=
    (OrderedDict.get?_erase ..).trans (if_pos rfl)
  rw [erased] at kept
  cases kept

/-! ## Expired reservations -/

/-- The call answers a request under this identity. -/
def Op.AnswersTo (env : StoreEnv) (op : Op) (id : Identity) : Prop :=
  ∃ n d consumer client request generation envelope req digest,
    op = .acceptEncryptedResponse n d consumer client request generation envelope ∧
      validateAcceptance env n d consumer client request generation envelope = .ok (req, digest) ∧
      req.identity = id

/-- Every deferred identity has a live record, with this property. -/
def DeferredWith (P : Identity → Work → Prop) (s : Store) : Prop :=
  ∀ id ∈ s.deferredDeadlineIdentities, ∃ w, s.HasWork id w ∧ P id w

/-- Every deferred identity still has the lifecycle whose deadline passed. -/
def DeferredOver (now : Epoch) (s : Store) : Prop :=
  ∀ id ∈ s.deferredDeadlineIdentities, ∃ w, s.HasWork id w ∧ w.requestDeadlineEpoch ≤ now

section

variable {P : Identity → Work → Prop}

theorem DeferredWith.kept (h : DeferredWith P s)
    (deferred : s'.deferredDeadlineIdentities = s.deferredDeadlineIdentities)
    (work : ∀ k ∈ s.deferredDeadlineIdentities, ∀ w, s.HasWork k w → s'.HasWork k w) :
    DeferredWith P s' := by
  intro k hk
  rw [deferred] at hk
  obtain ⟨w, hw, holds⟩ := h k hk
  exact ⟨w, work k hk w hw, holds⟩

theorem DeferredWith.removed (h : DeferredWith P s) (removed : Removed id s s')
    (gone : id ∉ s'.deferredDeadlineIdentities)
    (deferred : s'.deferredDeadlineIdentities ⊆ s.deferredDeadlineIdentities) :
    DeferredWith P s' := by
  intro k hk
  obtain ⟨w, hw, holds⟩ := h k (deferred hk)
  exact ⟨w, removed.hasWork.mpr ⟨fun same => gone (same ▸ hk), hw⟩, holds⟩

variable {policy : TerminalPolicy}

theorem Terminalizes.deferredWith {w : Work} {status : Outcome}
    {reason : Reason} {force : Bool} (requests : RequestInv s)
    (h : Terminalizes env policy now id w status reason force s s') (kept : DeferredWith P s) :
    DeferredWith P s' := by
  have deferred : s'.deferredDeadlineIdentities = s.deferredDeadlineIdentities.erase id := by
    rw [h.post]
    exact writeTerminal_deferred
  refine kept.removed (h.removed requests) ?_ ?_ <;> rw [deferred]
  · exact Finset.notMem_erase id _
  · exact Finset.erase_subset id _

theorem Sweep.deferredWith (requests : RequestInv s)
    (h : Sweep env policy now s s') (due : ∀ id w, w.requestDeadlineEpoch ≤ now → P id w)
    (kept : DeferredWith P s) : DeferredWith P s' := by
  cases h with
  | reapRetained =>
    rw [reapRetained_eq]
    exact kept.kept rfl fun _ _ w hw => by cases w <;> exact hw
  | terminalize h => exact h.deferredWith requests kept
  | @defer id w _ _ h =>
    have work : ∀ k w, s.HasWork k w → s'.HasWork k w := by
      rw [h.post]
      exact fun _ w hw => by cases w <;> exact hw
    have deferred : s'.deferredDeadlineIdentities = insert id s.deferredDeadlineIdentities := by
      rw [h.post]
    intro k hk
    rw [deferred, Finset.mem_insert] at hk
    rcases hk with rfl | hk
    · exact ⟨w, work k w h.live, due k w h.due⟩
    · obtain ⟨v, hv, holds⟩ := kept k hk
      exact ⟨v, work k v hv, holds⟩
  | lapse h =>
    have deferred : s'.deferredDeadlineIdentities = s.deferredDeadlineIdentities := by
      rw [h.post]
      rfl
    refine kept.removed (h.removed requests) ?_ ?_ <;> rw [deferred]
    exact h.kept
  | startRemoval h | discardWork h | touchFences h | finishRemoval h =>
    rw [h.post]
    exact kept.kept rfl fun _ _ w hw => by cases w <;> exact hw

/-- What an operation may do without leaving a member behind: what holds of a reservation holds of
the request it becomes, and a request that is answered is not due. -/
structure Carries (env : StoreEnv) (now : Epoch) (op : Op) (P : Identity → Work → Prop) : Prop where
  queued : ∀ id r q, ¬op.AnswersTo env id → r.requestDeadlineEpoch = q.requestDeadlineEpoch →
    P id (.reservation r) → P id (.queued q)
  answered : ∀ id q, op.AnswersTo env id → P id (.queued q) → q.requestDeadlineEpoch ≤ now

theorem Commit.deferredWith
    (requests : RequestInv s) (h : Commit env now drawn op s res s')
    (carries : Carries env now op P)
    (kept : DeferredWith P s) : DeferredWith P s' := by
  cases h with
  | reserve _ h =>
    refine kept.kept (by rw [h.post]; rfl) fun k _ w hw => ?_
    exact h.hasWork.mpr (.inr hw)
  | @enqueue _ _ _ _ _ _ _ _ _ req r _ _ _ h =>
    have deferred : s'.deferredDeadlineIdentities = s.deferredDeadlineIdentities := by
      rw [h.post]
      rfl
    intro k hk
    rw [deferred] at hk
    obtain ⟨w, hw, holds⟩ := kept k hk
    by_cases same : k = req.identity
    · subst same
      obtain rfl := requests.work_unique hw (v := .reservation r) h.reserved
      refine ⟨_, h.hasWork.mpr (.inl ⟨rfl, rfl⟩), carries.queued _ r _ ?_ h.deadline holds⟩
      rintro ⟨_, _, _, _, _, _, _, _, _, answers, -, -⟩
      nomatch answers
    · exact ⟨w, h.hasWork.mpr (.inr ⟨same, hw⟩), holds⟩
  | @accept _ _ _ _ _ _ _ req digest registration c q _ _ _ _ valid h =>
    have untouched : req.identity ∉ s.deferredDeadlineIdentities := by
      intro deferred
      obtain ⟨w, hw, holds⟩ := kept _ deferred
      obtain ⟨q', found, -, -, -, due⟩ := requests.claim_queued _ _ h.claimed
      obtain rfl := requests.work_unique hw (v := .queued q') found
      have elapsed := carries.answered _ q' ⟨_, _, _, _, _, _, _, req, _, rfl, valid, rfl⟩ holds
      rw [← due] at elapsed
      exact absurd h.unexpired (not_lt.mpr elapsed)
    have deferred : s'.deferredDeadlineIdentities = s.deferredDeadlineIdentities := by
      rw [h.post]
      rfl
    refine kept.removed (h.removed requests) ?_ ?_ <;> rw [deferred]
    exact untouched
  | cancel _ h => exact h.deferredWith requests kept
  | register h | reregister _ h | renew h | setScheduler h | advance h | claim _ _ h
  | renewClaim _ h | repair _ h | acknowledgeControl _ h | acknowledgeResponse _ h =>
    rw [h.post]
    exact kept.kept rfl fun _ _ w hw => by cases w <;> exact hw

theorem Sweeps.deferredWith (requests : RequestInv s)
    (h : Sweeps env policy now s s') (due : ∀ id w, w.requestDeadlineEpoch ≤ now → P id w)
    (kept : DeferredWith P s) : RequestInv s' ∧ DeferredWith P s' :=
  h.keeps (I := fun x => RequestInv x ∧ DeferredWith P x)
    (fun _ _ step ⟨requests, kept⟩ =>
      ⟨step.requestInv requests, step.deferredWith requests due kept⟩) ⟨requests, kept⟩

theorem DeferredWith.next (reachable : Reachable env s)
    (due : ∀ id w, w.requestDeadlineEpoch ≤ c.clock → P id w)
    (carries : Carries env c.clock c.op P) (h : DeferredWith P s) :
    DeferredWith P (c.next env s) := by
  have outcome : CallOutcome env c s (c.result env s) (c.next env s) := c.next_outcome s
  refine And.right (outcome.keeps (I := fun x => RequestInv x ∧ DeferredWith P x) ?_ ?_
    ⟨reachable.requestInv, h⟩)
  · rintro a b step ⟨requests, kept⟩
    exact ⟨step.requestInv requests, step.deferredWith requests due kept⟩
  · rintro a r b step ⟨requests, kept⟩
    exact ⟨step.requestInv requests, step.deferredWith requests carries kept⟩

end

theorem DeferredOver.early (h : DeferredOver now s) (requests : RequestInv s) {w : Work}
    (live : s.HasWork id w) (early : now < w.requestDeadlineEpoch) :
    id ∉ s.deferredDeadlineIdentities := by
  intro deferred
  obtain ⟨v, hv, elapsed⟩ := h id deferred
  rw [requests.work_unique hv live] at elapsed
  exact absurd early (not_lt.mpr elapsed)

theorem DeferredOver.next (reachable : Reachable env s)
    (h : DeferredOver c.clock s) : DeferredOver c.clock (c.next env s) :=
  DeferredWith.next reachable (fun _ _ due => due)
    ⟨fun _ _ _ _ same due => le_of_eq_of_le same.symm due, fun _ _ _ due => due⟩ h

theorem DeferredOver.mono {later : Epoch} (h : DeferredOver now s) (le : now ≤ later) :
    DeferredOver later s := by
  intro id deferred
  obtain ⟨w, hw, elapsed⟩ := h id deferred
  exact ⟨w, hw, elapsed.trans le⟩

theorem deferredOver_runs (calls : List Call) (forward : ∀ c ∈ calls, c.clock ≤ now)
    (monotone : ClockNondecreasing calls) : DeferredOver now (stateAfter env calls) := by
  induction calls using List.reverseRecOn generalizing now with
  | nil => exact nofun
  | append_singleton calls c ih =>
    obtain ⟨earlier, -, before⟩ := List.pairwise_append.mp monotone
    have start : DeferredOver c.clock (stateAfter env calls) :=
      ih (fun d hd => before d hd c (List.mem_singleton.mpr rfl)) earlier
    rw [stateAfter_snoc]
    exact (start.next (reachable_runs calls)).mono
      (forward c (List.mem_append_right _ (List.mem_singleton.mpr rfl)))

theorem Admitted.before_expiry {before : List Call} {result : EnqueueResult}
    (swept : reapLocked env e.clock (stateAfter env before) = (.ok (), s₁))
    (admitted : Admitted e.clock req r result s₁ s')
    (monotone : ClockNondecreasing (before ++ [e])) :
    e.clock < r.reservationExpiresAtEpoch := by
  have reached : Reachable env (stateAfter env before) := reachable_runs before
  obtain ⟨earlier, -, forward⟩ := List.pairwise_append.mp monotone
  have start : DeferredOver e.clock (stateAfter env before) :=
    deferredOver_runs before (fun d hd => forward d hd e (List.mem_singleton.mpr rfl)) earlier
  have sweeps : Sweeps env Any e.clock (stateAfter env before) s₁ := reapLocked_sweeps.of_eq swept
  obtain ⟨requests, elapsed⟩ := sweeps.deferredWith reached.requestInv (fun _ _ due => due) start
  refine not_le.mp fun lapsed => ?_
  have deferred := reapLocked_lapsed.of_eq swept rfl req.identity r admitted.reserved lapsed
  refine DeferredOver.early elapsed requests (w := .reservation r) admitted.reserved ?_ deferred
  show e.clock < r.requestDeadlineEpoch
  rw [admitted.deadline]
  exact admitted.unexpired

end

end StateStore
