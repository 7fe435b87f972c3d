import TokenPlace.StateStore.Tokens

/-!
# Retried admission

What a queued request keeps until its lifecycle ends (`AdmissionFate`), so that
the same `enqueue_encrypted_request` finds every field it compares
(`Admits.retry`); what a repeated `select_and_reserve` leaves alone
(`Call.Asks.repeated`); and the digest of the cancellation token, which is
written at most once in a lifecycle (`cancellation_kept`).

`admission_idempotent` puts them together for a run with fresh tokens.
-/

namespace StateStore

open Method

section

variable {env : StoreEnv} {s s' : Store} {now : Epoch} {id : Identity}

/-! ## A queued request -/

/-- An admitted request is queued as it was admitted, or its lifecycle is over: its sequence
number is not given again. -/
inductive AdmissionFate (id : Identity) (q : QueuedRequest) (token cancellation : String)
    (s : Store) : Prop
  | kept : s.queued.get? id = some q → s.queuedTokenDigests.get? id = some token →
      s.cancellationTokenDigests.get? id = some cancellation →
      AdmissionFate id q token cancellation s
  | settled : q.sequence ≤ s.nextQueueSequence →
      (∀ q', s.queued.get? id = some q' → q'.sequence ≠ q.sequence) →
      AdmissionFate id q token cancellation s

section

variable {q : QueuedRequest} {token cancellation : String}

theorem AdmissionFate.same (h : AdmissionFate id q token cancellation s)
    (queued : s'.queued = s.queued) (tokens : s'.queuedTokenDigests = s.queuedTokenDigests)
    (cancellations : s'.cancellationTokenDigests = s.cancellationTokenDigests)
    (sequence : s'.nextQueueSequence = s.nextQueueSequence) :
    AdmissionFate id q token cancellation s' := by
  cases h with
  | kept found digest cancel =>
    exact .kept (by rw [queued]; exact found) (by rw [tokens]; exact digest)
      (by rw [cancellations]; exact cancel)
  | settled below other => exact .settled (by rw [sequence]; exact below) (by rw [queued]; exact other)

theorem AdmissionFate.removed {k : Identity} (requests : RequestInv s)
    (h : AdmissionFate id q token cancellation s) (removed : Removed k s s') :
    AdmissionFate id q token cancellation s' := by
  cases h with
  | kept found digest cancel =>
    by_cases same : id = k
    · refine .settled ?_ fun q' hq' => ?_
      · rw [removed.sequence]
        exact requests.sequence_le id q found
      · rw [removed.queued, if_pos same] at hq'
        cases hq'
    · refine .kept ?_ ?_ ?_
      · rw [removed.queued, if_neg same]
        exact found
      · rw [removed.tokens, if_neg same]
        exact digest
      · rw [removed.cancellation, if_neg same]
        exact cancel
  | settled below other =>
    refine .settled (by rw [removed.sequence]; exact below) fun q' hq' => ?_
    exact other q' ((some_of_removed removed.queued).mp hq').2

variable {P : TerminalPolicy}

theorem Sweep.admissionFate (requests : RequestInv s)
    (h : Sweep env P now s s') (fate : AdmissionFate id q token cancellation s) :
    AdmissionFate id q token cancellation s' := by
  cases h with
  | reapRetained =>
    rw [reapRetained_eq]
    exact fate.same rfl rfl rfl rfl
  | terminalize h | lapse h => exact fate.removed requests (h.removed requests)
  | defer h | startRemoval h | discardWork h | touchFences h | finishRemoval h =>
    rw [h.post]; exact fate.same rfl rfl rfl rfl

theorem AdmissionFate.enqueue {req : EnqueueRequest} {r : ReservationRecord}
    (fate : AdmissionFate id q token cancellation s) (h : Enqueues env now req r s s') :
    AdmissionFate id q token cancellation s' := by
  have queued : s'.queued.get? id = if id = req.identity then
      some (queuedOf req now (s.nextQueueSequence + 1)) else s.queued.get? id := by
    rw [h.post]
    exact OrderedDict.get?_set ..
  have sequence : s'.nextQueueSequence = s.nextQueueSequence + 1 := by
    rw [h.post]
    rfl
  cases fate with
  | kept found digest cancel =>
    have other : id ≠ req.identity := by
      rintro rfl
      rw [h.not_queued] at found
      cases found
    refine .kept (by rw [queued, if_neg other]; exact found) ?_ ?_
    · rw [h.post]
      exact (OrderedDict.get?_set ..).trans ((if_neg other).trans digest)
    · rw [h.post]
      exact (OrderedDict.get?_set ..).trans ((if_neg other).trans cancel)
  | settled below other =>
    refine .settled (by omega) fun q' hq' => ?_
    rw [queued] at hq'
    split at hq'
    · cases hq'
      show s.nextQueueSequence + 1 ≠ q.sequence
      omega
    · exact other q' hq'

theorem AdmissionFate.reserve {req : SelectionRequest} {record : ReservationRecord}
    {evicted : Option String} (fate : AdmissionFate id q token cancellation s)
    (h : Reserves env now req record evicted s s') :
    AdmissionFate id q token cancellation s' := by
  rw [h.post]
  cases fate with
  | kept found digest cancel =>
    have other : id ≠ req.identity := by
      rintro rfl
      rw [h.not_queued] at found
      cases found
    refine .kept found digest ?_
    unfold writeReservation
    cases req.cancellationDigest with
    | none => exact cancel
    | some d => exact (OrderedDict.get?_set ..).trans ((if_neg other).trans cancel)
  | settled below other => exact .settled below other

theorem Commit.admissionFate {drawn : String} {op : Op} {res : Except StoreError Reply}
    (requests : RequestInv s) (h : Commit env now drawn op s res s')
    (fate : AdmissionFate id q token cancellation s) :
    AdmissionFate id q token cancellation s' := by
  cases h with
  | enqueue _ h => exact fate.enqueue h
  | reserve _ h => exact fate.reserve h
  | accept _ h | cancel _ h => exact fate.removed requests (h.removed requests)
  | register h | reregister _ h | renew h | setScheduler h | advance h | claim _ _ h
  | renewClaim _ h | acknowledgeControl _ h | acknowledgeResponse _ h | repair _ h =>
    rw [h.post]; exact fate.same rfl rfl rfl rfl

theorem Sweeps.admissionFate (requests : RequestInv s)
    (h : Sweeps env P now s s') (fate : AdmissionFate id q token cancellation s) :
    AdmissionFate id q token cancellation s' := by
  refine And.right (h.keeps
    (I := fun x => RequestInv x ∧ AdmissionFate id q token cancellation x) ?_ ⟨requests, fate⟩)
  rintro a b step ⟨requests, fate⟩
  exact ⟨step.requestInv requests, step.admissionFate requests fate⟩

theorem AdmissionFate.runs (calls : List Call) (reachable : Reachable env s)
    (fate : AdmissionFate id q token cancellation s) :
    AdmissionFate id q token cancellation (StateStore.runs env calls s) := by
  induction calls generalizing s with
  | nil => exact fate
  | cons c calls ih =>
    have outcome : CallOutcome env c s (c.result env s) (c.next env s) := c.next_outcome s
    refine ih (reachable.step c) (And.right (outcome.keeps
      (I := fun x => RequestInv x ∧ AdmissionFate id q token cancellation x) ?_ ?_
      ⟨reachable.requestInv, fate⟩))
    · rintro a b step ⟨requests, fate⟩
      exact ⟨step.requestInv requests, step.admissionFate requests fate⟩
    · rintro a r b step ⟨requests, fate⟩
      exact ⟨step.requestInv requests, step.admissionFate requests fate⟩

end

variable {d : String} {result : EnqueueResult} {c : Call} {s₁ : Store}

theorem Admitted.fate {req : EnqueueRequest} {r : ReservationRecord}
    (h : Admitted now req r result s s') :
    ∃ q, q = queuedOf req now result.sequence ∧ result = enqueueResult q true ∧
      AdmissionFate req.identity q req.tokenDigest req.cancellationDigest s' := by
  refine ⟨queuedOf req now (s.nextQueueSequence + 1), by rw [h.result]; rfl, h.result, ?_⟩
  rw [h.post]
  refine .kept ?_ ?_ ?_ <;> exact (OrderedDict.get?_set ..).trans (if_pos rfl)

theorem enqueueEncryptedRequestLocked_retry {req : EnqueueRequest} {clock : Epoch} {sequence : Nat}
    (requests : RequestInv s)
    (queued : s.queued.get? req.identity = some (queuedOf req clock sequence))
    (token : s.queuedTokenDigests.get? req.identity = some req.tokenDigest)
    (cancellation : s.cancellationTokenDigests.get? req.identity = some req.cancellationDigest)
    (early : now < req.deadline) :
    enqueueEncryptedRequestLocked env req now s =
      (.ok (enqueueResult (queuedOf req clock sequence) false
        (if claimActive s req.identity now then .claimed else .queued)), s) := by
  have fresh : req.identity ∉ s.terminals :=
    requests.live_not_terminal req.identity (.queued (queuedOf req clock sequence)) queued
  have ended : Ends (enqueueEncryptedRequestLocked env req now) s fun r s' =>
      (r, s') = (.ok (enqueueResult (queuedOf req clock sequence) false
        (if claimActive s req.identity now then .claimed else .queued)), s) := by
    unfold enqueueEncryptedRequestLocked
    simp only [ends_bind, ends_getState, ends_raiseIf, follow_ok, follow_error]
    refine ⟨fun late => absurd early (not_lt.mpr late), fun _ =>
      ⟨fun terminal => absurd terminal fresh, fun _ => ?_⟩⟩
    rw [queued]
    unfold enqueueRetryLocked
    simp only [requireSameParameters, ends_bind, ends_getState, ends_raiseIf, follow_ok,
      follow_error]
    refine ⟨fun different => absurd different (by simp [queuedOf]), fun _ =>
      ⟨fun different => absurd different (by simp [queuedOf]), fun _ => ?_⟩⟩
    rw [token]
    simp only [ends_bind, ends_raiseIf, follow_ok, follow_error]
    refine ⟨fun different => absurd rfl different, fun _ => ?_⟩
    rw [cancellation]
    simp only [ends_bind, ends_raiseIf, follow_ok, follow_error, ends_pure]
    exact ⟨fun different => absurd rfl different, fun _ => trivial⟩
  exact ended

theorem Admits.retry {before mid : List Call} {e e' : Call} {token : String} {req : EnqueueRequest}
    {q : QueuedRequest}
    (first : Admits env e (stateAfter env before) token req result) (identical : e'.op = e.op)
    (finite : isfinite e'.clock)
    (swept : reapLocked env e'.clock (stateAfter env (before ++ e :: mid)) = (.ok (), s₁))
    (queued : s₁.queued.get? req.identity = some q) (same : q.sequence = result.sequence)
    (early : e'.clock < req.deadline) :
    e'.result env (stateAfter env (before ++ e :: mid)) = .ok (.enqueued
        { result with
          created := false
          state := if claimActive s₁ req.identity e'.clock then .claimed else .queued }) ∧
      e'.next env (stateAfter env (before ++ e :: mid)) = s₁ := by
  obtain ⟨s₀, r, -, -, admitted⟩ := first.admitted
  obtain ⟨q₀, hq₀, hresult, fate⟩ := admitted.fate
  have reached : Reachable env (stateAfter env (before ++ e :: mid)) := reachable_runs _
  have later : AdmissionFate req.identity q₀ req.tokenDigest req.cancellationDigest s₁ := by
    have sweeps : Sweeps env Any e'.clock (stateAfter env (before ++ e :: mid)) s₁ :=
      reapLocked_sweeps.of_eq swept
    refine sweeps.admissionFate reached.requestInv ?_
    have step : Reachable env (e.next env (stateAfter env before)) := (reachable_runs before).step e
    have run := fate.runs mid step
    unfold stateAfter at run ⊢
    rw [runs_append]
    exact run
  have requests : RequestInv s₁ := by
    have sweeps : Sweeps env Any e'.clock (stateAfter env (before ++ e :: mid)) s₁ :=
      reapLocked_sweeps.of_eq swept
    exact (sweeps.nodeInv reached.requestInv reached.nodeInv).1
  have submits : e'.Submits env token req := by
    obtain ⟨client, request, n, model, tier, due, envelope, cancellation, hop, valid⟩ :=
      first.submits
    exact ⟨client, request, n, model, tier, due, envelope, cancellation, identical.trans hop, valid⟩
  obtain ⟨answer, next⟩ := submits.runs finite swept
  cases later with
  | kept found digest cancel =>
    rw [hq₀] at found
    rw [enqueueEncryptedRequestLocked_retry requests found digest cancel early] at answer next
    refine ⟨?_, next⟩
    rw [answer, hresult, hq₀]
    rfl
  | settled _ other => exact absurd (same.trans (by rw [hresult]; rfl)) (other q queued)

/-! ## A repeated selection -/

/-- A selection that writes nothing and returns no token. -/
inductive Repeats (s : Store) : Except StoreError SelectionResult → Store → Prop
  | raised {e : StoreError} : Repeats s (.error e) s
  | answered {r : SelectionResult} : r.created = false → r.reservationToken = none →
      Repeats s (.ok r) s

theorem selectAndReserveLocked_live {drawn : String} {req : SelectionRequest}
    (live : req.identity ∈ s.reservations ∨ req.identity ∈ s.queued) :
    Ends (selectAndReserveLocked env drawn req now) s (Repeats s) := by
  unfold selectAndReserveLocked
  simp only [ends_bind, ends_getState, ends_raiseIf, follow_ok, follow_error]
  refine ⟨fun _ => .raised, fun _ => ⟨fun _ => .raised, fun _ => ⟨fun _ => .raised, fun _ => ?_⟩⟩⟩
  cases hq : s.queued.get? req.identity with
  | some q =>
    simp only [requireSameParameters, ends_bind, ends_raiseIf, follow_ok, follow_error, ends_pure]
    exact ⟨fun _ => .raised, fun _ => ⟨fun _ => .raised, fun _ => .answered rfl rfl⟩⟩
  | none =>
    cases hr : s.reservations.get? req.identity with
    | some r =>
      simp only [requireSameParameters, ends_bind, ends_raiseIf, follow_ok, follow_error, ends_pure]
      exact ⟨fun _ => .raised, fun _ => ⟨fun _ => .raised, fun _ => .answered rfl rfl⟩⟩
    | none =>
      rcases live with reserved | queued
      · exact absurd reserved (OrderedDict.not_mem_iff.mpr hr)
      · exact absurd queued (OrderedDict.not_mem_iff.mpr hq)

theorem Call.Asks.repeated {req : SelectionRequest}
    (asks : c.Asks env req) (finite : isfinite c.clock)
    (swept : reapLocked env c.clock s = (.ok (), s₁))
    (live : req.identity ∈ s₁.reservations ∨ req.identity ∈ s₁.queued) :
    c.next env s = s₁ ∧ ∀ r, c.result env s = .ok (.selection r) →
      r.created = false ∧ r.reservationToken = none := by
  obtain ⟨client, request, model, tier, due, token, hop, valid⟩ := asks
  have run : c.run env = replying .selection
      (selectAndReserve env c.clock c.drawn client request model tier due token) := by
    unfold Call.run
    rw [hop]
  obtain ⟨result, next⟩ := Call.run_body run valid finite swept
  have body : Ends (selectAndReserveLocked env c.drawn req c.clock) s₁ (Repeats s₁) :=
    selectAndReserveLocked_live live
  unfold Ends at body
  rw [result, next]
  generalize selectAndReserveLocked env c.drawn req c.clock s₁ = outcome at body ⊢
  obtain ⟨answer, s'⟩ := outcome
  cases body with
  | raised => exact ⟨rfl, nofun⟩
  | answered created token =>
    refine ⟨rfl, fun r hr => ?_⟩
    cases hr
    exact ⟨created, token⟩

/-! ## The cancellation token -/

/-- The cancellation digest of the identity is `d`, or it has no lifecycle. -/
def DigestBound (id : Identity) (d : String) (s : Store) : Prop :=
  s.cancellationTokenDigests.get? id = some d ∨ ∀ w, ¬s.HasWork id w

theorem DigestBound.removed {k : Identity} (h : DigestBound id d s)
    (removed : Removed k s s') : DigestBound id d s' := by
  by_cases same : id = k
  · exact .inr fun w hw => (removed.hasWork.mp hw).1 same
  · rcases h with bound | elapsed
    · exact .inl (by rw [removed.cancellation, if_neg same]; exact bound)
    · exact .inr fun w hw => elapsed w (removed.hasWork.mp hw).2

theorem DigestBound.same (h : DigestBound id d s)
    (digests : s'.cancellationTokenDigests = s.cancellationTokenDigests)
    (work : ∀ w, s'.HasWork id w → s.HasWork id w) : DigestBound id d s' := by
  rcases h with bound | elapsed
  · exact .inl (by rw [digests]; exact bound)
  · exact .inr fun w hw => elapsed w (work w hw)

theorem Sweep.digestBound {P : TerminalPolicy} (requests : RequestInv s)
    (h : Sweep env P now s s') (bound : DigestBound id d s) : DigestBound id d s' := by
  have work := h.shrinks.work id
  cases h with
  | reapRetained => exact bound.same (by rw [reapRetained_eq]) work
  | terminalize h | lapse h => exact bound.removed (h.removed requests)
  | defer h | touchFences h | finishRemoval h => exact bound.same (by rw [h.post]) work
  | startRemoval h | discardWork h => exact bound.same (by rw [h.post]; rfl) work

/-- The call admits a lifecycle: it creates a reservation or queues a request. -/
def admitsLifecycle : Except StoreError Reply → Bool
  | .ok (.selection r) => r.created
  | .ok (.enqueued r) => r.created
  | _ => false

theorem Commit.digestBound {drawn : String} {op : Op} {res : Except StoreError Reply}
    (requests : RequestInv s) (h : Commit env now drawn op s res s') (bound : DigestBound id d s) :
    DigestBound id d s' ∨ admitsLifecycle res = true := by
  cases h with
  | enqueue _ _ | reserve _ _ => exact .inr rfl
  | accept _ h | cancel _ h => exact .inl (bound.removed (h.removed requests))
  | register h | reregister _ h | renew h | setScheduler h | advance h | claim _ _ h
  | renewClaim _ h | repair _ h =>
    rw [h.post]; exact .inl (bound.same rfl fun w hw => by cases w <;> exact hw)
  | acknowledgeControl _ h | acknowledgeResponse _ h =>
    rw [h.post]
    exact .inl (bound.same rfl fun w hw => by cases w <;> exact hw)

theorem Sweeps.digestBound (reachable : Reachable env s)
    (h : Sweeps env Any now s s') (bound : DigestBound id d s) : DigestBound id d s' := by
  refine And.right (h.keeps (I := fun x => RequestInv x ∧ DigestBound id d x) ?_
    ⟨reachable.requestInv, bound⟩)
  rintro a b step ⟨requests, bound⟩
  exact ⟨step.requestInv requests, step.digestBound requests bound⟩

theorem admits_of_created {r : EnqueueResult}
    (result : c.result env s = .ok (.enqueued r)) (created : r.created = true) :
    ∃ token req, Admits env c s token req r := by
  have outcome : CallOutcome env c s (c.result env s) (c.next env s) := c.next_outcome s
  rw [result] at outcome
  obtain ⟨s₁, -, -, -, commit⟩ := outcome.committed created nofun
  generalize hop : c.op = op at commit
  generalize c.next env s = s' at commit
  cases commit with
  | enqueue valid _ => exact ⟨_, _, ⟨_, _, _, _, _, _, _, _, hop, valid⟩, result, created⟩

theorem GrantsReservation.digestBound {req : SelectionRequest} {n d : String}
    {evicted : Option String} (h : GrantsReservation env c req n evicted s s₁)
    (other : id ≠ req.identity) (bound : DigestBound id d s₁) :
    DigestBound id d (c.next env s) := by
  rw [h.post]
  rcases bound with digest | elapsed
  · refine .inl ?_
    unfold writeReservation
    cases req.cancellationDigest with
    | none => exact digest
    | some d' => exact (OrderedDict.get?_set ..).trans ((if_neg other).trans digest)
  · refine .inr fun w hw => ?_
    cases w with
    | queued q => exact elapsed (.queued q) hw
    | reservation r =>
      have found := (OrderedDict.get?_set ..).symm.trans hw
      rw [if_neg other] at found
      exact elapsed (.reservation r) found

theorem Admitted.digestBound {req : EnqueueRequest} {r : ReservationRecord}
    (h : Admitted now req r result s s')
    (bound : DigestBound id d s) : DigestBound id d s' := by
  rw [h.post]
  by_cases own : id = req.identity
  · subst own
    refine .inl ((OrderedDict.get?_set ..).trans ((if_pos rfl).trans ?_))
    rcases bound with digest | elapsed
    · rw [h.cancellation d digest]
    · exact absurd h.reserved (elapsed (.reservation r))
  · rcases bound with digest | elapsed
    · exact .inl ((OrderedDict.get?_set ..).trans ((if_neg own).trans digest))
    · refine .inr fun w hw => elapsed w ?_
      cases w with
      | queued q =>
        have found := (OrderedDict.get?_set ..).symm.trans hw
        rw [if_neg own] at found
        exact found
      | reservation r =>
        have found := (OrderedDict.get?_erase ..).symm.trans hw
        rw [if_neg own] at found
        exact found

/-- A call keeps the cancellation digest of an identity, or its lifecycle is over: the
identity has none afterwards, or the call granted it a new one. -/
theorem cancellation_next (reachable : Reachable env s)
    (digest : s.cancellationTokenDigests.get? id = some d) :
    (c.next env s).cancellationTokenDigests.get? id = some d ∨
      (∀ w, ¬(c.next env s).HasWork id w) ∨ ∃ r, GrantsRecord env c s id r := by
  by_cases admits : admitsLifecycle (c.result env s) = true
  · unfold admitsLifecycle at admits
    split at admits
    · next r result =>
      obtain ⟨req, n, evicted, s₁, asks, grants⟩ := reachable.grants result admits
      by_cases own : id = req.identity
      · exact .inr (.inr ⟨_, req, n, evicted, s₁, asks, grants, own.symm, rfl⟩)
      · have sweeps : Sweeps env Any c.clock s s₁ := reapLocked_sweeps.of_eq grants.swept
        exact (grants.digestBound own (sweeps.digestBound reachable (.inl digest))).imp_right .inl
    · next r result =>
      obtain ⟨token, req, h⟩ := admits_of_created result admits
      obtain ⟨s₁, r, -, swept, admitted⟩ := h.admitted
      have sweeps : Sweeps env Any c.clock s s₁ := reapLocked_sweeps.of_eq swept
      exact (admitted.digestBound (sweeps.digestBound reachable (.inl digest))).imp_right .inl
    · cases admits
  · have outcome : CallOutcome env c s (c.result env s) (c.next env s) := c.next_outcome s
    have bound := And.right (outcome.keeps_unless (I := fun x => RequestInv x ∧ DigestBound id d x)
      (E := fun r => admitsLifecycle r = true)
      (fun a b step inv => ⟨step.requestInv inv.1, step.digestBound inv.1 inv.2⟩)
      (fun a r b step inv =>
        (step.digestBound inv.1 inv.2).imp_left fun kept => ⟨step.requestInv inv.1, kept⟩)
      admits ⟨reachable.requestInv, .inl digest⟩)
    exact bound.imp_right .inl

theorem cancellation_kept {before : List Call} (mid : List Call)
    (digest : (stateAfter env before).cancellationTokenDigests.get? id = some d)
    (lasts : ∀ a c b, mid = a ++ c :: b →
      (∃ w, (stateAfter env (before ++ a ++ [c])).HasWork id w) ∧
        ∀ r, ¬GrantsRecord env c (stateAfter env (before ++ a)) id r) :
    (stateAfter env (before ++ mid)).cancellationTokenDigests.get? id = some d := by
  induction mid using List.reverseRecOn with
  | nil => rwa [List.append_nil]
  | append_singleton mid c ih =>
    have earlier := ih fun a e b split => lasts a e (b ++ [c]) (by rw [split]; simp)
    obtain ⟨⟨w, hw⟩, old⟩ := lasts mid c [] rfl
    rw [← List.append_assoc]
    rw [stateAfter_snoc] at hw ⊢
    rcases cancellation_next (c := c) (reachable_runs (before ++ mid)) earlier with
      kept | elapsed | ⟨r, granted⟩
    · exact kept
    · exact absurd hw (elapsed w)
    · exact absurd granted (old r)

/-! ## A run -/

/-- In a run with fresh tokens a token admits at most one request, on the node and with the
parameters that were selected and, unless the clock has gone back, before the reservation
expires. Identical retries before the deadline answer with the same sequence number and only
do the housekeeping, repeated selections only do the housekeeping, and the digest of the
cancellation token stays as long as the lifecycle lasts. -/
theorem admission_idempotent (env : StoreEnv) (collisionFree : env.runtime.CollisionFree)
    (calls : List Call) (fresh : FreshTokens env calls) :
    (∀ before mid after e e' token req req' result result',
      calls = before ++ e :: mid ++ e' :: after →
      Admits env e (stateAfter env before) token req result →
      ¬Admits env e' (stateAfter env (before ++ e :: mid)) token req' result') ∧
    (∀ before after (e : Call) token req result, calls = before ++ e :: after →
      Admits env e (stateAfter env before) token req result →
      ∃ pre c mid r, before = pre ++ c :: mid ∧
        c.result env (stateAfter env pre) = .ok (.selection r) ∧ r.created = true ∧
        r.reservationToken = some token ∧ r.selectedNodeId = req.selectedNodeId ∧
        r.requestedModelId = req.modelId ∧ r.requestedContextTier = req.tier ∧
        r.requestDeadlineEpoch = req.deadline ∧ result.selectedNodeId = r.selectedNodeId ∧
        result.requestDeadlineEpoch = r.requestDeadlineEpoch ∧
        (ClockNondecreasing (before ++ [e]) → ∀ x ∈ r.reservationExpiresAtEpoch, e.clock < x)) ∧
    (∀ (before mid : List Call) (e e' : Call) token (req : EnqueueRequest)
      (result : EnqueueResult) (s₁ : Store) (q : QueuedRequest), calls = before ++ e :: mid →
      Admits env e (stateAfter env before) token req result → e'.op = e.op → isfinite e'.clock →
      reapLocked env e'.clock (stateAfter env calls) = (.ok (), s₁) →
      s₁.queued.get? req.identity = some q → q.sequence = result.sequence →
      e'.clock < req.deadline →
      e'.result env (stateAfter env calls) = .ok (.enqueued
          { result with
            created := false
            state := if claimActive s₁ req.identity e'.clock then .claimed else .queued }) ∧
        e'.next env (stateAfter env calls) = s₁) ∧
    (∀ (c : Call) (req : SelectionRequest) (s₁ : Store), c.Asks env req → isfinite c.clock →
      reapLocked env c.clock (stateAfter env calls) = (.ok (), s₁) →
      req.identity ∈ s₁.reservations ∨ req.identity ∈ s₁.queued →
      c.next env (stateAfter env calls) = s₁ ∧
        ∀ r, c.result env (stateAfter env calls) = .ok (.selection r) →
          r.created = false ∧ r.reservationToken = none) ∧
    ∀ before mid id d, calls = before ++ mid →
      (stateAfter env before).cancellationTokenDigests.get? id = some d →
      (∀ a c b, mid = a ++ c :: b →
        (∃ w, (stateAfter env (before ++ a ++ [c])).HasWork id w) ∧
          ∀ r, ¬GrantsRecord env c (stateAfter env (before ++ a)) id r) →
      (stateAfter env calls).cancellationTokenDigests.get? id = some d := by
  refine ⟨?_, ?_, ?_, ?_, ?_⟩
  · rintro before mid after e e' token req req' result result' rfl first
    exact admits_once collisionFree fresh first
  · rintro before after e token req result rfl admits
    obtain ⟨pre, c, mid, s₁, r, rfl, granted, rfl, -, swept, admitted⟩ :=
      admits.stands collisionFree
    refine ⟨pre, c, mid, _, rfl, granted.result.1, rfl, rfl, admitted.node, admitted.model,
      admitted.tier, admitted.deadline, ?_, ?_, ?_⟩
    · rw [admitted.result]
      exact admitted.node.symm
    · rw [admitted.result]
      exact admitted.deadline.symm
    · rintro monotone x hx
      cases hx
      exact admitted.before_expiry swept monotone
  · rintro before mid e e' token req result s₁ q rfl first identical finite swept queued same early
    exact first.retry identical finite swept queued same early
  · rintro c req s₁ asks finite swept live
    exact asks.repeated finite swept live
  · rintro before mid id d rfl digest lasts
    exact cancellation_kept mid digest lasts

end

/-- A selection and an enqueue of `"request-1"`. -/
def admittedOnce : List Call := registration :: admission 100

/-- The same enqueue at 2. -/
def retried : Call := sampleCall 2
  (.enqueueEncryptedRequest "client-1" "request-1" sampleToken "node-a" "model" "8k-fast" 100
    requestEnvelope "cancel-1")

/-- Its checked arguments. -/
def retriedRequest : EnqueueRequest where
  identity := sampleIdentity
  clientPublicKey := "client-1"
  requestId := "request-1"
  selectedNodeId := "node-a"
  modelId := "model"
  tier := .fast8k
  deadline := 100
  envelope := requestEnvelope
  tokenDigest := "3138bb9bc78df27c473ecfd1410f7bd45ebac1f59cf3ff9cfe4db77aab7aedd3"
  cancellationDigest := "1e39a394d5bd02ea85384a116b57e2f14ec248bc9f7181942855a1c2ec488863"

/-- The retry answers with the sequence number of the first enqueue and only does the
housekeeping; it does not admit a second request. -/
theorem admission_idempotent_sample :
    let s := stateAfter defaultEnv admittedOnce
    retried.result defaultEnv s = .ok (.enqueued ⟨.queued, "node-a", 100, 1, false⟩) ∧
      retried.next defaultEnv s = (reapLocked defaultEnv 2 s).2 ∧
      ∀ req result, ¬Admits defaultEnv retried s sampleToken req result := by
  have collisionFree : defaultEnv.runtime.CollisionFree := sampleRuntime_collisionFree
  have asked : validateEnqueue defaultEnv "client-1" "request-1" sampleToken "node-a" "model"
        "8k-fast" 100 requestEnvelope "cancel-1" = .ok retriedRequest ∧
      Call.result defaultEnv (sampleCall 1 retried.op) (stateAfter defaultEnv (admittedOnce.take 2)) =
        .ok (.enqueued ⟨.queued, "node-a", 100, 1, true⟩) := by
    decide +kernel
  have held : (reapLocked defaultEnv retried.clock (stateAfter defaultEnv admittedOnce)).1 = .ok () ∧
      (reapLocked defaultEnv retried.clock (stateAfter defaultEnv admittedOnce)).2.queued.get?
        retriedRequest.identity = some (queuedOf retriedRequest 1 1) ∧
      claimActive (reapLocked defaultEnv retried.clock (stateAfter defaultEnv admittedOnce)).2
        retriedRequest.identity retried.clock = false := by
    decide +kernel
  obtain ⟨sweeps, queued, unclaimed⟩ := held
  have first : Admits defaultEnv (sampleCall 1 retried.op)
      (stateAfter defaultEnv (admittedOnce.take 2)) sampleToken retriedRequest
      ⟨.queued, "node-a", 100, 1, true⟩ :=
    ⟨⟨_, _, _, _, _, _, _, _, rfl, asked.1⟩, asked.2, rfl⟩
  obtain ⟨-, -, retry, -, -⟩ := admission_idempotent defaultEnv collisionFree admittedOnce
    (by decide +kernel)
  obtain ⟨answer, next⟩ := retry (admittedOnce.take 2) [] _ retried sampleToken retriedRequest _ _
    (queuedOf retriedRequest 1 1) rfl first rfl (by decide +kernel) (Prod.ext sweeps rfl) queued rfl
    (by decide +kernel)
  obtain ⟨once, -⟩ := admission_idempotent defaultEnv collisionFree (admittedOnce ++ [retried])
    (by decide +kernel)
  refine ⟨?_, next, fun req result => ?_⟩
  · rw [unclaimed] at answer
    exact answer
  · exact once (admittedOnce.take 2) [] [] _ retried _ _ req _ result rfl first

/-- The runs below: `"request-2"` is settled, so that the client has its terminal record. -/
def settledRun : List Call :=
  [registration,
   ⟨1, String.ofList (List.replicate 64 '2'),
    .selectAndReserve "client-1" "request-2" "model" "8k-fast" 100 (some "cancel-1")⟩,
   sampleCall 1
    (.cancelOrExpireRequest "client-1" "request-2" (some "cancel-1") .cancelled
      .requesterCancelled)]

/-- The enqueue of `"request-1"` at the given reading. -/
def enqueuing (clock : Epoch) (due : Epoch) : Call :=
  sampleCall clock
    (.enqueueEncryptedRequest "client-1" "request-1" sampleToken "node-a" "model" "8k-fast" due
      requestEnvelope "cancel-1")

/-- The selection of `"request-1"` at 1. -/
def reservingCall (due : Epoch) : Call :=
  sampleCall 1 (.selectAndReserve "client-1" "request-1" "model" "8k-fast" due (some "cancel-1"))

/-- Reservations last a second, and a client has room for one terminal record. -/
def tightEnv : StoreEnv :=
  sampleEnv { namespace_ := "relay", reservationTtlSeconds := 1, maxTerminalRecordsPerClient := 1 }
    (by decide +kernel)

/-- A deferred deadline changes both: after the clock went back from 5 to 3 a reservation that
expired at 2 is admitted, and at 6 the retry of a request that is still queued is refused. -/
theorem deferred_deadline_admission :
    (reservingCall 5).result tightEnv (stateAfter tightEnv settledRun) =
        .ok (.selection ⟨"node-a", "model", .fast8k, 5, some 2, some sampleToken, true,
          .reserved⟩) ∧
      (enqueuing 3 5).result tightEnv
          (stateAfter tightEnv (settledRun ++ [reservingCall 5, sampleCall 5 .listReservations])) =
        .ok (.enqueued ⟨.queued, "node-a", 5, 1, true⟩) ∧
      (enqueuing 1 5).result tightEnv (stateAfter tightEnv (settledRun ++ [reservingCall 5])) =
        .ok (.enqueued ⟨.queued, "node-a", 5, 1, true⟩) ∧
      (enqueuing 6 5).result tightEnv
          (stateAfter tightEnv (settledRun ++ [reservingCall 5, enqueuing 1 5])) =
        .error (invalidReservation "reservation invalid") ∧
      sampleIdentity ∈ ((enqueuing 6 5).next tightEnv
        (stateAfter tightEnv (settledRun ++ [reservingCall 5, enqueuing 1 5]))).queued ∧
      FreshTokens tightEnv (settledRun ++ [reservingCall 5, enqueuing 1 5]) ∧
      FreshTokens tightEnv (settledRun ++ [reservingCall 5, sampleCall 5 .listReservations]) := by
  decide +kernel

end StateStore
