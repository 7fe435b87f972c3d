import TokenPlace.Relay.Chains
import TokenPlace.Relay.Sample

/-!
# One outcome for each request

A request never has a terminal record and a queued response at once, a response
for a request with a terminal record is refused, and the outcome counter moves
once for each outcome entry.

`Exclusive` is the invariant behind the first fact: the regions that write a
record or store a response hold the transition lock, and each looks for what the
other writes. `Records` says how one region may change the outcome of one request.
-/

namespace Relay

open Interleaving

variable {env : RelayEnv} {s s' : RelayState} {p : Pair}

/-! ## Terminal records and responses -/

/-- A request with a terminal record, expired or not, has no response queued. -/
def Exclusive (s : RelayState) : Prop :=
  ∀ q ∈ s.terminalRequestIds,
    q.blank = false ∧ ∀ e ∈ s.responsesOf q.client, e.requestId ≠ q.requestId

/-- No record and no response is new. -/
structure Recedes (s s' : RelayState) : Prop where
  records : ∀ q ∈ s'.terminalRequestIds, q ∈ s.terminalRequestIds
  responses : ∀ client, ∀ e ∈ s'.responsesOf client, e ∈ s.responsesOf client

theorem Recedes.keeps (h : Recedes s s') (exclusive : Exclusive s) : Exclusive s' := by
  intro q member
  obtain ⟨named, others⟩ := exclusive q (h.records q member)
  exact ⟨named, fun e queued => others e (h.responses q.client e queued)⟩

theorem recedes_of_eq (records : s'.terminalRequestIds = s.terminalRequestIds)
    (responses : s'.responses = s.responses) : Recedes s s' :=
  ⟨fun _ member => records ▸ member, fun client e member => by
    rwa [responsesOf_of_eq responses client] at member⟩

theorem getTerminalRequest_recedes (p : Pair) (now : ℚ) (s : RelayState) :
    Recedes s (getTerminalRequest p now s).2 := by
  refine ⟨fun q => mem_getTerminalRequest, fun client e member => ?_⟩
  rw [getTerminalRequest_eq] at member
  exact member

theorem Exclusive.withdraw {status : TerminalStatus} {reason : TerminalReason}
    (h : Exclusive s) : Exclusive (withdraw env p status reason s) := by
  refine Recedes.keeps ?_ h
  rw [withdraw_eq]
  exact recedes_of_eq rfl rfl

theorem Exclusive.cancel (p : Pair) (status : TerminalStatus) (reason : TerminalReason)
    (s : RelayState) (h : Exclusive s) :
    Exclusive (cancelApiV1Request env p status reason s).2 := by
  cases named : p.blank with
  | true =>
    unfold cancelApiV1Request
    rwa [if_pos named]
  | false =>
    rw [cancelApiV1Request_eq named]
    split
    · next guard =>
      intro q member
      rw [responsesOf_of_eq (s := s) (by rw [markRequestTerminal_eq, withdraw_eq])]
      rcases mem_markRequestTerminal member with old | ⟨rfl, _⟩
      · rw [withdraw_eq] at old
        exact h q old
      · refine ⟨named, fun e queued same => ?_⟩
        have has := hasClientResponse_iff.mpr ⟨named, e, queued, same⟩
        rw [guard.2] at has
        cases has
    · exact h.withdraw

theorem expireStale_exclusive (p : Pair) (s : RelayState) (h : Exclusive s) :
    Exclusive (expirePendingRequestIfStale env p s) := by
  unfold expirePendingRequestIfStale
  split
  · exact h.cancel p _ _
  · exact h

theorem cancelInFlight_exclusive (key digest : String) (entry : String × InFlightEntry)
    (s : RelayState) (h : Exclusive s) : Exclusive (cancelInFlight env key digest entry s) := by
  unfold cancelInFlight
  dsimp only
  split
  · exact h
  · refine Exclusive.cancel _ _ _ _ (Recedes.keeps ?_ h)
    rw [addControlTombstone_eq]
    exact recedes_of_eq rfl rfl

theorem tornDown_exclusive (key : String) (payload : ServerPayload) (h : Exclusive s) :
    Exclusive (tornDown env key payload s) :=
  tornDown_chain (R := fun s s' => Exclusive s → Exclusive s') (fun _ h => h)
    (fun first second h => second (first h)) (recedes_of_eq rfl rfl).keeps
    (fun e _ _ h => h.cancel e.pair _ _) (fun e _ s h => cancelInFlight_exclusive key _ e s h) h

theorem acceptResponse_exclusive (e : Envelope) (h : Exclusive s) :
    Exclusive (acceptResponse env e s).1 := by
  cases named : e.pair.blank with
  | true =>
    unfold acceptResponse
    split
    · exact h
    · next client =>
      have unkeyed : e.requestId = "" := unkeyed_of_blank client named
      rw [if_pos unkeyed]
      intro q member
      rw [queueClientResponse_eq] at member
      obtain ⟨namedRecord, others⟩ := h q member
      refine ⟨namedRecord, fun e' queued => ?_⟩
      rw [responsesOf_queue] at queued
      split at queued
      · next same =>
        rcases List.mem_append.mp queued with old | new
        · exact others e' (same ▸ old)
        · cases List.mem_singleton.mp new
          rw [unkeyed]
          exact (Pair.blank_eq_false.mp namedRecord).2.symm
      · exact others e' queued
  | false =>
    have stays {s s' : RelayState} (records : s'.terminalRequestIds = s.terminalRequestIds)
        (responses : s'.responses = s.responses) : Exclusive s → Exclusive s' :=
      (recedes_of_eq records responses).keeps
    have outcome := acceptResponse_chain (R := fun s s' => Exclusive s → Exclusive s') (s := s)
      (fun first second h => second (first h)) env named
      (fun s => by rw [lifted_eq]; exact stays rfl rfl)
      (fun s => (getTerminalRequest_recedes e.pair s.wall s).keeps)
      (fun s => expireStale_exclusive e.pair s)
      (fun s => by rw [recordOutcome_eq]; exact stays rfl rfl)
      (fun s => by rw [hasOutcome_eq]; exact stays rfl rfl)
      (fun s => by rw [clearClientProgress_eq]; exact stays rfl rfl)
    rcases outcome with ⟨kept, -⟩ | ⟨s₁, reached, absent, stored⟩
    · exact kept h
    · rw [stored]
      intro q member
      rw [queueClientResponse_eq] at member
      obtain ⟨namedRecord, others⟩ := reached h q member
      refine ⟨namedRecord, fun e' queued same => ?_⟩
      rw [responsesOf_queue] at queued
      split at queued
      · next client =>
        rcases List.mem_append.mp queued with old | new
        · exact others e' (client ▸ old) same
        · cases List.mem_singleton.mp new
          have : q = e.pair := by
            cases q
            exact Pair.mk.injEq .. ▸ ⟨client, same.symm⟩
          exact absent (this ▸ member)
      · exact others e' queued same

theorem Effect.exclusive {t : Task} (effect : Effect env s t s') (h : Exclusive s) :
    Exclusive s' := by
  cases effect with
  | reads => exact h
  | pruneRecords now =>
    exact Recedes.keeps ⟨fun q => mem_pruneTerminalRecords, fun _ _ member => member⟩ h
  | looksUp t q now => exact (getTerminalRequest_recedes q now s).keeps h
  | tears t key payload known => exact tornDown_exclusive key payload h
  | cancels t q status reason => exact h.cancel q status reason
  | expires t q status reason =>
    exact (getTerminalRequest_recedes q s.wall _).keeps (h.cancel q status reason)
  | accepts e => exact acceptResponse_exclusive e h
  | enqueues key e known =>
    refine Recedes.keeps (recedes_of_eq ?_ ?_) h
    · rw [markRequestPending_eq]
    · rw [markRequestPending_eq]
  | takesProgress t q =>
    rw [popClientProgress_eq]
    exact Recedes.keeps (recedes_of_eq rfl rfl) h
  | dropsResponses t q =>
    refine Recedes.keeps ⟨?_, fun client e => mem_removeClientResponses⟩ h
    rw [removeClientResponses_eq]
    exact fun _ member => member
  | takesResponse t q =>
    refine Recedes.keeps ⟨?_, fun client e => mem_popClientResponse⟩ h
    rw [popClientResponse_eq]
    exact fun _ member => member
  | pruneOutcomes | pruneTombstones | acknowledges | forgets | refreshes | joins | renews | pops
  | inserts | counts | reports => exact Recedes.keeps (recedes_of_eq rfl rfl) h

theorem Reachable.exclusive {s : RelaySystem} (h : Reachable env s) : Exclusive s.shared := by
  obtain ⟨wall, monotonic, evs, rfl⟩ := h
  refine (relay env).invariant_runs (J := fun s => Exclusive s.shared) ?_ evs ?_
  · intro ev s held
    exact (relay env).shared_step (I := Exclusive) (fun _ _ h => h)
      (fun t x h => (exec_effect t).exclusive h) held
  · intro q member
    cases member

/-! ## Outcomes -/

/-- How often the outcome counter was incremented for a request. -/
def outcomeCount (p : Pair) (s : RelayState) : Nat :=
  s.outcomeIncrements.countP fun increment => increment.1 = some p

/-- What one region may do to the outcome of a request: leave it, delete it when
it has expired, or write and count it where none is retained. -/
inductive Records (env : RelayEnv) (p : Pair) (s s' : RelayState) : Prop
  | kept (wall : s'.wall = s.wall) (count : outcomeCount p s' = outcomeCount p s)
      (entry : s'.terminalOutcomes.get? p = s.terminalOutcomes.get? p)
  | dropped (wall : s'.wall = s.wall) (count : outcomeCount p s' = outcomeCount p s)
      (entry : s'.terminalOutcomes.get? p = none)
      (expired : ∀ expiresAt, s.terminalOutcomes.get? p = some expiresAt → expiresAt ≤ s.wall)
  | written (wall : s'.wall = s.wall) (count : outcomeCount p s' = outcomeCount p s + 1)
      (entry : s'.terminalOutcomes.get? p = some (env.retainedUntil s.wall))
      (expired : ∀ expiresAt, s.terminalOutcomes.get? p = some expiresAt → expiresAt ≤ s.wall)

theorem RelayEnv.lt_retainedUntil (env : RelayEnv) (now : ℚ) : now < env.retainedUntil now := by
  have positive : (0 : ℚ) < max env.terminalRequestTtlSeconds 1 :=
    lt_of_lt_of_le one_pos (le_max_right _ _)
  exact lt_add_of_pos_right now positive

theorem Records.refl (s : RelayState) : Records env p s s := .kept rfl rfl rfl

/-- An entry that a region wrote is not deleted or written again by the region. -/
theorem Records.trans {s₁ s₂ s₃ : RelayState} (first : Records env p s₁ s₂)
    (second : Records env p s₂ s₃) : Records env p s₁ s₃ := by
  -- what the first region wrote has not expired for the second
  have fresh (wall : s₂.wall = s₁.wall)
      (entry : s₂.terminalOutcomes.get? p = some (env.retainedUntil s₁.wall))
      (expired : ∀ expiresAt, s₂.terminalOutcomes.get? p = some expiresAt → expiresAt ≤ s₂.wall) :
      False := by
    have noted := expired _ entry
    rw [wall] at noted
    exact not_lt_of_ge noted (env.lt_retainedUntil s₁.wall)
  cases first with
  | kept wall count entry =>
    cases second with
    | kept wall' count' entry' =>
      exact .kept (wall'.trans wall) (count'.trans count) (entry'.trans entry)
    | dropped wall' count' entry' expired =>
      exact .dropped (wall'.trans wall) (count'.trans count) entry'
        fun x found => wall ▸ expired x (entry.trans found)
    | written wall' count' entry' expired =>
      exact .written (wall'.trans wall) (by rw [count', count]) (by rw [entry', wall])
        fun x found => wall ▸ expired x (entry.trans found)
  | dropped wall count entry expired =>
    cases second with
    | kept wall' count' entry' =>
      exact .dropped (wall'.trans wall) (count'.trans count) (entry'.trans entry) expired
    | dropped wall' count' entry' expired' =>
      exact .dropped (wall'.trans wall) (count'.trans count) entry' expired
    | written wall' count' entry' expired' =>
      exact .written (wall'.trans wall) (by rw [count', count]) (by rw [entry', wall]) expired
  | written wall count entry expired =>
    cases second with
    | kept wall' count' entry' =>
      exact .written (wall'.trans wall) (count'.trans count) (entry'.trans entry) expired
    | dropped wall' count' entry' expired' => exact (fresh wall entry expired').elim
    | written wall' count' entry' expired' => exact (fresh wall entry expired').elim

theorem records_of_eq (wall : s'.wall = s.wall)
    (outcomes : s'.terminalOutcomes = s.terminalOutcomes)
    (increments : s'.outcomeIncrements = s.outcomeIncrements) : Records env p s s' :=
  .kept wall (by rw [outcomeCount, outcomeCount, increments]) (by rw [outcomes])

theorem pruneTerminalOutcomes_records (p : Pair) (s : RelayState) :
    Records env p s (pruneTerminalOutcomes s.wall s) := by
  cases found : s.terminalOutcomes.get? p with
  | none => exact .kept rfl rfl (by simp [pruneTerminalOutcomes, found])
  | some expiresAt =>
    by_cases live : s.wall < expiresAt
    · exact .kept rfl rfl (by simp [pruneTerminalOutcomes, found, live])
    · refine .dropped rfl rfl (by simp [pruneTerminalOutcomes, found, not_lt.mp live]) ?_
      intro x same
      cases found.symm.trans same
      exact not_lt.mp live

theorem recordOutcome_records (q : Pair) (outcome : OutcomeLabel) (s : RelayState) :
    Records env p s (recordRequestTerminalOutcomeOnce env q outcome s).2 := by
  unfold recordRequestTerminalOutcomeOnce
  split
  · exact .refl s
  · split
    · exact .refl s
    · next absent =>
      by_cases same : p = q
      · subst same
        refine .written rfl (by simp [outcomeCount]) (by simp) fun x found => ?_
        exact absurd (OrderedDict.mem_of_get? found) absent
      · exact .kept rfl (by simp [outcomeCount, Ne.symm same]) (by simp [same])

theorem hasOutcome_records (q : Pair) (s : RelayState) :
    Records env p s (hasRequestTerminalOutcome q s).2 := by
  unfold hasRequestTerminalOutcome
  split
  · exact .refl s
  · split
    · exact .refl s
    · next expiresAt found =>
      split
      · exact .refl s
      · next expired =>
        by_cases same : p = q
        · subst same
          refine .dropped rfl rfl (by simp) fun x stored => ?_
          cases found.symm.trans stored
          exact not_lt.mp expired
        · exact .kept rfl rfl (by simp [same])

theorem markRequestTerminal_records (q : Pair) (status : TerminalStatus) (reason : TerminalReason)
    (s : RelayState) : Records env p s (markRequestTerminal env q status reason s) := by
  have recordsPruned : Records env p s (pruneTerminalRecords s.wall s) :=
    records_of_eq rfl rfl rfl
  have pruned := recordsPruned.trans (pruneTerminalOutcomes_records p _)
  unfold markRequestTerminal
  split
  · exact .refl s
  · dsimp only
    split
    · exact pruned
    · refine (pruned.trans ?_).trans (recordOutcome_records q _ _)
      exact records_of_eq rfl rfl rfl

theorem cancel_records (q : Pair) (status : TerminalStatus) (reason : TerminalReason)
    (s : RelayState) : Records env p s (cancelApiV1Request env q status reason s).2 := by
  cases named : q.blank with
  | true =>
    unfold cancelApiV1Request
    rw [if_pos named]
    exact .refl s
  | false =>
    have withdrawn : Records env p s (withdraw env q status reason s) := by
      rw [withdraw_eq]
      exact records_of_eq rfl rfl rfl
    rw [cancelApiV1Request_eq named]
    split
    · exact withdrawn.trans (markRequestTerminal_records q status reason _)
    · exact withdrawn

theorem getTerminalRequest_records (q : Pair) (now : ℚ) (s : RelayState) :
    Records env p s (getTerminalRequest q now s).2 := by
  rw [getTerminalRequest_eq]
  exact records_of_eq rfl rfl rfl

theorem expireStale_records (q : Pair) (s : RelayState) :
    Records env p s (expirePendingRequestIfStale env q s) := by
  unfold expirePendingRequestIfStale
  split
  · exact cancel_records q _ _ s
  · exact .refl s

theorem cancelInFlight_records (key digest : String) (entry : String × InFlightEntry)
    (s : RelayState) : Records env p s (cancelInFlight env key digest entry s) := by
  unfold cancelInFlight
  dsimp only
  split
  · exact .refl s
  · refine Records.trans ?_ (cancel_records _ _ _ _)
    rw [addControlTombstone_eq]
    exact records_of_eq rfl rfl rfl

theorem acceptResponse_records (e : Envelope) : Records env p s (acceptResponse env e s).1 := by
  cases named : e.pair.blank with
  | true =>
    unfold acceptResponse
    split
    · exact .refl s
    · next client =>
      have unkeyed : e.requestId = "" := unkeyed_of_blank client named
      rw [if_pos unkeyed, queueClientResponse_eq]
      exact records_of_eq rfl rfl rfl
  | false =>
    have outcome := acceptResponse_chain (R := Records env p) (s := s)
      (fun first second => first.trans second) env named
      (fun s => by rw [lifted_eq]; exact records_of_eq rfl rfl rfl)
      (fun s => getTerminalRequest_records e.pair s.wall s)
      (fun s => expireStale_records e.pair s)
      (fun s => recordOutcome_records e.pair _ s)
      (fun s => hasOutcome_records e.pair s)
      (fun s => by rw [clearClientProgress_eq]; exact records_of_eq rfl rfl rfl)
    rcases outcome with ⟨kept, -⟩ | ⟨s₁, reached, -, stored⟩
    · exact kept
    · rw [stored, queueClientResponse_eq]
      exact reached.trans (records_of_eq rfl rfl rfl)

/-- Every change but the sweep's pruning treats an outcome as `Records` says. -/
theorem Effect.records {t : Task} (effect : Effect env s t s') :
    Records env p s s' ∨ ∃ now, s' = pruneTerminalOutcomes now s := by
  cases effect with
  | reads => exact Or.inl (.refl s)
  | pruneOutcomes now => exact Or.inr ⟨now, rfl⟩
  | looksUp t q now => exact Or.inl (getTerminalRequest_records q now s)
  | tears t key payload known =>
    exact Or.inl (tornDown_chain Records.refl Records.trans (records_of_eq rfl rfl rfl)
      (fun e _ s => cancel_records e.pair _ _ s) fun e _ s => cancelInFlight_records key _ e s)
  | cancels t q status reason => exact Or.inl (cancel_records q status reason s)
  | expires t q status reason =>
    exact Or.inl ((cancel_records q status reason s).trans (getTerminalRequest_records q _ _))
  | accepts e => exact Or.inl (acceptResponse_records e)
  | enqueues key e known =>
    refine Or.inl (records_of_eq ?_ ?_ ?_) <;> rw [markRequestPending_eq]
  | counts => exact Or.inl (.kept rfl (by simp [outcomeCount]) rfl)
  | takesProgress t q =>
    rw [popClientProgress_eq]
    exact Or.inl (records_of_eq rfl rfl rfl)
  | dropsResponses t q =>
    rw [removeClientResponses_eq]
    exact Or.inl (records_of_eq rfl rfl rfl)
  | takesResponse t q =>
    rw [popClientResponse_eq]
    exact Or.inl (records_of_eq rfl rfl rfl)
  | pruneRecords | pruneTombstones | acknowledges | forgets | refreshes | joins | renews | pops
  | inserts | reports => exact Or.inl (records_of_eq rfl rfl rfl)

/-- Counting is tied to writing: an entry that stays is not counted again, and an
action counts a request at most once. -/
theorem step_outcome (env : RelayEnv) (ev : RelayEvent) (s : RelaySystem) (p : Pair) :
    outcomeCount p ((relay env).step ev s).shared ≤ outcomeCount p s.shared + 1 ∧
      ∀ expiresAt, s.shared.terminalOutcomes.get? p = some expiresAt →
        ((relay env).step ev s).shared.terminalOutcomes.get? p = some expiresAt →
        outcomeCount p ((relay env).step ev s).shared = outcomeCount p s.shared := by
  cases hf : fired ev s with
  | none =>
    rcases (relay env).step_of_not_fired hf with ⟨k, rfl⟩ | ⟨tick, rfl⟩ | same
    · exact ⟨Nat.le_succ _, fun _ _ _ => rfl⟩
    · exact ⟨Nat.le_succ _, fun _ _ _ => rfl⟩
    · rw [same]
      exact ⟨Nat.le_succ _, fun _ _ _ => rfl⟩
  | some t =>
    rw [(relay env).shared_of_fired hf]
    have effect : Effect env s.shared t ((relay env).exec t s.shared).1 := exec_effect t
    rcases effect.records (p := p) with records | ⟨now, same⟩
    · cases records with
      | kept wall count entry => exact ⟨by omega, fun _ _ _ => count⟩
      | dropped wall count entry expired => exact ⟨by omega, fun _ _ _ => count⟩
      | written wall count entry expired =>
        refine ⟨by omega, fun x before after => ?_⟩
        rw [entry] at after
        cases after
        exact absurd (env.lt_retainedUntil s.shared.wall) (not_lt.mpr (expired _ before))
    · rw [same]
      exact ⟨Nat.le_succ _, fun _ _ _ => rfl⟩

/-- The outcome entry of the request is still there after the event. -/
def Retains (env : RelayEnv) (p : Pair) (expiresAt : ℚ) (ev : RelayEvent) (s : RelaySystem) :
    Prop :=
  ((relay env).step ev s).shared.terminalOutcomes.get? p = some expiresAt

theorem runs_outcome {expiresAt : ℚ} {evs : List RelayEvent} {s : RelaySystem}
    (entry : s.shared.terminalOutcomes.get? p = some expiresAt)
    (retained : (relay env).Along (Retains env p expiresAt) evs s) :
    outcomeCount p ((relay env).runs evs s).shared = outcomeCount p s.shared := by
  induction evs generalizing s with
  | nil => rfl
  | cons ev evs ih =>
    exact (ih retained.1 retained.2).trans ((step_outcome env ev s p).2 expiresAt entry retained.1)

theorem acceptResponse_refused {e : Envelope} {r : TerminalRecord}
    (named : e.pair.blank = false) (found : s.terminalRequestIds.get? e.pair = some r)
    (live : s.wall < r.expiresAt) :
    acceptResponse env e s = (s, .answer (responseRefused r.status.text)) := by
  obtain ⟨client, requestId⟩ : e.clientPublicKey ≠ "" ∧ e.requestId ≠ "" :=
    Pair.blank_eq_false.mp named
  unfold acceptResponse
  rw [if_neg client, if_neg requestId, getTerminalRequest_of_live named found live]

/-- In every interleaving a request has a live terminal record or a queued
response but not both, its responses are refused with 410 while the record is
live, and from the event before its outcome entry was written until the entry is
gone its outcome is counted at most once. -/
theorem outcome_exclusivity (s : RelaySystem) (h : Reachable env s) (p : Pair) :
    ¬ ((∃ r, s.shared.terminalRequestIds.get? p = some r ∧ s.shared.wall < r.expiresAt) ∧
        ∃ e ∈ s.shared.responsesOf p.client, e.requestId = p.requestId) ∧
    (∀ r, s.shared.terminalRequestIds.get? p = some r → s.shared.wall < r.expiresAt →
      ∀ ev e, fired ev s = some (.acceptResponse e) → e.pair = p →
        (∃ reply, (relay env).replied ev s = some reply ∧ reply.code = 410) ∧
        ((relay env).step ev s).shared = s.shared) ∧
    ∀ ev expiresAt evs, Retains env p expiresAt ev s →
      (relay env).Along (Retains env p expiresAt) evs ((relay env).step ev s) →
      outcomeCount p ((relay env).runs (ev :: evs) s).shared ≤ outcomeCount p s.shared + 1 ∧
      (s.shared.terminalOutcomes.get? p = some expiresAt →
        outcomeCount p ((relay env).runs (ev :: evs) s).shared = outcomeCount p s.shared) := by
  refine ⟨?_, ?_, ?_⟩
  · rintro ⟨⟨r, found, -⟩, e, queued, same⟩
    exact (h.exclusive p (OrderedDict.mem_of_get? found)).2 e queued same
  · rintro r found live ev e running rfl
    have named := (h.exclusive e.pair (OrderedDict.mem_of_get? found)).1
    have refused : (relay env).exec (.acceptResponse e) s.shared =
        (s.shared, .answer (responseRefused r.status.text)) :=
      acceptResponse_refused named found live
    refine ⟨⟨_, (relay env).replied_eq_some.mpr ⟨_, running, by rw [refused]; rfl⟩, rfl⟩, ?_⟩
    rw [(relay env).shared_of_fired running, refused]
  · intro ev expiresAt evs written retained
    have later := runs_outcome written retained
    have now := step_outcome env ev s p
    refine ⟨later ▸ now.1, fun before => ?_⟩
    exact later.trans (now.2 expiresAt before written)

/-- A request is queued and cancelled with its token. -/
def cancelledSample : RelaySystem :=
  sampleRun (sampleNodes ++
    serve 2 (.requests "node-a" (sampleEnvelope "client" "request" "token")) ++
    serve 3 (.cancel ⟨"client", "request"⟩ "token" "cancelled" "requester_cancelled"))

theorem outcome_exclusivity_cancelled :
    (∃ r, cancelledSample.shared.terminalRequestIds.get? ⟨"client", "request"⟩ = some r ∧
      cancelledSample.shared.wall < r.expiresAt) ∧
    ¬ ∃ e ∈ cancelledSample.shared.responsesOf "client", e.requestId = "request" := by
  have live : ∃ r,
      cancelledSample.shared.terminalRequestIds.get? ⟨"client", "request"⟩ = some r ∧
        cancelledSample.shared.wall < r.expiresAt :=
    ⟨⟨.cancelled, .requesterCancelled, 300⟩, by decide +kernel, by decide +kernel⟩
  have apart := (outcome_exclusivity cancelledSample (sampleRun_reachable _)
    ⟨"client", "request"⟩).1
  exact ⟨live, fun queued => apart ⟨live, queued⟩⟩

end Relay
