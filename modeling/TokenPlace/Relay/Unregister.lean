import TokenPlace.Lib.RoundRobin
import TokenPlace.Relay.Copies
import TokenPlace.Relay.Sample

/-!
# What unregistering a server leaves behind

The server is removed before its requests are ended: the terminal transitions do not see its
in-flight entries any more, and rely on the pending markers and on the tombstones that are
written beside them.

* `Live.foldl`, `Ended.foldl`: a request that waits to be ended stays as it was until its own
  transition, and is then over for good;
* `Kept`: what the teardown leaves of the requests that were not on the server;
* `cursor_kept`: the round-robin cursor still designates the same node, or the one after the
  removed one.
-/

namespace Relay

open RoundRobin

variable {env : RelayEnv} {s s' : RelayState} {p q : Pair} {key : String}
  {status : TerminalStatus} {reason : TerminalReason}

/-! ## The cursor -/

/-- `_api_v1_round_robin_keys`, where `marked` says which servers have the marker of API v1. -/
def roundRobinKeys (marked : String → Bool) (s : RelayState) : List String :=
  s.knownServers.keys.filter marked

/-- What `_remove_known_server` makes of `server_round_robin_next_index`. -/
def cursorAfterRemoval (marked : String → Bool) (key : String) (s : RelayState)
    (nextIndex : Nat) : Nat :=
  let ordered := roundRobinKeys marked s
  if key ∈ ordered then
    let removed := ordered.idxOf key
    let current := nextIndex % ordered.length
    let remaining := ordered.length - 1
    if remaining = 0 then 0
    else if removed < current then (current - 1) % remaining
    else current % remaining
  else nextIndex

/-- The cursor after `_unregister_server`. -/
def unregisterServerCursor (env : RelayEnv) (marked : String → Bool) (key : String)
    (evicted : Option (Nat × ℚ)) (ownerCredential : Option String) (s : RelayState)
    (nextIndex : Nat) : Nat :=
  match (unregisterServer env key evicted ownerCredential s).1 with
  | some true => cursorAfterRemoval marked key s nextIndex
  | _ => nextIndex

/-- The node that a cursor designates. -/
def designated (ordered : List String) (nextIndex : Nat) : Option String :=
  ordered[nextIndex % ordered.length]?

theorem cursor_kept {marked : String → Bool} {nextIndex : Nat} {node : String}
    (keys : s'.knownServers.keys = s.knownServers.keys.filter (· ≠ key))
    (here : designated (roundRobinKeys marked s) nextIndex = some node) :
    (node ≠ key → designated (roundRobinKeys marked s')
      (cursorAfterRemoval marked key s nextIndex) = some node) ∧
    (node = key → roundRobinKeys marked s' ≠ [] →
      ∃ next, designated (roundRobinKeys marked s')
        (cursorAfterRemoval marked key s nextIndex) = some next ∧
        RoundRobin.Follows (roundRobinKeys marked s) key next) := by
  have nodup : (roundRobinKeys marked s).Nodup := s.knownServers.nodup.filter _
  have rest : roundRobinKeys marked s' = (roundRobinKeys marked s).filter (· ≠ key) := by
    unfold roundRobinKeys
    rw [keys, List.filter_filter, List.filter_filter]
    exact List.filter_congr fun _ _ => Bool.and_comm _ _
  generalize roundRobinKeys marked s' = T' at rest ⊢
  unfold cursorAfterRemoval designated at *
  dsimp only
  generalize roundRobinKeys marked s = T at *
  have positive : nextIndex % T.length < T.length := (List.getElem?_eq_some_iff.mp here).1
  split
  · next member =>
    have removed : T.idxOf key < T.length := List.idxOf_lt_length_iff.mpr member
    have erased : T' = T.eraseIdx (T.idxOf key) := by
      rw [rest, ← List.erase_eq_eraseIdx_of_idxOf rfl, nodup.erase_eq_filter]
      exact List.filter_congr fun x _ => by simp [bne, BEq.beq]
    have length : T'.length = T.length - 1 := by rw [erased, List.length_eraseIdx_of_lt removed]
    have place : T[T.idxOf key]? = some key := by
      rw [List.getElem?_eq_getElem removed, List.getElem_idxOf]
    have cursor : (if T.length - 1 = 0 then 0
        else if T.idxOf key < nextIndex % T.length then
          (nextIndex % T.length - 1) % (T.length - 1)
        else nextIndex % T.length % (T.length - 1)) =
        positionAfterRemoval T.length (T.idxOf key) (nextIndex % T.length) := by
      refine if_congr ?_ rfl rfl
      omega
    rw [cursor, length]
    constructor
    · intro other
      have apart : nextIndex % T.length ≠ T.idxOf key := by
        intro same
        rw [same, place] at here
        exact other (Option.some.inj here).symm
      have stays := getElem?_removal_of_ne removed positive apart
      rw [← erased, here] at stays
      have bound := (List.getElem?_eq_some_iff.mp stays).1
      rwa [Nat.mod_eq_of_lt (length ▸ bound)]
    · rintro rfl some_
      have same : nextIndex % T.length = T.idxOf node :=
        (List.getElem?_inj positive nodup).mp (here.trans place.symm)
      have many : T.length ≠ 1 := by
        intro one
        rw [one] at length
        exact some_ (List.eq_nil_of_length_eq_zero length)
      have moves := getElem?_removal_of_eq removed many
      rw [← erased, ← same] at moves
      have inRange : (nextIndex % T.length + 1) % T.length < T.length :=
        Nat.mod_lt _ (Nat.zero_lt_of_lt positive)
      rw [List.getElem?_eq_getElem inRange] at moves
      have bound := (List.getElem?_eq_some_iff.mp moves).1
      refine ⟨_, ?_, nextIndex % T.length, here, List.getElem?_eq_getElem inRange⟩
      rwa [← same, Nat.mod_eq_of_lt (length ▸ bound)]
  · next absent =>
    have same : T' = T := by
      rw [rest]
      refine List.filter_eq_self.mpr fun x hx => ?_
      have other : x ≠ key := fun same => absent (same ▸ hx)
      simpa using other
    rw [same]
    refine ⟨fun _ => here, ?_⟩
    rintro rfl
    exact absurd (List.mem_of_getElem? here) absent

/-! ## Records and entries of one request -/

/-- The record that the routes find for a request. -/
def RelayState.liveRecord (s : RelayState) (p : Pair) : Option TerminalRecord :=
  (getTerminalRequest p s.wall s).1

/-- The in-flight entry of a request on a server. -/
def RelayState.entryOn (s : RelayState) (key : String) (p : Pair) : Option InFlightEntry :=
  (s.knownServers.get? key).bind fun payload =>
    (payload.inFlightRequests.get? p.requestId).filter fun entry => entry.clientPublicKey = p.client

theorem liveRecord_eq (named : p.blank = false) :
    s.liveRecord p = (s.terminalRequestIds.get? p).filter fun r => s.wall < r.expiresAt := by
  unfold RelayState.liveRecord getTerminalRequest
  rw [if_neg (by simp [named])]
  cases s.terminalRequestIds.get? p with
  | none => rfl
  | some r =>
    dsimp only
    split
    · next expired => rw [Option.filter_some_neg (by simpa using expired)]
    · next live => rw [Option.filter_some_pos (by simpa using live)]

theorem liveRecord_of_blank (blank : p.blank = true) : s.liveRecord p = none := by
  unfold RelayState.liveRecord getTerminalRequest
  rw [if_pos blank]

theorem liveRecord_of_eq (records : s'.terminalRequestIds = s.terminalRequestIds)
    (wall : s'.wall = s.wall) : s'.liveRecord p = s.liveRecord p := by
  cases named : p.blank with
  | true => rw [liveRecord_of_blank named, liveRecord_of_blank named]
  | false => rw [liveRecord_eq named, liveRecord_eq named, records, wall]

theorem liveRecord_markRequestTerminal (named : q.blank = false) :
    (markRequestTerminal env q status reason s).liveRecord p =
      if p = q ∧ s.liveRecord q = none then some ⟨status, reason, env.retainedUntil s.wall⟩
      else s.liveRecord p := by
  have lasting : s.wall < env.retainedUntil s.wall := by
    have : (1 : ℚ) ≤ max env.terminalRequestTtlSeconds 1 := le_max_right _ _
    unfold RelayEnv.retainedUntil
    linarith
  cases blank : p.blank with
  | true =>
    have other : p ≠ q := by
      rintro rfl
      rw [named] at blank
      cases blank
    rw [liveRecord_of_blank blank, liveRecord_of_blank blank, if_neg fun h => other h.1]
  | false =>
    rw [liveRecord_eq named, liveRecord_eq blank, liveRecord_eq blank, markRequestTerminal_eq]
    dsimp only
    unfold markRequestTerminal
    rw [if_neg (by simp [named])]
    dsimp only [pruneTerminalOutcomes, pruneTerminalRecords]
    split
    · next found =>
      obtain ⟨r, found⟩ := OrderedDict.mem_def.mp found
      rw [OrderedDict.get?_filter] at found
      have recorded : ¬(p = q ∧ some r = none) := by simp
      rw [found, if_neg recorded]
      dsimp only
      rw [OrderedDict.get?_filter, Option.filter_filter]
      simp
    · next absent =>
      rw [OrderedDict.not_mem_iff, OrderedDict.get?_filter] at absent
      rw [recordOutcome_eq, absent]
      dsimp only
      rw [OrderedDict.get?_set, OrderedDict.get?_filter]
      by_cases same : p = q
      · have new : p = q ∧ (none : Option TerminalRecord) = none := ⟨same, rfl⟩
        rw [if_pos same, Option.filter_some_pos (by simpa using lasting), if_pos new]
      · have other : ¬(p = q ∧ (none : Option TerminalRecord) = none) := fun h => same h.1
        rw [if_neg same, if_neg other, Option.filter_filter]
        simp

theorem liveRecord_cancel (named : q.blank = false) :
    (cancelApiV1Request env q status reason s).2.liveRecord p =
      if p = q ∧ s.engaged q = true ∧ hasClientResponseForRequest q s = false ∧
          s.liveRecord q = none then
        some ⟨status, reason, env.retainedUntil s.wall⟩
      else s.liveRecord p := by
  have withdrawn (r : Pair) : (withdraw env q status reason s).liveRecord r = s.liveRecord r := by
    rw [withdraw_eq]
    exact liveRecord_of_eq rfl rfl
  have wall : (withdraw env q status reason s).wall = s.wall := by rw [withdraw_eq]
  rw [cancelApiV1Request_eq named]
  split
  · next ends =>
    rw [liveRecord_markRequestTerminal named, withdrawn, withdrawn, wall]
    refine if_congr ?_ rfl rfl
    simp [ends.1, ends.2]
  · next idle =>
    rw [withdrawn, if_neg]
    rintro ⟨-, engaged, unanswered, -⟩
    exact idle ⟨engaged, unanswered⟩

theorem hasOutcome_of_eq (outcomes : s'.terminalOutcomes = s.terminalOutcomes)
    (wall : s'.wall = s.wall) :
    (hasRequestTerminalOutcome p s').1 = (hasRequestTerminalOutcome p s).1 := by
  unfold hasRequestTerminalOutcome
  rw [outcomes, wall]
  split
  · rfl
  · split
    · rfl
    · split <;> rfl

theorem get?_recordOutcome {outcome : OutcomeLabel} (other : p ≠ q) :
    (recordRequestTerminalOutcomeOnce env q outcome s).2.terminalOutcomes.get? p =
      s.terminalOutcomes.get? p := by
  unfold recordRequestTerminalOutcomeOnce
  split
  · rfl
  · split
    · rfl
    · exact (OrderedDict.get?_set ..).trans (if_neg other)

theorem liveOutcome_markRequestTerminal (named : q.blank = false) (other : p ≠ q) :
    (hasRequestTerminalOutcome p (markRequestTerminal env q status reason s)).1 =
      (hasRequestTerminalOutcome p s).1 := by
  have wall : (markRequestTerminal env q status reason s).wall = s.wall := by
    rw [markRequestTerminal_eq]
  have outcomes : (markRequestTerminal env q status reason s).terminalOutcomes.get? p =
      (s.terminalOutcomes.get? p).filter fun expiresAt => s.wall < expiresAt := by
    unfold markRequestTerminal
    rw [if_neg (by simp [named])]
    dsimp only
    split
    · exact OrderedDict.get?_filter ..
    · rw [get?_recordOutcome other]
      exact OrderedDict.get?_filter ..
  unfold hasRequestTerminalOutcome
  rw [outcomes, wall]
  split
  · rfl
  · cases s.terminalOutcomes.get? p with
    | none => rfl
    | some expiresAt =>
      by_cases live : s.wall < expiresAt
      · rw [Option.filter_some_pos (by simpa using live)]
        dsimp only
        rw [if_pos live, if_pos live]
      · rw [Option.filter_some_neg (by simpa using live)]
        dsimp only
        rw [if_neg live]

theorem queueOf_removeRequest (key : String) :
    (removeRequestFromServerQueues p s).2.queueOf key =
      (s.queueOf key).filter fun e => e.pair ≠ p := by
  unfold removeRequestFromServerQueues RelayState.queueOf
  dsimp only
  rw [OrderedDict.get?_filter, OrderedDict.get?_mapValues]
  cases s.inferenceRequests.get? key with
  | none => rfl
  | some queue =>
    rw [Option.map_some, Option.getD_some]
    cases kept : queue.filter fun e => e.pair ≠ p with
    | nil => rw [Option.filter_some_neg (by simp), Option.getD_none]
    | cons e rest => rw [Option.filter_some_pos (by simp), Option.getD_some]

theorem entry_release (payload : ServerPayload) (other : p ≠ q) :
    ((payload.release q).inFlightRequests.get? p.requestId).filter
        (fun entry => entry.clientPublicKey = p.client) =
      (payload.inFlightRequests.get? p.requestId).filter
        fun entry => entry.clientPublicKey = p.client := by
  unfold ServerPayload.release
  split
  · next holds =>
    dsimp only
    rw [OrderedDict.get?_erase]
    split
    · next same =>
      obtain ⟨entry, found, client⟩ := ServerPayload.holds_iff.mp holds
      have foreign : entry.clientPublicKey ≠ p.client := by
        intro mine
        exact other (Pair.mk.injEq .. |>.mpr ⟨mine.symm.trans client, same⟩)
      rw [same, found, Option.filter_some_neg (by simpa using foreign), Option.filter_none]
    · rfl
  · rfl

/-! ## Requests that stay -/

/-- The tables have the same of the request: its envelopes in every queue, its in-flight
entries, its markers, its progress and the responses, and the record and the outcome that the
routes find. -/
structure Kept (p : Pair) (s s' : RelayState) : Prop where
  queued : ∀ key, (s'.queueOf key).filter (fun e => e.pair = p) =
    (s.queueOf key).filter fun e => e.pair = p
  inFlight : ∀ key, s'.entryOn key p = s.entryOn key p
  pending : s'.pendingRequestIds.get? p = s.pendingRequestIds.get? p
  deadline : s'.pendingRequestDeadlines.get? p = s.pendingRequestDeadlines.get? p
  progress : s'.progress.get? p = s.progress.get? p
  responses : s'.responses = s.responses
  record : s'.liveRecord p = s.liveRecord p
  outcome : (hasRequestTerminalOutcome p s').1 = (hasRequestTerminalOutcome p s).1

theorem Kept.refl (p : Pair) (s : RelayState) : Kept p s s :=
  ⟨fun _ => rfl, fun _ => rfl, rfl, rfl, rfl, rfl, rfl, rfl⟩

theorem Kept.trans {s₁ s₂ s₃ : RelayState} (first : Kept p s₁ s₂) (second : Kept p s₂ s₃) :
    Kept p s₁ s₃ where
  queued key := (second.queued key).trans (first.queued key)
  inFlight key := (second.inFlight key).trans (first.inFlight key)
  pending := second.pending.trans first.pending
  deadline := second.deadline.trans first.deadline
  progress := second.progress.trans first.progress
  responses := second.responses.trans first.responses
  record := second.record.trans first.record
  outcome := second.outcome.trans first.outcome

theorem Kept.response (h : Kept p s s') :
    hasClientResponseForRequest p s' = hasClientResponseForRequest p s := by
  unfold hasClientResponseForRequest
  rw [h.responses]

variable {digest : Option String} {t : ControlTombstone} {deadline : ℚ} {server : String}

theorem kept_addControlTombstone :
    Kept p s (addControlTombstone env server q status reason deadline digest s) := by
  rw [addControlTombstone_eq]
  exact ⟨fun _ => rfl, fun _ => rfl, rfl, rfl, rfl, rfl, liveRecord_of_eq rfl rfl,
    hasOutcome_of_eq rfl rfl⟩

theorem kept_withdraw (other : p ≠ q) : Kept p s (withdraw env q status reason s) := by
  rw [withdraw_eq]
  refine ⟨fun key => ?_, fun key => ?_, ?_, ?_, ?_, rfl, liveRecord_of_eq rfl rfl,
    hasOutcome_of_eq rfl rfl⟩
  · refine (congrArg (List.filter fun e => e.pair = p) (queueOf_removeRequest key)).trans ?_
    rw [List.filter_filter]
    refine List.filter_congr fun e _ => ?_
    by_cases same : e.pair = p
    · simp [same, other]
    · simp [same]
  · unfold RelayState.entryOn
    dsimp only
    rw [OrderedDict.get?_mapValues]
    cases s.knownServers.get? key with
    | none => rfl
    | some payload => exact entry_release payload other
  · exact (OrderedDict.get?_erase ..).trans (if_neg other)
  · exact (OrderedDict.get?_erase ..).trans (if_neg other)
  · exact (OrderedDict.get?_erase ..).trans (if_neg other)

theorem kept_cancel (other : p ≠ q) :
    Kept p s (cancelApiV1Request env q status reason s).2 := by
  cases named : q.blank with
  | true =>
    unfold cancelApiV1Request
    rw [if_pos named]
    exact .refl p s
  | false =>
    have record : (cancelApiV1Request env q status reason s).2.liveRecord p = s.liveRecord p := by
      rw [liveRecord_cancel named, if_neg fun h => other h.1]
    rw [cancelApiV1Request_eq named] at record ⊢
    split at record
    · have withdrawn : Kept p s (withdraw env q status reason s) := kept_withdraw other
      have outcome : (hasRequestTerminalOutcome p (markRequestTerminal env q status reason
          (withdraw env q status reason s))).1 =
            (hasRequestTerminalOutcome p (withdraw env q status reason s)).1 :=
        liveOutcome_markRequestTerminal named other
      rw [markRequestTerminal_eq] at record outcome ⊢
      rw [if_pos ‹_›]
      exact ⟨withdrawn.queued, withdrawn.inFlight, withdrawn.pending, withdrawn.deadline,
        withdrawn.progress, withdrawn.responses, record, outcome.trans withdrawn.outcome⟩
    · rw [if_neg ‹_›]
      exact kept_withdraw other

/-! ## Requests that end -/

/-- The request has no copy left, and the routes find its record: the one they found before,
or one that says that its server was unregistered. -/
structure Ended (s₀ : RelayState) (p : Pair) (s : RelayState) : Prop where
  uncopied : Uncopied s p
  record : ∃ r, s.liveRecord p = some r ∧
    (s₀.liveRecord p = some r ∨
      s₀.liveRecord p = none ∧ r.status = .cancelled ∧ r.reason = .serverUnregistered)

section

variable {s₀ s₁ : RelayState}

theorem ended_cancel (named : p.blank = false) (pending : p ∈ s₁.pendingRequestIds)
    (unanswered : hasClientResponseForRequest p s₁ = false)
    (same : s₁.liveRecord p = s₀.liveRecord p) (kept : Kept p s₁ s) :
    Ended s₀ p (cancelApiV1Request env p .cancelled .serverUnregistered s).2 where
  uncopied := by
    have withdrawn : Uncopied (withdraw env p .cancelled .serverUnregistered s) p :=
      fun token copied => (copied_withdraw copied).2 rfl
    rw [cancelApiV1Request_eq named]
    split
    · exact markRequestTerminal_fewer.uncopied withdrawn
    · exact withdrawn
  record := by
    have engaged : s.engaged p = true := by
      obtain ⟨entry, found⟩ := OrderedDict.mem_def.mp pending
      exact engaged_iff.mpr ⟨_, .pending entry (kept.pending.trans found) rfl⟩
    rw [liveRecord_cancel named, ← same, ← kept.record, engaged, kept.response, unanswered]
    cases found : s.liveRecord p with
    | none => exact ⟨_, if_pos ⟨rfl, rfl, rfl, rfl⟩, .inr ⟨rfl, rfl, rfl⟩⟩
    | some r => exact ⟨r, if_neg (fun h => nomatch h.2.2.2), .inl rfl⟩

theorem Ended.cancel (h : Ended s₀ p s) :
    Ended s₀ p (cancelApiV1Request env q status reason s).2 := by
  refine ⟨(cancel_closes (p := p) q status reason s).fewer.uncopied h.uncopied, ?_⟩
  obtain ⟨r, found, origin⟩ := h.record
  refine ⟨r, ?_, origin⟩
  cases named : q.blank with
  | true =>
    unfold cancelApiV1Request
    rw [if_pos named]
    exact found
  | false =>
    rw [liveRecord_cancel named, if_neg]
    · exact found
    · rintro ⟨rfl, -, -, absent⟩
      rw [absent] at found
      cases found

theorem Ended.addControlTombstone (h : Ended s₀ p s) :
    Ended s₀ p (Relay.addControlTombstone env server q status reason deadline digest s) := by
  have same : Relay.addControlTombstone env server q status reason deadline digest s =
      { s with
        controlTombstones := (Relay.addControlTombstone env server q status reason deadline digest
          s).controlTombstones } := addControlTombstone_eq
  obtain ⟨r, found, origin⟩ := h.record
  generalize Relay.addControlTombstone env server q status reason deadline digest s = s' at same ⊢
  refine ⟨Fewer.uncopied (fewer_of_eq ?_ ?_ ?_) h.uncopied, r, ?_, origin⟩
  · rw [same]
  · rw [same]
  · rw [same]
  · exact (liveRecord_of_eq (by rw [same]) (by rw [same])).trans found

theorem Ended.cancelInFlight {digest : String} {e : String × InFlightEntry} (h : Ended s₀ p s) :
    Ended s₀ p (Relay.cancelInFlight env key digest e s) := by
  unfold Relay.cancelInFlight
  dsimp only
  split
  · exact h
  · exact h.addControlTombstone.cancel

theorem kept_cancelInFlight {digest : String} {e : String × InFlightEntry}
    (other : p ≠ ⟨e.2.clientPublicKey, e.1⟩) : Kept p s (cancelInFlight env key digest e s) := by
  unfold cancelInFlight
  dsimp only
  split
  · exact .refl p s
  · exact kept_addControlTombstone.trans (kept_cancel other)

theorem foldl_ends {α : Type} {pairOf : α → Pair} {f : RelayState → α → RelayState} {l : List α}
    (keeps : ∀ a ∈ l, p ≠ pairOf a → ∀ s, Kept p s (f s a))
    (ends : ∀ a ∈ l, p = pairOf a → ∀ s, Kept p s₁ s → Ended s₀ p (f s a))
    (stays : ∀ a ∈ l, ∀ s, Ended s₀ p s → Ended s₀ p (f s a))
    (kept : Kept p s₁ s) :
    Ended s₀ p (l.foldl f s) ∨ (∀ a ∈ l, p ≠ pairOf a) ∧ Kept p s₁ (l.foldl f s) := by
  induction l generalizing s with
  | nil => exact .inr ⟨nofun, kept⟩
  | cons a rest ih =>
    rw [List.forall_mem_cons] at keeps ends stays
    by_cases own : p = pairOf a
    · left
      have ended := ends.1 own s kept
      exact List.foldlRecOn rest f ended fun s h b hb => stays.2 b hb s h
    · rcases ih keeps.2 ends.2 stays.2 (kept.trans (keeps.1 own s)) with ended | ⟨others, kept⟩
      · exact .inl ended
      · exact .inr ⟨List.forall_mem_cons.mpr ⟨own, others⟩, kept⟩

end

/-! ## Servers and tombstones -/

theorem keys_cancel :
    (cancelApiV1Request env q status reason s).2.knownServers.keys = s.knownServers.keys := by
  cases named : q.blank with
  | true =>
    unfold cancelApiV1Request
    rw [if_pos named]
  | false =>
    have withdrawn : (withdraw env q status reason s).knownServers.keys = s.knownServers.keys := by
      rw [withdraw_eq]
      exact (List.map_map ..).trans rfl
    rw [cancelApiV1Request_eq named]
    split
    · rw [markRequestTerminal_eq]
      exact withdrawn
    · exact withdrawn

theorem keys_cancelInFlight {digest : String} {e : String × InFlightEntry} :
    (cancelInFlight env key digest e s).knownServers.keys = s.knownServers.keys := by
  unfold cancelInFlight
  dsimp only
  split
  · rfl
  · rw [keys_cancel, addControlTombstone_eq]

theorem keys_tornDown {payload : ServerPayload} :
    (tornDown env key payload s).knownServers.keys = s.knownServers.keys.filter (· ≠ key) := by
  unfold tornDown
  refine Eq.trans ?_ (OrderedDict.keys_erase s.knownServers key)
  refine (foldl_chain (R := fun s s' => s'.knownServers.keys = s.knownServers.keys)
    (fun _ => rfl) (fun first second => second.trans first) _
    (fun _ _ _ => keys_cancelInFlight) _).trans ?_
  exact foldl_chain (R := fun s s' => s'.knownServers.keys = s.knownServers.keys)
    (fun _ => rfl) (fun first second => second.trans first) _ (fun _ _ _ => keys_cancel) _

theorem get?_addControlTombstone_eq {server at_ : String}
    (named : server ≠ "") (keyed : q.requestId ≠ "") :
    (addControlTombstone env server q status reason deadline digest s).controlTombstones.get? at_ =
      if at_ = controlTombstoneKey server q.requestId then
        some
          { serverPublicKey := server
            requestId := q.requestId
            clientPublicKey := q.client
            status, reason
            deadlineMonotonic := deadline
            controlCredentialDigest := digest.or
              ((s.knownServers.get? server).map ServerPayload.controlCredentialDigest)
            expiresAtMonotonic := s.monotonic + env.controlTombstoneTtlSeconds }
      else (s.controlTombstones.get? at_).filter fun t => s.monotonic < t.expiresAtMonotonic := by
  unfold addControlTombstone
  rw [if_neg (by simp [named, keyed])]
  refine (OrderedDict.get?_set ..).trans ?_
  rw [pruneControlTombstones, OrderedDict.get?_filter]

/-- A tombstone that has not expired. -/
structure Stands (at_ : String) (t : ControlTombstone) (s : RelayState) : Prop where
  found : s.controlTombstones.get? at_ = some t
  live : s.monotonic < t.expiresAtMonotonic

theorem stands_addControlTombstone (named : server ≠ "") (keyed : q.requestId ≠ "")
    (lasting : 0 < env.controlTombstoneTtlSeconds) :
    Stands (controlTombstoneKey server q.requestId)
      { serverPublicKey := server
        requestId := q.requestId
        clientPublicKey := q.client
        status, reason
        deadlineMonotonic := deadline
        controlCredentialDigest := digest.or
          ((s.knownServers.get? server).map ServerPayload.controlCredentialDigest)
        expiresAtMonotonic := s.monotonic + env.controlTombstoneTtlSeconds }
      (addControlTombstone env server q status reason deadline digest s) where
  found := (get?_addControlTombstone_eq named keyed).trans (if_pos rfl)
  live := by
    rw [addControlTombstone_eq]
    exact lt_add_of_pos_right _ lasting

theorem Stands.of_eq {at_ : String} (h : Stands at_ t s)
    (tombstones : s'.controlTombstones = s.controlTombstones)
    (monotonic : s'.monotonic = s.monotonic) : Stands at_ t s' :=
  ⟨by rw [tombstones]; exact h.found, by rw [monotonic]; exact h.live⟩

theorem Stands.addControlTombstone {at_ server : String} (h : Stands at_ t s)
    (other : controlTombstoneKey server q.requestId ≠ at_) :
    Stands at_ t (Relay.addControlTombstone env server q status reason deadline digest s) := by
  have monotonic : (Relay.addControlTombstone env server q status reason deadline digest
      s).monotonic = s.monotonic := by rw [addControlTombstone_eq]
  by_cases named : server ≠ "" ∧ q.requestId ≠ ""
  · refine ⟨?_, monotonic ▸ h.live⟩
    rw [get?_addControlTombstone_eq named.1 named.2, if_neg (Ne.symm other), h.found,
      Option.filter_some_pos (by simpa using h.live)]
  · unfold Relay.addControlTombstone
    rw [if_pos (by tauto)]
    exact h

theorem Stands.cancel {at_ : String} (h : Stands at_ t s)
    (others : ∀ server ∈ s.knownServers.keys, controlTombstoneKey server q.requestId ≠ at_) :
    Stands at_ t (cancelApiV1Request env q status reason s).2 := by
  have holders : ∀ (l : List (String × ServerPayload)) (x : RelayState), Stands at_ t x →
      (∀ e ∈ l, controlTombstoneKey e.1 q.requestId ≠ at_) →
      Stands at_ t (tombstonesFor env q status reason l x) := by
    intro l
    induction l with
    | nil => exact fun x h _ => h
    | cons e rest ih =>
      intro x h others
      rw [List.forall_mem_cons] at others
      rw [tombstonesFor_cons]
      exact ih _ (h.addControlTombstone others.1) others.2
  have withdrawn : Stands at_ t (withdraw env q status reason s) := by
    unfold withdraw
    dsimp only
    split
    · exact h.of_eq rfl rfl
    · refine holders _ _ (h.of_eq rfl rfl) fun e member => others e.1 ?_
      exact List.mem_map_of_mem (List.mem_of_mem_filter member)
  cases named : q.blank with
  | true =>
    unfold cancelApiV1Request
    rw [if_pos named]
    exact h
  | false =>
    rw [cancelApiV1Request_eq named]
    split
    · rw [markRequestTerminal_eq]
      exact withdrawn.of_eq rfl rfl
    · exact withdrawn

/-! ## The teardown of a server -/

/-- The server has the request queued or in flight. -/
inductive OnServer (s : RelayState) (key : String) (p : Pair) : Prop
  | queued (e : QueuedEnvelope) : e ∈ s.queueOf key → e.pair = p → OnServer s key p
  | inFlight (entry : InFlightEntry) : s.entryOn key p = some entry → OnServer s key p

/-- Each queued or in-flight request with a request id has a pending entry. -/
def Tracked (s : RelayState) : Prop :=
  ∀ key p, OnServer s key p → p.requestId ≠ "" → (clearPendingRequest p s).1 = true

/-- No other registered server shares a tombstone key with the server: as a key joins the
public key and the request id with NUL, only a public key with NUL can. -/
def Separated (s : RelayState) (key : String) : Prop :=
  ∀ other ∈ s.knownServers.keys, other ≠ key → ∀ requestId requestId',
    controlTombstoneKey other requestId' ≠ controlTombstoneKey key requestId

section

variable {payload : ServerPayload} {entry : InFlightEntry}

theorem entryOn_eq_some (known : s.knownServers.get? key = some payload) :
    s.entryOn key p = some entry ↔
      (p.requestId, entry) ∈ payload.inFlightRequests.entries ∧ entry.clientPublicKey = p.client := by
  unfold RelayState.entryOn
  rw [known, Option.bind_some, Option.filter_eq_some_iff, OrderedDict.mem_entries,
    decide_eq_true_eq]

theorem kept_removeKnownServer (absent : ¬OnServer s key p) :
    Kept p s (removeKnownServer key payload s) := by
  refine ⟨fun key' => ?_, fun key' => ?_, rfl, rfl, rfl, rfl, liveRecord_of_eq rfl rfl,
    hasOutcome_of_eq rfl rfl⟩
  · unfold removeKnownServer RelayState.queueOf
    dsimp only
    rw [OrderedDict.get?_erase]
    split
    · next same =>
      symm
      refine List.filter_eq_nil_iff.mpr fun e member pair => ?_
      exact absent (.queued e (same ▸ member) (of_decide_eq_true pair))
    · rfl
  · unfold removeKnownServer RelayState.entryOn
    dsimp only
    rw [OrderedDict.get?_erase]
    split
    · next same =>
      symm
      refine Option.eq_none_iff_forall_ne_some.mpr fun entry found => ?_
      exact absent (.inFlight entry (same ▸ found))
    · rfl

theorem kept_tornDown (known : s.knownServers.get? key = some payload)
    (absent : ¬OnServer s key p) : Kept p s (tornDown env key payload s) := by
  refine tornDown_chain (R := Kept p) (.refl p) Kept.trans (kept_removeKnownServer absent) ?_ ?_
  · intro e member _
    refine kept_cancel fun same => absent (.queued e member same.symm)
  · intro e member _
    refine kept_cancelInFlight fun same => ?_
    subst same
    exact absent (.inFlight e.2 ((entryOn_eq_some known).mpr ⟨member, rfl⟩))

theorem ended_tornDown (known : s.knownServers.get? key = some payload) (on : OnServer s key p)
    (marked : (clearPendingRequest p s).1 = true)
    (unanswered : hasClientResponseForRequest p s = false) :
    Ended s p (tornDown env key payload s) := by
  have named : p.blank = false := by
    cases named : p.blank with
    | false => rfl
    | true =>
      unfold clearPendingRequest at marked
      rw [if_pos named] at marked
      cases marked
  have pending : p ∈ s.pendingRequestIds := by
    unfold clearPendingRequest at marked
    rw [if_neg (by simp [named])] at marked
    exact of_decide_eq_true marked
  have keyed : p.requestId ≠ "" := (Pair.blank_eq_false.mp named).2
  generalize start : removeKnownServer key payload s = s₁
  have ends (s₂ : RelayState) (kept : Kept p s₁ s₂) :
      Ended s p (cancelApiV1Request env p .cancelled .serverUnregistered s₂).2 := by
    subst start
    have pending₁ : p ∈ (removeKnownServer key payload s).pendingRequestIds := pending
    exact ended_cancel named pending₁ unanswered (liveRecord_of_eq rfl rfl) kept
  have unanswered₁ : hasClientResponseForRequest p s₁ = false := by
    subst start
    exact unanswered
  unfold tornDown
  rw [start]
  generalize drained : (s.queueOf key).foldl (fun s e => cancelDropped env e s) s₁ = s₂
  have dropped : Ended s p s₂ ∨ (∀ e ∈ s.queueOf key, p ≠ e.pair) ∧ Kept p s₁ s₂ := by
    rw [← drained]
    refine foldl_ends (fun e _ other x => kept_cancel other) (fun e _ own x kept => ?_)
      (fun e _ x ended => ended.cancel) (.refl p s₁)
    unfold cancelDropped
    rw [← own]
    exact ends x kept
  rcases dropped with ended | ⟨unqueued, kept⟩
  · exact List.foldlRecOn _ _ ended fun _ h _ _ => h.cancelInFlight
  · generalize torn : payload.inFlightRequests.entries.foldl
      (fun s e => cancelInFlight env key payload.controlCredentialDigest e s) s₂ = s₃
    have inFlight : Ended s p s₃ ∨ (∀ e ∈ payload.inFlightRequests.entries,
        p ≠ ⟨e.2.clientPublicKey, e.1⟩) ∧ Kept p s₁ s₃ := by
      rw [← torn]
      refine foldl_ends (fun e _ other x => kept_cancelInFlight other) (fun e _ own x kept => ?_)
        (fun e _ x ended => ended.cancelInFlight) kept
      have guard : ¬(e.1 = "" ∨ hasClientResponseForRequest p x = true) := by
        rw [kept.response, unanswered₁]
        rintro (blank | answered)
        · exact keyed (own ▸ blank)
        · cases answered
      unfold cancelInFlight
      dsimp only
      rw [← own, if_neg guard]
      exact ends _ (kept.trans kept_addControlTombstone)
    rcases inFlight with ended | ⟨idle, -⟩
    · exact ended
    · cases on with
      | queued e member same => exact absurd same.symm (unqueued e member)
      | inFlight entry found =>
        obtain ⟨member, client⟩ := (entryOn_eq_some known).mp found
        exact absurd (by rw [client]) (idle _ member)

/-- The servers and the responses that the terminal transitions of a teardown leave. -/
structure Framed (s s' : RelayState) : Prop where
  keys : s'.knownServers.keys = s.knownServers.keys
  responses : s'.responses = s.responses

theorem Framed.refl (s : RelayState) : Framed s s := ⟨rfl, rfl⟩

theorem Framed.trans {s₁ s₂ s₃ : RelayState} (first : Framed s₁ s₂) (second : Framed s₂ s₃) :
    Framed s₁ s₃ :=
  ⟨second.keys.trans first.keys, second.responses.trans first.responses⟩

theorem framed_cancel : Framed s (cancelApiV1Request env q status reason s).2 :=
  ⟨keys_cancel, cancelApiV1Request_responses⟩

theorem framed_addControlTombstone :
    Framed s (addControlTombstone env server q status reason deadline digest s) := by
  rw [addControlTombstone_eq]
  exact ⟨rfl, rfl⟩

theorem framed_cancelInFlight {digest : String} {e : String × InFlightEntry} :
    Framed s (cancelInFlight env key digest e s) := by
  unfold cancelInFlight
  dsimp only
  split
  · exact .refl s
  · exact framed_addControlTombstone.trans framed_cancel

theorem Stands.cancelInFlight {at_ digest : String}
    {e : String × InFlightEntry} (h : Stands at_ t s)
    (other : controlTombstoneKey key e.1 ≠ at_)
    (others : ∀ server ∈ s.knownServers.keys, controlTombstoneKey server e.1 ≠ at_) :
    Stands at_ t (Relay.cancelInFlight env key digest e s) := by
  unfold Relay.cancelInFlight
  dsimp only
  split
  · exact h
  · refine (h.addControlTombstone other).cancel fun server member => others server ?_
    rwa [framed_addControlTombstone.keys] at member

theorem stands_tornDown (lasting : 0 < env.controlTombstoneTtlSeconds)
    (separated : Separated s key) (named : key ≠ "")
    (known : s.knownServers.get? key = some payload) (keyed : p.requestId ≠ "")
    (found : s.entryOn key p = some entry)
    (unanswered : hasClientResponseForRequest p s = false) :
    ∃ t, Stands (controlTombstoneKey key p.requestId) t (tornDown env key payload s) ∧
      t.pair = p ∧ t.status = .cancelled ∧ t.reason = .serverUnregistered ∧
      t.controlCredentialDigest = some payload.controlCredentialDigest := by
  obtain ⟨member, client⟩ := (entryOn_eq_some known).mp found
  obtain ⟨before, after, split⟩ := List.append_of_mem member
  have nodup : (payload.inFlightRequests.entries.map Prod.fst).Nodup :=
    payload.inFlightRequests.nodup
  have later : ∀ e ∈ after, e.1 ≠ p.requestId := by
    rw [split, List.map_append, List.map_cons] at nodup
    have tail := (List.nodup_cons.mp nodup.of_append_right).1
    intro e he same
    have listed : e.1 ∈ after.map Prod.fst := List.mem_map_of_mem he
    exact tail (same ▸ listed)
  have foreign (server : String) (hs : server ∈ (s.knownServers.erase key).keys) (r : String) :
      controlTombstoneKey server r ≠ controlTombstoneKey key p.requestId := by
    rw [OrderedDict.keys_erase, List.mem_filter, decide_eq_true_eq] at hs
    exact separated server hs.1 hs.2 p.requestId r
  unfold tornDown
  rw [split, List.foldl_append, List.foldl_cons]
  generalize reached : before.foldl _ _ = x
  have framed : Framed (removeKnownServer key payload s) x := by
    rw [← reached]
    exact (foldl_chain Framed.refl Framed.trans _ (fun _ _ _ => framed_cancel) _).trans
      (foldl_chain Framed.refl Framed.trans _ (fun _ _ _ => framed_cancelInFlight) _)
  have guard : ¬(p.requestId = "" ∨ hasClientResponseForRequest p x = true) := by
    have same : hasClientResponseForRequest p x = hasClientResponseForRequest p s := by
      unfold hasClientResponseForRequest
      rw [framed.responses]
      rfl
    rw [same, unanswered]
    rintro (blank | answered)
    · exact keyed blank
    · cases answered
  generalize stamped : cancelInFlight env key payload.controlCredentialDigest
    (p.requestId, entry) x = y
  have ended : Framed x y := stamped ▸ framed_cancelInFlight
  obtain ⟨t, stands, about⟩ : ∃ t, Stands (controlTombstoneKey key p.requestId) t y ∧
      t.pair = p ∧ t.status = .cancelled ∧ t.reason = .serverUnregistered ∧
      t.controlCredentialDigest = some payload.controlCredentialDigest := by
    rw [← stamped]
    unfold cancelInFlight
    dsimp only
    rw [client, if_neg guard]
    refine ⟨_, (stands_addControlTombstone named keyed lasting).cancel fun server hs => ?_,
      rfl, rfl, rfl, rfl⟩
    rw [framed_addControlTombstone.keys, framed.keys] at hs
    exact foreign server hs p.requestId
  refine ⟨t, ?_, about⟩
  have kept : Framed (removeKnownServer key payload s) y := framed.trans ended
  clear stamped ended framed guard reached split
  induction after generalizing y with
  | nil => exact stands
  | cons e rest ih =>
    rw [List.forall_mem_cons] at later
    refine ih later.2 _ (stands.cancelInFlight ?_ ?_) (kept.trans framed_cancelInFlight)
    · intro same
      exact later.1 ((String.append_right_inj _).mp same)
    · intro server hs
      rw [kept.keys] at hs
      exact foreign server hs e.1

end

theorem tracked_of_entries
    (queues : ∀ e ∈ s.inferenceRequests.entries, ∀ envelope ∈ e.2, envelope.requestId ≠ "" →
      (clearPendingRequest envelope.pair s).1 = true)
    (inFlight : ∀ e ∈ s.knownServers.entries, ∀ f ∈ e.2.inFlightRequests.entries, f.1 ≠ "" →
      (clearPendingRequest ⟨f.2.clientPublicKey, f.1⟩ s).1 = true) : Tracked s := by
  intro key p on keyed
  cases on with
  | queued e member same =>
    subst same
    unfold RelayState.queueOf at member
    cases found : s.inferenceRequests.get? key with
    | none =>
      rw [found] at member
      exact absurd member List.not_mem_nil
    | some queue =>
      rw [found] at member
      exact queues _ (OrderedDict.mem_entries.mpr found) e member keyed
  | inFlight entry found =>
    unfold RelayState.entryOn at found
    obtain ⟨payload, known, stored⟩ := Option.bind_eq_some_iff.mp found
    obtain ⟨stored, client⟩ := Option.filter_eq_some_iff.mp stored
    have marked := inFlight _ (OrderedDict.mem_entries.mpr known) _
      (OrderedDict.mem_entries.mpr stored) keyed
    rwa [of_decide_eq_true client] at marked

theorem separated_of_length (same : ∀ other ∈ s.knownServers.keys, other.length = key.length) :
    Separated s key := by
  intro other member different r r' shared
  have lists : other.toList ++ ("\x00" ++ r').toList = key.toList ++ ("\x00" ++ r).toList := by
    rw [← String.toList_append, ← String.toList_append, ← String.append_assoc,
      ← String.append_assoc]
    exact congrArg String.toList shared
  have lengths : other.toList.length = key.toList.length := by
    rw [String.length_toList, String.length_toList]
    exact same other member
  exact different (String.toList_injective (List.append_inj_left lists lengths))

/-- A pending request of a client, as a server has it in flight. -/
def flying (client : String) : InFlightEntry where
  expiresAt := 40
  clientPublicKey := client
  cancelToken := "token"
  requestDeadlineMonotonic := 60

/-- A server with the given requests of one client in flight. -/
def servingNode (digest : String) (requestIds : List String) : ServerPayload where
  serial := 0
  lastPing := 10
  lastPingDuration := 30
  controlCredentialDigest := digest
  pollingUntilMonotonic := none
  inFlightRequests := requestIds.foldl (fun d r => d.set r (flying "client")) .empty

/-- An envelope that waits in a queue. -/
def waitingEnvelope (client requestId : String) : QueuedEnvelope where
  toEnvelope :=
    { clientPublicKey := client, requestId, cancelToken := "token"
      ciphertext := "ciphertext", cipherkey := "cipherkey", iv := "iv" }
  requestDeadlineMonotonic := 60

/-- Two servers at the reading 10; the second one has a request of another client queued, which
still has the expired record of an earlier request. -/
def busyRelay (first second : String) (inFlight inFlight' : List String) : RelayState :=
  { RelayState.initial 10 10 with
    knownServers := (OrderedDict.empty.set first (servingNode "digest-a" inFlight)).set second
      (servingNode "digest-b" inFlight')
    inferenceRequests := OrderedDict.empty.set second [waitingEnvelope "other" "request"]
    pendingRequestIds := (inFlight ++ inFlight').foldl
      (fun d r => d.set ⟨"client", r⟩ ⟨60, "token"⟩)
      (OrderedDict.empty.set ⟨"other", "request"⟩ ⟨60, "token"⟩)
    terminalRequestIds := OrderedDict.empty.set ⟨"other", "request"⟩ ⟨.expired, .expired, 5⟩ }

/-- A relay where one public key begins with another one and NUL. -/
def nulRelay : RelayState := busyRelay "node" "node\x00x" ["x\x00request", "request"] ["request"]

end Relay
