import TokenPlace.Relay.Chains

/-!
# The copies of a request

A request that is not over has copies: envelopes in the server queues, its pending
marker, in-flight entries, and the envelope that a poll has taken from a queue and
not yet stored as in flight. Only the requests route makes a copy of a new
request; a poll moves one. A terminal transition removes all that it can see,
which is all but the envelopes that polls hold.

`Copied` says that the tables have a copy. Every change of the tables makes no new
copy, or makes one and does nothing else; a terminal record is written only when
no copy is left, and a request without copies gets neither a record nor a
tombstone.
-/

namespace Relay

open Interleaving

variable {env : RelayEnv} {s s' : RelayState} {p : Pair}

/-- The tables have a copy of the request with this cancel token. -/
inductive Copied (s : RelayState) (p : Pair) (token : String) : Prop
  | queued (key : String) (e : QueuedEnvelope) (member : e ∈ s.queueOf key) (pair : e.pair = p)
      (same : e.cancelToken = token)
  | pending (entry : PendingEntry) (found : s.pendingRequestIds.get? p = some entry)
      (same : entry.cancelToken = token)
  | inFlight (key : String) (payload : ServerPayload) (entry : InFlightEntry)
      (known : s.knownServers.get? key = some payload)
      (found : payload.inFlightRequests.get? p.requestId = some entry)
      (client : entry.clientPublicKey = p.client) (same : entry.cancelToken = token)

/-- The tables have no copy of the request. -/
def Uncopied (s : RelayState) (p : Pair) : Prop := ∀ token, ¬ Copied s p token

/-- No copy is new. -/
def Fewer (s s' : RelayState) : Prop := ∀ q token, Copied s' q token → Copied s q token

theorem Fewer.refl (s : RelayState) : Fewer s s := fun _ _ copied => copied

variable {status : TerminalStatus} {reason : TerminalReason} {payload : ServerPayload}
  {key : String} {q : Pair} {s₁ s₂ s₃ : RelayState} {t : ControlTombstone} {token : String}
  {e : QueuedEnvelope}

theorem Fewer.trans (first : Fewer s₁ s₂) (second : Fewer s₂ s₃) :
    Fewer s₁ s₃ :=
  fun q token copied => first q token (second q token copied)

theorem fewer_of_parts (queues : ∀ key, ∀ e ∈ s'.queueOf key, ∃ key', e ∈ s.queueOf key')
    (pending : ∀ q entry, s'.pendingRequestIds.get? q = some entry →
      s.pendingRequestIds.get? q = some entry)
    (inFlight : ∀ key payload', s'.knownServers.get? key = some payload' →
      ∀ requestId entry, payload'.inFlightRequests.get? requestId = some entry →
        Copied s ⟨entry.clientPublicKey, requestId⟩ entry.cancelToken) : Fewer s s' := by
  intro q token copied
  cases copied with
  | queued key e member pair same =>
    obtain ⟨key', before⟩ := queues key e member
    exact .queued key' e before pair same
  | pending entry found same => exact .pending entry (pending q entry found) same
  | inFlight key payload entry known found client same =>
    have before := inFlight key payload known q.requestId entry found
    rw [client, same] at before
    exact before

theorem fewer_of_eq (queues : s'.inferenceRequests = s.inferenceRequests)
    (pending : s'.pendingRequestIds = s.pendingRequestIds)
    (known : s'.knownServers = s.knownServers) : Fewer s s' := by
  refine fewer_of_parts (fun key e member => ⟨key, ?_⟩) (fun q entry found => pending ▸ found) ?_
  · rwa [RelayState.queueOf, queues] at member
  · intro key payload found requestId entry stored
    exact .inFlight key payload entry (known ▸ found) stored rfl rfl

/-! ## Queues and in-flight entries -/

theorem mem_queueOf_storeQueue {key key' : String} {rest : List QueuedEnvelope}
    (h : e ∈ (storeQueue key rest s).queueOf key') :
    e ∈ rest ∨ e ∈ s.queueOf key' := by
  unfold storeQueue RelayState.queueOf at h
  split at h
  · by_cases same : key' = key
    · simp [same] at h
    · exact Or.inr (by simpa [RelayState.queueOf, same] using h)
  · by_cases same : key' = key
    · exact Or.inl (by simpa [same] using h)
    · exact Or.inr (by simpa [RelayState.queueOf, same] using h)

theorem mem_queueOf_removeRequest :
    e ∈ (removeRequestFromServerQueues p s).2.queueOf key ↔ e ∈ s.queueOf key ∧ e.pair ≠ p := by
  unfold removeRequestFromServerQueues RelayState.queueOf
  rw [OrderedDict.get?_filter, OrderedDict.get?_mapValues]
  cases found : s.inferenceRequests.get? key with
  | none => simp
  | some queue =>
    simp only [Option.map_some, Option.getD_some]
    by_cases empty : (queue.filter fun e => e.pair ≠ p) = []
    · have none_kept : ∀ e ∈ queue, e.pair = p := by simpa using empty
      simp only [empty, Option.filter]
      constructor
      · intro h
        simp at h
      · rintro ⟨member, other⟩
        exact absurd (none_kept e member) other
    · rw [Option.filter_some_pos (by simpa using empty)]
      simp

theorem removed_eq_zero_iff :
    (removeRequestFromServerQueues p s).1 = 0 ↔ ∀ key, ∀ e ∈ s.queueOf key, e.pair ≠ p := by
  unfold removeRequestFromServerQueues
  rw [List.sum_eq_zero_iff]
  constructor
  · intro zero key e member
    unfold RelayState.queueOf at member
    cases found : s.inferenceRequests.get? key with
    | none => simp [found] at member
    | some queue =>
      have count := zero _ (List.mem_map_of_mem (OrderedDict.mem_values.mpr ⟨key, found⟩))
      rw [List.countP_eq_zero] at count
      simpa using count e (by simpa [found] using member)
  · intro others count member
    obtain ⟨queue, stored, rfl⟩ := List.mem_map.mp member
    obtain ⟨key, found⟩ := OrderedDict.mem_values.mp stored
    refine List.countP_eq_zero.mpr fun e inQueue => ?_
    simpa using others key e (by simpa [RelayState.queueOf, found] using inQueue)

theorem ServerPayload.holds_iff :
    payload.holds p = true ↔
      ∃ entry, payload.inFlightRequests.get? p.requestId = some entry ∧
        entry.clientPublicKey = p.client := by
  unfold ServerPayload.holds
  cases payload.inFlightRequests.get? p.requestId with
  | none | some entry => simp

theorem ServerPayload.get?_release {requestId : String} {entry : InFlightEntry}
    (h : (payload.release p).inFlightRequests.get? requestId = some entry) :
    payload.inFlightRequests.get? requestId = some entry ∧
      ¬ (requestId = p.requestId ∧ entry.clientPublicKey = p.client) := by
  unfold ServerPayload.release at h
  split at h
  · rw [OrderedDict.get?_erase] at h
    split at h
    · cases h
    · next other => exact ⟨h, fun same => other same.1⟩
  · next unheld =>
    refine ⟨h, fun same => unheld (ServerPayload.holds_iff.mpr ⟨entry, ?_, same.2⟩)⟩
    rw [← same.1]
    exact h

theorem mem_holders :
    (key, payload) ∈ s.holders p ↔
      s.knownServers.get? key = some payload ∧ payload.holds p = true := by
  unfold RelayState.holders
  rw [List.mem_filter, OrderedDict.mem_entries]

theorem engaged_iff : s.engaged p = true ↔ ∃ token, Copied s p token := by
  unfold RelayState.engaged
  simp only [Bool.or_eq_true, decide_eq_true_eq]
  constructor
  · rintro ((queued | pending) | inFlight)
    · by_contra none_copied
      refine queued (removed_eq_zero_iff.mpr fun key e member pair => none_copied ?_)
      exact ⟨_, .queued key e member pair rfl⟩
    · obtain ⟨entry, found⟩ := OrderedDict.mem_def.mp pending
      exact ⟨_, .pending entry found rfl⟩
    · obtain ⟨⟨key, payload⟩, member⟩ := List.exists_mem_of_ne_nil _ inFlight
      obtain ⟨known, holds⟩ := mem_holders.mp member
      obtain ⟨entry, found, client⟩ := ServerPayload.holds_iff.mp holds
      exact ⟨_, .inFlight key payload entry known found client rfl⟩
  · rintro ⟨token, copied⟩
    cases copied with
    | queued key e member pair same =>
      exact Or.inl (Or.inl fun zero => removed_eq_zero_iff.mp zero key e member pair)
    | pending entry found same => exact Or.inl (Or.inr (OrderedDict.mem_of_get? found))
    | inFlight key payload entry known found client same =>
      refine Or.inr (List.ne_nil_of_mem (a := (key, payload)) (mem_holders.mpr ⟨known, ?_⟩))
      exact ServerPayload.holds_iff.mpr ⟨entry, found, client⟩

/-! ## Writes that add nothing -/

/-- No copy, terminal record or tombstone is new. -/
structure Lessens (s s' : RelayState) : Prop where
  fewer : Fewer s s'
  records : ∀ q r, s'.terminalRequestIds.get? q = some r → s.terminalRequestIds.get? q = some r
  tombstones : ∀ key t, s'.controlTombstones.get? key = some t →
    s.controlTombstones.get? key = some t

theorem Lessens.refl (s : RelayState) : Lessens s s :=
  ⟨.refl s, fun _ _ found => found, fun _ _ found => found⟩

theorem Lessens.trans (first : Lessens s₁ s₂) (second : Lessens s₂ s₃) :
    Lessens s₁ s₃ :=
  ⟨first.fewer.trans second.fewer, fun q r found => first.records q r (second.records q r found),
    fun key t found => first.tombstones key t (second.tombstones key t found)⟩

theorem lessens_of_fewer (fewer : Fewer s s')
    (records : s'.terminalRequestIds = s.terminalRequestIds)
    (tombstones : s'.controlTombstones = s.controlTombstones) : Lessens s s' :=
  ⟨fewer, fun _ _ found => records ▸ found, fun _ _ found => tombstones ▸ found⟩

theorem lessens_of_eq (queues : s'.inferenceRequests = s.inferenceRequests)
    (pending : s'.pendingRequestIds = s.pendingRequestIds)
    (known : s'.knownServers = s.knownServers)
    (records : s'.terminalRequestIds = s.terminalRequestIds)
    (tombstones : s'.controlTombstones = s.controlTombstones) : Lessens s s' :=
  lessens_of_fewer (fewer_of_eq queues pending known) records tombstones

theorem getTerminalRequest_lessens (q : Pair) (now : ℚ) (s : RelayState) :
    Lessens s (getTerminalRequest q now s).2 := by
  refine ⟨?_, fun q' r found => ?_, ?_⟩
  · rw [getTerminalRequest_eq]
    exact fewer_of_eq rfl rfl rfl
  · rw [get?_getTerminalRequest] at found
    split at found
    · cases found
    · exact found
  · rw [getTerminalRequest_eq]
    exact fun _ _ found => found

theorem pruneTerminalRecords_lessens (now : ℚ) (s : RelayState) :
    Lessens s (pruneTerminalRecords now s) := by
  refine ⟨fewer_of_eq rfl rfl rfl, fun q r found => ?_, fun _ _ found => found⟩
  rw [pruneTerminalRecords, OrderedDict.get?_filter, Option.filter_eq_some_iff] at found
  exact found.1

theorem pruneControlTombstones_lessens (now : ℚ) (s : RelayState) :
    Lessens s (pruneControlTombstones now s) := by
  refine ⟨fewer_of_eq rfl rfl rfl, fun _ _ found => found, fun key t found => ?_⟩
  rw [pruneControlTombstones, OrderedDict.get?_filter, Option.filter_eq_some_iff] at found
  exact found.1

theorem clearPendingRequest_fewer (q : Pair) (s : RelayState) :
    Fewer s (clearPendingRequest q s).2 := by
  unfold clearPendingRequest
  split
  · exact .refl s
  · refine fewer_of_parts (fun key e member => ⟨key, member⟩) (fun q' entry found => ?_)
      fun key payload known requestId entry found => .inFlight key payload entry known found rfl rfl
    rw [OrderedDict.get?_erase] at found
    split at found
    · cases found
    · exact found

theorem clearPendingRequest_lessens (q : Pair) (s : RelayState) :
    Lessens s (clearPendingRequest q s).2 :=
  lessens_of_fewer (clearPendingRequest_fewer q s) (by rw [clearPendingRequest_eq])
    (by rw [clearPendingRequest_eq])

theorem removeRequest_lessens (q : Pair) (s : RelayState) :
    Lessens s (removeRequestFromServerQueues q s).2 := by
  refine lessens_of_fewer (fewer_of_parts ?_ (fun _ _ found => found) ?_) rfl rfl
  · intro key e member
    exact ⟨key, (mem_queueOf_removeRequest.mp member).1⟩
  · exact fun key payload known requestId entry found => .inFlight key payload entry known found
      rfl rfl

theorem fewer_setServer {payload' : ServerPayload}
    (entries : ∀ requestId entry, payload'.inFlightRequests.get? requestId = some entry →
      Copied s ⟨entry.clientPublicKey, requestId⟩ entry.cancelToken) :
    Fewer s { s with knownServers := s.knownServers.set key payload' } := by
  refine fewer_of_parts (fun key e member => ⟨key, member⟩) (fun _ _ found => found) ?_
  intro key' payload known requestId entry found
  rw [OrderedDict.get?_set] at known
  split at known
  · cases known
    exact entries requestId entry found
  · exact .inFlight key' payload entry known found rfl rfl

theorem releaseFirst_lessens (q : Pair) (s : RelayState) : Lessens s (releaseFirst q s).2 := by
  refine lessens_of_fewer ?_ (by rw [releaseFirst_eq]) (by rw [releaseFirst_eq])
  unfold releaseFirst
  split
  · exact .refl s
  · next holder rest holders =>
    have known : s.knownServers.get? holder.1 = some holder.2 :=
      (mem_holders.mp (holders ▸ List.mem_cons_self)).1
    exact fewer_setServer fun requestId entry found =>
      .inFlight holder.1 holder.2 entry known (ServerPayload.get?_release found).1 rfl rfl

theorem lifted_lessens (q : Pair) (s : RelayState) : Lessens s (lifted q s) :=
  (releaseFirst_lessens q s).trans
    ((removeRequest_lessens q _).trans (clearPendingRequest_lessens q _))

theorem removeKnownServer_lessens (key : String) (payload : ServerPayload) (s : RelayState) :
    Lessens s (removeKnownServer key payload s) := by
  refine lessens_of_fewer (fewer_of_parts ?_ (fun _ _ found => found) ?_) rfl rfl
  · intro key' e member
    refine ⟨key', ?_⟩
    unfold removeKnownServer RelayState.queueOf at member
    by_cases same : key' = key
    · simp [same] at member
    · simpa [RelayState.queueOf, same] using member
  · intro key' payload' known requestId entry found
    unfold removeKnownServer at known
    rw [OrderedDict.get?_erase] at known
    split at known
    · cases known
    · exact .inFlight key' payload' entry known found rfl rfl

theorem popClientResponse_lessens (q : Pair) (s : RelayState) :
    Lessens s (popClientResponse q s).2 := by
  refine lessens_of_fewer ?_ (by rw [popClientResponse_eq]) (by rw [popClientResponse_eq])
  unfold popClientResponse
  split
  · exact .refl s
  · split
    · exact .refl s
    · refine Fewer.trans ?_ (clearPendingRequest_fewer _ _)
      rw [storeMailbox_eq]
      exact fewer_of_eq rfl rfl rfl
  · split
    · exact .refl s
    · refine Fewer.trans ?_ (clearPendingRequest_fewer _ _)
      exact fewer_of_eq rfl rfl rfl

/-! ## The terminal transition -/

theorem get?_markRequestTerminal {r : TerminalRecord}
    (h : (markRequestTerminal env q status reason s).terminalRequestIds.get? p = some r) :
    s.terminalRequestIds.get? p = some r ∨ p = q := by
  have pruned : (pruneTerminalRecords s.wall s).terminalRequestIds.get? p = some r →
      s.terminalRequestIds.get? p = some r := (pruneTerminalRecords_lessens s.wall s).records p r
  unfold markRequestTerminal at h
  split at h
  · exact Or.inl h
  · dsimp only at h
    split at h
    · exact Or.inl (pruned h)
    · rw [recordOutcome_eq] at h
      dsimp only at h
      rw [OrderedDict.get?_set] at h
      split at h
      · next same => exact Or.inr same
      · exact Or.inl (pruned h)

theorem get?_addControlTombstone {key' key : String} {deadline : ℚ} {digest : Option String}
    (h : (addControlTombstone env key' q status reason deadline digest s).controlTombstones.get?
      key = some t) :
    s.controlTombstones.get? key = some t ∨ t.pair = q := by
  unfold addControlTombstone at h
  split at h
  · exact Or.inl h
  · dsimp only at h
    rw [OrderedDict.get?_set] at h
    split at h
    · cases h
      exact Or.inr rfl
    · exact Or.inl ((pruneControlTombstones_lessens s.monotonic s).tombstones key t h)

theorem get?_tombstonesFor {holders : List (String × ServerPayload)}
    (h : (tombstonesFor env q status reason holders s).controlTombstones.get? key = some t) :
    s.controlTombstones.get? key = some t ∨ t.pair = q ∧ holders ≠ [] := by
  induction holders generalizing s with
  | nil => exact Or.inl h
  | cons e rest ih =>
    rw [tombstonesFor_cons] at h
    rcases ih h with before | ⟨same, -⟩
    · rcases get?_addControlTombstone before with old | same
      · exact Or.inl old
      · exact Or.inr ⟨same, List.cons_ne_nil e rest⟩
    · exact Or.inr ⟨same, List.cons_ne_nil e rest⟩

theorem get?_withdraw (h : (withdraw env q status reason s).controlTombstones.get? key = some t) :
    s.controlTombstones.get? key = some t ∨ t.pair = q ∧ s.holders q ≠ [] := by
  unfold withdraw at h
  dsimp only at h
  split at h
  · exact Or.inl h
  · have origin := get?_tombstonesFor h
    exact origin

theorem copied_withdraw (h : Copied (withdraw env q status reason s) p token) :
    Copied s p token ∧ p ≠ q := by
  rw [withdraw_eq] at h
  cases h with
  | queued key e member pair same =>
    have kept := mem_queueOf_removeRequest.mp member
    exact ⟨.queued key e kept.1 pair same, fun other => kept.2 (pair.trans other)⟩
  | pending entry found same =>
    dsimp only at found
    rw [OrderedDict.get?_erase] at found
    split at found
    · cases found
    · next other => exact ⟨.pending entry found same, other⟩
  | inFlight key payload entry known found client same =>
    dsimp only at known
    rw [OrderedDict.get?_mapValues, Option.map_eq_some_iff] at known
    obtain ⟨payload₀, known₀, rfl⟩ := known
    obtain ⟨found₀, other⟩ := ServerPayload.get?_release found
    refine ⟨.inFlight key payload₀ entry known₀ found₀ client same, ?_⟩
    rintro rfl
    exact other ⟨rfl, client⟩

/-- What the terminal transition of one request does to the copies and the record
of another, or of the same one. -/
structure Closes (p : Pair) (s s' : RelayState) : Prop where
  fewer : Fewer s s'
  record : ∀ r, s'.terminalRequestIds.get? p = some r →
    s.terminalRequestIds.get? p = some r ∨ Uncopied s' p

theorem Fewer.uncopied (h : Fewer s s') (uncopied : Uncopied s p) : Uncopied s' p :=
  fun token copied => uncopied token (h p token copied)

theorem Closes.trans (first : Closes p s₁ s₂) (second : Closes p s₂ s₃) :
    Closes p s₁ s₃ := by
  refine ⟨first.fewer.trans second.fewer, fun r found => ?_⟩
  rcases second.record r found with earlier | closed
  · rcases first.record r earlier with old | closed
    · exact Or.inl old
    · exact Or.inr (second.fewer.uncopied closed)
  · exact Or.inr closed

theorem Lessens.closes (h : Lessens s s') : Closes p s s' :=
  ⟨h.fewer, fun r found => Or.inl (h.records p r found)⟩

/-- A request without copies gets no copy, record or tombstone. -/
def Dormant (p : Pair) (s s' : RelayState) : Prop :=
  Uncopied s p → Uncopied s' p ∧
    (∀ r, s'.terminalRequestIds.get? p = some r → s.terminalRequestIds.get? p = some r) ∧
    ∀ key t, s'.controlTombstones.get? key = some t → t.pair = p →
      s.controlTombstones.get? key = some t

theorem Dormant.trans (first : Dormant p s₁ s₂) (second : Dormant p s₂ s₃) : Dormant p s₁ s₃ := by
  intro uncopied
  obtain ⟨uncopied₂, records, tombstones⟩ := first uncopied
  obtain ⟨uncopied₃, records', tombstones'⟩ := second uncopied₂
  exact ⟨uncopied₃, fun r found => records r (records' r found),
    fun key t found pair => tombstones key t (tombstones' key t found pair) pair⟩

theorem Lessens.dormant (h : Lessens s s') : Dormant p s s' :=
  fun uncopied => ⟨h.fewer.uncopied uncopied, h.records p, fun key t found _ =>
    h.tombstones key t found⟩

theorem withdraw_fewer :
    Fewer s (withdraw env q status reason s) :=
  fun _ _ copied => (copied_withdraw copied).1

theorem markRequestTerminal_fewer : Fewer s (markRequestTerminal env q status reason s) := by
  rw [markRequestTerminal_eq]
  exact fewer_of_eq rfl rfl rfl

/-- A terminal record is written only when the request has no copy left. -/
theorem cancel_closes (q : Pair) (status : TerminalStatus) (reason : TerminalReason)
    (s : RelayState) : Closes p s (cancelApiV1Request env q status reason s).2 := by
  cases named : q.blank with
  | true =>
    unfold cancelApiV1Request
    rw [if_pos named]
    exact (Lessens.refl s).closes
  | false =>
    have records (r : TerminalRecord)
        (found : (withdraw env q status reason s).terminalRequestIds.get? p = some r) :
        s.terminalRequestIds.get? p = some r := by
      rwa [withdraw_eq] at found
    rw [cancelApiV1Request_eq named]
    split
    · refine ⟨withdraw_fewer.trans markRequestTerminal_fewer, fun r found => ?_⟩
      rcases get?_markRequestTerminal found with old | rfl
      · exact Or.inl (records r old)
      · exact Or.inr (markRequestTerminal_fewer.uncopied
          fun token copied => (copied_withdraw copied).2 rfl)
    · exact ⟨withdraw_fewer, fun r found => Or.inl (records r found)⟩

/-- A terminal transition that finds nothing to withdraw writes nothing about the
request, and one of another request never does. -/
theorem cancel_dormant (q : Pair) (status : TerminalStatus) (reason : TerminalReason)
    (s : RelayState) : Dormant p s (cancelApiV1Request env q status reason s).2 := by
  intro uncopied
  have idle (same : p = q) : s.engaged q = false := by
    rw [Bool.eq_false_iff]
    intro engaged
    obtain ⟨token, copied⟩ := engaged_iff.mp engaged
    exact uncopied token (same ▸ copied)
  have unheld (same : p = q) : s.holders q = [] := by
    by_contra held
    have := idle same
    simp [RelayState.engaged, held] at this
  refine ⟨(cancel_closes (p := p) q status reason s).fewer.uncopied uncopied, ?_, ?_⟩
  · intro r found
    cases named : q.blank with
    | true =>
      unfold cancelApiV1Request at found
      rwa [if_pos named] at found
    | false =>
      rw [cancelApiV1Request_eq named] at found
      split at found
      · next guard =>
        rcases get?_markRequestTerminal found with old | same
        · rwa [withdraw_eq] at old
        · rw [idle same] at guard
          cases guard.1
      · rwa [withdraw_eq] at found
  · intro key t found pair
    cases named : q.blank with
    | true =>
      unfold cancelApiV1Request at found
      rwa [if_pos named] at found
    | false =>
      have before : (withdraw env q status reason s).controlTombstones.get? key = some t := by
        rw [cancelApiV1Request_eq named] at found
        split at found
        · rwa [markRequestTerminal_eq] at found
        · exact found
      rcases get?_withdraw before with old | ⟨same, held⟩
      · exact old
      · exact absurd (unheld (pair.symm.trans same)) held

theorem expireStale_closes (q : Pair) (s : RelayState) :
    Closes p s (expirePendingRequestIfStale env q s) := by
  unfold expirePendingRequestIfStale
  split
  · exact cancel_closes q _ _ s
  · exact (Lessens.refl s).closes

theorem expireStale_dormant (q : Pair) (s : RelayState) :
    Dormant p s (expirePendingRequestIfStale env q s) := by
  unfold expirePendingRequestIfStale
  split
  · exact cancel_dormant q _ _ s
  · exact (Lessens.refl s).dormant

/-! ## The long regions -/

theorem cancelInFlight_closes (key digest : String) (entry : String × InFlightEntry)
    (s : RelayState) : Closes p s (cancelInFlight env key digest entry s) := by
  unfold cancelInFlight
  dsimp only
  split
  · exact (Lessens.refl s).closes
  · refine Closes.trans ?_ (cancel_closes _ _ _ _)
    rw [addControlTombstone_eq]
    exact ⟨fewer_of_eq rfl rfl rfl, fun r found => Or.inl found⟩

theorem cancelInFlight_dormant (key digest : String) {entry : String × InFlightEntry}
    (other : (⟨entry.2.clientPublicKey, entry.1⟩ : Pair) ≠ p) (s : RelayState) :
    Dormant p s (cancelInFlight env key digest entry s) := by
  unfold cancelInFlight
  dsimp only
  split
  · exact (Lessens.refl s).dormant
  · refine Dormant.trans ?_ (cancel_dormant _ _ _ _)
    intro uncopied
    refine ⟨Fewer.uncopied ?_ uncopied, ?_, fun key t found pair => ?_⟩
    · rw [addControlTombstone_eq]
      exact fewer_of_eq rfl rfl rfl
    · rw [addControlTombstone_eq]
      exact fun r found => found
    · rcases get?_addControlTombstone found with old | same
      · exact old
      · exact absurd (same.symm.trans pair) other

theorem tornDown_closes (key : String) (payload : ServerPayload) :
    Closes p s (tornDown env key payload s) :=
  tornDown_chain (fun s => (Lessens.refl s).closes) Closes.trans
    (removeKnownServer_lessens key payload s).closes (fun e _ s => cancel_closes e.pair _ _ s)
    fun e _ s => cancelInFlight_closes key _ e s

theorem tornDown_dormant
    (known : s.knownServers.get? key = some payload) : Dormant p s (tornDown env key payload s) := by
  intro uncopied
  refine tornDown_chain (R := Dormant p) (fun s => (Lessens.refl s).dormant) Dormant.trans
    (removeKnownServer_lessens key payload s).dormant (fun e _ s => cancel_dormant e.pair _ _ s)
    (fun e member s => cancelInFlight_dormant key _ ?_ s) uncopied
  rintro rfl
  exact uncopied _ (.inFlight key payload e.2 known (OrderedDict.mem_entries.mp member) rfl rfl)

theorem acceptResponse_across {R : RelayState → RelayState → Prop} (lessens : ∀ {s s'},
      Lessens s s' → R s s') (trans : ∀ {s₁ s₂ s₃}, R s₁ s₂ → R s₂ s₃ → R s₁ s₃)
    (expires : ∀ q s, R s (expirePendingRequestIfStale env q s)) (e : Envelope) :
    R s (acceptResponse env e s).1 := by
  have queues (s : RelayState) : R s (queueClientResponse e.clientPublicKey e s) := by
    rw [queueClientResponse_eq]
    exact lessens (lessens_of_eq rfl rfl rfl rfl rfl)
  cases named : e.pair.blank with
  | true =>
    unfold acceptResponse
    split
    · exact lessens (.refl s)
    · next client =>
      rw [if_pos (unkeyed_of_blank client named)]
      exact queues s
  | false =>
    have outcome := acceptResponse_chain (R := R) (s := s) trans env named
      (fun s => lessens (lifted_lessens e.pair s))
      (fun s => lessens (getTerminalRequest_lessens e.pair s.wall s))
      (fun s => expires e.pair s)
      (fun s => by rw [recordOutcome_eq]; exact lessens (lessens_of_eq rfl rfl rfl rfl rfl))
      (fun s => by rw [hasOutcome_eq]; exact lessens (lessens_of_eq rfl rfl rfl rfl rfl))
      (fun s => by rw [clearClientProgress_eq]; exact lessens (lessens_of_eq rfl rfl rfl rfl rfl))
    rcases outcome with ⟨kept, -⟩ | ⟨s₁, reached, -, stored⟩
    · exact kept
    · rw [stored]
      exact trans reached (queues s₁)

/-! ## Every action -/

theorem enqueue_copied (after : Copied
      { markRequestPending e.pair e.cancelToken e.requestDeadlineMonotonic s with
        inferenceRequests := s.inferenceRequests.set key (s.queueOf key ++ [e]) } q token) :
    Copied s q token ∨ e.pair = q ∧ e.cancelToken = token := by
  cases after with
  | queued key' e' member pair same =>
    unfold RelayState.queueOf at member
    dsimp only at member
    rw [OrderedDict.get?_set] at member
    split at member
    · next sameKey =>
      rcases List.mem_append.mp member with old | new
      · exact Or.inl (.queued key e' old pair same)
      · cases List.mem_singleton.mp new
        exact Or.inr ⟨pair, same⟩
    · exact Or.inl (.queued key' e' member pair same)
  | pending entry found same =>
    unfold markRequestPending at found
    split at found
    · exact Or.inl (.pending entry found same)
    · dsimp only at found
      rw [OrderedDict.get?_set] at found
      split at found
      · next sameKey =>
        cases found
        exact Or.inr ⟨sameKey.symm, same⟩
      · exact Or.inl (.pending entry found same)
  | inFlight key' payload entry known found client same =>
    rw [markRequestPending_eq] at known
    exact Or.inl (.inFlight key' payload entry known found client same)

theorem insert_copied {claimed : QueuedEnvelope} (known : s.knownServers.get? key = some payload)
    (after : Copied
      { s with
        knownServers := s.knownServers.set key
          { payload with
            inFlightRequests := payload.inFlightRequests.set claimed.requestId
              (inFlightEntryOf env claimed s) } } q token) :
    Copied s q token ∨ claimed.pair = q ∧ claimed.cancelToken = token := by
  cases after with
  | queued key' e member pair same => exact Or.inl (.queued key' e member pair same)
  | pending entry found same => exact Or.inl (.pending entry found same)
  | inFlight key' payload' entry known' found client same =>
    dsimp only at known'
    rw [OrderedDict.get?_set] at known'
    split at known'
    · cases known'
      dsimp only at found
      rw [OrderedDict.get?_set] at found
      split at found
      · next sameId =>
        cases found
        refine Or.inr ⟨?_, same⟩
        cases q
        exact Pair.mk.injEq .. ▸ ⟨client, sameId.symm⟩
      · exact Or.inl (.inFlight key payload entry known found client same)
    · exact Or.inl (.inFlight key' payload' entry known' found client same)

/-- The action makes a new copy of the request with this token. -/
def Task.Copies (t : Task) (s : RelayState) (q : Pair) (token : String) : Prop :=
  (∃ key e, t = .enqueue key e ∧ key ∈ s.knownServers ∧ e.pair = q ∧ e.cancelToken = token) ∨
    ∃ key e remaining, t = .pollInsert key e remaining ∧ e.pair = q ∧ e.cancelToken = token

/-- A change that makes no new copy. -/
structure Quiet (p : Pair) (s s' : RelayState) : Prop where
  closes : Closes p s s'
  dormant : Dormant p s s'

theorem Lessens.quiet (h : Lessens s s') : Quiet p s s' := ⟨h.closes, h.dormant⟩

theorem quiet_of_eq (queues : s'.inferenceRequests = s.inferenceRequests)
    (pending : s'.pendingRequestIds = s.pendingRequestIds)
    (known : s'.knownServers = s.knownServers)
    (records : s'.terminalRequestIds = s.terminalRequestIds)
    (tombstones : s'.controlTombstones = s.controlTombstones) : Quiet p s s' :=
  (lessens_of_eq queues pending known records tombstones).quiet

/-- Every change makes no new copy, or makes one and nothing else. -/
theorem Effect.quiet_or_copies {t : Task} (effect : Effect env s t s') (p : Pair) :
    Quiet p s s' ∨
      s'.terminalRequestIds = s.terminalRequestIds ∧
        s'.controlTombstones = s.controlTombstones ∧
        ∀ q token, Copied s' q token → Copied s q token ∨ t.Copies s q token := by
  cases effect with
  | reads => exact Or.inl (Lessens.refl s).quiet
  | pruneRecords now => exact Or.inl (pruneTerminalRecords_lessens now s).quiet
  | pruneTombstones now => exact Or.inl (pruneControlTombstones_lessens now s).quiet
  | acknowledges t key =>
    refine Or.inl (Lessens.quiet ⟨fewer_of_eq rfl rfl rfl, fun _ _ found => found, ?_⟩)
    intro key' tombstone found
    rw [OrderedDict.get?_erase] at found
    split at found
    · cases found
    · exact found
  | looksUp t q now => exact Or.inl (getTerminalRequest_lessens q now s).quiet
  | tears t key payload known => exact Or.inl ⟨tornDown_closes key payload, tornDown_dormant known⟩
  | cancels t q status reason =>
    exact Or.inl ⟨cancel_closes q status reason s, cancel_dormant q status reason s⟩
  | expires t q status reason =>
    have after : Lessens (cancelApiV1Request env q status reason s).2 _ :=
      getTerminalRequest_lessens q s.wall _
    exact Or.inl ⟨(cancel_closes q status reason s).trans after.closes,
      (cancel_dormant q status reason s).trans after.dormant⟩
  | refreshes t key payload payload' known same =>
    refine Or.inl (lessens_of_fewer (fewer_setServer fun requestId entry found => ?_) rfl rfl).quiet
    exact .inFlight key payload entry known (same ▸ found) rfl rfl
  | joins t key payload absent idle =>
    have fewer : Fewer s { s with knownServers := s.knownServers.set key payload } :=
      fewer_setServer fun requestId entry found => by simp [idle] at found
    refine Or.inl (Lessens.quiet (lessens_of_fewer (fewer.trans ?_) rfl rfl))
    exact fewer_of_eq rfl rfl rfl
  | renews t key requestId payload entry expiresAt known found =>
    refine Or.inl (lessens_of_fewer (fewer_setServer fun id entry' stored => ?_) rfl rfl).quiet
    dsimp only at stored
    rw [OrderedDict.get?_set] at stored
    split at stored
    · next same =>
      cases stored
      subst same
      exact .inFlight key payload entry known found rfl rfl
    · exact .inFlight key payload entry' known stored rfl rfl
  | pops key deadline e rest queue =>
    have fewer : Fewer s (storeQueue key rest s) := by
      refine fewer_of_parts (fun key' e' member => ?_) (fun _ _ found => found)
        fun key' payload known id entry found => .inFlight key' payload entry known found rfl rfl
      rcases mem_queueOf_storeQueue member with left | old
      · exact ⟨key, queue ▸ List.mem_cons_of_mem e left⟩
      · exact ⟨key', old⟩
    exact Or.inl (lessens_of_fewer fewer rfl rfl).quiet
  | inserts key claimed remaining payload known =>
    refine Or.inr ⟨rfl, rfl, fun q token after => ?_⟩
    rcases insert_copied known after with old | ⟨pair, same⟩
    · exact Or.inl old
    · exact Or.inr (Or.inr ⟨key, claimed, remaining, rfl, pair, same⟩)
  | accepts e =>
    exact Or.inl ⟨acceptResponse_across Lessens.closes Closes.trans expireStale_closes e,
      acceptResponse_across Lessens.dormant Dormant.trans expireStale_dormant e⟩
  | enqueues key e known =>
    refine Or.inr ⟨by rw [markRequestPending_eq], by rw [markRequestPending_eq], ?_⟩
    intro q token after
    rcases enqueue_copied after with old | ⟨pair, same⟩
    · exact Or.inl old
    · exact Or.inr (Or.inl ⟨key, e, rfl, known, pair, same⟩)
  | takesProgress t q =>
    rw [popClientProgress_eq]
    exact Or.inl (quiet_of_eq rfl rfl rfl rfl rfl)
  | dropsResponses t q =>
    rw [removeClientResponses_eq]
    exact Or.inl (quiet_of_eq rfl rfl rfl rfl rfl)
  | takesResponse t q => exact Or.inl (popClientResponse_lessens q s).quiet
  | pruneOutcomes | forgets | counts | reports =>
    exact Or.inl (quiet_of_eq rfl rfl rfl rfl rfl)

theorem Effect.copied {t : Task} (effect : Effect env s t s')
    (after : Copied s' q token) : Copied s q token ∨ t.Copies s q token := by
  rcases effect.quiet_or_copies q with quiet | ⟨-, -, copies⟩
  · exact Or.inl (quiet.closes.fewer q token after)
  · exact copies q token after

/-- A terminal record is only ever written when no copy is left in the tables. -/
theorem Effect.created {t : Task} (effect : Effect env s t s') {r : TerminalRecord}
    (found : s'.terminalRequestIds.get? p = some r) :
    s.terminalRequestIds.get? p = some r ∨ Uncopied s' p := by
  rcases effect.quiet_or_copies p with quiet | ⟨records, -, -⟩
  · exact quiet.closes.record r found
  · exact Or.inl (records ▸ found)

theorem Effect.dormant {t : Task} (effect : Effect env s t s')
    (none : ∀ token, ¬ t.Copies s p token) : Dormant p s s' := by
  rcases effect.quiet_or_copies p with quiet | ⟨records, tombstones, copies⟩
  · exact quiet.dormant
  · intro uncopied
    refine ⟨fun token after => ?_, fun r found => records ▸ found,
      fun key t found _ => tombstones ▸ found⟩
    rcases copies p token after with old | new
    · exact uncopied token old
    · exact none token new

end Relay
