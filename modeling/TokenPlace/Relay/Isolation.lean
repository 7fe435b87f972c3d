import TokenPlace.Relay.Copies
import TokenPlace.Relay.Sample

/-!
# What the requests of other clients change

`viewOf` is what the tables hold for one client. The tables over client and
request id cannot mix up two clients, but the in-flight entries of a server are
keyed by the request id alone and the tombstones by server and request id.

`client_isolation` says for every action that is performed for a client exactly
when it leaves the view of another client as it was.
-/

namespace Relay

open Interleaving

variable {env : RelayEnv} {s : RelayState} {p : Pair} {c : String} {status : TerminalStatus}
  {reason : TerminalReason}

/-! ## The tables as one client sees them -/

/-- What belongs to a client. Queues are indexed by the server, in-flight entries
by server and request id, tombstones by their key, the others by request id. -/
@[ext]
structure ClientView where
  queued : String → List QueuedEnvelope
  pending : String → Option PendingEntry
  pendingDeadline : String → Option ℚ
  inFlight : String → String → Option InFlightEntry
  progress : String → Option ProgressEnvelope
  responses : Option Mailbox
  terminal : String → Option TerminalRecord
  tombstone : String → Option ControlTombstone

/-- The in-flight entry of a server for a client. -/
def inFlightOf (c : String) (servers : OrderedDict String ServerPayload) (key requestId : String) :
    Option InFlightEntry :=
  ((servers.get? key).bind fun payload => payload.inFlightRequests.get? requestId).filter
    fun entry => entry.clientPublicKey = c

/-- The tombstone under a key, if it is one of the client. -/
def tombstoneOf (c : String) (tombstones : OrderedDict String ControlTombstone) (key : String) :
    Option ControlTombstone :=
  (tombstones.get? key).filter fun t => t.clientPublicKey = c

/-- The tables as a client sees them. -/
def RelayState.viewOf (s : RelayState) (c : String) : ClientView where
  queued key := (s.queueOf key).filter fun e => e.clientPublicKey = c
  pending requestId := s.pendingRequestIds.get? ⟨c, requestId⟩
  pendingDeadline requestId := s.pendingRequestDeadlines.get? ⟨c, requestId⟩
  inFlight := inFlightOf c s.knownServers
  progress requestId := s.progress.get? ⟨c, requestId⟩
  responses := s.responses.get? c
  terminal requestId := s.terminalRequestIds.get? ⟨c, requestId⟩
  tombstone := tombstoneOf c s.controlTombstones

variable {servers : OrderedDict String ServerPayload} {t : ControlTombstone} {key : String}
  {payload : ServerPayload} {entry : InFlightEntry} {e : QueuedEnvelope}

theorem inFlightOf_eq_some {key requestId : String} :
    inFlightOf c servers key requestId = some entry ↔
      ∃ payload, servers.get? key = some payload ∧
        payload.inFlightRequests.get? requestId = some entry ∧ entry.clientPublicKey = c := by
  unfold inFlightOf
  rw [Option.filter_eq_some_iff, Option.bind_eq_some_iff, decide_eq_true_eq]
  constructor
  · rintro ⟨⟨payload, known, found⟩, client⟩
    exact ⟨payload, known, found, client⟩
  · rintro ⟨payload, known, found, client⟩
    exact ⟨⟨payload, known, found⟩, client⟩

theorem tombstoneOf_eq_some {tombstones : OrderedDict String ControlTombstone} :
    tombstoneOf c tombstones key = some t ↔
      tombstones.get? key = some t ∧ t.clientPublicKey = c := by
  simp [tombstoneOf, Option.filter_eq_some_iff]

theorem pair_ne (other : p.client ≠ c) (requestId : String) : (⟨c, requestId⟩ : Pair) ≠ p := by
  rintro rfl
  exact other rfl

/-! ## Writes about another client's request -/

theorem viewOf_setPending (other : p.client ≠ c) (entry : PendingEntry) (deadline : ℚ) :
    RelayState.viewOf
      { s with
        pendingRequestIds := s.pendingRequestIds.set p entry
        pendingRequestDeadlines := s.pendingRequestDeadlines.set p deadline } c = s.viewOf c := by
  ext1 <;> first | rfl | (funext requestId; simp [RelayState.viewOf, pair_ne other])

theorem viewOf_clearPendingRequest (other : p.client ≠ c) :
    (clearPendingRequest p s).2.viewOf c = s.viewOf c := by
  unfold clearPendingRequest
  split
  · rfl
  · ext1 <;> first | rfl | (funext requestId; simp [RelayState.viewOf, pair_ne other])

theorem viewOf_setProgress (other : p.client ≠ c) (envelope : ProgressEnvelope) :
    RelayState.viewOf { s with progress := s.progress.set p envelope } c = s.viewOf c := by
  ext1 <;> first | rfl | (funext requestId; simp [RelayState.viewOf, pair_ne other])

theorem viewOf_eraseProgress (other : p.client ≠ c) :
    RelayState.viewOf { s with progress := s.progress.erase p } c = s.viewOf c := by
  ext1 <;> first | rfl | (funext requestId; simp [RelayState.viewOf, pair_ne other])

theorem viewOf_getTerminalRequest (other : p.client ≠ c) (now : ℚ) :
    (getTerminalRequest p now s).2.viewOf c = s.viewOf c := by
  rw [getTerminalRequest_eq]
  ext1 <;> first
    | rfl
    | (funext requestId; simp [RelayState.viewOf, get?_getTerminalRequest, pair_ne other])

theorem viewOf_responses {responses : OrderedDict String Mailbox}
    (same : responses.get? c = s.responses.get? c) :
    RelayState.viewOf { s with responses } c = s.viewOf c := by
  ext1 <;> first | rfl | exact same

theorem get?_storeMailbox {client : String} (other : client ≠ c) (kept : List Envelope) :
    (storeMailbox client kept s).responses.get? c = s.responses.get? c := by
  unfold storeMailbox
  split <;> simp [Ne.symm other]

theorem viewOf_queueClientResponse {client : String} (other : client ≠ c) (e : Envelope) :
    (queueClientResponse client e s).viewOf c = s.viewOf c := by
  rw [queueClientResponse_eq]
  refine viewOf_responses ?_
  unfold queueClientResponse
  split <;> simp [Ne.symm other]

theorem viewOf_removeClientResponses (other : p.client ≠ c) :
    (removeClientResponsesForRequest p s).viewOf c = s.viewOf c := by
  rw [removeClientResponses_eq]
  refine viewOf_responses ?_
  unfold removeClientResponsesForRequest
  split
  · rfl
  · split
    · rfl
    · exact get?_storeMailbox other _
    · split
      · simp [Ne.symm other]
      · rfl

theorem viewOf_popClientResponse (other : p.client ≠ c) :
    (popClientResponse p s).2.viewOf c = s.viewOf c := by
  unfold popClientResponse
  split
  · rfl
  · split
    · rfl
    · dsimp only
      rw [viewOf_clearPendingRequest (by exact other), storeMailbox_eq]
      exact viewOf_responses (get?_storeMailbox other _)
  · split
    · rfl
    · dsimp only
      rw [viewOf_clearPendingRequest (by exact other)]
      exact viewOf_responses (by simp [Ne.symm other])

/-! ## Queues -/

theorem viewOf_queues {queues : OrderedDict String (List QueuedEnvelope)}
    (same : ∀ key, ((queues.get? key).getD []).filter (fun e => e.clientPublicKey = c) =
      (s.queueOf key).filter fun e => e.clientPublicKey = c) :
    RelayState.viewOf { s with inferenceRequests := queues } c = s.viewOf c := by
  ext1 <;> first | rfl | exact funext same

theorem viewOf_enqueue (other : e.clientPublicKey ≠ c) (key : String) :
    RelayState.viewOf
      { s with inferenceRequests := s.inferenceRequests.set key (s.queueOf key ++ [e]) } c =
      s.viewOf c := by
  refine viewOf_queues fun key' => ?_
  rw [OrderedDict.get?_set]
  split
  · next same => simp [same, other]
  · rfl

theorem viewOf_storeQueue {rest : List QueuedEnvelope}
    (queue : s.queueOf key = e :: rest) (other : e.clientPublicKey ≠ c) :
    (storeQueue key rest s).viewOf c = s.viewOf c := by
  have left : (s.queueOf key).filter (fun e => e.clientPublicKey = c) =
      rest.filter fun e => e.clientPublicKey = c := by simp [queue, other]
  refine viewOf_queues fun key' => ?_
  split
  · next empty =>
    rw [OrderedDict.get?_erase]
    split
    · next same => rw [same, left, empty]; rfl
    · rfl
  · rw [OrderedDict.get?_set]
    split
    · next same => rw [same, left]; rfl
    · rfl

theorem viewOf_removeRequest (other : p.client ≠ c) :
    (removeRequestFromServerQueues p s).2.viewOf c = s.viewOf c := by
  refine viewOf_queues fun key => ?_
  have kept (queue : List QueuedEnvelope) :
      (queue.filter fun e => e.pair ≠ p).filter (fun e => e.clientPublicKey = c) =
        queue.filter fun e => e.clientPublicKey = c := by
    rw [List.filter_filter]
    refine List.filter_congr fun e _ => ?_
    simp only [Bool.and_eq_left_iff_imp, decide_eq_true_eq]
    rintro rfl
    exact fun pair => other (congrArg Pair.client pair).symm
  rw [OrderedDict.get?_filter, OrderedDict.get?_mapValues]
  unfold RelayState.queueOf
  cases s.inferenceRequests.get? key with
  | none => rfl
  | some queue =>
    rw [Option.map_some, Option.filter_some]
    split
    · exact kept queue
    · next empty =>
      rw [Option.getD_some, ← kept queue, show queue.filter _ = [] by simpa using empty]
      rfl

/-! ## In-flight entries -/

theorem viewOf_servers (same : ∀ key requestId, inFlightOf c servers key requestId =
      inFlightOf c s.knownServers key requestId) :
    RelayState.viewOf { s with knownServers := servers } c = s.viewOf c := by
  ext1 <;> first | rfl | exact funext fun key => funext fun requestId => same key requestId

theorem get?_release_of_other (other : p.client ≠ c) (requestId : String) :
    ((payload.release p).inFlightRequests.get? requestId).filter
        (fun entry => entry.clientPublicKey = c) =
      (payload.inFlightRequests.get? requestId).filter fun entry => entry.clientPublicKey = c := by
  unfold ServerPayload.release
  split
  · next holds =>
    obtain ⟨entry, found, client⟩ := ServerPayload.holds_iff.mp holds
    dsimp only
    rw [OrderedDict.get?_erase]
    split
    · next same => simp [same, found, Option.filter_some, client, other]
    · rfl
  · rfl

theorem viewOf_release (other : p.client ≠ c) :
    RelayState.viewOf
      { s with knownServers := s.knownServers.mapValues fun _ payload => payload.release p } c =
      s.viewOf c := by
  refine viewOf_servers fun key requestId => ?_
  unfold inFlightOf
  rw [OrderedDict.get?_mapValues]
  cases s.knownServers.get? key with
  | none => rfl
  | some payload => exact get?_release_of_other other requestId

theorem viewOf_setServer {payload payload' : ServerPayload}
    (known : s.knownServers.get? key = some payload)
    (same : ∀ requestId,
      (payload'.inFlightRequests.get? requestId).filter (fun entry => entry.clientPublicKey = c) =
        (payload.inFlightRequests.get? requestId).filter fun entry => entry.clientPublicKey = c) :
    RelayState.viewOf { s with knownServers := s.knownServers.set key payload' } c =
      s.viewOf c := by
  refine viewOf_servers fun key' requestId => ?_
  unfold inFlightOf
  rw [OrderedDict.get?_set]
  split
  · next sameKey =>
    rw [sameKey, known]
    exact same requestId
  · rfl

theorem viewOf_releaseFirst (other : p.client ≠ c) :
    (releaseFirst p s).2.viewOf c = s.viewOf c := by
  unfold releaseFirst
  split
  · rfl
  · next holder rest holders =>
    have known : s.knownServers.get? holder.1 = some holder.2 :=
      (mem_holders.mp (holders ▸ List.mem_cons_self)).1
    exact viewOf_setServer known (get?_release_of_other other)

theorem viewOf_lifted (other : p.client ≠ c) : (lifted p s).viewOf c = s.viewOf c := by
  unfold lifted
  rw [viewOf_clearPendingRequest other, viewOf_removeRequest other, viewOf_releaseFirst other]

theorem viewOf_insert_iff {key requestId : String} (known : s.knownServers.get? key = some payload)
    (other : entry.clientPublicKey ≠ c) :
    RelayState.viewOf
      { s with
        knownServers := s.knownServers.set key
          { payload with
            inFlightRequests := payload.inFlightRequests.set requestId entry } } c = s.viewOf c ↔
      ∀ old, payload.inFlightRequests.get? requestId = some old → old.clientPublicKey ≠ c := by
  constructor
  · intro unchanged old found client
    have before : inFlightOf c s.knownServers key requestId = some old :=
      inFlightOf_eq_some.mpr ⟨payload, known, found, client⟩
    have after := congrFun (congrFun (congrArg ClientView.inFlight unchanged) key) requestId
    simp only [RelayState.viewOf, before] at after
    obtain ⟨payload', known', found', -⟩ := inFlightOf_eq_some.mp after
    simp only [OrderedDict.get?_set, if_pos, Option.some.injEq] at known'
    subst known'
    simp only [OrderedDict.get?_set, if_pos, Option.some.injEq] at found'
    exact other (found' ▸ client)
  · intro free
    refine viewOf_setServer known fun requestId' => ?_
    dsimp only
    rw [OrderedDict.get?_set]
    split
    · next same =>
      rw [same]
      cases found : payload.inFlightRequests.get? requestId with
      | none => simp [Option.filter_some, other]
      | some old => simp [Option.filter_some, other, free old found]
    · rfl

/-! ## The terminal transition of another client's request -/

theorem tombstoneOf_addControlTombstone (keyed : p.requestId ≠ "") (other : p.client ≠ c)
    {server : String} {deadline : ℚ} {digest : Option String} :
    tombstoneOf c (addControlTombstone env server p status reason deadline digest
        s).controlTombstones key = some t ↔
      tombstoneOf c s.controlTombstones key = some t ∧
        (server ≠ "" → s.monotonic < t.expiresAtMonotonic ∧
          key ≠ controlTombstoneKey server p.requestId) := by
  unfold addControlTombstone
  split
  · next unnamed =>
    have blank : server = "" := unnamed.resolve_right keyed
    simp [blank]
  · next named =>
    have server_ne : server ≠ "" := fun blank => named (Or.inl blank)
    simp only [tombstoneOf_eq_some, OrderedDict.get?_set, pruneControlTombstones,
      OrderedDict.get?_filter]
    split
    · next same =>
      constructor
      · rintro ⟨written, client⟩
        cases written
        exact absurd client other
      · rintro ⟨-, kept⟩
        exact absurd same (kept server_ne).2
    · next different =>
      simp only [Option.filter_eq_some_iff, decide_eq_true_eq]
      constructor
      · rintro ⟨⟨found, live⟩, client⟩
        exact ⟨⟨found, client⟩, fun _ => ⟨live, different⟩⟩
      · rintro ⟨⟨found, client⟩, kept⟩
        exact ⟨⟨found, (kept server_ne).1⟩, client⟩

theorem tombstoneOf_tombstonesFor (keyed : p.requestId ≠ "") (other : p.client ≠ c)
    {holders : List (String × ServerPayload)} :
    tombstoneOf c (tombstonesFor env p status reason holders s).controlTombstones key = some t ↔
      tombstoneOf c s.controlTombstones key = some t ∧
        ∀ e ∈ holders, e.1 ≠ "" → s.monotonic < t.expiresAtMonotonic ∧
          key ≠ controlTombstoneKey e.1 p.requestId := by
  induction holders generalizing s with
  | nil => simp [tombstonesFor]
  | cons e rest ih =>
    have clock : (addControlTombstone env e.1 p status reason (e.2.inFlightDeadline p) none
        s).monotonic = s.monotonic := by rw [addControlTombstone_eq]
    rw [tombstonesFor_cons, ih, tombstoneOf_addControlTombstone keyed other, clock]
    simp only [List.forall_mem_cons, and_assoc]

theorem terminal_markRequestTerminal (named : p.blank = false) (other : p.client ≠ c)
    {requestId : String} {r : TerminalRecord} :
    (markRequestTerminal env p status reason s).terminalRequestIds.get? ⟨c, requestId⟩ = some r ↔
      s.terminalRequestIds.get? ⟨c, requestId⟩ = some r ∧ s.wall < r.expiresAt := by
  unfold markRequestTerminal
  rw [if_neg (by simp [named])]
  dsimp only
  split
  · simp [pruneTerminalOutcomes, pruneTerminalRecords, Option.filter_eq_some_iff]
  · rw [recordOutcome_eq]
    simp [pruneTerminalOutcomes, pruneTerminalRecords, Option.filter_eq_some_iff, pair_ne other]

theorem viewOf_withdraw (other : p.client ≠ c) :
    (withdraw env p status reason s).viewOf c =
      { s.viewOf c with
        tombstone := tombstoneOf c (withdraw env p status reason s).controlTombstones } := by
  have queued := congrArg ClientView.queued (viewOf_removeRequest (s := s) other)
  have inFlight := congrArg ClientView.inFlight (viewOf_release (s := s) other)
  rw [withdraw_eq]
  ext1
  case queued => exact queued
  case inFlight => exact inFlight
  case responses | terminal | tombstone => rfl
  case pending | pendingDeadline | progress =>
    funext requestId
    simp [RelayState.viewOf, pair_ne other]

theorem tombstoneOf_withdraw (keyed : p.requestId ≠ "") (other : p.client ≠ c) :
    tombstoneOf c (withdraw env p status reason s).controlTombstones key = some t ↔
      tombstoneOf c s.controlTombstones key = some t ∧
        (hasClientResponseForRequest p s = false →
          ∀ e ∈ s.holders p, e.1 ≠ "" → s.monotonic < t.expiresAtMonotonic ∧
            key ≠ controlTombstoneKey e.1 p.requestId) := by
  unfold withdraw
  dsimp only
  split
  · next responded => simp [responded]
  · next unresponded =>
    rw [tombstoneOf_tombstonesFor keyed other]
    simp [Bool.eq_false_iff.mpr unresponded]

/-- The terminal transition of a request drops nothing of the client: a response is
queued, or the client has no expired record or tombstone that it would delete and
no tombstone that it would replace. -/
def Spared (c : String) (p : Pair) (s : RelayState) : Prop :=
  hasClientResponseForRequest p s = false →
    (s.engaged p = true → ∀ requestId r,
      s.terminalRequestIds.get? ⟨c, requestId⟩ = some r → s.wall < r.expiresAt) ∧
    ∀ e ∈ s.holders p, e.1 ≠ "" → ∀ key t, tombstoneOf c s.controlTombstones key = some t →
      s.monotonic < t.expiresAtMonotonic ∧ key ≠ controlTombstoneKey e.1 p.requestId

theorem viewOf_withdraw_iff (keyed : p.requestId ≠ "") (other : p.client ≠ c) :
    (withdraw env p status reason s).viewOf c = s.viewOf c ↔
      ∀ key t, tombstoneOf c s.controlTombstones key = some t →
        hasClientResponseForRequest p s = false →
          ∀ e ∈ s.holders p, e.1 ≠ "" → s.monotonic < t.expiresAtMonotonic ∧
            key ≠ controlTombstoneKey e.1 p.requestId := by
  rw [viewOf_withdraw other]
  constructor
  · intro same key t found
    have after := congrFun (congrArg ClientView.tombstone same) key
    exact ((tombstoneOf_withdraw keyed other).mp (after.trans found)).2
  · intro kept
    ext1
    case tombstone =>
      funext key
      refine OrderedDict.eq_of_some_iff fun t => ?_
      rw [tombstoneOf_withdraw keyed other]
      exact ⟨fun h => h.1, fun found => ⟨found, kept key t found⟩⟩
    all_goals rfl

theorem viewOf_markRequestTerminal :
    (markRequestTerminal env p status reason s).viewOf c =
      { s.viewOf c with
        terminal := fun requestId =>
          (markRequestTerminal env p status reason s).terminalRequestIds.get? ⟨c, requestId⟩ } := by
  rw [markRequestTerminal_eq]
  rfl

theorem viewOf_markRequestTerminal_iff (named : p.blank = false) (other : p.client ≠ c) :
    (markRequestTerminal env p status reason s).viewOf c = s.viewOf c ↔
      ∀ requestId r, s.terminalRequestIds.get? ⟨c, requestId⟩ = some r → s.wall < r.expiresAt := by
  rw [viewOf_markRequestTerminal]
  constructor
  · intro same requestId r found
    have after := congrFun (congrArg ClientView.terminal same) requestId
    exact ((terminal_markRequestTerminal named other).mp (after.trans found)).2
  · intro live
    ext1
    case terminal =>
      funext requestId
      refine OrderedDict.eq_of_some_iff fun r => ?_
      rw [terminal_markRequestTerminal named other]
      exact ⟨fun h => h.1, fun found => ⟨found, live requestId r found⟩⟩
    all_goals rfl

theorem viewOf_mark_withdraw (other : p.client ≠ c) :
    (markRequestTerminal env p status reason (withdraw env p status reason s)).viewOf c =
        s.viewOf c ↔
      (markRequestTerminal env p status reason (withdraw env p status reason s)).viewOf c =
          (withdraw env p status reason s).viewOf c ∧
        (withdraw env p status reason s).viewOf c = s.viewOf c := by
  refine ⟨fun same => ?_, fun same => same.1.trans same.2⟩
  have withdrawn : (withdraw env p status reason s).viewOf c = s.viewOf c := by
    have tombstones := congrArg ClientView.tombstone same
    rw [viewOf_markRequestTerminal] at tombstones
    rw [viewOf_withdraw other] at tombstones ⊢
    ext1
    case tombstone => exact tombstones
    all_goals rfl
  exact ⟨same.trans withdrawn.symm, withdrawn⟩

theorem viewOf_cancel_iff (named : p.blank = false) (other : p.client ≠ c) :
    (cancelApiV1Request env p status reason s).2.viewOf c = s.viewOf c ↔ Spared c p s := by
  have keyed : p.requestId ≠ "" := (Pair.blank_eq_false.mp named).2
  have wall : (withdraw env p status reason s).wall = s.wall := by rw [withdraw_eq]
  have records : (withdraw env p status reason s).terminalRequestIds = s.terminalRequestIds := by
    rw [withdraw_eq]
  rw [cancelApiV1Request_eq named]
  unfold Spared
  split
  · next marks =>
    rw [viewOf_mark_withdraw other, viewOf_markRequestTerminal_iff named other,
      viewOf_withdraw_iff keyed other, wall, records]
    constructor
    · rintro ⟨live, kept⟩ unresponded
      exact ⟨fun _ => live, fun e holds server key t found =>
        kept key t found unresponded e holds server⟩
    · intro spared
      obtain ⟨live, kept⟩ := spared marks.2
      exact ⟨live marks.1, fun key t found _ e holds server => kept e holds server key t found⟩
  · next unmarked =>
    rw [viewOf_withdraw_iff keyed other]
    constructor
    · intro kept unresponded
      refine ⟨fun engaged => absurd ⟨engaged, unresponded⟩ unmarked, ?_⟩
      exact fun e holds server key t found => kept key t found unresponded e holds server
    · intro spared key t found unresponded e holds server
      exact (spared unresponded).2 e holds server key t found

/-! ## The regions that may run the terminal transition -/

/-- A lookup of a terminal record changes nothing that the condition reads. -/
theorem spared_getTerminalRequest (other : p.client ≠ c) (now : ℚ) :
    Spared c p (getTerminalRequest p now s).2 ↔ Spared c p s := by
  have records (requestId : String) :
      (getTerminalRequest p now s).2.terminalRequestIds.get? ⟨c, requestId⟩ =
        s.terminalRequestIds.get? ⟨c, requestId⟩ := by
    rw [get?_getTerminalRequest, if_neg fun same => pair_ne other requestId same.1]
  unfold Spared
  simp only [records]
  rw [getTerminalRequest_eq]
  exact Iff.rfl

theorem viewOf_completeRequest {e : Envelope} (other : e.clientPublicKey ≠ c) :
    (completeRequest env e s).1.viewOf c = s.viewOf c := by
  have client : e.pair.client ≠ c := other
  have looked : (getTerminalRequest e.pair (lifted e.pair s).wall (lifted e.pair s)).2.viewOf c =
      s.viewOf c := by
    rw [viewOf_getTerminalRequest client, viewOf_lifted client]
  have recorded (x : RelayState) :
      (recordRequestTerminalOutcomeOnce env e.pair .completed x).2.viewOf c = x.viewOf c := by
    rw [recordOutcome_eq]
    rfl
  unfold completeRequest
  dsimp only
  split
  · exact looked
  · split
    · split
      · have cleared (x : RelayState) : (clearClientProgress e.pair x).viewOf c = x.viewOf c := by
          unfold clearClientProgress
          split
          · rfl
          · exact viewOf_eraseProgress client
        exact (viewOf_queueClientResponse other e).trans
          ((cleared _).trans ((recorded _).trans looked))
      · exact (viewOf_getTerminalRequest client _).trans ((recorded _).trans looked)
    · refine Eq.trans ?_ looked
      rw [hasOutcome_eq]
      rfl

/-- The response route finds the deadline of its request passed. -/
def Envelope.expires (e : Envelope) (s : RelayState) : Bool :=
  (getTerminalRequest e.pair s.wall s).1.isNone && !hasClientResponseForRequest e.pair s &&
    pendingStale e.pair s

theorem pendingStale_named (stale : pendingStale p s = true) : p.blank = false := by
  unfold pendingStale at stale
  cases named : p.blank with
  | true => simp [named] at stale
  | false => rfl

theorem viewOf_acceptResponse_iff {e : Envelope} (other : e.clientPublicKey ≠ c) :
    (acceptResponse env e s).1.viewOf c = s.viewOf c ↔
      (e.expires s = true → Spared c e.pair s) := by
  have client : e.pair.client ≠ c := other
  have looked := viewOf_getTerminalRequest (s := s) client s.wall
  have reads : hasClientResponseForRequest e.pair (getTerminalRequest e.pair s.wall s).2 =
        hasClientResponseForRequest e.pair s ∧
      pendingStale e.pair (getTerminalRequest e.pair s.wall s).2 = pendingStale e.pair s := by
    rw [getTerminalRequest_eq]
    exact ⟨rfl, rfl⟩
  unfold acceptResponse
  split
  · next blank =>
    have unstale : pendingStale e.pair s = false := by
      simp [pendingStale, Pair.blank, Envelope.pair, blank]
    simp [Envelope.expires, unstale]
  · split
    · next blank =>
      have unstale : pendingStale e.pair s = false := by
        simp [pendingStale, Pair.blank, Envelope.pair, blank]
      simp [Envelope.expires, unstale, viewOf_queueClientResponse other]
    · dsimp only
      split
      · next found => simp [Envelope.expires, found, looked]
      · next absent =>
        rw [reads.1]
        split
        · next responded => simp [Envelope.expires, responded, looked]
        · next unresponded =>
          have expired : (expirePendingRequestIfStale env e.pair
                (getTerminalRequest e.pair s.wall s).2).viewOf c = s.viewOf c ↔
              (e.expires s = true → Spared c e.pair s) := by
            have expires : e.expires s = pendingStale e.pair s := by
              simp [Envelope.expires, absent, unresponded]
            rw [expires]
            unfold expirePendingRequestIfStale
            rw [reads.2]
            split
            · next stale =>
              rw [← looked, viewOf_cancel_iff (pendingStale_named stale) client,
                spared_getTerminalRequest client]
              exact ⟨fun spared _ => spared, fun spared => spared stale⟩
            · next unstale => exact iff_of_true looked fun stale => absurd stale unstale
          split
          · rw [viewOf_getTerminalRequest client]
            exact expired
          · rw [viewOf_completeRequest other, viewOf_getTerminalRequest client]
            exact expired

theorem viewOf_popClientProgress (other : p.client ≠ c) :
    (popClientProgress p s).2.viewOf c = s.viewOf c := by
  unfold popClientProgress
  split
  · rfl
  · exact viewOf_eraseProgress other

theorem viewOf_retrievePending_iff (other : p.client ≠ c) :
    (retrievePending env p s).1.viewOf c = s.viewOf c ↔
      (p ∈ s.pendingRequestIds → pendingStale p s = true → Spared c p s) := by
  unfold retrievePending isRequestPending
  cases named : p.blank with
  | true => simp [pendingStale, named]
  | false =>
    rw [if_neg (by simp)]
    cases found : s.pendingRequestIds.get? p with
    | none => simp [OrderedDict.not_mem_iff.mpr found]
    | some entry =>
      have member : p ∈ s.pendingRequestIds := OrderedDict.mem_of_get? found
      have stale_eq : pendingStale p s =
          (pendingRequestEntryIsExpired entry s || pendingDeadlinePassed p s) := by
        simp [pendingStale, named, found]
      dsimp only
      rw [← stale_eq]
      cases stale : pendingStale p s with
      | true =>
        simp only [if_pos, expirePendingRequestIfStale, stale, viewOf_cancel_iff named other]
        exact ⟨fun spared _ _ => spared, fun spared => spared member trivial⟩
      | false => simp [viewOf_popClientProgress other]

/-! ## Actions -/

/-- The client that an action is performed for. The node's routes act for the
client of the envelope at the head of the queue or the one that they hold. -/
def Task.client (s : RelayState) : Task → Option String
  | .pollPop key _ => (s.queueOf key).head?.map fun e => e.clientPublicKey
  | .pollFinish _ (some e) | .pollServerMissing _ (some e) => some e.clientPublicKey
  | .pollRecheck _ e | .pollInsert _ e _ => some e.clientPublicKey
  | .cancelRequest p _ _ => some p.client
  | .progress _ p _ _ | .progressAccept _ p _ _ _ => some p.client
  | .acceptResponse e => some e.clientPublicKey
  | .requests _ e => some e.clientPublicKey
  | .enqueue _ e => some e.clientPublicKey
  | .cancelPendingToken p _ _ _ | .cancelQueueToken p _ _ _ | .cancelInFlightToken p _ _ _
  | .requesterCancel p _ _ _ => some p.client
  | .retrieve p | .retrieveTerminal p _ | .retrieveDropResponses p _ | .retrievePop p
  | .retrievePendingEntry p | .retrievePendingDeadline p | .retrieveRecheck p
  | .retrieveTerminalAgain p _ | .retrievePending p | .retrieveLast p
  | .retrieveTerminalLast p _ => some p.client
  | _ => none

/-- The request that an action ends: always for a cancellation, and for a response
or a retrieval when it finds the deadline of a pending request passed. -/
def Task.ends (s : RelayState) : Task → Option Pair
  | .cancelRequest p _ _ | .requesterCancel p _ _ _ => if p.blank = false then some p else none
  | .acceptResponse e => if e.expires s then some e.pair else none
  | .retrievePending p =>
    if p ∈ s.pendingRequestIds ∧ pendingStale p s = true then some p else none
  | _ => none

/-- The action takes nothing from the client: it stores no in-flight entry over
one of the client, and a request that it ends spares the client. -/
def Task.Spares (c : String) (s : RelayState) (t : Task) : Prop :=
  (∀ key claimed remaining payload entry, t = .pollInsert key claimed remaining →
    s.knownServers.get? key = some payload →
    payload.inFlightRequests.get? claimed.requestId = some entry → entry.clientPublicKey ≠ c) ∧
  ∀ p, t.ends s = some p → Spared c p s

/-- The action stores an in-flight entry. -/
def Task.inserts : Task → Bool
  | .pollInsert .. => true
  | _ => false

/-- Where no in-flight entry is stored, only the end of a request matters. -/
theorem spares_iff_of_ends {t : Task} {G : Prop} [Decidable G] {q : Pair}
    (plain : t.inserts = false) (ends : t.ends s = if G then some q else none) :
    t.Spares c s ↔ (G → Spared c q s) := by
  constructor
  · intro spares holds
    exact spares.2 q (by rw [ends, if_pos holds])
  · intro spared
    refine ⟨fun key claimed remaining _ _ same => ?_, fun p ended => ?_⟩
    · rw [same] at plain
      cases plain
    · rw [ends, Option.ite_none_right_eq_some] at ended
      cases ended.2
      exact spared ended.1

theorem spares_of_plain {t : Task} (plain : t.inserts = false) (ends : t.ends s = none) :
    t.Spares c s :=
  (spares_iff_of_ends (G := False) (q := ⟨"", ""⟩) plain (by simp [ends])).mpr False.elim

theorem viewOf_ending_iff {t : Task} (other : p.client ≠ c) (plain : t.inserts = false)
    (ends : t.ends s = if p.blank = false then some p else none) :
    (cancelApiV1Request env p status reason s).2.viewOf c = s.viewOf c ↔ t.Spares c s := by
  rw [spares_iff_of_ends plain ends]
  cases named : p.blank with
  | true =>
    refine iff_of_true ?_ (by simp)
    unfold cancelApiV1Request
    rw [if_pos named]
  | false =>
    rw [viewOf_cancel_iff named other]
    exact ⟨fun spared _ => spared, fun spared => spared rfl⟩

theorem exec_viewOf_iff {t : Task} {d : String} (performed : t.client s = some d)
    (other : d ≠ c) : (exec env t s).1.viewOf c = s.viewOf c ↔ t.Spares c s := by
  cases t with
  | pollPop key deadline =>
    refine iff_of_true ?_ (spares_of_plain rfl rfl)
    simp only [exec, pollPop]
    split
    · split <;> rfl
    · next e rest queue =>
      have client : e.clientPublicKey = d := by simpa [Task.client, queue] using performed
      split <;> exact viewOf_storeQueue queue (client ▸ other)
  | pollFinish key claimed =>
    refine iff_of_true ?_ (spares_of_plain rfl rfl)
    simp only [exec, pollFinish]
    split
    · rfl
    · next payload known => split <;> exact viewOf_setServer known fun _ => rfl
  | pollRecheck key claimed =>
    refine iff_of_true ?_ (spares_of_plain rfl rfl)
    simp only [exec, pollRecheck]
    split
    · rfl
    · split <;> rfl
  | pollInsert key claimed remaining =>
    cases performed
    simp only [exec, pollInsert]
    split
    · next missing =>
      refine iff_of_true rfl ⟨?_, fun p ended => by cases ended⟩
      rintro key claimed remaining payload entry ⟨⟩ known
      rw [missing] at known
      cases known
    · next payload known =>
      rw [viewOf_insert_iff known (by exact other)]
      constructor
      · refine fun free => ⟨?_, fun p ended => by cases ended⟩
        rintro key claimed remaining payload' entry ⟨⟩ known' found
        cases known.symm.trans known'
        exact free entry found
      · exact fun spares old found => spares.1 key claimed remaining payload old rfl known found
  | pollServerMissing key claimed =>
    refine iff_of_true ?_ (spares_of_plain rfl rfl)
    simp only [exec, pollServerMissing]
    split <;> rfl
  | cancelRequest p status reason | requesterCancel p token status reason =>
    cases performed
    exact viewOf_ending_iff other rfl rfl
  | acceptResponse e =>
    cases performed
    rw [spares_iff_of_ends (G := e.expires s = true) rfl rfl]
    exact viewOf_acceptResponse_iff other
  | retrievePending p =>
    cases performed
    rw [spares_iff_of_ends (G := p ∈ s.pendingRequestIds ∧ pendingStale p s = true) rfl rfl,
      and_imp]
    exact viewOf_retrievePending_iff other
  | progressAccept key p credential envelope now =>
    cases performed
    refine iff_of_true ?_ (spares_of_plain rfl rfl)
    simp only [exec, progressAccept]
    split
    · rfl
    · split
      · rfl
      · split
        · rfl
        · split
          · rfl
          · exact viewOf_setProgress other envelope
  | requests key e =>
    refine iff_of_true ?_ (spares_of_plain rfl rfl)
    simp only [exec, requests]
    split <;> rfl
  | enqueue key e =>
    cases performed
    refine iff_of_true ?_ (spares_of_plain rfl rfl)
    simp only [exec, enqueue]
    split
    · refine (viewOf_enqueue other key).trans ?_
      unfold markRequestPending
      split
      · rfl
      · exact viewOf_setPending (p := e.pair) other _ _
    · rfl
  | cancelPendingToken p token status reason =>
    refine iff_of_true ?_ (spares_of_plain rfl rfl)
    simp only [exec, cancelPendingToken]
    split
    · rfl
    · split <;> rfl
  | cancelQueueToken p token status reason =>
    refine iff_of_true ?_ (spares_of_plain rfl rfl)
    simp only [exec, cancelQueueToken]
    split <;> rfl
  | retrieveTerminal p now =>
    cases performed
    refine iff_of_true ?_ (spares_of_plain rfl rfl)
    have looked := viewOf_getTerminalRequest (s := s) other now
    simp only [exec, retrieveTerminal]
    split <;> next found => rw [found] at looked; exact looked
  | retrieveDropResponses p r =>
    cases performed
    exact iff_of_true (viewOf_removeClientResponses other) (spares_of_plain rfl rfl)
  | retrievePop p =>
    cases performed
    refine iff_of_true ?_ (spares_of_plain rfl rfl)
    have popped := viewOf_popClientResponse (s := s) other
    simp only [exec, retrievePop]
    split <;> next found => rw [found] at popped; exact popped
  | retrievePendingEntry p =>
    refine iff_of_true ?_ (spares_of_plain rfl rfl)
    simp only [exec, retrievePendingEntry]
    split
    · rfl
    · split
      · split <;> rfl
      · rfl
  | retrievePendingDeadline p =>
    refine iff_of_true ?_ (spares_of_plain rfl rfl)
    simp only [exec, retrievePendingDeadline]
    split <;> rfl
  | retrieveTerminalAgain p now =>
    cases performed
    refine iff_of_true ?_ (spares_of_plain rfl rfl)
    have looked := viewOf_getTerminalRequest (s := s) other now
    simp only [exec, retrieveTerminalAgain]
    split <;> next found => rw [found] at looked; exact looked
  | retrieveTerminalLast p now =>
    cases performed
    refine iff_of_true ?_ (spares_of_plain rfl rfl)
    have looked := viewOf_getTerminalRequest (s := s) other now
    simp only [exec, retrieveTerminalLast]
    split
    · next found => rw [found] at looked; exact looked
    · next found =>
      rw [found] at looked
      split <;> exact looked
  | progress | cancelInFlightToken | retrieve | retrieveRecheck | retrieveLast =>
    exact iff_of_true rfl (spares_of_plain rfl rfl)
  | _ => cases performed

/-- An action that is performed for one client leaves everything that belongs to
another client as it was exactly when it stores no in-flight entry over one of
that client and, if it ends a request, replaces no tombstone of that client and
finds none of its records and tombstones expired. -/
theorem client_isolation (s : RelaySystem) (ev : RelayEvent) (t : Task)
    (running : fired ev s = some t) (c d : String) (performed : t.client s.shared = some d)
    (other : d ≠ c) :
    ((relay env).step ev s).shared.viewOf c = s.shared.viewOf c ↔ t.Spares c s.shared := by
  rw [(relay env).shared_of_fired running]
  exact exec_viewOf_iff performed other

/-- Two clients have a request queued at one node. The first is dispatched, and the
poll of the second is about to store its in-flight entry. -/
def pollingSample (requestId : String) : RelaySystem :=
  sampleRun (sampleNodes ++
    serve 2 (.requests "node-a" (sampleEnvelope "alice" "request" "token")) ++
    serve 3 (.requests "node-a" (sampleEnvelope "bob" requestId "token")) ++
    serve 4 (.poll "node-a") ++ .spawn (.poll "node-a") :: List.replicate 17 (.run 5))

theorem client_isolation_dispatched :
    ((relay sampleEnv).step (.run 5) (pollingSample "other")).shared.viewOf "alice" =
      (pollingSample "other").shared.viewOf "alice" := by
  have running : fired (.run 5 : RelayEvent) (pollingSample "other") =
      some (.pollInsert "node-a" ⟨sampleEnvelope "bob" "other" "token", 60⟩ 60) := by
    decide +kernel
  have free : ((pollingSample "other").shared.knownServers.get? "node-a").bind
      (fun payload => payload.inFlightRequests.get? "other") = none := by decide +kernel
  refine (client_isolation _ _ _ running "alice" "bob" rfl (by decide)).mpr ⟨?_, nofun⟩
  intro key claimed remaining payload entry same known found
  cases same
  rw [known, Option.bind_some] at free
  exact absurd (found.symm.trans free) (by simp)

/-- The second client has chosen the same request id: the entry of the first is
gone, and the node can no longer report progress for it. -/
theorem in_flight_entry_taken :
    fired (.run 5 : RelayEvent) (pollingSample "request") =
      some (.pollInsert "node-a" ⟨sampleEnvelope "bob" "request" "token", 60⟩ 60) ∧
    (((pollingSample "request").shared.viewOf "alice").inFlight "node-a" "request").isSome ∧
    (((relay sampleEnv).step (.run 5) (pollingSample "request")).shared.viewOf "alice").inFlight
      "node-a" "request" = none ∧
    (relay sampleEnv).replied (.run 6)
      ((relay sampleEnv).runs
        [.spawn (.progress "node-a" ⟨"alice", "request"⟩ "credential-a" ⟨"", "", ""⟩), .run 6]
        (pollingSample "request")) = some .progressAccepted ∧
    (relay sampleEnv).replied (.run 6)
      ((relay sampleEnv).runs
        [.run 5, .spawn (.progress "node-a" ⟨"alice", "request"⟩ "credential-a" ⟨"", "", ""⟩),
          .run 6]
        (pollingSample "request")) =
      some (.error 410 "Progress request is not active for this owner") := by
  refine ⟨?_, ?_, ?_, ?_, ?_⟩ <;> decide +kernel

end Relay
