import TokenPlace.Relay.Routes

/-!
# Which tables a function writes

A function that leaves a table alone is said to do so once: its result is the
state it started from with only the tables that it writes replaced. The
projections of such an equation are the frame conditions. `withdraw` is
`cancelApiV1Request` up to the point where it decides whether to write a terminal
record, and `cancelApiV1Request_eq` is that decision.
-/

namespace Relay

variable {env : RelayEnv} {s : RelayState} {p : Pair} {status : TerminalStatus}
  {reason : TerminalReason}

theorem clearClientProgress_eq :
    clearClientProgress p s = { s with progress := (clearClientProgress p s).progress } := by
  unfold clearClientProgress
  split <;> rfl

theorem clearPendingRequest_eq :
    (clearPendingRequest p s).2 =
      { s with
        pendingRequestIds := (clearPendingRequest p s).2.pendingRequestIds
        pendingRequestDeadlines := (clearPendingRequest p s).2.pendingRequestDeadlines } := by
  unfold clearPendingRequest
  split <;> rfl

theorem storeMailbox_eq {client : String} {kept : List Envelope} :
    storeMailbox client kept s = { s with responses := (storeMailbox client kept s).responses } := by
  unfold storeMailbox
  split <;> rfl

theorem queueClientResponse_eq {client : String} {e : Envelope} :
    queueClientResponse client e s =
      { s with responses := (queueClientResponse client e s).responses } := by
  unfold queueClientResponse
  split <;> rfl

theorem removeClientResponses_eq :
    removeClientResponsesForRequest p s =
      { s with responses := (removeClientResponsesForRequest p s).responses } := by
  unfold removeClientResponsesForRequest
  split
  · rfl
  · split
    · rfl
    · exact storeMailbox_eq
    · split <;> rfl

theorem popClientResponse_eq :
    (popClientResponse p s).2 =
      { s with
        responses := (popClientResponse p s).2.responses
        pendingRequestIds := (popClientResponse p s).2.pendingRequestIds
        pendingRequestDeadlines := (popClientResponse p s).2.pendingRequestDeadlines } := by
  unfold popClientResponse
  split
  · rfl
  · split
    · rfl
    · dsimp only
      rw [clearPendingRequest_eq, storeMailbox_eq]
  · split
    · rfl
    · dsimp only
      rw [clearPendingRequest_eq]

theorem getTerminalRequest_eq {now : ℚ} :
    (getTerminalRequest p now s).2 =
      { s with terminalRequestIds := (getTerminalRequest p now s).2.terminalRequestIds } := by
  unfold getTerminalRequest
  split
  · rfl
  · split
    · rfl
    · split <;> rfl

theorem recordOutcome_eq {outcome : OutcomeLabel} :
    (recordRequestTerminalOutcomeOnce env p outcome s).2 =
      { s with
        terminalOutcomes := (recordRequestTerminalOutcomeOnce env p outcome s).2.terminalOutcomes
        outcomeIncrements :=
          (recordRequestTerminalOutcomeOnce env p outcome s).2.outcomeIncrements } := by
  unfold recordRequestTerminalOutcomeOnce
  split
  · rfl
  · split <;> rfl

theorem hasOutcome_eq :
    (hasRequestTerminalOutcome p s).2 =
      { s with terminalOutcomes := (hasRequestTerminalOutcome p s).2.terminalOutcomes } := by
  unfold hasRequestTerminalOutcome
  split
  · rfl
  · split
    · rfl
    · split <;> rfl

theorem markRequestTerminal_eq :
    markRequestTerminal env p status reason s =
      { s with
        terminalRequestIds := (markRequestTerminal env p status reason s).terminalRequestIds
        terminalOutcomes := (markRequestTerminal env p status reason s).terminalOutcomes
        outcomeIncrements := (markRequestTerminal env p status reason s).outcomeIncrements } := by
  unfold markRequestTerminal
  split
  · rfl
  · dsimp only
    split
    · rfl
    · rw [recordOutcome_eq]
      rfl

theorem addControlTombstone_eq {key : String} {deadline : ℚ} {digest : Option String} :
    addControlTombstone env key p status reason deadline digest s =
      { s with
        controlTombstones :=
          (addControlTombstone env key p status reason deadline digest s).controlTombstones } := by
  unfold addControlTombstone
  split <;> rfl

theorem releaseFirst_eq :
    (releaseFirst p s).2 = { s with knownServers := (releaseFirst p s).2.knownServers } := by
  unfold releaseFirst
  split <;> rfl

theorem popClientProgress_eq :
    (popClientProgress p s).2 = { s with progress := (popClientProgress p s).2.progress } := by
  unfold popClientProgress
  split <;> rfl

theorem markRequestPending_eq {token : String} {deadline : ℚ} :
    markRequestPending p token deadline s =
      { s with
        pendingRequestIds := (markRequestPending p token deadline s).pendingRequestIds
        pendingRequestDeadlines :=
          (markRequestPending p token deadline s).pendingRequestDeadlines } := by
  unfold markRequestPending
  split <;> rfl

/-! ## The terminal transition -/

/-- The tombstones that the terminal transition writes, one for each server. -/
def tombstonesFor (env : RelayEnv) (p : Pair) (status : TerminalStatus) (reason : TerminalReason)
    (holders : List (String × ServerPayload)) (s : RelayState) : RelayState :=
  holders.foldl (fun s e =>
    addControlTombstone env e.1 p status reason (e.2.inFlightDeadline p) none s) s

theorem tombstonesFor_cons {e : String × ServerPayload} {rest : List (String × ServerPayload)} :
    tombstonesFor env p status reason (e :: rest) s =
      tombstonesFor env p status reason rest
        (addControlTombstone env e.1 p status reason (e.2.inFlightDeadline p) none s) := rfl

theorem tombstonesFor_eq {holders : List (String × ServerPayload)} :
    tombstonesFor env p status reason holders s =
      { s with
        controlTombstones := (tombstonesFor env p status reason holders s).controlTombstones } := by
  induction holders generalizing s with
  | nil => rfl
  | cons e rest ih =>
    rw [tombstonesFor_cons, ih, addControlTombstone_eq]

/-- The request has a copy in a queue, a pending marker or an in-flight entry. -/
def RelayState.engaged (s : RelayState) (p : Pair) : Bool :=
  (removeRequestFromServerQueues p s).1 ≠ 0 || p ∈ s.pendingRequestIds || s.holders p ≠ []

/-- Every copy of the request removed, and a tombstone for each server that had it
in flight unless a response is queued. -/
def withdraw (env : RelayEnv) (p : Pair) (status : TerminalStatus) (reason : TerminalReason)
    (s : RelayState) : RelayState :=
  let s' := { s with
    progress := s.progress.erase p
    inferenceRequests := (removeRequestFromServerQueues p s).2.inferenceRequests
    pendingRequestIds := s.pendingRequestIds.erase p
    pendingRequestDeadlines := s.pendingRequestDeadlines.erase p
    knownServers := s.knownServers.mapValues fun _ payload => payload.release p }
  if hasClientResponseForRequest p s then s'
  else tombstonesFor env p status reason (s.holders p) s'

theorem withdraw_eq :
    withdraw env p status reason s =
      { s with
        progress := s.progress.erase p
        inferenceRequests := (removeRequestFromServerQueues p s).2.inferenceRequests
        pendingRequestIds := s.pendingRequestIds.erase p
        pendingRequestDeadlines := s.pendingRequestDeadlines.erase p
        knownServers := s.knownServers.mapValues fun _ payload => payload.release p
        controlTombstones := (withdraw env p status reason s).controlTombstones } := by
  unfold withdraw
  dsimp only
  split
  · rfl
  · exact tombstonesFor_eq

theorem cancelApiV1Request_eq (named : p.blank = false) :
    (cancelApiV1Request env p status reason s).2 =
      if s.engaged p ∧ hasClientResponseForRequest p s = false then
        markRequestTerminal env p status reason (withdraw env p status reason s)
      else withdraw env p status reason s := by
  have progress : clearClientProgress p s = { s with progress := s.progress.erase p } := by
    simp [clearClientProgress, named]
  have pending (s : RelayState) : clearPendingRequest p s =
      (decide (p ∈ s.pendingRequestIds),
        { s with
          pendingRequestIds := s.pendingRequestIds.erase p
          pendingRequestDeadlines := s.pendingRequestDeadlines.erase p }) := by
    simp [clearPendingRequest, named]
  unfold cancelApiV1Request
  rw [if_neg (by simp [named])]
  simp only [progress, pending]
  refine if_congr ?_ rfl rfl
  simp only [RelayState.engaged, Bool.or_eq_true, decide_eq_true_eq, Bool.not_eq_true, or_assoc]
  exact Iff.rfl

theorem cancelApiV1Request_frame :
    (cancelApiV1Request env p status reason s).2 =
      { (cancelApiV1Request env p status reason s).2 with
        wall := s.wall
        monotonic := s.monotonic
        orphans := s.orphans
        nextSerial := s.nextSerial
        responses := s.responses
        recentlyUnregisteredServers := s.recentlyUnregisteredServers } := by
  cases named : p.blank with
  | true =>
    unfold cancelApiV1Request
    rw [if_pos named]
  | false =>
    rw [cancelApiV1Request_eq named]
    split
    · rw [markRequestTerminal_eq, withdraw_eq]
    · rw [withdraw_eq]

theorem cancelApiV1Request_wall :
    (cancelApiV1Request env p status reason s).2.wall = s.wall := by
  rw [cancelApiV1Request_frame]

theorem cancelApiV1Request_responses :
    (cancelApiV1Request env p status reason s).2.responses = s.responses := by
  rw [cancelApiV1Request_frame]

end Relay
