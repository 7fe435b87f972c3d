import TokenPlace.Relay.Frames

/-!
# What an action can do to the tables

`Effect` lists the changes that an action can make to the shared state, each
with the action that makes it where that matters, and `exec_effect` says that
there are no others. The invariants of the relay are proved change by change.
-/

namespace Relay

open Interleaving

variable {env : RelayEnv} {s : RelayState}

/-- `_unregister_server` once it has decided to remove the server. -/
def tornDown (env : RelayEnv) (key : String) (payload : ServerPayload) (s : RelayState) :
    RelayState :=
  payload.inFlightRequests.entries.foldl
    (fun s e => cancelInFlight env key payload.controlCredentialDigest e s)
    ((s.queueOf key).foldl (fun s e => cancelDropped env e s) (removeKnownServer key payload s))

/-- The state after one action. -/
inductive Effect (env : RelayEnv) (s : RelayState) : Task → RelayState → Prop
  | reads (t : Task) : Effect env s t s
  | pruneRecords (now : ℚ) : Effect env s (.pruneTerminalRecords now) (pruneTerminalRecords now s)
  | pruneOutcomes (now : ℚ) :
      Effect env s (.pruneTerminalOutcomes now) (pruneTerminalOutcomes now s)
  | pruneTombstones (now : ℚ) :
      Effect env s (.pruneControlTombstonesAt now) (pruneControlTombstones now s)
  | acknowledges (t : Task) (key : String) :
      Effect env s t { s with controlTombstones := s.controlTombstones.erase key }
  | looksUp (t : Task) (p : Pair) (now : ℚ) : Effect env s t (getTerminalRequest p now s).2
  | forgets (t : Task) (recent : OrderedDict String ℚ) :
      Effect env s t { s with recentlyUnregisteredServers := recent }
  | tears (t : Task) (key : String) (payload : ServerPayload)
      (known : s.knownServers.get? key = some payload) :
      Effect env s t (tornDown env key payload s)
  | cancels (t : Task) (p : Pair) (status : TerminalStatus) (reason : TerminalReason) :
      Effect env s t (cancelApiV1Request env p status reason s).2
  | expires (t : Task) (p : Pair) (status : TerminalStatus) (reason : TerminalReason) :
      Effect env s t
        (getTerminalRequest p s.wall (cancelApiV1Request env p status reason s).2).2
  | refreshes (t : Task) (key : String) (payload payload' : ServerPayload)
      (known : s.knownServers.get? key = some payload)
      (same : payload'.inFlightRequests = payload.inFlightRequests) :
      Effect env s t { s with knownServers := s.knownServers.set key payload' }
  | joins (t : Task) (key : String) (payload : ServerPayload) (absent : key ∉ s.knownServers)
      (idle : payload.inFlightRequests = .empty) :
      Effect env s t
        { s with knownServers := s.knownServers.set key payload, nextSerial := s.nextSerial + 1 }
  | renews (t : Task) (key requestId : String) (payload : ServerPayload) (entry : InFlightEntry)
      (expiresAt : ℚ) (known : s.knownServers.get? key = some payload)
      (found : payload.inFlightRequests.get? requestId = some entry) :
      Effect env s t
        { s with
          knownServers := s.knownServers.set key
            { payload with
              inFlightRequests :=
                payload.inFlightRequests.set requestId { entry with expiresAt } } }
  | pops (key : String) (deadline : ℚ) (e : QueuedEnvelope) (rest : List QueuedEnvelope)
      (queue : s.queueOf key = e :: rest) :
      Effect env s (.pollPop key deadline) (storeQueue key rest s)
  | inserts (key : String) (claimed : QueuedEnvelope) (remaining : ℚ) (payload : ServerPayload)
      (known : s.knownServers.get? key = some payload) :
      Effect env s (.pollInsert key claimed remaining)
        { s with
          knownServers := s.knownServers.set key
            { payload with
              inFlightRequests := payload.inFlightRequests.set claimed.requestId
                (inFlightEntryOf env claimed s) } }
  | accepts (e : Envelope) : Effect env s (.acceptResponse e) (acceptResponse env e s).1
  | enqueues (key : String) (e : QueuedEnvelope) (known : key ∈ s.knownServers) :
      Effect env s (.enqueue key e)
        { markRequestPending e.pair e.cancelToken e.requestDeadlineMonotonic s with
          inferenceRequests := s.inferenceRequests.set key (s.queueOf key ++ [e]) }
  | counts (t : Task) :
      Effect env s t { s with outcomeIncrements := s.outcomeIncrements ++ [(none, .rateLimited)] }
  | reports (t : Task) (p : Pair) (envelope : ProgressEnvelope) :
      Effect env s t { s with progress := s.progress.set p envelope }
  | takesProgress (t : Task) (p : Pair) : Effect env s t (popClientProgress p s).2
  | dropsResponses (t : Task) (p : Pair) : Effect env s t (removeClientResponsesForRequest p s)
  | takesResponse (t : Task) (p : Pair) : Effect env s t (popClientResponse p s).2

theorem unregisterServer_effect (t : Task) (key : String) (evicted : Option (Nat × ℚ))
    (credential : Option String) :
    Effect env s t (unregisterServer env key evicted credential s).2 := by
  unfold unregisterServer
  split
  · exact .reads t
  · next payload known =>
    split
    · exact .reads t
    · split
      · exact .reads t
      · exact .tears t key payload known

theorem expireStale_effect (t : Task) (p : Pair) :
    Effect env s t (expirePendingRequestIfStale env p s) := by
  unfold expirePendingRequestIfStale
  split
  · exact .cancels t p _ _
  · exact .reads t

theorem isRequestPending_cases {p : Pair} {isPending : Bool} {s₁ : RelayState}
    (h : isRequestPending env p s = (isPending, s₁)) :
    (s₁ = s ∨ s₁ = expirePendingRequestIfStale env p s) ∧ (isPending = true → s₁ = s) := by
  unfold isRequestPending at h
  split at h
  · cases h
    exact ⟨Or.inl rfl, fun _ => rfl⟩
  · split at h
    · cases h
      exact ⟨Or.inl rfl, fun _ => rfl⟩
    · split at h
      · cases h
        exact ⟨Or.inr rfl, fun impossible => by cases impossible⟩
      · cases h
        exact ⟨Or.inl rfl, fun _ => rfl⟩

theorem exec_effect (t : Task) : Effect env s t (exec env t s).1 := by
  cases t with
  | pruneTerminalRecords now => exact .pruneRecords now
  | pruneTerminalOutcomes now => exact .pruneOutcomes now
  | pruneControlTombstonesAt now => exact .pruneTombstones now
  | expirePending p =>
    simp only [exec, expirePending]
    split <;> exact .reads _
  | pruneInFlight serial now =>
    simp only [exec, pruneInFlight]
    split <;> exact .reads _
  | evictServer key serial cutoff => exact unregisterServer_effect _ key _ _
  | cancelRequest p status reason => exact .cancels _ p status reason
  | register key drawn =>
    simp only [exec, register]
    split
    · exact .reads _
    · split
      · next payload known => exact .refreshes _ key payload _ known rfl
      · next absent => exact .joins _ key _ (OrderedDict.not_mem_iff.mpr absent) rfl
  | unregister key credential =>
    have effect : Effect env s (.unregister key credential)
        (unregisterServer env key none (some credential) s).2 := unregisterServer_effect _ key _ _
    simp only [exec, unregister]
    split <;> next removed => rw [removed] at effect; exact effect
  | pollHeartbeat key =>
    simp only [exec, pollHeartbeat]
    split
    · exact .reads _
    · next payload known => exact .refreshes _ key payload _ known rfl
  | pollCheck key deadline =>
    simp only [exec, pollCheck]
    split <;> exact .reads _
  | pollPop key deadline =>
    simp only [exec, pollPop]
    split
    · split <;> exact .reads _
    · next e rest queue => split <;> exact .pops key deadline e rest queue
  | pollFinish key claimed =>
    simp only [exec, pollFinish]
    split
    · exact .reads _
    · next payload known => split <;> exact .refreshes _ key payload _ known rfl
  | pollRecheck key claimed =>
    simp only [exec, pollRecheck]
    split
    · exact .reads _
    · split <;> exact .reads _
  | pollInsert key claimed remaining =>
    simp only [exec, pollInsert]
    split
    · exact .reads _
    · next payload known => exact .inserts key claimed remaining payload known
  | pollServerMissing key claimed =>
    simp only [exec, pollServerMissing]
    split
    · exact .reads _
    · exact .forgets _ _
  | control key requestId credential acknowledge =>
    simp only [exec]
    split <;> exact .reads _
  | controlOwned key requestId credential acknowledge now =>
    simp only [exec, controlOwned]
    split
    · exact .reads _
    · next payload known =>
      split
      · exact .reads _
      · split
        · exact .reads _
        · next entry found =>
          split
          · exact .renews _ key requestId payload entry _ known found
          · split
            · exact .reads _
            · rw [cancelApiV1Request_wall]
              exact .expires _ _ _ _
  | controlTombstone key requestId credential acknowledge =>
    simp only [exec, controlTombstone]
    split
    · exact .reads _
    · split
      · exact .reads _
      · split
        · exact .reads _
        · split
          · exact .acknowledges _ _
          · exact .reads _
  | controlLive key credential =>
    simp only [exec, controlLive]
    split
    · exact .reads _
    · split <;> exact .reads _
  | progressAccept key p credential envelope now =>
    simp only [exec, progressAccept]
    split
    · exact .reads _
    · split
      · exact .reads _
      · split
        · exact .reads _
        · split
          · exact .reads _
          · exact .reports _ p envelope
  | acceptResponse e => exact .accepts e
  | requests key e =>
    simp only [exec, requests]
    split <;> exact .reads _
  | enqueue key e =>
    simp only [exec, enqueue]
    split
    · next known =>
      have effect : Effect env s (.enqueue key e) _ := .enqueues key e known
      rw [markRequestPending_eq] at effect ⊢
      exact effect
    · exact .reads _
  | rateLimited => exact .counts _
  | cancelPendingToken p token status reason =>
    simp only [exec, cancelPendingToken]
    split
    · exact .reads _
    · split <;> exact .reads _
  | cancelQueueToken p token status reason =>
    simp only [exec, cancelQueueToken]
    split <;> exact .reads _
  | requesterCancel p token status reason => exact .cancels _ p status reason
  | retrieveTerminal p now =>
    have effect : Effect env s (.retrieveTerminal p now) (getTerminalRequest p now s).2 :=
      .looksUp _ p now
    simp only [exec, retrieveTerminal]
    split <;> next found => rw [found] at effect; exact effect
  | retrieveDropResponses p r => exact .dropsResponses _ p
  | retrievePop p =>
    have effect : Effect env s (.retrievePop p) (popClientResponse p s).2 := .takesResponse _ p
    simp only [exec, retrievePop]
    split <;> next found => rw [found] at effect; exact effect
  | retrievePendingEntry p =>
    simp only [exec, retrievePendingEntry]
    split
    · exact .reads _
    · split
      · split <;> exact .reads _
      · exact .reads _
  | retrievePendingDeadline p =>
    simp only [exec, retrievePendingDeadline]
    split <;> exact .reads _
  | retrieveTerminalAgain p now =>
    have effect : Effect env s (.retrieveTerminalAgain p now) (getTerminalRequest p now s).2 :=
      .looksUp _ p now
    simp only [exec, retrieveTerminalAgain]
    split <;> next found => rw [found] at effect; exact effect
  | retrievePending p =>
    simp only [exec, retrievePending]
    cases pending : isRequestPending env p s with
    | mk isPending s₁ =>
      obtain ⟨after, reading⟩ := isRequestPending_cases pending
      cases isPending with
      | false =>
        rcases after with rfl | rfl
        · exact .reads _
        · exact expireStale_effect _ p
      | true =>
        cases reading rfl
        exact .takesProgress _ p
  | retrieveTerminalLast p now =>
    have effect : Effect env s (.retrieveTerminalLast p now) (getTerminalRequest p now s).2 :=
      .looksUp _ p now
    simp only [exec, retrieveTerminalLast]
    split
    · next found => rw [found] at effect; exact effect
    · next found =>
      rw [found] at effect
      split <;> exact effect
  | pruneTerminalRequests | expireStalePendingRequests | pruneControlTombstones
  | evictStaleServers | snapshotServers | collectStaleServers | pollDeadline | progress
  | cancelInFlightToken | retrieve | retrieveRecheck | retrieveLast => exact .reads _
  | respond parting => cases parting <;> exact .reads _

end Relay
