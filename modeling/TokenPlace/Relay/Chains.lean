import TokenPlace.Relay.Lookups

/-!
# Regions as chains of writes

The two long regions, the removal of a server and the acceptance of a response,
make their writes one after another. What is reflexive, transitive and holds
across every write holds across the region, up to the write that stores the
response.
-/

namespace Relay

open Interleaving

variable {env : RelayEnv} {s : RelayState} {R : RelayState → RelayState → Prop} (refl : ∀ s, R s s)
  (trans : ∀ {s₁ s₂ s₃}, R s₁ s₂ → R s₂ s₃ → R s₁ s₃)

include refl trans in
theorem foldl_chain {α : Type} {f : RelayState → α → RelayState} (l : List α)
    (each : ∀ a ∈ l, ∀ s, R s (f s a)) (s : RelayState) : R s (l.foldl f s) := by
  induction l generalizing s with
  | nil => exact refl s
  | cons a rest ih =>
    exact trans (each a List.mem_cons_self s)
      (ih (fun b hb => each b (List.mem_cons_of_mem a hb)) (f s a))

include refl trans in
theorem tornDown_chain {key : String} {payload : ServerPayload}
    (removed : R s (removeKnownServer key payload s))
    (dropped : ∀ e ∈ s.queueOf key, ∀ s, R s (cancelDropped env e s))
    (ended : ∀ e ∈ payload.inFlightRequests.entries, ∀ s,
      R s (cancelInFlight env key payload.controlCredentialDigest e s)) :
    R s (tornDown env key payload s) :=
  trans removed (trans (foldl_chain refl trans _ dropped _) (foldl_chain refl trans _ ended _))

/-- What `completeRequest` does before it looks for a terminal record. -/
def lifted (p : Pair) (s : RelayState) : RelayState :=
  (clearPendingRequest p (removeRequestFromServerQueues p (releaseFirst p s).2).2).2

theorem lifted_eq (p : Pair) (s : RelayState) :
    lifted p s =
      { s with
        knownServers := (lifted p s).knownServers
        inferenceRequests := (lifted p s).inferenceRequests
        pendingRequestIds := (lifted p s).pendingRequestIds
        pendingRequestDeadlines := (lifted p s).pendingRequestDeadlines } := by
  unfold lifted
  rw [clearPendingRequest_eq, removeRequestFromServerQueues, releaseFirst_eq]

/-- The response was stored: the state is the one before with the response queued. -/
def Stores (e : Envelope) (s₁ : RelayState) (result : RelayState × Next Task Reply) : Prop :=
  e.pair ∉ s₁.terminalRequestIds ∧
    result = (queueClientResponse e.clientPublicKey e s₁, .answer .responseQueued)

include trans in
theorem completeRequest_chain {e : Envelope} (named : e.pair.blank = false)
    (lifts : ∀ s, R s (lifted e.pair s))
    (looksUp : ∀ s, R s (getTerminalRequest e.pair s.wall s).2)
    (records : ∀ s, R s (recordRequestTerminalOutcomeOnce env e.pair .completed s).2)
    (reads : ∀ s, R s (hasRequestTerminalOutcome e.pair s).2)
    (clears : ∀ s, R s (clearClientProgress e.pair s)) :
    R s (completeRequest env e s).1 ∧ (completeRequest env e s).2.reply ≠ some .responseQueued ∨
      ∃ s₁, R s s₁ ∧ Stores e s₁ (completeRequest env e s) := by
  unfold completeRequest
  dsimp only
  have found := trans (lifts s) (looksUp (lifted e.pair s))
  split
  · exact Or.inl ⟨found, by simp [responseRefused]⟩
  · next absent =>
    split
    · split
      · -- the record is written under the terminal lookup that found nothing
        refine Or.inr ⟨_, trans found (trans (records _) (clears _)), ?_, rfl⟩
        rw [clearClientProgress_eq, recordOutcome_eq]
        exact not_mem_of_getTerminalRequest named absent
      · exact Or.inl ⟨trans found (trans (records _) (looksUp _)), by simp [responseRefused]⟩
    · exact Or.inl ⟨trans found (reads _), by simp [responseRefused]⟩

include trans in
theorem acceptResponse_chain (env : RelayEnv) {e : Envelope} (named : e.pair.blank = false)
    (lifts : ∀ s, R s (lifted e.pair s))
    (looksUp : ∀ s, R s (getTerminalRequest e.pair s.wall s).2)
    (expires : ∀ s, R s (expirePendingRequestIfStale env e.pair s))
    (records : ∀ s, R s (recordRequestTerminalOutcomeOnce env e.pair .completed s).2)
    (reads : ∀ s, R s (hasRequestTerminalOutcome e.pair s).2)
    (clears : ∀ s, R s (clearClientProgress e.pair s)) :
    R s (acceptResponse env e s).1 ∧ (acceptResponse env e s).2.reply ≠ some .responseQueued ∨
      ∃ s₁, R s s₁ ∧ Stores e s₁ (acceptResponse env e s) := by
  obtain ⟨client, requestId⟩ : e.clientPublicKey ≠ "" ∧ e.requestId ≠ "" :=
    Pair.blank_eq_false.mp named
  unfold acceptResponse
  rw [if_neg client, if_neg requestId]
  dsimp only
  have first := looksUp s
  split
  · exact Or.inl ⟨first, by simp [responseRefused]⟩
  · split
    · exact Or.inl ⟨first, by simp⟩
    · have second := trans first (trans (expires _) (looksUp _))
      split
      · exact Or.inl ⟨second, by simp [responseRefused]⟩
      · rcases completeRequest_chain (R := R) trans named lifts looksUp records reads clears with
          ⟨refused, reply⟩ | ⟨s₁, reached, stored⟩
        · exact Or.inl ⟨trans second refused, reply⟩
        · exact Or.inr ⟨s₁, trans second reached, stored⟩

end Relay
