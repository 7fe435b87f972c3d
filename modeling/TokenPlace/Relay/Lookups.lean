import TokenPlace.Relay.Effects

/-!
# What a lookup sees after a write

The mailboxes as lists of envelopes, the terminal records, the outcomes and the
queues, after each function that writes them.
-/

namespace Relay

variable {env : RelayEnv} {s : RelayState} {p : Pair} {status : TerminalStatus}
  {reason : TerminalReason}

theorem Pair.blank_eq_false : p.blank = false ↔ p.client ≠ "" ∧ p.requestId ≠ "" := by
  simp [Pair.blank]

variable {now : ℚ} {e : Envelope} {client : String} {q : Pair}

theorem unkeyed_of_blank (client : e.clientPublicKey ≠ "")
    (blank : e.pair.blank = true) : e.requestId = "" := by
  by_contra keyed
  rw [Pair.blank_eq_false.mpr ⟨client, keyed⟩] at blank
  cases blank

/-! ## Mailboxes -/

theorem responsesOf_of_eq {s' : RelayState} (h : s'.responses = s.responses) (client : String) :
    s'.responsesOf client = s.responsesOf client := by
  unfold RelayState.responsesOf
  rw [h]

theorem responsesOf_storeMailbox (client : String) (kept : List Envelope) (c : String) :
    (storeMailbox client kept s).responsesOf c = if c = client then kept else s.responsesOf c := by
  unfold storeMailbox RelayState.responsesOf
  split
  · by_cases hc : c = client <;> simp [hc]
  · by_cases hc : c = client <;> simp [hc, Mailbox.toList]
  · by_cases hc : c = client <;> simp [hc, Mailbox.toList]

theorem responsesOf_queue (client : String) (e : Envelope) (c : String) :
    (queueClientResponse client e s).responsesOf c =
      if c = client then s.responsesOf client ++ [e] else s.responsesOf c := by
  unfold queueClientResponse
  split <;> by_cases hc : c = client <;> simp [RelayState.responsesOf, Mailbox.toList, *]

theorem hasClientResponse_iff :
    hasClientResponseForRequest p s = true ↔
      p.blank = false ∧ ∃ e ∈ s.responsesOf p.client, e.requestId = p.requestId := by
  unfold hasClientResponseForRequest RelayState.responsesOf
  cases s.responses.get? p.client with
  | none => simp
  | some mailbox => cases mailbox <;> simp [Mailbox.toList]

theorem mem_removeClientResponses
    (h : e ∈ (removeClientResponsesForRequest p s).responsesOf client) :
    e ∈ s.responsesOf client := by
  unfold removeClientResponsesForRequest at h
  split at h
  · exact h
  · split at h
    · exact h
    · next l stored =>
      rw [responsesOf_storeMailbox] at h
      split at h
      · next same =>
        subst same
        simpa [RelayState.responsesOf, stored, Mailbox.toList] using List.mem_of_mem_filter h
      · exact h
    · split at h
      · by_cases hc : client = p.client
        · simp [RelayState.responsesOf, hc] at h
        · simpa [RelayState.responsesOf, hc] using h
      · exact h

theorem clearPendingRequest_responses : (clearPendingRequest p s).2.responses = s.responses := by
  rw [clearPendingRequest_eq]

theorem mem_popClientResponse
    (h : e ∈ (popClientResponse p s).2.responsesOf client) : e ∈ s.responsesOf client := by
  unfold popClientResponse at h
  split at h
  · exact h
  · next l stored =>
    split at h
    · exact h
    · dsimp only at h
      rw [responsesOf_of_eq clearPendingRequest_responses, responsesOf_storeMailbox] at h
      split at h
      · next same =>
        subst same
        simpa [RelayState.responsesOf, stored, Mailbox.toList] using List.mem_of_mem_eraseP h
      · exact h
  · split at h
    · exact h
    · rw [responsesOf_of_eq clearPendingRequest_responses] at h
      by_cases hc : client = p.client
      · simp [RelayState.responsesOf, hc] at h
      · simpa [RelayState.responsesOf, hc] using h

/-! ## Terminal records -/

theorem get?_getTerminalRequest (q : Pair) :
    (getTerminalRequest p now s).2.terminalRequestIds.get? q =
      if q = p ∧ (getTerminalRequest p now s).1 = none ∧ p.blank = false then none
      else s.terminalRequestIds.get? q := by
  unfold getTerminalRequest
  split
  · next blank => simp [blank]
  · next named =>
    split
    · next absent =>
      split
      · next same => rw [same.1, absent]
      · rfl
    · split
      · by_cases hq : q = p <;> simp [hq, named]
      · simp

theorem mem_getTerminalRequest
    (h : q ∈ (getTerminalRequest p now s).2.terminalRequestIds) : q ∈ s.terminalRequestIds := by
  rw [OrderedDict.mem_def, get?_getTerminalRequest] at h
  split at h
  · obtain ⟨r, impossible⟩ := h
    cases impossible
  · exact OrderedDict.mem_def.mpr h

theorem not_mem_of_getTerminalRequest (named : p.blank = false)
    (h : (getTerminalRequest p now s).1 = none) :
    p ∉ (getTerminalRequest p now s).2.terminalRequestIds := by
  rw [OrderedDict.not_mem_iff, get?_getTerminalRequest, if_pos ⟨rfl, h, named⟩]

theorem getTerminalRequest_of_live {r : TerminalRecord} (named : p.blank = false)
    (found : s.terminalRequestIds.get? p = some r) (live : now < r.expiresAt) :
    getTerminalRequest p now s = (some r, s) := by
  simp [getTerminalRequest, named, found, live]

theorem mem_pruneTerminalRecords
    (h : q ∈ (pruneTerminalRecords now s).terminalRequestIds) : q ∈ s.terminalRequestIds := by
  rw [OrderedDict.mem_def] at h ⊢
  obtain ⟨r, kept⟩ := h
  rw [pruneTerminalRecords, OrderedDict.get?_filter, Option.filter_eq_some_iff] at kept
  exact ⟨r, kept.1⟩

theorem mem_markRequestTerminal
    (h : q ∈ (markRequestTerminal env p status reason s).terminalRequestIds) :
    q ∈ s.terminalRequestIds ∨ q = p ∧ p.blank = false := by
  unfold markRequestTerminal at h
  split at h
  · exact Or.inl h
  · next named =>
    dsimp only at h
    split at h
    · exact Or.inl (mem_pruneTerminalRecords h)
    · rw [recordOutcome_eq] at h
      rcases OrderedDict.mem_set.mp h with same | old
      · exact Or.inr ⟨same, Bool.eq_false_iff.mpr named⟩
      · exact Or.inl (mem_pruneTerminalRecords old)

end Relay
