import TokenPlace.Lib.KeyedFifo
import TokenPlace.Relay.Lookups

/-!
# The response mailboxes are FIFO lists

A value of `client_responses` is one envelope or a list of envelopes, and three
functions switch between the two. `RelayState.Compact` says that a list always
has at least two envelopes. Read as lists, the mailboxes then do exactly what the
lists of `KeyedFifo` do, with the request id of an envelope as its group:

* `_queue_client_response` appends;
* `_pop_client_response` takes the first envelope of a request, or the first of all;
* `_remove_client_responses_for_request` discards the envelopes of a request, and
  does nothing when the client key or the request id is blank.
-/

namespace Relay

open KeyedFifo

variable {s : RelayState} {p : Pair} {client : String} {e : Envelope}

/-! ## Calls -/

/-- The number that `_remove_client_responses_for_request` returns. -/
def clientResponsesRemoved (p : Pair) (s : RelayState) : Nat :=
  if p.blank then 0
  else
    match s.responses.get? p.client with
    | none => 0
    | some (.many l) => l.countP fun e => e.requestId = p.requestId
    | some (.single e) => if e.requestId = p.requestId then 1 else 0

/-- A call that reads and writes the mailboxes. -/
inductive MailboxCall where
  | queue (client : String) (e : Envelope)
  | pop (p : Pair)
  | remove (p : Pair)
deriving DecidableEq

/-- What a call answers, and the state after it. -/
def MailboxCall.exec : MailboxCall → RelayState → Answer Envelope × RelayState
  | .queue client e, s => (.appended, queueClientResponse client e s)
  | .pop p, s => (.taken (popClientResponse p s).1, (popClientResponse p s).2)
  | .remove p, s => (.discarded (clientResponsesRemoved p s), removeClientResponsesForRequest p s)

/-- The answers to a sequence of calls, and the state after it. -/
def runMailboxCalls : List MailboxCall → RelayState → List (Answer Envelope) × RelayState
  | [], s => ([], s)
  | call :: calls, s =>
    let (answer, s) := call.exec s
    let (answers, s) := runMailboxCalls calls s
    (answer :: answers, s)

/-- What a call is to the lists. -/
def MailboxCall.op : MailboxCall → Op String Envelope String
  | .queue client e => .append client e
  | .pop p => .take p.client fun requestId => p.requestId = "" || requestId = p.requestId
  | .remove p => .discard p.client fun requestId => !p.blank && requestId = p.requestId

/-- What a call would be to the lists if a removal did not look for blank names. -/
def MailboxCall.opOfAnyName : MailboxCall → Op String Envelope String
  | .remove p => .discard p.client fun requestId => requestId = p.requestId
  | call => call.op

/-! ## The two representations -/

/-- One envelope is stored as itself, and only more than one as a list. -/
def Mailbox.Compact : Mailbox → Prop
  | .single _ => True
  | .many l => 2 ≤ l.length

/-- Every client has no mailbox or a compact one. -/
def RelayState.Compact (s : RelayState) : Prop :=
  ∀ client mailbox, s.responses.get? client = some mailbox → mailbox.Compact

theorem initial_compact (wall monotonic : ℚ) : (RelayState.initial wall monotonic).Compact := by
  intro client mailbox stored
  cases stored

theorem Compact.of_responses_eq {s' : RelayState} (h : s'.responses = s.responses)
    (compact : s.Compact) : s'.Compact := by
  unfold RelayState.Compact
  rw [h]
  exact compact

theorem RelayState.Compact.set {mailbox : Mailbox} (compact : s.Compact)
    (new : mailbox.Compact) :
    ({ s with responses := s.responses.set client mailbox } : RelayState).Compact := by
  intro c m stored
  rw [OrderedDict.get?_set] at stored
  split at stored
  · cases stored
    exact new
  · exact compact c m stored

theorem RelayState.Compact.erase (compact : s.Compact) :
    ({ s with responses := s.responses.erase client } : RelayState).Compact := by
  intro c m stored
  rw [OrderedDict.get?_erase] at stored
  split at stored
  · cases stored
  · exact compact c m stored

theorem RelayState.Compact.storeMailbox (compact : s.Compact) (kept : List Envelope) :
    (storeMailbox client kept s).Compact := by
  match kept with
  | [] => exact compact.erase
  | [_] => exact compact.set trivial
  | _ :: _ :: _ => exact compact.set (by simp [Mailbox.Compact])

/-! ## Each call -/

theorem responsesOf_erase :
    ({ s with responses := s.responses.erase client } : RelayState).responsesOf =
      Function.update s.responsesOf client [] := by
  funext c
  by_cases same : c = client
  · subst same
    simp [RelayState.responsesOf]
  · simp [RelayState.responsesOf, same]

theorem responsesOf_store (kept : List Envelope) :
    (storeMailbox client kept s).responsesOf = Function.update s.responsesOf client kept := by
  funext c
  rw [responsesOf_storeMailbox, Function.update_apply]

theorem responsesOf_of_none (absent : s.responses.get? client = none) :
    s.responsesOf client = [] := by
  simp [RelayState.responsesOf, absent]

theorem responsesOf_of_many {l : List Envelope}
    (stored : s.responses.get? client = some (.many l)) :
    s.responsesOf client = l := by
  simp [RelayState.responsesOf, stored, Mailbox.toList]

theorem responsesOf_of_single (stored : s.responses.get? client = some (.single e)) :
    s.responsesOf client = [e] := by
  simp [RelayState.responsesOf, stored, Mailbox.toList]

theorem update_responsesOf {l : List Envelope} (h : s.responsesOf client = l) :
    Function.update s.responsesOf client l = s.responsesOf := by
  rw [← h, Function.update_eq_self]

/-- Calls refine operations when they answer the same and leave the same lists,
stored compactly. -/
def Refines {A : Type} (result : A × RelayState) (spec : A × Lists String Envelope) : Prop :=
  result.2.Compact ∧ result.1 = spec.1 ∧ result.2.responsesOf = spec.2

theorem queue_refines (compact : s.Compact) :
    Refines ((MailboxCall.queue client e).exec s)
      (step Envelope.requestId (MailboxCall.queue client e).op s.responsesOf) := by
  refine ⟨?_, rfl, ?_⟩
  · dsimp only [MailboxCall.exec]
    unfold queueClientResponse
    split
    · exact compact.set trivial
    · next l stored =>
      have long : 2 ≤ l.length := compact _ _ stored
      refine compact.set ?_
      show 2 ≤ (l ++ [e]).length
      rw [List.length_append]
      omega
    · exact compact.set (Nat.le_refl 2)
  · funext c
    simp only [MailboxCall.exec, MailboxCall.op, step]
    rw [responsesOf_queue, Function.update_apply]

theorem remove_refines (compact : s.Compact) :
    Refines ((MailboxCall.remove p).exec s)
      (step Envelope.requestId (MailboxCall.remove p).op s.responsesOf) := by
  simp only [MailboxCall.exec, MailboxCall.op, step]
  unfold removeClientResponsesForRequest clientResponsesRemoved
  cases named : p.blank with
  | true =>
    refine ⟨compact, ?_, ?_⟩ <;> simp
  | false =>
    simp only [Bool.false_eq_true, if_false, Bool.not_false, Bool.true_and]
    cases stored : s.responses.get? p.client with
    | none =>
      have nothing := responsesOf_of_none stored
      rw [nothing]
      exact ⟨compact, rfl, (update_responsesOf nothing).symm⟩
    | some mailbox =>
      cases mailbox with
      | many l =>
        rw [responsesOf_of_many stored]
        refine ⟨compact.storeMailbox _, rfl, ?_⟩
        simp [responsesOf_store]
      | single first =>
        have only := responsesOf_of_single stored
        rw [only]
        by_cases same : first.requestId = p.requestId
        · simp only [if_pos same]
          refine ⟨compact.erase, ?_, ?_⟩
          · simp [same]
          · simp [same, responsesOf_erase]
        · simp only [if_neg same]
          refine ⟨compact, ?_, ?_⟩
          · simp [same]
          · simp [same, update_responsesOf only]

theorem pop_refines (compact : s.Compact) :
    Refines ((MailboxCall.pop p).exec s)
      (step Envelope.requestId (MailboxCall.pop p).op s.responsesOf) := by
  simp only [MailboxCall.exec, MailboxCall.op, step]
  unfold popClientResponse
  cases stored : s.responses.get? p.client with
  | none =>
    have nothing := responsesOf_of_none stored
    rw [nothing]
    exact ⟨compact, rfl, (update_responsesOf nothing).symm⟩
  | some mailbox =>
    cases mailbox with
    | many l =>
      have all := responsesOf_of_many stored
      rw [all]
      dsimp only
      cases first : l.find? fun e => p.requestId = "" || e.requestId = p.requestId with
      | none =>
        -- nothing is wanted, so nothing is removed
        have same : (l.eraseP fun e => p.requestId = "" || e.requestId = p.requestId) = l :=
          List.eraseP_of_forall_not fun e member => by simpa using List.find?_eq_none.mp first e member
        rw [same]
        exact ⟨compact, rfl, (update_responsesOf all).symm⟩
      | some response =>
        refine ⟨Compact.of_responses_eq clearPendingRequest_responses (compact.storeMailbox _), rfl, ?_⟩
        funext c
        dsimp only
        rw [responsesOf_of_eq clearPendingRequest_responses, responsesOf_store]
    | single first =>
      have only := responsesOf_of_single stored
      rw [only]
      by_cases other : p.requestId ≠ "" ∧ first.requestId ≠ p.requestId
      · simp only [if_pos other]
        refine ⟨compact, ?_, ?_⟩
        · simp [other.1, other.2]
        · simp [other.1, other.2, update_responsesOf only]
      · simp only [if_neg other]
        have wanted : (decide (p.requestId = "") || decide (first.requestId = p.requestId)) = true := by
          by_cases blank : p.requestId = ""
          · simp [blank]
          · simpa [blank] using other
        refine ⟨Compact.of_responses_eq clearPendingRequest_responses compact.erase, ?_, ?_⟩
        · simp [wanted]
        · funext c
          rw [responsesOf_of_eq clearPendingRequest_responses, responsesOf_erase]
          simp [wanted]

theorem exec_refines (call : MailboxCall) (compact : s.Compact) :
    Refines (call.exec s) (step Envelope.requestId call.op s.responsesOf) := by
  cases call with
  | queue client e => exact queue_refines compact
  | pop p => exact pop_refines compact
  | remove p => exact remove_refines compact

/-! ## Sequences of calls -/

theorem runMailboxCalls_refines (calls : List MailboxCall) (compact : s.Compact) :
    Refines (runMailboxCalls calls s)
      (run Envelope.requestId (calls.map MailboxCall.op) s.responsesOf) := by
  induction calls generalizing s with
  | nil => exact ⟨compact, rfl, rfl⟩
  | cons call calls ih =>
    obtain ⟨compact', answer, lists⟩ := exec_refines call compact
    obtain ⟨last, answers, lists'⟩ := ih compact'
    simp only [runMailboxCalls, List.map_cons, run]
    rw [lists] at answers lists'
    exact ⟨last, by rw [answer, answers], lists'⟩

theorem discards_op_iff {call : MailboxCall} {requestId : String} :
    call.op.Discards client requestId ↔
      (⟨client, requestId⟩ : Pair).blank = false ∧ call = .remove ⟨client, requestId⟩ := by
  cases call with
  | queue client' e | pop p => simp [MailboxCall.op, Op.Discards]
  | remove p =>
    obtain ⟨client', requestId'⟩ := p
    simp only [MailboxCall.op, Op.Discards, Bool.and_eq_true, Bool.not_eq_true',
      decide_eq_true_eq, MailboxCall.remove.injEq, Pair.mk.injEq]
    constructor
    · rintro ⟨rfl, named, rfl⟩
      exact ⟨named, rfl, rfl⟩
    · rintro ⟨named, rfl, rfl⟩
      exact ⟨rfl, named, rfl⟩

/-- Every sequence of mailbox calls does to the lists of envelopes what the same
sequence of operations does, with the same answers, and keeps the mailboxes
compact. Of each request, the envelopes that are popped and those that stay are,
in this order, a sublist of those that there were and those that are queued; and
they are all of these when no removal names the request. -/
theorem mailboxes_refine_lists (calls : List MailboxCall) (compact : s.Compact) :
    (runMailboxCalls calls s).2.Compact ∧
    ((runMailboxCalls calls s).1, (runMailboxCalls calls s).2.responsesOf) =
      run Envelope.requestId (calls.map MailboxCall.op) s.responsesOf ∧
    ∀ client requestId,
      let ops := calls.map MailboxCall.op
      let left := (List.zipWith (taken Envelope.requestId client requestId) ops
          (runMailboxCalls calls s).1).flatten ++
        part Envelope.requestId requestId ((runMailboxCalls calls s).2.responsesOf client)
      let entered := part Envelope.requestId requestId (s.responsesOf client) ++
        (ops.map (appended Envelope.requestId client requestId)).flatten
      List.Sublist left entered ∧
        ((⟨client, requestId⟩ : Pair).blank = true ∨ .remove ⟨client, requestId⟩ ∉ calls →
          left = entered) := by
  obtain ⟨last, answers, lists⟩ := runMailboxCalls_refines calls compact
  refine ⟨last, by rw [answers, lists], fun client requestId => ?_⟩
  dsimp only
  rw [answers, lists]
  refine ⟨taken_sublist _ _, fun unnamed => taken_append_part (fun op member => ?_) _⟩
  obtain ⟨call, inCalls, rfl⟩ := List.mem_map.mp member
  rw [discards_op_iff]
  rintro ⟨named, rfl⟩
  rcases unnamed with blank | absent
  · rw [blank] at named
    cases named
  · exact absent inCalls

/-- A list of two responses collapses to the envelope that stays. -/
theorem mailboxes_refine_lists_sample :
    (RelayState.initial 0 0).Compact ∧
    (runMailboxCalls
        [.queue "c" ⟨"c", "r", "", "", "", ""⟩, .queue "c" ⟨"c", "q", "", "", "", ""⟩,
          .pop ⟨"c", "q"⟩] (RelayState.initial 0 0)).2.Compact ∧
    (runMailboxCalls
        [.queue "c" ⟨"c", "r", "", "", "", ""⟩, .queue "c" ⟨"c", "q", "", "", "", ""⟩,
          .pop ⟨"c", "q"⟩] (RelayState.initial 0 0)).2.responses.get? "c" =
      some (.single ⟨"c", "r", "", "", "", ""⟩) :=
  ⟨initial_compact 0 0, (mailboxes_refine_lists _ (initial_compact 0 0)).1, by decide +kernel⟩

/-- A removal for the blank client key leaves a response whose request it names. -/
theorem blank_client_keeps_responses :
    let calls : List MailboxCall :=
      [.queue "" ⟨"", "r", "", "", "", ""⟩, .remove ⟨"", "r"⟩]
    (runMailboxCalls calls (RelayState.initial 0 0)).2.responsesOf "" ≠
      (run Envelope.requestId (calls.map MailboxCall.opOfAnyName)
        (RelayState.initial 0 0).responsesOf).2 "" := by
  decide +kernel

end Relay
