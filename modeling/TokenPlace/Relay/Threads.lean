import TokenPlace.Relay.Copies
import TokenPlace.Relay.Sample

/-!
# What the threads carry

Between two regions a poll may hold an envelope that is in no table, and a cancel
call may have had its token checked. `exec_follows` says where each of these comes
from and `exec_replies` which action sends which reply.

`Idle` says that a request has no copy, in the tables or in a poll. It lasts until
the request is enqueued again.
-/

namespace Relay

open Interleaving

variable {env : RelayEnv} {s s' : RelayState} {p : Pair}

/-! ## Envelopes that polls hold -/

/-- The envelope that a poll has taken from its queue and may still store as in
flight. -/
def Task.held : Task → Option QueuedEnvelope
  | .pollFinish _ claimed => claimed
  | .pollRecheck _ claimed => some claimed
  | .pollInsert _ claimed _ => some claimed
  | _ => none

/-- The action neither holds an envelope nor has had its cancel token checked. -/
def Task.plain : Task → Bool
  | .requesterCancel .. => false
  | t => t.held.isNone

theorem Task.held_of_plain {u : Task} (h : u.plain = true) : u.held = none := by
  cases u <;> simp_all [Task.plain, Task.held]

theorem handler_plain (call : Call) : (handler call).all Task.plain = true := by
  cases call <;> rfl

/-! ## What an action leaves its thread to do -/

theorem copied_of_pendingCancelToken (h : pendingCancelToken p s ≠ "") :
    Copied s p (pendingCancelToken p s) := by
  unfold pendingCancelToken at h ⊢
  cases found : s.pendingRequestIds.get? p with
  | none => simp [found] at h
  | some entry => exact .pending entry found rfl

theorem copied_of_queuedCancelToken {token : String} (h : queuedCancelToken p s = some token) :
    Copied s p token := by
  unfold queuedCancelToken at h
  rw [Option.map_eq_some_iff] at h
  obtain ⟨e, found, same⟩ := h
  obtain ⟨queue, stored, member⟩ := List.mem_flatten.mp (List.mem_of_find?_eq_some found)
  obtain ⟨key, there⟩ := OrderedDict.mem_values.mp stored
  refine .queued key e ?_ (by simpa using List.find?_some found) same
  rw [RelayState.queueOf, there]
  exact member

theorem copied_of_inFlightCancelToken {token : String}
    (h : inFlightCancelToken p s = some token) : Copied s p token := by
  unfold inFlightCancelToken at h
  rw [Option.map_eq_some_iff] at h
  obtain ⟨⟨key, payload⟩, first, same⟩ := h
  obtain ⟨known, holds⟩ := mem_holders.mp (List.mem_of_mem_head? first)
  obtain ⟨entry, found, client⟩ := ServerPayload.holds_iff.mp holds
  refine .inFlight key payload entry known found client ?_
  simpa [ServerPayload.inFlightCancelToken, found] using same

/-- The actions that an action can leave to its thread: those that carry nothing,
a claimed envelope that is handed on, one that was just taken from a queue, and
the cancellation of a request after its token was checked. -/
inductive Follows (s : RelayState) : Task → Task → Prop
  | plain (t u : Task) (h : u.plain = true) : Follows s t u
  | carries (t u : Task) (e : QueuedEnvelope) (before : t.held = some e)
      (after : u.held = some e) : Follows s t u
  | takes (key : String) (deadline : ℚ) (e : QueuedEnvelope) (rest : List QueuedEnvelope)
      (queue : s.queueOf key = e :: rest) :
      Follows s (.pollPop key deadline) (.pollFinish key (some e))
  | proves (t : Task) (q : Pair) (token : String) (status : TerminalStatus)
      (reason : TerminalReason) (copied : Copied s q token) :
      Follows s t (.requesterCancel q token status reason)

variable {expected token status reason : String} {ev : RelayEvent} {t u : Task} {r : Reply}
  {e : Envelope} {q : Pair}

theorem checkCancelProof_follows (copied : expected ≠ "" → Copied s q expected)
    (h : u ∈ (checkCancelProof q expected token status reason).actions) : Follows s t u := by
  unfold checkCancelProof at h
  split at h
  · next proof =>
    cases List.mem_singleton.mp h
    exact .proves t q token _ _ (proof.2 ▸ copied proof.1)
  · cases h

theorem follows_all {l : List Task} (plain : l.all Task.plain = true) (h : u ∈ l) :
    Follows s t u :=
  .plain t u (List.all_eq_true.mp plain u h)

theorem completeRequest_actions (e : Envelope) : (completeRequest env e s).2.actions = [] := by
  unfold completeRequest
  dsimp only
  split
  · rfl
  · split
    · split <;> rfl
    · rfl

theorem acceptResponse_actions (e : Envelope) : (acceptResponse env e s).2.actions = [] := by
  unfold acceptResponse
  split
  · rfl
  · split
    · rfl
    · dsimp only
      split
      · rfl
      · split
        · rfl
        · split
          · rfl
          · exact completeRequest_actions e

theorem exec_follows (h : u ∈ (exec env t s).2.actions) : Follows s t u := by
  cases t with
  | pollPop key deadline =>
    simp only [exec, pollPop] at h
    split at h
    · split at h <;> exact follows_all rfl h
    · next e rest queue =>
      split at h
      · exact follows_all rfl h
      · cases List.mem_singleton.mp h
        exact .takes key deadline e rest queue
  | pollFinish key claimed =>
    simp only [exec, pollFinish] at h
    split at h
    · exact follows_all rfl h
    · split at h
      · cases h
      · next e =>
        cases List.mem_singleton.mp h
        exact .carries _ _ e rfl rfl
  | pollRecheck key claimed =>
    simp only [exec, pollRecheck] at h
    split at h
    · exact follows_all rfl h
    · split at h
      · cases h
      · cases List.mem_singleton.mp h
        exact .carries _ _ claimed rfl rfl
  | cancelPendingToken p token status reason =>
    simp only [exec, cancelPendingToken] at h
    split at h
    · cases h
    · split at h
      · exact checkCancelProof_follows copied_of_pendingCancelToken h
      · exact follows_all rfl h
  | cancelQueueToken p token status reason =>
    simp only [exec, cancelQueueToken] at h
    split at h
    · next expected found =>
      exact checkCancelProof_follows (fun _ => copied_of_queuedCancelToken found) h
    · exact follows_all rfl h
  | cancelInFlightToken p token status reason =>
    simp only [exec, cancelInFlightToken] at h
    refine checkCancelProof_follows (fun present => ?_) h
    cases found : inFlightCancelToken p s with
    | none => simp [found] at present
    | some expected => exact copied_of_inFlightCancelToken found
  | expireStalePendingRequests | collectStaleServers =>
    obtain ⟨entry, -, rfl⟩ := List.mem_map.mp h
    exact .plain _ _ rfl
  | snapshotServers now =>
    rcases List.mem_append.mp h with pruned | last
    · obtain ⟨payload, -, rfl⟩ := List.mem_map.mp pruned
      exact .plain _ _ rfl
    · exact follows_all rfl last
  | pruneInFlight serial now =>
    simp only [exec, pruneInFlight] at h
    split at h
    · cases h
    · obtain ⟨entry, -, rfl⟩ := List.mem_map.mp h
      exact .plain _ _ rfl
  | pollServerMissing key claimed =>
    simp only [exec, pollServerMissing] at h
    split at h
    · cases h
    · refine follows_all ?_ h
      split <;> rfl
  | expirePending p =>
    simp only [exec, expirePending] at h
    split at h <;> exact follows_all rfl h
  | unregister key credential =>
    simp only [exec, unregister] at h
    split at h <;> cases h
  | register key drawn =>
    simp only [exec, register] at h
    split at h
    · cases h
    · split at h <;> cases h
  | pollHeartbeat key =>
    simp only [exec, pollHeartbeat] at h
    split at h <;> exact follows_all rfl h
  | pollCheck key deadline =>
    simp only [exec, pollCheck] at h
    split at h <;> exact follows_all rfl h
  | pollInsert key claimed remaining =>
    simp only [exec, pollInsert] at h
    split at h <;> exact follows_all rfl h
  | control key requestId credential acknowledge =>
    simp only [exec] at h
    split at h <;> exact follows_all rfl h
  | controlOwned key requestId credential acknowledge now =>
    simp only [exec, controlOwned] at h
    split at h
    · exact follows_all rfl h
    · split at h
      · cases h
      · split at h
        · exact follows_all rfl h
        · split at h
          · cases h
          · split at h
            · exact follows_all rfl h
            · cases h
  | controlTombstone key requestId credential acknowledge =>
    simp only [exec, controlTombstone] at h
    split at h
    · exact follows_all rfl h
    · split at h
      · exact follows_all rfl h
      · split at h
        · cases h
        · split at h <;> cases h
  | controlLive key credential =>
    simp only [exec, controlLive] at h
    split at h
    · cases h
    · split at h <;> cases h
  | progressAccept key p credential envelope now =>
    simp only [exec, progressAccept] at h
    split at h
    · cases h
    · split at h
      · cases h
      · split at h
        · cases h
        · split at h <;> cases h
  | acceptResponse e =>
    rw [exec, acceptResponse_actions] at h
    cases h
  | requests key e =>
    simp only [exec, requests] at h
    split at h <;> exact follows_all rfl h
  | enqueue key e =>
    simp only [exec, enqueue] at h
    split at h <;> cases h
  | retrieveTerminal p now =>
    simp only [exec, retrieveTerminal] at h
    split at h <;> exact follows_all rfl h
  | retrievePop p =>
    simp only [exec, retrievePop] at h
    split at h <;> exact follows_all rfl h
  | retrievePendingEntry p =>
    simp only [exec, retrievePendingEntry] at h
    split at h
    · exact follows_all rfl h
    · split at h
      · split at h <;> exact follows_all rfl h
      · exact follows_all rfl h
  | retrievePendingDeadline p =>
    simp only [exec, retrievePendingDeadline] at h
    split at h <;> exact follows_all rfl h
  | retrieveTerminalAgain p now =>
    simp only [exec, retrieveTerminalAgain] at h
    split at h <;> exact follows_all rfl h
  | retrievePending p =>
    simp only [exec, retrievePending] at h
    split at h <;> exact follows_all rfl h
  | retrieveTerminalLast p now =>
    simp only [exec, retrieveTerminalLast] at h
    split at h
    · cases h
    · split at h <;> cases h
  | pruneTerminalRequests | pruneTerminalRecords | pruneTerminalOutcomes | pruneControlTombstones
  | pruneControlTombstonesAt | evictStaleServers | evictServer | cancelRequest | pollDeadline
  | progress | rateLimited | requesterCancel | retrieve | retrieveDropResponses | retrieveRecheck
  | retrieveLast => exact follows_all rfl h
  | respond parting => cases parting <;> cases h

theorem Follows.held (h : Follows s t u) {e : QueuedEnvelope}
    (held : u.held = some e) : t.held = some e ∨ Copied s e.pair e.cancelToken := by
  cases h with
  | plain t u plain =>
    rw [Task.held_of_plain plain] at held
    cases held
  | carries t u e' before after =>
    rw [after] at held
    exact Or.inl (held ▸ before)
  | takes key deadline e' rest queue =>
    cases held
    exact Or.inr (.queued key e (queue ▸ List.mem_cons_self) rfl rfl)
  | proves => cases held

/-! ## Which action sends which reply -/

/-- A reply that neither dispatches an envelope, reports a request as active,
acknowledges a cancellation nor confirms a response. -/
def Reply.plain : Reply → Bool
  | .dispatched .. | .control .active _ | .requestCancelled .. | .responseQueued => false
  | _ => true

/-- The replies that the results are about, with the actions that send them. -/
inductive Replies (s : RelayState) : Task → Reply → Prop
  | plain (t : Task) (r : Reply) (h : r.plain = true) : Replies s t r
  | dispatches (t : Task) (e : QueuedEnvelope) (remaining : ℚ) (held : t.held = some e) :
      Replies s t (.dispatched e.toEnvelope remaining)
  | active (key requestId credential : String) (acknowledge : Bool) (now : ℚ)
      (payload : ServerPayload) (entry : InFlightEntry) (remaining : Option ℚ)
      (known : s.knownServers.get? key = some payload)
      (found : payload.inFlightRequests.get? requestId = some entry) :
      Replies s (.controlOwned key requestId credential acknowledge now)
        (.control .active remaining)
  | cancels (q : Pair) (token : String) (status : TerminalStatus) (reason : TerminalReason)
      (removed : Nat) :
      Replies s (.requesterCancel q token status reason)
        (.requestCancelled status q.requestId removed)
  | stores (e : Envelope) : Replies s (.acceptResponse e) .responseQueued

theorem completeRequest_reply
    (h : (completeRequest env e s).2.reply = some r) : r.plain = true ∨ r = .responseQueued := by
  unfold completeRequest at h
  dsimp only at h
  split at h
  · cases h
    exact Or.inl rfl
  · split at h
    · split at h
      · cases h
        exact Or.inr rfl
      · cases h
        exact Or.inl rfl
    · cases h
      exact Or.inl rfl

theorem acceptResponse_reply
    (h : (acceptResponse env e s).2.reply = some r) : r.plain = true ∨ r = .responseQueued := by
  unfold acceptResponse at h
  split at h
  · cases h
    exact Or.inl rfl
  · split at h
    · cases h
      exact Or.inr rfl
    · dsimp only at h
      split at h
      · cases h
        exact Or.inl rfl
      · split at h
        · cases h
          exact Or.inl rfl
        · split at h
          · cases h
            exact Or.inl rfl
          · exact completeRequest_reply h

theorem replies_plain {t : Task} {r r' : Reply} (plain : r'.plain = true)
    (h : (Next.answer r' : Next Task Reply).reply = some r) : Replies s t r := by
  cases h
  exact .plain t r plain

theorem checkCancelProof_replies {t : Task}
    (h : (checkCancelProof q expected token status reason).reply = some r) :
    Replies s t r := by
  unfold checkCancelProof at h
  split at h
  · cases h
  · exact replies_plain rfl h

theorem exec_replies {t : Task} (h : (exec env t s).2.reply = some r) :
    Replies s t r := by
  cases t with
  | pollRecheck key claimed =>
    simp only [exec, pollRecheck] at h
    split at h
    · cases h
    · split at h
      · cases h
        exact .dispatches _ claimed _ rfl
      · cases h
  | pollInsert key claimed remaining =>
    simp only [exec, pollInsert] at h
    split at h
    · cases h
    · cases h
      exact .dispatches _ claimed _ rfl
  | controlOwned key requestId credential acknowledge now =>
    simp only [exec, controlOwned] at h
    split at h
    · cases h
    · next payload known =>
      split at h
      · exact replies_plain rfl h
      · split at h
        · cases h
        · next entry found =>
          split at h
          · cases h
            exact .active key requestId credential acknowledge now payload entry _ known found
          · split at h
            · cases h
            · exact replies_plain rfl h
  | requesterCancel q token status reason =>
    cases h
    exact .cancels q token status reason _
  | acceptResponse e =>
    rcases acceptResponse_reply h with plain | rfl
    · exact .plain _ r plain
    · exact .stores e
  | unregister key credential =>
    simp only [exec, unregister] at h
    split at h <;> exact replies_plain rfl h
  | register key drawn =>
    simp only [exec, register] at h
    split at h
    · exact replies_plain rfl h
    · split at h <;> exact replies_plain rfl h
  | pollHeartbeat key =>
    simp only [exec, pollHeartbeat] at h
    split at h
    · exact replies_plain rfl h
    · cases h
  | pollCheck key deadline =>
    simp only [exec, pollCheck] at h
    split at h
    · cases h
    · exact replies_plain rfl h
  | pollPop key deadline =>
    simp only [exec, pollPop] at h
    split at h
    · split at h <;> cases h
    · split at h <;> cases h
  | pollFinish key claimed =>
    simp only [exec, pollFinish] at h
    split at h
    · cases h
    · split at h
      · exact replies_plain rfl h
      · cases h
  | pollServerMissing key claimed =>
    simp only [exec, pollServerMissing] at h
    split at h
    · exact replies_plain rfl h
    · cases h
  | control key requestId credential acknowledge =>
    simp only [exec] at h
    split at h
    · exact replies_plain rfl h
    · cases h
  | controlTombstone key requestId credential acknowledge =>
    simp only [exec, controlTombstone] at h
    split at h
    · cases h
    · split at h
      · cases h
      · split at h
        · exact replies_plain rfl h
        · split at h <;> exact replies_plain rfl h
  | controlLive key credential =>
    simp only [exec, controlLive] at h
    split at h
    · exact replies_plain rfl h
    · split at h <;> exact replies_plain rfl h
  | progressAccept key p credential envelope now =>
    simp only [exec, progressAccept] at h
    split at h
    · exact replies_plain rfl h
    · split at h
      · exact replies_plain rfl h
      · split at h
        · exact replies_plain rfl h
        · split at h <;> exact replies_plain rfl h
  | requests key e =>
    simp only [exec, requests] at h
    split at h
    · exact replies_plain rfl h
    · cases h
  | enqueue key e =>
    simp only [exec, enqueue] at h
    split at h <;> exact replies_plain rfl h
  | rateLimited => exact replies_plain rfl h
  | cancelPendingToken p token status reason =>
    simp only [exec, cancelPendingToken] at h
    split at h
    · exact replies_plain rfl h
    · split at h
      · exact checkCancelProof_replies h
      · cases h
  | cancelQueueToken p token status reason =>
    simp only [exec, cancelQueueToken] at h
    split at h
    · exact checkCancelProof_replies h
    · cases h
  | cancelInFlightToken p token status reason => exact checkCancelProof_replies h
  | retrieveTerminal p now =>
    simp only [exec, retrieveTerminal] at h
    split at h <;> cases h
  | retrieveDropResponses p record => exact replies_plain rfl h
  | retrievePop p =>
    simp only [exec, retrievePop] at h
    split at h
    · exact replies_plain rfl h
    · cases h
  | expirePending p =>
    simp only [exec, expirePending] at h
    split at h <;> cases h
  | pruneInFlight serial now =>
    simp only [exec, pruneInFlight] at h
    split at h <;> cases h
  | retrievePendingEntry p =>
    simp only [exec, retrievePendingEntry] at h
    split at h
    · cases h
    · split at h
      · split at h <;> cases h
      · cases h
  | retrievePendingDeadline p =>
    simp only [exec, retrievePendingDeadline] at h
    split at h <;> cases h
  | retrieveTerminalAgain p now =>
    simp only [exec, retrieveTerminalAgain] at h
    split at h
    · exact replies_plain rfl h
    · cases h
  | retrievePending p =>
    simp only [exec, retrievePending] at h
    split at h
    · cases h
    · exact replies_plain rfl h
  | retrieveTerminalLast p now =>
    simp only [exec, retrieveTerminalLast] at h
    split at h
    · exact replies_plain rfl h
    · split at h <;> exact replies_plain rfl h
  | respond parting => cases parting <;> exact replies_plain rfl h
  | pruneTerminalRequests | pruneTerminalRecords | pruneTerminalOutcomes
  | expireStalePendingRequests | pruneControlTombstones | pruneControlTombstonesAt
  | evictStaleServers | snapshotServers | collectStaleServers | evictServer | cancelRequest
  | pollDeadline | progress | retrieve | retrieveRecheck | retrieveLast => cases h

/-! ## Requests without copies -/

/-- A poll holds an envelope of the request. -/
def HeldByPoll (p : Pair) (s : RelaySystem) : Prop :=
  ∃ u e, s.Awaits u ∧ u.held = some e ∧ e.pair = p

theorem heldByPoll_iff {s : RelaySystem} :
    HeldByPoll p s ↔
      ∃ thread ∈ s.threads, ∃ u ∈ thread, (u.held.any fun e => e.pair = p) = true := by
  simp only [Option.any_eq_true, decide_eq_true_eq]
  constructor
  · rintro ⟨u, e, ⟨thread, member, inThread⟩, held, pair⟩
    exact ⟨thread, member, u, inThread, e, held, pair⟩
  · rintro ⟨thread, member, u, inThread, e, held, pair⟩
    exact ⟨u, e, ⟨thread, member, inThread⟩, held, pair⟩

instance (p : Pair) (s : RelaySystem) : Decidable (HeldByPoll p s) :=
  decidable_of_iff _ heldByPoll_iff.symm

/-- The event enqueues the request at a known server. -/
def Enqueues (p : Pair) (ev : RelayEvent) (s : RelaySystem) : Prop :=
  ∃ key e, fired ev s = some (.enqueue key e) ∧ key ∈ s.shared.knownServers ∧ e.pair = p

/-- The action is an enqueue of the request at a known server. -/
def Task.enqueues (p : Pair) (s : RelayState) : Task → Bool
  | .enqueue key e => key ∈ s.knownServers && e.pair = p
  | _ => false

theorem enqueues_iff {s : RelaySystem} :
    Enqueues p ev s ↔ ((fired ev s).any fun t => t.enqueues p s.shared) = true := by
  rw [Option.any_eq_true]
  constructor
  · rintro ⟨key, e, running, known, pair⟩
    exact ⟨_, running, by simp [Task.enqueues, known, pair]⟩
  · rintro ⟨t, running, enqueues⟩
    cases t with
    | enqueue key e =>
      simp only [Task.enqueues, Bool.and_eq_true, decide_eq_true_eq] at enqueues
      exact ⟨key, e, running, enqueues⟩
    | _ => cases enqueues

instance (p : Pair) (ev : RelayEvent) (s : RelaySystem) : Decidable (Enqueues p ev s) :=
  decidable_of_iff _ enqueues_iff.symm

/-- The request has no copy, in the tables or in a poll. -/
def Idle (p : Pair) (s : RelaySystem) : Prop :=
  Machine.Holds (fun x => Uncopied x p) (fun u _ => ∀ e, u.held = some e → e.pair ≠ p) s

theorem Idle.not_copies {s : RelaySystem} {t : Task} (idle : Idle p s)
    (running : fired ev s = some t) (other : ¬ Enqueues p ev s) (token : String) :
    ¬ t.Copies s.shared p token := by
  rintro (⟨key, e, rfl, known, pair, -⟩ | ⟨key, e, remaining, rfl, pair, -⟩)
  · exact other ⟨key, e, running, known, pair⟩
  · exact idle.2 _ (awaits_of_fired running) e rfl pair

theorem Idle.step {s : RelaySystem} (other : ¬ Enqueues p ev s)
    (idle : Idle p s) : Idle p ((relay env).step ev s) := by
  refine (relay env).holds_step ?_ ?_ ?_ idle
  · intro call _ u member e held
    rw [Task.held_of_plain (List.all_eq_true.mp (handler_plain call) u member)] at held
    cases held
  · intro tick uncopied
    have fewer : Fewer s.shared ((relay env).environment tick s.shared) :=
      fewer_of_eq rfl rfl rfl
    exact ⟨fewer.uncopied uncopied, fun u unheld => unheld⟩
  · intro t running
    have effect : Effect env s.shared t ((relay env).exec t s.shared).1 := exec_effect t
    refine ⟨(effect.dormant (idle.not_copies running other) idle.1).1, ?_, idle.2⟩
    intro u new e held pair
    rcases (exec_follows new).held held with before | copied
    · exact idle.2 t (awaits_of_fired running) e before pair
    · exact idle.1 _ (pair ▸ copied)

theorem Idle.runs {s : RelaySystem} {evs : List RelayEvent}
    (others : (relay env).Along (fun ev s => ¬ Enqueues p ev s) evs s) (idle : Idle p s) :
    Idle p ((relay env).runs evs s) :=
  (relay env).along_runs (J := Idle p) (fun _ _ other idle => idle.step other) others idle

theorem Uncopied.holders (h : Uncopied s p) : s.holders p = [] := by
  by_contra held
  obtain ⟨⟨key, payload⟩, member⟩ := List.exists_mem_of_ne_nil _ held
  obtain ⟨known, holds⟩ := mem_holders.mp member
  obtain ⟨entry, found, client⟩ := ServerPayload.holds_iff.mp holds
  exact h _ (.inFlight key payload entry known found client rfl)

theorem Idle.dormant {s : RelaySystem} (other : ¬ Enqueues p ev s) (idle : Idle p s) :
    (∀ r, ((relay env).step ev s).shared.terminalRequestIds.get? p = some r →
      s.shared.terminalRequestIds.get? p = some r) ∧
    ∀ key t, ((relay env).step ev s).shared.controlTombstones.get? key = some t → t.pair = p →
      s.shared.controlTombstones.get? key = some t := by
  cases hf : fired ev s with
  | none =>
    rcases (relay env).step_of_not_fired hf with ⟨k, rfl⟩ | ⟨tick, rfl⟩ | same
    · exact ⟨fun _ found => found, fun _ _ found _ => found⟩
    · exact ⟨fun _ found => found, fun _ _ found _ => found⟩
    · rw [same]
      exact ⟨fun _ found => found, fun _ _ found _ => found⟩
  | some t =>
    rw [(relay env).shared_of_fired hf]
    have effect : Effect env s.shared t ((relay env).exec t s.shared).1 := exec_effect t
    exact (effect.dormant (idle.not_copies hf other) idle.1).2

end Relay
