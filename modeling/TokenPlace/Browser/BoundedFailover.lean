import TokenPlace.Browser.Failover

/-!
# Bounds of the failover

Results:
1. `Regular`: what a turn must not bring: a retry on the larger tier that is given a server which
   has failed before, a second retry that an error of the relay asks for, and a page that ends a
   request while its terminal error is being settled.
2. `failover_bounded`: a call all of whose turns are regular returns, and stays within its bounds.
3. `retry_returns_to_failed_server`: without the first of these it does not.
-/

namespace ChatFailover

open JsText (property truthy trim)
open Json (asString asString_eq_some)

variable {Key M : Type} {call : Call M} {turn : Turn Key M} {loop loop' : Loop Key}
  {page page' : Page Key} {trace events : List (Event Key M)} {outcome : Outcome Key}

/-! ## The property -/

def Event.isDispatch : Event Key M → Bool
  | .dispatched .. => true
  | _ => false

def Event.isRetry : Event Key M → Bool
  | .retried => true
  | _ => false

/-- No request to a server that has failed, and none once a request was ended by the page. -/
def Event.Allows : Event Key M → Event Key M → Prop
  | .failed server, .dispatched other _ _ => server ≠ other
  | .terminated, .dispatched .. => False
  | _, _ => True

/-- What a call may do. -/
structure Bounded (call : Call M) (trace : List (Event Key M)) : Prop where
  dispatches : trace.countP Event.isDispatch ≤ 5
  retries : trace.countP Event.isRetry ≤ 1
  order : trace.Pairwise Event.Allows
  messages : ∀ server messages tier, .dispatched server messages tier ∈ trace →
    messages = call.apiV1Messages

/-- The turns in which the call keeps to its bounds. -/
structure Regular (turn : Turn Key M) (loop : Loop Key) : Prop where
  replaced : loop.forceReselectForDispatch → ∀ tier key, turn.selection = .chosen tier (some key) →
    key ∉ loop.terminallyFailedServers
  once : loop.autoContextRetryAttempted → ∀ body opened,
    turn.dispatch = .admitted (.replied body opened) → (property (some body) "error").any truthy →
      shouldRetryAutoContextTier body (property (some body) "_autoContextAttempt") = false
  settled : ∀ status errorData userMessage,
    turn.dispatch = .admitted (.refused status errorData userMessage true) →
      isTerminalSelectedServerError status errorData = false

/-! ## Selection -/

variable {response : Json} {tier : Tier} {force : Bool}

theorem ensureSelectedServer_none {answer : SelectionAnswer Key}
    (selected : ensureSelectedServer force tier answer page = (none, page')) :
    ∃ server, page'.selectedServer = some server ∧
      (force = false ∧ page.selectedServer = some server ∨
        (force = false → page.selectedServer = none) ∧
          ∃ name, answer = .chosen name (some server.key)) := by
  unfold ensureSelectedServer at selected
  cases force with
  | false =>
    simp only [Bool.false_eq_true, if_false] at selected
    cases before : page.selectedServer with
    | some server =>
      simp only [before, Option.isSome_some, if_true] at selected
      cases selected
      exact ⟨server, before, .inl ⟨rfl, rfl⟩⟩
    | none =>
      simp only [before, Option.isSome_none, Bool.false_eq_true, if_false] at selected
      split at selected
      · cases selected
      · cases selected
      · split at selected
        · cases selected
        · split at selected
          · cases selected
          · cases selected
            exact ⟨_, rfl, .inr ⟨fun _ => rfl, _, rfl⟩⟩
  | true =>
    simp only [if_true, Page.clearSelectedServer, Option.isSome_none, Bool.false_eq_true,
      if_false] at selected
    split at selected
    · cases selected
    · cases selected
    · split at selected
      · cases selected
      · split at selected
        · cases selected
        · cases selected
          exact ⟨_, rfl, .inr ⟨nofun, _, rfl⟩⟩

/-! ## One request -/

variable {options : SendOptions M} {server : SelectedServer Key}

theorem shouldRetryAutoContextTier_withAttempt (repeated : options.retryAttempted = true)
    (response : Json) :
    shouldRetryAutoContextTier (withAttempt (autoContextAttempt options server) response)
      (property (some (withAttempt (autoContextAttempt options server) response))
        "_autoContextAttempt") = false := by
  cases response with
  | object fields =>
    have own : property (some (withAttempt (autoContextAttempt options server) (.object fields)))
        "_autoContextAttempt" = some (autoContextAttempt options server) := by
      have others : (fields.filter (·.1 ≠ "_autoContextAttempt")).lookup "_autoContextAttempt" =
          none := by
        rw [List.lookup_eq_none_iff]
        intro field member
        have other := of_decide_eq_true (List.mem_filter.mp member).2
        exact bne_iff_ne.mpr other.symm
      show List.lookup "_autoContextAttempt" (fields.filter _ ++ [_]) = _
      rw [List.lookup_append, others]
      rfl
    have marked : JsText.isTrue (property (some (autoContextAttempt options server))
        "retryAttempted") = true := by
      rw [autoContextAttempt, repeated]
      rfl
    rw [own, shouldRetryAutoContextTier, marked]
    simp
  | _ => rfl

theorem requestEvents_shape (options : SendOptions M) (turn : Turn Key M)
    (server : SelectedServer Key) :
    turn.dispatch = .unsent ∧ requestEvents options turn server = [] ∨
      ∃ rest, requestEvents options turn server =
        .dispatched server.key (options.apiV1Messages.getD turn.createApiV1Messages)
          options.tierResolution.requestedContextTier :: rest ∧
      ∀ event ∈ rest, event = .terminated ∧ turn.dispatch.ended = true ∨
        event = .failed server.key ∧
          (requestReply options server turn.dispatch).terminal = true := by
  unfold requestEvents
  split
  · next unsent => exact .inl ⟨unsent, rfl⟩
  · refine .inr ⟨_, rfl, fun event member => ?_⟩
    simpa [List.mem_append, List.mem_ite_nil_right, and_comm] using member

theorem not_retryAttempted (regular : Regular turn loop) (options_eq : options = loop.options call)
    (reply : requestReply options server turn.dispatch = .value (some response))
    (retry : shouldRetryAutoContextTier response
      (property (some response) "_autoContextAttempt") = true) :
    loop.autoContextRetryAttempted = false := by
  have bare : ∀ {error : Json}, shouldRetryAutoContextTier (.object [("error", error)])
      (property (some (.object [("error", error)])) "_autoContextAttempt") = false := fun {_} => rfl
  by_contra again
  rw [Bool.not_eq_false] at again
  cases dispatch : turn.dispatch with
  | unsent | lost => cases dispatch ▸ reply
  | refused =>
    cases dispatch ▸ reply
    exact absurd retry (by rw [serverFailure, bare]; decide)
  | admitted retrieval =>
    cases retrieval with
    | terminated => cases dispatch ▸ reply
    | failed =>
      cases dispatch ▸ reply
      exact absurd retry (by rw [failure, bare]; decide)
    | refused =>
      cases dispatch ▸ reply
      exact absurd retry (by rw [serverFailure, bare]; decide)
    | replied body opened =>
      rw [dispatch] at reply
      simp only [requestReply] at reply
      split at reply
      · next relayed =>
        cases reply
        rw [regular.once again _ opened dispatch relayed] at retry
        cases retry
      · obtain ⟨answer, -, rfl⟩ := Option.map_eq_some_iff.mp (Reply.value.inj reply)
        rw [shouldRetryAutoContextTier_withAttempt (by rw [options_eq]; exact again)] at retry
        cases retry

/-- A request that the page ends is followed neither by a retry nor by a failover. -/
theorem not_ended (regular : Regular turn loop)
    (reply : requestReply options server turn.dispatch = .value (some response))
    (goes : shouldRetryAutoContextTier response
        (property (some response) "_autoContextAttempt") = true ∨
      terminalSelectedServer response = true) : turn.dispatch.ended = false := by
  by_contra ended
  rw [Bool.not_eq_false] at ended
  cases dispatch : turn.dispatch with
  | unsent | lost | refused => cases dispatch ▸ ended
  | admitted retrieval =>
    cases retrieval with
    | terminated => cases dispatch ▸ reply
    | failed | replied => cases dispatch ▸ ended
    | refused status errorData userMessage endedMeanwhile =>
      rw [dispatch, DispatchAnswer.ended] at ended
      subst ended
      have settled := regular.settled status errorData userMessage dispatch
      rw [dispatch, requestReply, settled] at reply
      cases reply
      rcases goes with retry | terminal
      · exact absurd retry Bool.false_ne_true
      · exact absurd terminal Bool.false_ne_true

/-- The loop that a selection leaves where there is a next turn: the replacement is taken or
skipped. -/
inductive Replaced (loop : Loop Key) : Loop Key → Prop
  | taken (server : SelectedServer Key) (page : Page Key)
      (room : loop.failovers < loop.maxFailovers) (selected : page.selectedServer = some server)
      (unfailed : server.key ∉ loop.terminallyFailedServers) :
      Replaced loop { loop with
        skippedFailedServerSelections := 0
        failovers := loop.failovers + 1
        preserveSelectedServerForDispatch := true
        needsDispatch := true
        page := page }
  | skipped (page : Page Key) (room : loop.failovers < loop.maxFailovers)
      (patience : loop.skippedFailedServerSelections <
        max (loop.maxFailovers + loop.terminallyFailedServers.card) 1) :
      Replaced loop { loop with
        skippedFailedServerSelections := loop.skippedFailedServerSelections + 1
        page := page }

theorem getFailoverAttemptLimit_le (count : Option Nat) : getFailoverAttemptLimit count ≤ 3 := by
  unfold getFailoverAttemptLimit
  split
  · exact min_le_right ..
  · decide

theorem refreshCapacity_eq (turn : Turn Key M) (few : loop.maxFailovers ≤ 3) :
    ∃ limit refreshed, limit ≤ 3 ∧ refreshCapacity turn loop =
      { loop with maxFailovers := limit, refreshedFailoverCapacity := refreshed } := by
  unfold refreshCapacity
  split
  · refine ⟨_, _, ?_, rfl⟩
    split
    · exact getFailoverAttemptLimit_le _
    · exact max_le few (by decide)
  · exact ⟨_, _, few, rfl⟩

/-! ## A run -/

/-- The request of a turn goes to a server that has not failed: there is none, the server is
selected anew, or it is one that was selected and compared before. -/
def Ready (loop : Loop Key) : Prop :=
  loop.terminallyFailedServers = ∅ ∨ loop.forceReselectForDispatch = true ∨
    loop.forceReselectForDispatch = false ∧ loop.preserveSelectedServerForDispatch = true ∧
      ∃ server, loop.page.selectedServer = some server ∧
        server.key ∉ loop.terminallyFailedServers

theorem Ready.unfailed (ready : Ready loop) (regular : Regular turn loop)
    (forced : force = (loop.forceReselectForDispatch ||
      (force && !loop.preserveSelectedServerForDispatch)))
    (ensured : ensureSelectedServer force tier turn.selection loop.page = (none, page')) :
    ∃ server, page'.selectedServer = some server ∧ server.key ∉ loop.terminallyFailedServers := by
  obtain ⟨server, is, source⟩ := ensureSelectedServer_none ensured
  refine ⟨server, is, ?_⟩
  rcases ready with none' | force' | ⟨unforced, preserve, kept, selected, unfailed⟩
  · rw [none']
    exact Finset.notMem_empty _
  · rw [force', Bool.true_or] at forced
    obtain ⟨unforced, -⟩ | ⟨-, name, chosen⟩ := source
    · rw [forced] at unforced
      cases unforced
    · exact regular.replaced force' name server.key chosen
  · rw [unforced, preserve, Bool.not_true, Bool.and_false, Bool.or_false] at forced
    obtain ⟨-, before⟩ | ⟨before, -⟩ := source
    · rw [selected] at before
      cases before
      exact unfailed
    · rw [selected] at before
      exact absurd (before forced) (Option.some_ne_none _)

theorem sendMessageApiOnce_spec (ready : Ready loop) (regular : Regular turn loop)
    {reply : Reply} (sent : sendMessageApiOnce (loop.options call) turn loop.page =
      (events, reply, page')) :
    events = [] ∧ (reply = .value none ∨ ∃ message, reply = .value (some (failure message))) ∨
      ∃ server, page'.selectedServer = some server ∧
        server.key ∉ loop.terminallyFailedServers ∧
        events = requestEvents (loop.options call) turn server ∧
        reply = requestReply (loop.options call) server turn.dispatch := by
  unfold sendMessageApiOnce at sent
  split at sent
  · cases sent
    exact .inl ⟨rfl, .inl rfl⟩
  · dsimp only at sent
    split at sent
    · cases sent
      exact .inl ⟨rfl, .inr ⟨_, rfl⟩⟩
    · next page ensured =>
      obtain ⟨server, is, unfailed⟩ := ready.unfailed regular (by
        simp only [Loop.options]
        cases loop.forceReselectForDispatch <;> cases loop.preserveSelectedServerForDispatch <;>
          simp) ensured
      simp only [is] at sent
      cases sent
      exact .inr ⟨server, is, unfailed, rfl, rfl⟩

/-- What holds between two turns: the trace keeps to the bounds, with room for what is still to
come. -/
structure Running (call : Call M) (trace : List (Event Key M)) (loop : Loop Key) : Prop where
  limit : loop.maxFailovers ≤ 3
  failovers : loop.failovers ≤ 3
  patience : loop.skippedFailedServerSelections ≤ 8
  dispatches : trace.countP Event.isDispatch + loop.needsDispatch.toNat ≤
    1 + loop.failovers + loop.autoContextRetryAttempted.toNat
  retries : trace.countP Event.isRetry ≤ loop.autoContextRetryAttempted.toNat
  order : trace.Pairwise Event.Allows
  failed : ∀ server, .failed server ∈ trace → server ∈ loop.terminallyFailedServers
  card : loop.terminallyFailedServers.card ≤ trace.countP Event.isDispatch
  running : .terminated ∉ trace
  messages : ∀ server messages tier, .dispatched server messages tier ∈ trace →
    messages = call.apiV1Messages
  ready : loop.needsDispatch = true → Ready loop

theorem toNat_le_one (b : Bool) : b.toNat ≤ 1 := by cases b <;> decide

theorem Running.bounded (running : Running call trace loop) : Bounded call trace where
  dispatches := by
    have first := running.dispatches
    have second := running.failovers
    have third := toNat_le_one loop.autoContextRetryAttempted
    omega
  retries := running.retries.trans (toNat_le_one _)
  order := running.order
  messages := running.messages

theorem Running.start (count : Option Nat) (page : Page Key) :
    Running call ([] : List (Event Key M)) (Loop.start count page) where
  limit := getFailoverAttemptLimit_le count
  failovers := Nat.zero_le _
  patience := Nat.zero_le _
  dispatches := le_refl 1
  retries := le_refl 0
  order := .nil
  failed := nofun
  card := le_refl 0
  running := nofun
  messages := nofun
  ready _ := .inl rfl

/-- What is still to come, in turns. -/
def Loop.rank (loop : Loop Key) : Nat :=
  10 * (3 - loop.failovers) + 10 * (1 - loop.autoContextRetryAttempted.toNat) +
    (9 - loop.skippedFailedServerSelections)

theorem order_request {rest : List (Event Key M)} {server : Key} {messages : M}
    (running : Running call trace loop) (unfailed : server ∉ loop.terminallyFailedServers)
    (quiet : ∀ event ∈ rest, event.isDispatch = false) :
    (trace ++ .dispatched server messages tier :: rest).Pairwise Event.Allows := by
  have after : ∀ event : Event Key M, ∀ later ∈ rest, event.Allows later := by
    intro event later member
    have other := quiet later member
    cases later with
    | dispatched => cases other
    | _ => cases event <;> trivial
  refine List.pairwise_append.mpr ⟨running.order, List.pairwise_cons.mpr ⟨after _, ?_⟩, ?_⟩
  · exact List.Pairwise.imp_of_mem (fun _ member _ => after _ _ member)
      (List.pairwise_of_forall fun _ _ => trivial)
  · intro event before later member
    rcases List.mem_cons.mp member with rfl | member
    · cases event with
      | failed other =>
        rintro rfl
        exact unfailed (running.failed _ before)
      | terminated => exact absurd before running.running
      | _ => trivial
    · exact after event later member

/-- The loop behind a request, before what comes next. -/
def Loop.requested (loop : Loop Key) (page : Page Key) : Loop Key :=
  { loop with
    preserveSelectedServerForDispatch := false
    forceReselectForDispatch := false
    page := page }

theorem request_bounded (running : Running call trace loop) (needed : loop.needsDispatch = true)
    {server : SelectedServer Key} (unfailed : server.key ∉ loop.terminallyFailedServers) :
    Bounded call (trace ++ requestEvents (loop.options call) turn server) := by
  have bounded := running.bounded
  rcases requestEvents_shape (loop.options call) turn server with ⟨-, nothing⟩ | ⟨rest, is, quiet⟩
  · rw [nothing, List.append_nil]
    exact bounded
  · have silent : ∀ event ∈ rest, event.isDispatch = false ∧ event.isRetry = false := by
      intro event member
      rcases quiet event member with ⟨rfl, -⟩ | ⟨rfl, -⟩ <;> exact ⟨rfl, rfl⟩
    have noDispatch : rest.countP Event.isDispatch = 0 :=
      List.countP_eq_zero.mpr fun event member => by simp [(silent event member).1]
    have noRetry : rest.countP Event.isRetry = 0 :=
      List.countP_eq_zero.mpr fun event member => by simp [(silent event member).2]
    have room := running.dispatches
    have few := running.failovers
    have one := toNat_le_one loop.autoContextRetryAttempted
    rw [needed, Bool.toNat_true] at room
    rw [is]
    refine ⟨?_, ?_, order_request running unfailed fun event member => (silent event member).1, ?_⟩
    · simp only [List.countP_append, List.countP_cons, noDispatch, Event.isDispatch, if_true]
      omega
    · simpa [List.countP_append, List.countP_cons, noRetry, Event.isRetry] using bounded.retries
    · intro other messages tier member
      rcases List.mem_append.mp member with before | here
      · exact running.messages other messages tier before
      · rcases List.mem_cons.mp here with same | later
        · cases same
          rfl
        · exact absurd (silent _ later).1 (by simp [Event.isDispatch])

theorem Running.retried (running : Running call trace loop) (idle : loop.needsDispatch = false)
    (first : loop.autoContextRetryAttempted = false) (page : Page Key) :
    Running call (trace ++ [.retried]) { loop with
      autoContextRetryAttempted := true
      page := page
      forceReselectForDispatch := true
      needsDispatch := true } where
  limit := running.limit
  failovers := running.failovers
  patience := running.patience
  dispatches := by
    have room := running.dispatches
    rw [idle, first] at room
    simp only [List.countP_append, List.countP_singleton, Event.isDispatch, Bool.toNat_true,
      Bool.toNat_false, Bool.false_eq_true, if_false] at room ⊢
    omega
  retries := by
    have none' := running.retries
    rw [first] at none'
    simpa [List.countP_append, Event.isRetry] using none'
  order := List.pairwise_append.mpr ⟨running.order, List.pairwise_singleton .., by
    intro event _ later member
    rw [List.mem_singleton] at member
    subst member
    cases event <;> trivial⟩
  failed server member := running.failed server (by simpa using member)
  card := by simpa [List.countP_append, Event.isDispatch] using running.card
  running := by simpa using running.running
  messages server messages tier member :=
    running.messages server messages tier (by simpa using member)
  ready _ := .inr (.inl rfl)

/-- A replacement is one that has not failed, and of those that have only few are skipped. -/
theorem Replaced.running (replaced : Replaced loop loop') (running : Running call trace loop)
    (idle : loop.needsDispatch = false) : Running call trace loop' ∧ loop'.rank < loop.rank := by
  have limit := running.limit
  have room' := running.dispatches
  rw [idle] at room'
  cases replaced with
  | taken server page room selected unfailed =>
    constructor
    · exact { running with
        failovers := by
          dsimp only
          omega
        patience := Nat.zero_le _
        dispatches := by
          simp only [Bool.toNat_true, Bool.toNat_false] at room' ⊢
          omega
        ready := by
          intro _
          cases forced : loop.forceReselectForDispatch with
          | true => exact .inr (.inl rfl)
          | false => exact .inr (.inr ⟨rfl, rfl, server, selected, unfailed⟩) }
    · have patience := running.patience
      simp only [Loop.rank]
      omega
  | skipped page room patience =>
    have card := running.card
    have sent := running.bounded.dispatches
    have few : loop.skippedFailedServerSelections + 1 ≤ 8 := by omega
    constructor
    · exact { running with
        patience := few
        ready := by
          intro needed
          rw [idle] at needed
          cases needed }
    · simp only [Loop.rank]
      omega

variable [DecidableEq Key]

theorem selectReplacement_again (again : selectReplacement call turn loop = .again loop') :
    Replaced loop loop' := by
  unfold selectReplacement at again
  dsimp only at again
  split at again
  · cases again
  · next within =>
    obtain ⟨room, patience⟩ := not_or.mp within
    rw [not_le] at room patience
    split at again
    · cases again
    · next page selected =>
      obtain ⟨server, is, _⟩ := ensureSelectedServer_none selected
      simp only [is, Option.any_some, decide_eq_true_eq] at again
      split at again
      · cases again
        exact .skipped _ room patience
      · next unfailed =>
        cases again
        exact .taken server page room is unfailed

theorem request_running (page : Page Key) (running : Running call trace loop)
    (needed : loop.needsDispatch = true) (regular : Regular turn loop) {server : SelectedServer Key}
    (unfailed : server.key ∉ loop.terminallyFailedServers)
    (reply : requestReply (loop.options call) server turn.dispatch = .value (some response))
    (goes : shouldRetryAutoContextTier response
        (property (some response) "_autoContextAttempt") = true ∨
      terminalSelectedServer response = true) :
    Running call (trace ++ requestEvents (loop.options call) turn server)
      { loop.requested page with
        needsDispatch := false
        terminallyFailedServers :=
          if terminalSelectedServer response then insert server.key loop.terminallyFailedServers
          else loop.terminallyFailedServers } := by
  have bounded : Bounded call (trace ++ requestEvents (loop.options call) turn server) :=
    request_bounded running needed unfailed
  have ended := not_ended regular reply goes
  rcases requestEvents_shape (loop.options call) turn server with ⟨unsent, -⟩ | ⟨rest, is, quiet⟩
  · rw [unsent] at reply
    cases reply
  have only : ∀ event ∈ rest,
      event = .failed server.key ∧ terminalSelectedServer response = true := by
    intro event member
    rcases quiet event member with ⟨-, stopped⟩ | ⟨rfl, terminal⟩
    · rw [ended] at stopped
      cases stopped
    · rw [reply] at terminal
      exact ⟨rfl, terminal⟩
  have noDispatch : rest.countP Event.isDispatch = 0 :=
    List.countP_eq_zero.mpr fun event member => by
      rw [(only event member).1]
      exact Bool.false_ne_true
  have noRetry : rest.countP Event.isRetry = 0 :=
    List.countP_eq_zero.mpr fun event member => by
      rw [(only event member).1]
      exact Bool.false_ne_true
  have counted : (trace ++ requestEvents (loop.options call) turn server).countP Event.isDispatch =
      trace.countP Event.isDispatch + 1 := by
    rw [is, List.countP_append, List.countP_cons, noDispatch]
    rfl
  exact {
    limit := running.limit
    failovers := running.failovers
    patience := running.patience
    dispatches := by
      have room := running.dispatches
      rw [needed] at room
      rw [counted]
      exact room
    retries := by
      have same : (trace ++ requestEvents (loop.options call) turn server).countP Event.isRetry =
          trace.countP Event.isRetry := by
        rw [is, List.countP_append, List.countP_cons, noRetry]
        rfl
      rw [same]
      exact running.retries
    order := bounded.order
    failed := by
      intro other member
      rw [is] at member
      rcases List.mem_append.mp member with before | here
      · have old := running.failed other before
        dsimp only
        split
        · exact Finset.mem_insert_of_mem old
        · exact old
      · rcases List.mem_cons.mp here with same | later
        · cases same
        · obtain ⟨same, terminal⟩ := only _ later
          cases same
          dsimp only
          rw [if_pos terminal]
          exact Finset.mem_insert_self ..
    card := by
      have few := running.card
      rw [counted]
      dsimp only
      split
      · exact (Finset.card_insert_le ..).trans (Nat.succ_le_succ few)
      · exact few.trans (Nat.le_succ _)
    running := by
      rw [is]
      intro member
      rcases List.mem_append.mp member with before | here
      · exact running.running before
      · rcases List.mem_cons.mp here with same | later
        · cases same
        · cases (only _ later).1
    messages := bounded.messages
    ready := nofun }

theorem selectReplacement_running (running : Running call trace loop)
    (idle : loop.needsDispatch = false)
    (again : selectReplacement call turn (refreshCapacity turn loop) = .again loop') :
    Running call trace loop' ∧ loop'.rank < loop.rank := by
  obtain ⟨limit, refreshed, few, same⟩ := refreshCapacity_eq turn running.limit
  rw [same] at again
  exact (selectReplacement_again again).running { running with limit := few } idle

theorem afterResponse_running (running : Running call trace loop)
    (needed : loop.needsDispatch = true) (regular : Regular turn loop)
    (sent : sendMessageApiOnce (loop.options call) turn loop.page =
      (events, .value (some response), page)) {more : List (Event Key M)}
    (after : afterResponse call turn response (loop.requested page) = (more, outcome)) :
    Bounded call (trace ++ (events ++ more)) ∧ ∀ loop', outcome = .again loop' →
      Running call (trace ++ (events ++ more)) loop' ∧ loop'.rank < loop.rank := by
  unfold afterResponse at after
  rcases sendMessageApiOnce_spec (running.ready needed) regular sent with
    ⟨rfl, ⟨⟨⟩⟩ | ⟨message, same⟩⟩ | ⟨server, selected, unfailed, rfl, reply⟩
  · -- Nothing was sent, and the error is returned.
    cases same
    cases after
    refine ⟨?_, nofun⟩
    rw [List.append_nil, List.append_nil]
    exact running.bounded
  have kept : Bounded call (trace ++ requestEvents (loop.options call) turn server) :=
    request_bounded running needed unfailed
  have recorded : (if terminalSelectedServer response then (loop.requested page).recordFailed
      else loop.requested page) = { loop.requested page with
        terminallyFailedServers :=
          if terminalSelectedServer response then insert server.key loop.terminallyFailedServers
          else loop.terminallyFailedServers } := by
    split
    · simp only [Loop.recordFailed, Loop.requested, selected]
    · rfl
  simp only [recorded] at after
  rw [← List.append_assoc]
  split at after
  · next retry =>
    have behind := request_running page running needed regular unfailed reply.symm (.inl retry)
    have first := not_retryAttempted regular rfl reply.symm retry
    cases after
    have next := behind.retried rfl first page.clearSelectedServer
    refine ⟨next.bounded, ?_⟩
    rintro _ ⟨⟩
    refine ⟨next, ?_⟩
    simp only [Loop.rank, Loop.requested, first, Bool.toNat_true, Bool.toNat_false]
    omega
  · split at after
    · cases after
      refine ⟨?_, nofun⟩
      rw [List.append_nil]
      exact kept
    · next terminal =>
      have failed : terminalSelectedServer response = true := by simpa using terminal
      have behind := request_running page running needed regular unfailed reply.symm (.inr failed)
      cases after
      rw [List.append_nil]
      refine ⟨kept, fun loop' again => ?_⟩
      have next := selectReplacement_running behind rfl again
      exact next

theorem step_running (running : Running call trace loop) (regular : Regular turn loop)
    (stepped : step call turn loop = (events, outcome)) :
    Bounded call (trace ++ events) ∧ ∀ loop', outcome = .again loop' →
      Running call (trace ++ events) loop' ∧ loop'.rank < loop.rank := by
  have quiet : Bounded call (trace ++ []) := by
    rw [List.append_nil]
    exact running.bounded
  unfold step at stepped
  split at stepped
  · cases stepped
    exact ⟨quiet, nofun⟩
  split at stepped
  · next needed =>
    have bounded {events reply page'}
        (sent : sendMessageApiOnce (loop.options call) turn loop.page = (events, reply, page')) :
        Bounded call (trace ++ events) := by
      rcases sendMessageApiOnce_spec (running.ready needed) regular sent with
        ⟨rfl, -⟩ | ⟨server, -, unfailed, rfl, -⟩
      · exact quiet
      · exact request_bounded running needed unfailed
    split at stepped
    · next sent =>
      cases stepped
      exact ⟨bounded sent, nofun⟩
    · next sent =>
      cases stepped
      exact ⟨bounded sent, nofun⟩
    · next sent =>
      cases stepped
      exact afterResponse_running running needed regular sent rfl
  · next idle =>
    rw [Bool.not_eq_true] at idle
    cases stepped
    refine ⟨quiet, fun loop' again => ?_⟩
    rw [List.append_nil]
    have same : { loop with needsDispatch := false } = loop := by
      rw [← idle]
    rw [same] at again
    exact selectReplacement_running running idle again

/-- The loops that a call comes to, by the number of turns. -/
inductive Reached (call : Call M) (turns : Nat → Turn Key M) (start : Loop Key) :
    Nat → Loop Key → Prop
  | start : Reached call turns start 0 start
  | again {k : Nat} {loop loop' : Loop Key} {events : List (Event Key M)}
    (reached : Reached call turns start k loop)
    (stepped : step call (turns k) loop = (events, .again loop')) :
    Reached call turns start (k + 1) loop'

theorem run_running {turns : Nat → Turn Key M} {start : Loop Key}
    (regular : ∀ k loop, Reached call turns start k loop → Regular (turns k) loop) {k : Nat}
    (reached : Reached call turns start k loop) (running : Running call trace loop) (fuel : Nat) :
    Bounded call (trace ++ (sendMessageApi call turns fuel k loop).1) ∧
      (loop.rank < fuel → (sendMessageApi call turns fuel k loop).2.isSome) := by
  induction fuel generalizing k loop trace with
  | zero =>
    rw [sendMessageApi, List.append_nil]
    exact ⟨running.bounded, nofun⟩
  | succ fuel ih =>
    cases stepped : step call (turns k) loop with
    | mk events outcome =>
      obtain ⟨bounded, next⟩ := step_running running (regular k loop reached) stepped
      cases outcome with
      | returned reply page =>
        simp only [sendMessageApi, stepped]
        exact ⟨bounded, fun _ => rfl⟩
      | again loop' =>
        obtain ⟨running', nearer⟩ := next loop' rfl
        obtain ⟨bounded', ends⟩ := ih (reached.again stepped) running'
        simp only [sendMessageApi, stepped]
        rw [← List.append_assoc]
        exact ⟨bounded', fun enough => ends (by omega)⟩

/-- A call returns and keeps its bounds, where the servers for its retry have not failed, no error
of the relay asks for another retry, and the page ends no request while its terminal error is being
settled. -/
theorem failover_bounded {turns : Nat → Turn Key M} {count : Option Nat}
    (regular : ∀ k loop, Reached call turns (Loop.start count page) k loop →
      Regular (turns k) loop) :
    (sendMessageApi call turns 50 0 (Loop.start count page)).2.isSome ∧
      ∀ fuel, Bounded call (sendMessageApi call turns fuel 0 (Loop.start count page)).1 := by
  have run := run_running regular .start (.start count page)
  have rank : (Loop.start count page).rank = 49 := rfl
  exact ⟨(run 50).2 (by rw [rank]; decide), fun fuel => (run fuel).1⟩

/-! ### Samples -/

def sampleCall : Call String := ⟨"hi", .fast, .auto⟩

def samplePage : Page Nat := ⟨none, ""⟩

/-- Every server fails. -/
def failingTurns (k : Nat) : Turn Nat String where
  selectedModel := true
  createApiV1Messages := "hi"
  selection := .failed
  dispatch := .refused 410 none
  refreshed := true
  computeNodeCount := some 4
  replacement := .chosen "8k-fast" (some (k + 1))

theorem failover_bounded_failing :
    (sendMessageApi sampleCall failingTurns 50 0
        (Loop.start (some 4) ⟨some ⟨0, .fast⟩, ""⟩)).2.isSome ∧
      ∀ fuel, Bounded sampleCall (sendMessageApi sampleCall failingTurns fuel 0
        (Loop.start (some 4) ⟨some ⟨0, .fast⟩, ""⟩)).1 :=
  failover_bounded fun _ _ _ => ⟨nofun, nofun, nofun⟩

/-- A prompt that is too long for the window. -/
def windowExceeded : Json :=
  .object [("error", .object [("code", .string "compute_node_context_window_exceeded")])]

/-- Server 1 fails, its replacement 2 finds the prompt too long, and for the retry the relay names
server 1 again. -/
def returningTurns (k : Nat) : Turn Nat String where
  selectedModel := true
  createApiV1Messages := "hi"
  selection := .chosen (if k = 0 then "8k-fast" else "64k-full") (some 1)
  dispatch :=
    if k = 0 then .refused 410 none else .admitted (.replied (.object []) (some windowExceeded))
  refreshed := true
  computeNodeCount := some 2
  replacement := .chosen "8k-fast" (some 2)

theorem retry_returns_to_failed_server :
    (sendMessageApi sampleCall returningTurns 50 0 (Loop.start (some 2) samplePage)).1 =
        [.dispatched 1 "hi" .fast, .failed 1, .dispatched 2 "hi" .fast, .retried,
          .dispatched 1 "hi" .full] ∧
      ¬ Bounded sampleCall
        (sendMessageApi sampleCall returningTurns 50 0 (Loop.start (some 2) samplePage)).1 := by
  have trace : (sendMessageApi sampleCall returningTurns 50 0 (Loop.start (some 2) samplePage)).1 =
      [.dispatched 1 "hi" .fast, .failed 1, .dispatched 2 "hi" .fast, .retried,
        .dispatched 1 "hi" .full] := by decide +kernel
  refine ⟨trace, fun bounded => ?_⟩
  have order := bounded.order
  rw [trace] at order
  simp [Event.Allows] at order

end ChatFailover
