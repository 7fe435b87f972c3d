import TokenPlace.Relay.Threads

/-!
# Cancel tokens

A cancellation is proved with a token that is looked up in the pending marker, then
in the queues, then in the in-flight entries. Every enqueue writes its own token to
the pending marker, whatever token the request was admitted with.

`Bound` follows a run in which an enqueue of a request that is still engaged
repeats its token. In such a run every copy of the request carries the token of
the enqueue that admitted it, so no other token cancels it.
-/

namespace Relay

open Interleaving

variable {env : RelayEnv} {p : Pair}

/-- The action is a cancellation of the request whose token has been checked. -/
def Task.verifies (p : Pair) : Task → Bool
  | .requesterCancel q _ _ _ => q = p
  | _ => false

/-- The request has a copy in the tables or in a poll, or a cancellation of it is
under way. -/
def Engaged (p : Pair) (s : RelaySystem) : Prop :=
  s.shared.engaged p = true ∨ HeldByPoll p s ∨
    ∃ thread ∈ s.threads, ∃ u ∈ thread, u.verifies p = true

instance (p : Pair) (s : RelaySystem) : Decidable (Engaged p s) :=
  inferInstanceAs (Decidable (_ ∨ _ ∨ _))

/-- The system is reached by a run in which every enqueue of the request while it
is engaged repeats its token, and `token` is that of the enqueue that admitted the
request last. -/
inductive Bound (env : RelayEnv) (p : Pair) : RelaySystem → String → Prop
  | start (wall monotonic : ℚ) : Bound env p (started wall monotonic) ""
  | admits {s : RelaySystem} {token : String} {ev : RelayEvent} {key : String}
      {e : QueuedEnvelope} (bound : Bound env p s token)
      (running : fired ev s = some (.enqueue key e)) (known : key ∈ s.shared.knownServers)
      (pair : e.pair = p) (free : ¬ Engaged p s) :
      Bound env p ((relay env).step ev s) e.cancelToken
  | keeps {s : RelaySystem} {token : String} {ev : RelayEvent} (bound : Bound env p s token)
      (repeats : ∀ key e, fired ev s = some (.enqueue key e) → key ∈ s.shared.knownServers →
        e.pair = p → Engaged p s ∧ e.cancelToken = token) :
      Bound env p ((relay env).step ev s) token

/-- The thread carries no other token for the request. -/
def Task.Carries (p : Pair) (token : String) (u : Task) : Prop :=
  (∀ e, u.held = some e → e.pair = p → e.cancelToken = token) ∧
    ∀ token' status reason, u = .requesterCancel p token' status reason → token' = token

/-- Every copy of the request and every cancellation of it carries the token. -/
def Carried (p : Pair) (token : String) (s : RelaySystem) : Prop :=
  Machine.Holds (fun x => ∀ token', Copied x p token' → token' = token)
    (fun u _ => u.Carries p token) s

variable {token : String} {s : RelaySystem} {key : String} {u : Task}

theorem Task.carries_of_plain (h : u.plain = true) :
    u.Carries p token := by
  refine ⟨fun e held => ?_, ?_⟩
  · rw [Task.held_of_plain h] at held
    cases held
  · rintro token' status reason rfl
    cases h

theorem Follows.keeps_token {s : RelayState} {t u : Task} (follows : Follows s t u)
    (copies : ∀ token', Copied s p token' → token' = token) (before : t.Carries p token) :
    u.Carries p token := by
  refine ⟨fun e held pair => ?_, ?_⟩
  · rcases follows.held held with same | copied
    · exact before.1 e same pair
    · exact copies _ (pair ▸ copied)
  · rintro token' status reason rfl
    cases follows with
    | plain t u plain => cases plain
    | carries t u e heldBefore heldAfter => cases heldAfter
    | proves t q token' status reason copied => exact copies token' copied

theorem carries_of_free (free : ¬ Engaged p s) (awaits : s.Awaits u) : u.Carries p token := by
  refine ⟨fun e held pair => ?_, ?_⟩
  · exact absurd (Or.inr (Or.inl ⟨u, e, awaits, held, pair⟩)) free
  · rintro token' status reason rfl
    obtain ⟨thread, member, inThread⟩ := awaits
    exact absurd (Or.inr (Or.inr ⟨thread, member, _, inThread, by simp [Task.verifies]⟩)) free

theorem Carried.step {ev : RelayEvent}
    (repeats : ∀ key e, fired ev s = some (.enqueue key e) → key ∈ s.shared.knownServers →
      e.pair = p → e.cancelToken = token)
    (copies : ∀ token', Copied s.shared p token' → token' = token)
    (threads : ∀ u, s.Awaits u → u.Carries p token) : Carried p token ((relay env).step ev s) := by
  refine (relay env).holds_step ?_ ?_ ?_ ⟨copies, threads⟩
  · intro call _ u member
    exact Task.carries_of_plain (List.all_eq_true.mp (handler_plain call) u member)
  · intro tick copies
    have fewer : Fewer s.shared ((relay env).environment tick s.shared) :=
      fewer_of_eq rfl rfl rfl
    exact ⟨fun token' copied => copies token' (fewer p token' copied), fun u carries => carries⟩
  · intro t running
    have effect : Effect env s.shared t ((relay env).exec t s.shared).1 := exec_effect t
    have carried := threads t (awaits_of_fired running)
    refine ⟨fun token' after => ?_, fun u new => (exec_follows new).keeps_token copies carried,
      threads⟩
    rcases effect.copied after with old | ⟨key, e, rfl, known, pair, rfl⟩ |
      ⟨key, e, remaining, rfl, pair, rfl⟩
    · exact copies token' old
    · exact repeats key e running known pair
    · exact carried.1 e rfl pair

theorem Bound.carried (bound : Bound env p s token) :
    Carried p token s := by
  induction bound with
  | start wall monotonic =>
    refine ⟨fun token' copied => ?_, fun u awaits => ?_⟩
    · cases copied with
      | queued key e member => cases member
      | pending entry found => cases found
      | inFlight key payload entry known => cases known
    · obtain ⟨thread, member, -⟩ := awaits
      cases member
  | @admits s token ev key e bound running known pair free ih =>
    refine Carried.step ?_ ?_ fun u awaits => carries_of_free free awaits
    · intro key' e' running' _ _
      cases running.symm.trans running'
      rfl
    · intro token' copied
      exact absurd (Or.inl (engaged_iff.mpr ⟨token', copied⟩)) free
  | keeps bound repeats ih =>
    exact Carried.step (fun key e running known pair => (repeats key e running known pair).2) ih.1
      ih.2

theorem Bound.runs {evs : List RelayEvent}
    (others : (relay env).Along (fun ev s => ¬ Enqueues p ev s) evs s)
    (bound : Bound env p s token) : Bound env p ((relay env).runs evs s) token := by
  refine (relay env).along_runs (J := fun s => Bound env p s token) ?_ others bound
  intro ev s other bound
  exact bound.keeps fun key e running known pair => absurd ⟨key, e, running, known, pair⟩ other

/-! ## The token that a cancellation is checked against -/

/-- `_cancel_token_for_queued_or_in_flight_request`, with its three lookups in one
state. -/
def cancelTokenFor (p : Pair) (s : RelayState) : String :=
  if pendingCancelToken p s ≠ "" then pendingCancelToken p s
  else
    match queuedCancelToken p s with
    | some token => token
    | none => (inFlightCancelToken p s).getD ""

theorem queuedCancelToken_ne_none {s : RelayState} {e : QueuedEnvelope}
    (member : e ∈ s.queueOf key) (pair : e.pair = p) : queuedCancelToken p s ≠ none := by
  unfold queuedCancelToken
  rw [ne_eq, Option.map_eq_none_iff, List.find?_eq_none]
  intro absent
  cases stored : s.inferenceRequests.get? key with
  | none => simp [RelayState.queueOf, stored] at member
  | some queue =>
    have inQueue : e ∈ queue := by simpa [RelayState.queueOf, stored] using member
    have values : queue ∈ s.inferenceRequests.values := OrderedDict.mem_values.mpr ⟨key, stored⟩
    exact absent e (List.mem_flatten.mpr ⟨queue, values, inQueue⟩) (by simpa using pair)

theorem inFlightCancelToken_ne_none {s : RelayState} {payload : ServerPayload}
    (known : s.knownServers.get? key = some payload) (holds : payload.holds p = true) :
    inFlightCancelToken p s ≠ none := by
  have member : (key, payload) ∈ s.holders p := mem_holders.mpr ⟨known, holds⟩
  unfold inFlightCancelToken
  cases holders : s.holders p with
  | nil =>
    rw [holders] at member
    cases member
  | cons holder rest => simp

theorem cancelTokenFor_of_copies {s : RelayState}
    (copies : ∀ token', Copied s p token' → token' = token) (live : ∃ token', Copied s p token') :
    cancelTokenFor p s = token := by
  unfold cancelTokenFor
  split
  · next pending => exact copies _ (copied_of_pendingCancelToken pending)
  · next blank =>
    cases queued : queuedCancelToken p s with
    | some token' => exact copies token' (copied_of_queuedCancelToken queued)
    | none =>
      cases inFlight : inFlightCancelToken p s with
      | some token' => exact copies token' (copied_of_inFlightCancelToken inFlight)
      | none =>
        -- then only the pending marker is left, with a token that is blank
        obtain ⟨token', copied⟩ := live
        have same := copies token' copied
        cases copied with
        | queued key e member pair _ => exact absurd queued (queuedCancelToken_ne_none member pair)
        | pending entry found token_eq =>
          simp only [pendingCancelToken, found, Option.map_some, Option.getD_some, ne_eq,
            not_not] at blank
          simp [← same, ← token_eq, blank]
        | inFlight key payload entry known found client _ =>
          have holds := ServerPayload.holds_iff.mpr ⟨entry, found, client⟩
          exact absurd inFlight (inFlightCancelToken_ne_none known holds)

/-- In every run in which an enqueue of an engaged request repeats its token, a
cancellation is accepted only with the token of the enqueue that admitted the
request, and as long as a copy of the request is in the tables that token is the
one it is checked against, also across the next event of such a run. -/
theorem cancel_token_bound (s : RelaySystem) (p : Pair) (token : String)
    (bound : Bound env p s token) :
    (∀ ev status requestId removed,
      (relay env).replied ev s = some (.requestCancelled status requestId removed) →
      ∃ q token' reason, fired ev s = some (.requesterCancel q token' status reason) ∧
        q.requestId = requestId ∧ (q = p → token' = token)) ∧
    ((∃ token', Copied s.shared p token') → cancelTokenFor p s.shared = token) ∧
    ∀ ev,
      (∀ key e, fired ev s = some (.enqueue key e) → key ∈ s.shared.knownServers → e.pair = p →
        Engaged p s ∧ e.cancelToken = token) →
      (∃ token', Copied ((relay env).step ev s).shared p token') →
      cancelTokenFor p ((relay env).step ev s).shared = token := by
  have carried := bound.carried
  refine ⟨fun ev status requestId removed replied => ?_, cancelTokenFor_of_copies carried.1,
    fun ev repeats => cancelTokenFor_of_copies (bound.keeps repeats).carried.1⟩
  obtain ⟨t, running, reply⟩ := (relay env).replied_eq_some.mp replied
  have sends : Replies _ t (.requestCancelled status requestId removed) := exec_replies reply
  cases sends with
  | plain t r plain => cases plain
  | cancels q token' status reason removed =>
    refine ⟨q, token', reason, running, rfl, ?_⟩
    rintro rfl
    exact (carried.2 _ (awaits_of_fired running)).2 token' status reason rfl

/-- A call of the requests route is about to enqueue its envelope. -/
def admittingSchedule : List RelayEvent :=
  sampleNodes ++ .spawn (.requests "node-a" (sampleEnvelope "client" "request" "token")) ::
    List.replicate 12 (.run 2)

theorem cancel_token_bound_dispatched :
    cancelTokenFor ⟨"client", "request"⟩
      ((relay sampleEnv).runs (serve 3 (.poll "node-a"))
        ((relay sampleEnv).step (.run 2) (sampleRun admittingSchedule))).shared = "token" := by
  have before : Bound sampleEnv ⟨"client", "request"⟩ (sampleRun admittingSchedule) "" :=
    (Bound.start 0 0).runs (by decide +kernel)
  have admitted : Bound sampleEnv ⟨"client", "request"⟩
      ((relay sampleEnv).step (.run 2) (sampleRun admittingSchedule)) "token" :=
    before.admits
      (e := ⟨sampleEnvelope "client" "request" "token", 60⟩)
      (show fired (.run 2) (sampleRun admittingSchedule) = some (.enqueue "node-a" _) by
        decide +kernel)
      (by decide +kernel) (by decide +kernel) (by decide +kernel)
  have others : (relay sampleEnv).Along (fun ev s => ¬ Enqueues ⟨"client", "request"⟩ ev s)
      (serve 3 (.poll "node-a"))
      ((relay sampleEnv).step (.run 2) (sampleRun admittingSchedule)) := by decide +kernel
  have dispatched := admitted.runs others
  refine (cancel_token_bound _ _ _ dispatched).2.1 ⟨"token", ?_⟩
  exact .pending ⟨60, "token"⟩ (by decide +kernel) rfl

/-- A request is enqueued at one node, and then a request of the same client key
and id at another node with a token of its own. -/
def reboundSample : RelaySystem :=
  sampleRun (sampleNodes ++
    serve 2 (.requests "node-a" (sampleEnvelope "client" "request" "token")) ++
    serve 3 (.requests "node-b" (sampleEnvelope "client" "request" "intruder")))

/-- The token of the request is refused from then on, and the other is accepted. -/
theorem cancelled_with_another_token :
    cancelTokenFor ⟨"client", "request"⟩
      (sampleRun (sampleNodes ++
        serve 2 (.requests "node-a" (sampleEnvelope "client" "request" "token")))).shared =
      "token" ∧
    cancelTokenFor ⟨"client", "request"⟩ reboundSample.shared = "intruder" ∧
    (relay sampleEnv).replied (.run 4)
      ((relay sampleEnv).runs
        [.spawn (.cancel ⟨"client", "request"⟩ "token" "cancelled" "requester_cancelled")]
        reboundSample) = some (.error 403 "Missing or invalid cancel proof") ∧
    (relay sampleEnv).replied (.run 4)
      ((relay sampleEnv).runs
        [.spawn (.cancel ⟨"client", "request"⟩ "intruder" "cancelled" "requester_cancelled"),
          .run 4]
        reboundSample) = some (.requestCancelled .cancelled "request" 2) := by
  refine ⟨?_, ?_, ?_, ?_⟩ <;> decide +kernel

end Relay
