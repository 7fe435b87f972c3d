import TokenPlace.Relay.Threads

/-!
# Terminated requests and dispatch

A terminal transition removes the copies of its request from the tables, but not
the envelope that a poll holds between taking it from the queue and storing it as
in flight. If no poll holds one when the terminal record is written, the request
is idle from then on: no poll dispatches it and no control call finds it active.
-/

namespace Relay

open Interleaving

variable {env : RelayEnv} {p : Pair}

/-- The event writes the terminal record. -/
def WritesRecord (env : RelayEnv) (p : Pair) (r : TerminalRecord) (ev : RelayEvent)
    (s : RelaySystem) : Prop :=
  ((relay env).step ev s).shared.terminalRequestIds.get? p = some r ∧
    s.shared.terminalRequestIds.get? p ≠ some r

theorem WritesRecord.idle {r : TerminalRecord} {ev : RelayEvent} {s : RelaySystem}
    (writes : WritesRecord env p r ev s) (unheld : ¬ HeldByPoll p s) :
    Idle p ((relay env).step ev s) := by
  obtain ⟨found, absent⟩ := writes
  cases hf : fired ev s with
  | none =>
    rcases (relay env).step_of_not_fired hf with ⟨k, rfl⟩ | ⟨tick, rfl⟩ | same
    · exact absurd found absent
    · exact absurd found absent
    · rw [same] at found
      exact absurd found absent
  | some t =>
    have effect : Effect env s.shared t ((relay env).exec t s.shared).1 := exec_effect t
    rw [(relay env).shared_of_fired hf] at found
    have uncopied : Uncopied ((relay env).exec t s.shared).1 p := by
      rcases effect.created found with old | uncopied
      · exact absurd old absent
      · exact uncopied
    refine ⟨?_, fun u after e held pair => ?_⟩
    · rw [(relay env).shared_of_fired hf]
      exact uncopied
    · rcases (relay env).awaits_after hf after with new | old
      · -- an action that takes an envelope from a queue writes no record
        have follows : Follows s.shared t u := exec_follows new
        cases follows with
        | plain t u plain =>
          rw [Task.held_of_plain plain] at held
          cases held
        | carries t u e' before same =>
          rw [same] at held
          cases held
          exact unheld ⟨t, e, awaits_of_fired hf, before, pair⟩
        | takes key deadline e' rest queue =>
          have kept : ((relay env).exec (.pollPop key deadline) s.shared).1.terminalRequestIds =
              s.shared.terminalRequestIds := by
            simp only [relay, exec, pollPop, queue]
            split <;> rfl
          rw [kept] at found
          exact absent found
        | proves => cases held
      · exact unheld ⟨u, e, old, held, pair⟩

/-- If no poll holds the request when its terminal record is written, then until
it is enqueued again it is never in flight, no poll dispatches it, and a control
call that is answered `active` found the entry of another request. -/
theorem terminated_not_dispatched (s : RelaySystem) (p : Pair) (r : TerminalRecord)
    (ev : RelayEvent) (writes : WritesRecord env p r ev s) (unheld : ¬ HeldByPoll p s)
    (evs : List RelayEvent)
    (others : (relay env).Along (fun ev s => ¬ Enqueues p ev s) evs ((relay env).step ev s)) :
    ((relay env).runs (ev :: evs) s).shared.holders p = [] ∧
    (∀ ev' e remaining,
      (relay env).replied ev' ((relay env).runs (ev :: evs) s) = some (.dispatched e remaining) →
      e.pair ≠ p) ∧
    ∀ ev' remaining,
      (relay env).replied ev' ((relay env).runs (ev :: evs) s) =
        some (.control .active remaining) →
      ∃ key requestId credential acknowledge now payload entry,
        fired ev' ((relay env).runs (ev :: evs) s) =
          some (.controlOwned key requestId credential acknowledge now) ∧
        ((relay env).runs (ev :: evs) s).shared.knownServers.get? key = some payload ∧
        payload.inFlightRequests.get? requestId = some entry ∧
        (⟨entry.clientPublicKey, requestId⟩ : Pair) ≠ p := by
  have closed : Idle p ((relay env).step ev s) := writes.idle unheld
  have idle : Idle p ((relay env).runs evs ((relay env).step ev s)) := closed.runs others
  refine ⟨idle.1.holders, fun ev' e remaining replied => ?_, fun ev' remaining replied => ?_⟩
  · obtain ⟨t, running, reply⟩ := (relay env).replied_eq_some.mp replied
    have sends : Replies _ t (.dispatched e remaining) := exec_replies reply
    cases sends with
    | plain t r plain => cases plain
    | dispatches t claimed remaining held =>
      exact idle.2 t (awaits_of_fired running) claimed held
  · obtain ⟨t, running, reply⟩ := (relay env).replied_eq_some.mp replied
    have sends : Replies _ t (.control .active remaining) := exec_replies reply
    cases sends with
    | plain t r plain => cases plain
    | active key requestId credential acknowledge now payload entry remaining known found =>
      refine ⟨key, requestId, credential, acknowledge, now, payload, entry, running, known, found,
        ?_⟩
      rintro rfl
      exact idle.1 _ (.inFlight key payload entry known found rfl rfl)

/-- A request is queued, and its requester's token is accepted. -/
def cancellingSample : RelaySystem :=
  sampleRun (sampleNodes ++
    serve 2 (.requests "node-a" (sampleEnvelope "client" "request" "token")) ++
    [.spawn (.cancel ⟨"client", "request"⟩ "token" "cancelled" "requester_cancelled"), .run 3])

theorem terminated_not_dispatched_polled :
    ((relay sampleEnv).runs (.run 3 :: serve 4 (.poll "node-a")) cancellingSample).shared.holders
      ⟨"client", "request"⟩ = [] :=
  (terminated_not_dispatched cancellingSample ⟨"client", "request"⟩
    ⟨.cancelled, .requesterCancelled, 300⟩ (.run 3) (by unfold WritesRecord; decide +kernel)
    (by decide +kernel) (serve 4 (.poll "node-a")) (by decide +kernel)).1

/-- A poll has taken the envelope of the request from the queue, and the
requester's token has been accepted. -/
def overtakenSample : RelaySystem :=
  sampleRun (sampleNodes ++
    serve 2 (.requests "node-a" (sampleEnvelope "client" "request" "token")) ++
    .spawn (.poll "node-a") :: List.replicate 15 (.run 3) ++
    [.spawn (.cancel ⟨"client", "request"⟩ "token" "cancelled" "requester_cancelled"), .run 4])

/-- The poll goes on after the cancellation, and the node asks for instructions. -/
def overtakenLater : List RelayEvent :=
  List.replicate 3 (.run 3) ++
    .spawn (.control "node-a" "request" "credential-a" false) :: List.replicate 14 (.run 5)

/-- The cancellation is recorded and acknowledged, the request is not enqueued
again, and still the poll dispatches its envelope, it is in flight, and the node
is told that it is active. -/
theorem dispatched_after_cancellation :
    WritesRecord sampleEnv ⟨"client", "request"⟩ ⟨.cancelled, .requesterCancelled, 300⟩ (.run 4)
      overtakenSample ∧
    (relay sampleEnv).replied (.run 4) overtakenSample =
      some (.requestCancelled .cancelled "request" 0) ∧
    (relay sampleEnv).Along (fun ev s => ¬ Enqueues ⟨"client", "request"⟩ ev s) overtakenLater
      ((relay sampleEnv).step (.run 4) overtakenSample) ∧
    (relay sampleEnv).replied (.run 3)
      ((relay sampleEnv).runs [.run 4, .run 3, .run 3] overtakenSample) =
      some (.dispatched (sampleEnvelope "client" "request" "token") 60) ∧
    ((relay sampleEnv).runs (.run 4 :: overtakenLater) overtakenSample).shared.holders
      ⟨"client", "request"⟩ ≠ [] ∧
    (relay sampleEnv).replied (.run 5)
      ((relay sampleEnv).runs (.run 4 :: overtakenLater) overtakenSample) =
      some (.control .active (some 60)) := by
  refine ⟨by unfold WritesRecord; decide +kernel, by decide +kernel, by decide +kernel,
    by decide +kernel, ?_, by decide +kernel⟩
  rw [← List.length_pos_iff]
  decide +kernel

end Relay
