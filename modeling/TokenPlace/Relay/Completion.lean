import TokenPlace.Relay.Threads

/-!
# Completed requests

A response that is accepted removes the queued envelopes and the pending marker of
its request, but of the in-flight entries only the first. Where there was at most
one and no poll holds an envelope, the request is idle from then on, so it gets no
terminal record and no tombstone until it is enqueued again.
-/

namespace Relay

open Interleaving

variable {env : RelayEnv} {s : RelayState} {p : Pair}

/-! ## What an accepted response leaves -/

theorem uncopied_of_parts (queues : ∀ key, ∀ e ∈ s.queueOf key, e.pair ≠ p)
    (pending : s.pendingRequestIds.get? p = none) (inFlight : s.holders p = []) :
    Uncopied s p := by
  intro token copied
  cases copied with
  | queued key e member pair same => exact queues key e member pair
  | pending entry found same =>
    rw [pending] at found
    cases found
  | inFlight key payload entry known found client same =>
    have member : (key, payload) ∈ s.holders p :=
      mem_holders.mpr ⟨known, ServerPayload.holds_iff.mpr ⟨entry, found, client⟩⟩
    rw [inFlight] at member
    cases member

theorem releaseFirst_holders (one : (s.holders p).length ≤ 1) :
    (releaseFirst p s).2.holders p = [] := by
  by_contra held
  obtain ⟨⟨key, payload⟩, member⟩ := List.exists_mem_of_ne_nil _ held
  obtain ⟨known, holds⟩ := mem_holders.mp member
  obtain ⟨entry, found, client⟩ := ServerPayload.holds_iff.mp holds
  unfold releaseFirst at known
  split at known
  · next none_held =>
    have before : (key, payload) ∈ s.holders p := mem_holders.mpr ⟨known, holds⟩
    rw [none_held] at before
    cases before
  · next holder rest holders =>
    have last : rest = [] := by
      rw [holders, List.length_cons] at one
      exact List.length_eq_zero_iff.mp (by omega)
    dsimp only at known
    rw [OrderedDict.get?_set] at known
    split at known
    · cases known
      exact (ServerPayload.get?_release found).2 ⟨rfl, client⟩
    · next other =>
      have before : (key, payload) ∈ s.holders p := mem_holders.mpr ⟨known, holds⟩
      rw [holders, last, List.mem_singleton] at before
      exact other (congrArg Prod.fst before)

theorem lifted_uncopied (named : p.blank = false) (one : (s.holders p).length ≤ 1) :
    Uncopied (lifted p s) p := by
  have cleared (x : RelayState) : (clearPendingRequest p x).2 =
      { x with
        pendingRequestIds := x.pendingRequestIds.erase p
        pendingRequestDeadlines := x.pendingRequestDeadlines.erase p } := by
    simp [clearPendingRequest, named]
  unfold lifted
  rw [cleared]
  refine uncopied_of_parts ?_ (by simp) (releaseFirst_holders one)
  intro key e member
  exact (mem_queueOf_removeRequest.mp member).2

/-- The tables as they are when a response is about to complete its request. -/
def beforeCompletion (env : RelayEnv) (e : Envelope) (s : RelayState) : RelayState :=
  let expired := expirePendingRequestIfStale env e.pair (getTerminalRequest e.pair s.wall s).2
  (getTerminalRequest e.pair expired.wall expired).2

/-- The tables without the copies that the response removes. -/
def completing (env : RelayEnv) (e : Envelope) (s : RelayState) : RelayState :=
  let s := lifted e.pair (beforeCompletion env e s)
  (getTerminalRequest e.pair s.wall s).2

theorem recordOutcome_of_mem {outcome : OutcomeLabel} (h : p ∈ s.terminalOutcomes) :
    recordRequestTerminalOutcomeOnce env p outcome s = (false, s) := by
  unfold recordRequestTerminalOutcomeOnce
  simp [h]

theorem acceptResponse_stored {e : Envelope} (named : e.pair.blank = false)
    (h : (acceptResponse env e s).2.reply = some .responseQueued) :
    e.pair ∉ (completing env e s).terminalRequestIds ∧
    e.pair ∉ (completing env e s).terminalOutcomes ∧
    (acceptResponse env e s).1 =
      queueClientResponse e.clientPublicKey e (clearClientProgress e.pair
        (recordRequestTerminalOutcomeOnce env e.pair .completed (completing env e s)).2) := by
  obtain ⟨client, requestId⟩ : e.clientPublicKey ≠ "" ∧ e.requestId ≠ "" :=
    Pair.blank_eq_false.mp named
  unfold acceptResponse at h ⊢
  rw [if_neg client, if_neg requestId] at h ⊢
  dsimp only at h ⊢
  split at h
  · cases h
  · split at h
    · cases h
    · next undelivered =>
      split at h
      · cases h
      · rw [if_neg undelivered]
        unfold completeRequest at h ⊢
        dsimp only at h ⊢
        split at h
        · cases h
        · next unmarked =>
          split at h
          · next owned =>
            split at h
            · next recorded =>
              rw [if_pos owned, if_pos recorded]
              refine ⟨not_mem_of_getTerminalRequest named unmarked, fun member => ?_, rfl⟩
              have written : (recordRequestTerminalOutcomeOnce env e.pair .completed
                (completing env e s)).1 = true := recorded
              rw [recordOutcome_of_mem member] at written
              cases written
            · cases h
          · cases h

theorem beforeCompletion_cases (env : RelayEnv) (s : RelayState) (e : Envelope)
    (named : e.pair.blank = false) :
    (beforeCompletion env e s).holders e.pair = s.holders e.pair ∨
      Uncopied (beforeCompletion env e s) e.pair := by
  unfold beforeCompletion expirePendingRequestIfStale
  dsimp only
  split
  · right
    refine (getTerminalRequest_lessens _ _ _).fewer.uncopied fun token copied => ?_
    rw [cancelApiV1Request_eq named] at copied
    split at copied
    · exact (copied_withdraw (markRequestTerminal_fewer _ _ copied)).2 rfl
    · exact (copied_withdraw copied).2 rfl
  · left
    unfold RelayState.holders
    rw [getTerminalRequest_eq, getTerminalRequest_eq]

theorem acceptResponse_uncopied {e : Envelope} (named : e.pair.blank = false)
    (h : (acceptResponse env e s).2.reply = some .responseQueued)
    (one : (s.holders e.pair).length ≤ 1) : Uncopied (acceptResponse env e s).1 e.pair := by
  have stored := (acceptResponse_stored named h).2.2
  have removed : Uncopied (lifted e.pair (beforeCompletion env e s)) e.pair := by
    rcases beforeCompletion_cases env s e named with same | uncopied
    · exact lifted_uncopied named (same ▸ one)
    · exact (lifted_lessens e.pair _).fewer.uncopied uncopied
  have completing : Uncopied (completing env e s) e.pair :=
    (getTerminalRequest_lessens e.pair _ _).fewer.uncopied removed
  rw [stored, queueClientResponse_eq, clearClientProgress_eq, recordOutcome_eq]
  refine Fewer.uncopied ?_ completing
  exact fewer_of_eq rfl rfl rfl

theorem expireStale_wall (q : Pair) (s : RelayState) :
    (expirePendingRequestIfStale env q s).wall = s.wall := by
  unfold expirePendingRequestIfStale
  split
  · exact cancelApiV1Request_wall
  · rfl

theorem completing_wall (e : Envelope) (s : RelayState) : (completing env e s).wall = s.wall := by
  unfold completing beforeCompletion
  dsimp only
  rw [getTerminalRequest_eq, lifted_eq, getTerminalRequest_eq]
  dsimp only
  rw [expireStale_wall, getTerminalRequest_eq]

theorem acceptResponse_outcome {e : Envelope} (named : e.pair.blank = false)
    (h : (acceptResponse env e s).2.reply = some .responseQueued) :
    e.pair ∉ (acceptResponse env e s).1.terminalRequestIds ∧
    (acceptResponse env e s).1.terminalOutcomes.get? e.pair = some (env.retainedUntil s.wall) ∧
    (some e.pair, .completed) ∈ (acceptResponse env e s).1.outcomeIncrements := by
  obtain ⟨unmarked, fresh, stored⟩ := acceptResponse_stored named h
  have recorded : (recordRequestTerminalOutcomeOnce env e.pair .completed
      (completing env e s)).2 =
      { completing env e s with
        terminalOutcomes :=
          (completing env e s).terminalOutcomes.set e.pair (env.retainedUntil s.wall)
        outcomeIncrements :=
          (completing env e s).outcomeIncrements ++ [(some e.pair, .completed)] } := by
    simp [recordRequestTerminalOutcomeOnce, named, fresh, completing_wall]
  rw [stored, queueClientResponse_eq, clearClientProgress_eq, recorded]
  exact ⟨unmarked, by simp, by simp⟩

/-! ## Runs -/

theorem Idle.runs_dormant {s : RelaySystem} {evs : List RelayEvent}
    (others : (relay env).Along (fun ev s => ¬ Enqueues p ev s) evs s) (idle : Idle p s) :
    (∀ r, ((relay env).runs evs s).shared.terminalRequestIds.get? p = some r →
      s.shared.terminalRequestIds.get? p = some r) ∧
    ∀ key t, ((relay env).runs evs s).shared.controlTombstones.get? key = some t → t.pair = p →
      s.shared.controlTombstones.get? key = some t := by
  induction evs generalizing s with
  | nil => exact ⟨fun _ found => found, fun _ _ found _ => found⟩
  | cons ev evs ih =>
    obtain ⟨records, tombstones⟩ := ih others.2 (idle.step others.1)
    obtain ⟨records', tombstones'⟩ := idle.dormant others.1
    exact ⟨fun r found => records' r (records r found),
      fun key t found pair => tombstones' key t (tombstones key t found pair) pair⟩

/-- The event accepts a response for the request: it is answered 200 and queued. -/
def Accepts (env : RelayEnv) (p : Pair) (ev : RelayEvent) (s : RelaySystem) : Prop :=
  ∃ e, fired ev s = some (.acceptResponse e) ∧ e.pair = p ∧
    (acceptResponse env e s.shared).2.reply = some .responseQueued

theorem Accepts.named {ev : RelayEvent} {s : RelaySystem} (accepts : Accepts env p ev s)
    (keyed : p.requestId ≠ "") : p.blank = false := by
  obtain ⟨e, -, rfl, reply⟩ := accepts
  refine Pair.blank_eq_false.mpr ⟨fun (client : e.clientPublicKey = "") => ?_, keyed⟩
  unfold acceptResponse at reply
  rw [if_pos client] at reply
  cases reply

theorem Accepts.idle {ev : RelayEvent} {s : RelaySystem} (accepts : Accepts env p ev s)
    (keyed : p.requestId ≠ "") (one : (s.shared.holders p).length ≤ 1)
    (unheld : ¬ HeldByPoll p s) : Idle p ((relay env).step ev s) := by
  have named := accepts.named keyed
  obtain ⟨e, running, rfl, reply⟩ := accepts
  refine ⟨?_, fun u after c held pair => ?_⟩
  · rw [(relay env).shared_of_fired running]
    exact acceptResponse_uncopied named reply one
  · rcases (relay env).awaits_after running after with new | old
    · have none_left : ((relay env).exec (.acceptResponse e) s.shared).2.actions = [] :=
        acceptResponse_actions e
      rw [none_left] at new
      cases new
    · exact unheld ⟨u, c, old, held, pair⟩

/-- A response that is accepted when its request is in flight at most once and held
by no poll releases it on every node, and as long as the request is not enqueued
again no terminal record and no tombstone of it appears. -/
theorem completion_final (s : RelaySystem) (p : Pair) (keyed : p.requestId ≠ "")
    (ev : RelayEvent) (accepts : Accepts env p ev s) (one : (s.shared.holders p).length ≤ 1)
    (unheld : ¬ HeldByPoll p s) (evs : List RelayEvent)
    (others : (relay env).Along (fun ev s => ¬ Enqueues p ev s) evs ((relay env).step ev s)) :
    ((relay env).step ev s).shared.holders p = [] ∧
    ((relay env).step ev s).shared.terminalOutcomes.get? p =
      some (env.retainedUntil s.shared.wall) ∧
    (some p, .completed) ∈ ((relay env).step ev s).shared.outcomeIncrements ∧
    ((relay env).runs (ev :: evs) s).shared.terminalRequestIds.get? p = none ∧
    ((relay env).runs (ev :: evs) s).shared.holders p = [] ∧
    ∀ key t, ((relay env).runs (ev :: evs) s).shared.controlTombstones.get? key = some t →
      t.pair = p → ((relay env).step ev s).shared.controlTombstones.get? key = some t := by
  have completed : Idle p ((relay env).step ev s) := accepts.idle keyed one unheld
  have idle : Idle p ((relay env).runs evs ((relay env).step ev s)) := completed.runs others
  obtain ⟨records, tombstones⟩ := completed.runs_dormant others
  obtain ⟨unmarked, outcome, counted⟩ : p ∉ ((relay env).step ev s).shared.terminalRequestIds ∧
      ((relay env).step ev s).shared.terminalOutcomes.get? p =
        some (env.retainedUntil s.shared.wall) ∧
      (some p, .completed) ∈ ((relay env).step ev s).shared.outcomeIncrements := by
    have named := accepts.named keyed
    obtain ⟨e, running, rfl, reply⟩ := accepts
    rw [(relay env).shared_of_fired running]
    exact acceptResponse_outcome named reply
  refine ⟨completed.1.holders, outcome, counted, ?_, idle.1.holders, tombstones⟩
  rw [Option.eq_none_iff_forall_ne_some]
  intro r found
  exact unmarked (OrderedDict.mem_of_get? (records r found))

/-- A request is dispatched to one node, which sends its response. -/
def answeredSample : RelaySystem :=
  sampleRun (sampleNodes ++
    serve 2 (.requests "node-a" (sampleEnvelope "client" "request" "token")) ++
    serve 3 (.poll "node-a") ++ [.spawn (.responses (sampleEnvelope "client" "request" ""))])

theorem completion_final_swept :
    ((relay sampleEnv).runs (.run 4 :: tickTo 61 :: serve 5 .sweep)
      answeredSample).shared.terminalRequestIds.get? ⟨"client", "request"⟩ = none := by
  have accepts : Accepts sampleEnv ⟨"client", "request"⟩ (.run 4) answeredSample :=
    ⟨sampleEnvelope "client" "request" "", by decide +kernel, rfl, by decide +kernel⟩
  have others : (relay sampleEnv).Along (fun ev s => ¬ Enqueues ⟨"client", "request"⟩ ev s)
      (tickTo 61 :: serve 5 .sweep) ((relay sampleEnv).step (.run 4) answeredSample) := by
    decide +kernel
  exact (completion_final answeredSample ⟨"client", "request"⟩ (by decide) (.run 4) accepts
    (by decide +kernel) (by decide +kernel) _ others).2.2.2.1

/-- A request is enqueued at two nodes, both poll, and one sends its response. -/
def duplicatedSample : RelaySystem :=
  sampleRun (sampleNodes ++
    serve 2 (.requests "node-a" (sampleEnvelope "client" "request" "token")) ++
    serve 3 (.requests "node-b" (sampleEnvelope "client" "request" "token")) ++
    serve 4 (.poll "node-a") ++ serve 5 (.poll "node-b") ++
    [.spawn (.responses (sampleEnvelope "client" "request" ""))])

/-- The response is retrieved, and after the deadline the relay sweeps. -/
def duplicatedLater : List RelayEvent :=
  serve 7 (.retrieve ⟨"client", "request"⟩) ++ tickTo 61 :: serve 8 .sweep

/-- The response is accepted, one in-flight entry stays, and while the outcome is
still recorded as completed the request gets a terminal record and a tombstone. -/
theorem completed_then_expired :
    Accepts sampleEnv ⟨"client", "request"⟩ (.run 6) duplicatedSample ∧
    ((relay sampleEnv).step (.run 6) duplicatedSample).shared.holders ⟨"client", "request"⟩ ≠ [] ∧
    (some ⟨"client", "request"⟩, .completed) ∈
      ((relay sampleEnv).step (.run 6) duplicatedSample).shared.outcomeIncrements ∧
    (relay sampleEnv).Along
      (fun ev s => ((relay sampleEnv).step ev s).shared.terminalOutcomes.get?
        ⟨"client", "request"⟩ = some 300) (.run 6 :: duplicatedLater) duplicatedSample ∧
    ((relay sampleEnv).runs (.run 6 :: duplicatedLater)
      duplicatedSample).shared.terminalRequestIds.get? ⟨"client", "request"⟩ =
      some ⟨.expired, .providerTimeout, 361⟩ ∧
    (((relay sampleEnv).runs (.run 6 :: duplicatedLater)
      duplicatedSample).shared.controlTombstones.get? (controlTombstoneKey "node-b" "request")).map
      ControlTombstone.pair = some ⟨"client", "request"⟩ := by
  refine ⟨⟨sampleEnvelope "client" "request" "", by decide +kernel, rfl, by decide +kernel⟩, ?_,
    by decide +kernel, by decide +kernel, by decide +kernel, by decide +kernel⟩
  rw [← List.length_pos_iff]
  decide +kernel

end Relay
