import TokenPlace.StateStore.Delivery

/-!
# Calls and runs

The public interface as one type of calls, and the runs of a store: the
sequences of calls made on it from its creation, each with the clock reading and
the token that the call drew. A call that raises is a step of the run too.
-/

namespace StateStore

open Method

/-- A call of a public method with its arguments. `renew_claim` is
`renewClaimOrReadControl` without an acknowledgement. -/
inductive Op
  | register (nodeId : String) (capabilities : ComputeNodeCapabilities) (digest : String)
  | renew (nodeId digest : String) (capabilities : Option ComputeNodeCapabilities)
  | get (nodeId : String)
  | list
  | expire
  | unregister (nodeId digest : String)
  | unregisterNodeAndTransitionWork (nodeId : String) (digest : Option String) (cause : Cause)
  | setSchedulerState (nodeId digest : String) (state : SchedulerNodeState)
  | selectAndReserve (clientPublicKey requestId requestedModelId requestedContextTier : String)
      (requestDeadlineEpoch : Epoch) (cancellationToken : Option String)
  | enqueueEncryptedRequest (clientPublicKey requestId reservationToken selectedNodeId
      requestedModelId requestedContextTier : String) (requestDeadlineEpoch : Epoch)
      (envelope : EncryptedEnvelope) (cancellationToken : String)
  | listReservations
  | queuedRequests (nodeId : String)
  | claimQueuedRequest (nodeId digest consumerIdentity : String)
  | renewClaimOrReadControl (nodeId digest consumerIdentity clientPublicKey requestId : String)
      (generation : Nat) (acknowledge : Bool)
  | activeClaims (nodeId : String)
  | acceptEncryptedResponse (nodeId digest consumerIdentity clientPublicKey requestId : String)
      (generation : Nat) (envelope : EncryptedEnvelope)
  | retrieveEncryptedResponse (clientPublicKey requestId retrievalCredential : String)
      (acknowledgementToken : Option String)
  | responseRecords
  | cancelOrExpireRequest (clientPublicKey requestId : String) (cancellationToken : Option String)
      (status : Outcome) (reason : Reason)
  | controlTombstones
  | nodeTombstones
  | terminalRecords

/-- What a public method returns. -/
inductive Reply
  | registered (r : ComputeNodeRegistration)
  | registration (r : Option ComputeNodeRegistration)
  | registrations (l : List ComputeNodeRegistration)
  | flag (b : Bool)
  | transition (r : NodeTransitionResult)
  | selection (r : SelectionResult)
  | enqueued (r : EnqueueResult)
  | reservations (l : List ReservationRecord)
  | queue (l : List QueuedRequest)
  | claim (r : ClaimResult)
  | renewal (r : ClaimRenewalResult)
  | claims (l : List ClaimRecord)
  | acceptance (r : ResponseAcceptanceResult)
  | retrieval (r : ResponseRetrievalResult)
  | responses (l : List ResponseRecord)
  | terminal (r : TerminalTransitionResult)
  | controls (l : List ControlTombstoneRecord)
  | nodes (l : List NodeTombstoneRecord)
  | terminals (l : List TerminalOutcomeRecord)
deriving DecidableEq

/-- A call, with what the clock returns to it and the value that
`secrets.token_hex(32)` returns if it draws one. -/
structure Call where
  clock : Epoch
  drawn : String
  op : Op

/-- Wraps the result of a method. -/
def replying {α : Type} (f : α → Reply) (m : StoreM α) : StoreM Reply := do
  let a ← m
  return f a

/-- The method that a call runs. -/
def Call.run (env : StoreEnv) (c : Call) : StoreM Reply :=
  match c.op with
  | .register nodeId capabilities digest =>
    replying .registered (register env c.clock nodeId capabilities digest)
  | .renew nodeId digest capabilities =>
    replying .registration (renew env c.clock nodeId digest capabilities)
  | .get nodeId => replying .registration (getNode env c.clock nodeId)
  | .list => replying .registrations (listNodes env c.clock)
  | .expire => replying .registrations (expire env c.clock)
  | .unregister nodeId digest => replying .flag (unregister env c.clock nodeId digest)
  | .unregisterNodeAndTransitionWork nodeId digest cause =>
    replying .transition (unregisterNodeAndTransitionWork env c.clock nodeId digest cause)
  | .setSchedulerState nodeId digest state =>
    replying .flag (setSchedulerState env c.clock nodeId digest state)
  | .selectAndReserve client request model tier due cancellation =>
    replying .selection
      (selectAndReserve env c.clock c.drawn client request model tier due cancellation)
  | .enqueueEncryptedRequest client request token nodeId model tier due envelope cancellation =>
    replying .enqueued
      (enqueueEncryptedRequest env c.clock client request token nodeId model tier due envelope
        cancellation)
  | .listReservations => replying .reservations (listReservations env c.clock)
  | .queuedRequests nodeId => replying .queue (queuedRequests env c.clock nodeId)
  | .claimQueuedRequest nodeId digest consumer =>
    replying .claim (claimQueuedRequest env c.clock nodeId digest consumer)
  | .renewClaimOrReadControl nodeId digest consumer client request generation acknowledge =>
    replying .renewal
      (renewClaimOrReadControl env c.clock nodeId digest consumer client request generation
        acknowledge)
  | .activeClaims nodeId => replying .claims (activeClaims env c.clock nodeId)
  | .acceptEncryptedResponse nodeId digest consumer client request generation envelope =>
    replying .acceptance
      (acceptEncryptedResponse env c.clock nodeId digest consumer client request generation
        envelope)
  | .retrieveEncryptedResponse client request credential acknowledgement =>
    replying .retrieval
      (retrieveEncryptedResponse env c.clock client request credential acknowledgement)
  | .responseRecords => replying .responses (responseRecords env c.clock)
  | .cancelOrExpireRequest client request cancellation status reason =>
    replying .terminal
      (cancelOrExpireRequest env c.clock client request cancellation status reason)
  | .controlTombstones => replying .controls (controlTombstones env c.clock)
  | .nodeTombstones => replying .nodes (nodeTombstones env c.clock)
  | .terminalRecords => replying .terminals (terminalRecords env c.clock)

/-- The result of a call. -/
def Call.result (env : StoreEnv) (c : Call) (s : Store) : Except StoreError Reply :=
  (c.run env s).1

/-- The state after a call. -/
def Call.next (env : StoreEnv) (c : Call) (s : Store) : Store := (c.run env s).2

/-- The state after a sequence of calls. -/
def runs (env : StoreEnv) (calls : List Call) (s : Store) : Store :=
  calls.foldl (fun s c => c.next env s) s

/-- The states that a store passes through. -/
inductive Reachable (env : StoreEnv) : Store → Prop
  | initial : Reachable env Store.initial
  | step {s : Store} (c : Call) : Reachable env s → Reachable env (c.next env s)

/-- The clock never goes back. -/
def ClockNondecreasing (calls : List Call) : Prop :=
  calls.Pairwise fun a b => a.clock ≤ b.clock

instance (calls : List Call) : Decidable (ClockNondecreasing calls) :=
  inferInstanceAs (Decidable (calls.Pairwise fun a b => a.clock ≤ b.clock))

variable {env : StoreEnv} {calls : List Call} {s : Store} {c : Call}

theorem runs_append {a b : List Call} :
    runs env (a ++ b) s = runs env b (runs env a s) := List.foldl_append

theorem runs_snoc :
    runs env (calls ++ [c]) s = c.next env (runs env calls s) := runs_append

/-- The state after some calls on a new store. -/
def stateAfter (env : StoreEnv) (calls : List Call) : Store := runs env calls Store.initial

theorem stateAfter_snoc :
    stateAfter env (calls ++ [c]) = c.next env (stateAfter env calls) := runs_snoc

theorem Reachable.runs (h : Reachable env s) (calls : List Call) :
    Reachable env (runs env calls s) := by
  induction calls generalizing s with
  | nil => exact h
  | cons c calls ih => exact ih (h.step c)

theorem reachable_runs (calls : List Call) :
    Reachable env (runs env calls Store.initial) :=
  Reachable.initial.runs calls

end StateStore
