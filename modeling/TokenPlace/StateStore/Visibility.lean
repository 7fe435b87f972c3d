import TokenPlace.StateStore.Retrieval
import TokenPlace.StateStore.Teardown

/-!
# What a requester sees of a cancelled request

A retrieval authenticates against `retrieval_credential_digest` of the terminal
record. `accept_encrypted_response` copies the digest of the reservation token into
it, `_terminalize_locked` does not: it writes `"completed_unavailable"` beside an
empty digest, and no credential has an empty digest.

* `RecordRule`: what a property of terminal records needs to hold of all of them;
* `terminal_state_unobservable`: in every run, a retrieval of a request that was
  cancelled, expired or removed with its node is told that its credential is invalid.
-/

namespace StateStore

open Method

section

variable {env : StoreEnv} {P : TerminalPolicy} {now : Epoch} {s s' : Store} {id : Identity}
  {Q : TerminalOutcomeRecord → Prop}

/-! ## Properties of every terminal record -/

/-- Both writers of terminal records write records with the property, and settling
a ready record keeps it. -/
structure RecordRule (env : StoreEnv) (Q : TerminalOutcomeRecord → Prop) : Prop where
  terminalized : ∀ s id w status reason now claim, Q (terminalOf env s id w status reason now claim)
  accepted : ∀ req digest response retrieval cancellation now,
    Q (completedTerminal env req digest response retrieval cancellation now)
  settled : ∀ t state, t.retrievalState = .responseReady → Q t → Q { t with retrievalState := state }

/-- Every terminal record has the property. -/
def EveryRecord (Q : TerminalOutcomeRecord → Prop) (s : Store) : Prop :=
  ∀ id t, s.terminals.get? id = some t → Q t

theorem EveryRecord.of_same (all : EveryRecord Q s) (terminals : s'.terminals = s.terminals) :
    EveryRecord Q s' := by
  unfold EveryRecord
  rw [terminals]
  exact all

theorem EveryRecord.of_set {k : Identity} {t : TerminalOutcomeRecord} (all : EveryRecord Q s)
    (new : Q t) (terminals : s'.terminals = s.terminals.set k t) : EveryRecord Q s' := by
  intro id t' found
  rw [terminals, OrderedDict.get?_set] at found
  split at found
  · cases found
    exact new
  · exact all id t' found

theorem Terminalizes.everyRecord {k : Identity} {w : Work} {status : Outcome} {reason : Reason}
    {force : Bool} (rule : RecordRule env Q) (all : EveryRecord Q s)
    (h : Terminalizes env P now k w status reason force s s') : EveryRecord Q s' := by
  intro id t found
  rw [h.terminals] at found
  split at found
  · cases found
    exact rule.terminalized ..
  · exact all id t found

theorem Sweep.everyRecord (rule : RecordRule env Q) (h : Sweep env P now s s')
    (all : EveryRecord Q s) : EveryRecord Q s' := by
  cases h with
  | reapRetained =>
    intro id t found
    rw [reapRetained_terminals] at found
    obtain ⟨t₀, stored, rfl⟩ := Option.map_eq_some_iff.mp (Option.filter_eq_some_iff.mp found).1
    split
    · unfold expireRetrieval
      split
      · next ready => exact rule.settled t₀ _ ready (all id t₀ stored)
      · exact all id t₀ stored
    · exact all id t₀ stored
  | terminalize h => exact h.everyRecord rule all
  | defer h | touchFences h | finishRemoval h => exact all.of_same (by rw [h.post])
  | lapse h | startRemoval h | discardWork h => exact all.of_same (by rw [h.post]; rfl)

theorem Commit.everyRecord {drawn : String} {op : Op} {r : Except StoreError Reply}
    (rule : RecordRule env Q) (h : Commit env now drawn op s r s') (all : EveryRecord Q s) :
    EveryRecord Q s' := by
  cases h with
  | register h | reregister _ h | renew h | setScheduler h | advance h | claim _ _ h
  | renewClaim _ h | acknowledgeControl _ h => exact all.of_same (by rw [h.post])
  | reserve _ h | enqueue _ h => exact all.of_same (by rw [h.post]; rfl)
  | accept _ h => exact all.of_set (rule.accepted ..) (congrArg Store.terminals h.post)
  | acknowledgeResponse _ h | repair _ h =>
    exact all.of_set (rule.settled _ _ h.ready (all _ _ h.present)) (congrArg Store.terminals h.post)
  | cancel _ h => exact h.everyRecord rule all

theorem Reachable.everyRecord (rule : RecordRule env Q) (h : Reachable env s) : EveryRecord Q s :=
  h.invariant (fun _ _ found => by cases found) (fun _ _ _ step => step.everyRecord rule)
    fun _ _ _ _ _ _ commit => commit.everyRecord rule

/-! ## Records that no credential opens -/

/-- A record without a response is unavailable and has no credential. -/
def Sealed (t : TerminalOutcomeRecord) : Prop :=
  t.outcome ≠ .completed →
    t.retrievalState = .completedUnavailable ∧ t.retrievalCredentialDigest = ""

theorem sealed_rule : RecordRule env Sealed where
  terminalized := fun _ _ _ _ _ _ _ _ => ⟨rfl, rfl⟩
  accepted := fun _ _ _ _ _ _ unfinished => absurd rfl unfinished
  settled := fun t state ready kept unfinished => by
    have unavailable := (kept unfinished).1
    rw [ready] at unavailable
    cases unavailable

theorem safeRetrievalCredentialDigest_ne_empty (nonempty : ∀ bytes, env.runtime.sha256 bytes ≠ "")
    (credential : String) : safeRetrievalCredentialDigest env credential ≠ "" := by
  unfold safeRetrievalCredentialDigest
  split
  · exact nonempty _
  · decide

/-- In every run, a retrieval that finds the terminal record of a request that was
not completed answers every credential, that of the reservation included, that it is
invalid; the state that the record holds is never told. -/
theorem terminal_state_unobservable (env : StoreEnv)
    (nonempty : ∀ bytes, env.runtime.sha256 bytes ≠ "") (calls : List Call) (k : Call)
    (client request credential : String) (acknowledgement : Option String) (id : Identity)
    (s₁ : Store) (t : TerminalOutcomeRecord)
    (retrieves : k.op = .retrieveEncryptedResponse client request credential acknowledgement)
    (identity : identityOf env client request = .ok id)
    (starts : Starts env k (stateAfter env calls) s₁)
    (ended : s₁.terminals.get? id = some t) (unfinished : t.outcome ≠ .completed) :
    t.retrievalState = .completedUnavailable ∧
      k.result env (stateAfter env calls) = .ok (.retrieval .invalidRetrievalCredential) ∧
      k.result env (stateAfter env calls) ≠ .ok (.retrieval (.settled t.retrievalState)) := by
  have all : EveryRecord Sealed s₁ := by
    have swept := (k.op.housekeeping_sweeps k.clock).of_eq starts.housekept
    exact swept.keeps (fun _ _ step => step.everyRecord sealed_rule)
      ((reachable_runs calls).everyRecord sealed_rule)
  obtain ⟨unavailable, blank⟩ := all id t ended unfinished
  have wrong : safeRetrievalCredentialDigest env credential ≠ t.retrievalCredentialDigest := by
    rw [blank]
    exact safeRetrievalCredentialDigest_ne_empty nonempty credential
  have body : retrieveEncryptedResponseLocked env id credential acknowledgement s₁ =
      (.ok .invalidRetrievalCredential, s₁) := by
    have told : Ends (retrieveEncryptedResponseLocked env id credential acknowledgement) s₁
        fun r s' => (r, s') = (.ok .invalidRetrievalCredential, s₁) := by
      unfold retrieveEncryptedResponseLocked
      simp only [ends_bind, ends_getState, follow_ok, ended, ends_ite, ends_pure]
      exact ⟨fun _ => trivial, fun same => absurd (not_not.mp same) wrong⟩
    exact told
  have result : k.result env (stateAfter env calls) =
      .ok (.retrieval .invalidRetrievalCredential) := by
    unfold Call.result
    rw [starts.retrieval retrieves identity]
    show (andThen _ _ s₁).1 = _
    unfold andThen
    rw [body]
    rfl
  refine ⟨unavailable, result, ?_⟩
  rw [result]
  simp

end

/-! ## A cancelled request -/

theorem sampleRuntime_digest_nonempty (bytes : List UInt8) : sampleRuntime.sha256 bytes ≠ "" := by
  show tableDigest sampleDigests bytes ≠ ""
  unfold tableDigest
  cases found : sampleDigests.find? fun e => utf8 e.1 = bytes with
  | none =>
    intro blank
    have length := congrArg (fun x => x.toList.length) (show rareText bytes = "" from blank)
    simp [rareText] at length
  | some e =>
    intro blank
    have hex := (sampleDigests_ok.2 e (List.mem_of_find?_eq_some found)).1
    rw [show e.2 = "" from blank] at hex
    exact absurd hex (by decide)

/-- The requester cancels the queued request at 2. -/
def withdrawing : Call :=
  sampleCall 2 (.cancelOrExpireRequest "client-1" "request-1" (some "cancel-1") .cancelled
    .requesterCancelled)

/-- The state after the housekeeping of a retrieval at 3. -/
def cancelledStore : Store :=
  (reapLocked defaultEnv 3 (stateAfter defaultEnv (registration :: admission 100 ++ [withdrawing]))).2

theorem terminal_state_unobservable_sample :
    (cancelledStore.terminals.get? sampleIdentity).map (·.outcome) = some .cancelled ∧
      Call.result defaultEnv (retrieving 3 none)
          (stateAfter defaultEnv (registration :: admission 100 ++ [withdrawing])) =
        .ok (.retrieval .invalidRetrievalCredential) := by
  have present : ∃ t, cancelledStore.terminals.get? sampleIdentity = some t ∧
      t.outcome ≠ .completed :=
    have found : (cancelledStore.terminals.get? sampleIdentity).any
        (fun t => t.outcome ≠ .completed) = true := by decide +kernel
    have ⟨t, stored, other⟩ := Option.any_eq_true _ _ |>.mp found
    ⟨t, stored, of_decide_eq_true other⟩
  obtain ⟨t, stored, other⟩ := present
  have starts : Starts defaultEnv (retrieving 3 none)
      (stateAfter defaultEnv (registration :: admission 100 ++ [withdrawing])) cancelledStore :=
    ⟨by decide +kernel, by decide +kernel, (fun ⟨⟨_, _, _, heq⟩, _⟩ => by cases heq),
      Prod.ext (by decide +kernel) rfl⟩
  refine ⟨by decide +kernel, ?_⟩
  exact (terminal_state_unobservable defaultEnv sampleRuntime_digest_nonempty
    (registration :: admission 100 ++ [withdrawing]) (retrieving 3 none) "client-1" "request-1"
    sampleToken none sampleIdentity cancelledStore t rfl (by decide +kernel) starts stored other).2.1

/-- The request is queued under the sample token and cancelled. Its record says
`"completed_unavailable"`, but the requester is told that its token is invalid. -/
theorem cancelled_state_hidden :
    let s := stateAfter defaultEnv (registration :: admission 100 ++ [withdrawing])
    (s.terminals.get? sampleIdentity).map (fun t => (t.outcome, t.retrievalState)) =
        some (.cancelled, .completedUnavailable) ∧
      Call.result defaultEnv (retrieving 3 none) s ≠
        .ok (.retrieval (.settled .completedUnavailable)) := by
  decide +kernel

/-! ## The tables that keep things for a while -/

/-- After any calls a record is ready exactly while its response is stored, and is kept at least as
long; records without a response are sealed; the terminal record of a request outlives its control
tombstone; queued requests are filed under their own keys; and every removal in progress cancels,
for the one reason there is. -/
theorem retained_tables_agree (env : StoreEnv) (calls : List Call) :
    let s := runs env calls Store.initial
    ResponseInv s ∧ EveryRecord Sealed s ∧ TombstoneInv s ∧ KeysMatch env s ∧
      PendingCancels s ∧ PendingReasons s := by
  intro s
  have reachable : Reachable env s := reachable_runs calls
  exact ⟨reachable.responseInv, reachable.everyRecord sealed_rule, reachable.tombstoneInv,
    reachable.keysMatch, reachable.pendingCancels, reachable.pendingReasons⟩

end StateStore
