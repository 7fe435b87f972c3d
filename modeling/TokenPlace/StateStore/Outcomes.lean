import TokenPlace.StateStore.Lifecycles
import TokenPlace.StateStore.Sample

/-!
# One outcome per lifecycle

A stay of an identity in the terminal table is reported as new by at most one
call, the one that created the record, and the record only changes its retrieval
state, at most once.

* `Reports.creates`: a call that reports an outcome as new has created its record;
* `CallOutcome.new_outcomes`: a node transition reports exactly the outcomes it creates;
* `runs_evolves`: the record of a stay evolves;
* `outcome_once`: the results together, with the refusal of a terminal identity.
-/

namespace StateStore

open Method

/-- The identities that are terminal in `s'` and not in `s`. -/
def newlyTerminal (s s' : Store) : List Identity :=
  s'.terminals.keys.filter fun id => id ∉ s.terminals

/-- The call reports the outcome of the identity as new. A node transition counts
its outcomes without naming them: they are those of the identities that it made
terminal. -/
inductive Reports (env : StoreEnv) (c : Call) (s : Store) (id : Identity) : Prop
  | acceptance {n d consumer client request : String} {generation : Nat}
      {envelope : EncryptedEnvelope} {r : ResponseAcceptanceResult} :
      c.op = .acceptEncryptedResponse n d consumer client request generation envelope →
      identityOf env client request = .ok id → c.result env s = .ok (.acceptance r) →
      r.newOutcome = true → Reports env c s id
  | cancellation {client request : String} {token : Option String} {status : Outcome}
      {reason : Reason} {r : TerminalTransitionResult} :
      c.op = .cancelOrExpireRequest client request token status reason →
      identityOf env client request = .ok id → c.result env s = .ok (.terminal r) →
      r.newOutcome = true → Reports env c s id
  | transition {n : String} {d : Option String} {cause : Cause} {r : NodeTransitionResult} :
      c.op = .unregisterNodeAndTransitionWork n d cause →
      c.result env s = .ok (.transition r) → id ∈ newlyTerminal s (c.next env s) →
      Reports env c s id

section

variable {env : StoreEnv} {P : TerminalPolicy} {now : Epoch} {s s' : Store} {id : Identity}

/-! ## Who creates a record -/

theorem Sweeps.terminal_origin (h : Sweeps env P now s s') (ht : id ∈ s'.terminals) :
    id ∈ s.terminals ∨ ∃ w, s.HasWork id w := by
  refine And.right (h.keeps (I := fun x => (∀ w, x.HasWork id w → s.HasWork id w) ∧
    (id ∈ x.terminals → id ∈ s.terminals ∨ ∃ w, s.HasWork id w)) ?_
    ⟨fun _ hw => hw, .inl⟩) ht
  rintro a b step ⟨live, origin⟩
  refine ⟨fun w hw => live w (step.shrinks.work id w hw), fun hb => ?_⟩
  by_cases ha : id ∈ a.terminals
  · exact origin ha
  · obtain ⟨t, hb⟩ := OrderedDict.mem_def.mp hb
    obtain ⟨⟨w, hw, -⟩, -⟩ := step.created (OrderedDict.not_mem_iff.mp ha) hb
    exact .inr ⟨w, live w hw⟩

/-- A batch that starts after a housekeeping creates the records it counts. -/
theorem BatchRun.count_new {s₁ s₂ : Store} {count : Nat} (inv : RequestInv s)
    (swept : Sweeps env P now s s₁) (reaped : ∀ id, id ∈ s₁.terminals → id ∈ s.terminals)
    (run : BatchRun env P now s₁ s₂ count) : (newlyTerminal s s₂).length = count := by
  have kept : ∀ id, id ∈ s₁.terminals → id ∈ s₂.terminals := by
    intro id ht
    obtain ⟨t, ht⟩ := OrderedDict.mem_def.mp ht
    exact OrderedDict.mem_of_get? (run.kept id t ht)
  have same : newlyTerminal s s₂ = s₂.terminals.keys.filter fun id => id ∉ s₁.terminals := by
    refine List.filter_congr fun id hid => decide_eq_decide.mpr ⟨fun h h₁ => h (reaped id h₁), ?_⟩
    intro absent present
    rcases run.steps.terminal_origin (OrderedDict.mem_keys.mp hid) with old | ⟨w, hw⟩
    · exact absent old
    · exact inv.live_not_terminal id w (swept.shrinks.work id w hw) present
  have sizes := OrderedDict.size_add_new_keys kept
  rw [run.created] at sizes
  rw [same]
  omega

theorem Removal.transition_ok {op : Op} {n : String} {cause : Cause}
    {result : Except StoreError NodeTransitionResult} {r : NodeTransitionResult}
    (h : Removal op n cause result (.ok (.transition r))) : result = .ok r := by
  generalize reported : (Except.ok (.transition r) : Except StoreError Reply) = reply at h
  cases h with
  | unregister => cases result <;> cases reported
  | transition =>
    cases result with
    | error e => cases reported
    | ok r' =>
      cases reported
      rfl

theorem CallOutcome.new_outcomes (inv : RequestInv s) {c : Call} {n : String} {d : Option String}
    {cause : Cause} {r : NodeTransitionResult}
    (hop : c.op = .unregisterNodeAndTransitionWork n d cause)
    (h : CallOutcome env c s (.ok (.transition r)) s') :
    r.newOutcomes = (newlyTerminal s s').length := by
  obtain ⟨clock, drawn, op⟩ := c
  subst hop
  have reaped : ∀ id, id ∈ (reapRetainedLocked clock s).terminals → id ∈ s.terminals :=
    reapRetained_sameRequests.terminals
  have swept : Sweeps env Any clock s (reapRetainedLocked clock s) := .one (.reapRetained s)
  have quiet : (newlyTerminal s (reapRetainedLocked clock s)).length = 0 :=
    BatchRun.count_new inv swept reaped (BatchRun.refl _)
  have continued : ∀ {m : String} {p : PendingNodeTransition} {s₁ : Store},
      Sweeps env Any clock s s₁ → (∀ id, id ∈ s₁.terminals → id ∈ s.terminals) →
      ContinueOutcome env Any clock m p s₁ (.ok r) s' →
      r.newOutcomes = (newlyTerminal s s').length := by
    intro m p s₁ swept reaped outcome
    cases outcome with
    | ok run _ _ same _ =>
      rw [newlyTerminal, same]
      exact (run.count_new inv swept reaped).symm
  cases h with
  | body _ _ housekept body =>
    cases housekept
    cases body with
    | unchanged silent =>
      have zero : (0 < r.newOutcomes) = False := by simpa [Reply.reportsChange] using silent _ rfl
      rw [quiet]
      simpa using zero
    | committed h => cases h
  | removal _ _ housekept outcome removal =>
    cases housekept
    cases removal.transition_ok
    cases outcome with
    | idle zero => rw [zero, quiet]
    | continued _ outcome => exact continued swept reaped outcome
    | started starts outcome =>
      refine continued (swept.tail (.startRemoval starts)) ?_ outcome
      rw [starts.post]
      exact reaped

theorem Reports.creates (inv : RequestInv s) {c : Call} (h : Reports env c s id) :
    id ∉ s.terminals ∧ id ∈ (c.next env s).terminals := by
  have outcome : CallOutcome env c s _ _ := c.next_outcome s
  obtain ⟨clock, drawn, op⟩ := c
  have live : ∀ {op : Op} {s₁ : Store} {w : Work},
      op.housekeeping env clock s = (.ok (), s₁) → s₁.HasWork id w → id ∉ s.terminals :=
    fun {op} _ w hh hw => inv.live_not_terminal id w
      (((op.housekeeping_sweeps clock).of_eq hh).shrinks.work id w hw)
  cases h with
  | acceptance hop identity result new =>
    subst hop
    rw [result] at outcome
    generalize Call.next env _ s = s' at outcome
    cases outcome with
    | body _ _ housekept body =>
      cases body with
      | unchanged silent => exact absurd new (ne_true_of_eq_false (silent _ rfl))
      | committed h =>
        cases h with
        | accept valid h =>
          obtain ⟨owner, -⟩ := validateAcceptance_ok valid
          cases identity.symm.trans (validateOwner_ok owner).2.2.2.2
          refine ⟨live housekept (w := .queued _) h.queued, ?_⟩
          rw [h.post]
          exact OrderedDict.mem_set.mpr (.inl rfl)
    | removal _ _ _ _ removal => cases removal
  | cancellation hop identity result new =>
    subst hop
    rw [result] at outcome
    generalize Call.next env _ s = s' at outcome
    cases outcome with
    | invalidProof _ => cases new
    | body _ _ housekept body =>
      cases body with
      | unchanged silent => exact absurd new (ne_true_of_eq_false (silent _ rfl))
      | committed h =>
        cases h with
        | cancel same h =>
          cases identity.symm.trans same
          refine ⟨live housekept h.live, ?_⟩
          rw [h.post, writeTerminal_terminals]
          exact OrderedDict.mem_set.mpr (.inl rfl)
    | removal _ _ _ _ removal => cases removal
  | transition _ _ new =>
    obtain ⟨present, absent⟩ := List.mem_filter.mp new
    exact ⟨of_decide_eq_true absent, OrderedDict.mem_keys.mp present⟩

/-! ## The record of a stay -/

theorem Evolves.once {t t' t'' : TerminalOutcomeRecord} (h : Evolves t t') (h' : Evolves t' t'') :
    t' = t ∨ t'' = t' := by
  cases h with
  | same => exact .inl rfl
  | acknowledged _ | retrievalExpired _ =>
    cases h' with
    | same => exact .inr rfl
    | acknowledged again => cases again
    | retrievalExpired again => cases again

theorem runs_evolves (inv : Reachable env s) {mid : List Call}
    (stay : ∀ l, l <+: mid → id ∈ (runs env l s).terminals) {t t' : TerminalOutcomeRecord}
    (ht : s.terminals.get? id = some t) (ht' : (runs env mid s).terminals.get? id = some t') :
    Evolves t t' := by
  induction mid using List.reverseRecOn generalizing t' with
  | nil =>
    cases ht.symm.trans ht'
    exact .same
  | append_singleton mid c ih =>
    obtain ⟨t₁, ht₁⟩ := OrderedDict.mem_def.mp (stay mid (List.prefix_append ..))
    have evolves := ih (fun l hl => stay l (hl.trans (List.prefix_append ..))) ht₁
    rw [runs_snoc] at ht'
    have outcome : CallOutcome env c (runs env mid s) _ _ := c.next_outcome _
    have fate := outcome.terminal_fate (inv.runs mid).requestInv ht₁
    rw [ht'] at fate
    cases fate with
    | kept last => exact evolves.trans last

/-! ## The refusal of a terminal identity -/

theorem select_terminal {clock : Epoch} {drawn client request model tier : String} {due : Epoch}
    {token : Option String} {req : SelectionRequest} {s₁ : Store} (finite : isfinite clock)
    (valid : validateSelection env client request model tier due token = .ok req)
    (reaped : reapLocked env clock s = (.ok (), s₁)) (terminal : req.identity ∈ s₁.terminals)
    (unexpired : clock < due) (within : due ≤ clock + env.config.maxRequestTtlSeconds) :
    Call.result env ⟨clock, drawn, .selectAndReserve client request model tier due token⟩ s =
      .error (conflict "request lifecycle is terminal") := by
  obtain ⟨-, -, due_eq⟩ := validateSelection_ok valid
  rw [← due_eq] at unexpired within
  have body : Ends (selectAndReserveLocked env drawn req clock) s₁ fun r _ =>
      r = .error (conflict "request lifecycle is terminal") := by
    unfold selectAndReserveLocked
    simp only [ends_bind, ends_getState, ends_raiseIf, follow_ok, follow_error]
    exact ⟨fun expired => absurd expired (not_le.mpr unexpired), fun _ =>
      ⟨fun beyond => absurd beyond (not_lt.mpr within), fun _ =>
        ⟨fun _ => trivial, fun absent => absurd terminal absent⟩⟩⟩
  show Ends (replying .selection (selectAndReserve env clock drawn client request model tier due
    token)) s fun r _ => r = .error (conflict "request lifecycle is terminal")
  rw [ends_replying]
  unfold Ends selectAndReserve
  rw [publicCall_eq valid finite reaped, show _ = _ from body]
  rfl

theorem enqueue_terminal {clock : Epoch} {drawn client request token n model tier : String}
    {due : Epoch} {envelope : EncryptedEnvelope} {cancellation : String} {req : EnqueueRequest}
    {s₁ : Store} (finite : isfinite clock)
    (valid : validateEnqueue env client request token n model tier due envelope cancellation =
      .ok req)
    (reaped : reapLocked env clock s = (.ok (), s₁)) (terminal : req.identity ∈ s₁.terminals)
    (unexpired : clock < due) :
    Call.result env ⟨clock, drawn, .enqueueEncryptedRequest client request token n model tier due
      envelope cancellation⟩ s = .error (conflict "request lifecycle is terminal") := by
  obtain ⟨-, due_eq, -⟩ := validateEnqueue_ok valid
  rw [← due_eq] at unexpired
  have body : Ends (enqueueEncryptedRequestLocked env req clock) s₁ fun r _ =>
      r = .error (conflict "request lifecycle is terminal") := by
    unfold enqueueEncryptedRequestLocked
    simp only [ends_bind, ends_getState, ends_raiseIf, follow_ok, follow_error]
    exact ⟨fun expired => absurd expired (not_le.mpr unexpired), fun _ =>
      ⟨fun _ => trivial, fun absent => absurd terminal absent⟩⟩
  show Ends (replying .enqueued (enqueueEncryptedRequest env clock client request token n model
    tier due envelope cancellation)) s fun r _ =>
      r = .error (conflict "request lifecycle is terminal")
  rw [ends_replying]
  unfold Ends enqueueEncryptedRequest
  rw [publicCall_eq valid finite reaped, show _ = _ from body]
  rfl

end

/-- From any state of any run: a call that reports an outcome as new creates its
record, a node transition reports what it creates, two reports of one identity
are of two stays, the record of a stay changes its retrieval state at most once,
and a terminal identity is refused. -/
theorem outcome_once (env : StoreEnv) (calls : List Call) :
    let s := runs env calls Store.initial
    (∀ (c : Call) id, Reports env c s id → id ∉ s.terminals ∧ id ∈ (c.next env s).terminals) ∧
    (∀ (c : Call) n d cause r, c.op = .unregisterNodeAndTransitionWork n d cause →
      c.result env s = .ok (.transition r) →
      r.newOutcomes = (newlyTerminal s (c.next env s)).length) ∧
    (∀ id c mid c', Reports env c s id → Reports env c' (runs env (c :: mid) s) id →
      ∃ l, l <+: mid ∧ id ∉ (runs env (c :: l) s).terminals) ∧
    (∀ id mid later t t' t'', (∀ l, l <+: mid ++ later → id ∈ (runs env l s).terminals) →
      s.terminals.get? id = some t → (runs env mid s).terminals.get? id = some t' →
      (runs env (mid ++ later) s).terminals.get? id = some t'' →
      Evolves t t' ∧ Evolves t' t'' ∧ (t' = t ∨ t'' = t')) ∧
    (∀ clock s₁, isfinite clock → reapLocked env clock s = (.ok (), s₁) →
      (∀ drawn client request model tier due token req,
        validateSelection env client request model tier due token = .ok req →
        req.identity ∈ s₁.terminals → clock < due →
        due ≤ clock + env.config.maxRequestTtlSeconds →
        Call.result env ⟨clock, drawn, .selectAndReserve client request model tier due token⟩ s =
          .error (conflict "request lifecycle is terminal")) ∧
      ∀ drawn client request token n model tier due envelope cancellation req,
        validateEnqueue env client request token n model tier due envelope cancellation =
          .ok req →
        req.identity ∈ s₁.terminals → clock < due →
        Call.result env ⟨clock, drawn, .enqueueEncryptedRequest client request token n model tier
          due envelope cancellation⟩ s = .error (conflict "request lifecycle is terminal")) := by
  intro s
  have reachable : Reachable env s := reachable_runs calls
  refine ⟨fun c id h => h.creates reachable.requestInv, ?_, ?_, ?_, ?_⟩
  · intro c n d cause r hop result
    have outcome : CallOutcome env c s _ _ := c.next_outcome s
    rw [result] at outcome
    exact outcome.new_outcomes reachable.requestInv hop
  · intro id c mid c' _ again
    exact ⟨mid, List.prefix_rfl, (again.creates (reachable.runs (c :: mid)).requestInv).1⟩
  · intro id mid later t t' t'' stay ht ht' ht''
    have first : Evolves t t' :=
      runs_evolves reachable (fun l hl => stay l (hl.trans (List.prefix_append ..))) ht ht'
    have second : Evolves t' t'' := by
      rw [runs_append] at ht''
      refine runs_evolves (reachable.runs mid) (fun l hl => ?_) ht' ht''
      rw [← runs_append]
      exact stay (mid ++ l) ((List.prefix_append_right_inj mid).mpr hl)
    exact ⟨first, second, first.once second⟩
  · intro clock s₁ finite reaped
    exact ⟨fun _ _ _ _ _ _ _ _ valid => select_terminal finite valid reaped,
      fun _ _ _ _ _ _ _ _ _ _ _ valid => enqueue_terminal finite valid reaped⟩

/-- The accepted response of a run is reported as new, and its retry is not. -/
theorem outcome_once_accepted :
    let s := runs defaultEnv (registration :: (admission 100 ++ service)) Store.initial
    (s.terminals.get? sampleIdentity).isSome = true ∧
      Call.result defaultEnv ⟨2, sampleToken, .selectAndReserve "client-1" "request-1" "model"
        "8k-fast" 100 none⟩ s = .error (conflict "request lifecycle is terminal") := by
  refine ⟨by decide +kernel, ?_⟩
  have reaped : ∀ s, (reapLocked defaultEnv 2 s).1 = .ok () →
      reapLocked defaultEnv 2 s = (.ok (), (reapLocked defaultEnv 2 s).2) := fun _ h =>
    Prod.ext h rfl
  exact ((outcome_once defaultEnv (registration :: (admission 100 ++ service))).2.2.2.2 2 _
    (by decide +kernel) (reaped _ (by decide +kernel))).1 sampleToken "client-1" "request-1" "model" "8k-fast" 100 none
    ⟨sampleIdentity, "model", .fast8k, 100, none⟩ (by decide +kernel) (by decide +kernel)
    (by decide +kernel) (by decide +kernel)

/-- A terminal identity is not refused as terminal when the deadline of the new
request is beyond the configured bound: that is checked first. -/
theorem distant_deadline_checked_first :
    let s := runs defaultEnv (registration :: (admission 100 ++ service)) Store.initial
    let c := sampleCall 2 (.selectAndReserve "client-1" "request-1" "model" "8k-fast" 5000 none)
    sampleIdentity ∈ s.terminals ∧ sampleIdentity ∈ (c.next defaultEnv s).terminals ∧
      c.clock < 5000 ∧
      c.result defaultEnv s = .error (storeError "request deadline exceeds its configured bound") :=
  by decide +kernel

end StateStore
