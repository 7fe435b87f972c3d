import Mathlib

/-!
# The worker of a `ModelManager`

The operations of `ModelManager` that obtain, detach, close and replace its worker.
Every region under `llm_lock`, every call of `_close_llm_proxy` and every call of a
worker's `create_chat_completion` is one step of a thread, as is every look at a
shared field outside the lock. A worker is constructed inside the region of
`get_llm_instance`, so the construction is part of that step.

What the environment decides is a `Choice` of the step: how a construction ends,
whether a process is confirmed dead, whether a worker is usable, and what a
completion does. `worker_state`, the counters and the diagnostics are left out, as
nothing here reads them.
-/

namespace ModelManager

/-! ## State -/

/-- The fields of the manager. Workers and cancel events are numbered as they are
made. `unstopped` holds the workers that have been constructed and not been
confirmed stopped. -/
structure ManagerState where
  llm : Option Nat
  llmGeneration : Nat
  llmCancelGenerationEvent : Nat
  setEvents : Finset Nat
  llmCancellationEpoch : Nat
  cleanupBarrierGeneration : Option Nat
  constructed : Nat
  unstopped : Finset Nat
deriving DecidableEq

/-- How the region of `get_llm_instance` that initializes a worker ends: without a
worker, with an exception after a worker has been constructed, or with a worker. -/
inductive Construction
  | failed
  | dropped
  | constructed
deriving DecidableEq

/-- What a call of a worker's `create_chat_completion` does. -/
inductive CompletionResult
  | returned
  | requestError (requiresRecreation : Bool)
  | restartable
  | raised
deriving DecidableEq

/-- What the environment decides in a step. -/
structure Choice where
  construction : Construction
  closes : Bool
  usable : Bool
  completion : CompletionResult
deriving DecidableEq

/-! ## The regions under the lock -/

/-- `get_llm_instance` once it holds the lock and finds no worker. -/
def construct (s : ManagerState) (construction : Construction) : ManagerState :=
  match construction with
  | .failed => s
  | .dropped =>
    { s with constructed := s.constructed + 1, unstopped := insert s.constructed s.unstopped }
  | .constructed =>
    { s with
      llm := some s.constructed
      constructed := s.constructed + 1
      unstopped := insert s.constructed s.unstopped }

/-- The part of `terminate_active_worker_for_cancellation` that cancels: a new
generation, a new epoch, and a new event in place of the one that is set. -/
def cancelGeneration (s : ManagerState) : ManagerState :=
  { s with
    llmGeneration := s.llmGeneration + 1
    llmCancellationEpoch := s.llmCancellationEpoch + 1
    setEvents := insert s.llmCancelGenerationEvent s.setEvents
    llmCancelGenerationEvent := s.llmCancelGenerationEvent + 1 }

/-- The region after a cleanup that was keyed by `generation`. -/
def settleCleanup (s : ManagerState) (generation : Nat) (stopped : Bool) : ManagerState :=
  if s.cleanupBarrierGeneration = some generation ∧ stopped then
    { s with cleanupBarrierGeneration := none }
  else s

/-! ## Tasks -/

/-- What `create_chat_completion_with_recovery` has observed before its first
completion. -/
structure Observed where
  worker : Nat
  generation : Nat
  cancelEvent : Nat
  epoch : Nat
deriving DecidableEq

/-- Who called `get_llm_instance`, directly or through `_ensure_replacement_llm`. -/
inductive Caller
  | user
  | recovery
  | completion
  | replacement (o : Observed)
deriving DecidableEq

/-- What follows `_invalidate_llm_if_current`. -/
inductive AfterInvalidate
  | recordError
  | retry (o : Observed)
  | recordFailure
deriving DecidableEq

/-- What a worker is closed for. The number is the generation that keys the cleanup. -/
inductive Closing
  | cancelled (generation : Nat) (recreate : Bool)
  | invalidated (generation : Nat) (next : AfterInvalidate)
  | replaced (generation : Nat) (caller : Caller)
  | readinessFailed (exhausted : Bool)
  | readinessCancelled
deriving DecidableEq

/-- How an operation ends. -/
inductive Result
  | instance (worker : Option Nat)
  | returned
  | raised
  | done
deriving DecidableEq

/-- Where a thread stands. -/
inductive Task
  -- `get_llm_instance`
  | quickCheck (caller : Caller)
  | construct (caller : Caller)
  | readInstance (caller : Caller)
  -- `terminate_active_worker_for_cancellation`
  | cancel (recreate : Bool)
  -- `_close_llm_proxy`, and the region after it
  | close (worker : Nat) (closing : Closing)
  | settle (stopped : Bool) (closing : Closing)
  -- the two operations on a worker that failed its readiness check
  | nextProfile (failedRuntime : Nat) (exhausted : Bool)
  | cancelReadiness (failedRuntime : Nat)
  -- `get_llm_instance_with_recovery` and `_ensure_replacement_llm`
  | observeGeneration
  | ensureReplacement (observedGeneration : Nat) (caller : Caller)
  -- `_invalidate_llm_if_current`
  | invalidate (worker : Nat) (next : AfterInvalidate)
  -- `create_chat_completion_with_recovery`
  | observe (worker : Nat)
  | invoke (o : Observed)
  | await (o : Observed)
  | checkEvent (o : Observed)
  | checkEpoch (o : Observed)
  | checkReplacement (o : Observed) (replacement : Nat)
  | invokeReplacement (replacement : Nat)
  | awaitReplacement (replacement : Nat)
  | recordSuccess
  | recordError
  | recordFailure
  | finished (result : Result)
deriving DecidableEq

/-- The task after `get_llm_instance` has returned to its caller. -/
def Caller.resume : Caller → Option Nat → Task
  | .user, worker => .finished (.instance worker)
  | .recovery, none => .observeGeneration
  | .recovery, some worker => .finished (.instance (some worker))
  | .completion, none => .finished .raised
  | .completion, some worker => .observe worker
  | .replacement _, none => .finished .raised
  | .replacement o, some worker => .checkReplacement o worker

/-- The task after `_invalidate_llm_if_current` has returned. -/
def AfterInvalidate.task : AfterInvalidate → Task
  | .recordError => .recordError
  | .retry o => .checkEvent o
  | .recordFailure => .recordFailure

/-- The task after `_close_llm_proxy` has returned. Only the two operations on
readiness failures do not look at the result. -/
def Closing.after (stopped : Bool) : Closing → Task
  | .readinessFailed true => .finished (.instance none)
  | .readinessFailed false => .quickCheck .user
  | .readinessCancelled => .finished .done
  | closing => .settle stopped closing

/-- The generation that keys the cleanup, which the others do not have. -/
def Closing.generation : Closing → Option Nat
  | .cancelled generation _ | .invalidated generation _ | .replaced generation _ => some generation
  | .readinessFailed _ | .readinessCancelled => none

/-- The task after the region that settles a cleanup. -/
def Closing.settled (stopped : Bool) : Closing → Task
  | .cancelled _ recreate => if stopped && recreate then .quickCheck .user else .finished .done
  | .invalidated _ next => next.task
  | .replaced _ caller => if stopped then .quickCheck caller else caller.resume none
  | .readinessFailed _ | .readinessCancelled => .finished .done

/-- A completion that has been cancelled since `o` was observed. -/
def Observed.cancelled (o : Observed) (s : ManagerState) : Bool :=
  decide (s.llmCancellationEpoch ≠ o.epoch) ||
    (decide (s.llmGeneration ≠ o.generation) && decide (o.cancelEvent ∈ s.setEvents))

/-! ## Steps -/

/-- One step of a thread. -/
def taskStep (c : Choice) (s : ManagerState) : Task → ManagerState × Task
  | .quickCheck caller => (s, if s.llm = none then .construct caller else .readInstance caller)
  | .construct caller =>
    if s.llm ≠ none then (s, .readInstance caller)
    else if s.cleanupBarrierGeneration ≠ none then (s, caller.resume none)
    else
      (construct s c.construction,
        if c.construction = .constructed then .readInstance caller else caller.resume none)
  | .readInstance caller => (s, caller.resume s.llm)
  | .cancel recreate =>
    match s.llm with
    | none => (cancelGeneration s, if recreate then .quickCheck .user else .finished .done)
    | some worker =>
      ({ cancelGeneration s with
          llm := none
          cleanupBarrierGeneration := some s.llmGeneration },
        .close worker (.cancelled s.llmGeneration recreate))
  | .close worker closing =>
    ({ s with unstopped := if c.closes then s.unstopped.erase worker else s.unstopped },
      closing.after c.closes)
  | .settle stopped closing =>
    (match closing.generation with
      | some generation => settleCleanup s generation stopped
      | none => s,
      closing.settled stopped)
  | .nextProfile failedRuntime exhausted =>
    if s.llm = some failedRuntime then
      ({ s with llm := none, llmGeneration := s.llmGeneration + 1 },
        .close failedRuntime (.readinessFailed exhausted))
    else (s, .finished (.instance none))
  | .cancelReadiness failedRuntime =>
    if s.llm = some failedRuntime then
      ({ s with llm := none }, .close failedRuntime .readinessCancelled)
    else (s, .finished .done)
  | .observeGeneration => (s, .ensureReplacement s.llmGeneration .user)
  | .ensureReplacement observedGeneration caller =>
    let renewed := if s.llmGeneration = observedGeneration then s.llmGeneration + 1
      else s.llmGeneration
    match s.llm with
    | none => ({ s with llmGeneration := renewed }, .quickCheck caller)
    | some worker =>
      if c.usable then (s, caller.resume (some worker))
      else
        ({ s with
            llm := none
            cleanupBarrierGeneration := some s.llmGeneration
            llmGeneration := renewed },
          .close worker (.replaced s.llmGeneration caller))
  | .invalidate worker next =>
    if s.llm = some worker then
      ({ s with
          llm := none
          llmGeneration := s.llmGeneration + 1
          cleanupBarrierGeneration := some s.llmGeneration },
        .close worker (.invalidated s.llmGeneration next))
    else (s, next.task)
  | .observe worker =>
    (s, .invoke
      ⟨worker, s.llmGeneration, s.llmCancelGenerationEvent, s.llmCancellationEpoch⟩)
  | .invoke o => (s, .await o)
  | .await o =>
    (s,
      match c.completion with
      | .returned => .finished .returned
      | .requestError true => .invalidate o.worker .recordError
      | .requestError false => .recordError
      | .restartable => .invalidate o.worker (.retry o)
      | .raised => .finished .raised)
  | .checkEvent o =>
    (s, if o.cancelEvent ∈ s.setEvents then .finished .raised else .checkEpoch o)
  | .checkEpoch o =>
    (s,
      if o.cancelled s then .finished .raised
      else .ensureReplacement o.generation (.replacement o))
  | .checkReplacement o replacement =>
    (s, if o.cancelled s then .finished .raised else .invokeReplacement replacement)
  | .invokeReplacement replacement => (s, .awaitReplacement replacement)
  | .awaitReplacement replacement =>
    (s,
      match c.completion with
      | .returned => .recordSuccess
      | .restartable => .invalidate replacement .recordFailure
      | _ => .finished .raised)
  | .recordSuccess => (s, .finished .returned)
  | .recordError => (s, .finished .raised)
  | .recordFailure => (s, .finished .raised)
  | .finished result => (s, .finished result)

/-- An operation of the manager, with its arguments as far as they matter. A request
whose failure category or runtime is not the one of a readiness failure returns at
once. -/
inductive Operation
  | getLlmInstance
  | getLlmInstanceWithRecovery
  | createChatCompletionWithRecovery
  | terminateActiveWorkerForCancellation (recreate : Bool)
  | reinitializeQwen64kWithNextProfileAfterReadinessFailure (failedRuntime : Nat)
      (exhausted : Bool)
  | cancelQwen64kReadinessFailedWorker (failedRuntime : Nat)
deriving DecidableEq

/-- The first task of an operation. -/
def Operation.start : Operation → Task
  | .getLlmInstance => .quickCheck .user
  | .getLlmInstanceWithRecovery => .quickCheck .recovery
  | .createChatCompletionWithRecovery => .quickCheck .completion
  | .terminateActiveWorkerForCancellation recreate => .cancel recreate
  | .reinitializeQwen64kWithNextProfileAfterReadinessFailure failedRuntime exhausted =>
    .nextProfile failedRuntime exhausted
  | .cancelQwen64kReadinessFailedWorker failedRuntime => .cancelReadiness failedRuntime

/-! ## Runs -/

/-- A call of a worker's `create_chat_completion`: the epoch in which it was made,
and what it did. -/
structure Invocation where
  worker : Nat
  epoch : Nat
  result : Option CompletionResult
deriving DecidableEq

/-- A thread, with what it has done: the epoch in which `get_llm_instance` gave it
its worker, and its completions in their order. -/
structure Thread where
  task : Task
  obtained : Option Nat
  invocations : List Invocation
deriving DecidableEq

/-- The record of a thread after its next step. -/
def Thread.record (c : Choice) (s : ManagerState) (t : Thread) : Thread :=
  match t.task with
  | .readInstance .completion => { t with obtained := some s.llmCancellationEpoch }
  | .invoke o =>
    { t with invocations := t.invocations ++ [⟨o.worker, s.llmCancellationEpoch, none⟩] }
  | .invokeReplacement replacement =>
    { t with invocations := t.invocations ++ [⟨replacement, s.llmCancellationEpoch, none⟩] }
  | .await _ | .awaitReplacement _ =>
    { t with
      invocations := t.invocations.dropLast ++
        (t.invocations.getLast?.map fun i => { i with result := some c.completion }).toList }
  | _ => t

/-- The manager and the threads that work on it. -/
structure ManagerSystem where
  shared : ManagerState
  threads : List Thread
deriving DecidableEq

/-- Where the `i`th thread stands. -/
def ManagerSystem.taskOf (x : ManagerSystem) (i : Nat) : Option Task :=
  x.threads[i]?.map Thread.task

/-- A thread starts an operation, or takes its next step. -/
inductive ManagerEvent
  | call (operation : Operation)
  | run (i : Nat) (c : Choice)
deriving DecidableEq

/-- The system after one event. -/
def managerStep (ev : ManagerEvent) (x : ManagerSystem) : ManagerSystem :=
  match ev with
  | .call operation => { x with threads := x.threads ++ [⟨operation.start, none, []⟩] }
  | .run i c =>
    match x.threads[i]? with
    | none => x
    | some t =>
      { shared := (taskStep c x.shared t.task).1
        threads := x.threads.set i
          { t.record c x.shared with task := (taskStep c x.shared t.task).2 } }

/-- A new manager. -/
def newManager : ManagerSystem where
  shared :=
    { llm := none
      llmGeneration := 0
      llmCancelGenerationEvent := 0
      setEvents := ∅
      llmCancellationEpoch := 0
      cleanupBarrierGeneration := none
      constructed := 0
      unstopped := ∅ }
  threads := []

/-! ## Threads -/

variable {x : ManagerSystem}

theorem managerStep_run {i : Nat} {t : Thread} (c : Choice) (at_ : x.threads[i]? = some t) :
    managerStep (.run i c) x =
      { shared := (taskStep c x.shared t.task).1
        threads := x.threads.set i
          { t.record c x.shared with task := (taskStep c x.shared t.task).2 } } := by
  simp only [managerStep, at_]

theorem taskOf_eq {i : Nat} {t : Thread} (at_ : x.threads[i]? = some t) :
    x.taskOf i = some t.task := by
  simp [ManagerSystem.taskOf, at_]

theorem taskOf_set {i : Nat} {t t' : Thread} {shared : ManagerState}
    (at_ : x.threads[i]? = some t) :
    (ManagerSystem.mk shared (x.threads.set i t')).taskOf i = some t'.task := by
  have bound : i < x.threads.length := (List.getElem?_eq_some_iff.mp at_).1
  simp [ManagerSystem.taskOf, List.getElem?_set_self bound]

theorem taskOf_set_ne {i j : Nat} {t' : Thread} {shared : ManagerState} (ne : i ≠ j) :
    (ManagerSystem.mk shared (x.threads.set i t')).taskOf j = x.taskOf j := by
  simp [ManagerSystem.taskOf, List.getElem?_set_ne ne]

theorem mem_set_elim {i : Nat} {t t' : Thread} (mem : t ∈ x.threads.set i t') :
    t = t' ∨ ∃ j, j ≠ i ∧ x.threads[j]? = some t := by
  obtain ⟨j, at_⟩ := List.mem_iff_getElem?.mp mem
  by_cases same : i = j
  · subst same
    have bound := (List.getElem?_eq_some_iff.mp at_).1
    rw [List.length_set] at bound
    rw [List.getElem?_set_self bound] at at_
    cases at_
    exact Or.inl rfl
  · rw [List.getElem?_set_ne same] at at_
    exact Or.inr ⟨j, Ne.symm same, at_⟩

end ModelManager
