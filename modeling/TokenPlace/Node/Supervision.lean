import Mathlib.Algebra.Order.Field.Rat

/-!
# Inference under supervision

`process_client_request_result` of `RelayClient` on an API v1 request, with the
supervisor that it runs and the submission that it may make. The thread of the
request is a sequence of tasks, one for each reading of a clock, of a flag that
other threads set, or of a future; between two of them the clock may advance, the
inference and the control call may complete, and the node may be stopped, shut
down or its inference cancelled.

What is left out has no influence on the submission: the progress observer, the
heartbeat thread, the acknowledgement of a terminal control response, and the
draining of the two executors. A request that is not a valid API v1 request never
reaches the supervisor.
-/

namespace ComputeNode

/-! ## Deadlines -/

/-- `_API_V1_COMPATIBILITY_REQUEST_DEADLINE_SECONDS`. -/
def compatibilityRequestDeadlineSeconds : ℚ := 300

/-- `_API_V1_CONTROL_MIN_POLL_SECONDS`. -/
def controlMinPollSeconds : ℚ := 1

/-- `_API_V1_CONTROL_MAX_POLL_SECONDS`. -/
def controlMaxPollSeconds : ℚ := 10

/-- The deadline fields of the work item. A field that is no finite number is `none`. -/
structure RequestMetadata where
  requestDeadlineRemainingSeconds : Option ℚ
  requestTtlSeconds : Option ℚ
deriving DecidableEq

/-- The fields of a control response that the supervisor reads. -/
structure ControlResponse where
  status : String
  nextPollSeconds : Option ℚ
  requestDeadlineRemainingSeconds : Option ℚ
  requestTtlSeconds : Option ℚ
deriving DecidableEq

/-- `_api_v1_initial_relative_seconds`. -/
def initialRelativeSeconds (value : Option ℚ) : Option ℚ := value.filter (0 < ·)

/-- `_api_v1_valid_relative_seconds`. -/
def validRelativeSeconds (value : Option ℚ) : Option ℚ := value.filter (0 ≤ ·)

/-- The smaller of the values that are there. -/
def smallest : Option ℚ → Option ℚ → Option ℚ
  | some a, some b => some (min a b)
  | some a, none => some a
  | none, b => b

/-- `_api_v1_initial_deadline_from_metadata`. -/
def initialDeadlineFromMetadata (metadata : RequestMetadata) (now : ℚ) : ℚ :=
  now + (smallest (initialRelativeSeconds metadata.requestDeadlineRemainingSeconds)
    (initialRelativeSeconds metadata.requestTtlSeconds)).getD compatibilityRequestDeadlineSeconds

/-- `_api_v1_deadline_after_response`. -/
def deadlineAfterResponse (current : ℚ) (c : ControlResponse) (now : ℚ) : ℚ :=
  match smallest (validRelativeSeconds c.requestDeadlineRemainingSeconds)
    (validRelativeSeconds c.requestTtlSeconds) with
  | none => current
  | some seconds => min current (now + seconds)

/-- `_api_v1_control_next_poll_seconds`. -/
def controlNextPollSeconds : Option ℚ → ℚ
  | none => controlMinPollSeconds
  | some seconds => min controlMaxPollSeconds (max controlMinPollSeconds seconds)

/-- `_API_V1_TERMINAL_CONTROL_STATUS_MAP`, after `lower()`. -/
def ControlResponse.terminalReason (c : ControlResponse) : Option String :=
  match c.status.toLower with
  | "cancelled" => some "cancelled"
  | "expired" => some "expired"
  | "completed" => some "completed"
  | "unavailable" => some "unavailable"
  | "completed/unavailable" => some "completed_unavailable"
  | _ => none

/-! ## Results -/

/-- A response envelope. `errorCode` is the code of its `api_v1_response.error`. -/
structure ResponseEnvelope where
  requestId : String
  apiV1Response : String
  errorCode : Option String
deriving DecidableEq

/-- What a completed inference is. -/
inductive InferenceResult
  | returned (envelope : ResponseEnvelope)
  | raised
deriving DecidableEq

/-- `future`, the inference in its executor. -/
inductive InferenceFuture
  | none
  | running
  | done (result : InferenceResult)
deriving DecidableEq

/-- What a completed control call is: a response, a `PermissionError`, or another
exception. -/
inductive ControlResult
  | response (c : ControlResponse)
  | refused
  | failed
deriving DecidableEq

/-- `control_future`. -/
inductive ControlFuture
  | none
  | pending
  | done (result : ControlResult)
deriving DecidableEq

/-- What became of a POST: HTTP 200, another status, or an exception. -/
inductive PostAnswer
  | accepted
  | refused
  | failed
deriving DecidableEq

/-- The health fields that outcomes carry. -/
structure RuntimeHealth where
  runtimeHealthy : Bool
  recoveryAttempted : Bool
  recoverySucceeded : Bool
deriving DecidableEq

/-- `_ApiV1SupervisorOutcome`. -/
structure SupervisorOutcome where
  responseEnvelope : Option ResponseEnvelope
  terminalCode : Option String
  health : RuntimeHealth
  submissionAllowed : Bool
deriving DecidableEq

/-- `_PostApiV1Outcome`. -/
structure PostOutcome where
  submitted : Bool
  suppressed : Bool
  transportFailed : Bool
  suppressedCode : Option String
deriving DecidableEq

/-- `RelayProcessingResult`. -/
structure RelayProcessingResult where
  inferenceSucceeded : Bool
  submitted : Bool
  safeErrorCode : Option String
  health : RuntimeHealth
  submissionAllowed : Bool
deriving DecidableEq

/-- A POST to `/relay/responses`, with what the guard in front of it has read: the
cancellation epoch, the stop flag and the latch, and the clock. -/
structure Submission where
  envelope : ResponseEnvelope
  epoch : Nat
  stopped : Bool
  latched : Bool
  now : ℚ
deriving DecidableEq

/-! ## State -/

/-- What the request is processed with. A model manager without a cancellation
generation gives no snapshot. -/
structure RequestEnv where
  controlAvailable : Bool
  controlCredential : Bool
  tracksCancellation : Bool

/-- What the thread of the request shares with the rest of the node: the clock,
the flags, the two futures, and what the next termination of the worker, the next
encryption and the next POST will bring. `received` lists the control responses
that the supervisor has taken a deadline from, each with the clock reading it used
for that, and `submissions` the POSTs to `/relay/responses`. -/
structure RequestState where
  now : ℚ
  pollingStopped : Bool
  mutationLatched : Bool
  mutationCount : Nat
  cancellationEpoch : Nat
  inference : InferenceFuture
  control : ControlFuture
  wakeup : Bool
  workerRecovers : Bool
  inferenceQuiesces : Bool
  runtimeHealth : RuntimeHealth
  encrypts : Bool
  postAnswer : PostAnswer
  received : List (ControlResponse × ℚ)
  submissions : List Submission
deriving DecidableEq

/-- The local variables of the supervisor's loop. -/
structure Supervising where
  localDeadline : ℚ
  nextPollAt : ℚ
  backoff : ℚ
deriving DecidableEq

/-- A response that may be submitted, with the health fields of the result. -/
structure Answer where
  envelope : ResponseEnvelope
  health : RuntimeHealth
deriving DecidableEq

/-- Where the thread of the request stands. A task carries the local variables that
it reads. -/
inductive RequestTask
  | entry (metadata : RequestMetadata)
  | snapshot
  | checkCredential
  | submitInference
  | firstPoll
  -- the loop of the supervisor
  | loop (v : Supervising)
  | checkStopped (v : Supervising) (now : ℚ)
  | checkLatched (v : Supervising) (now : ℚ)
  | checkInference (v : Supervising) (now : ℚ)
  | inferredStopped (v : Supervising) (result : InferenceResult)
  | inferredLatched (v : Supervising) (result : InferenceResult)
  | inferenceRaised (v : Supervising)
  | checkRemaining (v : Supervising)
  | submitControl (v : Supervising)
  | controlPending (v : Supervising)
  | controlStopped (v : Supervising)
  | controlDeadline (v : Supervising)
  | takeControl (v : Supervising)
  | takenStopped (v : Supervising) (c : ControlResponse)
  | takenDeadline (v : Supervising) (c : ControlResponse)
  | tighten (v : Supervising) (c : ControlResponse)
  | schedule (v : Supervising) (c : ControlResponse)
  | backOff (v : Supervising)
  | sleep (v : Supervising)
  | collect (v : Supervising)
  -- its end
  | terminate (reason : String)
  | quiesce (reason : String) (recovered : Bool)
  | supervised (outcome : SupervisorOutcome)
  -- the checks before the submission
  | guardCancelled (a : Answer)
  | guardLatched (a : Answer) (cancelled : Bool)
  | guardStopped (a : Answer) (cancelled latched : Bool)
  | guardDeadline (a : Answer) (cancelled latched stopped : Bool)
  -- `_post_api_v1_response`
  | postBegin (a : Answer)
  | postEncrypt (a : Answer)
  | postCancelled (a : Answer)
  | postStopped (a : Answer) (epoch : Nat)
  | postDeadline (a : Answer) (epoch : Nat) (stopped latched : Bool)
  | post (a : Answer) (submission : Submission)
  | postEnd (a : Answer) (outcome : PostOutcome)
  | postedLatched (a : Answer) (outcome : PostOutcome)
  | postedStopped (a : Answer) (outcome : PostOutcome)
  | finished (result : RelayProcessingResult)
deriving DecidableEq

/-- The local variables of the supervisor's loop, while the task is in it. -/
def RequestTask.locals : RequestTask → Option Supervising
  | .loop v | .checkStopped v _ | .checkLatched v _ | .checkInference v _ => some v
  | .inferredStopped v _ | .inferredLatched v _ | .inferenceRaised v => some v
  | .checkRemaining v | .submitControl v | .controlPending v | .controlStopped v => some v
  | .controlDeadline v | .takeControl v | .takenStopped v _ | .takenDeadline v _ => some v
  | .tighten v _ | .schedule v _ | .backOff v | .sleep v | .collect v => some v
  | _ => none

/-- The request, with the two local variables that are set once: the deadline from
its metadata and the snapshot of the cancellation epoch. -/
structure RequestSystem where
  shared : RequestState
  outerDeadline : ℚ
  cancelSnapshot : Option Nat
  task : RequestTask
deriving DecidableEq

/-! ## The steps of the supervisor -/

/-- The inference is over: its response goes on, and its failure is looked at once more. -/
def observed (s : RequestState) (v : Supervising) : InferenceResult → RequestTask
  | .returned envelope => .supervised ⟨some envelope, none, s.runtimeHealth, true⟩
  | .raised => .inferenceRaised v

/-- One step from the entry of `process_client_request_result` to the return of
`_supervise_api_v1_inference`. `none` is a task of what comes after. -/
def superviseStep (env : RequestEnv) (outerDeadline : ℚ) (s : RequestState) :
    RequestTask → Option (RequestState × RequestTask)
  | .checkCredential =>
    some (s,
      if env.controlAvailable && !env.controlCredential then
        .supervised ⟨none, some "missing_control_credential", ⟨true, false, false⟩, false⟩
      else .submitInference)
  | .submitInference => some ({ s with inference := .running }, .firstPoll)
  | .firstPoll =>
    some (s, .loop ⟨outerDeadline, if env.controlAvailable then s.now else outerDeadline, 1⟩)
  | .loop v => some (s, .checkStopped v s.now)
  | .checkStopped v now =>
    some (s, if s.pollingStopped then .checkLatched v now else .checkInference v now)
  | .checkLatched v now =>
    some (s, if s.mutationLatched then .checkInference v now else .terminate "operator_stop")
  | .checkInference v now =>
    some (s,
      match s.inference with
      | .done result => .inferredStopped v result
      | _ =>
        if v.localDeadline ≤ now then .terminate "local_deadline"
        else if env.controlAvailable && decide (v.nextPollAt ≤ now) then .checkRemaining v
        else .sleep v)
  | .inferredStopped v result =>
    some (s, if s.pollingStopped then .inferredLatched v result else observed s v result)
  | .inferredLatched v result =>
    some (s, if s.mutationLatched then observed s v result else .terminate "operator_stop")
  | .inferenceRaised _ =>
    some (s,
      match s.control with
      | .done (.response c) => .terminate (c.terminalReason.getD "inference_failure")
      | _ => .terminate "inference_failure")
  | .checkRemaining v =>
    some (s,
      if max 0 (v.localDeadline - s.now) ≤ 2 / 1000 then .terminate "local_deadline"
      else .submitControl v)
  | .submitControl v =>
    some ({ s with control := if s.control = .none then .pending else s.control },
      .controlPending v)
  | .controlPending v =>
    some (s, if s.control = .pending then .controlStopped v else .takeControl v)
  | .controlStopped v =>
    some (s, if s.pollingStopped then .terminate "operator_stop" else .controlDeadline v)
  | .controlDeadline v =>
    some (s, if v.localDeadline ≤ s.now then .terminate "local_deadline" else .controlPending v)
  | .takeControl v =>
    some ({ s with control := .none },
      match s.control with
      | .done (.response c) => .takenStopped v c
      | .done .refused => .terminate "owner_proof_failed"
      | _ => .backOff v)
  | .takenStopped v c =>
    some (s, if s.pollingStopped then .terminate "operator_stop" else .takenDeadline v c)
  | .takenDeadline v c =>
    some (s, if v.localDeadline ≤ s.now then .terminate "local_deadline" else .tighten v c)
  | .tighten v c =>
    let v := { v with localDeadline := deadlineAfterResponse v.localDeadline c s.now, backoff := 1 }
    some ({ s with received := s.received ++ [(c, s.now)] },
      match c.terminalReason with
      | some reason => .terminate reason
      | none => .schedule v c)
  | .schedule v c =>
    some (s,
      if c.status.toLower = "active" then
        .loop { v with
          nextPollAt := min (s.now + controlNextPollSeconds c.nextPollSeconds) v.localDeadline }
      else .sleep { v with nextPollAt := min (s.now + controlMinPollSeconds) v.localDeadline })
  | .backOff v =>
    some (s, .sleep { v with
      nextPollAt := min (s.now + v.backoff) v.localDeadline
      backoff := min controlMaxPollSeconds (v.backoff * 2) })
  -- a wakeup cuts the wait short and is cleared
  | .sleep v => some ({ s with wakeup := false }, if s.wakeup then .loop v else .collect v)
  | .collect v =>
    some (s,
      match s.inference with
      | .done (.returned envelope) => .supervised ⟨some envelope, none, s.runtimeHealth, true⟩
      | .done .raised => .terminate "inference_failure"
      | _ => .loop v)
  | .terminate reason => some (s, .quiesce reason s.workerRecovers)
  -- an inference that does not quiesce stops the polling for good
  | .quiesce reason recovered =>
    let healthy := recovered && s.inferenceQuiesces
    some ({ s with pollingStopped := s.pollingStopped || !s.inferenceQuiesces },
      .supervised ⟨none, some reason, ⟨healthy, true, healthy⟩, false⟩)
  | _ => none

/-! ## The steps of the submission -/

/-- `cancelled_fn(cancel_snapshot)`. -/
def cancelledSince (snapshot : Option Nat) (s : RequestState) : Bool :=
  match snapshot with
  | some epoch => s.cancellationEpoch ≠ epoch
  | none => false

/-- A result without a submission. -/
def withheld (code : String) (health : RuntimeHealth) : RelayProcessingResult :=
  ⟨false, false, some code, health, false⟩

/-- The health of an answer: only two error codes leave the runtime unhealthy. -/
def answerHealth (envelope : ResponseEnvelope) (health : RuntimeHealth) : RuntimeHealth :=
  if envelope.errorCode = some "compute_node_internal_error" ∨
      envelope.errorCode = some "compute_node_process_failed" then health
  else { health with runtimeHealthy := true }

/-- The first checks before the submission, once all of them have been read. -/
def guarded (a : Answer) (cancelled latched stopped expired : Bool) : RequestTask :=
  if latched || stopped || expired || cancelled then
    .finished (withheld
      (if latched then "shutdown_requested"
        else if stopped then "operator_stop"
        else if expired then "local_deadline"
        else "request_cancelled")
      (if latched || stopped then { a.health with runtimeHealthy := true } else a.health))
  else .postBegin a

/-- `_PostApiV1Outcome` of a submission that is suppressed. -/
def suppressed (code : String) : PostOutcome := ⟨false, true, false, some code⟩

/-- The last checks of `_post_api_v1_response`. -/
def checkedPost (outerDeadline : ℚ) (snapshot : Option Nat) (a : Answer) (submission : Submission) :
    RequestTask :=
  if submission.stopped then .postEnd a (suppressed "operator_stop")
  else if outerDeadline ≤ submission.now then .postEnd a (suppressed "local_deadline")
  else if snapshot.any (· ≠ submission.epoch) then .postEnd a (suppressed "request_cancelled")
  else .post a submission

/-- What a POST leads to. -/
def PostAnswer.outcome : PostAnswer → PostOutcome
  | .accepted => ⟨true, false, false, none⟩
  | .refused => ⟨false, false, false, none⟩
  | .failed => ⟨false, false, true, none⟩

/-- One step after the supervisor has returned. -/
def submitStep (outerDeadline : ℚ) (snapshot : Option Nat) (s : RequestState) :
    RequestTask → RequestState × RequestTask
  | .supervised outcome =>
    (s,
      match outcome.responseEnvelope with
      | none =>
        .finished ⟨false, false, some (outcome.terminalCode.getD "api_v1_request_cancelled"),
          outcome.health, outcome.submissionAllowed⟩
      | some envelope => .guardCancelled ⟨envelope, answerHealth envelope outcome.health⟩)
  | .guardCancelled a => (s, .guardLatched a (cancelledSince snapshot s))
  | .guardLatched a cancelled => (s, .guardStopped a cancelled s.mutationLatched)
  | .guardStopped a cancelled latched => (s, .guardDeadline a cancelled latched s.pollingStopped)
  | .guardDeadline a cancelled latched stopped =>
    (s, guarded a cancelled latched stopped (decide (outerDeadline ≤ s.now)))
  | .postBegin a =>
    if s.mutationLatched then (s, .postedLatched a (suppressed "shutdown_requested"))
    else ({ s with mutationCount := s.mutationCount + 1 }, .postEncrypt a)
  | .postEncrypt a =>
    (s, if s.encrypts then .postCancelled a else .postEnd a PostAnswer.failed.outcome)
  | .postCancelled a => (s, .postStopped a s.cancellationEpoch)
  | .postStopped a epoch => (s, .postDeadline a epoch s.pollingStopped s.mutationLatched)
  | .postDeadline a epoch stopped latched =>
    (s, checkedPost outerDeadline snapshot a ⟨a.envelope, epoch, stopped, latched, s.now⟩)
  | .post a submission =>
    ({ s with submissions := s.submissions ++ [submission] }, .postEnd a s.postAnswer.outcome)
  | .postEnd a outcome =>
    ({ s with mutationCount := s.mutationCount - 1 }, .postedLatched a outcome)
  | .postedLatched a outcome =>
    (s,
      if outcome.suppressed then
        .finished (withheld (outcome.suppressedCode.getD "request_suppressed") a.health)
      else if outcome.submitted then
        .finished ⟨a.envelope.errorCode.isNone, true, a.envelope.errorCode, a.health, true⟩
      else if s.mutationLatched then
        .finished (withheld "shutdown_requested" { a.health with runtimeHealthy := true })
      else .postedStopped a outcome)
  | .postedStopped a _ =>
    (s,
      if s.pollingStopped then
        .finished (withheld "shutdown_requested" { a.health with runtimeHealthy := true })
      else .finished ⟨false, false, a.envelope.errorCode, a.health, true⟩)
  | task => (s, task)

/-! ## Runs -/

/-- What happens around the thread of the request: another thread moves on, or what
the next termination, encryption and POST will bring changes. -/
inductive RequestEvent
  | run
  | tick (now : ℚ)
  | stop
  | latch
  | cancel
  | inferred (result : InferenceResult)
  | controlled (result : ControlResult)
  | wake
  | prospects (workerRecovers inferenceQuiesces encrypts : Bool) (health : RuntimeHealth)
      (answer : PostAnswer)

/-- The next step of the thread of the request. -/
def runStep (env : RequestEnv) (x : RequestSystem) : RequestSystem :=
  match x.task with
  | .entry metadata =>
    { x with
      outerDeadline := initialDeadlineFromMetadata metadata x.shared.now
      task := .snapshot }
  | .snapshot =>
    { x with
      cancelSnapshot := if env.tracksCancellation then some x.shared.cancellationEpoch else none
      task := .checkCredential }
  | task =>
    let (shared, task) := (superviseStep env x.outerDeadline x.shared task).getD
      (submitStep x.outerDeadline x.cancelSnapshot x.shared task)
    { x with shared, task }

/-- The shared state after an event of another thread. The latch is only ever set
after the stop flag, by `_api_v1_latch_shutdown`. -/
def surround (s : RequestState) : RequestEvent → RequestState
  | .run => s
  | .tick now => { s with now := max s.now now }
  | .stop => { s with pollingStopped := true }
  | .latch => { s with mutationLatched := s.mutationLatched || s.pollingStopped }
  | .cancel => { s with cancellationEpoch := s.cancellationEpoch + 1 }
  | .inferred result =>
    { s with inference := if s.inference = .running then .done result else s.inference }
  | .controlled result =>
    { s with control := if s.control = .pending then .done result else s.control }
  | .wake => { s with wakeup := true }
  | .prospects workerRecovers inferenceQuiesces encrypts health answer =>
    { s with
      workerRecovers, inferenceQuiesces, encrypts
      runtimeHealth := health
      postAnswer := answer }

/-- The request after one event. -/
def requestStep (env : RequestEnv) (ev : RequestEvent) (x : RequestSystem) : RequestSystem :=
  match ev with
  | .run => runStep env x
  | ev => { x with shared := surround x.shared ev }

/-- A request comes in. -/
def incoming (metadata : RequestMetadata) (now : ℚ) (stopped latched : Bool) : RequestSystem where
  shared :=
    { now
      pollingStopped := stopped || latched
      mutationLatched := latched
      mutationCount := 0
      cancellationEpoch := 0
      inference := .none
      control := .none
      wakeup := false
      workerRecovers := true
      inferenceQuiesces := true
      runtimeHealth := ⟨true, false, false⟩
      encrypts := true
      postAnswer := .accepted
      received := []
      submissions := [] }
  outerDeadline := now
  cancelSnapshot := none
  task := .entry metadata

end ComputeNode
