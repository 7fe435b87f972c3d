import TokenPlace.Lib.Json
import TokenPlace.Lib.Schedules
import TokenPlace.Lib.Text

/-!
# The distributed compute provider

`DistributedApiV1ComputeProvider.complete_chat`, one call of the relay at a time. What the relay
does with a call, what of its reply arrives and what the clock says is an `Answer`; `admitted` and
`reported` record what the relay has done, whether or not the provider can know it. Times are exact
rationals, and the decoded number is exact too.

The cancellation is attached to the timeouts of the polling loop alone.

Results:
1. `no_orphan_iff`: one request and one cancellation at most, a result is bound to its call, and a
   live request is never left behind exactly as long as every answer is `Clean`.
2. `lost_reply_orphans`: a lost reply of an admission leaves the request behind, and the fallback
   runs beside it.
-/

namespace ComputeProvider

open Schedules (runs Along along_iff_take invariant_runs)
open Json (asString asObject asString_eq_some asObject_eq_some Unhashable)

/-- The fields of an object. -/
abbrev Fields := List (String × Json)

/-! ## Errors -/

/-- An entry of `_RELAY_ERROR_MAP`. -/
structure MappedError where
  errorType : String
  publicMessage : String
  statusCode : Nat

/-- `_RELAY_ERROR_MAP`. -/
def relayErrorMap : List (String × MappedError) :=
  [("no_registered_compute_nodes",
      ⟨"service_unavailable_error", "No LLM servers are available right now.", 503⟩),
    ("compute_node_timeout",
      ⟨"timeout_error", "The LLM server took too long to respond. Please try again.", 504⟩),
    ("compute_node_request_cancelled",
      ⟨"timeout_error",
        "The LLM server request expired before it could be answered. Please try again.", 504⟩),
    ("compute_node_bridge_timeout",
      ⟨"timeout_error", "The LLM server took too long to respond. Please try again.", 504⟩),
    ("compute_node_unreachable",
      ⟨"service_unavailable_error", "The LLM server is unavailable right now. Please try again.",
        503⟩),
    ("compute_node_bridge_error",
      ⟨"server_error", "Unable to contact the LLM server right now. Please try again.", 502⟩),
    ("compute_node_invalid_payload",
      ⟨"server_error", "The LLM server returned an invalid response. Please try again.", 502⟩)]

structure ComputeProviderError where
  message : String
  code : String
  errorType : String
  publicMessage : String
  statusCode : Nat

/-- `_error_from_code`. -/
def errorFromCode (code message : String) : ComputeProviderError :=
  match relayErrorMap.lookup code with
  | some mapped => ⟨message, code, mapped.errorType, mapped.publicMessage, mapped.statusCode⟩
  | none => ⟨message, code, "server_error", "Unable to generate a response right now.", 502⟩

/-- What leaves `complete_chat`: its own error, or another exception. -/
inductive Raised
  | provider (error : ComputeProviderError)
  | other

/-- The error of a deadline that has passed. -/
def timeoutError : ComputeProviderError :=
  errorFromCode "compute_node_timeout"
    "timed out waiting for distributed relay API v1 encrypted response"

/-! ## The relay -/

/-- What `response.json()` does: the value, a `ValueError`, or another exception of the decoder
(the text nests too deep). -/
inductive Body
  | json (value : Json)
  | invalid
  | failing

/-- What a call of `requests` comes to. -/
inductive Outcome
  | reply (status : Nat) (body : Body)
  | requestException (text : String)
  | otherException

/-- An answer: the call, the clock where the loop looks, where the timeout of the call is taken and
after an admission, and whether the relay admits what was posted. -/
structure Answer where
  checked : ℚ
  now : ℚ
  outcome : Outcome
  admits : Bool
  after : ℚ

/-- What `encrypt_message` returns. -/
structure Encrypted where
  chatHistory : String
  cipherkey : String
  iv : String

/-- What `decrypt_message` returns. Its `None` is the JSON `null`. -/
inductive Decrypted
  | bytes
  | json (value : Json)

/-- `float(value)` of a value that is no `NaN`. -/
inductive Seconds
  | finite (seconds : ℚ)
  | infinite

/-- The configured provider with the identity that one call draws. `encrypt` and `decrypt` are the
crypto manager of the call, `floatOf` reads a text as a number (`none` for a `ValueError` and for
`NaN`) and `display` is `str`. -/
structure Provider where
  baseUrl : String
  timeoutSeconds : ℚ
  publicKey : String
  requestId : String
  cancelToken : String
  encrypt : Json → String → Except String Encrypted
  decrypt : Fields → Decrypted
  floatOf : String → Option Seconds
  display : Json → String

structure ChatRequest where
  modelId : String
  messages : Json
  options : Fields

structure EnqueuePayload where
  clientPublicKey : String
  serverPublicKey : String
  requestId : String
  protocol : String
  version : Nat
  cancelToken : String
  encrypted : Encrypted

structure RetrievePayload where
  clientPublicKey : String
  requestId : String

structure CancelPayload where
  clientPublicKey : String
  requestId : String
  status : String
  reason : String
  cancelToken : String

/-- A call that was sent, with its timeout. -/
inductive Sent
  | next (url model contextTier : String) (timeout : ℚ)
  | enqueue (url : String) (payload : EnqueuePayload) (timeout : ℚ)
  | retrieve (url : String) (payload : RetrievePayload) (timeout : ℚ)
  | cancel (url : String) (payload : CancelPayload) (timeout : ℚ)

/-! ## The call -/

structure CompletionResult where
  message : Fields
  finishReason : Option String
  usage : Option Fields
  outputBudget : Option Fields

/-- Where a call of `complete_chat` is. -/
inductive Phase
  | selecting
  | posting (serverPublicKey : String) (encrypted : Encrypted)
  | polling
  | cancelling (error : ComputeProviderError)
  | returned (result : CompletionResult)
  | raised (error : Raised)

/-- The state of a call. `enqueued` and `cancelAttempted` are the flags of the source, `sent` and
`opened` list what was sent and what was decrypted, the last one first, and `admitted` and `reported`
say whether the relay has taken the request and has answered with a response or a terminal state. -/
structure Call where
  phase : Phase
  deadline : ℚ
  enqueued : Bool
  cancelAttempted : Bool
  sent : List Sent
  opened : List Fields
  admitted : Bool
  reported : Bool

def CANONICAL_LAUNCH_MODEL_ID : String := "llama-3.1-8b-instruct"

def INFERENCE_RESPONSE_GRACE_SECONDS : ℚ := 5

def RELAY_PROTOCOL : String := "tokenplace_api_v1_relay_e2ee"

variable (p : Provider)

/-- `_relay_url`. -/
def Provider.relayUrl (path : String) : String :=
  let base := p.baseUrl.toList.rdropWhile (· == '/')
  let path :=
    if "/api/v1".toList <:+ base ∧ "/api/v1/".toList <+: path.toList then
      path.toList.drop "/api/v1".length
    else path.toList
  String.ofList (base ++ path)

/-- `_poll_interval_seconds`. -/
def Provider.pollInterval : ℚ := min (max (p.timeoutSeconds / 20) (1 / 10)) (1 / 2)

/-- `relay_timeout`. -/
def Provider.relayTimeout : ℚ := max p.timeoutSeconds 1

/-- The call before its first request. -/
def started (now : ℚ) : Call where
  phase := .selecting
  deadline := now + p.relayTimeout
  enqueued := false
  cancelAttempted := false
  sent := []
  opened := []
  admitted := false
  reported := false

def Call.raise (error : Raised) (c : Call) : Call := { c with phase := .raised error }

/-- `raise _error_from_code(code, message=message)`. -/
def Call.fail (code message : String) (c : Call) : Call :=
  c.raise (.provider (errorFromCode code message))

/-- `_cancel_relay_request`, up to its reply. -/
def Call.cancel (status reason : String) (c : Call) : Call :=
  { c with
    sent := .cancel (p.relayUrl "/api/v1/relay/requests/cancel")
      ⟨p.publicKey, p.requestId, status, reason, p.cancelToken⟩ 1 :: c.sent }

/-- `_cancel_if_post_enqueue_timeout` and the exception. -/
def Call.giveUp (error : ComputeProviderError) (c : Call) : Call :=
  -- Other errors leave the request to the relay.
  if c.enqueued ∧ error.code = "compute_node_timeout" ∧ c.cancelAttempted = false then
    { c.cancel p "expired" "provider_timeout" with
      phase := .cancelling error
      cancelAttempted := true }
  else c.raise (.provider error)

/-! ## Selection -/

/-- `error_payload.get("code")` of a reply with an error object. -/
def errorCode : Body → Option Json
  | .json (.object fields) =>
    match fields.lookup "error" with
    | some (.object error) => error.lookup "code"
    | _ => none
  | _ => none

/-- The key of a reply that is an object. -/
def keyOf (fields : Fields) : Except Raised String :=
  match fields.lookup "server_public_key" with
  | some (.string key) =>
    if Text.strip key.toList = [] then
      .error (.provider (errorFromCode "no_registered_compute_nodes"
        "relay reported no registered compute nodes"))
    else .ok key
  | _ => .error (.provider (errorFromCode "no_registered_compute_nodes"
      "relay reported no registered compute nodes"))

/-- The selected server of a reply. Only a 503 is decoded before its status is looked at. -/
def selectedServer (status : Nat) (body : Body) : Except Raised String :=
  match body with
  | .failing =>
    if status ≠ 503 ∧ 500 ≤ status then
      .error (.provider (errorFromCode "compute_node_unreachable"
        s!"relay next_server endpoint returned unexpected status {status}"))
    else .error .other
  | body =>
    match decide (status = 503), errorCode body with
    | true, some (.string "no_registered_compute_nodes") =>
      .error (.provider (errorFromCode "no_registered_compute_nodes"
        "relay reported no registered compute nodes"))
    | _, _ =>
      if 500 ≤ status then
        .error (.provider (errorFromCode "compute_node_unreachable"
          s!"relay next_server endpoint returned unexpected status {status}"))
      else
        match body with
        | .json (.object fields) => keyOf fields
        | .json _ => .error (.provider (errorFromCode "compute_node_invalid_payload"
            "relay next_server response must be an object"))
        | _ => .error (.provider (errorFromCode "compute_node_invalid_payload"
            "relay next_server response was not valid JSON"))

variable (r : ChatRequest)

/-- `plaintext_envelope`. -/
def plaintextEnvelope : Json :=
  .object [("protocol", .string RELAY_PROTOCOL), ("version", .number 1),
    ("request_id", .string p.requestId), ("client_public_key", .string p.publicKey),
    ("api_v1_request", .object
      [("model", .string r.modelId), ("messages", r.messages), ("options", .object r.options)])]

/-- The request for a server, and the encryption for the one that is named. -/
def select (a : Answer) (c : Call) : Call :=
  if c.deadline - a.now ≤ 0 then c.raise (.provider timeoutError)
  else
    let c := { c with
      sent := .next (p.relayUrl "/api/v1/relay/servers/next")
        (if r.modelId = "" then CANONICAL_LAUNCH_MODEL_ID else r.modelId) "8k-fast"
        (c.deadline - a.now) :: c.sent }
    match a.outcome with
    | .requestException text =>
      c.fail "compute_node_unreachable" s!"unable to reach relay next_server endpoint: {text}"
    | .otherException => c.raise .other
    | .reply status body =>
      match selectedServer status body with
      | .error error => c.raise error
      | .ok key =>
        match p.encrypt (plaintextEnvelope p r) key with
        | .error text =>
          c.fail "compute_node_invalid_payload" s!"failed to encrypt relay request envelope: {text}"
        | .ok encrypted => { c with phase := .posting key encrypted }

/-! ## Admission -/

/-- The smallest whole number that is too large for `float`. -/
def FLOAT_OVERFLOW : ℚ := 2 ^ 1024 - 2 ^ 970

/-- `_coerce_admitted_ttl`: `none` is the `OverflowError`. -/
def coerceAdmittedTtl : Option Json → Option Seconds
  | some (.number n) => if |n| < FLOAT_OVERFLOW then some (.finite n) else none
  | some (.string text) => some ((p.floatOf text).getD (.finite 0))
  | _ => some (.finite 0)

/-- The deadline after an admission that says how long the request lives. -/
def admittedDeadline (deadline after : ℚ) : Seconds → ℚ
  | .finite ttl =>
    if 0 < ttl then after + min p.relayTimeout (ttl + INFERENCE_RESPONSE_GRACE_SECONDS)
    else deadline
  | .infinite => after + p.relayTimeout

/-- What follows a reply with the status 200. -/
def admission (body : Body) (a : Answer) (c : Call) : Call :=
  match body with
  | .failing => c.raise .other
  | .json (.object fields) =>
    match coerceAdmittedTtl p (fields.lookup "request_ttl_seconds") with
    | none => c.raise .other
    | some ttl => { c with phase := .polling, deadline := admittedDeadline p c.deadline a.after ttl }
  | _ => { c with phase := .polling }

/-- The request itself. -/
def enqueue (key : String) (encrypted : Encrypted) (a : Answer) (c : Call) : Call :=
  if c.deadline - a.now ≤ 0 then c.raise (.provider timeoutError)
  else
    let c := { c with
      sent := .enqueue (p.relayUrl "/api/v1/relay/requests")
        ⟨p.publicKey, key, p.requestId, RELAY_PROTOCOL, 1, p.cancelToken, encrypted⟩
        (c.deadline - a.now) :: c.sent
      admitted := a.admits }
    match a.outcome with
    | .requestException text =>
      c.fail "compute_node_unreachable"
        s!"unable to post encrypted request to relay faucet endpoint: {text}"
    | .otherException => c.raise .other
    | .reply 404 _ =>
      c.fail "no_registered_compute_nodes"
        "relay reported selected compute node is no longer available"
    | .reply status body =>
      if status ≠ 200 then
        c.fail "compute_node_bridge_error"
          s!"relay faucet endpoint returned unexpected status {status}"
      else admission p body a { c with enqueued := true }

/-! ## Retrieval -/

/-- The result of an answer with a message. -/
def completionResult (answer message : Fields) : CompletionResult where
  message := message
  finishReason := asString (answer.lookup "finish_reason")
  usage := asObject (answer.lookup "usage")
  outputBudget := asObject (answer.lookup "output_budget")

/-- What the answer of the compute node comes to. -/
def answered (answer : Fields) (c : Call) : Call :=
  if (answer.lookup "error").any Json.truthy then
    let error := (answer.lookup "error").getD .null
    c.fail "compute_node_bridge_error" s!"compute node reported error: {p.display error}"
  else
    match asObject (answer.lookup "message") with
    | some message => { c with phase := .returned (completionResult answer message) }
    | none => c.fail "compute_node_invalid_payload" "compute node response missing assistant message"

/-- What the decrypted object of a response comes to. -/
def openedResponse (response : Fields) (c : Call) : Call :=
  if asString (response.lookup "protocol") ≠ some RELAY_PROTOCOL then c
  else if asString (response.lookup "request_id") ≠ some p.requestId then c
  else if asString (response.lookup "client_public_key") ≠ some p.publicKey then
    c.fail "compute_node_invalid_payload"
      "decrypted relay response client_public_key binding mismatch"
  else
    match asObject (response.lookup "api_v1_response") with
    | some answer => answered p answer c
    | none => c.fail "compute_node_invalid_payload"
        "decrypted relay response missing api_v1_response object"

/-- A response that is there. -/
def response (payload : Fields) (c : Call) : Call :=
  match p.decrypt payload with
  | .json .null => c
  | .json (.object response) => openedResponse p response { c with opened := response :: c.opened }
  | _ => c.fail "compute_node_invalid_payload" "decrypted relay response payload must be an object"

/-- A reply with an error. -/
def reportedError (error : Json) (c : Call) : Call :=
  match error with
  | .object fields =>
    let code := (fields.lookup "code").getD .null
    if Unhashable code then c.raise .other
    else
      match code with
      | .string "cancelled" | .string "expired" =>
        { c with reported := true }.fail "compute_node_request_cancelled"
          s!"relay reported API v1 request {p.display code}"
      | _ => c
  | _ => c

/-- The keys of a response. -/
def HasResponse (payload : Fields) : Prop :=
  ∀ key ∈ ["chat_history", "cipherkey", "iv"], (payload.lookup key).isSome

instance : DecidablePred HasResponse := fun _ =>
  inferInstanceAs (Decidable (∀ key ∈ ["chat_history", "cipherkey", "iv"], _))

/-- A reply with an object. -/
def retrieved (payload : Fields) (c : Call) : Call :=
  if (payload.lookup "error").any Json.truthy then
    reportedError p ((payload.lookup "error").getD .null) c
  else if HasResponse payload then response p payload { c with reported := true }
  else c

/-- A reply to a retrieval. -/
def receive (status : Nat) (body : Body) (c : Call) : Call :=
  if status = 202 then c
  else if status = 410 then
    { c with reported := true }.fail "compute_node_request_cancelled"
      "relay reported API v1 request expired or was cancelled"
  else if status = 404 then
    c.fail "compute_node_bridge_error" "relay reported unknown API v1 response request id"
  else if status ≠ 200 then c
  else
    match body with
    | .failing => c.raise .other
    | .json (.object payload) => retrieved p payload c
    | _ => c

/-- One turn of the loop. -/
def poll (a : Answer) (c : Call) : Call :=
  if ¬ a.checked < c.deadline then c.giveUp p timeoutError
  else if c.deadline - a.now ≤ 0 then c.giveUp p timeoutError
  else
    let c := { c with
      sent := .retrieve (p.relayUrl "/api/v1/relay/responses/retrieve")
        ⟨p.publicKey, p.requestId⟩ (min (p.pollInterval + 1 / 2) (c.deadline - a.now)) :: c.sent }
    match a.outcome with
    | .requestException _ => c
    | .otherException => c.raise .other
    | .reply status body => receive p status body c

/-! ## Steps -/

/-- One call of the relay. -/
def step (a : Answer) (c : Call) : Call :=
  match c.phase with
  | .selecting => select p r a c
  | .posting key encrypted => enqueue p key encrypted a c
  | .polling => poll p a c
  | .cancelling error =>
    match a.outcome with
    | .otherException => c.raise .other
    | _ => c.raise (.provider error)
  | .returned _ | .raised _ => c

/-- `FallbackApiV1ComputeProvider`: the fallback is called. -/
def Call.fallsBack (c : Call) : Bool := c.phase matches .raised (.provider _)

/-! ## Statements -/

/-- The number of requests that were posted. -/
def enqueues (sent : List Sent) : Nat := sent.countP (· matches .enqueue ..)

def cancels (sent : List Sent) : Nat := sent.countP (· matches .cancel ..)

/-- A cancellation was sent, with the identity of a request that was. -/
def Withdrawn (c : Call) : Prop :=
  ∃ url payload timeout url' payload' timeout',
    Sent.enqueue url payload timeout ∈ c.sent ∧ Sent.cancel url' payload' timeout' ∈ c.sent ∧
      payload'.requestId = payload.requestId ∧
      payload'.clientPublicKey = payload.clientPublicKey ∧
      payload'.cancelToken = payload.cancelToken

/-- The relay has admitted the request, it has not reported how the request ended, and nobody has
tried to withdraw it. -/
def Live (c : Call) : Prop := c.admitted = true ∧ c.reported = false ∧ ¬ Withdrawn c

/-- An exception leaves a live request behind. -/
def Orphaned (c : Call) : Prop := (∃ error, c.phase = .raised error) ∧ Live c

/-- A result comes from a decrypted response of this call. -/
def Bound (c : Call) : Prop :=
  ∀ result, c.phase = .returned result → ∃ response ∈ c.opened,
    response.lookup "protocol" = some (.string RELAY_PROTOCOL) ∧
    response.lookup "request_id" = some (.string p.requestId) ∧
    response.lookup "client_public_key" = some (.string p.publicKey) ∧
    ∃ answer message, response.lookup "api_v1_response" = some (.object answer) ∧
      answer.lookup "message" = some (.object message) ∧ result = completionResult answer message

/-- The reply to an admission says that the relay has the request, and its lifetime is a number that
fits. -/
def Confirms : Outcome → Prop
  | .reply status body => status = 200 ∧
    match body with
    | .failing => False
    | .json (.object fields) =>
      (coerceAdmittedTtl p (fields.lookup "request_ttl_seconds")).isSome
    | _ => True
  | _ => False

/-- A retrieval breaks the loop off although the relay does not say that the request has ended. -/
def BreaksOff : Outcome → Prop
  | .requestException _ => False
  | .otherException => True
  | .reply status body => status = 404 ∨ status = 200 ∧
    match body with
    | .failing => True
    | .json (.object payload) =>
      match payload.lookup "error" with
      | some (.object error) => Unhashable ((error.lookup "code").getD .null)
      | _ => False
    | _ => False

/-- A posted request that the relay admits is confirmed, and no retrieval breaks off while the
request is open. -/
def Clean (a : Answer) (c : Call) : Prop :=
  match c.phase with
  | .posting _ _ => a.now < c.deadline → a.admits = true → Confirms p a.outcome
  | .polling => c.admitted = true → c.reported = false → a.checked < c.deadline →
      a.now < c.deadline → ¬ BreaksOff a.outcome
  | _ => True

/-! ## What a reply to a retrieval does -/

variable {p r} {a : Answer} {c c' : Call} {broken : Prop} {error : Raised}

/-- What a turn of the loop that was not too late can do. -/
structure Turn (p : Provider) (broken : Prop) (c c' : Call) : Prop where
  sent : c'.sent = c.sent
  admitted : c'.admitted = c.admitted
  enqueued : c'.enqueued = c.enqueued
  cancelAttempted : c'.cancelAttempted = c.cancelAttempted
  stops : c'.phase = .polling ∨ (∃ error, c'.phase = .raised error) ∨
    ∃ result, c'.phase = .returned result
  bound : Bound p c'
  breaks : broken → (∃ error, c'.phase = .raised error) ∧ c'.reported = c.reported
  goes : ¬ broken → c'.phase = .polling ∨ c'.reported = true

theorem bound_of_raised (raised : c.phase = .raised error) : Bound p c := by
  intro result returned
  simp [raised] at returned

theorem bound_of_polling (polling : c.phase = .polling) : Bound p c := by
  intro result returned
  simp [polling] at returned

theorem Turn.stay (polling : c.phase = .polling) (whole : ¬ broken) : Turn p broken c c where
  sent := rfl
  admitted := rfl
  enqueued := rfl
  cancelAttempted := rfl
  stops := .inl polling
  bound := bound_of_polling polling
  breaks now := absurd now whole
  goes _ := .inl polling

theorem Turn.breakOff (now : broken) (error : Raised) : Turn p broken c (c.raise error) where
  sent := rfl
  admitted := rfl
  enqueued := rfl
  cancelAttempted := rfl
  stops := .inr (.inl ⟨error, rfl⟩)
  bound := bound_of_raised rfl
  breaks _ := ⟨⟨error, rfl⟩, rfl⟩
  goes whole := absurd now whole

theorem Turn.ends {opened : List Fields} (whole : ¬ broken) (error : Raised) :
    Turn p broken c ({ c with reported := true, opened := opened }.raise error) where
  sent := rfl
  admitted := rfl
  enqueued := rfl
  cancelAttempted := rfl
  stops := .inr (.inl ⟨error, rfl⟩)
  bound := bound_of_raised rfl
  breaks now := absurd now whole
  goes _ := .inr rfl

theorem Turn.reported {opened : List Fields} (polling : c.phase = .polling) (whole : ¬ broken) :
    Turn p broken c { c with reported := true, opened := opened } where
  sent := rfl
  admitted := rfl
  enqueued := rfl
  cancelAttempted := rfl
  stops := .inl polling
  bound := bound_of_polling polling
  breaks now := absurd now whole
  goes _ := .inl polling

theorem openedResponse_turn (polling : c.phase = .polling) (whole : ¬ broken) (response : Fields) :
    Turn p broken c
      (openedResponse p response { c with reported := true, opened := response :: c.opened }) := by
  unfold openedResponse
  split_ifs with protocol named keyed
  · exact .reported polling whole
  · exact .reported polling whole
  · exact .ends whole _
  split
  · next answer replied =>
    unfold answered
    split_ifs with failed
    · exact .ends whole _
    split
    · next message told =>
      refine ⟨rfl, rfl, rfl, rfl, .inr (.inr ⟨_, rfl⟩), ?_, fun now => absurd now whole,
        fun _ => .inr rfl⟩
      rintro result ⟨⟩
      exact ⟨response, List.mem_cons_self, asString_eq_some.mp (not_not.mp protocol),
        asString_eq_some.mp (not_not.mp named), asString_eq_some.mp (not_not.mp keyed), answer,
        message, asObject_eq_some.mp replied, asObject_eq_some.mp told, rfl⟩
    · exact .ends whole _
  · exact .ends whole _

theorem response_turn (polling : c.phase = .polling) (whole : ¬ broken) (payload : Fields) :
    Turn p broken c (response p payload { c with reported := true }) := by
  unfold response
  split
  · exact .reported polling whole
  · exact openedResponse_turn polling whole _
  · exact .ends whole _

theorem reportedError_turn (polling : c.phase = .polling) (error : Json) :
    Turn p (match error with
        | .object fields => Unhashable ((fields.lookup "code").getD .null)
        | _ => False) c (reportedError p error c) := by
  unfold reportedError
  cases error with
  | object fields =>
    dsimp only
    split_ifs with unhashable
    · exact .breakOff unhashable _
    · split
      · exact .ends unhashable _
      · exact .ends unhashable _
      · exact .stay polling unhashable
  | _ => exact .stay polling not_false

theorem hashable_of_falsy {error : Json} (falsy : ¬ error.truthy = true) :
    ¬ (match some error with
      | some (.object fields) => Unhashable ((fields.lookup "code").getD .null)
      | _ => False) := by
  cases error with
  | object fields => simp_all [Json.truthy, Unhashable]
  | _ => exact not_false

theorem receive_turn (polling : c.phase = .polling) (status : Nat) (body : Body) :
    Turn p (BreaksOff (.reply status body)) c (receive p status body c) := by
  unfold receive
  split_ifs with waiting gone missing strange
  · exact .stay polling (by simp [BreaksOff, waiting])
  · exact .ends (by simp [BreaksOff, gone]) _
  · exact .breakOff (.inl missing) _
  · exact .stay polling (by simp [BreaksOff, missing, strange])
  · have found : status = 200 := not_not.mp strange
    subst found
    cases body with
    | failing => exact .breakOff (.inr ⟨rfl, trivial⟩) _
    | invalid => exact .stay polling (by simp [BreaksOff])
    | json value =>
      cases value with
      | object payload =>
        simp only [BreaksOff, missing, false_or, true_and]
        unfold retrieved
        cases payload.lookup "error" with
        | none =>
          simp only [Option.any_none, Bool.false_eq_true, if_false]
          split_ifs
          · exact response_turn polling not_false payload
          · exact .stay polling not_false
        | some error =>
          simp only [Option.any_some, Option.getD_some]
          split_ifs with truthy
          · have turn := reportedError_turn (p := p) polling error
            cases error <;> exact turn
          · exact response_turn polling (hashable_of_falsy truthy) payload
          · exact .stay polling (hashable_of_falsy truthy)
      | _ => exact .stay polling (by simp [BreaksOff])

/-! ## Runs -/

/-- A request with the identity of this call was sent. -/
def Enqueued (p : Provider) (c : Call) : Prop :=
  ∃ url payload timeout, Sent.enqueue url payload timeout ∈ c.sent ∧
    payload.requestId = p.requestId ∧ payload.clientPublicKey = p.publicKey ∧
    payload.cancelToken = p.cancelToken

/-- What is known of a call where it is. -/
def Stage (p : Provider) (c : Call) : Prop :=
  match c.phase with
  | .selecting | .posting _ _ =>
    (c.admitted = false ∧ c.reported = false ∧ c.cancelAttempted = false) ∧ enqueues c.sent = 0 ∧ cancels c.sent = 0
  | .polling =>
    (c.enqueued = true ∧ c.cancelAttempted = false) ∧ Enqueued p c ∧
      enqueues c.sent = 1 ∧ cancels c.sent = 0
  | .cancelling _ => Withdrawn c ∧ enqueues c.sent = 1 ∧ cancels c.sent = 1
  | .returned _ | .raised _ => enqueues c.sent ≤ 1 ∧ cancels c.sent ≤ 1

theorem enqueues_cons (x : Sent) (sent : List Sent) :
    enqueues (x :: sent) = enqueues sent + if x matches .enqueue .. then 1 else 0 :=
  List.countP_cons ..

theorem cancels_cons (x : Sent) (sent : List Sent) :
    cancels (x :: sent) = cancels sent + if x matches .cancel .. then 1 else 0 :=
  List.countP_cons ..

theorem not_withdrawn (none : cancels c.sent = 0) : ¬ Withdrawn c := by
  rintro ⟨_, _, _, _, _, _, _, cancel, _⟩
  exact absurd rfl (List.countP_eq_zero.mp none _ cancel)

theorem giveUp_stage (flags : c.enqueued = true ∧ c.cancelAttempted = false)
    (enqueued : Enqueued p c) (one : enqueues c.sent = 1) (none : cancels c.sent = 0) :
    Stage p (c.giveUp p timeoutError) ∧
      ∃ error, (c.giveUp p timeoutError).phase = .cancelling error := by
  obtain ⟨url, payload, timeout, sent, requestId, key, token⟩ := enqueued
  unfold Call.giveUp
  rw [if_pos ⟨flags.1, rfl, flags.2⟩]
  refine ⟨⟨⟨url, payload, timeout, _, _, _, List.mem_cons_of_mem _ sent, List.mem_cons_self,
    requestId.symm, key.symm, token.symm⟩, ?_, ?_⟩, _, rfl⟩
  · simp [Call.cancel, enqueues_cons, one]
  · simp [Call.cancel, cancels_cons, none]

theorem select_cases (r : ChatRequest) (a : Answer) (c : Call) :
    ((∃ error, (select p r a c).phase = .raised error) ∨
        ∃ key encrypted, (select p r a c).phase = .posting key encrypted) ∧
      ((select p r a c).admitted = c.admitted ∧ (select p r a c).reported = c.reported ∧
        (select p r a c).cancelAttempted = c.cancelAttempted) ∧
      enqueues (select p r a c).sent = enqueues c.sent ∧
      cancels (select p r a c).sent = cancels c.sent := by
  unfold select
  split
  · exact ⟨.inl ⟨_, rfl⟩, ⟨rfl, rfl, rfl⟩, rfl, rfl⟩
  · dsimp only
    split
    · exact ⟨.inl ⟨_, rfl⟩, ⟨rfl, rfl, rfl⟩, enqueues_cons _ _, cancels_cons _ _⟩
    · exact ⟨.inl ⟨_, rfl⟩, ⟨rfl, rfl, rfl⟩, enqueues_cons _ _, cancels_cons _ _⟩
    · split
      · exact ⟨.inl ⟨_, rfl⟩, ⟨rfl, rfl, rfl⟩, enqueues_cons _ _, cancels_cons _ _⟩
      · split
        · exact ⟨.inl ⟨_, rfl⟩, ⟨rfl, rfl, rfl⟩, enqueues_cons _ _, cancels_cons _ _⟩
        · exact ⟨.inr ⟨_, _, rfl⟩, ⟨rfl, rfl, rfl⟩, enqueues_cons _ _, cancels_cons _ _⟩

/-- What follows an admission: the loop, exactly if the reply confirms it. -/
theorem admission_cases (body : Body) (a : Answer) (c : Call) :
    ∃ phase deadline, admission p body a c = { c with phase := phase, deadline := deadline } ∧
      (Confirms p (.reply 200 body) ∧ phase = .polling ∨
        ¬ Confirms p (.reply 200 body) ∧ ∃ error, phase = .raised error) := by
  unfold admission
  split
  · exact ⟨_, _, rfl, .inr ⟨nofun, _, rfl⟩⟩
  · next fields =>
    split
    · next overflow => exact ⟨_, _, rfl, .inr ⟨by simp [Confirms, overflow], _, rfl⟩⟩
    · next ttl fits => exact ⟨_, _, rfl, .inl ⟨by simp [Confirms, fits], rfl⟩⟩
  · next other =>
    refine ⟨_, _, rfl, .inl ⟨⟨rfl, ?_⟩, rfl⟩⟩
    cases body with
    | failing => simp_all
    | invalid => trivial
    | json value => cases value <;> first | trivial | simp_all

/-- What posting the request can do: the loop begins exactly if the reply confirms the admission. -/
structure Posted (p : Provider) (a : Answer) (c c' : Call) : Prop where
  sent : ∃ url payload timeout, c'.sent = .enqueue url payload timeout :: c.sent ∧
    payload.requestId = p.requestId ∧ payload.clientPublicKey = p.publicKey ∧
    payload.cancelToken = p.cancelToken
  admitted : c'.admitted = a.admits
  cancelAttempted : c'.cancelAttempted = c.cancelAttempted
  reported : c'.reported = c.reported
  goes : Confirms p a.outcome → c'.phase = .polling ∧ c'.enqueued = true
  breaks : ¬ Confirms p a.outcome → ∃ error, c'.phase = .raised error

theorem enqueue_cases (key : String) (encrypted : Encrypted) (a : Answer) (c : Call) :
    (¬ a.now < c.deadline ∧ enqueue p key encrypted a c = c.raise (.provider timeoutError)) ∨
      (a.now < c.deadline ∧ Posted p a c (enqueue p key encrypted a c)) := by
  unfold enqueue
  split
  · next late => exact .inl ⟨by linarith, rfl⟩
  next early =>
  refine .inr ⟨by linarith, ?_⟩
  dsimp only
  split
  · next is =>
    exact ⟨⟨_, _, _, rfl, rfl, rfl, rfl⟩, rfl, rfl, rfl, by simp [is, Confirms], fun _ => ⟨_, rfl⟩⟩
  · next is =>
    exact ⟨⟨_, _, _, rfl, rfl, rfl, rfl⟩, rfl, rfl, rfl, by simp [is, Confirms], fun _ => ⟨_, rfl⟩⟩
  · next is =>
    exact ⟨⟨_, _, _, rfl, rfl, rfl, rfl⟩, rfl, rfl, rfl, by simp [is, Confirms], fun _ => ⟨_, rfl⟩⟩
  · next status body _ is =>
    split
    · next strange =>
      exact ⟨⟨_, _, _, rfl, rfl, rfl, rfl⟩, rfl, rfl, rfl,
        fun confirms => absurd (is ▸ confirms).1 strange, fun _ => ⟨_, rfl⟩⟩
    · next ok =>
      obtain rfl := not_not.mp ok
      obtain ⟨phase, deadline, same, next⟩ := admission_cases (p := p) body a
        { c with
          enqueued := true
          sent := .enqueue (p.relayUrl "/api/v1/relay/requests")
            ⟨p.publicKey, key, p.requestId, RELAY_PROTOCOL, 1, p.cancelToken, encrypted⟩
            (c.deadline - a.now) :: c.sent
          admitted := a.admits }
      rw [same]
      rw [← is] at next
      refine ⟨⟨_, _, _, rfl, rfl, rfl, rfl⟩, rfl, rfl, rfl, fun confirms => ?_, fun lacks => ?_⟩
      · rcases next with ⟨_, polling⟩ | ⟨lacks, _⟩
        · exact ⟨polling, rfl⟩
        · exact absurd confirms lacks
      · rcases next with ⟨confirms, _⟩ | ⟨_, raised⟩
        · exact absurd confirms lacks
        · exact raised

/-- What a turn of the loop can do: it gives up, or it asks and comes to a `Turn`. -/
theorem poll_cases (polling : c.phase = .polling) (a : Answer) :
    (¬ (a.checked < c.deadline ∧ a.now < c.deadline) ∧ poll p a c = c.giveUp p timeoutError) ∨
    ((a.checked < c.deadline ∧ a.now < c.deadline) ∧ ∃ url payload timeout,
      Turn p (BreaksOff a.outcome) { c with sent := .retrieve url payload timeout :: c.sent }
        (poll p a c)) := by
  unfold poll
  split_ifs with early late
  · exact .inl ⟨fun soon => absurd soon.2 (by linarith), rfl⟩
  · refine .inr ⟨⟨early, by linarith⟩, p.relayUrl "/api/v1/relay/responses/retrieve",
      ⟨p.publicKey, p.requestId⟩, min (p.pollInterval + 1 / 2) (c.deadline - a.now), ?_⟩
    dsimp only
    split
    · next is => exact .stay polling (by simp [is, BreaksOff])
    · next is => exact .breakOff (by simp [is, BreaksOff]) _
    · next is =>
      rw [is]
      apply receive_turn
      exact polling
  · exact .inl ⟨fun soon => early soon.1, rfl⟩

theorem started_stage (now : ℚ) : Stage p (started p now) :=
  ⟨⟨rfl, rfl, rfl⟩, rfl, rfl⟩

theorem step_stage (a : Answer) (c : Call) (stage : Stage p c) : Stage p (step p r a c) := by
  unfold step
  cases phase : c.phase with
  | selecting =>
    simp only [Stage, phase] at stage
    obtain ⟨unadmitted, none, free⟩ := stage
    obtain ⟨next, admitted, same, same'⟩ := select_cases (p := p) r a c
    rw [none] at same
    rw [free] at same'
    rcases next with ⟨error, raised⟩ | ⟨key, encrypted, posting⟩
    · simp [Stage, raised, same, same']
    · simp [Stage, posting, admitted, unadmitted, same, same']
  | posting key encrypted =>
    show Stage p (enqueue p key encrypted a c)
    simp only [Stage, phase] at stage
    obtain ⟨unadmitted, none, free⟩ := stage
    rcases enqueue_cases key encrypted a c with ⟨_, is⟩ | ⟨_, posted⟩
    · rw [is]
      exact ⟨none.trans_le (Nat.zero_le _), free.trans_le (Nat.zero_le _)⟩
    · obtain ⟨url, payload, timeout, sent, ids⟩ := posted.sent
      have one : enqueues (enqueue p key encrypted a c).sent = 1 := by
        rw [sent, enqueues_cons, none]; rfl
      have still : cancels (enqueue p key encrypted a c).sent = 0 := by
        rw [sent, cancels_cons, free]; rfl
      by_cases confirms : Confirms p a.outcome
      · simp only [Stage, (posted.goes confirms).1]
        exact ⟨⟨(posted.goes confirms).2, posted.cancelAttempted.trans unadmitted.2.2⟩,
          ⟨url, payload, timeout, sent ▸ List.mem_cons_self, ids⟩, one, still⟩
      · obtain ⟨error, raised⟩ := posted.breaks confirms
        simp only [Stage, raised]
        exact ⟨one.le, still.trans_le (Nat.zero_le _)⟩
  | polling =>
    show Stage p (poll p a c)
    simp only [Stage, phase] at stage
    obtain ⟨flags, enqueued, one, free⟩ := stage
    rcases poll_cases (p := p) phase a with ⟨_, is⟩ | ⟨_, url, payload, timeout, turn⟩
    · rw [is]
      exact (giveUp_stage flags enqueued one free).1
    · have same : enqueues (poll p a c).sent = 1 := by
        rw [turn.sent, enqueues_cons, one]; rfl
      have still : cancels (poll p a c).sent = 0 := by
        rw [turn.sent, cancels_cons, free]; rfl
      rcases turn.stops with polling | ⟨error, raised⟩ | ⟨result, returned⟩
      · simp only [Stage, polling]
        obtain ⟨url', payload', timeout', posted, ids⟩ := enqueued
        refine ⟨⟨turn.enqueued.trans flags.1, turn.cancelAttempted.trans flags.2⟩,
          ⟨url', payload', timeout', ?_, ids⟩, same, still⟩
        rw [turn.sent]
        exact List.mem_cons_of_mem _ posted
      · simp [Stage, raised, same, still]
      · simp [Stage, returned, same, still]
  | cancelling error =>
    simp only [Stage, phase] at stage
    obtain ⟨_, one, cancelled⟩ := stage
    cases a.outcome <;> exact ⟨one.le, cancelled.le⟩
  | returned result | raised error => simpa only [Stage, phase] using stage

theorem bound_of_start (now : ℚ) : Bound p (started p now) := by
  intro result returned
  simp [started] at returned

theorem step_bound (a : Answer) (c : Call) (bound : Bound p c) : Bound p (step p r a c) := by
  unfold step
  cases phase : c.phase with
  | selecting =>
    obtain ⟨⟨error, raised⟩ | ⟨key, encrypted, posting⟩, _⟩ := select_cases (p := p) r a c
    · exact bound_of_raised raised
    · intro result returned
      simp [posting] at returned
  | posting key encrypted =>
    show Bound p (enqueue p key encrypted a c)
    rcases enqueue_cases key encrypted a c with ⟨_, is⟩ | ⟨_, posted⟩
    · rw [is]
      exact bound_of_raised rfl
    · by_cases confirms : Confirms p a.outcome
      · exact bound_of_polling (posted.goes confirms).1
      · exact bound_of_raised (posted.breaks confirms).choose_spec
  | polling =>
    show Bound p (poll p a c)
    rcases poll_cases (p := p) phase a with ⟨_, is⟩ | ⟨_, url, payload, timeout, turn⟩
    · rw [is]
      unfold Call.giveUp
      split <;> rintro result ⟨⟩
    · exact turn.bound
  | cancelling error => cases a.outcome <;> exact bound_of_raised rfl
  | returned result | raised error => exact bound

theorem not_live_of_unadmitted (unadmitted : c.admitted = false) : ¬ Live c := by
  rintro ⟨admitted, _⟩
  simp [unadmitted] at admitted

theorem step_orphaned (a : Answer) (c : Call) (stage : Stage p c) (whole : ¬ Orphaned c) :
    Orphaned (step p r a c) ↔ ¬ Clean p a c := by
  unfold step Clean
  cases phase : c.phase with
  | selecting =>
    simp only [Stage, phase] at stage
    obtain ⟨_, same, _⟩ := select_cases (p := p) r a c
    simp only [not_true_eq_false, iff_false]
    exact fun orphaned => not_live_of_unadmitted (same.1.trans stage.1.1) orphaned.2
  | posting key encrypted =>
    simp only [Stage, phase] at stage
    obtain ⟨⟨unadmitted, unreported, _⟩, _, free⟩ := stage
    dsimp only
    rcases enqueue_cases key encrypted a c with ⟨late, is⟩ | ⟨early, posted⟩
    · rw [is]
      exact iff_of_false (fun orphaned => not_live_of_unadmitted unadmitted orphaned.2)
        (not_not.mpr fun early => absurd early late)
    · obtain ⟨url, payload, timeout, sent, _⟩ := posted.sent
      have still : cancels (enqueue p key encrypted a c).sent = 0 := by
        rw [sent, cancels_cons, free]; rfl
      constructor
      · rintro ⟨⟨error, raised⟩, admitted, _⟩ clean
        have going := (posted.goes (clean early (posted.admitted.symm.trans admitted))).1
        simp [going] at raised
      · intro unclean
        push Not at unclean
        obtain ⟨_, admits, lacks⟩ := unclean
        exact ⟨posted.breaks lacks, posted.admitted.trans admits,
          posted.reported.trans unreported, not_withdrawn still⟩
  | polling =>
    simp only [Stage, phase] at stage
    obtain ⟨flags, enqueued, one, free⟩ := stage
    dsimp only
    rcases poll_cases (p := p) phase a with ⟨late, is⟩ | ⟨soon, url, payload, timeout, turn⟩
    · obtain ⟨_, error, cancelling⟩ := giveUp_stage flags enqueued one free
      rw [is]
      refine iff_of_false ?_ (not_not.mpr fun _ _ checked now => absurd ⟨checked, now⟩ late)
      rintro ⟨⟨error', raised⟩, _⟩
      simp [cancelling] at raised
    · have still : cancels (poll p a c).sent = 0 := by
        rw [turn.sent, cancels_cons, free]; rfl
      constructor
      · rintro ⟨⟨error, raised⟩, admitted, unreported, _⟩ clean
        by_cases broken : BreaksOff a.outcome
        · have open' := (turn.breaks broken).2.symm.trans unreported
          exact clean (turn.admitted.symm.trans admitted) open' soon.1 soon.2 broken
        · rcases turn.goes broken with going | reported
          · simp [going] at raised
          · simp [reported] at unreported
      · intro unclean
        push Not at unclean
        obtain ⟨admitted, unreported, _, _, broken⟩ := unclean
        obtain ⟨raised, same⟩ := turn.breaks broken
        exact ⟨raised, turn.admitted.trans admitted, same.trans unreported, not_withdrawn still⟩
  | cancelling error =>
    simp only [Stage, phase] at stage
    simp only [not_true_eq_false, iff_false]
    rintro ⟨_, _, _, unwithdrawn⟩
    cases is : a.outcome <;> rw [is] at unwithdrawn <;> exact unwithdrawn stage.1
  | returned result | raised error => simpa only [not_true_eq_false, iff_false] using whole

theorem raised_of_fallsBack (falls : c.fallsBack = true) : ∃ error, c.phase = .raised error := by
  unfold Call.fallsBack at falls
  split at falls
  · next error raised => exact ⟨_, raised⟩
  · simp at falls

theorem started_whole (now : ℚ) : ¬ Orphaned (started p now) := by
  rintro ⟨⟨error, raised⟩, _⟩
  simp [started] at raised

theorem runs_stage (answers : List Answer) (now : ℚ) :
    Stage p (runs (step p r) answers (started p now)) :=
  invariant_runs step_stage answers (started_stage now)

theorem stage_counts (stage : Stage p c) : enqueues c.sent ≤ 1 ∧ cancels c.sent ≤ 1 := by
  unfold Stage at stage
  split at stage
  · exact ⟨by rw [stage.2.1]; exact Nat.zero_le _, by rw [stage.2.2]; exact Nat.zero_le _⟩
  · exact ⟨by rw [stage.2.1]; exact Nat.zero_le _, by rw [stage.2.2]; exact Nat.zero_le _⟩
  · exact ⟨stage.2.2.1.le, by rw [stage.2.2.2]; exact Nat.zero_le _⟩
  · exact ⟨stage.2.1.le, stage.2.2.le⟩
  · exact stage
  · exact stage

/-- A call sends one request and one cancellation at most and returns what is bound to it; and it
leaves no live request behind, at any time, exactly if every answer is clean. Then the fallback runs
beside no live request. -/
theorem no_orphan_iff (p : Provider) (r : ChatRequest) (now : ℚ) (answers : List Answer) :
    (enqueues (runs (step p r) answers (started p now)).sent ≤ 1 ∧
      cancels (runs (step p r) answers (started p now)).sent ≤ 1 ∧
      Bound p (runs (step p r) answers (started p now))) ∧
    ((∀ n, ¬ Orphaned (runs (step p r) (answers.take n) (started p now))) ↔
      Along (step p r) (Clean p) answers (started p now)) ∧
    (Along (step p r) (Clean p) answers (started p now) →
      (runs (step p r) answers (started p now)).fallsBack = true →
      ¬ Live (runs (step p r) answers (started p now))) := by
  have exact' : (∀ n, ¬ Orphaned (runs (step p r) (answers.take n) (started p now))) ↔
      Along (step p r) (Clean p) answers (started p now) :=
    along_iff_take (J := fun c => Stage p c ∧ ¬ Orphaned c)
      (fun a c clean known => ⟨step_stage a c known.1, fun orphaned =>
        (step_orphaned a c known.1 known.2).mp orphaned clean⟩)
      (fun _ known => known.2)
      (fun a c known unclean => not_not.mpr ((step_orphaned a c known.1 known.2).mpr unclean))
      ⟨started_stage now, started_whole now⟩
  refine ⟨⟨(stage_counts (runs_stage answers now)).1, (stage_counts (runs_stage answers now)).2,
    invariant_runs step_bound answers (bound_of_start now)⟩, exact', ?_⟩
  intro clean falls live
  have raised := raised_of_fallsBack falls
  have last := exact'.mpr clean answers.length
  rw [List.take_length] at last
  exact last ⟨raised, live⟩

/-- A provider whose crypto manager seals nothing. -/
def sampleProvider : Provider where
  baseUrl := "https://relay.example"
  timeoutSeconds := 10
  publicKey := "client"
  requestId := "api-v1-1"
  cancelToken := "token"
  encrypt _ _ := .ok ⟨"chat", "key", "iv"⟩
  decrypt _ := .json .null
  floatOf _ := none
  display _ := ""

def sampleRequest : ChatRequest := ⟨"", .array [], []⟩

/-- The relay names a server and admits the request, and its reply is lost. -/
def lostReply : List Answer :=
  [⟨0, 1, .reply 200 (.json (.object [("server_public_key", .string "server")])), false, 1⟩,
    ⟨1, 2, .requestException "timed out", true, 2⟩]

/-- A lost reply of an admission leaves the request behind, and the fallback runs beside it. -/
theorem lost_reply_orphans :
    Orphaned (runs (step sampleProvider sampleRequest) lostReply (started sampleProvider 0)) ∧
      (runs (step sampleProvider sampleRequest) lostReply (started sampleProvider 0)).fallsBack =
        true := by
  have falls : (runs (step sampleProvider sampleRequest) lostReply
      (started sampleProvider 0)).fallsBack = true := by
    decide +kernel
  have sent : (runs (step sampleProvider sampleRequest) lostReply
        (started sampleProvider 0)).admitted = true ∧
      (runs (step sampleProvider sampleRequest) lostReply
        (started sampleProvider 0)).reported = false ∧
      cancels (runs (step sampleProvider sampleRequest) lostReply
        (started sampleProvider 0)).sent = 0 := by
    decide +kernel
  obtain ⟨admitted, unreported, free⟩ := sent
  exact ⟨⟨raised_of_fallsBack falls, admitted, unreported, not_withdrawn free⟩, falls⟩

end ComputeProvider
