import TokenPlace.Browser.Failover
import TokenPlace.Lib.Schedules

/-!
# Requests of the chat page at the relay

`sendMessageApiOnce` from the choice of a server on, with the retrieval and the cancellation of the
request, and what the page does when it is hidden. The text up to the next `await` is one step, so
other steps come between any two awaits. `step` is that step function: an event is what an awaited
call gives, the answer to a cancellation, or the page being hidden. A call that the end of the
request interrupts is one that `waitForOperation` races with it.

The page sends one message at a time, so there is one call of `sendMessageApiOnce` at a time. The
active request is an object that the page and the call share: `activeRelayRequest` and the call
refer to it by its number. The log keeps, newest first, what the steps do outside and to the
request, and the answer of the relay to each dispatch with whether it takes the request.

The announcement of the progress, which the page only shows, and the texts of the console are left
out.
-/

namespace RelayRequests

open JsText (property truthy asNumber)
open Json (asString asObject)
open ChatFailover (Reply failure serverFailure withAttempt getUserFacingApiError disconnectedMessage
  genericFallbackMessage isTerminalSelectedServerError)

def protocol : String := "tokenplace_api_v1_relay_e2ee"

/-- `response.ok`. -/
def isOk (status : Nat) : Bool := 200 ≤ status && status < 300

/-! ## Deadlines, in milliseconds -/

def legacyRelayResponsePollTimeoutMs : ℚ := 485000

def relayResponsePropagationGraceMs : ℚ := 5000

/-- `validRelayDeadlineSeconds`. -/
def validRelayDeadlineSeconds (value : Option Json) : Option ℚ := (asNumber value).filter (0 < ·)

/-- `validRelayDeadlineRemainingSeconds`. -/
def validRelayDeadlineRemainingSeconds (value : Option Json) : Option ℚ :=
  (asNumber value).filter (0 ≤ ·)

/-- `relayResponseDeadlineFromAdmission`. -/
def relayResponseDeadlineFromAdmission (admissionPayload : Option Json) (admittedAtMs : ℚ) : ℚ :=
  match validRelayDeadlineSeconds (property admissionPayload "request_ttl_seconds") with
  | none => admittedAtMs + legacyRelayResponsePollTimeoutMs
  | some ttlSeconds => admittedAtMs + ttlSeconds * 1000 + relayResponsePropagationGraceMs

/-- `shortenRelayResponseDeadline`. -/
def shortenRelayResponseDeadline (currentDeadlineMs : ℚ) (pendingPayload : Option Json)
    (observedAtMs : ℚ) : ℚ :=
  let candidates := [
    validRelayDeadlineRemainingSeconds
      (property pendingPayload "request_deadline_remaining_seconds"),
    validRelayDeadlineSeconds (property pendingPayload "request_ttl_seconds")].filterMap id
  match candidates.min? with
  | none => currentDeadlineMs
  | some seconds =>
    min currentDeadlineMs (observedAtMs + seconds * 1000 + relayResponsePropagationGraceMs)

theorem shortenRelayResponseDeadline_le (currentDeadlineMs : ℚ) (pendingPayload : Option Json)
    (observedAtMs : ℚ) :
    shortenRelayResponseDeadline currentDeadlineMs pendingPayload observedAtMs ≤
      currentDeadlineMs := by
  unfold shortenRelayResponseDeadline
  dsimp only
  split
  · exact le_refl _
  · exact min_le_left _ _

/-! ## Progress -/

/-- `Number.isSafeInteger`. -/
def isSafeInteger (n : ℚ) : Bool := n.den = 1 && n.num.natAbs ≤ 2 ^ 53 - 1

/-- The keys of an object are these, in some order. -/
def hasKeys (value : Option Json) (keys : List String) : Bool :=
  (asObject value).any fun fields => (fields.map Prod.fst).isPerm keys

def counters : List String :=
  ["total_prompt_tokens", "cached_prompt_tokens", "processed_prompt_tokens", "generated_tokens",
    "elapsed_ms"]

/-- The number in a field that was checked to be one. -/
def count (value : Option Json) (name : String) : ℚ := (asNumber (property value name)).getD 0

/-- `validProgressEnvelope`. -/
def validProgressEnvelope (envelope : Json) (requestId clientKey : String) (lastSequence : ℚ) :
    Bool :=
  let progress := property (some envelope) "api_v1_progress"
  progress.any truthy &&
    asString (property (some envelope) "protocol") = some protocol &&
    asNumber (property (some envelope) "version") = some 1 &&
    asString (property (some envelope) "request_id") = some requestId &&
    asString (property (some envelope) "client_public_key") = some clientKey &&
    hasKeys (some envelope)
      ["api_v1_progress", "client_public_key", "protocol", "request_id", "version"] &&
    hasKeys progress ["cached_prompt_tokens", "elapsed_ms", "generated_tokens", "phase",
      "processed_prompt_tokens", "schema_version", "sequence", "total_prompt_tokens"] &&
    asNumber (property progress "schema_version") = some 1 &&
    (asNumber (property progress "sequence")).any
      (fun sequence => isSafeInteger sequence && lastSequence < sequence) &&
    (asString (property progress "phase")).any (· ∈ ["preparing", "prefill", "generating"]) &&
    counters.all (fun key =>
      (asNumber (property progress key)).any fun n => isSafeInteger n && 0 ≤ n) &&
    (count progress "total_prompt_tokens" = 0 ||
      (count progress "cached_prompt_tokens" ≤ count progress "processed_prompt_tokens" &&
        count progress "processed_prompt_tokens" ≤ count progress "total_prompt_tokens"))

theorem lt_sequence_of_valid {envelope : Json} {requestId clientKey : String} {lastSequence : ℚ}
    (valid : validProgressEnvelope envelope requestId clientKey lastSequence = true) :
    lastSequence < count (property (some envelope) "api_v1_progress") "sequence" := by
  unfold validProgressEnvelope at valid
  simp only [Bool.and_eq_true] at valid
  obtain ⟨⟨⟨⟨_, sequence⟩, _⟩, _⟩, _⟩ := valid
  obtain ⟨n, found, later⟩ := (Option.any_eq_true _ _).mp sequence
  rw [Bool.and_eq_true, decide_eq_true_iff] at later
  simpa only [count, found, Option.getD_some] using later.2

/-! ## Requests and the page -/

/-- What names a request at the relay. -/
structure RelayRequest where
  clientPublicKey : String
  requestId : String
  cancelToken : String
deriving DecidableEq

/-- What a cancellation comes to. -/
structure CancellationResult where
  attempted : Bool
  confirmed : Bool
  failure : Option String

/-- The object of the active request. `cancellation` is what its cancellation has come to. -/
structure ActiveRelayRequest extends RelayRequest where
  cancelled : Bool
  cancellationAttempted : Bool
  cancellationConfirmed : Bool
  cancellation : Option CancellationResult
  terminated : Bool
  lastProgressSequence : ℚ

/-- The request after its dispatch. -/
def ActiveRelayRequest.new (request : RelayRequest) : ActiveRelayRequest where
  toRelayRequest := request
  cancelled := false
  cancellationAttempted := false
  cancellationConfirmed := false
  cancellation := none
  terminated := false
  lastProgressSequence := 0

/-- The body of a cancellation. -/
structure CancelPost where
  request : RelayRequest
  status : String
  reason : String
deriving DecidableEq

/-- What the steps do. -/
inductive Effect
  | dispatched (request : RelayRequest) (admitted : Bool) (status : Option Nat)
  | deadline (requestId : String) (ms : ℚ)
  | progressed (requestId : String) (sequence : ℚ)
  | terminated (requestId : String)
  | cancelled (post : CancelPost)
  | retrieved (requestId : String)
  | confirmedTerminal (requestId : String)
  | responded (requestId : String)
  | returned (requestId : String) (reply : Reply)

/-- The request of an effect. -/
def Effect.requestId : Effect → String
  | deadline id _ | progressed id _ | terminated id | retrieved id
  | confirmedTerminal id | responded id | returned id _ => id
  | dispatched request _ _ => request.requestId
  | cancelled post => post.request.requestId

/-- Where `retrieveRelayResponse` awaits. -/
inductive Await
  | polling (deadline : ℚ)
  | pending (deadline : ℚ)
  | applying (deadline : ℚ) (pendingPayload : Option Json)
  | delaying (deadline : ℚ)
  | refusal (status : Nat)
  | body
  | cancelling (promise : Option Nat) (message : String) (terminalSelectedServer : Option Bool)

/-- Where `sendMessageApiOnce` awaits. -/
inductive Thread
  | idle
  | selecting
  | encrypting (request : RelayRequest)
  | dispatching (request : RelayRequest)
  | refused (request : RelayRequest) (status : Nat)
  | admitting (request : RelayRequest) (ref : Nat) (admittedAtMs : ℚ)
  | retrieving (request : RelayRequest) (ref : Nat) (await : Await)
  | opening (request : RelayRequest)

/-- The request of the call. -/
def Thread.request : Thread → Option RelayRequest
  | idle | selecting => none
  | encrypting request | dispatching request | refused request _ | admitting request _ _
  | retrieving request _ _ | opening request => some request

/-- The request of the call while it waits for the relay. -/
def Thread.waiting : Thread → Option RelayRequest
  | admitting request _ _ | retrieving request _ _ => some request
  | _ => none

/-- What `handleRelayPageHide` leaves to be done when a cancellation has come to something. -/
structure HiddenClear where
  promise : Option Nat
  requestId : Option String

/-- The page. The objects of requests are numbered below `created`, and `drawn` has the results of
`createRequestId`. -/
structure Page where
  drawn : List String
  requests : Nat → ActiveRelayRequest
  created : Nat
  activeRelayRequest : Option Nat
  relayProgress : Option Json
  autoContextAttempt : Json
  hidden : List HiddenClear
  thread : Thread
  log : List Effect

/-- The page before its first message. -/
def Page.start : Page where
  drawn := []
  requests := fun _ => .new ⟨"", "", ""⟩
  created := 0
  activeRelayRequest := none
  relayProgress := none
  autoContextAttempt := .null
  hidden := []
  thread := .idle
  log := []

namespace Page

/-- The effect joins the log. -/
def note (page : Page) (effect : Effect) : Page := { page with log := effect :: page.log }

/-- Writes to the object of a request. -/
def update (page : Page) (ref : Nat) (f : ActiveRelayRequest → ActiveRelayRequest) : Page :=
  { page with requests := Function.update page.requests ref (f (page.requests ref)) }

/-! ## Cancellation -/

/-- `cancelRelayRequest`: the request whose cancellation it returns, if there is one, and the
page. -/
def cancelRelayRequest (page : Page) (reason : String) : Option Nat × Page :=
  match page.activeRelayRequest with
  | none => (none, page)
  | some ref =>
    -- A second call gets the promise of the first.
    if (page.requests ref).cancellationAttempted then (some ref, page)
    else
      (some ref, (page.update ref fun request =>
          { request with cancellationAttempted := true, cancelled := true }).note
        (.cancelled ⟨(page.requests ref).toRelayRequest, "cancelled", reason⟩))

/-- What a cancellation has come to. -/
def cancellation (page : Page) : Option Nat → Option CancellationResult
  | none => some ⟨false, false, none⟩
  | some ref => (page.requests ref).cancellation

/-- The rest of `sendRelayCancellation`, where the relay answers with a status and perhaps some
JSON, or the call fails or is given up. -/
def sendRelayCancellation (page : Page) (ref : Nat) (answer : Option (Nat × Option Json)) : Page :=
  let request := page.requests ref
  if !request.cancellationAttempted || request.cancellation.isSome then page
  else
    match answer with
    | none =>
      page.update ref fun request =>
        { request with
          cancellationConfirmed := false
          cancellation := some ⟨true, false, some "network_failure"⟩ }
    | some (status, payload) =>
      -- A word about another request does not confirm it.
      let confirmed := isOk status &&
        (asString (property payload "status")).any (· ∈ ["cancelled", "expired"]) &&
        asString (property payload "request_id") = some request.requestId
      page.update ref fun request =>
        { request with
          cancellationConfirmed := confirmed
          cancellation :=
            some ⟨true, confirmed, if confirmed then none else some "unconfirmed_response"⟩ }

/-- `clearActiveRelayRequest`. -/
def clearActiveRelayRequest (page : Page) (requestId : Option String) : Page :=
  if page.activeRelayRequest.any fun ref => some (page.requests ref).requestId = requestId then
    { page with activeRelayRequest := none, relayProgress := none }
  else page

/-- `terminateRelayRequestLocally`. -/
def terminateRelayRequestLocally (page : Page) : Option Nat → Page
  | none => page
  | some ref =>
    if (page.requests ref).terminated then page
    else (page.update ref fun request => { request with terminated := true }).note
      (.terminated (page.requests ref).requestId)

/-- `handleRelayPageHide`. -/
def handleRelayPageHide (page : Page) : Page :=
  let requestId := page.activeRelayRequest.map fun ref => (page.requests ref).requestId
  let (promise, page) := (page.terminateRelayRequestLocally page.activeRelayRequest)
    |>.cancelRelayRequest "requester_cancelled"
  { page.clearActiveRelayRequest requestId with hidden := page.hidden ++ [⟨promise, requestId⟩] }

/-- What `handleRelayPageHide` left to be done, when its cancellation has come to something. -/
def settleHidden (page : Page) (i : Nat) : Page :=
  match page.hidden[i]? with
  | none => page
  | some clear =>
    if (page.cancellation clear.promise).isNone then page
    else { page.clearActiveRelayRequest clear.requestId with hidden := page.hidden.eraseIdx i }

/-! ## Messages of errors -/

/-- `getUserFacingRelayRetrieveError`, for a status that is an error. -/
def getUserFacingRelayRetrieveError (status : Nat) : String :=
  if status = 404 || status = 410 then disconnectedMessage
  else if 500 ≤ status then "The relay is unavailable right now. Please try again later."
  else genericFallbackMessage

def relayCancellationUnconfirmedMessage : String :=
  "The request stopped waiting locally, but cancellation could not be confirmed. Compute may continue briefly."

def tookTooLongMessage : String := "The LLM server took too long to respond. Please try again."

/-- `cancellationFailureUserMessage`. -/
def cancellationFailureUserMessage (baseMessage : String) (result : CancellationResult) : String :=
  if result.attempted && !result.confirmed then
    s!"{baseMessage} {relayCancellationUnconfirmedMessage}"
  else baseMessage

/-- The error of a retrieval; only that of a refusal says whether the server is lost. -/
def retrievalFailure (message : String) : Option Bool → Json
  | none => failure message
  | some terminal => serverFailure message terminal

/-! ## Retrieval -/

/-- The call returns. -/
def returns (page : Page) (request : RelayRequest) (reply : Reply) : Page :=
  { page.note (.returned request.requestId reply) with thread := .idle }

/-- The retrieval awaits. -/
def awaits (page : Page) (request : RelayRequest) (ref : Nat) (await : Await) : Page :=
  { page with thread := .retrieving request ref await }

/-- The cancellation is awaited, and an error will be returned. -/
def awaitCancellation (page : Page) (request : RelayRequest) (ref : Nat) (reason message : String)
    (terminalSelectedServer : Option Bool) : Page :=
  (page.cancelRelayRequest reason).2.awaits request ref
    (.cancelling (page.cancelRelayRequest reason).1 message terminalSelectedServer)

/-- The loop of `retrieveRelayResponse`, at its head. -/
def poll (page : Page) (request : RelayRequest) (ref : Nat) (deadline now : ℚ) : Page :=
  if now < deadline then
    if (page.requests ref).terminated then page.returns request .terminated
    else page.awaits request ref (.polling deadline)
  else page.awaitCancellation request ref "client_timeout" tookTooLongMessage none

/-- The deadline is written, and the next poll is delayed. -/
def delay (page : Page) (request : RelayRequest) (ref : Nat) (deadline : ℚ) : Page :=
  (page.note (.deadline request.requestId deadline)).awaits request ref (.delaying deadline)

/-- What a ciphertext opens to: nothing or an empty text, a text that is no JSON, or a value. -/
inductive Plaintext
  | nothing
  | malformed
  | parsed (value : Json)

/-- `applyEncryptedRelayProgress` up to its `await`: whether the progress is decrypted. -/
def opensProgress (page : Page) (ref : Nat) (outer : Option Json) : Bool :=
  let request := page.requests ref
  page.activeRelayRequest = some ref && !request.terminated &&
    asString (property outer "client_public_key") = some request.clientPublicKey &&
    asString (property outer "request_id") = some request.requestId &&
    asString (property outer "protocol") = some protocol &&
    asNumber (property outer "version") = some 1

/-- `applyEncryptedRelayProgress` after its `await`. -/
def applyEncryptedRelayProgress (page : Page) (ref : Nat) (plaintext : Plaintext) : Page :=
  let request := page.requests ref
  if page.activeRelayRequest ≠ some ref || request.terminated then page
  else
    match plaintext with
    | .nothing | .malformed => page
    | .parsed envelope =>
      let progress := property (some envelope) "api_v1_progress"
      if validProgressEnvelope envelope request.requestId request.clientPublicKey
          request.lastProgressSequence then
        { (page.update ref fun request =>
            { request with lastProgressSequence := count progress "sequence" }).note
            (.progressed request.requestId (count progress "sequence")) with
          relayProgress := progress }
      else page

/-- After a 202: its progress is applied, and the deadline shortened. -/
def whenPending (page : Page) (request : RelayRequest) (ref : Nat) (deadline : ℚ)
    (pendingPayload : Option Json) (now : ℚ) : Page :=
  let outer := (property pendingPayload "encrypted_progress").filter truthy
  if outer.isSome && page.opensProgress ref outer then
    page.awaits request ref (.applying deadline pendingPayload)
  else
    page.delay request ref (shortenRelayResponseDeadline deadline pendingPayload now)

/-- A 410 that says that the request is cancelled or expired. -/
def relayConfirmedTerminal (status : Nat) (errorData : Option Json) : Bool :=
  status = 410 && (asString (property (property errorData "error") "status")).any
    (· ∈ ["cancelled", "expired"])

/-- After a status that is an error. -/
def whenRefused (page : Page) (request : RelayRequest) (ref : Nat) (status : Nat)
    (errorData : Option Json) : Page :=
  let userMessage := getUserFacingRelayRetrieveError status
  let terminal := isTerminalSelectedServerError status errorData
  if relayConfirmedTerminal status errorData then
    let page := page.note (.confirmedTerminal request.requestId)
    let page := match page.activeRelayRequest with
      | none => page
      | some active =>
        if (page.requests active).requestId = request.requestId then
          page.update active fun request =>
            { request with cancelled := true, cancellationConfirmed := true }
        else page
    (page.clearActiveRelayRequest request.requestId).returns request
      (.value (some (serverFailure userMessage terminal)))
  else page.awaitCancellation request ref "requester_cancelled" userMessage (some terminal)

/-- After the body of a response. -/
def whenRetrieved (page : Page) (request : RelayRequest) (body : Json) : Page :=
  let page := (page.note (.retrieved request.requestId)).clearActiveRelayRequest request.requestId
  match body with
  | .null => page.returns request (.value none)
  | body =>
    if (property (some body) "error").any truthy then
      (page.note (.responded request.requestId)).returns request (.value (some body))
    else { page with thread := .opening request }

/-! ## Events -/

/-- What an awaited call gives. -/
inductive Answer
  | selected (request : RelayRequest) (autoContextAttempt : Json)
  | unselected
  | encrypted (succeeded : Bool)
  | dispatched (admitted : Bool) (status : Option Nat)
  | fetched (status : Option Nat)
  | json (body : Option Json)
  | decrypted (plaintext : Plaintext)
  | waited
  | interrupted
  | cancelled

/-- `retrieveRelayResponse` goes on. -/
def retrieve (page : Page) (request : RelayRequest) (ref : Nat) (await : Await) (answer : Answer)
    (now : ℚ) : Page :=
  match await, answer with
  | .applying deadline pendingPayload, .decrypted plaintext =>
    (page.applyEncryptedRelayProgress ref plaintext).delay request ref
      (shortenRelayResponseDeadline deadline pendingPayload now)
  | .cancelling promise message terminalSelectedServer, .cancelled =>
    match page.cancellation promise with
    | none => page
    | some result =>
      (page.clearActiveRelayRequest request.requestId).returns request (.value (some
        (retrievalFailure (cancellationFailureUserMessage message result) terminalSelectedServer)))
  | .applying _ _, _ | .cancelling _ _ _, _ => page
  | await, answer =>
    -- The race is lost as soon as the request is terminated.
    if (page.requests ref).terminated then
      match answer with
      | .interrupted => page.returns request .terminated
      | _ => page
    else
      match await, answer with
      | .polling _, .fetched none =>
        page.awaitCancellation request ref "requester_cancelled" genericFallbackMessage none
      | .polling deadline, .fetched (some status) =>
        page.awaits request ref
          (if status = 202 then .pending deadline else if isOk status then .body
            else .refusal status)
      | .pending deadline, .json pendingPayload =>
        page.whenPending request ref deadline pendingPayload now
      | .delaying deadline, .waited => page.poll request ref deadline now
      | .refusal status, .json errorData => page.whenRefused request ref status errorData
      | .body, .json none =>
        page.awaitCancellation request ref "requester_cancelled" genericFallbackMessage none
      | .body, .json (some body) => page.whenRetrieved request body
      | _, _ => page

/-- The reply to the dispatch, if there is one. -/
def whenDispatched (page : Page) (request : RelayRequest) (admitted : Bool) (status : Option Nat)
    (now : ℚ) : Page :=
  let page := page.note (.dispatched request admitted status)
  match status with
  | none => page.returns request (.value none)
  | some status =>
    if isOk status then
      { page with
        requests := Function.update page.requests page.created (.new request)
        created := page.created + 1
        activeRelayRequest := some page.created
        relayProgress := some (.object [("phase", .string "waiting")])
        thread := .admitting request page.created now }
    else { page with thread := .refused request status }

/-- The body of a reply that admits the request. -/
def whenAdmitted (page : Page) (request : RelayRequest) (ref : Nat) (admittedAtMs : ℚ)
    (admissionPayload : Option Json) (now : ℚ) : Page :=
  if page.activeRelayRequest ≠ some ref || (page.requests ref).cancelled then
    page.returns request .terminated
  else
    let deadline := relayResponseDeadlineFromAdmission admissionPayload admittedAtMs
    (page.note (.deadline request.requestId deadline)).poll request ref deadline now

/-- The body of a reply that does not. -/
def dispatchFailure (status : Nat) (errorData : Option Json) : Json :=
  let unavailable := isTerminalSelectedServerError status errorData
  serverFailure (if unavailable then disconnectedMessage else getUserFacingApiError errorData)
    unavailable

/-- The response in an envelope, if the envelope is valid. -/
def apiV1Response (request : RelayRequest) : Plaintext → Option Json
  | .nothing | .malformed => none
  | .parsed envelope =>
    if asString (property (some envelope) "protocol") = some protocol &&
        asNumber (property (some envelope) "version") = some 1 &&
        asString (property (some envelope) "request_id") = some request.requestId &&
        asString (property (some envelope) "client_public_key") = some request.clientPublicKey then
      (property (some envelope) "api_v1_response").filter truthy
    else none

/-- The response is opened. -/
def whenOpened (page : Page) (request : RelayRequest) (plaintext : Plaintext) : Page :=
  match apiV1Response request plaintext with
  | none => page.returns request (.value none)
  | some response =>
    (page.note (.responded request.requestId)).returns request
      (.value (some (withAttempt page.autoContextAttempt response)))

/-- `sendMessageApiOnce` goes on. An answer to something else than what is awaited is none. -/
def resume (page : Page) (answer : Answer) (now : ℚ) : Page :=
  match page.thread, answer with
  | .selecting, .selected request autoContextAttempt =>
    { page with
      drawn := request.requestId :: page.drawn
      autoContextAttempt := autoContextAttempt
      thread := .encrypting request }
  | .selecting, .unselected => { page with thread := .idle }
  | .encrypting request, .encrypted true => { page with thread := .dispatching request }
  | .encrypting request, .encrypted false => page.returns request (.value none)
  | .dispatching request, .dispatched admitted status =>
    page.whenDispatched request admitted status now
  | .refused request status, .json errorData =>
    page.returns request (.value (some (dispatchFailure status errorData)))
  | .admitting request ref admittedAtMs, .json admissionPayload =>
    page.whenAdmitted request ref admittedAtMs admissionPayload now
  | .retrieving request ref await, answer => page.retrieve request ref await answer now
  | .opening request, .decrypted plaintext => page.whenOpened request plaintext
  | _, _ => page

end Page

/-- What happens next. -/
inductive Event
  | send
  | resume (answer : Page.Answer) (now : ℚ)
  | cancellationAnswered (ref : Nat) (answer : Option (Nat × Option Json))
  | pageHide
  | hiddenSettled (i : Nat)

/-- One event. A message is sent only when the one before has its reply. -/
def step (event : Event) (page : Page) : Page :=
  match event with
  | .send =>
    match page.thread with
    | .idle => { page with thread := .selecting }
    | _ => page
  | .resume answer now => page.resume answer now
  | .cancellationAnswered ref answer => page.sendRelayCancellation ref answer
  | .pageHide => page.handleRelayPageHide
  | .hiddenSettled i => page.settleHidden i

end RelayRequests
