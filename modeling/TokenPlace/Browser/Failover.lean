import TokenPlace.Lib.JsText

/-!
# Failover of the chat page

`sendMessageApi` of the chat page: the choice of a server, one request, and the loop that repeats a
request on the larger context tier and fails over to other servers. One turn of the loop is one
step. What the relay answers in it, and whether the page ends a request, is a `Turn`. A request is
followed to its dispatch; of its retrieval there is the outcome. Log lines are left out.
-/

namespace ChatFailover

open JsText (property isTrue truthy trim)
open Json (asString)

/-! ## Context tiers -/

/-- `CONTEXT_TIER_ORDER`. -/
inductive Tier
  | fast
  | full
deriving DecidableEq

def Tier.name : Tier → String
  | fast => "8k-fast"
  | full => "64k-full"

def Tier.tokens : Tier → Nat
  | fast => 8192
  | full => 65536

/-- `isKnownContextTier`. -/
def knownContextTier (name : String) : Option Tier := [Tier.fast, Tier.full].find? (·.name = name)

/-- `selectedContextTierCanSatisfy`. -/
def selectedContextTierCanSatisfy (selected requested : Tier) : Bool :=
  requested.tokens ≤ selected.tokens

/-- What the page offers: a tier or `AUTO_CONTEXT_TIER`. -/
inductive Selector
  | auto
  | fixed (tier : Tier)
deriving DecidableEq

def Selector.name : Selector → String
  | auto => "auto"
  | fixed tier => tier.name

structure TierResolution where
  selectorMode : Selector
  requestedContextTier : Tier

/-- `resolveContextTierForRequest`, where the messages are estimated to need some tier. -/
def resolveContextTierForRequest (estimate : Tier) : Selector → TierResolution
  | .fixed tier => ⟨.fixed tier, tier⟩
  | .auto => ⟨.auto, estimate⟩

/-! ## Errors -/

def genericFallbackMessage : String :=
  "Sorry, I encountered an issue generating a response. Please try again."

def disconnectedMessage : String :=
  "The previous LLM server disconnected. Continuing with another available server."

def noReplacementMessage : String :=
  "The previous LLM server disconnected. No replacement LLM server accepted this request. Your chat history is still here."

/-- `codeToMessage`. -/
def codeToMessage : List (String × String) :=
  [("no_registered_compute_nodes",
      "No LLM servers are available right now. Your chat history is still here."),
    ("no_matching_compute_node",
      "No LLM servers are available for the selected context tier right now. Choose another tier or try again later."),
    ("invalid_context_tier",
      "The selected context tier is unavailable. Please choose another tier and try again."),
    ("compute_node_model_unsupported",
      "The selected model is not available on this LLM server. Please try again."),
    ("compute_node_options_unsupported",
      "The selected LLM server does not support one of the requested options. Please try again."),
    ("compute_node_invalid_request",
      "The LLM server rejected the request format. Please try again."),
    ("compute_node_request_too_large",
      "This request exceeds the current API size limit. Please shorten it and try again."),
    ("compute_node_context_window_exceeded",
      "This prompt exceeds the selected LLM server's context window."),
    ("compute_node_context_tier_unsupported",
      "The selected LLM server does not support the requested context tier. Please choose another tier or try again."),
    ("compute_node_invalid_model_output",
      "The LLM server returned an invalid response. Please try again."),
    ("compute_node_internal_error",
      "The LLM server failed while generating a response. Please try again."),
    ("compute_node_timeout",
      "The LLM server took too long to respond. Please try again."),
    ("compute_node_request_cancelled",
      "The LLM server request expired before it could be answered. Please try again."),
    ("compute_node_bridge_timeout",
      "The LLM server took too long to respond. Please try again."),
    ("compute_node_unreachable",
      "The LLM server is unavailable right now. Please try again."),
    ("compute_node_bridge_error",
      "Unable to contact the LLM server right now. Please try again."),
    ("compute_node_invalid_payload",
      "The LLM server returned an invalid response. Please try again.")]

/-- `getUserFacingApiError`. -/
def getUserFacingApiError (errorPayload : Option Json) : String :=
  let error := property errorPayload "error"
  match (asString (property error "userMessage")).filter fun text => trim text.toList ≠ [] with
  | some text => text
  | none =>
    let code := String.ofList (trim ((asString (property error "code")).getD "").toList)
    (codeToMessage.lookup code).getD genericFallbackMessage

/-- `isTerminalSelectedServerError`. -/
def isTerminalSelectedServerError (status : Nat) (errorPayload : Option Json) : Bool :=
  status = 404 || status = 410 ||
    (asString (property (property errorPayload "error") "code")).getD "" ∈
      ["selected_server_terminal", "selected_server_unavailable", "selected_server_expired",
        "selected_server_removed", "server_unavailable", "server_expired", "server_removed"]

/-- `{ error: { userMessage } }`. -/
def failure (userMessage : String) : Json :=
  .object [("error", .object [("userMessage", .string userMessage)])]

/-- `{ error: { userMessage, terminalSelectedServer } }`. -/
def serverFailure (userMessage : String) (terminal : Bool) : Json :=
  .object [("error", .object [("userMessage", .string userMessage),
    ("terminalSelectedServer", .bool terminal)])]

/-- `response.error.terminalSelectedServer === true`. -/
def terminalSelectedServer (response : Json) : Bool :=
  isTrue (property (property (some response) "error") "terminalSelectedServer")

/-- `shouldRetryAutoContextTier`. -/
def shouldRetryAutoContextTier (response : Json) (attempt : Option Json) : Bool :=
  let code := asString (property (property (some response) "error") "code")
  asString (property attempt "selectorMode") = some Selector.auto.name &&
    asString (property attempt "requestedContextTier") = some Tier.fast.name &&
    !isTrue (property attempt "retryAttempted") &&
    asString (property attempt "selectedServerContextTier") ≠ some Tier.full.name &&
    trim (code.getD "").toList = "compute_node_context_window_exceeded".toList

/-! ## Choosing a server -/

variable {Key M : Type} [DecidableEq Key]

/-- A server that was chosen: the public key that goes into requests, and its tier. -/
structure SelectedServer (Key : Type) where
  key : Key
  contextTier : Tier

/-- The fields of the page that a message changes. -/
structure Page (Key : Type) where
  selectedServer : Option (SelectedServer Key)
  selectedServerTerminalFailure : String

/-- `clearSelectedServer`. -/
def Page.clearSelectedServer (page : Page Key) : Page Key := { page with selectedServer := none }

/-- `markSelectedServerTerminalFailure`. -/
def Page.markSelectedServerTerminalFailure (page : Page Key) (message : String) : Page Key :=
  { page with
    selectedServerTerminalFailure := if message = "" then disconnectedMessage else message }

/-- `clearSelectedServerNotice`. -/
def Page.clearSelectedServerNotice (page : Page Key) : Page Key :=
  { page with selectedServerTerminalFailure := "" }

/-- The answer to a request for the next server: none or one that is no JSON, an error, or a tier
and a public key, if it is valid. -/
inductive SelectionAnswer (Key : Type)
  | failed
  | refused (errorData : Option Json)
  | chosen (contextTier : String) (key : Option Key)

/-- `ensureSelectedServer`: the user message of an error, or none where a server is selected. -/
def ensureSelectedServer (forceReselect : Bool) (requestedContextTier : Tier)
    (answer : SelectionAnswer Key) (page : Page Key) : Option String × Page Key :=
  let page := if forceReselect then page.clearSelectedServer else page
  if page.selectedServer.isSome then (none, page)
  else
    let unable := "Unable to select an LLM server right now. Your chat history is still here."
    match answer with
    | .failed => (some unable, page)
    | .refused errorData => (some (getUserFacingApiError errorData), page)
    | .chosen contextTier key =>
      match (knownContextTier (String.ofList (trim contextTier.toList))).filter fun tier =>
          selectedContextTierCanSatisfy tier requestedContextTier with
      | none =>
        (some "The selected LLM server does not support the requested context tier. Please choose another tier or try again.",
          page.clearSelectedServer)
      | some tier =>
        match key with
        | none => (some unable, page)
        | some key => (none, { page with selectedServer := some ⟨key, tier⟩ })

/-! ## One request -/

/-- What the retrieval of an admitted request comes to: the page ends it; it fails, on the way or by
its deadline; the relay refuses it, and the page may end it while it is being cancelled; or the
relay answers with a body, and `opened` is the response in it, where it can be decrypted and its
envelope is valid. -/
inductive Retrieval
  | terminated
  | failed (userMessage : String)
  | refused (status : Nat) (errorData : Option Json) (userMessage : String) (endedMeanwhile : Bool)
  | replied (body : Json) (opened : Option Json)

/-- What a request comes to. -/
inductive DispatchAnswer
  | unsent
  | lost
  | refused (status : Nat) (errorData : Option Json)
  | admitted (retrieval : Retrieval)

/-- What one turn of the loop meets: whether a model of the catalogue is selected, the messages that
the history then has, and the answers. -/
structure Turn (Key M : Type) where
  selectedModel : Bool
  createApiV1Messages : M
  selection : SelectionAnswer Key
  dispatch : DispatchAnswer
  refreshed : Bool
  computeNodeCount : Option Nat
  replacement : SelectionAnswer Key

/-- What can be observed of a call. A server fails when the request to it is answered with a
terminal error. -/
inductive Event (Key M : Type)
  | dispatched (server : Key) (messages : M) (contextTier : Tier)
  | failed (server : Key)
  | terminated
  | retried
deriving DecidableEq

/-- What a request or a call returns: `RELAY_REQUEST_TERMINATED`, or a response, which may be
`null`. -/
inductive Reply
  | terminated
  | value (response : Option Json)

/-- The options of `sendMessageApiOnce`. -/
structure SendOptions (M : Type) where
  apiV1Messages : Option M
  tierResolution : TierResolution
  forceReselect : Bool
  preserveSelectedServer : Bool
  retryAttempted : Bool

/-- `_autoContextAttempt`. -/
def autoContextAttempt (options : SendOptions M) (server : SelectedServer Key) : Json :=
  .object [("selectorMode", .string options.tierResolution.selectorMode.name),
    ("requestedContextTier", .string options.tierResolution.requestedContextTier.name),
    ("selectedServerContextTier", .string server.contextTier.name),
    ("retryAttempted", .bool options.retryAttempted)]

/-- The response of a node, and the attempt where the response is an object. -/
def withAttempt (attempt : Json) : Json → Json
  | .object fields =>
    .object (fields.filter (·.1 ≠ "_autoContextAttempt") ++ [("_autoContextAttempt", attempt)])
  | response => response

/-- What a request returns after it was dispatched. -/
def requestReply (options : SendOptions M) (server : SelectedServer Key) : DispatchAnswer → Reply
  | .unsent | .lost => .value none
  | .refused status errorData =>
    let unavailable := isTerminalSelectedServerError status errorData
    .value (some (serverFailure
      (if unavailable then disconnectedMessage else getUserFacingApiError errorData) unavailable))
  | .admitted .terminated => .terminated
  | .admitted (.failed userMessage) => .value (some (failure userMessage))
  | .admitted (.refused status errorData userMessage _) =>
    .value (some (serverFailure userMessage (isTerminalSelectedServerError status errorData)))
  | .admitted (.replied body opened) =>
    -- An error of the relay is returned as it is.
    if (property (some body) "error").any truthy then .value (some body)
    else .value (opened.map (withAttempt (autoContextAttempt options server)))

/-- Whether the page ends the request. -/
def DispatchAnswer.ended : DispatchAnswer → Bool
  | .admitted .terminated => true
  | .admitted (.refused _ _ _ endedMeanwhile) => endedMeanwhile
  | _ => false

/-- Whether the reply is a terminal error. -/
def Reply.terminal : Reply → Bool
  | .value (some response) => terminalSelectedServer response
  | _ => false

/-- What is observed of a request. -/
def requestEvents (options : SendOptions M) (turn : Turn Key M) (server : SelectedServer Key) :
    List (Event Key M) :=
  match turn.dispatch with
  | .unsent => []
  | dispatch =>
    [.dispatched server.key (options.apiV1Messages.getD turn.createApiV1Messages)
      options.tierResolution.requestedContextTier] ++
    (if dispatch.ended then [.terminated] else []) ++
    if (requestReply options server dispatch).terminal then [.failed server.key] else []

/-- `sendMessageApiOnce`. -/
def sendMessageApiOnce (options : SendOptions M) (turn : Turn Key M) (page : Page Key) :
    List (Event Key M) × Reply × Page Key :=
  if !turn.selectedModel then ([], .value none, page)
  else
    let resolution := options.tierResolution
    let canSatisfy := page.selectedServer.any fun server =>
      selectedContextTierCanSatisfy server.contextTier resolution.requestedContextTier
    let forceReselect := options.forceReselect ||
      (resolution.selectorMode = .auto && !options.preserveSelectedServer && !canSatisfy)
    match ensureSelectedServer forceReselect resolution.requestedContextTier turn.selection
        page with
    | (some userMessage, page) => ([], .value (some (failure userMessage)), page)
    | (none, page) =>
      match page.selectedServer with
      | none => ([], .value none, page)
      | some server =>
        (requestEvents options turn server, requestReply options server turn.dispatch, page)

/-! ## The loop -/

/-- `getFailoverAttemptLimit`. -/
def getFailoverAttemptLimit (computeNodeCount : Option Nat) : Nat :=
  match computeNodeCount with
  | some count => min (count - 1) 3
  | none => 1

/-- The variables of `sendMessageApi` that its loop changes, and the page. -/
structure Loop (Key : Type) where
  autoContextRetryAttempted : Bool
  maxFailovers : Nat
  refreshedFailoverCapacity : Bool
  skippedFailedServerSelections : Nat
  failovers : Nat
  needsDispatch : Bool
  preserveSelectedServerForDispatch : Bool
  forceReselectForDispatch : Bool
  terminallyFailedServers : Finset Key
  page : Page Key

/-- The loop when it starts. -/
def Loop.start (computeNodeCount : Option Nat) (page : Page Key) : Loop Key where
  autoContextRetryAttempted := false
  maxFailovers := getFailoverAttemptLimit computeNodeCount
  refreshedFailoverCapacity := false
  skippedFailedServerSelections := 0
  failovers := 0
  needsDispatch := true
  preserveSelectedServerForDispatch := false
  forceReselectForDispatch := false
  terminallyFailedServers := ∅
  page := page

/-- How a turn ends: with another one or with what the call returns. -/
inductive Outcome (Key : Type)
  | again (loop : Loop Key)
  | returned (reply : Reply) (page : Page Key)

/-- What a call starts from: the messages, the tier that they are estimated to need, and what is
chosen on the page. -/
structure Call (M : Type) where
  apiV1Messages : M
  estimate : Tier
  selectedContextTier : Selector

/-- The tier of a request: after a retry it is the larger one. -/
def Call.resolution (call : Call M) (retried : Bool) : TierResolution :=
  if retried then ⟨.auto, .full⟩
  else resolveContextTierForRequest call.estimate call.selectedContextTier

/-- The limit is refreshed once, when it is reached. -/
def refreshCapacity (turn : Turn Key M) (loop : Loop Key) : Loop Key :=
  if loop.maxFailovers ≤ loop.failovers ∧ !loop.refreshedFailoverCapacity then
    { loop with
      refreshedFailoverCapacity := true
      maxFailovers :=
        if turn.refreshed then getFailoverAttemptLimit turn.computeNodeCount
        else max loop.maxFailovers 1 }
  else loop

/-- The rest of a turn: a replacement is selected, and one that has failed before is skipped. -/
def selectReplacement (call : Call M) (turn : Turn Key M) (loop : Loop Key) : Outcome Key :=
  let maxSkipped := max (loop.maxFailovers + loop.terminallyFailedServers.card) 1
  if loop.maxFailovers ≤ loop.failovers ∨ maxSkipped ≤ loop.skippedFailedServerSelections then
    .returned (.value (some (failure noReplacementMessage)))
      (loop.page.clearSelectedServer.markSelectedServerTerminalFailure noReplacementMessage)
  else
    let page := loop.page.clearSelectedServer.markSelectedServerTerminalFailure disconnectedMessage
    match ensureSelectedServer true
        (call.resolution loop.autoContextRetryAttempted).requestedContextTier turn.replacement
        page with
    | (some userMessage, page) =>
      let userMessage := if userMessage = "" then
        "No LLM servers are available right now. Your chat history is still here." else userMessage
      .returned (.value (some (failure userMessage)))
        (page.markSelectedServerTerminalFailure userMessage)
    | (none, page) =>
      if page.selectedServer.any fun server => server.key ∈ loop.terminallyFailedServers then
        .again { loop with
          skippedFailedServerSelections := loop.skippedFailedServerSelections + 1
          page := page.clearSelectedServer.markSelectedServerTerminalFailure disconnectedMessage }
      else
        .again { loop with
          skippedFailedServerSelections := 0
          failovers := loop.failovers + 1
          preserveSelectedServerForDispatch := true
          needsDispatch := true
          page := page }

/-- The options with which a turn sends the request. -/
def Loop.options (call : Call M) (loop : Loop Key) : SendOptions M where
  apiV1Messages := some call.apiV1Messages
  tierResolution := call.resolution loop.autoContextRetryAttempted
  forceReselect := loop.forceReselectForDispatch
  preserveSelectedServer := loop.preserveSelectedServerForDispatch
  retryAttempted := loop.autoContextRetryAttempted

/-- The server that is selected is recorded as failed. -/
def Loop.recordFailed (loop : Loop Key) : Loop Key :=
  match loop.page.selectedServer with
  | some server =>
    { loop with terminallyFailedServers := insert server.key loop.terminallyFailedServers }
  | none => loop

/-- What a turn does with a response. -/
def afterResponse (call : Call M) (turn : Turn Key M) (response : Json) (loop : Loop Key) :
    List (Event Key M) × Outcome Key :=
  let terminal := terminalSelectedServer response
  let loop := if terminal then loop.recordFailed else loop
  if shouldRetryAutoContextTier response (property (some response) "_autoContextAttempt") then
    ([.retried], .again { loop with
      autoContextRetryAttempted := true
      page := loop.page.clearSelectedServer
      forceReselectForDispatch := true
      needsDispatch := true })
  else if !terminal then
    ([], .returned (.value (some response)) loop.page.clearSelectedServerNotice)
  else ([], selectReplacement call turn (refreshCapacity turn { loop with needsDispatch := false }))

/-- One turn of the loop of `sendMessageApi`. -/
def step (call : Call M) (turn : Turn Key M) (loop : Loop Key) :
    List (Event Key M) × Outcome Key :=
  if loop.maxFailovers < loop.failovers then
    ([], .returned (.value (some (failure noReplacementMessage))) loop.page)
  else if loop.needsDispatch then
    match sendMessageApiOnce (loop.options call) turn loop.page with
    | (events, .terminated, page) => (events, .returned .terminated page)
    | (events, .value none, page) => (events, .returned (.value none) page)
    | (events, .value (some response), page) =>
      let (more, outcome) := afterResponse call turn response { loop with
        preserveSelectedServerForDispatch := false
        forceReselectForDispatch := false
        page := page }
      (events ++ more, outcome)
  else ([], selectReplacement call turn (refreshCapacity turn { loop with needsDispatch := false }))

/-- `sendMessageApi`: what is observed in its turns from one on, and what it returns, if it does so
within `fuel` turns. -/
def sendMessageApi (call : Call M) (turns : Nat → Turn Key M) :
    Nat → Nat → Loop Key → List (Event Key M) × Option Reply
  | 0, _, _ => ([], none)
  | fuel + 1, k, loop =>
    match step call (turns k) loop with
    | (events, .returned reply _) => (events, some reply)
    | (events, .again loop) =>
      let (more, reply) := sendMessageApi call turns fuel (k + 1) loop
      (events ++ more, reply)

end ChatFailover
