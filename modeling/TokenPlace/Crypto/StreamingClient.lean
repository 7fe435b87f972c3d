import TokenPlace.Crypto.StreamSession
import TokenPlace.Lib.Json
import TokenPlace.Lib.Text
import TokenPlace.Lib.Utf8

/-!
# The streaming client

`CryptoClient.stream_chat_completion`: the decoding of one event line, the lines of a connection and
the loop over connections with its fallback. A connection is what one streaming request comes to;
the generator is the list of what it does, requests and events. Logging and the delay between two
attempts are left out.
-/

namespace StreamingClient

open Encrypt (Bytes Ciphers StreamSession CiphertextDict DecryptCall decryptStreamChunk)
open Json (asString asObject)
open Utf8 (decodeStrict)

abbrev Fields := List (String × Json)

/-! ## Environment -/

/-- What `json.loads` does with a text: the value, a `JSONDecodeError`, or another exception (the
text nests too deep, or a number in it has too many digits). -/
inductive Loaded
  | value (value : Json)
  | decodeError
  | otherError

/-- The client: the ciphers and its private key, the JSON decoder, and `base64.b64decode`. -/
structure Client where
  ciphers : Ciphers
  privateKey : Bytes
  loads : List Char → Loaded
  b64decode : String → Option Bytes

/-- `decrypt_sessions`. -/
abbrev Sessions := String → Option StreamSession

/-- `decrypt_sessions` when it is empty. -/
def noSessions : Sessions := fun _ => none

/-- A line of the response, decoded or not. -/
inductive RawLine
  | text (s : List Char)
  | bytes (b : Bytes)

/-- The body of a response that is no event stream: its JSON if it is any, and its text. -/
structure Body where
  json : Option Json
  text : String

/-- What a streaming request comes to: an exception, or a response whose lines end or are
interrupted. -/
inductive Connection
  | failed
  | reply (status : Nat) (contentType : List Char) (lines : List RawLine) (interrupted : Bool)
    (body : Body)

/-- What the fallback request comes to. -/
inductive Fallback
  | failed
  | reply (body : Body)

/-! ## Events -/

/-- An update of the answer. -/
structure Update where
  event : Json
  data : Json

/-- An event that is yielded. -/
inductive Event
  | update (update : Update)
  | error (reason message : String) (fallback : Option String) (statusCode : Option Nat)
  | reconnect (attempt : Nat) (reason : String)
  | partialResponse (chunks : List Update) (text : String)
  | fallback (reason message : String)
  | response (data : Json)
  | text (data : String)

/-- What the generator does: a streaming request, the fallback request, or an event. -/
inductive Action
  | stream
  | plain
  | yields (event : Event)

/-- `_format_error_message`. -/
def formatErrorMessage (reason : String) (fallback : Option String) (statusCode : Option Nat) :
    String :=
  match reason with
  | "invalid_encrypted_chunk" => "Received an encrypted streaming chunk without payload data."
  | "decrypt_failed" => "Unable to decrypt the encrypted streaming update."
  | "empty_response" => "Streaming response completed without returning any data."
  | "bad_status" =>
    if fallback = some "request_failed" then
      "Streaming request failed and fallback request could not complete."
    else
      match statusCode with
      | some status => s!"Streaming request returned an unexpected status ({status})."
      | none => "Streaming request returned an unexpected status."
  | "request_failed" => "Unable to establish the streaming connection."
  | "connection_lost" => "Streaming connection was interrupted."
  | _ => "Streaming request encountered an unexpected error."

/-- `_build_error_data`. -/
def errorEvent (reason : String) (fallback : Option String) (statusCode : Option Nat) : Event :=
  .error reason (formatErrorMessage reason fallback statusCode) fallback statusCode

/-- `_fallback_message`. -/
def fallbackMessage (reason : String) (statusCode : Option Nat) : String :=
  match reason with
  | "bad_status" =>
    match statusCode with
    | some status =>
      s!"Streaming endpoint returned status {status}; requesting full response instead."
    | none => "Streaming endpoint returned an unexpected status; requesting full response."
  | "request_failed" => "Streaming channel unavailable; retrying without streaming."
  | "connection_lost" => "Streaming connection dropped; requesting full response instead."
  | _ => "Switching to a standard response due to streaming issues."

/-! ## Decryption -/

variable (client : Client)

/-- A field that may be missing and is base64 where it is there. -/
def optionalBytes (payload : Fields) (field : String) : Option (Option Bytes) :=
  match payload.lookup field with
  | none | some .null => some none
  | some (.string text) => (client.b64decode text).map some
  | some _ => none

/-- The tag of a payload: one that is no text counts as missing. -/
def payloadTag (payload : Fields) : Option (Option Bytes) :=
  match asString (payload.lookup "tag") with
  | some text => (client.b64decode text).map some
  | none => some none

/-- The arguments that `_decrypt_stream_payload` takes from a payload. -/
def decodePayload (payload : Fields) : Option DecryptCall := do
  let ciphertext ← (asString (payload.lookup "ciphertext")).bind client.b64decode
  let iv ← (asString (payload.lookup "iv")).bind client.b64decode
  let tag ← payloadTag client payload
  let mode := asString (payload.lookup "mode")
  let associatedData ← optionalBytes client payload "associated_data"
  let encryptedKey ← optionalBytes client payload "cipherkey"
  return ⟨⟨some ciphertext, some iv, tag, mode⟩, encryptedKey, mode, associatedData⟩

/-- What a payload decrypts to. -/
inductive Decrypted
  | failed
  | payload (value : Json)
  | raised

/-- The plaintext of a chunk as JSON, or as text if it is none. A `null` counts as a failure. -/
def readPlaintext (plaintext : Bytes) : Decrypted :=
  match decodeStrict plaintext with
  | none => .failed
  | some text =>
    match client.loads text with
    | .value .null => .failed
    | .value value => .payload value
    | .decodeError => .payload (.string (String.ofList text))
    | .otherError => .raised

/-- `decrypt_sessions[session_id] = new_session`. -/
def storeSession (sessionId : Option String) (session : Option StreamSession)
    (sessions : Sessions) : Sessions :=
  match sessionId with
  | some id => if id = "" then sessions else Function.update sessions id session
  | none => sessions

/-- `_decrypt_stream_payload`. -/
def decryptStreamPayload (payload : Fields) (sessionId : Option String) (sessions : Sessions) :
    Decrypted × Sessions :=
  match decodePayload client payload with
  | none => (.failed, sessions)
  | some call =>
    let session := (sessionId.filter (· ≠ "")).bind sessions
    if session.isNone ∧ call.encryptedKey.isNone then (.failed, sessions)
    else
      match decryptStreamChunk client.ciphers client.privateKey call session with
      | (.error _, _) => (.failed, sessions)
      | (.ok plaintext, session') =>
        (readPlaintext client plaintext, storeSession sessionId session' sessions)

/-! ## Lines -/

/-- What a line comes to: nothing, the end of the stream, an update, an error or an exception. -/
inductive LineOutcome
  | skip
  | done
  | update (update : Update)
  | failure (reason : String)
  | raised

/-- Where the payload of an encrypted chunk is, the name of its event and its session. -/
structure Envelope where
  eventName : Json
  sessionId : Option String
  body : Option Json

/-- `value is True` for the field of an object. -/
def isTrue (field : String) (fields : Fields) : Bool :=
  fields.lookup field matches some (.bool true)

/-- The three shapes of a chunk. -/
def envelope (chunk : Fields) : Envelope :=
  let eventName := (chunk.lookup "event").getD (.string "chunk")
  let data := chunk.lookup "data"
  let ownId := asString (chunk.lookup "stream_session_id")
  let innerId := (asObject data).bind fun fields => asString (fields.lookup "stream_session_id")
  if isTrue "encrypted" chunk then ⟨eventName, ownId.or innerId, data⟩
  else
    match asObject data with
    | some fields =>
      if isTrue "encrypted" fields then
        ⟨eventName, innerId.or ownId, some ((fields.lookup "data").getD (.object fields))⟩
      else ⟨eventName, ownId.or innerId, none⟩
    | none => ⟨eventName, ownId, none⟩

/-- An update that carries the whole chunk. -/
def plainUpdate (chunk : Json) : Update := ⟨.string "chunk", chunk⟩

/-- A chunk that was decoded. -/
def readChunk (chunk : Json) (sessions : Sessions) : LineOutcome × Sessions :=
  match chunk with
  | .object fields =>
    match (envelope fields).body with
    | none | some .null => (.update (plainUpdate chunk), sessions)
    | some (.object payload) =>
      match decryptStreamPayload client payload (envelope fields).sessionId sessions with
      | (.failed, sessions) => (.failure "decrypt_failed", sessions)
      | (.payload value, sessions) => (.update ⟨(envelope fields).eventName, value⟩, sessions)
      | (.raised, sessions) => (.raised, sessions)
    | some _ => (.failure "invalid_encrypted_chunk", sessions)
  | _ => (.update (plainUpdate chunk), sessions)

/-- The text of a line, trimmed. -/
def lineText : RawLine → Option (List Char)
  | .text s => some (Text.strip s)
  | .bytes b => (decodeStrict b).map Text.strip

/-- The data of an event line. -/
def lineData (line : List Char) : Option (List Char) :=
  match Text.literal "data:".toList line with
  | some rest => if Text.strip rest = [] then none else some (Text.strip rest)
  | none => none

/-- One line. -/
def readLine (raw : RawLine) (sessions : Sessions) : LineOutcome × Sessions :=
  match (lineText raw).bind lineData with
  | none => (.skip, sessions)
  | some data =>
    if data = "[DONE]".toList then (.done, sessions)
    else
      match client.loads data with
      | .value chunk => readChunk client chunk sessions
      | .decodeError => (.update ⟨.string "text", .string (String.ofList data)⟩, sessions)
      | .otherError => (.raised, sessions)

/-- The outcomes of the lines up to a terminator or an exception, and the sessions behind them. -/
def readLines : List RawLine → Sessions → List LineOutcome × Sessions
  | [], sessions => ([], sessions)
  | raw :: lines, sessions =>
    match readLine client raw sessions with
    | (.done, sessions) => ([.done], sessions)
    | (.raised, sessions) => ([.raised], sessions)
    | (outcome, sessions) =>
      (outcome :: (readLines lines sessions).1, (readLines lines sessions).2)

/-- The event of an outcome. -/
def LineOutcome.event : LineOutcome → Option Event
  | .update made => some (.update made)
  | .failure reason => some (errorEvent reason none none)
  | _ => none

/-- The update of an outcome: it is what is cached. -/
def LineOutcome.cached : LineOutcome → Option Update
  | .update made => some made
  | _ => none

/-! ## Connections -/

/-- How a connection ends for the loop. -/
inductive Fate
  | completed
  | lost (reason : String)
  | refused (status : Nat)
  | whole (body : Body)
  | raised

/-- What a connection delivers. -/
structure Reading where
  events : List Event
  updates : List Update
  sessions : Sessions
  fate : Fate

/-- How the lines end. -/
def linesFate (outcomes : List LineOutcome) (interrupted : Bool) : Fate :=
  match outcomes.getLast? with
  | some .done => .completed
  | some .raised => .raised
  | _ => if interrupted then .lost "connection_lost" else .completed

/-- One turn of the loop. -/
def readConnection (connection : Connection) (sessions : Sessions) : Reading :=
  match connection with
  | .failed => ⟨[], [], sessions, .lost "request_failed"⟩
  | .reply status contentType lines interrupted body =>
    if status ≠ 200 then ⟨[], [], sessions, .refused status⟩
    else if Text.contains (Text.lower contentType) "text/event-stream".toList then
      let (outcomes, sessions) := readLines client lines sessions
      ⟨outcomes.filterMap LineOutcome.event, outcomes.filterMap LineOutcome.cached, sessions,
        linesFate outcomes interrupted⟩
    else ⟨[], [], sessions, .whole body⟩

/-! ## The text of the cache -/

mutual

/-- `_collect_text`. -/
def collectText : Json → String
  | .string s => s
  | .object fields =>
    contentText fields ++ choicesText fields ++ deltaText fields ++ memberText "data" fields
  | .array items => itemsText items
  | _ => ""

def itemsText : List Json → String
  | [] => ""
  | item :: items => collectText item ++ itemsText items

/-- The text of a field. -/
def memberText (key : String) : Fields → String
  | [] => ""
  | (k, value) :: fields => if k = key then collectText value else memberText key fields

/-- The content, if it is a text. -/
def contentText : Fields → String
  | [] => ""
  | (k, value) :: fields =>
    if k = "content" then
      match value with
      | .string s => s
      | _ => ""
    else contentText fields

/-- The delta, if it is an object. -/
def deltaText : Fields → String
  | [] => ""
  | (k, value) :: fields =>
    if k = "delta" then
      match value with
      | .object delta =>
        contentText delta ++ choicesText delta ++ deltaText delta ++ memberText "data" delta
      | _ => ""
    else deltaText fields

/-- The choices, if they are a list. -/
def choicesText : Fields → String
  | [] => ""
  | (k, value) :: fields =>
    if k = "choices" then
      match value with
      | .array items => choiceItemsText items
      | _ => ""
    else choicesText fields

def choiceItemsText : List Json → String
  | [] => ""
  | item :: items =>
    (match item with
      | .object choice => memberText "delta" choice ++ memberText "message" choice
      | _ => "") ++ choiceItemsText items

end

/-- The text that a list of updates carries. -/
def updatesText (updates : List Update) : String :=
  String.join (updates.map fun update => collectText update.data)

/-! ## The generator -/

/-- `_emit_non_stream_response`. -/
def emitNonStreamResponse (body : Body) : List Action :=
  match body.json with
  | some data => [.yields (.response data)]
  | none =>
    if body.text ≠ "" then [.yields (.text body.text)]
    else [.yields (errorEvent "empty_response" none none)]

/-- `_drain_partial_events`. -/
def drainPartialEvents (cached : List Update) : List Action :=
  if cached.isEmpty then [] else [.yields (.partialResponse cached (updatesText cached))]

/-- `_fallback_to_non_stream`. -/
def fallbackToNonStream (fallback : Fallback) (reason : String) (statusCode : Option Nat)
    (cached : List Update) : List Action :=
  drainPartialEvents cached ++ .plain ::
    match fallback with
    | .failed => [.yields (errorEvent reason (some "request_failed") statusCode)]
    | .reply body =>
      .yields (.fallback reason (fallbackMessage reason statusCode)) :: emitNonStreamResponse body

/-- `_iter_chunks` from an attempt on. `remaining` is `max_retries - attempt`, and the cache lives on
from one connection to the next. -/
def iterChunks (fallback : Fallback) (connections : Nat → Connection) :
    (remaining attempt : Nat) → List Update → Sessions → List Action
  | remaining, attempt, cached, sessions =>
    let reading := readConnection client (connections attempt) sessions
    .stream :: reading.events.map .yields ++
      match reading.fate, remaining with
      | .lost reason, remaining + 1 =>
        .yields (.reconnect (attempt + 1) reason) ::
          iterChunks fallback connections remaining (attempt + 1) (cached ++ reading.updates)
            reading.sessions
      | .lost reason, 0 => fallbackToNonStream fallback reason none (cached ++ reading.updates)
      | .refused status, _ =>
        fallbackToNonStream fallback "bad_status" (some status) (cached ++ reading.updates)
      | .whole body, _ => emitNonStreamResponse body
      | .completed, _ | .raised, _ => []

/-- `stream_chat_completion`, once its arguments are accepted. -/
def streamChatCompletion (fallback : Fallback) (maxRetries : Nat)
    (connections : Nat → Connection) : List Action :=
  iterChunks client fallback connections maxRetries 0 [] noSessions

end StreamingClient
