import TokenPlace.Crypto.StreamSession
import TokenPlace.Lib.JsonText
import TokenPlace.Lib.Utf8

/-!
# The event stream of a chat completion

`create_chat_completion` of the API v2 routes from the answer of the model on: the message of the
non-streaming response, the chunks of a streaming one, and their text, plain and encrypted. What the
server draws, the identifiers, the time and the randomness of each encryption, are parameters.
-/

namespace ChatStream

open Encrypt (Bytes Ciphers StreamSession CiphertextDict TokenBytes EncryptCall encryptStreamChunk)
open Json (asString asObject dumps)

abbrev Fields := List (String × Json)

/-! ## The answer -/

/-- A tool call of an answer. -/
structure ToolCall where
  id : String
  type : String
  name : String
  arguments : String
deriving DecidableEq

/-- The answer of the model. The content may be `None`. -/
structure AssistantMessage where
  role : Option String
  content : Option String
  toolCalls : List ToolCall
deriving DecidableEq

/-- The object of a tool call. -/
def ToolCall.fields (call : ToolCall) : Fields :=
  [("id", .string call.id), ("type", .string call.type),
    ("function", .object [("name", .string call.name), ("arguments", .string call.arguments)])]

variable (message : AssistantMessage)

/-- `assistant_message.get("role", "assistant")`. -/
def AssistantMessage.roleName : String := message.role.getD "assistant"

/-- `finish_reason`. -/
def AssistantMessage.finishReason : String :=
  if message.toolCalls.isEmpty then "stop" else "tool_calls"

/-- `message_payload`. -/
def messagePayload : Fields :=
  [("role", .string message.roleName),
    ("content", (message.content.map .string).getD .null)] ++
  if message.toolCalls.isEmpty then []
  else [("tool_calls", .array (message.toolCalls.map fun call => .object call.fields))]

/-- The choice of the non-streaming response. -/
def responseChoice : Fields :=
  [("index", .number 0), ("message", .object (messagePayload message)),
    ("finish_reason", .string message.finishReason)]

/-! ## Chunks -/

/-- The identity of a stream: its id, the time, the model and the part of the session id that is
drawn. -/
structure StreamIds where
  streamId : String
  created : ℚ
  modelId : String
  sessionSuffix : String

/-- `stream_session_id`. -/
def StreamIds.sessionId (ids : StreamIds) : String := "stream-" ++ ids.sessionSuffix

/-- `iter_stream_content_chunks`: the slices at `0`, `maxChunkSize` and so on. -/
def iterStreamContentChunks (content : List Char) (maxChunkSize : Nat) : List (List Char) :=
  (List.range ((content.length + (maxChunkSize - 1)) / maxChunkSize)).map fun i =>
    (content.drop (i * maxChunkSize)).take maxChunkSize

/-- `serialize_tool_call`. -/
def serializeToolCall (call : Fields) (index : Nat) : Json :=
  let function := (asObject (call.lookup "function")).getD []
  .object [("index", .number index), ("id", (call.lookup "id").getD .null),
    ("type", (call.lookup "type").getD (.string "function")),
    ("function", .object [("name", (function.lookup "name").getD .null),
      ("arguments", (function.lookup "arguments").getD (.string ""))])]

variable (ids : StreamIds)

/-- `build_chunk`. -/
def buildChunk (delta : Fields) (finishReason : Json) : Json :=
  .object [("id", .string ids.streamId), ("object", .string "chat.completion.chunk"),
    ("created", .number ids.created), ("model", .string ids.modelId),
    ("choices", .array [.object [("index", .number 0), ("delta", .object delta),
      ("finish_reason", finishReason)]])]

/-- The deltas of the content. -/
def contentChunks (content : String) : List Json :=
  (iterStreamContentChunks content.toList 512).map fun segment =>
    buildChunk ids [("content", .string (String.ofList segment))] .null

/-- The deltas of the tool calls. -/
def toolCallChunks (calls : List ToolCall) : List Json :=
  calls.zipIdx.map fun (call, index) =>
    buildChunk ids [("tool_calls", .array [serializeToolCall call.fields index])] .null

/-- `iter_chunk_payloads`. The name of every event is `delta`. -/
def iterChunkPayloads : List Json :=
  buildChunk ids [("role", .string message.roleName)] .null ::
    contentChunks ids (message.content.getD "") ++ toolCallChunks ids message.toolCalls ++
    [buildChunk ids [] (.string message.finishReason)]

/-! ## The text -/

/-- The server: its ciphers, the public key of the client, `base64.b64encode` and how a number is
written. -/
structure Server where
  ciphers : Ciphers
  publicKey : Bytes
  b64encode : Bytes → String
  number : ℚ → List Char

variable (server : Server)

/-- `json.dumps(payload)` with its defaults. -/
def Server.dumps (value : Json) : List Char := Json.dumps ⟨true, true, false, server.number⟩ value

/-- One event of the stream. -/
def eventText (data : List Char) : List Char := "data: ".toList ++ data ++ "\n\n".toList

/-- The events of a stream and its last one. -/
def streamText (values : List Json) (last : List Char) : List Char :=
  (values.flatMap fun value => eventText (server.dumps value)) ++ eventText last

/-- `[DONE]`. -/
def doneMark : List Char := "[DONE]".toList

/-- `event_stream`. -/
def eventStream (payloads : List Json) : List Char := streamText server payloads doneMark

/-- A field that is left out where there is no value. -/
def optionalField (name : String) (value : Option Json) : Fields :=
  (value.map fun value => (name, value)).toList

/-- `payload_dict`. -/
def payloadDict (chunk : CiphertextDict) (encryptedKey associatedData : Option Bytes) : Fields :=
  [("encrypted", .bool true),
    ("ciphertext", .string (server.b64encode (chunk.ciphertext.getD []))),
    ("iv", .string (server.b64encode (chunk.iv.getD []))),
    ("stream_session_id", .string ids.sessionId)] ++
  optionalField "tag" (chunk.tag.map fun tag => .string (server.b64encode tag)) ++
  optionalField "mode" (chunk.mode.map .string) ++
  optionalField "associated_data"
    ((associatedData.filter (· ≠ [])).map fun data => .string (server.b64encode data)) ++
  optionalField "cipherkey" (encryptedKey.map fun key => .string (server.b64encode key))

/-- `envelope`. -/
def chunkEnvelope (payload : Fields) : Json :=
  .object [("event", .string "delta"), ("encrypted", .bool true),
    ("stream_session_id", .string ids.sessionId), ("data", .object payload)]

/-- The arguments with which a chunk is encrypted. -/
def encryptCall (payload : Json) (draws : TokenBytes) : EncryptCall :=
  ⟨Utf8.encode (server.dumps payload), false, none, none, draws⟩

/-- The envelopes of `encrypted_event_stream` from a chunk on, up to an encryption that fails, and
whether none did. `draws` is what the encryption of each chunk draws. -/
def encryptedEnvelopes (draws : Nat → TokenBytes) :
    Nat → List Json → Option StreamSession → List Json × Bool
  | _, [], _ => ([], true)
  | i, payload :: payloads, session =>
    match encryptStreamChunk server.ciphers server.publicKey (encryptCall server payload (draws i))
        session with
    | (.error _, _) => ([], false)
    | (.ok (chunk, encryptedKey), session) =>
      let (envelopes, whole) := encryptedEnvelopes draws (i + 1) payloads session
      (chunkEnvelope ids (payloadDict ids server chunk encryptedKey
        (session.bind StreamSession.associatedData)) :: envelopes, whole)

/-- `encrypted_event_stream`. -/
def encryptedEventStream (draws : Nat → TokenBytes) (payloads : List Json) : List Char :=
  let (envelopes, whole) := encryptedEnvelopes ids server draws 0 payloads none
  streamText server envelopes
    (if whole then doneMark
    else "\x7b\"event\": \"error\", \"reason\": \"encryption_failed\"\x7d".toList)

end ChatStream
