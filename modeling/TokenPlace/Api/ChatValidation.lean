import TokenPlace.Lib.Json
import TokenPlace.Lib.Text
import TokenPlace.Lib.Utf8

/-!
# The validation of chat requests

`_handle_chat_completion_request` of the API v1 routes up to the call of the provider, with the
validators of `validation.py`. The validators raise a `ValidationError`, which becomes a client
error; any other exception becomes a server error. The body is what the JSON decoder returned.

Results:
1. `validateChatMessages_ok`, `validateChatMessages_unexpected`: which messages are accepted, and
   on which the validator itself fails.
2. `provider_call_iff`: the provider is called for valid bodies only, and every other body gets the
   status 400 exactly unless it is `Mishandled`.
-/

namespace ChatValidation

open Json (asString asObject asString_eq_some asObject_eq_some Unhashable)
open Utf8 (decodeStrict)

abbrev Fields := List (String × Json)

abbrev Bytes := List UInt8

/-! ## Exceptions -/

/-- An exception that no validator raises on purpose. -/
inductive Unexpected
  | typeError
  | attributeError
  | base64Error
  | unicodeDecodeError
  | decoderError

/-- What is raised: a `ValidationError`, or something else. -/
inductive Raised
  | validation (message : String) (field : String)
  | unexpected (kind : Unexpected)

/-! ## Validators -/

/-- `field in data`, for any value that was decoded. -/
def fieldIn (field : String) : Json → Except Raised Bool
  | .object fields => .ok (fields.lookup field).isSome
  | .array items => .ok (items.any fun item => asString (some item) = some field)
  | .string s => .ok (Text.contains s.toList field.toList)
  | _ => .error (.unexpected .typeError)

/-- `validate_required_fields`. -/
def validateRequiredFields (data : Json) : List String → Except Raised Unit
  | [] => .ok ()
  | field :: required => do
    if ← fieldIn field data then validateRequiredFields data required
    else .error (.validation s!"Missing required parameter: {field}" field)

/-- The types that a field is tested for. -/
inductive FieldType
  | str
  | list

def FieldType.name : FieldType → String
  | .str => "str"
  | .list => "list"

def FieldType.Has : FieldType → Json → Prop
  | .str, .string _ => True
  | .list, .array _ => True
  | _, _ => False

instance (type : FieldType) : DecidablePred type.Has := fun value => by
  cases type <;> cases value <;> unfold FieldType.Has <;> infer_instance

/-- `validate_field_type`. -/
def validateFieldType (data : Fields) (field : String) (type : FieldType) : Except Raised Unit :=
  match data.lookup field with
  | none => .ok ()
  | some value =>
    if type.Has value then .ok ()
    else .error (.validation s!"Invalid type for {field}: expected {type.name}" field)

/-- The loop over an enumeration. -/
def forEach (check : Nat → Json → Except Raised Unit) : Nat → List Json → Except Raised Unit
  | _, [] => .ok ()
  | i, item :: items => do
    check i item
    forEach check (i + 1) items

/-- One block of a content. `display` is `str`. -/
def validateBlock (display : Json → String) (i j : Nat) : Json → Except Raised Unit
  | .object item =>
    let itemType := (item.lookup "type").getD .null
    -- The type is looked up in a set.
    if Unhashable itemType then .error (.unexpected .typeError)
    else if asString itemType ∈ [some "input_text", some "text"] then
      match asString (item.lookup "text") with
      | some text =>
        if text = "" then
          .error (.validation s!"messages[{i}].content[{j}].text must be a non-empty string"
            "messages")
        else .ok ()
      | none =>
        .error (.validation s!"messages[{i}].content[{j}].text must be a non-empty string" "messages")
    else if asString itemType ∈ [some "image_url", some "input_image", some "image"] then
      .error (.validation "API v1 chat completions are text-only and do not support image content"
        "messages")
    else
      .error (.validation s!"Unsupported content type in messages[{i}]: {display itemType}"
        "messages")
  | _ => .error (.validation s!"messages[{i}].content[{j}] must be an object" "messages")

def validateContent (display : Json → String) (i : Nat) : Json → Except Raised Unit
  | .string _ => .ok ()
  | .array [] =>
    .error (.validation s!"messages[{i}].content must contain at least one item" "messages")
  | .array items => forEach (validateBlock display i) 0 items
  | _ =>
    .error (.validation s!"messages[{i}].content must be a string or array of text content blocks"
      "messages")

def roles : List String := ["system", "user", "assistant", "function"]

def validateMessage (display : Json → String) (i : Nat) : Json → Except Raised Unit
  | .object message => do
    validateRequiredFields (.object message) ["role", "content"]
    validateFieldType message "role" .str
    let role := (message.lookup "role").getD .null
    if asString role ∈ roles.map some then
      validateContent display i ((message.lookup "content").getD .null)
    else .error (.validation s!"Invalid role in messages[{i}]: {display role}" "messages")
  | _ => .error (.validation s!"messages[{i}] must be an object" "messages")

/-- `validate_chat_messages`. -/
def validateChatMessages (display : Json → String) : Json → Except Raised Unit
  | .array [] => .error (.validation "messages must contain at least one item" "messages")
  | .array messages => forEach (validateMessage display) 0 messages
  | _ => .error (.validation "messages must be an array" "messages")

/-! ## Base64 -/

/-- The value of a character of the alphabet. -/
def base64Digit (c : Char) : Option Nat :=
  let n := c.toNat
  if 65 ≤ n ∧ n ≤ 90 then some (n - 65)
  else if 97 ≤ n ∧ n ≤ 122 then some (n - 71)
  else if 48 ≤ n ∧ n ≤ 57 then some (n + 4)
  else if n = 43 then some 62
  else if n = 47 then some 63
  else none

/-- The byte that a digit completes at a place of its group of four. -/
def base64Byte (place left digit : Nat) : Bytes :=
  match place with
  | 0 => []
  | 1 => [UInt8.ofNat (left * 4 + digit / 16)]
  | 2 => [UInt8.ofNat (left % 16 * 16 + digit / 4)]
  | _ => [UInt8.ofNat (left % 4 * 64 + digit)]

/-- The loop of `binascii.a2b_base64`: the place in the group of four, the digit before, the number
of padding characters and whether there was one. -/
def a2bLoop (strict : Bool) (place left pads : Nat) (padded : Bool) : List Char → Option Bytes
  | [] => if place = 0 then some [] else none
  | c :: rest =>
    if c = '=' then
      if 2 ≤ place ∧ 4 ≤ place + (pads + 1) then
        if strict ∧ rest ≠ [] then none else some []
      else a2bLoop strict place left (if 2 ≤ place then pads + 1 else pads) true rest
    else
      match base64Digit c with
      | none => if strict then none else a2bLoop strict place left pads padded rest
      | some digit =>
        if strict ∧ padded then none
        else
          (a2bLoop strict ((place + 1) % 4) digit 0 padded rest).map
            (base64Byte place left digit ++ ·)

/-- `base64.b64decode(value, validate=strict)` of a text. -/
def b64decode (strict : Bool) (value : String) : Option Bytes :=
  if value.toList.all (·.toNat < 128) then
    if strict ∧ value.toList.head? = some '=' then none
    else a2bLoop strict 0 0 0 false value.toList
  else none

/-- `base64.b64decode(value)` of any value. -/
def decodeBase64 (value : Json) : Except Raised Bytes :=
  match value with
  | .string text =>
    match b64decode false text with
    | some bytes => .ok bytes
    | none => .error (.unexpected .base64Error)
  | _ => .error (.unexpected .typeError)

/-- `validate_base64`. -/
def validateBase64 (data : Fields) (field : String) : Except Raised Unit :=
  match asString (data.lookup field) with
  | some text =>
    if (b64decode true text).isSome then .ok ()
    else .error (.validation s!"Invalid base64 encoding for {field}" field)
  | none => .ok ()

/-- `validate_encrypted_request`. -/
def validateEncryptedRequest (data : Fields) : Except Raised Unit := do
  validateRequiredFields (.object data) ["client_public_key", "messages"]
  validateFieldType data "client_public_key" .str
  match asObject (data.lookup "messages") with
  | some messages =>
    validateRequiredFields (.object messages) ["ciphertext", "cipherkey", "iv"]
    validateBase64 messages "ciphertext"
    validateBase64 messages "cipherkey"
    validateBase64 messages "iv"
  | none =>
    .error (.validation "messages must be an object for encrypted requests" "messages")

/-! ## The handler -/

/-- What `json.loads` does with a text: the value, a `JSONDecodeError`, or another exception (the
text nests too deep, or a number in it has too many digits). -/
inductive Loaded
  | value (value : Json)
  | decodeError
  | otherError

structure ErrorResponse where
  message : String
  errorType : String
  param : Option String
  code : Option String
  statusCode : Nat

/-- The provider that is called, with what it is called with. -/
structure ProviderCall where
  path : String
  modelId : String
  messages : Json
  options : Fields

inductive Answer
  | error (response : ErrorResponse)
  | provider (call : ProviderCall)

/-- What surrounds the handler: the decryption primitive, the JSON decoder, `str` of a value and of
an exception, the aliases and the model catalogue, the banned terms if the moderation is on, and the
provider that the configuration gives, by whether the distributed one is forced. -/
structure Api where
  decrypt : (ciphertext iv cipherkey : Bytes) → Option Bytes
  loads : List Char → Loaded
  display : Json → String
  describe : Unexpected → String
  aliases : List (String × String)
  models : List String
  blocklist : Option (List String)
  providerPath : Bool → Except ErrorResponse String

/-- `format_error_response` with the defaults of its arguments. -/
def invalidRequest (message : String) (param : Option String) : ErrorResponse :=
  ⟨message, "invalid_request_error", param, none, 400⟩

/-- The response to a `ValidationError`. -/
def validationResponse (message field : String) : ErrorResponse :=
  ⟨message, "invalid_request_error", some field, some "invalid_request_error", 400⟩

def encryptionError (message : String) : ErrorResponse :=
  ⟨message, "encryption_error", none, none, 400⟩

variable (api : Api)

/-- `resolve_model_alias`. -/
def resolveModelAlias (modelId : String) : Option String :=
  (api.aliases.lookup modelId).filter fun target => target ≠ "" ∧ target ∈ api.models

/-- What a decryption that may have failed is read as. -/
def parseDecrypted : Option Bytes → Except Raised (Except ErrorResponse Json)
  | none => .ok (.error (encryptionError "Failed to decrypt messages"))
  | some bytes =>
    match decodeStrict bytes with
    | none => .error (.unexpected .unicodeDecodeError)
    | some text =>
      match api.loads text with
      | .value value => .ok (.ok value)
      | .decodeError => .ok (.error (encryptionError "Failed to parse JSON from decrypted messages"))
      | .otherError => .error (.unexpected .decoderError)

/-- The decryption of a sealed message. -/
def decryptMessages (messages : Fields) : Except Raised (Except ErrorResponse Json) := do
  let ciphertext ← decodeBase64 ((messages.lookup "ciphertext").getD .null)
  let iv ← decodeBase64 ((messages.lookup "iv").getD .null)
  let cipherkey ← decodeBase64 ((messages.lookup "cipherkey").getD .null)
  parseDecrypted api (api.decrypt ciphertext iv cipherkey)

/-- The messages of an encrypted request, or the response if they cannot be read. -/
def encryptedMessages (data : Fields) : Except Raised (Except ErrorResponse Json) := do
  validateEncryptedRequest data
  decryptMessages api ((asObject (data.lookup "messages")).getD [])

/-- The messages of any request. -/
def requestMessages (data : Fields) : Except Raised (Except ErrorResponse Json) :=
  if (data.lookup "encrypted").any Json.truthy then encryptedMessages api data
  else do
    validateRequiredFields (.object data) ["messages"]
    validateFieldType data "messages" .list
    return .ok ((data.lookup "messages").getD .null)

mutual

/-- `_iter_text_fragments`. -/
def textFragments : Json → List String
  | .string s => [s]
  | .object fields => textOfFields fields
  | .array items => itemFragments items
  | _ => []

/-- The fragments of the text of an object. -/
def textOfFields : Fields → List String
  | [] => []
  | (key, value) :: fields =>
    if key = "text" then
      match value with
      | .string s => [s]
      | .array items => listFragments items
      | _ => []
    else textOfFields fields

/-- The fragments of every item. -/
def listFragments : List Json → List String
  | [] => []
  | item :: items => textFragments item ++ listFragments items

/-- The fragments of the items of a content: a number or a list in it gives none. -/
def itemFragments : List Json → List String
  | [] => []
  | item :: items =>
    (match item with
      | .object fields => textOfFields fields
      | .string s => [s]
      | _ => []) ++ itemFragments items

end

/-- `evaluate_messages_for_policy`: the banned term that was found. -/
def bannedTerm (messages : List Json) : Option String :=
  let fragments := messages.flatMap fun message =>
    textFragments ((asObject (some message)).bind (·.lookup "content") |>.getD .null)
  fragments.findSome? fun fragment =>
    (api.blocklist.getD []).find? fun term =>
      term ≠ "" ∧ Text.contains (Text.lower fragment.toList) term.toList

/-- `_should_force_desktop_bridge_distributed`. -/
def forcesDistributed (data : Fields) : Bool :=
  match asObject (data.lookup "metadata") with
  | some metadata =>
    (data.lookup "encrypted").any Json.truthy &&
      asString (metadata.lookup "inference_target") = some "desktop_bridge_api_v1_e2ee" &&
      asString (metadata.lookup "relay_path") = some "api_v1_e2ee"
  | none => false

def passthroughFields : List String :=
  ["temperature", "top_p", "max_tokens", "frequency_penalty", "presence_penalty", "stop", "tools",
    "tool_choice", "response_format", "seed"]

/-- `_extract_chat_completion_options`. -/
def chatCompletionOptions (data : Fields) : Fields :=
  data.filter fun field => field.1 ∈ passthroughFields ∧ ¬ field.2 matches .null

/-- What follows the validation: the moderation and the choice of the provider. -/
def provide (data : Fields) (requested : String) (messages : Json) : Answer :=
  match bannedTerm api (match messages with | .array items => items | _ => []) with
  | some term =>
    .error ⟨s!"Request blocked by content moderation policy: matched banned term '{term}'.",
      "content_policy_violation", none, some "content_blocked", 400⟩
  | none =>
    let modelId := (resolveModelAlias api requested).getD requested
    match api.providerPath (forcesDistributed data) with
    | .error response => .error response
    | .ok path =>
      if path ∉ ["distributed", "distributed_with_local_fallback"] ∧ modelId ∉ api.models then
        .error ⟨s!"Model '{modelId}' is not supported by API v1.", "invalid_request_error",
          some "model", some "model_not_supported", 400⟩
      else .provider ⟨path, modelId, messages, chatCompletionOptions data⟩

/-- The request of a body that is an object with a model. -/
def request (data : Fields) : Except Raised Answer :=
  if (data.lookup "stream").any Json.truthy then
    return .error (invalidRequest ("Streaming is not supported for API v1 chat completions. " ++
      "Use /api/v2/chat/completions for Server-Sent Events.") (some "stream"))
  else do
    validateFieldType data "model" .str
    match ← requestMessages api data with
    | .error response => return .error response
    | .ok messages =>
      validateChatMessages api.display messages
      return provide api data ((asString (data.lookup "model")).getD "") messages

/-- The part of the handler under its outer `try`. -/
def attempt (body : Json) : Except Raised Answer := do
  validateRequiredFields body ["model"]
  match body with
  | .object data => request api data
  | _ => .error (.unexpected .attributeError)

/-- `_handle_chat_completion_request`. -/
def handleChatCompletionRequest (body : Json) : Answer :=
  if body.truthy then
    match attempt api body with
    | .ok answer => answer
    | .error (.validation message field) => .error (validationResponse message field)
    | .error (.unexpected kind) =>
      .error ⟨s!"Internal server error: {api.describe kind}", "server_error", none, none, 500⟩
  else .error (invalidRequest "Invalid request body: empty or not JSON" none)

/-! ## Statements -/

/-- An exception that is no `ValidationError`. -/
def Fails {α : Type} (result : Except Raised α) : Prop :=
  ∃ kind, result = .error (.unexpected kind)

/-- A block of text. -/
def TextBlock (item : Json) : Prop :=
  ∃ fields text, item = .object fields ∧
    asString (fields.lookup "type") ∈ [some "input_text", some "text"] ∧
    asString (fields.lookup "text") = some text ∧ text ≠ ""

/-- A block whose type is a list or an object. -/
def StumblingBlock (item : Json) : Prop :=
  ∃ fields, item = .object fields ∧ Unhashable ((fields.lookup "type").getD .null)

/-- The first item that is not good is a bad one. -/
def Stumbles (good bad : Json → Prop) (items : List Json) : Prop :=
  ∃ before item after, items = before ++ item :: after ∧ (∀ item ∈ before, good item) ∧ bad item

/-- A message with a role and this content. -/
def HasContent (message content : Json) : Prop :=
  ∃ fields role, message = .object fields ∧ asString (fields.lookup "role") = some role ∧
    role ∈ roles ∧ fields.lookup "content" = some content

/-- A message that is accepted. -/
def TextMessage (message : Json) : Prop :=
  ∃ content, HasContent message content ∧
    ((∃ text, content = .string text) ∨
      ∃ items, content = .array items ∧ items ≠ [] ∧ ∀ item ∈ items, TextBlock item)

/-- A message whose content has a block of this kind before any other that is not accepted. -/
def StumblingMessage (message : Json) : Prop :=
  ∃ items, HasContent message (.array items) ∧ Stumbles TextBlock StumblingBlock items

/-- Messages on which the validator fails. -/
def StumblingMessages (messages : Json) : Prop :=
  ∃ items, messages = .array items ∧ Stumbles TextMessage StumblingMessage items

/-- The body is encrypted. -/
def Encrypted (data : Fields) : Prop := (data.lookup "encrypted").any Json.truthy = true

/-- The fields of a sealed message. -/
def sealedFields : List String := ["ciphertext", "cipherkey", "iv"]

/-- The fields of a sealed message are there, and those that are texts are strict base64. -/
def Sealed (messages : Fields) : Prop :=
  ∀ field ∈ sealedFields, ∃ value, messages.lookup field = some value ∧
    ∀ text, value = .string text → (b64decode true text).isSome

/-- What a sealed message decrypts to. -/
def Decrypts (messages : Fields) (bytes : Bytes) : Prop :=
  ∃ ciphertext iv cipherkey c i k, messages.lookup "ciphertext" = some (.string ciphertext) ∧
    messages.lookup "iv" = some (.string iv) ∧
    messages.lookup "cipherkey" = some (.string cipherkey) ∧
    b64decode true ciphertext = some c ∧ b64decode true iv = some i ∧
    b64decode true cipherkey = some k ∧ api.decrypt c i k = some bytes

/-- The messages of a body that can be read. -/
def Reads (data : Fields) (messages : Json) : Prop :=
  (¬ Encrypted data ∧ data.lookup "messages" = some messages) ∨
  (Encrypted data ∧ (∃ key, data.lookup "client_public_key" = some (.string key)) ∧
    ∃ envelope bytes text, data.lookup "messages" = some (.object envelope) ∧
      Decrypts api envelope bytes ∧ decodeStrict bytes = some text ∧
      api.loads text = .value messages)

/-- The bodies for which the provider may be called. -/
def ValidBody (body : Json) : Prop :=
  ∃ data model messages, body = .object data ∧ data.lookup "model" = some (.string model) ∧
    (data.lookup "stream").any Json.truthy = false ∧ Reads api data messages ∧
    validateChatMessages api.display messages = .ok ()

/-- A sealed message that is not read although no validator objects: a field is no text, or what it
decrypts to is no UTF-8, or the decoder raises something else. -/
def Unreadable (envelope : Fields) : Prop :=
  Sealed envelope ∧
    ((∃ field ∈ sealedFields, asString (envelope.lookup field) = none) ∨
      ∃ bytes, Decrypts api envelope bytes ∧
        (decodeStrict bytes = none ∨ ∃ text, decodeStrict bytes = some text ∧
          api.loads text = .otherError))

/-- The bodies that get a server error: a value that is no object and is a number or true or has
`model` in it, or an object whose sealed messages are unreadable or whose messages have a block with
an unhashable type. -/
def Mishandled : Json → Prop
  | .null => False
  | .bool b => b = true
  | .number n => n ≠ 0
  | .string s => Text.contains s.toList "model".toList = true
  | .array items => ∃ item ∈ items, asString (some item) = some "model"
  | .object data =>
    (∃ model, data.lookup "model" = some (.string model)) ∧
      (data.lookup "stream").any Json.truthy = false ∧
      ((∃ messages, Reads api data messages ∧ StumblingMessages messages) ∨
        Encrypted data ∧ (∃ key, data.lookup "client_public_key" = some (.string key)) ∧
          ∃ envelope, data.lookup "messages" = some (.object envelope) ∧ Unreadable api envelope)

/-! ## Exceptions of the steps -/

section Steps

variable {α β : Type} {x : Except Raised α} {f : α → Except Raised β} {b : β}

theorem bind_eq_ok : (x >>= f) = .ok b ↔ ∃ a, x = .ok a ∧ f a = .ok b := by
  cases x with
  | error e => exact ⟨nofun, nofun⟩
  | ok a => exact ⟨fun is => ⟨a, rfl, is⟩, fun ⟨_, same, is⟩ => by cases same; exact is⟩

theorem fails_bind : Fails (x >>= f) ↔ Fails x ∨ ∃ a, x = .ok a ∧ Fails (f a) := by
  cases x with
  | error e =>
    constructor
    · rintro ⟨kind, is⟩
      exact .inl ⟨kind, by cases is; rfl⟩
    · rintro (⟨kind, is⟩ | ⟨a, is, _⟩)
      · exact ⟨kind, by cases is; rfl⟩
      · cases is
  | ok a =>
    constructor
    · exact fun fails => .inr ⟨a, rfl, fails⟩
    · rintro (⟨kind, is⟩ | ⟨_, same, fails⟩)
      · cases is
      · cases same; exact fails

variable {rest : Except Raised β}

theorem check_eq_ok {check : Except Raised Unit} :
    (check >>= fun _ => rest) = .ok b ↔ check = .ok () ∧ rest = .ok b := by
  rw [bind_eq_ok]
  exact ⟨fun ⟨_, passes, is⟩ => ⟨passes, is⟩, fun ⟨passes, is⟩ => ⟨(), passes, is⟩⟩

theorem check_fails {check : Except Raised Unit} :
    Fails (check >>= fun _ => rest) ↔ Fails check ∨ check = .ok () ∧ Fails rest := by
  rw [fails_bind]
  exact or_congr_right
    ⟨fun ⟨_, passes, fails⟩ => ⟨passes, fails⟩, fun ⟨passes, fails⟩ => ⟨(), passes, fails⟩⟩

@[simp] theorem fails_ok (a : α) : Fails (Except.ok a : Except Raised α) ↔ False :=
  ⟨nofun, False.elim⟩

@[simp] theorem fails_validation (message field : String) :
    Fails (Except.error (.validation message field) : Except Raised α) ↔ False :=
  ⟨nofun, False.elim⟩

@[simp] theorem fails_unexpected (kind : Unexpected) :
    Fails (Except.error (.unexpected kind) : Except Raised α) ↔ True :=
  ⟨fun _ => trivial, fun _ => ⟨kind, rfl⟩⟩

end Steps

variable {api} {display : Json → String} {data message envelope : Fields}
  {body messages item : Json}
  {field : String} {i : Nat}

theorem validateRequiredFields_object {required : List String} :
    (validateRequiredFields (.object data) required = .ok () ↔
      ∀ field ∈ required, ∃ value, data.lookup field = some value) ∧
    ¬ Fails (validateRequiredFields (.object data) required) := by
  induction required with
  | nil => simp [validateRequiredFields]
  | cons field required ih =>
    cases found : data.lookup field with
    | none => simp [validateRequiredFields, fieldIn, found, fails_bind, bind_eq_ok]
    | some value => simp [validateRequiredFields, fieldIn, found, fails_bind, bind_eq_ok, ih]

variable {check : Nat → Json → Except Raised Unit} {decrypted : Option Bytes}
  {good bad : Json → Prop} {value : Option Json} {items : List Json} {content : Json}
  {bytes : Bytes} {type : FieldType}

theorem validateFieldType_ok :
    validateFieldType data field type = .ok () ↔ ∀ value, data.lookup field = some value →
      type.Has value := by
  unfold validateFieldType
  cases data.lookup field with
  | none => simp
  | some value => by_cases has : type.Has value <;> simp [has]

theorem validateFieldType_fails :
    ¬ Fails (validateFieldType data field type) := by
  unfold validateFieldType
  cases data.lookup field with
  | none => simp
  | some value => by_cases has : type.Has value <;> simp [has]

theorem forEach_ok {good : Json → Prop} (checks : ∀ i item, check i item = .ok () ↔ good item) :
    forEach check i items = .ok () ↔ ∀ item ∈ items, good item := by
  induction items generalizing i with
  | nil => simp [forEach]
  | cons item items ih => simp [forEach, bind_eq_ok, checks, ih]

theorem stumbles_nil : ¬ Stumbles good bad [] := by
  rintro ⟨before, item, after, is, _⟩
  simp at is

theorem stumbles_cons :
    Stumbles good bad (item :: items) ↔ bad item ∨ good item ∧ Stumbles good bad items := by
  constructor
  · rintro ⟨before, worst, after, is, fine, worse⟩
    cases before with
    | nil =>
      obtain ⟨rfl, rfl⟩ := List.cons.inj is
      exact .inl worse
    | cons first before =>
      obtain ⟨rfl, rest⟩ := List.cons.inj is
      exact .inr ⟨fine _ List.mem_cons_self,
        before, worst, after, rest, fun b member => fine b (List.mem_cons_of_mem _ member), worse⟩
  · rintro (worse | ⟨fine, before, worst, after, rfl, all, worse⟩)
    · exact ⟨[], item, items, rfl, nofun, worse⟩
    · exact ⟨item :: before, worst, after, rfl, List.forall_mem_cons.mpr ⟨fine, all⟩, worse⟩

theorem forEach_fails (checks : ∀ i item, check i item = .ok () ↔ good item)
    (fails : ∀ i item, Fails (check i item) ↔ bad item) :
    Fails (forEach check i items) ↔ Stumbles good bad items := by
  induction items generalizing i with
  | nil => simp [forEach, stumbles_nil]
  | cons item items ih =>
    rw [stumbles_cons, forEach, fails_bind, fails]
    simp [checks, ih]

/-! ## Messages -/

theorem asString_mem {texts : List String} :
    asString value ∈ texts.map some ↔ ∃ text ∈ texts, value = some (.string text) := by
  simp only [List.mem_map]
  constructor
  · rintro ⟨text, member, is⟩
    exact ⟨text, member, asString_eq_some.mp is.symm⟩
  · rintro ⟨text, member, is⟩
    exact ⟨text, member, (asString_eq_some.mpr is).symm⟩

theorem asString_getD :
    asString (some (value.getD .null)) = asString value := by
  cases value <;> rfl

/-- The types of a block of text. -/
def textTypes : List (Option String) := [some "input_text", some "text"]

theorem hashable_of_textType (text : asString value ∈ textTypes) :
    ¬ Unhashable (value.getD .null) := by
  obtain ⟨_, _, rfl⟩ := asString_mem.mp (show asString value ∈ ["input_text", "text"].map some from text)
  exact not_false

theorem validateBlock_ok (j : Nat) (item : Json) :
    validateBlock display i j item = .ok () ↔ TextBlock item := by
  unfold validateBlock TextBlock
  cases item with
  | object fields =>
    simp only [asString_getD, Json.object.injEq]
    split_ifs with unhashable text image
    · refine iff_of_false nofun ?_
      rintro ⟨_, _, rfl, text, _⟩
      exact hashable_of_textType text unhashable
    · cases told : asString (fields.lookup "text") with
      | none => simp [told]
      | some words =>
        by_cases empty : words = ""
        · simp [told, empty]
        · simp only [if_neg empty, true_iff]
          exact ⟨fields, words, rfl, text, told, empty⟩
    · refine iff_of_false nofun ?_
      rintro ⟨_, _, rfl, is, _⟩
      exact text is
    · refine iff_of_false nofun ?_
      rintro ⟨_, _, rfl, is, _⟩
      exact text is
  | _ => simp

theorem validateBlock_fails (j : Nat) (item : Json) :
    Fails (validateBlock display i j item) ↔ StumblingBlock item := by
  unfold validateBlock StumblingBlock
  cases item with
  | object fields =>
    simp only [asString_getD, Json.object.injEq]
    split_ifs with unhashable text image
    · exact iff_of_true ⟨_, rfl⟩ ⟨fields, rfl, unhashable⟩
    · refine iff_of_false ?_ ?_
      · cases asString (fields.lookup "text") with
        | none => simp
        | some words => by_cases empty : words = "" <;> simp [empty]
      · rintro ⟨_, rfl, is⟩
        exact unhashable is
    · refine iff_of_false nofun ?_
      rintro ⟨_, rfl, is⟩
      exact unhashable is
    · refine iff_of_false nofun ?_
      rintro ⟨_, rfl, is⟩
      exact unhashable is
  | _ => simp

theorem validateContent_ok : validateContent display i content = .ok () ↔
    (∃ text, content = .string text) ∨
      ∃ items, content = .array items ∧ items ≠ [] ∧ ∀ item ∈ items, TextBlock item := by
  cases content with
  | array items =>
    cases items with
    | nil => simp [validateContent]
    | cons item items =>
      have checks : forEach (validateBlock display i) 0 (item :: items) = .ok () ↔
          ∀ block ∈ item :: items, TextBlock block :=
        forEach_ok validateBlock_ok
      simp [validateContent, checks]
  | _ => simp [validateContent]

theorem validateContent_fails : Fails (validateContent display i content) ↔
    ∃ items, content = .array items ∧ Stumbles TextBlock StumblingBlock items := by
  cases content with
  | array items =>
    cases items with
    | nil => simp [validateContent, stumbles_nil]
    | cons item items =>
      have checks : Fails (forEach (validateBlock display i) 0 (item :: items)) ↔
          Stumbles TextBlock StumblingBlock (item :: items) :=
        forEach_fails validateBlock_ok validateBlock_fails
      simp [validateContent, checks]
  | _ => simp [validateContent]

theorem hasContent_object : HasContent (.object message) content ↔
    (∃ role ∈ roles, message.lookup "role" = some (.string role)) ∧
      message.lookup "content" = some content := by
  constructor
  · rintro ⟨_, role, ⟨⟩, is, allowed, content⟩
    exact ⟨⟨role, allowed, asString_eq_some.mp is⟩, content⟩
  · rintro ⟨⟨role, allowed, is⟩, content⟩
    exact ⟨message, role, rfl, asString_eq_some.mpr is, allowed, content⟩

theorem validateMessage_cases (display : Json → String) (i : Nat) (item : Json) :
    (∃ content, HasContent item content ∧
      validateMessage display i item = validateContent display i content) ∨
    ((∀ content, ¬ HasContent item content) ∧
      ∃ message field, validateMessage display i item = .error (.validation message field)) := by
  cases item with
  | object message =>
    simp only [hasContent_object, validateMessage, validateRequiredFields, fieldIn,
      validateFieldType]
    cases roleIs : message.lookup "role" with
    | none => exact .inr ⟨by simp, _, _, rfl⟩
    | some role =>
      cases contentIs : message.lookup "content" with
      | none => exact .inr ⟨by simp, _, _, rfl⟩
      | some content =>
        cases role with
        | string name =>
          by_cases allowed : name ∈ roles
          · refine .inl ⟨content, ⟨⟨name, allowed, rfl⟩, rfl⟩, ?_⟩
            have passes : asString (some (.string name)) ∈ roles.map some :=
              List.mem_map_of_mem allowed
            simp [FieldType.Has, bind, Except.bind, passes]
          · have barred : asString (some (.string name)) ∉ roles.map some := by
              simpa [asString] using allowed
            refine .inr ⟨by simp [allowed],
              s!"Invalid role in messages[{i}]: {display (.string name)}", "messages", ?_⟩
            simp [FieldType.Has, bind, Except.bind, barred]
        | _ => exact .inr ⟨by simp, _, _, rfl⟩
  | _ => exact .inr ⟨by rintro _ ⟨_, _, ⟨⟩, _⟩, _, _, rfl⟩

theorem hasContent_unique {content content' : Json} (has : HasContent item content)
    (has' : HasContent item content') : content = content' := by
  obtain ⟨fields, _, rfl, _, _, is⟩ := has
  obtain ⟨_, _, ⟨⟩, _, _, is'⟩ := has'
  exact Option.some.inj (is.symm.trans is')

theorem validateMessage_ok (i : Nat) (item : Json) :
    validateMessage display i item = .ok () ↔ TextMessage item := by
  rcases validateMessage_cases display i item with ⟨content, has, is⟩ | ⟨none, message, field, is⟩
  · rw [is, validateContent_ok]
    constructor
    · exact fun good => ⟨content, has, good⟩
    · rintro ⟨content', has', good⟩
      rwa [hasContent_unique has has']
  · rw [is]
    exact iff_of_false nofun fun ⟨content, has, _⟩ => none content has

theorem validateMessage_fails (i : Nat) (item : Json) :
    Fails (validateMessage display i item) ↔ StumblingMessage item := by
  rcases validateMessage_cases display i item with ⟨content, has, is⟩ | ⟨none, message, field, is⟩
  · rw [is, validateContent_fails]
    constructor
    · rintro ⟨items, rfl, stumbles⟩
      exact ⟨items, has, stumbles⟩
    · rintro ⟨items, has', stumbles⟩
      exact ⟨items, hasContent_unique has has', stumbles⟩
  · rw [is, fails_validation]
    exact iff_of_false id fun ⟨items, has, _⟩ => none _ has

theorem validateChatMessages_ok : validateChatMessages display messages = .ok () ↔
    ∃ items, messages = .array items ∧ items ≠ [] ∧ ∀ item ∈ items, TextMessage item := by
  cases messages with
  | array items =>
    cases items with
    | nil => simp [validateChatMessages]
    | cons item items =>
      have checks : forEach (validateMessage display) 0 (item :: items) = .ok () ↔
          ∀ message ∈ item :: items, TextMessage message :=
        forEach_ok validateMessage_ok
      simp [validateChatMessages, checks]
  | _ => simp [validateChatMessages]

theorem validateChatMessages_unexpected :
    Fails (validateChatMessages display messages) ↔ StumblingMessages messages := by
  unfold StumblingMessages
  cases messages with
  | array items =>
    cases items with
    | nil => simp [validateChatMessages, stumbles_nil]
    | cons item items =>
      have checks : Fails (forEach (validateMessage display) 0 (item :: items)) ↔
          Stumbles TextMessage StumblingMessage (item :: items) :=
        forEach_fails validateMessage_ok validateMessage_fails
      simp [validateChatMessages, checks]
  | _ => simp [validateChatMessages]

/-! ## Sealed messages -/

/-- What is strict base64 decodes the same way without the strictness. -/
theorem a2bLoop_of_strict {place left pads : Nat} {padded : Bool} {s : List Char}
    (strict : a2bLoop true place left pads padded s = some bytes) :
    a2bLoop false place left pads padded s = some bytes := by
  induction s generalizing place left pads padded bytes with
  | nil => exact strict
  | cons c s ih =>
    rw [a2bLoop] at strict ⊢
    by_cases pad : c = '='
    · rw [if_pos pad] at strict ⊢
      by_cases done : 2 ≤ place ∧ 4 ≤ place + (pads + 1)
      · rw [if_pos done] at strict ⊢
        split_ifs at strict with excess
        simpa using strict
      · rw [if_neg done] at strict ⊢
        exact ih strict
    · rw [if_neg pad] at strict ⊢
      cases digit : base64Digit c with
      | none => simp [digit] at strict
      | some d =>
        simp only [digit, true_and] at strict
        split_ifs at strict with gap
        obtain ⟨tail, is, rfl⟩ := Option.map_eq_some_iff.mp strict
        simp [ih is]

theorem b64decode_of_strict {text : String}
    (strict : b64decode true text = some bytes) : b64decode false text = some bytes := by
  unfold b64decode at strict ⊢
  by_cases ascii : (text.toList.all fun c => decide (c.toNat < 128)) = true
  · rw [if_pos ascii] at strict ⊢
    split_ifs at strict with leading
    simpa using a2bLoop_of_strict strict
  · rw [if_neg ascii] at strict
    cases strict

theorem validateBase64_ok : validateBase64 envelope field = .ok () ↔
    ∀ text, envelope.lookup field = some (.string text) → (b64decode true text).isSome := by
  unfold validateBase64
  simp only [← asString_eq_some]
  cases asString (envelope.lookup field) with
  | none => simp
  | some text => by_cases valid : (b64decode true text).isSome <;> simp [valid]

theorem validateBase64_fails : ¬ Fails (validateBase64 envelope field) := by
  unfold validateBase64
  cases asString (envelope.lookup field) with
  | none => simp
  | some text => by_cases valid : (b64decode true text).isSome <;> simp [valid]

theorem sealed_iff : Sealed envelope ↔
    validateRequiredFields (.object envelope) sealedFields = .ok () ∧
      ∀ field ∈ sealedFields, validateBase64 envelope field = .ok () := by
  simp only [validateRequiredFields_object.1, validateBase64_ok]
  constructor
  · intro whole
    refine ⟨fun field member => ?_, fun field member text is => ?_⟩
    · obtain ⟨value, is, _⟩ := whole field member
      exact ⟨value, is⟩
    · obtain ⟨value, is', strict⟩ := whole field member
      exact strict text (Option.some.inj (is'.symm.trans is))
  · rintro ⟨there, strict⟩ field member
    obtain ⟨value, is⟩ := there field member
    exact ⟨value, is, fun text same => strict field member text (same ▸ is)⟩

theorem validateEncryptedRequest_ok : validateEncryptedRequest data = .ok () ↔
    (∃ key, data.lookup "client_public_key" = some (.string key)) ∧
      ∃ envelope, data.lookup "messages" = some (.object envelope) ∧ Sealed envelope := by
  unfold validateEncryptedRequest
  simp only [check_eq_ok, validateRequiredFields_object.1, validateFieldType_ok]
  constructor
  · rintro ⟨there, typed, rest⟩
    obtain ⟨key, keyed⟩ := there "client_public_key" (by simp)
    have text := typed key keyed
    cases found : asObject (data.lookup "messages") with
    | none => simp [found] at rest
    | some envelope =>
      simp only [found, check_eq_ok] at rest
      obtain ⟨whole, ciphertext, cipherkey, iv⟩ := rest
      refine ⟨?_, envelope, asObject_eq_some.mp found, sealed_iff.mpr ⟨whole, ?_⟩⟩
      · cases key with
        | string key => exact ⟨key, keyed⟩
        | _ => exact text.elim
      · simpa [sealedFields] using ⟨ciphertext, cipherkey, iv⟩
  · rintro ⟨⟨key, keyed⟩, envelope, found, whole⟩
    obtain ⟨there, strict⟩ := sealed_iff.mp whole
    refine ⟨by simp [keyed, found], by simp [keyed, FieldType.Has], ?_⟩
    simp only [found, asObject, check_eq_ok]
    exact ⟨there, strict _ (by simp [sealedFields]), strict _ (by simp [sealedFields]),
      strict _ (by simp [sealedFields])⟩

theorem validateEncryptedRequest_fails : ¬ Fails (validateEncryptedRequest data) := by
  unfold validateEncryptedRequest
  simp only [check_fails, validateRequiredFields_object.2, validateFieldType_fails, false_or,
    not_and]
  intro _ _
  cases asObject (data.lookup "messages") with
  | none => simp
  | some envelope =>
    simp [check_fails, validateRequiredFields_object.2, validateBase64_fails]

theorem decodeBase64_cases (whole : Sealed envelope) (member : field ∈ sealedFields) :
    (∃ text bytes, envelope.lookup field = some (.string text) ∧ b64decode true text = some bytes ∧
      decodeBase64 ((envelope.lookup field).getD .null) = .ok bytes) ∨
    (asString (envelope.lookup field) = none ∧
      decodeBase64 ((envelope.lookup field).getD .null) = .error (.unexpected .typeError)) := by
  obtain ⟨value, is, strict⟩ := whole field member
  rw [is]
  cases value with
  | string text =>
    obtain ⟨bytes, decodes⟩ := Option.isSome_iff_exists.mp (strict text rfl)
    exact .inl ⟨text, bytes, rfl, decodes, by simp [decodeBase64, b64decode_of_strict decodes]⟩
  | _ => exact .inr ⟨rfl, rfl⟩

theorem decodeFields_cases (api : Api) (whole : Sealed envelope) :
    ((∀ field ∈ sealedFields, asString (envelope.lookup field) ≠ none) ∧
      ∃ ciphertext iv cipherkey,
        decodeBase64 ((envelope.lookup "ciphertext").getD .null) = .ok ciphertext ∧
        decodeBase64 ((envelope.lookup "iv").getD .null) = .ok iv ∧
        decodeBase64 ((envelope.lookup "cipherkey").getD .null) = .ok cipherkey ∧
        ∀ bytes, Decrypts api envelope bytes ↔ api.decrypt ciphertext iv cipherkey = some bytes) ∨
    ((∃ field ∈ sealedFields, asString (envelope.lookup field) = none ∧
        decodeBase64 ((envelope.lookup field).getD .null) = .error (.unexpected .typeError)) ∧
      (∀ bytes, ¬ Decrypts api envelope bytes) ∧
      ∀ field ∈ sealedFields, Fails (decodeBase64 ((envelope.lookup field).getD .null)) ∨
        ∃ bytes, decodeBase64 ((envelope.lookup field).getD .null) = .ok bytes) := by
  by_cases texts : ∀ field ∈ sealedFields, asString (envelope.lookup field) ≠ none
  · left
    have decoded : ∀ field ∈ sealedFields, ∃ text bytes, envelope.lookup field = some (.string text) ∧
        b64decode true text = some bytes ∧
        decodeBase64 ((envelope.lookup field).getD .null) = .ok bytes := fun field member =>
      (decodeBase64_cases whole member).resolve_right fun ⟨absent, _⟩ => texts field member absent
    obtain ⟨c, c', cIs, cStrict, cDecodes⟩ := decoded "ciphertext" (by simp [sealedFields])
    obtain ⟨i, i', iIs, iStrict, iDecodes⟩ := decoded "iv" (by simp [sealedFields])
    obtain ⟨k, k', kIs, kStrict, kDecodes⟩ := decoded "cipherkey" (by simp [sealedFields])
    refine ⟨texts, c', i', k', cDecodes, iDecodes, kDecodes, fun bytes => ⟨?_, fun decrypts =>
      ⟨c, i, k, c', i', k', cIs, iIs, kIs, cStrict, iStrict, kStrict, decrypts⟩⟩⟩
    rintro ⟨_, _, _, _, _, _, cIs', iIs', kIs', cStrict', iStrict', kStrict', decrypts⟩
    rw [cIs] at cIs'
    rw [iIs] at iIs'
    rw [kIs] at kIs'
    cases cIs'
    cases iIs'
    cases kIs'
    rw [cStrict] at cStrict'
    rw [iStrict] at iStrict'
    rw [kStrict] at kStrict'
    cases cStrict'
    cases iStrict'
    cases kStrict'
    exact decrypts
  · right
    push Not at texts
    obtain ⟨field, member, absent⟩ := texts
    refine ⟨⟨field, member, absent, ?_⟩, ?_, fun field member => ?_⟩
    · rcases decodeBase64_cases whole member with ⟨text, _, is, _⟩ | ⟨_, fails⟩
      · simp [is, asString] at absent
      · exact fails
    · rintro bytes ⟨_, _, _, _, _, _, c, i, k, _⟩
      simp only [sealedFields, List.mem_cons, List.not_mem_nil, or_false] at member
      rcases member with rfl | rfl | rfl
      · simp [c, asString] at absent
      · simp [k, asString] at absent
      · simp [i, asString] at absent
    · rcases decodeBase64_cases whole member with ⟨_, bytes, _, _, decodes⟩ | ⟨_, fails⟩
      · exact .inr ⟨bytes, decodes⟩
      · exact .inl ⟨_, fails⟩

theorem decodeFields_fails {α : Type} {rest : Bytes → Bytes → Bytes → Except Raised α}
    (each : ∀ field ∈ sealedFields, Fails (decodeBase64 ((envelope.lookup field).getD .null)) ∨
      ∃ bytes, decodeBase64 ((envelope.lookup field).getD .null) = .ok bytes)
    (one : ∃ field ∈ sealedFields, asString (envelope.lookup field) = none ∧
      decodeBase64 ((envelope.lookup field).getD .null) = .error (.unexpected .typeError)) :
    Fails (do
      let ciphertext ← decodeBase64 ((envelope.lookup "ciphertext").getD .null)
      let iv ← decodeBase64 ((envelope.lookup "iv").getD .null)
      let cipherkey ← decodeBase64 ((envelope.lookup "cipherkey").getD .null)
      rest ciphertext iv cipherkey) := by
  obtain ⟨field, member, _, fails⟩ := one
  rcases each "ciphertext" (by simp [sealedFields]) with ⟨_, c⟩ | ⟨_, c⟩
  · exact fails_bind.mpr (.inl ⟨_, c⟩)
  refine fails_bind.mpr (.inr ⟨_, c, ?_⟩)
  rcases each "iv" (by simp [sealedFields]) with ⟨_, i⟩ | ⟨_, i⟩
  · exact fails_bind.mpr (.inl ⟨_, i⟩)
  refine fails_bind.mpr (.inr ⟨_, i, ?_⟩)
  refine fails_bind.mpr (.inl ?_)
  simp only [sealedFields, List.mem_cons, List.not_mem_nil, or_false] at member
  rcases member with rfl | rfl | rfl
  · simp [c] at fails
  · exact ⟨_, fails⟩
  · simp [i] at fails

theorem parseDecrypted_ok :
    parseDecrypted api decrypted = .ok (.ok messages) ↔ ∃ bytes text, decrypted = some bytes ∧
      decodeStrict bytes = some text ∧ api.loads text = .value messages := by
  unfold parseDecrypted
  cases decrypted with
  | none => simp
  | some bytes =>
    cases read : decodeStrict bytes with
    | none => simp [read]
    | some text => cases loaded : api.loads text <;> simp [read, loaded]

theorem parseDecrypted_fails :
    Fails (parseDecrypted api decrypted) ↔ ∃ bytes, decrypted = some bytes ∧
      (decodeStrict bytes = none ∨
        ∃ text, decodeStrict bytes = some text ∧ api.loads text = .otherError) := by
  unfold parseDecrypted
  cases decrypted with
  | none => simp
  | some bytes =>
    cases read : decodeStrict bytes with
    | none => simp [read]
    | some text => cases loaded : api.loads text <;> simp [read, loaded]

theorem parseDecrypted_response {response : ErrorResponse}
    (is : parseDecrypted api decrypted = .ok (.error response)) : response.statusCode = 400 := by
  unfold parseDecrypted at is
  repeat' split at is
  all_goals cases is
  all_goals rfl

theorem sealed_of_decrypts (decrypts : Decrypts api envelope bytes) :
    Sealed envelope := by
  obtain ⟨_, _, _, _, _, _, c, i, k, cStrict, iStrict, kStrict, _⟩ := decrypts
  intro field member
  simp only [sealedFields, List.mem_cons, List.not_mem_nil, or_false] at member
  rcases member with rfl | rfl | rfl
  · exact ⟨_, c, by simp [cStrict]⟩
  · exact ⟨_, k, by simp [kStrict]⟩
  · exact ⟨_, i, by simp [iStrict]⟩

theorem decryptMessages_spec (whole : Sealed envelope) :
    (∀ messages, decryptMessages api envelope = .ok (.ok messages) ↔ ∃ bytes text,
      Decrypts api envelope bytes ∧ decodeStrict bytes = some text ∧
      api.loads text = .value messages) ∧
    (Fails (decryptMessages api envelope) ↔ Unreadable api envelope) ∧
    ∀ response, decryptMessages api envelope = .ok (.error response) →
      response.statusCode = 400 := by
  unfold Unreadable
  rcases decodeFields_cases api whole with
    ⟨texts, c, i, k, cIs, iIs, kIs, decrypts⟩ | ⟨one, undecrypted, each⟩
  · have is : decryptMessages api envelope = parseDecrypted api (api.decrypt c i k) := by
      simp [decryptMessages, cIs, iIs, kIs, bind, Except.bind]
    rw [is]
    simp only [parseDecrypted_ok, parseDecrypted_fails, decrypts, whole, true_and]
    refine ⟨fun _ => trivial, ⟨.inr, fun unread => unread.resolve_left ?_⟩,
      fun response => parseDecrypted_response⟩
    rintro ⟨field, member, absent⟩
    exact texts field member absent
  · have fails : Fails (decryptMessages api envelope) := decodeFields_fails each one
    obtain ⟨field, member, absent, _⟩ := one
    obtain ⟨kind, is⟩ := id fails
    refine ⟨?_, iff_of_true fails ⟨whole, .inl ⟨field, member, absent⟩⟩, ?_⟩
    · intro messages
      rw [is]
      refine iff_of_false nofun ?_
      rintro ⟨bytes, _, decrypts, _⟩
      exact undecrypted bytes decrypts
    · rw [is]
      nofun

theorem requestMessages_spec (api : Api) (data : Fields) :
    (∀ messages, requestMessages api data = .ok (.ok messages) → Reads api data messages) ∧
    (∀ items, Reads api data (.array items) →
      requestMessages api data = .ok (.ok (.array items))) ∧
    (Fails (requestMessages api data) ↔ Encrypted data ∧
      (∃ key, data.lookup "client_public_key" = some (.string key)) ∧
        ∃ envelope, data.lookup "messages" = some (.object envelope) ∧ Unreadable api envelope) ∧
    ∀ response, requestMessages api data = .ok (.error response) → response.statusCode = 400 := by
  unfold requestMessages Reads Encrypted
  by_cases encrypted : (data.lookup "encrypted").any Json.truthy = true
  · simp only [encrypted, if_true, not_true_eq_false, false_and, false_or, true_and]
    unfold encryptedMessages
    simp only [check_eq_ok, check_fails, validateEncryptedRequest_fails, false_or,
      validateEncryptedRequest_ok]
    refine ⟨?_, ?_, ?_, ?_⟩
    · rintro messages ⟨⟨keyed, envelope, found, whole⟩, is⟩
      rw [found] at is
      obtain ⟨bytes, text, decrypts, read, loaded⟩ := ((decryptMessages_spec whole).1 messages).mp is
      exact ⟨keyed, envelope, bytes, text, found, decrypts, read, loaded⟩
    · rintro items ⟨keyed, envelope, bytes, text, found, decrypts, read, loaded⟩
      have whole : Sealed envelope := sealed_of_decrypts decrypts
      refine ⟨⟨keyed, envelope, found, whole⟩, ?_⟩
      rw [found]
      exact ((decryptMessages_spec whole).1 _).mpr ⟨bytes, text, decrypts, read, loaded⟩
    · constructor
      · rintro ⟨⟨keyed, envelope, found, whole⟩, fails⟩
        rw [found] at fails
        exact ⟨keyed, envelope, found, (decryptMessages_spec whole).2.1.mp fails⟩
      · rintro ⟨keyed, envelope, found, unreadable⟩
        refine ⟨⟨keyed, envelope, found, unreadable.1⟩, ?_⟩
        rw [found]
        exact (decryptMessages_spec unreadable.1).2.1.mpr unreadable
    · rintro response ⟨⟨keyed, envelope, found, whole⟩, is⟩
      rw [found] at is
      exact (decryptMessages_spec whole).2.2 response is
  · simp only [encrypted, Bool.false_eq_true, if_false, not_false_eq_true, true_and, false_and,
      or_false]
    simp only [check_eq_ok, check_fails, validateRequiredFields_object.1,
      validateRequiredFields_object.2, validateFieldType_fails, validateFieldType_ok, fails_ok,
      pure, Except.pure]
    refine ⟨?_, ?_, ?_, ?_⟩
    · rintro messages ⟨there, _, is⟩
      obtain ⟨value, found⟩ := there "messages" (by simp)
      rw [found] at is ⊢
      cases is
      rfl
    · intro items found
      simp [found, FieldType.Has]
    · simp
    · simp

/-! ## The handler -/

/-- A client error. -/
def Refused (answer : Answer) : Prop :=
  ∃ response, answer = .error response ∧ response.statusCode = 400

theorem model_iff : (∀ field ∈ ["model"], ∃ value, data.lookup field = some value) ∧
      (∀ value, data.lookup "model" = some value → FieldType.str.Has value) ↔
    ∃ model, data.lookup "model" = some (.string model) := by
  simp only [List.mem_singleton, forall_eq]
  constructor
  · rintro ⟨⟨value, is⟩, typed⟩
    have text := typed value is
    cases value with
    | string model => exact ⟨model, is⟩
    | _ => exact text.elim
  · rintro ⟨model, is⟩
    refine ⟨⟨_, is⟩, fun value same => ?_⟩
    cases is.symm.trans same
    trivial

theorem attempt_object_ok {answer : Answer} (is : attempt api (.object data) = .ok answer) :
    Refused answer ∨ ValidBody api (.object data) := by
  simp only [attempt, request, check_eq_ok, validateRequiredFields_object.1] at is
  obtain ⟨there, is⟩ := is
  cases streams : (data.lookup "stream").any Json.truthy with
  | true =>
    rw [if_pos streams] at is
    cases is
    exact .inl ⟨_, rfl, rfl⟩
  | false =>
    rw [if_neg (by simp [streams]), check_eq_ok, bind_eq_ok] at is
    obtain ⟨typed, read, reads, is⟩ := is
    obtain ⟨model, named⟩ := model_iff.mp ⟨there, validateFieldType_ok.mp typed⟩
    cases read with
    | error response =>
      cases is
      exact .inl ⟨response, rfl, (requestMessages_spec api data).2.2.2 response reads⟩
    | ok messages =>
      exact .inr ⟨data, model, messages, rfl, named, streams,
        (requestMessages_spec api data).1 messages reads, (check_eq_ok.mp is).1⟩

theorem attempt_object_fails :
    Fails (attempt api (.object data)) ↔ Mishandled api (.object data) := by
  obtain ⟨readsOf, readsOk, readFails, _⟩ := requestMessages_spec api data
  simp only [attempt, request, check_fails, validateRequiredFields_object.1,
    validateRequiredFields_object.2, false_or, Mishandled]
  cases streams : (data.lookup "stream").any Json.truthy with
  | true => simp [pure, Except.pure]
  | false =>
    simp only [Bool.false_eq_true, if_false, check_fails, validateFieldType_fails, false_or,
      validateFieldType_ok, true_and, ← and_assoc, model_iff]
    refine and_congr_right fun _ => ?_
    rw [fails_bind, readFails, or_comm]
    refine or_congr ?_ (by rw [and_assoc])
    constructor
    · rintro ⟨read, reads, fails⟩
      cases read with
      | error response => exact absurd fails (by simp [pure, Except.pure])
      | ok messages =>
        rcases check_fails.mp fails with stumbles | ⟨_, fine⟩
        · exact ⟨messages, readsOf messages reads, validateChatMessages_unexpected.mp stumbles⟩
        · exact absurd fine (by simp [pure, Except.pure])
    · rintro ⟨messages, reads, items, rfl, stumbles⟩
      exact ⟨.ok (.array items), readsOk items reads,
        check_fails.mpr (.inl (validateChatMessages_unexpected.mpr ⟨items, rfl, stumbles⟩))⟩

theorem attempt_of_found (no : ∀ data, body ≠ .object data)
    (found : fieldIn "model" body = .ok true) :
    attempt api body = .error (.unexpected .attributeError) := by
  simp only [attempt, validateRequiredFields, found]
  cases body with
  | object data => exact absurd rfl (no data)
  | _ => rfl

theorem attempt_of_missing (missing : fieldIn "model" body = .ok false) :
    attempt api body = .error (.validation "Missing required parameter: model" "model") := by
  simp only [attempt, validateRequiredFields, missing]
  rfl

theorem attempt_other (no : ∀ data, body ≠ .object data) (truthy : body.truthy = true) :
    (∀ answer, attempt api body ≠ .ok answer) ∧
      (Fails (attempt api body) ↔ Mishandled api body) := by
  cases body with
  | null => simp [Json.truthy] at truthy
  | bool b => exact ⟨by rintro _ ⟨⟩, iff_of_true ⟨_, rfl⟩ truthy⟩
  | number n => exact ⟨by rintro _ ⟨⟩, iff_of_true ⟨_, rfl⟩ (show n ≠ 0 from of_decide_eq_true truthy)⟩
  | string s =>
    by_cases found : Text.contains s.toList "model".toList = true
    · rw [attempt_of_found no (congrArg _ found)]
      exact ⟨by simp, iff_of_true ⟨_, rfl⟩ found⟩
    · rw [attempt_of_missing (congrArg _ (Bool.eq_false_iff.mpr found))]
      exact ⟨by simp, iff_of_false (by simp) found⟩
  | array items =>
    by_cases found : ∃ item ∈ items, asString (some item) = some "model"
    · have there : fieldIn "model" (.array items) = .ok true :=
        congrArg Except.ok (List.any_eq_true.mpr (by simpa using found))
      rw [attempt_of_found no there]
      exact ⟨by simp, iff_of_true ⟨_, rfl⟩ found⟩
    · have missing : fieldIn "model" (.array items) = .ok false :=
        congrArg Except.ok (List.any_eq_false.mpr (by simpa using found))
      rw [attempt_of_missing missing]
      exact ⟨by simp, iff_of_false (by simp) found⟩
  | object data => exact absurd rfl (no data)

theorem attempt_spec (truthy : body.truthy = true) :
    (∀ answer, attempt api body = .ok answer → Refused answer ∨ ValidBody api body) ∧
      (Fails (attempt api body) ↔ Mishandled api body) := by
  by_cases is : ∃ data, body = .object data
  · obtain ⟨data, rfl⟩ := is
    exact ⟨fun _ => attempt_object_ok, attempt_object_fails⟩
  · push Not at is
    exact ⟨fun answer same => absurd same ((attempt_other is truthy).1 answer),
      (attempt_other is truthy).2⟩

theorem truthy_of_mishandled (mishandled : Mishandled api body) : body.truthy = true := by
  cases body with
  | null => exact mishandled.elim
  | bool b => exact mishandled
  | number n => exact decide_eq_true mishandled
  | string s =>
    refine decide_eq_true ?_
    rintro rfl
    exact absurd (show Text.contains "".toList "model".toList = true from mishandled) (by decide)
  | array items =>
    obtain ⟨item, member, _⟩ := mishandled
    cases items with
    | nil => simp at member
    | cons => rfl
  | object data =>
    obtain ⟨⟨model, is⟩, _⟩ := mishandled
    cases data with
    | nil => simp at is
    | cons => rfl

theorem handle_mishandled (mishandled : Mishandled api body) :
    ∃ response, handleChatCompletionRequest api body = .error response ∧
      response.statusCode = 500 := by
  have truthy := truthy_of_mishandled mishandled
  obtain ⟨kind, is⟩ := (attempt_spec truthy).2.mpr mishandled
  refine ⟨⟨s!"Internal server error: {api.describe kind}", "server_error", none, none, 500⟩, ?_, rfl⟩
  rw [handleChatCompletionRequest, if_pos truthy, is]

theorem attempt_of_valid (valid : ValidBody api body) : ∃ answer, attempt api body = .ok answer := by
  obtain ⟨data, model, messages, rfl, named, streams, reads, accepted⟩ := valid
  obtain ⟨items, rfl, _⟩ := validateChatMessages_ok.mp accepted
  obtain ⟨there, typed⟩ := model_iff.mpr ⟨model, named⟩
  refine ⟨provide api data ((asString (data.lookup "model")).getD "") (.array items),
    check_eq_ok.mpr ⟨validateRequiredFields_object.1.mpr there, ?_⟩⟩
  simp only [request, streams, Bool.false_eq_true, if_false]
  refine check_eq_ok.mpr ⟨validateFieldType_ok.mpr typed, bind_eq_ok.mpr ⟨_,
    (requestMessages_spec api data).2.1 items reads, check_eq_ok.mpr ⟨accepted, rfl⟩⟩⟩

theorem invalid_of_mishandled (mishandled : Mishandled api body) : ¬ ValidBody api body := by
  intro valid
  obtain ⟨answer, is⟩ := attempt_of_valid valid
  obtain ⟨kind, is'⟩ := (attempt_spec (truthy_of_mishandled mishandled)).2.mpr mishandled
  cases is.symm.trans is'

theorem handle_other (handled : ¬ Mishandled api body) :
    Refused (handleChatCompletionRequest api body) ∨ ValidBody api body := by
  unfold handleChatCompletionRequest
  by_cases truthy : body.truthy = true
  · rw [if_pos truthy]
    cases result : attempt api body with
    | ok answer => exact (attempt_spec truthy).1 answer result
    | error raised =>
      cases raised with
      | validation message field => exact .inl ⟨_, rfl, rfl⟩
      | unexpected kind => exact absurd ((attempt_spec truthy).2.mp ⟨kind, result⟩) handled
  · rw [if_neg truthy]
    exact .inl ⟨_, rfl, rfl⟩

/-- The provider is called for valid bodies only; and every other body gets the status 400 without a
call of the provider exactly if it is not mishandled. -/
theorem provider_call_iff (api : Api) (body : Json) :
    ((∃ call, handleChatCompletionRequest api body = .provider call) → ValidBody api body) ∧
    ((¬ ValidBody api body → ∃ response,
        handleChatCompletionRequest api body = .error response ∧ response.statusCode = 400) ↔
      ¬ Mishandled api body) := by
  refine ⟨?_, ?_, ?_⟩
  · rintro ⟨call, is⟩
    by_cases mishandled : Mishandled api body
    · obtain ⟨response, is', _⟩ := handle_mishandled mishandled
      cases is.symm.trans is'
    · rcases handle_other mishandled with ⟨response, is', _⟩ | valid
      · cases is.symm.trans is'
      · exact valid
  · intro refused mishandled
    obtain ⟨response, is, status⟩ := handle_mishandled mishandled
    obtain ⟨response', is', status'⟩ := refused (invalid_of_mishandled mishandled)
    cases is.symm.trans is'
    simp [status] at status'
  · intro handled invalid
    exact (handle_other handled).resolve_right invalid

/-- An interface that decrypts nothing. -/
def sampleApi : Api where
  decrypt _ _ _ := none
  loads _ := .decodeError
  display _ := ""
  describe _ := ""
  aliases := []
  models := []
  blocklist := none
  providerPath _ := .ok "local"

/-- A message with a block of text whose type is a list. -/
def listTypeMessage : Json :=
  .object [("role", .string "user"),
    ("content", .array [.object [("type", .array [.string "text"]), ("text", .string "hi")]])]

def listTypeBody : Json :=
  .object [("model", .string "m"), ("messages", .array [listTypeMessage])]

theorem listTypeBody_mishandled : Mishandled sampleApi listTypeBody := by
  refine ⟨⟨"m", rfl⟩, rfl, .inl ⟨.array [listTypeMessage], .inl ⟨nofun, rfl⟩, _, rfl, ?_⟩⟩
  refine ⟨[], listTypeMessage, [], rfl, nofun, _, ⟨_, "user", rfl, rfl, by decide, rfl⟩, ?_⟩
  exact ⟨[], _, [], rfl, nofun, _, rfl, trivial⟩

/-- A body that is not valid gets a server error. -/
theorem list_type_server_error : ¬ ValidBody sampleApi listTypeBody ∧
    ∃ response, handleChatCompletionRequest sampleApi listTypeBody = .error response ∧
      response.statusCode = 500 :=
  ⟨invalid_of_mishandled listTypeBody_mishandled, handle_mishandled listTypeBody_mishandled⟩

end ChatValidation
