import TokenPlace.StateStore.Types

/-!
# Digests, tokens and argument checks

The helpers of `InMemoryRelayStateStore` that look at arguments only: the
domain-separated digests, the derived acknowledgement token, the serialized
envelopes and the validators, each with the message it raises.

`hashlib`, `hmac`, `struct` and the Unicode methods of `str` are parameters
(`Runtime`). `CollisionFree` and `NoZeroDigest` are the cryptographic
assumptions; they are only used where a statement names them.
-/

namespace StateStore

/-- The library functions that the store calls. `sha256` and `hmacSha256`
return hexadecimal digests, `packDouble` is `struct.pack("!d", x)`, and
`stripLower` is `str.strip().lower()`. -/
structure Runtime where
  sha256 : List UInt8 → String
  hmacSha256 : List UInt8 → List UInt8 → String
  packDouble : Epoch → List UInt8
  stripLower : String → String

/-- Different texts have different digests. -/
def Runtime.CollisionFree (rt : Runtime) : Prop := Function.Injective rt.sha256

/-- The digest that stands for a malformed token: sixty-four zeros. -/
def zeroDigest : String :=
  "0000000000000000000000000000000000000000000000000000000000000000"

/-- No text is known whose digest is sixty-four zeros. -/
def Runtime.NoZeroDigest (rt : Runtime) : Prop := ∀ bytes, rt.sha256 bytes ≠ zeroDigest

/-- What `InMemoryRelayStateStore.__init__` fixes for the life of a store. -/
structure StoreEnv where
  runtime : Runtime
  config : RelayStateStoreConfig
  acknowledgementKey : List UInt8
  config_ok : config.postInit = .ok ()
  key_length : 32 ≤ acknowledgementKey.length

theorem StoreEnv.durations (env : StoreEnv) : env.config.Durations :=
  RelayStateStoreConfig.durations_of_postInit env.config_ok

/-! ## Serialization -/

/-- Four lowercase hexadecimal digits. -/
def hex4 (n : Nat) : String :=
  let digit := fun d : Nat => Char.ofNat (if d < 10 then 48 + d else 87 + d)
  String.ofList [digit (n / 4096 % 16), digit (n / 256 % 16), digit (n / 16 % 16), digit (n % 16)]

/-- One character of a JSON string written with `ensure_ascii=False`. -/
def jsonChar (c : Char) : String :=
  if c = '"' then "\\\""
  else if c = '\\' then "\\\\"
  else if c = '\n' then "\\n"
  else if c = '\r' then "\\r"
  else if c = '\t' then "\\t"
  else if c = '\x08' then "\\b"
  else if c = '\x0c' then "\\f"
  else if c.toNat < 32 then "\\u" ++ hex4 c.toNat
  else String.singleton c

/-- A JSON string. -/
def jsonString (s : String) : String :=
  "\"" ++ String.join (s.toList.map jsonChar) ++ "\""

/-- `"protocol"` and `"version"` as they appear in every serialized envelope. -/
def protocolText : String := "tokenplace_api_v1_relay_e2ee"

/-- `json.dumps` of a request envelope, keys in the order of the source. -/
def serializedRequestEnvelope (e : EncryptedEnvelope) : String :=
  "\x7b\"protocol\":" ++ jsonString protocolText ++ ",\"version\":1,\"ciphertext\":" ++
    jsonString e.ciphertext ++ ",\"cipherkey\":" ++ jsonString e.cipherkey ++ ",\"iv\":" ++
    jsonString e.iv ++ "\x7d"

/-- `_serialized_response_envelope`: the keys are sorted. -/
def serializedResponseEnvelope (e : EncryptedEnvelope) : String :=
  "\x7b\"cipherkey\":" ++ jsonString e.cipherkey ++ ",\"ciphertext\":" ++
    jsonString e.ciphertext ++ ",\"iv\":" ++ jsonString e.iv ++ ",\"protocol\":" ++
    jsonString protocolText ++ ",\"version\":1\x7d"

/-- The value of a hexadecimal digit. -/
def hexValue (b : UInt8) : Nat := if b.toNat < 58 then b.toNat - 48 else b.toNat - 87

/-- `bytes.fromhex` of the bytes of a hexadecimal digest. -/
def fromHex : List UInt8 → List UInt8
  | a :: b :: rest => UInt8.ofNat (16 * hexValue a + hexValue b) :: fromHex rest
  | _ => []

section

variable (env : StoreEnv)

/-! ## Digests -/

/-- `_identity_digest`. -/
def identityDigest (value domain : String) : Except StoreError String :=
  if value = "" ∨ env.config.maxIdentityBytes < value.utf8ByteSize then
    .error (storeError "request identity is invalid")
  else .ok (env.runtime.sha256 (utf8 domain ++ utf8 value))

/-- `_identity`. -/
def identityOf (clientPublicKey requestId : String) : Except StoreError Identity := do
  let client ← identityDigest env clientPublicKey "client\x00"
  let request ← identityDigest env requestId "request\x00"
  return (client, request)

/-- The digest of an admissible consumer identity. -/
def consumerDigestOf (value : String) : String :=
  env.runtime.sha256 (utf8 "consumer\x00" ++ utf8 value)

/-- `_consumer_digest`. -/
def consumerDigest (value : String) : Except StoreError String :=
  if value = "" ∨ env.config.maxConsumerIdentityBytes < value.utf8ByteSize then
    .error (storeError "consumer identity is invalid")
  else .ok (consumerDigestOf env value)

/-- `_model_id`. -/
def modelId (value : String) : Except StoreError String :=
  let normalized := env.runtime.stripLower value
  if normalized = "" ∨ env.config.maxModelIdBytes < normalized.utf8ByteSize then
    .error (storeError "requested model is invalid")
  else .ok normalized

/-- `_context_tier`. -/
def contextTier (value : String) : Except StoreError ContextTier :=
  match ContextTier.ofText? (env.runtime.stripLower value) with
  | some tier => .ok tier
  | none => .error (storeError "requested context tier is invalid")

/-- `_scheduler_fingerprint`. -/
def schedulerFingerprint (model : String) (tier : ContextTier) : String :=
  env.runtime.sha256 (utf8 (model ++ "\x00" ++ tier.text))

/-- The digest of a well-formed reservation token. -/
def tokenDigestOf (token : String) : String := env.runtime.sha256 (utf8 token)

/-- `_token_digest`. -/
def tokenDigest (token : String) : Except StoreError String :=
  if isSha256Hex token then .ok (tokenDigestOf env token)
  else .error (invalidReservation "reservation invalid")

/-- `_cancellation_token_digest`. -/
def cancellationTokenDigest (token : String) : Except StoreError String :=
  if token = "" ∨ env.config.maxCancellationTokenBytes < token.utf8ByteSize then
    .error (storeError "cancellation proof is invalid")
  else .ok (env.runtime.sha256 (utf8 "cancel\x00" ++ utf8 token))

/-- `_safe_cancellation_token_digest`: an absent or invalid token has the zero digest. -/
def safeCancellationTokenDigest (token : Option String) : String :=
  match token with
  | none => zeroDigest
  | some t =>
    match cancellationTokenDigest env t with
    | .ok d => d
    | .error _ => zeroDigest

/-- `_safe_retrieval_credential_digest`. -/
def safeRetrievalCredentialDigest (credential : String) : String :=
  if isSha256Hex credential then tokenDigestOf env credential else zeroDigest

/-- `_node_digest`. -/
def nodeDigest (nodeId : String) : String :=
  env.runtime.sha256 (utf8 "node\x00" ++ utf8 nodeId)

theorem nodeDigest_injective {env : StoreEnv} (h : env.runtime.CollisionFree) {n m : String}
    (heq : nodeDigest env n = nodeDigest env m) : n = m :=
  utf8_injective (List.append_cancel_left (h heq))

/-! ## Acknowledgement tokens -/

/-- `_derive_acknowledgement_token`. -/
def deriveAcknowledgementToken (identity : Identity) (acceptedAtEpoch : Epoch)
    (responseDigest : String) : String :=
  env.runtime.hmacSha256 env.acknowledgementKey
    (utf8 "token.place/relay-response-ack/v1\x00" ++ fromHex (utf8 identity.1) ++
      fromHex (utf8 identity.2) ++ env.runtime.packDouble acceptedAtEpoch ++
      fromHex (utf8 responseDigest))

/-- `_acknowledgement_digest`. -/
def acknowledgementDigest (token : String) : String := env.runtime.sha256 (utf8 token)

/-- `_safe_acknowledgement_digest`. -/
def safeAcknowledgementDigest (token : String) : String :=
  if isSha256Hex token then acknowledgementDigest env token else zeroDigest

/-- `_acknowledgement_matches`. -/
def acknowledgementMatches (identity : Identity) (terminal : TerminalOutcomeRecord)
    (suppliedToken : String) : Bool :=
  let expectedToken := deriveAcknowledgementToken env identity terminal.acceptedAtEpoch
    terminal.responseDigest
  acknowledgementDigest env expectedToken == terminal.acknowledgementDigest &&
    safeAcknowledgementDigest env suppliedToken == terminal.acknowledgementDigest

/-! ## Validators -/

/-- `_validate_node_id`. -/
def validateNodeId (nodeId : String) : Except StoreError Unit :=
  require (nodeId ≠ "" ∧ nodeId.utf8ByteSize ≤ env.config.maxNodeIdBytes)
    (storeError "node ID is empty or exceeds its configured byte bound")

/-- `_validate_digest`. -/
def validateDigest (digest : String) : Except StoreError Unit :=
  require (isSha256Hex digest)
    (storeError "control credential digest must be lowercase SHA-256 hex")

/-- `_deadline`. -/
def deadline (value : Epoch) : Except StoreError Epoch :=
  if isfinite value then .ok value else .error (storeError "request deadline must be finite")

/-- `_now`, given what the clock returned. -/
def nowOf (clock : Epoch) : Except StoreError Epoch :=
  if isfinite clock then .ok clock
  else .error (storeError "epoch clock must return a finite number")

/-- `_lease_deadline`. -/
def leaseDeadline (now : Epoch) : Except StoreError Epoch :=
  if isfiniteSum (now + env.config.leaseTtlSeconds) then .ok (now + env.config.leaseTtlSeconds)
  else .error (storeError "lease deadline must be finite")

/-- `_validate_envelope_size`. -/
def validateEnvelopeSize (e : EncryptedEnvelope) : Except StoreError Unit :=
  require ((serializedRequestEnvelope e).utf8ByteSize ≤ env.config.maxEnvelopeBytes)
    (storeError "encrypted envelope exceeds its configured byte bound")

/-- The check of `generation` in the claim methods. -/
def validateGeneration (generation : Nat) : Except StoreError Unit :=
  require (1 ≤ generation) (storeError "claim generation is invalid")

end

end StateStore
