import Mathlib.Data.Finset.Insert

/-!
# Encrypted streaming sessions

`encrypt_stream_chunk` and `decrypt_stream_chunk` keep a `StreamSession` on either end. The
first chunk makes the session and carries the wrapped AES key, the later ones use the key,
the mode and the associated data of the session. The functions change the session in place,
so a call is a function from the session before to what it returns or raises and the session
after.

AES and RSA are those of a library. `Ciphers` are its operations and `Ciphers.Inverse` is
what is assumed about them.
-/

namespace Encrypt

abbrev Bytes := List UInt8

/-- `AES_KEY_SIZE`. -/
def aesKeySize : Nat := 32

/-- `IV_SIZE`. -/
def ivSize : Nat := 16

/-- `GCM_IV_SIZE`. -/
def gcmIvSize : Nat := 12

/-! ## The library -/

/-- The operations of the library. One that raises gives nothing. Without associated data
GCM gets none to authenticate, which is what it does with an empty one. -/
structure Ciphers where
  cbcEncrypt (key iv padded : Bytes) : Bytes
  cbcDecrypt (key iv ciphertext : Bytes) : Option Bytes
  gcmEncrypt (key iv associatedData plaintext : Bytes) : Bytes × Bytes
  gcmDecrypt (key iv tag associatedData ciphertext : Bytes) : Option Bytes
  wrapKey (publicKey : Bytes) (usePkcs1v15 : Bool) (seed aesKey : Bytes) : Option Bytes
  unwrapKey (privateKey encryptedKey : Bytes) : Option Bytes

/-- Decryption inverts encryption under the same key and IV, GCM rejects another tag and
other associated data, and the private key unwraps what the public one has wrapped. -/
structure Ciphers.Inverse (c : Ciphers) (publicKey privateKey : Bytes) : Prop where
  cbc : ∀ key iv padded, key.length = aesKeySize → iv.length = ivSize → 16 ∣ padded.length →
    c.cbcDecrypt key iv (c.cbcEncrypt key iv padded) = some padded
  gcm : ∀ key iv ad plaintext, key.length = aesKeySize → iv.length = gcmIvSize →
    c.gcmDecrypt key iv (c.gcmEncrypt key iv ad plaintext).2 ad
      (c.gcmEncrypt key iv ad plaintext).1 = some plaintext
  gcmTag : ∀ key iv ad plaintext tag, tag ≠ (c.gcmEncrypt key iv ad plaintext).2 →
    c.gcmDecrypt key iv tag ad (c.gcmEncrypt key iv ad plaintext).1 = none
  gcmData : ∀ key iv ad plaintext other, other ≠ ad →
    c.gcmDecrypt key iv (c.gcmEncrypt key iv ad plaintext).2 other
      (c.gcmEncrypt key iv ad plaintext).1 = none
  rsa : ∀ usePkcs1v15 seed aesKey wrapped,
    c.wrapKey publicKey usePkcs1v15 seed aesKey = some wrapped →
      c.unwrapKey privateKey wrapped = some aesKey

/-- What one call draws from `secrets.token_bytes`: an AES key, the seed of the wrapping and
an IV of each size for each attempt. -/
structure TokenBytes where
  aesKey : Bytes
  seed : Bytes
  iv (size attempt : Nat) : Bytes
  aesKey_length : aesKey.length = aesKeySize
  iv_length : ∀ size attempt, (iv size attempt).length = size

/-! ## Chunks -/

/-- The modes that `_normalise_mode` accepts. -/
inductive Mode
  | cbc
  | gcm
deriving DecidableEq

/-- `_normalise_mode`. -/
def normaliseMode (cipherMode : Option String) : Except String Mode :=
  match ((cipherMode.filter (· ≠ "")).getD "CBC").toUpper with
  | "CBC" => .ok .cbc
  | "GCM" => .ok .gcm
  | _ => .error ("Unsupported cipher_mode: " ++ cipherMode.getD "None")

/-- A `ciphertext_dict`. -/
structure CiphertextDict where
  ciphertext : Option Bytes
  iv : Option Bytes
  tag : Option Bytes
  mode : Option String
deriving DecidableEq

/-- `pkcs7_pad`, with blocks of 16 bytes. -/
def pkcs7Pad (data : Bytes) : Bytes :=
  let paddingLength := 16 - data.length % 16
  data ++ List.replicate paddingLength (UInt8.ofNat paddingLength)

/-- `pkcs7_unpad`, with blocks of 16 bytes. -/
def pkcs7Unpad (padded : Bytes) : Except String Bytes :=
  match padded.getLast? with
  | none => .error "Invalid padding"
  | some last =>
    if padded.length % 16 ≠ 0 then .error "Invalid padding length"
    else if last.toNat = 0 ∨ 16 < last.toNat then .error "Invalid padding"
    else if padded.drop (padded.length - last.toNat) ≠ List.replicate last.toNat last then
      .error "Invalid padding"
    else .ok (padded.take (padded.length - last.toNat))

/-- The size of the IV that `_encrypt_with_key` draws. -/
def Mode.ivSize : Mode → Nat
  | .cbc => Encrypt.ivSize
  | .gcm => gcmIvSize

/-- `_encrypt_with_key`, with the IV that it draws. -/
def encryptWithKey (c : Ciphers) (plaintext aesKey : Bytes) (mode : Mode)
    (associatedData : Option Bytes) (iv : Bytes) : CiphertextDict :=
  match mode with
  | .cbc => ⟨some (c.cbcEncrypt aesKey iv (pkcs7Pad plaintext)), some iv, none, none⟩
  | .gcm =>
    let (ciphertext, tag) := c.gcmEncrypt aesKey iv (associatedData.getD []) plaintext
    ⟨some ciphertext, some iv, some tag, some "GCM"⟩

/-- `_decrypt_with_key`. -/
def decryptWithKey (c : Ciphers) (chunk : CiphertextDict) (aesKey : Bytes) (mode : Mode)
    (associatedData : Option Bytes) : Except String Bytes :=
  match chunk.ciphertext, chunk.iv with
  | none, _ => .error "Missing required field: ciphertext"
  | _, none => .error "Missing required field: iv"
  | some ciphertext, some iv =>
    match mode with
    | .cbc =>
      match c.cbcDecrypt aesKey iv ciphertext with
      | none => .error "decryption failed"
      | some padded => pkcs7Unpad padded
    | .gcm =>
      match chunk.tag with
      | none => .error "Missing required field: tag"
      | some tag =>
        match c.gcmDecrypt aesKey iv tag (associatedData.getD []) ciphertext with
        | none => .error "decryption failed"
        | some plaintext => .ok plaintext

/-! ## Sessions -/

/-- `StreamSession`. -/
structure StreamSession where
  aesKey : Bytes
  cipherMode : Mode
  associatedData : Option Bytes
  lastIv : Option Bytes
  chunkIndex : Nat
  usedIvs : Finset Bytes
deriving DecidableEq

/-- A session that has just been made. -/
def StreamSession.fresh (aesKey : Bytes) (cipherMode : Mode) (associatedData : Option Bytes) :
    StreamSession :=
  ⟨aesKey, cipherMode, associatedData, none, 0, ∅⟩

/-- The three updates at the end of both functions. -/
def StreamSession.advance (s : StreamSession) (iv : Bytes) : StreamSession :=
  { s with usedIvs := insert iv s.usedIvs, lastIv := some iv, chunkIndex := s.chunkIndex + 1 }

/-- The tests of an existing session: its mode and its associated data. -/
def checkSession (s : StreamSession) (cipherMode : Option String)
    (associatedData : Option Bytes) : Except String Unit :=
  match cipherMode.map fun mode => normaliseMode (some mode) with
  | some (.error e) => .error e
  | some (.ok mode) =>
    if mode ≠ s.cipherMode then .error "cipher_mode mismatch for existing streaming session"
    else if ∃ ad ∈ associatedData, ad ≠ s.associatedData.getD [] then
      .error "associated_data mismatch for existing streaming session"
    else .ok ()
  | none =>
    if ∃ ad ∈ associatedData, ad ≠ s.associatedData.getD [] then
      .error "associated_data mismatch for existing streaming session"
    else .ok ()

/-- The arguments of `encrypt_stream_chunk`, and what it draws. -/
structure EncryptCall where
  plaintext : Bytes
  usePkcs1v15 : Bool
  cipherMode : Option String
  associatedData : Option Bytes
  draws : TokenBytes

/-- The loop over `max_iv_attempts`: the first IV that the session has not used. -/
def deriveIv (s : StreamSession) (draws : TokenBytes) : Option Bytes :=
  ((List.range 5).map (draws.iv s.cipherMode.ivSize)).find? fun iv => iv ∉ s.usedIvs

/-- The end of `encrypt_stream_chunk`. -/
def encryptInSession (c : Ciphers) (call : EncryptCall) (encryptedKey : Option Bytes)
    (s : StreamSession) : Except String (CiphertextDict × Option Bytes) × StreamSession :=
  match deriveIv s call.draws with
  | none => (.error "Failed to derive a unique IV for the streaming chunk", s)
  | some iv =>
    (.ok (encryptWithKey c call.plaintext s.aesKey s.cipherMode s.associatedData iv, encryptedKey),
      s.advance iv)

/-- `encrypt_stream_chunk`. A session that it has made is lost when it raises. -/
def encryptStreamChunk (c : Ciphers) (publicKey : Bytes) (call : EncryptCall) :
    Option StreamSession → Except String (CiphertextDict × Option Bytes) × Option StreamSession
  | none =>
    match normaliseMode call.cipherMode with
    | .error e => (.error e, none)
    | .ok mode =>
      match c.wrapKey publicKey call.usePkcs1v15 call.draws.seed call.draws.aesKey with
      | none => (.error "key wrapping failed", none)
      | some encryptedKey =>
        match encryptInSession c call (some encryptedKey)
            (.fresh call.draws.aesKey mode call.associatedData) with
        | (.error e, _) => (.error e, none)
        | (.ok chunk, s) => (.ok chunk, some s)
  | some s =>
    match checkSession s call.cipherMode call.associatedData with
    | .error e => (.error e, some s)
    | .ok () => ((encryptInSession c call none s).1, some (encryptInSession c call none s).2)

/-- The arguments of `decrypt_stream_chunk`. -/
structure DecryptCall where
  chunk : CiphertextDict
  encryptedKey : Option Bytes
  cipherMode : Option String
  associatedData : Option Bytes
deriving DecidableEq

/-- The end of `decrypt_stream_chunk`. -/
def decryptInSession (c : Ciphers) (call : DecryptCall) (s : StreamSession) :
    Except String Bytes × StreamSession :=
  match decryptWithKey c call.chunk s.aesKey s.cipherMode s.associatedData with
  | .error e => (.error e, s)
  | .ok plaintext =>
    let iv := call.chunk.iv.getD []
    if iv ∈ s.usedIvs then (.error "Repeated IV detected for streaming chunk", s)
    else (.ok plaintext, s.advance iv)

/-- `decrypt_stream_chunk`. -/
def decryptStreamChunk (c : Ciphers) (privateKey : Bytes) (call : DecryptCall) :
    Option StreamSession → Except String Bytes × Option StreamSession
  | none =>
    match call.encryptedKey with
    | none => (.error "encrypted_key is required for the first streaming chunk", none)
    | some encryptedKey =>
      match normaliseMode ((call.cipherMode.filter (· ≠ "")).or call.chunk.mode) with
      | .error e => (.error e, none)
      | .ok mode =>
        match c.unwrapKey privateKey encryptedKey with
        | none => (.error "key unwrapping failed", none)
        | some aesKey =>
          match decryptInSession c call (.fresh aesKey mode call.associatedData) with
          | (.error e, _) => (.error e, none)
          | (.ok plaintext, s) => (.ok plaintext, some s)
  | some s =>
    match checkSession s call.cipherMode call.associatedData with
    | .error e => (.error e, some s)
    | .ok () =>
      if call.encryptedKey.isSome then
        (.error "encrypted_key should be omitted when reusing a streaming session", some s)
      else ((decryptInSession c call s).1, some (decryptInSession c call s).2)

/-- Successive calls on one session, until one raises. -/
def encryptAll (c : Ciphers) (publicKey : Bytes) :
    List EncryptCall → Option StreamSession →
      Except String (List (CiphertextDict × Option Bytes)) × Option StreamSession
  | [], s => (.ok [], s)
  | call :: calls, s =>
    match encryptStreamChunk c publicKey call s with
    | (.error e, s) => (.error e, s)
    | (.ok chunk, s) =>
      match encryptAll c publicKey calls s with
      | (.error e, s) => (.error e, s)
      | (.ok chunks, s) => (.ok (chunk :: chunks), s)

/-- Successive calls on one session, whether they raise or not. -/
def decryptAll (c : Ciphers) (privateKey : Bytes) :
    List DecryptCall → Option StreamSession → List (Except String Bytes) × Option StreamSession
  | [], s => ([], s)
  | call :: calls, s =>
    let (result, s) := decryptStreamChunk c privateKey call s
    let (results, s) := decryptAll c privateKey calls s
    (result :: results, s)

/-! ## Whole payloads -/

/-- `encrypt`. -/
def encrypt (c : Ciphers) (publicKey : Bytes) (call : EncryptCall) :
    Except String (CiphertextDict × Bytes × Bytes) :=
  match normaliseMode call.cipherMode with
  | .error e => .error e
  | .ok mode =>
    let chunk := encryptWithKey c call.plaintext call.draws.aesKey mode call.associatedData
      (call.draws.iv mode.ivSize 0)
    match c.wrapKey publicKey call.usePkcs1v15 call.draws.seed call.draws.aesKey with
    | none => .error "key wrapping failed"
    | some encryptedKey => .ok (chunk, encryptedKey, chunk.iv.getD [])

/-- `mode_hint`: a payload with a tag and no mode is taken for a GCM one. -/
def DecryptCall.modeHint (call : DecryptCall) : Option String :=
  ((call.cipherMode.filter (· ≠ "")).or call.chunk.mode).or (call.chunk.tag.map fun _ => "GCM")

/-- `decrypt`. -/
def decrypt (c : Ciphers) (privateKey : Bytes) (call : DecryptCall) :
    Except String (Option Bytes) :=
  match call.encryptedKey, normaliseMode call.modeHint with
  | none, _ => .error "encrypted_key must be bytes-like"
  | _, .error e => .error e
  | some encryptedKey, .ok mode =>
    if call.chunk.ciphertext = none then .error "Missing required field: ciphertext"
    else if call.chunk.iv = none then .error "Missing required field: iv"
    else if mode = .gcm ∧ call.chunk.tag = none then .error "Missing required field: tag"
    else .ok ((c.unwrapKey privateKey encryptedKey).bind fun aesKey =>
      (decryptWithKey c call.chunk aesKey mode call.associatedData).toOption)

end Encrypt
