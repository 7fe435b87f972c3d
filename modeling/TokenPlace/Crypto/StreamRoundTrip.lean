import TokenPlace.Crypto.StreamSession

/-!
# A stream comes back chunk by chunk

After every chunk that is read the session of the reader is the session of the writer
(`decrypt_of_encrypt`), so a whole stream comes back by induction. A call that raises leaves
the session as it was, and it raises exactly when the chunk or its arguments are bad. `encrypt`
and `decrypt` do in one call what the first chunk of a stream does.
-/

namespace Encrypt

variable {c : Ciphers} {publicKey privateKey : Bytes} {s s' : StreamSession}

/-! ## Padding -/

theorem pkcs7Pad_length (data : Bytes) : 16 ∣ (pkcs7Pad data).length := by
  simp only [pkcs7Pad, List.length_append, List.length_replicate]
  omega

theorem pkcs7Unpad_pad (data : Bytes) : pkcs7Unpad (pkcs7Pad data) = .ok data := by
  obtain ⟨n, length⟩ : ∃ n, 16 - data.length % 16 = n := ⟨_, rfl⟩
  have small : n % 256 = n := by omega
  have value : (UInt8.ofNat n).toNat = n := by rw [UInt8.toNat_ofNat']; exact small
  have last : (data ++ List.replicate n (UInt8.ofNat n)).getLast? = some (UInt8.ofNat n) := by
    rw [List.getLast?_append, List.getLast?_replicate, if_neg (by omega)]
    rfl
  have whole : (data ++ List.replicate n (UInt8.ofNat n)).length = data.length + n := by simp
  simp only [pkcs7Pad, pkcs7Unpad, length, last, value, whole, Nat.add_sub_cancel,
    List.drop_left, List.take_left]
  rw [if_neg (by omega), if_neg (by omega), if_neg (not_not.mpr rfl)]

/-! ## One chunk -/

theorem deriveIv_spec {draws : TokenBytes} {iv : Bytes} (found : deriveIv s draws = some iv) :
    iv ∉ s.usedIvs ∧ iv.length = s.cipherMode.ivSize := by
  constructor
  · simpa using List.find?_some found
  · obtain ⟨attempt, _, rfl⟩ := List.mem_map.mp (List.mem_of_find?_eq_some found)
    exact draws.iv_length _ _

@[simp] theorem encryptWithKey_iv (plaintext aesKey : Bytes) (mode : Mode)
    (associatedData : Option Bytes) (iv : Bytes) :
    (encryptWithKey c plaintext aesKey mode associatedData iv).iv = some iv := by
  cases mode <;> rfl

variable {session session' : Option StreamSession} {out : CiphertextDict × Option Bytes}
  {outs : List (CiphertextDict × Option Bytes)} {call : EncryptCall} {mode : Mode} {e : String}

theorem decryptWithKey_encryptWithKey (inverse : c.Inverse publicKey privateKey)
    (plaintext : Bytes) {aesKey iv : Bytes} (associatedData : Option Bytes)
    (key_length : aesKey.length = aesKeySize) (iv_length : iv.length = mode.ivSize) :
    decryptWithKey c (encryptWithKey c plaintext aesKey mode associatedData iv) aesKey mode
      associatedData = .ok plaintext := by
  cases mode with
  | cbc =>
    simp only [encryptWithKey, decryptWithKey,
      inverse.cbc aesKey iv _ key_length iv_length (pkcs7Pad_length plaintext)]
    exact pkcs7Unpad_pad plaintext
  | gcm =>
    simp only [encryptWithKey, decryptWithKey,
      inverse.gcm aesKey iv _ plaintext key_length iv_length]

theorem encryptInSession_ok {encryptedKey : Option Bytes}
    (returned : encryptInSession c call encryptedKey s = (.ok out, s')) :
    ∃ iv, iv ∉ s.usedIvs ∧ iv.length = s.cipherMode.ivSize ∧ s' = s.advance iv ∧
      out = (encryptWithKey c call.plaintext s.aesKey s.cipherMode s.associatedData iv,
        encryptedKey) := by
  unfold encryptInSession at returned
  split at returned
  · cases returned
  · next iv found =>
    obtain ⟨unused, length⟩ := deriveIv_spec found
    cases returned
    exact ⟨iv, unused, length, rfl, rfl⟩

theorem decryptInSession_encrypt (inverse : c.Inverse publicKey privateKey)
    {encryptedKey : Option Bytes}
    (key_length : s.aesKey.length = aesKeySize)
    (returned : encryptInSession c call encryptedKey s = (.ok out, s')) (read : DecryptCall)
    (chunk : read.chunk = out.1) : decryptInSession c read s = (.ok call.plaintext, s') := by
  obtain ⟨iv, unused, iv_length, rfl, rfl⟩ := encryptInSession_ok returned
  simp only [decryptInSession, chunk,
    decryptWithKey_encryptWithKey inverse call.plaintext s.associatedData key_length iv_length,
    encryptWithKey_iv, Option.getD_some, if_neg unused]

/-! ## One call -/

/-- The reader's arguments for a chunk: the chunk and the key of the writer's output, its
associated data, and its mode or none. -/
def readCall (call : EncryptCall) (out : CiphertextDict × Option Bytes) (withMode : Bool) :
    DecryptCall :=
  ⟨out.1, out.2, if withMode then call.cipherMode else none, call.associatedData⟩

/-- What every session on the way satisfies. -/
def Keyed (session : Option StreamSession) : Prop :=
  ∀ s ∈ session, s.aesKey.length = aesKeySize

theorem checkSession_without_mode {cipherMode : Option String} {ad : Option Bytes}
    (passes : checkSession s cipherMode ad = .ok ()) (withMode : Bool) :
    checkSession s (if withMode then cipherMode else none) ad = .ok () := by
  cases withMode with
  | true => exact passes
  | false =>
    unfold checkSession at passes
    simp only [checkSession, Bool.false_eq_true, if_false, Option.map_none]
    split at passes
    · cases passes
    · split at passes
      · cases passes
      · exact passes
    · exact passes

theorem normaliseMode_encryptWithKey (c : Ciphers) (plaintext aesKey : Bytes) (mode : Mode)
    (associatedData : Option Bytes) (iv : Bytes) :
    normaliseMode (encryptWithKey c plaintext aesKey mode associatedData iv).mode = .ok mode := by
  cases mode with
  | cbc =>
    show normaliseMode none = .ok .cbc
    decide +kernel
  | gcm =>
    show normaliseMode (some "GCM") = .ok .gcm
    decide +kernel

theorem normaliseMode_read {cipherMode named : Option String}
    (modes : normaliseMode cipherMode = .ok mode) (default_ : normaliseMode named = .ok mode)
    (withMode : Bool) :
    normaliseMode (((if withMode then cipherMode else none).filter (· ≠ "")).or named) =
      .ok mode := by
  cases withMode with
  | false => exact default_
  | true =>
    rw [if_pos rfl]
    cases given : cipherMode.filter (· ≠ "") with
    | none => exact default_
    | some m =>
      rw [(Option.filter_eq_some_iff.mp given).1] at modes
      exact modes

theorem decrypt_of_encrypt (inverse : c.Inverse publicKey privateKey) (keyed : Keyed session)
    (returned : encryptStreamChunk c publicKey call session = (.ok out, session'))
    (withMode : Bool) :
    decryptStreamChunk c privateKey (readCall call out withMode) session =
      (.ok call.plaintext, session') ∧ Keyed session' := by
  cases session with
  | none =>
    simp only [encryptStreamChunk] at returned
    split at returned
    · cases returned
    · next mode modes =>
      split at returned
      · cases returned
      · next encryptedKey wrapped =>
        split at returned
        · cases returned
        · next chunk s made =>
          obtain ⟨rfl, rfl⟩ : chunk = out ∧ some s = session' := by simpa using returned
          have read := decryptInSession_encrypt inverse call.draws.aesKey_length made
            (readCall call chunk withMode) rfl
          obtain ⟨iv, _, _, rfl, rfl⟩ := encryptInSession_ok made
          have same := normaliseMode_read modes
            (normaliseMode_encryptWithKey c call.plaintext call.draws.aesKey mode
              call.associatedData iv) withMode
          constructor
          · simp only [decryptStreamChunk, readCall, inverse.rsa _ _ _ _ wrapped] at read ⊢
            simp only [StreamSession.fresh] at same read ⊢
            simp only [same, read]
          · rintro s ⟨⟩
            exact call.draws.aesKey_length
  | some s =>
    have key_length := keyed s rfl
    simp only [encryptStreamChunk] at returned
    split at returned
    · cases returned
    · next passes =>
      obtain ⟨made, rfl⟩ := Prod.mk.inj returned
      have made' : encryptInSession c call none s = (.ok out, (encryptInSession c call none s).2) :=
        Prod.ext made rfl
      have read := decryptInSession_encrypt inverse key_length made'
        (readCall call out withMode) rfl
      obtain ⟨iv, _, _, next_, rfl⟩ := encryptInSession_ok made'
      constructor
      · simp only [readCall] at read ⊢
        simp only [decryptStreamChunk, checkSession_without_mode passes withMode, read]
        rfl
      · rintro s' ⟨⟩
        rw [next_]
        exact key_length

/-! ## A stream -/

/-- The IVs that a session has used. -/
def usedIvs (session : Option StreamSession) : Finset Bytes :=
  (session.map (·.usedIvs)).getD ∅

/-- The chunks that a session has counted. -/
def chunkIndex (session : Option StreamSession) : Nat :=
  (session.map (·.chunkIndex)).getD 0

theorem encryptStreamChunk_advances
    (returned : encryptStreamChunk c publicKey call session = (.ok out, session')) :
    ∃ iv, out.1.iv = some iv ∧ iv ∉ usedIvs session ∧
      usedIvs session' = insert iv (usedIvs session) ∧
      chunkIndex session' = chunkIndex session + 1 := by
  cases session with
  | none =>
    simp only [encryptStreamChunk] at returned
    split at returned
    · cases returned
    · split at returned
      · cases returned
      · split at returned
        · cases returned
        · next chunk s made =>
          obtain ⟨rfl, rfl⟩ : chunk = out ∧ some s = session' := by simpa using returned
          obtain ⟨iv, unused, _, rfl, rfl⟩ := encryptInSession_ok made
          exact ⟨iv, encryptWithKey_iv .., unused, rfl, rfl⟩
  | some s =>
    simp only [encryptStreamChunk] at returned
    split at returned
    · cases returned
    · obtain ⟨made, rfl⟩ := Prod.mk.inj returned
      have made' : encryptInSession c call none s = (.ok out, (encryptInSession c call none s).2) :=
        Prod.ext made rfl
      obtain ⟨iv, unused, _, next_, rfl⟩ := encryptInSession_ok made'
      rw [next_]
      exact ⟨iv, encryptWithKey_iv .., unused, rfl, rfl⟩

/-- The reader's calls for a stream. The flags say where it passes the mode. -/
def readCalls :
    List EncryptCall → List (CiphertextDict × Option Bytes) → List Bool → List DecryptCall
  | call :: calls, out :: outs, flags =>
    readCall call out (flags.headD false) :: readCalls calls outs flags.tail
  | _, _, _ => []

theorem encryptAll_cons {calls : List EncryptCall}
    (returned : encryptAll c publicKey (call :: calls) session = (.ok outs, session')) :
    ∃ out outs' middle, outs = out :: outs' ∧
      encryptStreamChunk c publicKey call session = (.ok out, middle) ∧
      encryptAll c publicKey calls middle = (.ok outs', session') := by
  simp only [encryptAll] at returned
  split at returned
  · cases returned
  · next out middle first =>
    split at returned
    · cases returned
    · next outs' last rest =>
      obtain ⟨rfl, rfl⟩ : out :: outs' = outs ∧ last = session' := by simpa using returned
      exact ⟨out, outs', middle, rfl, first, rest⟩

theorem decryptAll_encryptAll (inverse : c.Inverse publicKey privateKey) (calls : List EncryptCall)
    (keyed : Keyed session)
    (returned : encryptAll c publicKey calls session = (.ok outs, session')) (flags : List Bool) :
    decryptAll c privateKey (readCalls calls outs flags) session =
      (calls.map fun call => .ok call.plaintext, session') := by
  induction calls generalizing session outs flags with
  | nil =>
    cases returned
    rfl
  | cons call calls ih =>
    obtain ⟨out, outs', middle, rfl, first, rest⟩ := encryptAll_cons returned
    obtain ⟨read, keyed'⟩ := decrypt_of_encrypt inverse keyed first (flags.headD false)
    simp only [readCalls, decryptAll, read, ih keyed' rest, List.map_cons]

theorem encryptAll_ivs (calls : List EncryptCall)
    (returned : encryptAll c publicKey calls session = (.ok outs, session')) :
    (∀ out ∈ outs, ∃ iv, out.1.iv = some iv ∧ iv ∉ usedIvs session) ∧
      (outs.map (·.1.iv)).Nodup ∧ chunkIndex session' = chunkIndex session + calls.length := by
  induction calls generalizing session outs with
  | nil =>
    cases returned
    exact ⟨nofun, List.nodup_nil, rfl⟩
  | cons call calls ih =>
    obtain ⟨out, outs', middle, rfl, first, rest⟩ := encryptAll_cons returned
    obtain ⟨iv, carries, unused, grown, counted⟩ := encryptStreamChunk_advances first
    obtain ⟨fresh, distinct, total⟩ := ih rest
    refine ⟨?_, ?_, ?_⟩
    · rintro o (_ | ⟨_, later⟩)
      · exact ⟨iv, carries, unused⟩
      · obtain ⟨iv', carries', unused'⟩ := fresh o later
        rw [grown] at unused'
        exact ⟨iv', carries', fun used => unused' (Finset.mem_insert_of_mem used)⟩
    · refine List.nodup_cons.mpr ⟨fun repeated => ?_, distinct⟩
      obtain ⟨o, later, same⟩ := List.mem_map.mp repeated
      obtain ⟨iv', carries', unused'⟩ := fresh o later
      obtain rfl : iv' = iv := Option.some.inj (carries'.symm.trans (same.trans carries))
      rw [grown] at unused'
      exact unused' (Finset.mem_insert_self _ _)
    · rw [total, counted, List.length_cons]
      omega

/-! ## Bad calls -/

/-- A call on a session that is a replay, names another mode or other associated data,
carries a key, or has a chunk that does not decrypt. -/
inductive Bad (c : Ciphers) (call : DecryptCall) (s : StreamSession) : Prop
  | replay (used : call.chunk.iv.getD [] ∈ s.usedIvs)
  | wrongMode {mode : String} (named : call.cipherMode = some mode)
      (other : normaliseMode (some mode) ≠ .ok s.cipherMode)
  | wrongData {ad : Bytes} (given : call.associatedData = some ad)
      (other : ad ≠ s.associatedData.getD [])
  | unexpectedKey (given : call.encryptedKey.isSome)
  | undecryptable (fails : ∀ plaintext,
      decryptWithKey c call.chunk s.aesKey s.cipherMode s.associatedData ≠ .ok plaintext)

theorem checkSession_ok {cipherMode : Option String} {ad : Option Bytes} :
    checkSession s cipherMode ad = .ok () ↔
      (∀ mode, cipherMode = some mode → normaliseMode (some mode) = .ok s.cipherMode) ∧
        ∀ data, ad = some data → data = s.associatedData.getD [] := by
  have data : ∀ {ad : Option Bytes}, (∃ a ∈ ad, a ≠ s.associatedData.getD []) ↔
      ¬ ∀ a, ad = some a → a = s.associatedData.getD [] := by
    intro ad
    cases ad <;> simp
  cases cipherMode with
  | none =>
    simp only [checkSession, Option.map_none, data]
    split <;> simp_all
  | some mode =>
    cases named : normaliseMode (some mode) with
    | error e => simp [checkSession, named]
    | ok mode' =>
      simp only [checkSession, Option.map_some, named, data]
      split
      · simp_all
      · split <;> simp_all

theorem decryptStreamChunk_error {call : DecryptCall} {session : Option StreamSession}
    (raises : (decryptStreamChunk c privateKey call session).1 = .error e) :
    (decryptStreamChunk c privateKey call session).2 = session := by
  cases session with
  | none =>
    simp only [decryptStreamChunk] at raises ⊢
    split at raises
    · rfl
    · split at raises
      · simp_all
      · split at raises
        · simp_all
        · split at raises
          · simp_all
          · cases raises
  | some s =>
    simp only [decryptStreamChunk] at raises ⊢
    split at raises
    · simp_all
    · next passes =>
      split at raises
      · simp_all
      · next without =>
        simp only [without]
        unfold decryptInSession at raises ⊢
        split at raises
        · simp_all
        · simp only at raises ⊢
          split at raises
          · simp_all
          · cases raises

theorem decryptStreamChunk_raises {call : DecryptCall} :
    (∃ e, (decryptStreamChunk c privateKey call (some s)).1 = .error e) ↔ Bad c call s := by
  constructor
  · rintro ⟨e, raises⟩
    simp only [decryptStreamChunk] at raises
    split at raises
    · next failed =>
      have not_ok : ¬ checkSession s call.cipherMode call.associatedData = .ok () := by
        rw [failed]
        nofun
      rw [checkSession_ok, not_and_or] at not_ok
      push Not at not_ok
      obtain ⟨mode, named, other⟩ | ⟨ad, given, other⟩ := not_ok
      · exact .wrongMode named other
      · exact .wrongData given other
    · split at raises
      · next given => exact .unexpectedKey given
      · unfold decryptInSession at raises
        split at raises
        · next failed => exact .undecryptable fun plaintext ok => by rw [failed] at ok; cases ok
        · simp only at raises
          split at raises
          · next used => exact .replay used
          · cases raises
  · intro bad
    simp only [decryptStreamChunk]
    split
    · exact ⟨_, rfl⟩
    · next passes =>
      obtain ⟨modes, data⟩ := checkSession_ok.mp passes
      split
      · exact ⟨_, rfl⟩
      · next without =>
        unfold decryptInSession
        split
        · exact ⟨_, rfl⟩
        · next plaintext decrypted =>
          cases bad with
          | replay used =>
            simp only [if_pos used]
            exact ⟨_, rfl⟩
          | wrongMode named other => exact absurd (modes _ named) other
          | wrongData given other => exact absurd (data _ given) other
          | unexpectedKey given => exact absurd given without
          | undecryptable fails => exact absurd decrypted (fails plaintext)

theorem decryptAll_append (before after : List DecryptCall) (session : Option StreamSession) :
    decryptAll c privateKey (before ++ after) session =
      ((decryptAll c privateKey before session).1 ++
        (decryptAll c privateKey after (decryptAll c privateKey before session).2).1,
      (decryptAll c privateKey after (decryptAll c privateKey before session).2).2) := by
  induction before generalizing session with
  | nil => rfl
  | cons call before ih => simp only [List.cons_append, decryptAll, ih]

/-- GCM does not decrypt under other associated data or with another tag. -/
theorem decryptWithKey_gcm (inverse : c.Inverse publicKey privateKey) (key iv plaintext : Bytes)
    (data tag ad : Option Bytes) (mode : Option String)
    (other : tag ≠ some (c.gcmEncrypt key iv (data.getD []) plaintext).2 ∧ ad = data ∨
      tag = some (c.gcmEncrypt key iv (data.getD []) plaintext).2 ∧ ad.getD [] ≠ data.getD []) :
    ∃ e, decryptWithKey c
      ⟨some (c.gcmEncrypt key iv (data.getD []) plaintext).1, some iv, tag, mode⟩ key .gcm ad =
        .error e := by
  cases tag with
  | none => exact ⟨_, rfl⟩
  | some tag =>
    refine ⟨"decryption failed", ?_⟩
    simp only [decryptWithKey]
    obtain ⟨tags, rfl⟩ | ⟨tags, differs⟩ := other
    · rw [inverse.gcmTag _ _ _ _ _ fun same => tags (congrArg some same)]
    · rw [Option.some.inj tags, inverse.gcmData _ _ _ _ _ differs]

theorem decryptInSession_error {call : DecryptCall}
    (fails : decryptWithKey c call.chunk s.aesKey s.cipherMode s.associatedData = .error e) :
    decryptInSession c call s = (.error e, s) := by
  unfold decryptInSession
  rw [fails]

theorem decryptStreamChunk_first {call : DecryptCall} {encryptedKey aesKey : Bytes}
    (given : call.encryptedKey = some encryptedKey)
    (named : normaliseMode ((call.cipherMode.filter (· ≠ "")).or call.chunk.mode) = .ok mode)
    (unwrapped : c.unwrapKey privateKey encryptedKey = some aesKey)
    (fails : decryptWithKey c call.chunk aesKey mode call.associatedData = .error e) :
    decryptStreamChunk c privateKey call none = (.error e, none) := by
  have raises : decryptInSession c call (.fresh aesKey mode call.associatedData) =
      (.error e, .fresh aesKey mode call.associatedData) := decryptInSession_error fails
  simp only [decryptStreamChunk, given, named, unwrapped, raises]

theorem decrypt_first_gcm (inverse : c.Inverse publicKey privateKey)
    (returned : encryptStreamChunk c publicKey call none = (.ok out, some s))
    (gcm : s.cipherMode = .gcm) (tag ad : Option Bytes)
    (other : tag ≠ out.1.tag ∧ ad = call.associatedData ∨
      tag = out.1.tag ∧ ad.getD [] ≠ call.associatedData.getD []) :
    ∃ e, decryptStreamChunk c privateKey ⟨{ out.1 with tag }, out.2, none, ad⟩ none =
      (.error e, none) := by
  simp only [encryptStreamChunk] at returned
  split at returned
  · cases returned
  · next mode modes =>
    split at returned
    · cases returned
    · next encryptedKey wrapped =>
      split at returned
      · cases returned
      · next chunk s' made =>
        obtain ⟨rfl, rfl⟩ : chunk = out ∧ s' = s := by simpa using returned
        obtain ⟨iv, _, _, rfl, rfl⟩ := encryptInSession_ok made
        obtain rfl : mode = .gcm := gcm
        obtain ⟨e, fails⟩ := decryptWithKey_gcm inverse call.draws.aesKey iv call.plaintext
          call.associatedData tag ad (some "GCM") other
        exact ⟨e, decryptStreamChunk_first rfl
          (normaliseMode_encryptWithKey c call.plaintext call.draws.aesKey .gcm
            call.associatedData iv)
          (inverse.rsa _ _ _ _ wrapped) fails⟩

/-! ## Both directions -/

/-- A stream that was encrypted chunk by chunk is read back chunk by chunk on a session that
ends as the writer's, with distinct IVs and every chunk counted. In every sequence of calls a
bad one raises, and the calls after it and the session go on as if it had not been made. A
first GCM chunk makes no session under another tag or other associated data. -/
theorem stream_sessions (inverse : c.Inverse publicKey privateKey) :
    (∀ (calls : List EncryptCall) (outs : List (CiphertextDict × Option Bytes))
      (session : Option StreamSession),
      encryptAll c publicKey calls none = (.ok outs, session) →
        (∀ flags, decryptAll c privateKey (readCalls calls outs flags) none =
          (calls.map fun call => .ok call.plaintext, session)) ∧
        (outs.map (·.1.iv)).Nodup ∧ chunkIndex session = calls.length) ∧
    (∀ (before after : List DecryptCall) (call : DecryptCall) (start : Option StreamSession)
      (s : StreamSession), (decryptAll c privateKey before start).2 = some s → Bad c call s →
        ∃ e, decryptStreamChunk c privateKey call (some s) = (.error e, some s) ∧
          decryptAll c privateKey (before ++ call :: after) start =
            ((decryptAll c privateKey before start).1 ++
                .error e :: (decryptAll c privateKey after (some s)).1,
              (decryptAll c privateKey (before ++ after) start).2)) ∧
    ∀ (call : EncryptCall) (out : CiphertextDict × Option Bytes) (s : StreamSession)
      (tag ad : Option Bytes), encryptStreamChunk c publicKey call none = (.ok out, some s) →
        s.cipherMode = .gcm →
        tag ≠ out.1.tag ∧ ad = call.associatedData ∨
          tag = out.1.tag ∧ ad.getD [] ≠ call.associatedData.getD [] →
        ∃ e, decryptStreamChunk c privateKey ⟨{ out.1 with tag }, out.2, none, ad⟩ none =
          (.error e, none) := by
  refine ⟨fun calls outs session returned => ?_, fun before after call start s reached bad => ?_,
    fun call out s tag ad returned gcm other =>
      decrypt_first_gcm inverse returned gcm tag ad other⟩
  · obtain ⟨_, distinct, counted⟩ := encryptAll_ivs calls returned
    refine ⟨fun flags => decryptAll_encryptAll inverse calls (by rintro s ⟨⟩) returned flags, distinct, ?_⟩
    rw [counted]
    exact Nat.zero_add _
  · obtain ⟨e, raises⟩ := decryptStreamChunk_raises.mpr bad
    have kept := decryptStreamChunk_error raises
    have both : decryptStreamChunk c privateKey call (some s) = (.error e, some s) :=
      Prod.ext raises kept
    refine ⟨e, both, ?_⟩
    rw [decryptAll_append, decryptAll_append, reached]
    simp only [decryptAll, both]

/-- Operations that attach the associated data and the plaintext as the tag. -/
def plainCiphers : Ciphers where
  cbcEncrypt _ _ padded := padded
  cbcDecrypt _ _ ciphertext := some ciphertext
  gcmEncrypt _ _ ad plaintext := (plaintext, ad ++ plaintext)
  gcmDecrypt _ _ tag ad ciphertext := if tag = ad ++ ciphertext then some ciphertext else none
  wrapKey _ _ _ aesKey := some aesKey
  unwrapKey _ encryptedKey := some encryptedKey

theorem plainCiphers_inverse (publicKey privateKey : Bytes) :
    plainCiphers.Inverse publicKey privateKey := by
  refine ⟨fun _ _ _ _ _ _ => rfl, fun _ _ _ _ _ _ => if_pos rfl,
    fun _ _ _ _ _ other => if_neg other,
    fun _ _ ad plaintext other differs => if_neg fun same => ?_, fun _ _ _ _ h => h.symm⟩
  exact differs (List.append_cancel_right same).symm

/-- A call that draws the bytes `n`, `n + 1` and so on. -/
def sampleDraws (n : Nat) : TokenBytes where
  aesKey := List.replicate 32 7
  seed := []
  iv size attempt := List.replicate size (UInt8.ofNat (n + attempt))
  aesKey_length := rfl
  iv_length _ _ := List.length_replicate

/-- Two GCM chunks with associated data. The first IV that the second call draws is taken. -/
def sampleStream : List EncryptCall :=
  [⟨[104, 105], false, some "gcm", some [1], sampleDraws 0⟩,
    ⟨[33], false, none, none, sampleDraws 0⟩]

/-- What the calls return. -/
def sampleChunks : List (CiphertextDict × Option Bytes) :=
  [(⟨some [104, 105], some (List.replicate 12 0), some [1, 104, 105], some "GCM"⟩,
      some (List.replicate 32 7)),
    (⟨some [33], some (List.replicate 12 1), some [1, 33], some "GCM"⟩, none)]

theorem stream_sessions_sample :
    let session := (encryptAll plainCiphers [] sampleStream none).2
    decryptAll plainCiphers [] (readCalls sampleStream sampleChunks [true]) none =
        ([.ok [104, 105], .ok [33]], session) ∧
      (sampleChunks.map (·.1.iv)).Nodup ∧ chunkIndex session = 2 := by
  intro session
  have returned : encryptAll plainCiphers [] sampleStream none = (.ok sampleChunks, session) :=
    Prod.ext (by decide +kernel) rfl
  obtain ⟨read, distinct, counted⟩ :=
    (stream_sessions (plainCiphers_inverse [] [])).1 sampleStream sampleChunks session returned
  exact ⟨read [true], distinct, counted⟩

/-! ## Whole payloads -/

section Whole

variable {chunk : CiphertextDict} {key iv : Bytes}

theorem encrypt_ok (encrypted : encrypt c publicKey call = .ok (chunk, key, iv)) :
    ∃ mode, normaliseMode call.cipherMode = .ok mode ∧ iv.length = mode.ivSize ∧
      chunk = encryptWithKey c call.plaintext call.draws.aesKey mode call.associatedData iv ∧
      c.wrapKey publicKey call.usePkcs1v15 call.draws.seed call.draws.aesKey = some key := by
  unfold encrypt at encrypted
  split at encrypted
  · cases encrypted
  · next mode modes =>
    split at encrypted
    · cases encrypted
    · next wrapped =>
      simp only [encryptWithKey_iv, Option.getD_some] at encrypted
      cases encrypted
      exact ⟨mode, modes, call.draws.iv_length _ _, rfl, wrapped⟩

theorem decrypt_of_mode {call : DecryptCall} {aesKey : Bytes}
    (given : call.encryptedKey = some key) (found : normaliseMode call.modeHint = .ok mode)
    (unwrapped : c.unwrapKey privateKey key = some aesKey) (text : call.chunk.ciphertext.isSome)
    (iv : call.chunk.iv.isSome) (tag : mode = .gcm → call.chunk.tag.isSome) :
    decrypt c privateKey call =
      .ok (decryptWithKey c call.chunk aesKey mode call.associatedData).toOption := by
  have tagged : ¬(mode = .gcm ∧ call.chunk.tag = none) := fun missing => by
    simpa [missing.2] using tag missing.1
  rw [Option.isSome_iff_ne_none] at text iv
  simp [decrypt, given, found, unwrapped, text, iv, tagged]

theorem fields_of_decryptWithKey {chunk : CiphertextDict} {ad : Option Bytes} {p : Bytes}
    (read : decryptWithKey c chunk key mode ad = .ok p) :
    chunk.ciphertext ≠ none ∧ chunk.iv ≠ none ∧ (mode = .gcm → chunk.tag ≠ none) := by
  obtain ⟨_ | text, _ | iv, _ | tag, named⟩ := chunk <;> cases mode <;>
    simp_all [decryptWithKey]

/-- The mode that is found is found again when it is given. -/
theorem modeHint_stable (call : DecryptCall) :
    (call.modeHint.filter (· ≠ "")).or call.chunk.mode = call.modeHint := by
  unfold DecryptCall.modeHint
  cases given : call.cipherMode.filter (· ≠ "") with
  | some m =>
    have nonempty : m ≠ "" := by simpa using (Option.filter_eq_some_iff.mp given).2
    simp [Option.filter, nonempty]
  | none =>
    cases call.chunk.mode with
    | none => cases call.chunk.tag <;> simp [Option.filter]
    | some named => by_cases named = "" <;> simp_all [Option.filter]

theorem encrypt_first_chunk (c : Ciphers) (publicKey : Bytes) (call : EncryptCall) :
    (encryptStreamChunk c publicKey call none).1 =
      (encrypt c publicKey call).map fun out => (out.1, some out.2.1) := by
  unfold encryptStreamChunk encrypt
  cases normaliseMode call.cipherMode with
  | error e => rfl
  | ok mode =>
    cases c.wrapKey publicKey call.usePkcs1v15 call.draws.seed call.draws.aesKey with
    | none => rfl
    | some key =>
      simp [encryptInSession, deriveIv, StreamSession.fresh, Except.map, List.range_succ]

theorem decrypt_first_chunk (c : Ciphers) (privateKey : Bytes) (call : DecryptCall)
    (plaintext : Bytes) :
    decrypt c privateKey call = .ok (some plaintext) ↔
      (decryptStreamChunk c privateKey { call with cipherMode := call.modeHint } none).1 =
        .ok plaintext := by
  simp only [decrypt, decryptStreamChunk, modeHint_stable call]
  cases call.encryptedKey with
  | none => simp
  | some key =>
    cases normaliseMode call.modeHint with
    | error e => simp
    | ok mode =>
      cases unwrapped : c.unwrapKey privateKey key with
      | none => simp [unwrapped, apply_ite (· = Except.ok (some plaintext))]
      | some aesKey =>
        cases read : decryptWithKey c call.chunk aesKey mode call.associatedData with
        | error e =>
          simp [decryptInSession, StreamSession.fresh, unwrapped, read, Except.toOption,
            apply_ite (· = Except.ok (some plaintext))]
        | ok p =>
          obtain ⟨text, iv, tag⟩ := fields_of_decryptWithKey read
          have tagged : ¬(mode = .gcm ∧ call.chunk.tag = none) := fun missing =>
            tag missing.1 missing.2
          simp [decryptInSession, StreamSession.fresh, unwrapped, read, Except.toOption, text, iv,
            tagged]

/-- A payload is encrypted as the first chunk of a stream is, and it decrypts exactly if that
chunk is read in the mode that `decrypt` has found. -/
theorem whole_payload_first_chunk (c : Ciphers) :
    (∀ publicKey call, (encryptStreamChunk c publicKey call none).1 =
      (encrypt c publicKey call).map fun out => (out.1, some out.2.1)) ∧
    ∀ privateKey call plaintext, decrypt c privateKey call = .ok (some plaintext) ↔
      (decryptStreamChunk c privateKey { call with cipherMode := call.modeHint } none).1 =
        .ok plaintext :=
  ⟨encrypt_first_chunk c, decrypt_first_chunk c⟩

/-- What `encrypt` has made is decrypted, whether the mode is given, named or found out. A GCM
payload is not decrypted with another tag or under other associated data. -/
theorem decrypt_encrypt (inverse : c.Inverse publicKey privateKey)
    (encrypted : encrypt c publicKey call = .ok (chunk, key, iv)) :
    chunk.iv = some iv ∧
    (∀ withMode named : Bool, decrypt c privateKey
      ⟨{ chunk with mode := if named then chunk.mode else none }, some key,
        if withMode then call.cipherMode else none, call.associatedData⟩ =
          .ok (some call.plaintext)) ∧
    ∀ tag ad, chunk.tag.isSome →
      some tag ≠ chunk.tag ∧ ad = call.associatedData ∨
        some tag = chunk.tag ∧ ad.getD [] ≠ call.associatedData.getD [] →
      decrypt c privateKey ⟨{ chunk with tag := some tag }, some key, none, ad⟩ = .ok none := by
  obtain ⟨mode, modes, length, rfl, wrapped⟩ := encrypt_ok encrypted
  have unwrapped := inverse.rsa _ _ _ _ wrapped
  refine ⟨encryptWithKey_iv .., fun withMode named => ?_, fun tag ad tagged other => ?_⟩
  · have read := decryptWithKey_encryptWithKey inverse call.plaintext call.associatedData
      call.draws.aesKey_length length
    have found := normaliseMode_read modes (normaliseMode_encryptWithKey c call.plaintext
      call.draws.aesKey mode call.associatedData iv) withMode
    have decrypted := congrArg (fun r => (.ok r.toOption : Except String _)) read
    rw [decrypt_of_mode rfl _ unwrapped _ _ _]
    · exact decrypted
    · cases mode <;> cases named <;> simpa [DecryptCall.modeHint, encryptWithKey] using found
    all_goals cases mode <;> simp [encryptWithKey]
  · cases mode with
    | cbc => cases tagged
    | gcm =>
      obtain ⟨e, fails⟩ := decryptWithKey_gcm inverse call.draws.aesKey iv call.plaintext
        call.associatedData (some tag) ad (some "GCM") other
      have found : normaliseMode (some "GCM") = .ok .gcm := by decide +kernel
      rw [decrypt_of_mode rfl _ unwrapped _ _ _]
      · exact congrArg (fun r => (.ok r.toOption : Except String _)) fails
      · exact found
      all_goals simp [encryptWithKey]
theorem decrypt_encrypt_sample :
    let call : EncryptCall := ⟨[104, 105], false, some "gcm", some [1], sampleDraws 0⟩
    decrypt plainCiphers [] ⟨⟨some [104, 105], some (List.replicate 12 0), some [1, 104, 105],
      none⟩, some (List.replicate 32 7), none, some [1]⟩ = .ok (some call.plaintext) := by
  intro call
  have encrypted : encrypt plainCiphers [] call = .ok (⟨some [104, 105],
      some (List.replicate 12 0), some [1, 104, 105], some "GCM"⟩, List.replicate 32 7,
      List.replicate 12 0) := by decide +kernel
  exact (decrypt_encrypt (plainCiphers_inverse [] []) encrypted).2.1 false false

end Whole

end Encrypt
