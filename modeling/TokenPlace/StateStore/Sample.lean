import TokenPlace.StateStore.Runs

/-!
# A runtime to run the store on

A finite table of real SHA-256 digests, completed to an injective function: the
other texts get digests outside the hexadecimal alphabet. On the texts of the
table it is the library function, and it meets the cryptographic assumptions
(`sampleRuntime_collisionFree`, `sampleRuntime_noZeroDigest`), so a statement
that assumes them can be checked on concrete runs.
-/

namespace StateStore

/-! ## Digests from a table -/

/-- A text that is no digest, for every list of bytes. -/
def rareText (bytes : List UInt8) : String :=
  "#" ++ String.ofList (bytes.map fun b => Char.ofNat b.toNat)

/-- The digest that the table gives, else the rare text. -/
def tableDigest (table : List (String × String)) (bytes : List UInt8) : String :=
  match table.find? fun e => utf8 e.1 = bytes with
  | some e => e.2
  | none => rareText bytes

/-- The table maps to hexadecimal digests, each one once, and never to zeros. -/
def TableOk (table : List (String × String)) : Prop :=
  (table.map Prod.snd).Nodup ∧ ∀ e ∈ table, isSha256Hex e.2 = true ∧ e.2 ≠ zeroDigest

instance (table : List (String × String)) : Decidable (TableOk table) :=
  inferInstanceAs (Decidable (_ ∧ _))

theorem toNat_ofByte (b : UInt8) : (Char.ofNat b.toNat).toNat = b.toNat := by
  have bound : b.toNat < 256 := b.toNat_lt
  have valid : Nat.isValidChar b.toNat := Or.inl (by omega)
  rw [Char.ofNat, dif_pos valid]
  rfl

theorem rareText_injective : Function.Injective rareText := by
  intro a b h
  have same := String.append_right_inj "#" |>.mp h
  refine List.map_injective_iff.mpr ?_ (String.ofList_injective same)
  intro x y hxy
  have bytes := congrArg Char.toNat hxy
  rw [toNat_ofByte, toNat_ofByte] at bytes
  exact UInt8.toNat_inj.mp bytes

theorem rareText_not_hex (bytes : List UInt8) : isSha256Hex (rareText bytes) = false := by
  have head : utf8 (rareText bytes) = 35 :: utf8 (String.ofList (bytes.map fun b =>
      Char.ofNat b.toNat)) := utf8_append ..
  unfold isSha256Hex
  rw [head, List.all_cons, show isHexDigit 35 = false from rfl, Bool.false_and, Bool.and_false]

theorem tableDigest_injective {table : List (String × String)} (ok : TableOk table) :
    Function.Injective (tableDigest table) := by
  intro a b same
  unfold tableDigest at same
  cases ha : table.find? fun e => utf8 e.1 = a with
  | none =>
    rw [ha] at same
    cases hb : table.find? fun e => utf8 e.1 = b with
    | none =>
      rw [hb] at same
      exact rareText_injective same
    | some e =>
      rw [hb] at same
      have hex := (ok.2 e (List.mem_of_find?_eq_some hb)).1
      rw [← show rareText a = e.2 from same, rareText_not_hex] at hex
      cases hex
  | some e =>
    rw [ha] at same
    cases hb : table.find? fun e => utf8 e.1 = b with
    | none =>
      rw [hb] at same
      have hex := (ok.2 e (List.mem_of_find?_eq_some ha)).1
      rw [show e.2 = rareText b from same, rareText_not_hex] at hex
      cases hex
    | some f =>
      rw [hb] at same
      have entry : e = f := List.inj_on_of_nodup_map ok.1 (List.mem_of_find?_eq_some ha)
        (List.mem_of_find?_eq_some hb) same
      have left := List.find?_some ha
      have right := List.find?_some hb
      rw [← of_decide_eq_true left, ← of_decide_eq_true right, entry]

theorem tableDigest_ne_zero {table : List (String × String)} (ok : TableOk table)
    (bytes : List UInt8) : tableDigest table bytes ≠ zeroDigest := by
  unfold tableDigest
  cases found : table.find? fun e => utf8 e.1 = bytes with
  | none =>
    intro zero
    have hex := rareText_not_hex bytes
    rw [show rareText bytes = zeroDigest from zero] at hex
    exact absurd hex (by decide)
  | some e => exact (ok.2 e (List.mem_of_find?_eq_some found)).2

/-! ## The runtime -/

/-- `str.strip` on ASCII texts. -/
def isAsciiSpace (c : Char) : Bool := (9 ≤ c.toNat && c.toNat ≤ 13) || (28 ≤ c.toNat && c.toNat ≤ 32)

/-- `str.strip().lower()` on ASCII texts. -/
def asciiStripLower (s : String) : String :=
  let dropped := (s.toList.dropWhile isAsciiSpace).reverse.dropWhile isAsciiSpace
  String.ofList (dropped.reverse.map Char.toLower)

/-- Digests of the texts that the runs below hash. -/
def sampleDigests : List (String × String) :=
  [("client\x00client-1",
    "c04da4f28a539224430cf8d564ca2045471b42fa407e5d399693c195e01ab663"),
   ("request\x00request-1",
    "cacdef16b9564fd630debd910978317d10cb30f267c079b2e5fb8e12a27ab0ef"),
   ("request\x00request-2",
    "428b326cd864a3aa066977894ed4da99f2052b4e0ba1ec3442a99b51e26002f3"),
   ("node\x00node-a",
    "59c4d520fb9279bebfa6244dc5eaf168a5f64973ec9dcef49bc531a982d44454"),
   ("node\x00node-b",
    "4327565868a0ed43939ce84551b7d7a145ffb39828f1b48169fe4b48669103f3"),
   ("consumer\x00consumer-1",
    "a189adf08d9ab62c95bb4abeddf1ec8e59769519aa65b6ddbfbf8f4c6fb22b60"),
   ("1111111111111111111111111111111111111111111111111111111111111111",
    "3138bb9bc78df27c473ecfd1410f7bd45ebac1f59cf3ff9cfe4db77aab7aedd3"),
   ("2222222222222222222222222222222222222222222222222222222222222222",
    "4f2e8d65483c641648cdb374ae9d8abd368d269e4ddffe092a8237b8162cddd6"),
   ("cancel\x00cancel-1",
    "1e39a394d5bd02ea85384a116b57e2f14ec248bc9f7181942855a1c2ec488863"),
   ("model\x008k-fast",
    "e6e92108bc7cb5e6fc3660476d0e5a56fd67d96f3eceb0150e3d44acd6c065e3"),
   ("\x7b\"cipherkey\":\"key\",\"ciphertext\":\"answer\",\"iv\":\"nonce\",\"protocol\":\"tokenplace_api_v1_relay_e2ee\",\"version\":1\x7d",
    "048684881482efc8863b0f11969a8537c129d840f88ace3e2a3a6e41cf017927"),
   ("932fcd8a5ac28417e179eac216cc63aac2c6a4d679e7f0a12d9b65d753437666",
    "b52e90ee9784f93588730c8e607d0fb1821c7a695b7aa032145cfaeaa62384ee")]

theorem sampleDigests_ok : TableOk sampleDigests := by decide +kernel

/-- The key of the acknowledgement tokens. -/
def sampleKey : List UInt8 := List.replicate 32 42

/-- The message that is signed for the response accepted at 1. -/
def sampleMessage : List UInt8 :=
  utf8 "token.place/relay-response-ack/v1\x00" ++
    fromHex (utf8 "c04da4f28a539224430cf8d564ca2045471b42fa407e5d399693c195e01ab663") ++
    fromHex (utf8 "cacdef16b9564fd630debd910978317d10cb30f267c079b2e5fb8e12a27ab0ef") ++
    [0x3f, 0xf0, 0, 0, 0, 0, 0, 0] ++
    fromHex (utf8 "048684881482efc8863b0f11969a8537c129d840f88ace3e2a3a6e41cf017927")

/-- The digests of the table, the token of the one message and the packed 1.0. -/
def sampleRuntime : Runtime where
  sha256 := tableDigest sampleDigests
  hmacSha256 := fun key message =>
    if key = sampleKey ∧ message = sampleMessage then
      "932fcd8a5ac28417e179eac216cc63aac2c6a4d679e7f0a12d9b65d753437666"
    else rareText message
  packDouble := fun x => if x = 1 then [0x3f, 0xf0, 0, 0, 0, 0, 0, 0] else []
  stripLower := asciiStripLower

theorem sampleRuntime_collisionFree : sampleRuntime.CollisionFree :=
  tableDigest_injective sampleDigests_ok

theorem sampleRuntime_noZeroDigest : sampleRuntime.NoZeroDigest :=
  tableDigest_ne_zero sampleDigests_ok

/-- A store with the given configuration. -/
def sampleEnv (config : RelayStateStoreConfig) (ok : config.postInit = .ok ()) : StoreEnv where
  runtime := sampleRuntime
  config := config
  acknowledgementKey := sampleKey
  config_ok := ok
  key_length := by decide

/-! ## Calls -/

/-- The defaults of the source. -/
def defaultEnv : StoreEnv := sampleEnv { namespace_ := "relay" } (by decide +kernel)

def sampleCapabilities : ComputeNodeCapabilities where
  supportedModelIds := ["model"]
  activeContextTier := .fast8k
  maximumTotalContextTokens := 8192
  defaultOutputTokenReservation := 256
  maximumOutputTokens := 1024
  maxConcurrency := 4
  models := by decide
  models_nodup := by decide
  context := by decide
  output := by decide
  concurrency := by decide

def credentialA : String := String.ofList (List.replicate 64 'a')

def credentialB : String := String.ofList (List.replicate 64 'b')

/-- The value of `secrets.token_hex(32)` in the runs. -/
def sampleToken : String := String.ofList (List.replicate 64 '1')

def requestEnvelope : EncryptedEnvelope := ⟨"question", "key", "nonce", by decide⟩

def responseEnvelope : EncryptedEnvelope := ⟨"answer", "key", "nonce", by decide⟩

/-- A call of `op` at the reading `clock`. -/
def sampleCall (clock : Epoch) (op : Op) : Call := ⟨clock, sampleToken, op⟩

/-- The identity of the request `"request-1"` of the client `"client-1"`. -/
def sampleIdentity : Identity :=
  ("c04da4f28a539224430cf8d564ca2045471b42fa407e5d399693c195e01ab663",
   "cacdef16b9564fd630debd910978317d10cb30f267c079b2e5fb8e12a27ab0ef")

/-- The first call of the runs. -/
def registration : Call := sampleCall 1 (.register "node-a" sampleCapabilities credentialA)

/-- A request that is reserved and queued with the given deadline, at 1. -/
def admission (due : Epoch) : List Call :=
  [sampleCall 1 (.selectAndReserve "client-1" "request-1" "model" "8k-fast" due (some "cancel-1")),
   sampleCall 1 (.enqueueEncryptedRequest "client-1" "request-1" sampleToken "node-a" "model"
     "8k-fast" due requestEnvelope "cancel-1")]

/-- Its claim. -/
def claiming : Call := sampleCall 1 (.claimQueuedRequest "node-a" credentialA "consumer-1")

/-- Its response. -/
def answering : Call :=
  sampleCall 1 (.acceptEncryptedResponse "node-a" credentialA "consumer-1" "client-1" "request-1" 1
    responseEnvelope)

def service : List Call := [claiming, answering]

end StateStore
