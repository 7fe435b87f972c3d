import TokenPlace.Model.Gguf

/-!
# The format of a GGUF header

The grammar of the headers that the reader supports, how each part of it is spelled in bytes,
and, for every function of the reader, the part that it reads. `Reads` holds in both directions:
what is spelled is read as what it stands for, and what is read was spelled.
-/

namespace ModelManager

open BinaryFile (Reads fromBytes toBytes)

/-! ## The grammar -/

/-- The type of a format in the file. -/
def ScalarFormat.code : ScalarFormat → Nat
  | .uint8 => 0
  | .int8 => 1
  | .uint16 => 2
  | .int16 => 3
  | .uint32 => 4
  | .int32 => 5
  | .float32 => 6
  | .bool => 7
  | .uint64 => 10
  | .int64 => 11
  | .float64 => 12

/-- A key or a string in the file: its bytes. -/
abbrev GgufText := { bytes : List UInt8 // bytes.length ≤ 2 ^ 20 }

/-- A value of an entry; `T` stands for its texts. -/
inductive GgufItem (T : Type)
  | scalar (format : ScalarFormat) (bits : BitVec (8 * format.size))
  | text (t : T)
  | scalars (format : ScalarFormat) (elements : List (BitVec (8 * format.size)))
      (bound : elements.length ≤ 2 ^ 24)
  | texts (elements : List T) (bound : elements.length ≤ 2 ^ 24)

/-- A header that the reader supports. -/
structure GgufHeader (T : Type) where
  version : Nat
  supported : version ∈ [2, 3]
  tensorCount : BitVec 64
  entries : List (T × GgufItem T)
  countable : entries.length < 2 ^ 64

variable {T U : Type}

/-- The type that stands before a value. -/
def GgufItem.code : GgufItem T → Nat
  | .scalar format _ => format.code
  | .text _ => 8
  | .scalars .. => 9
  | .texts .. => 9

def GgufItem.isArray : GgufItem T → Bool
  | .scalar .. => false
  | .text _ => false
  | .scalars .. => true
  | .texts .. => true

/-- What a value stands for; no array is kept. -/
def GgufItem.value (text : T → String) : GgufItem T → Option GgufValue
  | .scalar format bits => some (format.unpack bits)
  | .text t => some (.text (text t))
  | .scalars .. => none
  | .texts .. => none

/-! ## Its spelling -/

def ScalarFormat.spell (format : ScalarFormat) (bits : BitVec (8 * format.size)) : List UInt8 :=
  toBytes format.size bits.toNat

def GgufText.spell (t : GgufText) : List UInt8 := toBytes 8 t.1.length ++ t.1

/-- The bytes behind the type. -/
def GgufItem.payload : GgufItem GgufText → List UInt8
  | .scalar format bits => format.spell bits
  | .text t => GgufText.spell t
  | .scalars format elements _ =>
    toBytes 4 format.code ++ (toBytes 8 elements.length ++ elements.flatMap format.spell)
  | .texts elements _ =>
    toBytes 4 8 ++ (toBytes 8 elements.length ++ elements.flatMap GgufText.spell)

def GgufItem.spellEntry (entry : GgufText × GgufItem GgufText) : List UInt8 :=
  GgufText.spell entry.1 ++ (toBytes 4 entry.2.code ++ entry.2.payload)

def GgufHeader.spell (header : GgufHeader GgufText) : List UInt8 :=
  ggufMagic ++ (toBytes 4 header.version ++ (toBytes 8 header.tensorCount.toNat ++
    (toBytes 8 header.entries.length ++ header.entries.flatMap GgufItem.spellEntry)))

/-- The text that the reader makes of the bytes. -/
def GgufText.decode (t : GgufText) : String := String.ofList (Utf8.decode t.1)

/-! ## The readers of its parts -/

variable {n : Nat} {bs : List UInt8}

theorem readExact_reads (n : Nat) :
    Reads (readExact n) fun data bs => data = bs ∧ bs.length = n := Reads.exactly n _

theorem readUnsigned_reads (w : Nat) :
    Reads (readUnsigned w) fun n bs => n < 256 ^ w ∧ bs = toBytes w n :=
  ((readExact_reads w).map fromBytes).congr fun n bs => by
    constructor
    · rintro ⟨_, rfl, rfl, width⟩
      exact (BinaryFile.fromBytes_eq_iff width).mp rfl
    · rintro ⟨fits, rfl⟩
      exact ⟨_, (BinaryFile.fromBytes_toBytes fits).symm, rfl, BinaryFile.toBytes_length ..⟩

theorem readString_reads :
    Reads readString fun s bs => ∃ t : GgufText, bs = t.spell ∧ s = t.decode :=
  ((readUnsigned_reads 8).bind fun length => Reads.checked (2 ^ 20 < length) _ fun _ =>
    (readExact_reads length).map fun data => String.ofList (Utf8.decode data)).congr fun s bs => by
    constructor
    · rintro ⟨_, _, _, rfl, ⟨_, rfl⟩, bound, data, rfl, rfl, rfl⟩
      exact ⟨⟨data, not_lt.mp bound⟩, rfl, rfl⟩
    · rintro ⟨⟨data, bound⟩, rfl, rfl⟩
      exact ⟨data.length, _, data, rfl, ⟨by omega, rfl⟩, not_lt.mpr bound, data, rfl, rfl, rfl⟩

theorem skipBytes_seekable {f : BinaryFile} {length : Nat} (seekable : f.seekable = true)
    (small : ¬ 2 ^ 34 < length) :
    skipBytes length f =
      if f.contents.length < f.position + length then
        (.error (.valueError "gguf_metadata_truncated"), { f with position := f.contents.length })
      else (.ok (), { f with position := f.position + length }) := by
  unfold skipBytes
  rw [Method.raiseIf, if_neg small]
  show (if f.seekable = true then _ else _ : GgufReader Unit) f = _
  rw [if_pos seekable]
  show ((Method.raiseIf (f.contents.length < f.position + length) _ : GgufReader Unit) >>= _) _ = _
  unfold Method.raiseIf
  split <;> rfl

theorem skipBytes_unseekable {f : BinaryFile} {length : Nat} (unseekable : ¬ f.seekable = true)
    (small : ¬ 2 ^ 34 < length) :
    skipBytes length f = (readExact length >>= fun _ => pure ()) f := by
  unfold skipBytes
  rw [Method.raiseIf, if_neg small]
  show (if f.seekable = true then _ else _ : GgufReader Unit) f = _
  rw [if_neg unseekable]

theorem skipBytes_large {length : Nat} (large : 2 ^ 34 < length) (f : BinaryFile) :
    skipBytes length f = (.error (.valueError "gguf_metadata_value_too_large"), f) := by
  unfold skipBytes
  rw [Method.raiseIf, if_pos large]
  rfl

/-- Both ways of skipping stop behind the same bytes. -/
theorem skipBytes_reads (length : Nat) :
    Reads (skipBytes length) fun _ bs => bs.length = length ∧ length ≤ 2 ^ 34 := by
  have discards : Reads (readExact length >>= fun _ => (pure () : GgufReader Unit))
      fun _ bs => bs.length = length :=
    ((readExact_reads length).map fun _ => ()).congr fun _ bs => by simp
  by_cases large : 2 ^ 34 < length
  · constructor
    · intro f _ f' _ result
      rw [skipBytes_large large] at result
      cases result
    · rintro f _ bs _ ⟨_, small⟩ _
      omega
  constructor
  · intro f _ f' inRange result
    by_cases seekable : f.seekable = true
    · rw [skipBytes_seekable seekable large] at result
      split at result
      · cases result
      · cases result
        have width : (f.ahead.take length).length = length := by
          rw [List.length_take, BinaryFile.ahead, List.length_drop]
          omega
        refine ⟨f.ahead.take length, ⟨width, not_lt.mp large⟩, List.take_prefix .., rfl, ?_,
          le_max_left ..⟩
        rw [width]
    · rw [skipBytes_unseekable seekable large] at result
      obtain ⟨bs, width, first, moved⟩ := discards.sound inRange result
      exact ⟨bs, ⟨width, not_lt.mp large⟩, first, moved⟩
  · rintro f ⟨⟩ bs inRange ⟨width, _⟩ first
    by_cases seekable : f.seekable = true
    · have := first.length_le
      rw [BinaryFile.ahead, List.length_drop] at this
      have : f.position ≤ f.contents.length := inRange
      rw [skipBytes_seekable seekable large, if_neg (by omega)]
      exact ⟨_, rfl, rfl, by rw [width], le_max_left ..⟩
    · rw [skipBytes_unseekable seekable large]
      exact discards.complete inRange width first

theorem ScalarFormat.isLt (format : ScalarFormat) (bits : BitVec (8 * format.size)) :
    bits.toNat < 256 ^ format.size := by
  have := bits.isLt
  rwa [pow_mul] at this

theorem ScalarFormat.spell_ofBytes (format : ScalarFormat) {data : List UInt8}
    (length : data.length = format.size) :
    format.spell (BitVec.ofNat _ (fromBytes data)) = data := by
  have fits := BinaryFile.fromBytes_lt data
  rw [ScalarFormat.spell, BitVec.toNat_ofNat, Nat.mod_eq_of_lt, ← length,
    BinaryFile.toBytes_fromBytes]
  rwa [pow_mul, ← length]

theorem readScalar_reads (format : ScalarFormat) :
    Reads (readScalar format) fun value bs =>
      ∃ bits, bs = format.spell bits ∧ value = format.unpack bits :=
  ((readExact_reads format.size).map _).congr fun value bs => by
    constructor
    · rintro ⟨data, rfl, rfl, length⟩
      exact ⟨_, (format.spell_ofBytes length).symm, rfl⟩
    · rintro ⟨bits, rfl, rfl⟩
      refine ⟨_, ?_, rfl, BinaryFile.toBytes_length ..⟩
      rw [ScalarFormat.spell, BinaryFile.fromBytes_toBytes (format.isLt bits), BitVec.ofNat_toNat,
        BitVec.setWidth_eq]

/-! ## Values -/

theorem scalarFormats_eq_some {code : Nat} {format : ScalarFormat} :
    scalarFormats code = some format ↔ code = format.code := by
  constructor
  · intro known
    unfold scalarFormats at known
    split at known <;> cases known <;> rfl
  · rintro rfl
    cases format <;> rfl

theorem ScalarFormat.code_lt (format : ScalarFormat) : format.code < 256 ^ 4 := by
  cases format <;> decide

theorem ScalarFormat.spell_length (format : ScalarFormat) (bits : BitVec (8 * format.size)) :
    (format.spell bits).length = format.size := BinaryFile.toBytes_length ..

theorem ScalarFormat.flatMap_spell (format : ScalarFormat) (n : Nat) (bs : List UInt8) :
    bs.length = format.size * n ↔
      ∃ elements : List (BitVec (8 * format.size)), elements.length = n ∧
        bs = elements.flatMap format.spell := by
  induction n generalizing bs with
  | zero => simp
  | succ n ih =>
    rw [Nat.mul_succ]
    constructor
    · intro length
      obtain ⟨elements, count, rest⟩ := (ih (bs.drop format.size)).mp (by
        rw [List.length_drop]
        omega)
      have taken : (bs.take format.size).length = format.size := by
        rw [List.length_take]
        omega
      refine ⟨BitVec.ofNat _ (fromBytes (bs.take format.size)) :: elements, by simp [count], ?_⟩
      rw [List.flatMap_cons, ← rest, format.spell_ofBytes taken, List.take_append_drop]
    · rintro ⟨_ | ⟨bits, elements⟩, count, rfl⟩
      · cases count
      · have rest := (ih _).mpr ⟨elements, Nat.succ.inj count, rfl⟩
        rw [List.flatMap_cons, List.length_append, rest, format.spell_length]
        omega

theorem ScalarFormat.size_le (format : ScalarFormat) : format.size ≤ 8 := by
  cases format <;> decide

/-- The bytes of an array behind its length. -/
def SpellsElements (arrayType arrayLength : Nat) (bs : List UInt8) : Prop :=
  (∃ (format : ScalarFormat) (elements : List (BitVec (8 * format.size))),
    arrayType = format.code ∧ elements.length = arrayLength ∧ bs = elements.flatMap format.spell) ∨
  ∃ elements : List GgufText,
    arrayType = 8 ∧ elements.length = arrayLength ∧ bs = elements.flatMap GgufText.spell

theorem foldlM_unit {X : Type} (xs : List X) :
    xs.foldlM (fun _ _ => some ()) () = some () := by
  induction xs with
  | nil => rfl
  | cons x xs ih => exact ih

theorem skipElements_reads (arrayType : Nat) {arrayLength : Nat} (bound : arrayLength ≤ 2 ^ 24) :
    Reads (skipElements arrayType arrayLength)
      fun _ bs => SpellsElements arrayType arrayLength bs := by
  unfold skipElements
  split
  · next format known =>
    refine (skipBytes_reads _).congr fun _ bs => ?_
    have code := scalarFormats_eq_some.mp known
    have small : format.size * arrayLength ≤ 2 ^ 34 :=
      (Nat.mul_le_mul format.size_le bound).trans (by decide)
    constructor
    · rintro ⟨length, _⟩
      obtain ⟨elements, count, rfl⟩ := (format.flatMap_spell _ _).mp length
      exact .inl ⟨format, elements, code, count, rfl⟩
    · rintro (⟨format', elements, code', count, rfl⟩ | ⟨_, is, _⟩)
      · cases scalarFormats_eq_some.mpr code' ▸ known
        exact ⟨(format.flatMap_spell _ _).mpr ⟨elements, count, rfl⟩, small⟩
      · rw [is] at known
        cases known
  · next unknown =>
    split
    · next strings =>
      have once : ∀ _ : Unit, Reads (readString >>= fun _ => (pure () : GgufReader Unit))
          fun a bs => ∃ t : GgufText, bs = t.spell ∧ some () = some a := fun _ =>
        (readString_reads.map fun _ => ()).congr fun _ bs => by simp
      refine (Reads.loop once arrayLength ()).congr fun _ bs => ?_
      constructor
      · rintro ⟨elements, count, rfl, _⟩
        exact .inr ⟨elements, strings, count, rfl⟩
      · rintro (⟨format, _, code, _⟩ | ⟨elements, _, count, rfl⟩)
        · rw [scalarFormats_eq_some.mpr code] at unknown
          cases unknown
        · exact ⟨elements, count, rfl, foldlM_unit elements⟩
    · next other =>
      refine (Reads.raise _).congr fun _ bs => ?_
      constructor
      · nofun
      · rintro (⟨format, _, code, _⟩ | ⟨_, strings, _⟩)
        · rw [scalarFormats_eq_some.mpr code] at unknown
          cases unknown
        · exact other strings

theorem readArray_reads (store : Bool) :
    Reads (readArray store) fun value bs =>
      ∃ item : GgufItem GgufText, item.code = 9 ∧ bs = item.payload ∧ store = false ∧
        value = none :=
  ((readUnsigned_reads 4).bind fun arrayType => (readUnsigned_reads 8).bind fun arrayLength =>
    Reads.checked (2 ^ 24 < arrayLength) _ fun bound =>
      (skipElements_reads arrayType (not_lt.mp bound)).bind fun _ =>
        Reads.checked (store = true) _ fun _ => Reads.pure none).congr fun value bs => by
    constructor
    · rintro ⟨_, _, _, rfl, ⟨_, rfl⟩, _, _, _, rfl, ⟨_, rfl⟩, bound, _, _, _, rfl, elements, kept,
        rfl, rfl⟩
      rw [Bool.not_eq_true] at kept
      rw [List.append_nil]
      obtain ⟨format, elements, rfl, rfl, rfl⟩ | ⟨elements, rfl, rfl, rfl⟩ := elements
      · exact ⟨.scalars format elements (not_lt.mp bound), rfl, rfl, kept, rfl⟩
      · exact ⟨.texts elements (not_lt.mp bound), rfl, rfl, kept, rfl⟩
    · rintro ⟨item, code, rfl, rfl, rfl⟩
      cases item with
      | scalar format => cases format <;> cases code
      | text => cases code
      | scalars format elements bound =>
        exact ⟨_, _, _, rfl, ⟨format.code_lt, rfl⟩, _, _, _, rfl, ⟨by omega, rfl⟩,
          not_lt.mpr bound, (), _, [], (List.append_nil _).symm,
          .inl ⟨format, elements, rfl, rfl, rfl⟩, nofun, rfl, rfl⟩
      | texts elements bound =>
        exact ⟨_, _, _, rfl, ⟨by decide, rfl⟩, _, _, _, rfl, ⟨by omega, rfl⟩,
          not_lt.mpr bound, (), _, [], (List.append_nil _).symm,
          .inr ⟨elements, rfl, rfl, rfl⟩, nofun, rfl, rfl⟩

theorem readOrSkipValue_reads (valueType : Nat) (store : Bool) :
    Reads (readOrSkipValue valueType store) fun value bs =>
      ∃ item : GgufItem GgufText, item.code = valueType ∧ bs = item.payload ∧
        (store = true → item.isArray = false) ∧
          value = if store then item.value GgufText.decode else none := by
  unfold readOrSkipValue
  split
  · next format known =>
    refine ((readScalar_reads format).map _).congr fun value bs => ?_
    constructor
    · rintro ⟨_, rfl, bits, rfl, rfl⟩
      exact ⟨.scalar format bits, (scalarFormats_eq_some.mp known).symm, rfl, fun _ => rfl, rfl⟩
    · rintro ⟨item, code, rfl, _, rfl⟩
      cases item with
      | scalar format' bits =>
        cases scalarFormats_eq_some.mpr code.symm ▸ known
        exact ⟨_, rfl, bits, rfl, rfl⟩
      | text | scalars | texts => cases code; cases known
  · next unknown =>
    have scalar {format : ScalarFormat} (code : format.code = valueType) : False := by
      rw [scalarFormats_eq_some.mpr code.symm] at unknown
      cases unknown
    split
    · next text =>
      refine (readString_reads.map _).congr fun value bs => ?_
      constructor
      · rintro ⟨_, rfl, t, rfl, rfl⟩
        exact ⟨.text t, text.symm, rfl, fun _ => rfl, rfl⟩
      · rintro ⟨item, code, rfl, _, rfl⟩
        cases item with
        | scalar => exact (scalar code).elim
        | text t => exact ⟨_, rfl, t, rfl, rfl⟩
        | scalars | texts => cases code.trans text
    · next notText =>
      split
      · next array =>
        refine (readArray_reads store).congr fun value bs => ?_
        constructor
        · rintro ⟨item, code, rfl, rfl, rfl⟩
          exact ⟨item, code.trans array.symm, rfl, nofun, rfl⟩
        · rintro ⟨item, code, rfl, kept, rfl⟩
          have isArray : item.isArray = true := by
            cases item with
            | scalar => exact (scalar code).elim
            | text => exact (notText code.symm).elim
            | scalars => rfl
            | texts => rfl
          have skipped : store = false := by
            cases store with
            | false => rfl
            | true => rw [kept rfl] at isArray; cases isArray
          exact ⟨item, code.trans array, rfl, skipped, by rw [skipped]; rfl⟩
      · next notArray =>
        refine (Reads.raise _).congr fun value bs => ?_
        constructor
        · nofun
        · rintro ⟨item, code, _⟩
          cases item with
          | scalar => exact scalar code
          | text => exact notText code.symm
          | scalars | texts => exact notArray code.symm

/-! ## Entries -/

/-- What one more entry makes of the metadata; a required array stops the reader. -/
def storeEntry (text : T → String) (metadata : GgufMetadata) (entry : T × GgufItem T) :
    Option GgufMetadata :=
  if shouldStore (text entry.1) then
    (entry.2.value text).map fun value => metadata.set (text entry.1) value
  else some metadata

theorem GgufItem.value_eq_none (text : T → String) (item : GgufItem T) :
    item.value text = none ↔ item.isArray = true := by
  cases item <;> simp [GgufItem.value, GgufItem.isArray]

theorem GgufItem.code_lt (item : GgufItem T) : item.code < 256 ^ 4 := by
  cases item with
  | scalar format => exact format.code_lt
  | text => exact show 8 < 256 ^ 4 by decide
  | scalars | texts => exact show 9 < 256 ^ 4 by decide

theorem storeEntry_eq_some (text : T → String) {metadata metadata' : GgufMetadata} {key : T}
    {item : GgufItem T} :
    storeEntry text metadata (key, item) = some metadata' ↔
      (shouldStore (text key) = true → item.isArray = false) ∧
        metadata' = match if shouldStore (text key) then item.value text else none with
          | some value =>
            if shouldStore (text key) then metadata.set (text key) value else metadata
          | none => metadata := by
  unfold storeEntry
  cases stored : shouldStore (text key) with
  | false => exact ⟨fun is => ⟨nofun, (Option.some.inj is).symm⟩, fun is => congrArg some is.2.symm⟩
  | true =>
    have array := item.value_eq_none text
    cases value : item.value text with
    | none =>
      rw [array] at value
      simp [value]
    | some value' =>
      have : item.isArray = false := by
        rw [← Bool.not_eq_true, ← array, value]
        nofun
      simp [this, eq_comm]

theorem readEntry_reads (metadata : GgufMetadata) :
    Reads (readEntry metadata) fun metadata' bs =>
      ∃ entry, bs = GgufItem.spellEntry entry ∧
        storeEntry GgufText.decode metadata entry = some metadata' :=
  (readString_reads.bind fun key => (readUnsigned_reads 4).bind fun valueType =>
    (readOrSkipValue_reads valueType (shouldStore key)).map _).congr fun metadata' bs => by
    constructor
    · rintro ⟨_, _, _, rfl, ⟨key, rfl, rfl⟩, _, _, _, rfl, ⟨_, rfl⟩, _, rfl, item, rfl, rfl, kept,
        rfl⟩
      exact ⟨(key, item), rfl, (storeEntry_eq_some _).mpr ⟨kept, rfl⟩⟩
    · rintro ⟨⟨key, item⟩, rfl, stores⟩
      obtain ⟨kept, rfl⟩ := (storeEntry_eq_some _).mp stores
      exact ⟨key.decode, _, _, rfl, ⟨key, rfl, rfl⟩, item.code, _, _, rfl, ⟨item.code_lt, rfl⟩,
        _, rfl, item, rfl, rfl, kept, rfl⟩

/-- The metadata of a header, whose entries are stored in their order. -/
def GgufHeader.stored (text : T → String) (header : GgufHeader T) : Option GgufMetadata :=
  header.entries.foldlM (storeEntry text) fun _ => none

theorem readMetadata_reads (maxKv : Nat) :
    Reads (readMetadata maxKv) fun metadata bs =>
      ∃ header : GgufHeader GgufText, header.entries.length ≤ maxKv ∧ bs = header.spell ∧
        header.stored GgufText.decode = some metadata :=
  ((readExact_reads 4).bind fun magic => Reads.checked (magic ≠ ggufMagic) _ fun _ =>
    (readUnsigned_reads 4).bind fun version => Reads.checked (version ∉ [2, 3]) _ fun _ =>
      (readUnsigned_reads 8).bind fun _ => (readUnsigned_reads 8).bind fun kvCount =>
        Reads.checked (maxKv < kvCount) _ fun _ =>
          Reads.loop readEntry_reads kvCount _).congr fun metadata bs => by
    constructor
    · rintro ⟨_, _, _, rfl, ⟨rfl, _⟩, magic, version, _, _, rfl, ⟨_, rfl⟩, supported, tensorCount,
        _, _, rfl, ⟨small, rfl⟩, _, _, _, rfl, ⟨countable, rfl⟩, bound, entries, rfl, rfl, stored⟩
      refine ⟨⟨version, not_not.mp supported, BitVec.ofNat 64 tensorCount, entries, countable⟩,
        not_lt.mp bound, ?_, stored⟩
      rw [not_not.mp magic, GgufHeader.spell, BitVec.toNat_ofNat,
        Nat.mod_eq_of_lt (show tensorCount < 2 ^ 64 from small)]
    · rintro ⟨⟨version, supported, tensorCount, entries, countable⟩, bound, rfl, stored⟩
      have small : version < 256 ^ 4 := by
        obtain rfl | rfl : version = 2 ∨ version = 3 := by simpa using supported
        · decide
        · decide
      exact ⟨ggufMagic, _, _, rfl, ⟨rfl, rfl⟩, not_not.mpr rfl, version, _, _, rfl, ⟨small, rfl⟩,
        not_not.mpr supported, tensorCount.toNat, _, _, rfl, ⟨tensorCount.isLt, rfl⟩, _, _, _, rfl,
        ⟨countable, rfl⟩, not_lt.mpr bound, entries, rfl, rfl, stored⟩

end ModelManager
