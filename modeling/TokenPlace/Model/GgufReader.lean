import TokenPlace.Model.GgufHeader

/-!
# What the GGUF reader returns

A header is read as the map of its relevant keys, whatever follows it, and a file that is cut or
malformed raises a `ValueError`. The cache gives the same results as reading the file, as long
as a file with the same path, size and time of the last write has the same contents.
-/

namespace ModelManager

open BinaryFile (Reads Fails RaisesOnly fromBytes toBytes)

variable {T U : Type}

/-! ## The map of a header -/

/-- The last value of a relevant key, and what was there before the entries. -/
def lastValue (text : T → String) (entries : List (T × GgufItem T)) (before : GgufMetadata) :
    GgufMetadata := fun key =>
  if shouldStore key then
    match entries.reverse.find? fun entry => text entry.1 = key with
    | some entry => entry.2.value text
    | none => before key
  else before key

/-- The map of the relevant keys to their values, where the last duplicate wins. -/
def GgufHeader.relevant (text : T → String) (header : GgufHeader T) : GgufMetadata :=
  lastValue text header.entries fun _ => none

/-- The value of no relevant key is an array. -/
def NoRequiredArray (text : T → String) (entries : List (T × GgufItem T)) : Prop :=
  ∀ entry ∈ entries, shouldStore (text entry.1) = true → entry.2.isArray = false

variable {text : T → String} {entry : T × GgufItem T} {before after : GgufMetadata}

theorem storeEntry_same (stores : storeEntry text before entry = some after)
    (stored : shouldStore (text entry.1) = true) : after (text entry.1) = entry.2.value text := by
  unfold storeEntry at stores
  rw [if_pos stored] at stores
  obtain ⟨value, is, rfl⟩ := Option.map_eq_some_iff.mp stores
  rw [is]
  exact if_pos rfl

theorem storeEntry_other {key : String} (stores : storeEntry text before entry = some after)
    (other : shouldStore key = true → text entry.1 ≠ key) : after key = before key := by
  unfold storeEntry at stores
  split at stores
  · next stored =>
    obtain ⟨value, _, rfl⟩ := Option.map_eq_some_iff.mp stores
    have ne : key ≠ text entry.1 := by
      rintro rfl
      exact other stored rfl
    exact if_neg ne
  · cases stores
    rfl

theorem lastValue_cons (entries : List (T × GgufItem T))
    (stores : storeEntry text before entry = some after) :
    lastValue text (entry :: entries) before = lastValue text entries after := by
  funext key
  unfold lastValue
  rw [List.reverse_cons, List.find?_append]
  cases stored : shouldStore key with
  | false => exact (storeEntry_other stores (by simp [stored])).symm
  | true =>
    cases entries.reverse.find? fun entry => text entry.1 = key with
    | some last => rfl
    | none =>
      by_cases same : text entry.1 = key
      · subst same
        simp [storeEntry_same stores stored]
      · simp [same, storeEntry_other stores fun _ => same]

theorem foldlM_storeEntry (text : T → String) (entries : List (T × GgufItem T)) :
    ∀ {before after}, entries.foldlM (storeEntry text) before = some after ↔
      NoRequiredArray text entries ∧ after = lastValue text entries before := by
  induction entries with
  | nil =>
    intro before after
    have unchanged : lastValue text [] before = before := by
      funext key
      simp [lastValue]
    rw [unchanged, List.foldlM_nil]
    exact ⟨fun is => ⟨nofun, (Option.some.inj is).symm⟩, fun is => congrArg some is.2.symm⟩
  | cons entry entries ih =>
    intro before after
    rw [List.foldlM_cons]
    have first : (∃ middle, storeEntry text before entry = some middle) ↔
        (shouldStore (text entry.1) = true → entry.2.isArray = false) := by
      constructor
      · rintro ⟨middle, is⟩
        exact ((storeEntry_eq_some text).mp is).1
      · exact fun kept => ⟨_, (storeEntry_eq_some text).mpr ⟨kept, rfl⟩⟩
    unfold NoRequiredArray
    rw [List.forall_mem_cons, ← first]
    constructor
    · intro result
      obtain ⟨middle, is, result⟩ := Option.bind_eq_some_iff.mp result
      obtain ⟨kept, rfl⟩ := ih.mp result
      exact ⟨⟨⟨middle, is⟩, kept⟩, (lastValue_cons _ is).symm⟩
    · rintro ⟨⟨⟨middle, is⟩, kept⟩, rfl⟩
      exact Option.bind_eq_some_iff.mpr ⟨middle, is, ih.mpr ⟨kept, lastValue_cons _ is⟩⟩

theorem GgufHeader.stored_eq_some (text : T → String) (header : GgufHeader T)
    {metadata : GgufMetadata} :
    header.stored text = some metadata ↔
      NoRequiredArray text header.entries ∧ metadata = header.relevant text :=
  foldlM_storeEntry text header.entries

/-! ## Only value errors -/

def Raised.IsValueError (e : Raised) : Prop := ∃ text, e = .valueError text

theorem readExact_raises (n : Nat) : RaisesOnly (readExact n) Raised.IsValueError :=
  (RaisesOnly.read n).bind fun _ => (RaisesOnly.check ⟨_, rfl⟩).bind fun _ => RaisesOnly.pure _

theorem readUnsigned_raises (w : Nat) : RaisesOnly (readUnsigned w) Raised.IsValueError :=
  (readExact_raises w).bind fun _ => RaisesOnly.pure _

theorem readString_raises : RaisesOnly readString Raised.IsValueError :=
  (readUnsigned_raises 8).bind fun length => (RaisesOnly.check ⟨_, rfl⟩).bind fun _ =>
    (readExact_raises length).bind fun _ => RaisesOnly.pure _

theorem skipBytes_raises (length : Nat) : RaisesOnly (skipBytes length) Raised.IsValueError := by
  intro f e f' result
  by_cases large : 2 ^ 34 < length
  · rw [skipBytes_large large] at result
    cases result
    exact ⟨_, rfl⟩
  · by_cases seekable : f.seekable = true
    · rw [skipBytes_seekable seekable large] at result
      split at result
      · cases result
        exact ⟨_, rfl⟩
      · cases result
    · rw [skipBytes_unseekable seekable large] at result
      exact (readExact_raises length).bind (fun _ => RaisesOnly.pure ()) f e f' result

theorem skipElements_raises (arrayType arrayLength : Nat) :
    RaisesOnly (skipElements arrayType arrayLength) Raised.IsValueError := by
  unfold skipElements
  split
  · exact skipBytes_raises _
  · split
    · exact RaisesOnly.loop (fun _ => readString_raises.bind fun _ => RaisesOnly.pure ()) _ _
    · exact RaisesOnly.raise ⟨_, rfl⟩

theorem readArray_raises (store : Bool) : RaisesOnly (readArray store) Raised.IsValueError :=
  (readUnsigned_raises 4).bind fun arrayType => (readUnsigned_raises 8).bind fun arrayLength =>
    (RaisesOnly.check ⟨_, rfl⟩).bind fun _ =>
      (skipElements_raises arrayType arrayLength).bind fun _ =>
        (RaisesOnly.check ⟨_, rfl⟩).bind fun _ => RaisesOnly.pure none

theorem readOrSkipValue_raises (valueType : Nat) (store : Bool) :
    RaisesOnly (readOrSkipValue valueType store) Raised.IsValueError := by
  unfold readOrSkipValue
  split
  · exact ((readExact_raises _).bind fun _ => RaisesOnly.pure _).bind fun _ => RaisesOnly.pure _
  · split
    · exact readString_raises.bind fun _ => RaisesOnly.pure _
    · split
      · exact readArray_raises store
      · exact RaisesOnly.raise ⟨_, rfl⟩

theorem readEntry_raises (metadata : GgufMetadata) :
    RaisesOnly (readEntry metadata) Raised.IsValueError :=
  readString_raises.bind fun key => (readUnsigned_raises 4).bind fun valueType =>
    (readOrSkipValue_raises valueType (shouldStore key)).bind fun _ => RaisesOnly.pure _

theorem readMetadata_raises (maxKv : Nat) :
    RaisesOnly (readMetadata maxKv) Raised.IsValueError :=
  (readExact_raises 4).bind fun _ => (RaisesOnly.check ⟨_, rfl⟩).bind fun _ =>
    (readUnsigned_raises 4).bind fun _ => (RaisesOnly.check ⟨_, rfl⟩).bind fun _ =>
      (readUnsigned_raises 8).bind fun _ => (readUnsigned_raises 8).bind fun kvCount =>
        (RaisesOnly.check ⟨_, rfl⟩).bind fun _ => RaisesOnly.loop readEntry_raises kvCount _

/-! ## Malformed files -/

/-- The type is none of the scalars. -/
def NotScalar (code : Nat) : Prop := scalarFormats code = none

/-- The bytes of an entry, and whatever follows it, that the reader cannot read: an oversized
length of a key, a string, an array or a string in an array, an unknown type of a value, or an
array whose elements are neither scalars nor strings, such as an array of arrays. -/
inductive MalformedEntry : List UInt8 → Prop
  | keyLength {n rest} (oversized : 2 ^ 20 < n) (fits : n < 2 ^ 64) :
    MalformedEntry (toBytes 8 n ++ rest)
  | valueType {code rest} (key : GgufText) (unknown : NotScalar code) (notText : code ≠ 8)
      (notArray : code ≠ 9) (fits : code < 2 ^ 32) :
    MalformedEntry (key.spell ++ (toBytes 4 code ++ rest))
  | textLength {n rest} (key : GgufText) (oversized : 2 ^ 20 < n) (fits : n < 2 ^ 64) :
    MalformedEntry (key.spell ++ (toBytes 4 8 ++ (toBytes 8 n ++ rest)))
  | arrayLength {arrayType n rest} (key : GgufText) (type : arrayType < 2 ^ 32)
      (oversized : 2 ^ 24 < n) (fits : n < 2 ^ 64) :
    MalformedEntry (key.spell ++ (toBytes 4 9 ++ (toBytes 4 arrayType ++ (toBytes 8 n ++ rest))))
  | arrayType {arrayType n rest} (key : GgufText) (unknown : NotScalar arrayType)
      (notText : arrayType ≠ 8) (type : arrayType < 2 ^ 32) (fits : n < 2 ^ 64) :
    MalformedEntry (key.spell ++ (toBytes 4 9 ++ (toBytes 4 arrayType ++ (toBytes 8 n ++ rest))))
  | elementLength {count n rest} (key : GgufText) (elements : List GgufText)
      (more : elements.length < count) (small : count < 2 ^ 64) (oversized : 2 ^ 20 < n)
      (fits : n < 2 ^ 64) :
    MalformedEntry (key.spell ++ (toBytes 4 9 ++ (toBytes 4 8 ++ (toBytes 8 count ++
      (elements.flatMap GgufText.spell ++ (toBytes 8 n ++ rest))))))

/-- A file that is no header: the wrong magic, a version or a number of entries that is not
supported, or a malformed entry behind well-formed ones. -/
inductive MalformedFile (maxKv : Nat) : List UInt8 → Prop
  | magic {contents} (wrong : contents.take 4 ≠ ggufMagic) : MalformedFile maxKv contents
  | version {n rest} (unsupported : n ∉ [2, 3]) (fits : n < 2 ^ 32) :
    MalformedFile maxKv (ggufMagic ++ (toBytes 4 n ++ rest))
  | count {version n rest} (tensorCount : BitVec 64) (supported : version ∈ [2, 3])
      (oversized : maxKv < n) (fits : n < 2 ^ 64) :
    MalformedFile maxKv (ggufMagic ++ (toBytes 4 version ++ (toBytes 8 tensorCount.toNat ++
      (toBytes 8 n ++ rest))))
  | entry {version n bs} (tensorCount : BitVec 64) (supported : version ∈ [2, 3])
      (entries : List (GgufText × GgufItem GgufText)) (more : entries.length < n)
      (fits : n < 2 ^ 64) (malformed : MalformedEntry bs) :
    MalformedFile maxKv (ggufMagic ++ (toBytes 4 version ++ (toBytes 8 tensorCount.toNat ++
      (toBytes 8 n ++ (entries.flatMap GgufItem.spellEntry ++ bs)))))

variable {n : Nat} {bs : List UInt8}

theorem readString_oversized (oversized : 2 ^ 20 < n) (fits : n < 2 ^ 64) :
    Fails readString (toBytes 8 n ++ bs) Raised.IsValueError :=
  Fails.right (readUnsigned_reads 8) ⟨fits, rfl⟩ (Fails.check oversized ⟨_, rfl⟩)

variable {header : GgufHeader GgufText} {arrayType : Nat} {call : GgufCall} {trailing : List UInt8}
  {code : Nat}

theorem readArray_oversized (store : Bool) (type : arrayType < 2 ^ 32)
    (oversized : 2 ^ 24 < n) (fits : n < 2 ^ 64) :
    Fails (readArray store) (toBytes 4 arrayType ++ (toBytes 8 n ++ bs)) Raised.IsValueError :=
  Fails.right (readUnsigned_reads 4) ⟨type, rfl⟩
    (Fails.right (readUnsigned_reads 8) ⟨fits, rfl⟩ (Fails.check oversized ⟨_, rfl⟩))

theorem readArray_elements (store : Bool) (type : arrayType < 2 ^ 32)
    (fits : n < 2 ^ 64) (fails : Fails (skipElements arrayType n) bs Raised.IsValueError) :
    Fails (readArray store) (toBytes 4 arrayType ++ (toBytes 8 n ++ bs)) Raised.IsValueError := by
  by_cases oversized : 2 ^ 24 < n
  · exact readArray_oversized store type oversized fits
  exact Fails.right (readUnsigned_reads 4) ⟨type, rfl⟩
    (Fails.right (readUnsigned_reads 8) ⟨fits, rfl⟩ (Fails.passed oversized fails.bind))

theorem skipElements_unknown (unknown : NotScalar arrayType) (notText : arrayType ≠ 8) :
    Fails (skipElements arrayType n) bs Raised.IsValueError := by
  unfold skipElements
  rw [unknown]
  show Fails (if arrayType = 8 then _ else _) _ _
  rw [if_neg notText]
  exact Fails.raise ⟨_, rfl⟩

theorem skipElements_oversized {count : Nat} (elements : List GgufText)
    (more : elements.length < count) (oversized : 2 ^ 20 < n) (fits : n < 2 ^ 64) :
    Fails (skipElements 8 count) (elements.flatMap GgufText.spell ++ (toBytes 8 n ++ bs))
      Raised.IsValueError := by
  have once : ∀ _ : Unit, Reads (readString >>= fun _ => (pure () : GgufReader Unit))
      fun a bs => ∃ t : GgufText, bs = t.spell ∧ some () = some a := fun _ =>
    (readString_reads.map fun _ => ()).congr fun _ bs => by simp
  exact Fails.loop once nofun (fun _ => (readString_oversized oversized fits).bind) more

theorem readEntry_value (metadata : GgufMetadata) (key : GgufText) (type : code < 2 ^ 32)
    (fails : ∀ store, Fails (readOrSkipValue code store) bs Raised.IsValueError) :
    Fails (readEntry metadata) (key.spell ++ (toBytes 4 code ++ bs)) Raised.IsValueError :=
  Fails.right readString_reads ⟨key, rfl, rfl⟩
    (Fails.right (readUnsigned_reads 4) ⟨type, rfl⟩ (fails _).bind)

theorem readOrSkipValue_unknown (unknown : NotScalar code) (notText : code ≠ 8)
    (notArray : code ≠ 9) (store : Bool) :
    Fails (readOrSkipValue code store) bs Raised.IsValueError := by
  unfold readOrSkipValue
  rw [unknown]
  show Fails (if code = 8 then _ else if code = 9 then _ else _) _ _
  rw [if_neg notText, if_neg notArray]
  exact Fails.raise ⟨_, rfl⟩

theorem malformedEntry_fails (malformed : MalformedEntry bs) (metadata : GgufMetadata) :
    Fails (readEntry metadata) bs Raised.IsValueError := by
  cases malformed with
  | keyLength oversized fits => exact (readString_oversized oversized fits).bind
  | valueType key unknown notText notArray fits =>
    exact readEntry_value metadata key fits (readOrSkipValue_unknown unknown notText notArray)
  | textLength key oversized fits =>
    exact readEntry_value metadata key (by decide) fun _ =>
      (readString_oversized oversized fits).bind
  | arrayLength key type oversized fits =>
    exact readEntry_value metadata key (by decide) fun store =>
      readArray_oversized store type oversized fits
  | arrayType key unknown notText type fits =>
    exact readEntry_value metadata key (by decide) fun store =>
      readArray_elements store type fits (skipElements_unknown unknown notText)
  | elementLength key elements more small oversized fits =>
    exact readEntry_value metadata key (by decide) fun store =>
      readArray_elements store (by decide) small
        (skipElements_oversized elements more oversized fits)

/-- A required array raises its own error. -/
def IsRequiredArray (e : Raised) : Prop :=
  e = .valueError "gguf_required_metadata_array_unsupported"

theorem readArray_required {item : GgufItem GgufText} (array : item.isArray = true) :
    Fails (readArray true) item.payload IsRequiredArray := by
  -- The elements are skipped before the array is refused.
  have refused {bs} (arrayType : Nat) {arrayLength : Nat} (type : arrayType < 2 ^ 32)
      (bound : arrayLength ≤ 2 ^ 24) (elements : SpellsElements arrayType arrayLength bs) :
      Fails (readArray true) (toBytes 4 arrayType ++ (toBytes 8 arrayLength ++ bs))
        IsRequiredArray :=
    Fails.right (readUnsigned_reads 4) ⟨type, rfl⟩
      (Fails.right (readUnsigned_reads 8) ⟨by omega, rfl⟩
        (Fails.passed (not_lt.mpr bound)
          (Fails.behind (skipElements_reads arrayType bound) (a := ()) elements
            (Fails.check rfl rfl))))
  cases item with
  | scalar | text => cases array
  | scalars format elements bound =>
    exact refused _ format.code_lt bound (.inl ⟨format, elements, rfl, rfl, rfl⟩)
  | texts elements bound =>
    exact refused _ (by decide) bound (.inr ⟨elements, rfl, rfl, rfl⟩)

theorem readEntry_stops (metadata : GgufMetadata) (entry : GgufText × GgufItem GgufText)
    (stops : storeEntry GgufText.decode metadata entry = none) :
    Fails (readEntry metadata) (GgufItem.spellEntry entry) IsRequiredArray := by
  obtain ⟨key, item⟩ := entry
  unfold storeEntry at stops
  split at stops
  · next stored =>
    have array := (item.value_eq_none _).mp (Option.map_eq_none_iff.mp stops)
    have code : item.code = 9 := by
      cases item with
      | scalar | text => cases array
      | scalars => rfl
      | texts => rfl
    refine Fails.right readString_reads ⟨key, rfl, rfl⟩
      (Fails.right (readUnsigned_reads 4) ⟨item.code_lt, rfl⟩ (Fails.bind ?_))
    show Fails (readOrSkipValue item.code (shouldStore key.decode)) item.payload _
    rw [code, stored]
    exact readArray_required array
  · cases stops

variable {maxKv version : Nat} {contents : List UInt8} {P : Raised → Prop}

theorem readMetadata_counts (supported : version ∈ [2, 3]) (tensorCount : BitVec 64)
    (fits : n < 2 ^ 64)
    (fails : Fails (Method.raiseIf (maxKv < n) (.valueError "gguf_kv_count_too_large") >>= fun _ =>
      BinaryFile.loop readEntry n fun _ => none) bs P) :
    Fails (readMetadata maxKv) (ggufMagic ++ (toBytes 4 version ++
      (toBytes 8 tensorCount.toNat ++ (toBytes 8 n ++ bs)))) P := by
  have small : version < 2 ^ 32 := by
    obtain rfl | rfl : version = 2 ∨ version = 3 := by simpa using supported
    · decide
    · decide
  exact Fails.right (readExact_reads 4) ⟨rfl, rfl⟩ (Fails.passed (not_not.mpr rfl)
    (Fails.right (readUnsigned_reads 4) ⟨small, rfl⟩ (Fails.passed (not_not.mpr supported)
      (Fails.right (readUnsigned_reads 8) ⟨tensorCount.isLt, rfl⟩
        (Fails.right (readUnsigned_reads 8) ⟨fits, rfl⟩ fails)))))

theorem malformedFile_error (malformed : MalformedFile maxKv contents) (seekable : Bool) :
    ∃ text f, readMetadata maxKv (.opened contents seekable) = (.error (.valueError text), f) := by
  obtain ⟨e, f, result⟩ :
      ∃ e f, readMetadata maxKv (.opened contents seekable) = (.error e, f) := by
    have failed {bs} (fails : Fails (readMetadata maxKv) bs Raised.IsValueError) :
        ∃ e f, readMetadata maxKv (.opened bs seekable) = (.error e, f) := by
      obtain ⟨e, f, result, _⟩ := fails _ (BinaryFile.opened_inRange bs seekable) List.prefix_rfl
      exact ⟨e, f, result⟩
    cases malformed with
    | magic wrong =>
      obtain ⟨e | metadata, f, result⟩ :
        ∃ r f, readMetadata maxKv (.opened contents seekable) = (r, f) := ⟨_, _, rfl⟩
      · exact ⟨e, f, result⟩
      · obtain ⟨_, ⟨header, _, rfl, _⟩, first, _⟩ :=
          (readMetadata_reads maxKv).sound (BinaryFile.opened_inRange contents seekable) result
        obtain ⟨trailing, split⟩ := first
        have whole : header.spell ++ trailing = contents := split
        rw [← whole, GgufHeader.spell, List.append_assoc] at wrong
        exact absurd rfl wrong
    | version unsupported fits =>
      exact failed (Fails.right (readExact_reads 4) ⟨rfl, rfl⟩ (Fails.passed (not_not.mpr rfl)
        (Fails.right (readUnsigned_reads 4) ⟨fits, rfl⟩ (Fails.check unsupported ⟨_, rfl⟩))))
    | count tensorCount supported oversized fits =>
      exact failed (readMetadata_counts supported tensorCount fits
        (Fails.check oversized ⟨_, rfl⟩))
    | @entry version n bs tensorCount supported entries more fits malformed =>
      refine failed (readMetadata_counts supported tensorCount fits ?_)
      by_cases oversized : maxKv < n
      · exact Fails.check oversized ⟨_, rfl⟩
      · refine Fails.passed oversized (Fails.loop readEntry_reads (fun metadata entry stops => ?_)
          (malformedEntry_fails malformed) more)
        exact (readEntry_stops metadata entry stops).mono fun e required => ⟨_, required⟩
  obtain ⟨text, rfl⟩ := readMetadata_raises maxKv _ _ _ result
  exact ⟨text, f, result⟩

theorem requiredArray_error (bound : header.entries.length ≤ maxKv)
    (required : header.stored GgufText.decode = none) :
    Fails (readMetadata maxKv) header.spell IsRequiredArray :=
  readMetadata_counts header.supported header.tensorCount header.countable
    (Fails.passed (not_lt.mpr bound) (Fails.loop_stopped readEntry_reads readEntry_stops required))

theorem truncated_error (bound : header.entries.length ≤ maxKv)
    (cut : contents <+: header.spell) (proper : contents ≠ header.spell) (seekable : Bool) :
    ∃ e f, readMetadata maxKv (.opened contents seekable) = (.error e, f) := by
  cases stored : header.stored GgufText.decode with
  | some metadata =>
    exact (readMetadata_reads maxKv).truncated ⟨header, bound, rfl, stored⟩ cut proper seekable
  | none =>
    obtain ⟨e | metadata, f, result⟩ :
      ∃ r f, readMetadata maxKv (.opened contents seekable) = (r, f) := ⟨_, _, rfl⟩
    · exact ⟨e, f, result⟩
    · obtain ⟨bs, spelled, first, _⟩ :=
        (readMetadata_reads maxKv).sound (BinaryFile.opened_inRange contents seekable) result
      -- The whole header would be read where it has to raise.
      have whole := BinaryFile.opened_inRange header.spell seekable
      obtain ⟨_, done, _⟩ := (readMetadata_reads maxKv).complete whole spelled (first.trans cut)
      obtain ⟨_, _, raised, _⟩ := requiredArray_error bound stored _ whole List.prefix_rfl
      cases done.symm.trans raised

/-! ## Texts in UTF-8 -/

/-- A text whose UTF-8 bytes the format can hold. -/
abbrev Utf8Text := { s : String // (Utf8.encode s.toList).length ≤ 2 ^ 20 }

def Utf8Text.raw (t : Utf8Text) : GgufText := ⟨Utf8.encode t.1.toList, t.2⟩

@[simp] theorem Utf8Text.raw_decode (t : Utf8Text) : t.raw.decode = t.1 := by
  show String.ofList (Utf8.decode (Utf8.encode t.1.toList)) = t.1
  rw [Utf8.decode_encode, String.ofList_toList]

def GgufItem.map (f : T → U) : GgufItem T → GgufItem U
  | .scalar format bits => .scalar format bits
  | .text t => .text (f t)
  | .scalars format elements bound => .scalars format elements bound
  | .texts elements bound => .texts (elements.map f) (by rwa [List.length_map])

@[simp] theorem GgufItem.value_map (f : T → U) (text : U → String) (item : GgufItem T) :
    (item.map f).value text = item.value (text ∘ f) := by cases item <;> rfl

@[simp] theorem GgufItem.isArray_map (f : T → U) (item : GgufItem T) :
    (item.map f).isArray = item.isArray := by cases item <;> rfl

/-- The header with its texts as bytes. -/
def GgufHeader.raw (header : GgufHeader Utf8Text) : GgufHeader GgufText where
  version := header.version
  supported := header.supported
  tensorCount := header.tensorCount
  entries := header.entries.map fun entry => (entry.1.raw, entry.2.map Utf8Text.raw)
  countable := by
    rw [List.length_map]
    exact header.countable

/-- The bytes of the header in the file. -/
def GgufHeader.encoded (header : GgufHeader Utf8Text) : List UInt8 := header.raw.spell

theorem GgufHeader.raw_length (header : GgufHeader Utf8Text) :
    header.raw.entries.length = header.entries.length := List.length_map ..

theorem decode_comp_raw : GgufText.decode ∘ Utf8Text.raw = Subtype.val :=
  funext Utf8Text.raw_decode

theorem GgufHeader.raw_relevant (header : GgufHeader Utf8Text) :
    header.raw.relevant GgufText.decode = header.relevant Subtype.val := by
  funext key
  unfold GgufHeader.relevant lastValue GgufHeader.raw
  simp only [← List.map_reverse, List.find?_map, Function.comp_def, Utf8Text.raw_decode]
  cases header.entries.reverse.find? fun entry => entry.1.1 = key with
  | none => rfl
  | some entry => simp [decode_comp_raw]

theorem GgufHeader.raw_noRequiredArray (header : GgufHeader Utf8Text) :
    NoRequiredArray GgufText.decode header.raw.entries ↔
      NoRequiredArray Subtype.val header.entries := by
  unfold NoRequiredArray GgufHeader.raw
  simp only [List.forall_mem_map, Utf8Text.raw_decode, GgufItem.isArray_map]

/-! ## The result of a call -/

/-- What a call returns or raises for the contents of its file. -/
structure ReadsExactly (call : GgufCall) (result : Except Raised GgufMetadata) : Prop where
  decodes : ∀ (header : GgufHeader Utf8Text) (trailing : List UInt8),
    call.contents = header.encoded ++ trailing → header.entries.length ≤ call.maxKv →
      NoRequiredArray Subtype.val header.entries → result = .ok (header.relevant Subtype.val)
  required : ∀ (header : GgufHeader Utf8Text) (trailing : List UInt8),
    call.contents = header.encoded ++ trailing → header.entries.length ≤ call.maxKv →
      ¬ NoRequiredArray Subtype.val header.entries →
        result = .error (.valueError "gguf_required_metadata_array_unsupported")
  truncated : ∀ header : GgufHeader Utf8Text, call.contents <+: header.encoded →
    call.contents ≠ header.encoded → header.entries.length ≤ call.maxKv →
      ∃ text, result = .error (.valueError text)
  malformed : MalformedFile call.maxKv call.contents → ∃ text, result = .error (.valueError text)
  /-- Where the file is read, no byte behind the header is given out. -/
  within : ∀ (header : GgufHeader Utf8Text) (trailing : List UInt8),
    call.contents = header.encoded ++ trailing → header.entries.length ≤ call.maxKv →
      call.read.2.consumed ≤ header.encoded.length
  /-- Every call ends, and it returns only what some header in the file stands for. -/
  ends : (∃ (header : GgufHeader GgufText) (trailing : List UInt8),
      call.contents = header.spell ++ trailing ∧ header.entries.length ≤ call.maxKv ∧
        result = .ok (header.relevant GgufText.decode)) ∨
    ∃ text, result = .error (.valueError text)

theorem GgufCall.read_ok (is : call.contents = header.spell ++ trailing)
    (bound : header.entries.length ≤ call.maxKv)
    (kept : NoRequiredArray GgufText.decode header.entries) :
    ∃ f, call.read = (.ok (header.relevant GgufText.decode), f) ∧
      f.consumed ≤ header.spell.length := by
  have stored := (header.stored_eq_some GgufText.decode).mpr ⟨kept, rfl⟩
  obtain ⟨f, done, moved⟩ := (readMetadata_reads call.maxKv).complete
    (BinaryFile.opened_inRange call.contents call.seekable) ⟨header, bound, rfl, stored⟩
    ⟨trailing, is.symm⟩
  refine ⟨f, done, moved.consumed.trans ?_⟩
  rw [moved.position]
  exact (Nat.max_eq_right (Nat.zero_le _)).trans (Nat.zero_add _) |>.le

theorem GgufCall.read_required (is : call.contents = header.spell ++ trailing)
    (bound : header.entries.length ≤ call.maxKv)
    (required : ¬ NoRequiredArray GgufText.decode header.entries) :
    ∃ f, call.read = (.error (.valueError "gguf_required_metadata_array_unsupported"), f) ∧
      f.consumed ≤ header.spell.length := by
  have stops : header.stored GgufText.decode = none := by
    rw [Option.eq_none_iff_forall_ne_some]
    intro metadata stored
    exact required ((header.stored_eq_some _).mp stored).1
  obtain ⟨_, f, raised, rfl, consumed⟩ := requiredArray_error bound stops
    (.opened call.contents call.seekable) (BinaryFile.opened_inRange ..) ⟨trailing, is.symm⟩
  exact ⟨f, raised, consumed.trans (by simp [BinaryFile.opened])⟩

theorem GgufCall.read_exact (call : GgufCall) : ReadsExactly call call.read.1 where
  decodes header trailing is bound kept := by
    obtain ⟨f, done, _⟩ := GgufCall.read_ok is (header.raw_length ▸ bound)
      (header.raw_noRequiredArray.mpr kept)
    rw [done, header.raw_relevant]
  required header trailing is bound required := by
    obtain ⟨f, raised, _⟩ := GgufCall.read_required is (header.raw_length ▸ bound)
      (fun kept => required (header.raw_noRequiredArray.mp kept))
    rw [raised]
  truncated header cut proper bound := by
    obtain ⟨e, f, result⟩ :=
      truncated_error (header.raw_length ▸ bound) cut proper call.seekable
    obtain ⟨text, rfl⟩ := readMetadata_raises call.maxKv _ _ _ result
    exact ⟨text, congrArg Prod.fst result⟩
  malformed malformed := by
    obtain ⟨text, f, result⟩ := malformedFile_error malformed call.seekable
    exact ⟨text, congrArg Prod.fst result⟩
  within header trailing is bound := by
    rw [← header.raw_length] at bound
    by_cases kept : NoRequiredArray GgufText.decode header.raw.entries
    · obtain ⟨f, done, consumed⟩ := GgufCall.read_ok is bound kept
      rw [done]
      exact consumed
    · obtain ⟨f, raised, consumed⟩ := GgufCall.read_required is bound kept
      rw [raised]
      exact consumed
  ends := by
    obtain ⟨e | metadata, f, result⟩ : ∃ r f, call.read = (r, f) := ⟨_, _, rfl⟩
    · obtain ⟨text, rfl⟩ := readMetadata_raises call.maxKv _ _ _ result
      exact .inr ⟨text, congrArg Prod.fst result⟩
    · obtain ⟨_, ⟨header, bound, rfl, stored⟩, ⟨trailing, split⟩, _⟩ :=
        (readMetadata_reads call.maxKv).sound (BinaryFile.opened_inRange ..) result
      obtain ⟨_, rfl⟩ := (header.stored_eq_some _).mp stored
      exact .inl ⟨header, trailing, split.symm, bound, congrArg Prod.fst result⟩

/-! ## Calls through the cache -/

/-- The path, the size and the time of the last write tell which file it is. -/
def Identifies (calls : List GgufCall) : Prop :=
  ∀ call ∈ calls, ∀ other ∈ calls, call.identity = other.identity →
    call.contents = other.contents ∧ call.seekable = other.seekable

/-- The cached map is what reading gives, for every call that would find it. -/
def GgufCache.Agrees (calls : List GgufCall) (cache : GgufCache) : Prop :=
  ∀ call ∈ calls, ∀ metadata, cache.get (call.identity, call.maxKv) = some metadata →
    call.read.1 = .ok metadata

variable {calls : List GgufCall} {cache : GgufCache}

theorem readGgufMetadata_agrees (identifies : Identifies calls) (agrees : cache.Agrees calls)
    (member : call ∈ calls) :
    (readGgufMetadata call cache).1 = call.read.1 ∧
      (readGgufMetadata call cache).2.Agrees calls := by
  unfold readGgufMetadata
  cases found : cache.get (call.identity, call.maxKv) with
  | some cached => exact ⟨(agrees call member cached found).symm, agrees⟩
  | none =>
    cases result : call.read.1 with
    | error e => exact ⟨rfl, agrees⟩
    | ok metadata =>
      refine ⟨rfl, fun other isOther metadata' hit => ?_⟩
      simp only [GgufCache.get] at hit
      split at hit
      · next same =>
        cases hit
        obtain ⟨identity, maxKv⟩ := Prod.mk.injEq .. ▸ same
        obtain ⟨contents, seekable⟩ := identifies call member other isOther identity
        unfold GgufCall.read at result ⊢
        rw [← contents, ← seekable, ← maxKv, result]
      · cases hit

theorem runCalls_agrees {all : List GgufCall} (identifies : Identifies all) :
    ∀ {calls cache}, (∀ call ∈ calls, call ∈ all) → cache.Agrees all →
      (runCalls calls cache).1 = calls.map fun call => call.read.1 := by
  intro calls
  induction calls with
  | nil => exact fun _ _ => rfl
  | cons call calls ih =>
    intro cache members agrees
    rw [List.forall_mem_cons] at members
    obtain ⟨result, agrees'⟩ := readGgufMetadata_agrees identifies agrees members.1
    show (readGgufMetadata call cache).1 :: (runCalls calls (readGgufMetadata call cache).2).1 = _
    rw [result, ih members.2 agrees']
    rfl

theorem runCalls_single (call : GgufCall) (cache : GgufCache) :
    (runCalls [call] cache).1 = [(readGgufMetadata call cache).1] := rfl

/-- A file with a repeated key, a skipped array and bytes behind its header. -/
def sampleHeader : GgufHeader Utf8Text where
  version := 3
  supported := by decide
  tensorCount := 399
  entries := [
    (⟨"general.architecture", by decide +kernel⟩, .text ⟨"qwen3", by decide +kernel⟩),
    (⟨"qwen3.block_count", by decide +kernel⟩, .scalar .uint32 36),
    (⟨"tokenizer.ggml.tokens", by decide +kernel⟩,
      .texts [⟨"a", by decide +kernel⟩, ⟨"ü", by decide +kernel⟩] (by decide)),
    (⟨"qwen3.rope.freq_base", by decide +kernel⟩, .scalar .float32 0x49742400),
    (⟨"qwen3.block_count", by decide +kernel⟩, .scalar .int8 28)]
  countable := by decide

def sampleCall : GgufCall where
  identity := ⟨"/models/qwen3.gguf", 4096, 1⟩
  contents := sampleHeader.encoded ++ [0x00, 0xFF]
  seekable := true

end ModelManager
