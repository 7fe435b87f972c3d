import TokenPlace.Model.KvEstimate

/-!
# What the KV cache estimate returns

For every helper, what it returns and when. The estimate for a known backend is the exact size
of both tensors in every layer, and it is missing exactly if a row is not accepted or the size
does not fit into 63 bits. The order of the sizes follows from that of the tensors: the padding
of a tensor only depends on its bytes, and the CUDA tail is made up for by the first 256 rows.
-/

namespace ModelManager

/-! ## Rows and tensors -/

/-- The bytes of a row of whole blocks. -/
def KvType.rowBytes (t : KvType) (rows : Nat) : Nat := rows / t.blockSize * t.typeSize

/-- The tail that CUDA adds to a quantized tensor. -/
def tailBytes (b : KvBackend) (t : KvType) (rows : Nat) : Nat :=
  if b = .cuda ∧ 1 < t.blockSize ∧ rows % 512 ≠ 0 then t.rowBytes (512 - rows % 512) else 0

/-- The bytes of a tensor before it is aligned. -/
def tensorBytes (b : KvBackend) (t : KvType) (rows columns : Nat) : Nat :=
  t.rowBytes rows * columns + tailBytes b t rows

/-- The bytes that are allocated for a tensor. -/
def allocatedBytes (b : KvBackend) (t : KvType) (rows columns : Nat) : Nat :=
  roundUp (tensorBytes b t rows columns) b.alignment

/-- A row that `_ggml_row_size_bytes` accepts. -/
structure KvType.FitsRow (t : KvType) (rows : Nat) : Prop where
  positive : 0 < rows
  bounded : rows ≤ 2 ^ 40
  whole : rows % t.blockSize = 0

variable {t : KvType} {b : KvBackend} {rows columns : Nat} {ggmlType : String}

theorem rowBytes_le (t : KvType) (rows : Nat) : t.rowBytes rows ≤ 2 * rows := by
  unfold KvType.rowBytes
  cases t <;> simp only [KvType.blockSize, KvType.typeSize] <;> omega

theorem rowBytes_pos (fits : t.FitsRow rows) : 0 < t.rowBytes rows := by
  obtain ⟨positive, _, whole⟩ := fits
  unfold KvType.rowBytes
  cases t <;> simp only [KvType.blockSize, KvType.typeSize] at whole ⊢ <;> omega

theorem ggmlRowSizeBytes_eq_ok {size : Nat} :
    ggmlRowSizeBytes rows ggmlType = .ok size ↔
      ∃ t, kvTypeOf ggmlType = some t ∧ t.FitsRow rows ∧ t.rowBytes rows = size := by
  simp only [ggmlRowSizeBytes, Method.bind_ok_iff, checkedPositiveInt_natCast]
  constructor
  · rintro ⟨_, ⟨rfl, positive, bounded⟩, checked⟩
    cases known : kvTypeOf ggmlType with
    | none => simp [known] at checked
    | some t =>
      simp only [known, Method.bind_ok_iff, require_eq_ok, checkedMul_eq_ok] at checked
      obtain ⟨_, whole, same, _⟩ := checked
      exact ⟨t, rfl, ⟨positive, bounded, whole⟩, same⟩
  · rintro ⟨t, known, fits, rfl⟩
    refine ⟨rows, ⟨rfl, fits.positive, fits.bounded⟩, ?_⟩
    simp only [known, Method.bind_ok_iff, require_eq_ok, checkedMul_eq_ok]
    refine ⟨(), fits.whole, rfl, ?_⟩
    have small := rowBytes_le t rows
    have bounded := fits.bounded
    unfold KvType.rowBytes at small
    omega

theorem backendTailPadding_eq_ok (known : kvTypeOf ggmlType = some t) (fits : t.FitsRow rows) :
    backendTailPadding b rows ggmlType = .ok (tailBytes b t rows) := by
  simp only [backendTailPadding, tailBytes, known, Option.mem_def, Option.some.injEq,
    exists_eq_left']
  split
  · next padded =>
    refine ggmlRowSizeBytes_eq_ok.mpr ⟨t, known, ⟨?_, ?_, ?_⟩, rfl⟩
    · omega
    · omega
    · have whole := fits.whole
      cases t <;> simp only [KvType.blockSize] at whole ⊢ <;> omega
  · rfl

@[simp] theorem normalizeKvBackend_name (b : KvBackend) :
    normalizeKvBackend b.name = some b := by
  cases b <;> decide +kernel

/-- What `_ggml_tensor_2d_allocation_breakdown` returns where it does not raise. -/
def exactBreakdown (b : KvBackend) (t : KvType) (rows columns : Nat) : TensorBreakdown where
  rowPayloadBytes := t.rowBytes rows
  logicalPayloadBytes := t.rowBytes rows * columns
  backendTailPaddingBytes := tailBytes b t rows
  allocatorAlignmentPaddingBytes := allocatedBytes b t rows columns - tensorBytes b t rows columns
  allocationBytes := allocatedBytes b t rows columns

theorem alignment_pos (b : KvBackend) : 0 < b.alignment := by
  cases b <;> decide

/-- The greatest integer that a check lets through is one less than a multiple of every
alignment. -/
theorem alignment_whole (b : KvBackend) : 2 ^ 63 - 1 + 1 = 2 ^ 63 / b.alignment * b.alignment := by
  cases b <;> decide

theorem tensorBytes_le_allocatedBytes :
    tensorBytes b t rows columns ≤ allocatedBytes b t rows columns :=
  (roundUp_isLeast _ (alignment_pos b)).1.2

theorem ggmlTensor2dAllocationBreakdown_eq_ok {r : TensorBreakdown} :
    ggmlTensor2dAllocationBreakdown rows columns ggmlType b.name = .ok r ↔
      ∃ t, kvTypeOf ggmlType = some t ∧ t.FitsRow rows ∧ 0 < columns ∧ columns ≤ 2 ^ 40 ∧
        allocatedBytes b t rows columns ≤ 2 ^ 63 - 1 ∧ exactBreakdown b t rows columns = r := by
  simp only [ggmlTensor2dAllocationBreakdown, normalizeKvBackend_name, Method.bind_ok_iff,
    checkedPositiveInt_natCast, checkedMul_eq_ok, checkedAdd_eq_ok, alignUp_eq_ok]
  constructor
  · rintro ⟨_, ⟨rfl, _, _⟩, _, sized, _, ⟨rfl, wide, narrow⟩, _, ⟨rfl, _⟩, tail, padded,
      _, ⟨rfl, _⟩, _, ⟨rfl, _, _, _, _, fits⟩, same⟩
    obtain ⟨t, known, row, rfl⟩ := ggmlRowSizeBytes_eq_ok.mp sized
    rw [backendTailPadding_eq_ok known row] at padded
    cases padded
    cases same
    exact ⟨t, known, row, wide, narrow,
      (roundUp_le_iff (alignment_pos b) (alignment_whole b)).mpr fits, rfl⟩
  · rintro ⟨t, known, row, wide, narrow, fits, rfl⟩
    have below : tensorBytes b t rows columns ≤ 2 ^ 63 - 1 :=
      tensorBytes_le_allocatedBytes.trans fits
    refine ⟨rows, ⟨rfl, row.positive, row.bounded⟩, t.rowBytes rows,
      ggmlRowSizeBytes_eq_ok.mpr ⟨t, known, row, rfl⟩, columns, ⟨rfl, wide, narrow⟩, _,
      ⟨rfl, ?_⟩, _, backendTailPadding_eq_ok known row, _, ⟨rfl, below⟩, _,
      ⟨rfl, ?_, below, alignment_pos b, ?_, ?_⟩, rfl⟩
    · exact (Nat.le_add_right ..).trans below
    · exact Nat.add_pos_left (Nat.mul_pos (rowBytes_pos row) wide) _
    · cases b <;> decide
    · exact (roundUp_le_iff (alignment_pos b) (alignment_whole b)).mp fits

/-! ## The derived layout -/

section

variable {metadata : Metadata} {arch suffix name : String} {value : MetaValue} {c : Nat}

theorem checkedPositiveInt_pos {maximum : Nat}
    (checked : checkedPositiveInt value name maximum = .ok c) : 0 < c := by
  cases value with
  | int n => exact (checkedPositiveInt_eq_ok.mp checked).2.1
  | bool _ | text _ | object _ _ => cases checked

theorem metaInt_pos {default : Option Nat} (positive : ∀ d ∈ default, 0 < d)
    (found : metaInt metadata arch suffix name default = .ok c) : 0 < c := by
  unfold metaInt at found
  split at found
  · exact checkedPositiveInt_pos found
  · cases found
    exact positive _ rfl
  · cases found

theorem metaInt?_pos {found : Option Nat}
    (looked : metaInt? metadata arch suffix name = .ok found) :
    ∀ c ∈ found, 0 < c := by
  unfold metaInt? at looked
  split at looked
  · next value _ =>
    cases checked : checkedPositiveInt value name (2 ^ 30) with
    | error e =>
      rw [checked] at looked
      cases looked
    | ok c =>
      rw [checked] at looked
      cases looked
      rintro _ ⟨⟩
      exact checkedPositiveInt_pos checked
  · cases looked
    nofun

theorem headDims_pos {headCount : Nat} {keyDim valueDim : Option Nat} {dims : Nat × Nat}
    (heads : 0 < headCount) (key : ∀ d ∈ keyDim, 0 < d) (val : ∀ d ∈ valueDim, 0 < d)
    (derived : headDims metadata arch headCount keyDim valueDim = .ok dims) :
    0 < dims.1 ∧ 0 < dims.2 := by
  have split : ∀ {embd : Nat} {d : Option Nat}, 0 < embd → embd % headCount = 0 →
      (∀ c ∈ d, 0 < c) → 0 < d.getD (embd / headCount) := by
    intro embd d positive whole given
    cases d with
    | some c => exact given c rfl
    | none => exact Nat.div_pos (Nat.le_of_dvd positive (Nat.dvd_of_mod_eq_zero whole)) heads
  unfold headDims at derived
  split at derived
  · cases derived
    exact ⟨key _ rfl, val _ rfl⟩
  · simp only [Method.bind_ok_iff, require_eq_ok] at derived
    obtain ⟨embd, found, _, whole, same⟩ := derived
    cases same
    have positive := metaInt_pos (by simp) found
    exact ⟨split positive whole key, split positive whole val⟩

theorem deriveKvCacheMetadata_pos {r : KvArchitecture}
    (derived : deriveKvCacheMetadata metadata = .ok r) :
    0 < r.layerCount ∧ 0 < r.nEmbdKGqa ∧ 0 < r.nEmbdVGqa := by
  simp only [deriveKvCacheMetadata, Method.bind_ok_iff, require_eq_ok] at derived
  obtain ⟨_, _, _, _, _, _, layers, hasLayers, heads, hasHeads, kvHeads, hasKvHeads, keyDim, key,
    valueDim, val, _, _, dims, hasDims, same⟩ := derived
  cases same
  have headsPositive := metaInt_pos (by simp) hasHeads
  have kvHeadsPositive := metaInt_pos (by simpa using headsPositive) hasKvHeads
  obtain ⟨first, second⟩ := headDims_pos headsPositive (metaInt?_pos key) (metaInt?_pos val) hasDims
  exact ⟨metaInt_pos (by simp) hasLayers, Nat.mul_pos kvHeadsPositive first,
    Nat.mul_pos kvHeadsPositive second⟩

end

/-! ## The estimate for a known backend -/

/-- The size that the estimate is for. -/
def exactKvCacheBytes (arch : KvArchitecture) (nCtx : Nat) (k v : KvType) (b : KvBackend) : Nat :=
  (allocatedBytes b k arch.nEmbdKGqa nCtx + allocatedBytes b v arch.nEmbdVGqa nCtx) *
    arch.layerCount

/-- What `_estimate_kv_cache_bytes_from_metadata` returns where it does not raise. -/
def exactEstimate (arch : KvArchitecture) (requested nCtx : Nat) (typeK typeV : String)
    (k v : KvType) (b : KvBackend) : KvCacheEstimate where
  arch := arch
  requestedContextSizeTokens := requested
  allocatedContextSizeTokens := nCtx
  backend := b.name
  backendAllocationMode := "exact"
  exactAllocationAvailable := true
  typeK := typeK
  typeV := typeV
  kRowSizeBytes := k.rowBytes arch.nEmbdKGqa
  vRowSizeBytes := v.rowBytes arch.nEmbdVGqa
  kTensorPayloadBytesPerLayer := k.rowBytes arch.nEmbdKGqa * nCtx
  vTensorPayloadBytesPerLayer := v.rowBytes arch.nEmbdVGqa * nCtx
  kTensorPayloadBytesTotal := k.rowBytes arch.nEmbdKGqa * nCtx * arch.layerCount
  vTensorPayloadBytesTotal := v.rowBytes arch.nEmbdVGqa * nCtx * arch.layerCount
  kBackendTailPaddingBytesPerLayer := tailBytes b k arch.nEmbdKGqa
  vBackendTailPaddingBytesPerLayer := tailBytes b v arch.nEmbdVGqa
  kAllocatorAlignmentPaddingBytesPerLayer :=
    allocatedBytes b k arch.nEmbdKGqa nCtx - tensorBytes b k arch.nEmbdKGqa nCtx
  vAllocatorAlignmentPaddingBytesPerLayer :=
    allocatedBytes b v arch.nEmbdVGqa nCtx - tensorBytes b v arch.nEmbdVGqa nCtx
  kBytesPerLayer := allocatedBytes b k arch.nEmbdKGqa nCtx
  vBytesPerLayer := allocatedBytes b v arch.nEmbdVGqa nCtx
  kvCacheBytes := exactKvCacheBytes arch nCtx k v b
  ggmlTensorAlignmentBytes := b.alignment

variable {metadata : Metadata} {requested nCtx : Nat} {typeK typeV : String} {r : KvCacheEstimate}

theorem payload_le_exactKvCacheBytes (arch : KvArchitecture) (nCtx : Nat) (k v : KvType)
    (b : KvBackend) :
    k.rowBytes arch.nEmbdKGqa * nCtx * arch.layerCount ≤ exactKvCacheBytes arch nCtx k v b ∧
      v.rowBytes arch.nEmbdVGqa * nCtx * arch.layerCount ≤ exactKvCacheBytes arch nCtx k v b := by
  have key : k.rowBytes arch.nEmbdKGqa * nCtx ≤ allocatedBytes b k arch.nEmbdKGqa nCtx :=
    (Nat.le_add_right ..).trans tensorBytes_le_allocatedBytes
  have val : v.rowBytes arch.nEmbdVGqa * nCtx ≤ allocatedBytes b v arch.nEmbdVGqa nCtx :=
    (Nat.le_add_right ..).trans tensorBytes_le_allocatedBytes
  constructor
  · exact Nat.mul_le_mul_right _ (key.trans (Nat.le_add_right ..))
  · exact Nat.mul_le_mul_right _ (val.trans (Nat.le_add_left ..))

/-- The estimate raises exactly if a type is unknown, a row does not consist of whole blocks or
is too long, or the exact size does not fit. -/
theorem estimateForBackend_eq_ok (wide : 0 < nCtx) (narrow : nCtx ≤ 2 ^ 40) :
    estimateForBackend metadata requested nCtx typeK typeV b = .ok r ↔
      ∃ arch k v, deriveKvCacheMetadata metadata = .ok arch ∧
        kvTypeOf typeK = some k ∧ kvTypeOf typeV = some v ∧
        k.FitsRow arch.nEmbdKGqa ∧ v.FitsRow arch.nEmbdVGqa ∧
        exactKvCacheBytes arch nCtx k v b ≤ 2 ^ 63 - 1 ∧
        exactEstimate arch requested nCtx typeK typeV k v b = r := by
  simp only [estimateForBackend, Method.bind_ok_iff, ggmlRowSizeBytes_eq_ok, checkedMul_eq_ok,
    ggmlTensor2dAllocationBreakdown_eq_ok, checkedAdd_eq_ok, require_eq_ok]
  constructor
  · rintro ⟨arch, derived, _, ⟨k, isK, rowK, rfl⟩, _, ⟨v, isV, rowV, rfl⟩, _, ⟨rfl, _⟩,
      _, ⟨rfl, _⟩, _, ⟨k', isK', _, _, _, _, rfl⟩, _, ⟨v', isV', _, _, _, _, rfl⟩, _, ⟨rfl, _⟩,
      _, ⟨rfl, fits⟩, _, _, _, ⟨rfl, _⟩, _, ⟨rfl, _⟩, same⟩
    obtain rfl : k = k' := Option.some.inj (isK.symm.trans isK')
    obtain rfl : v = v' := Option.some.inj (isV.symm.trans isV')
    cases same
    exact ⟨arch, k, v, derived, isK, isV, rowK, rowV, fits, rfl⟩
  · rintro ⟨arch, k, v, derived, isK, isV, rowK, rowV, fits, rfl⟩
    have layers := (deriveKvCacheMetadata_pos derived).1
    obtain ⟨key, val⟩ := payload_le_exactKvCacheBytes arch nCtx k v b
    have perLayer : allocatedBytes b k arch.nEmbdKGqa nCtx +
        allocatedBytes b v arch.nEmbdVGqa nCtx ≤ 2 ^ 63 - 1 :=
      (Nat.le_mul_of_pos_right _ layers).trans fits
    exact ⟨arch, derived, _, ⟨k, isK, rowK, rfl⟩, _, ⟨v, isV, rowV, rfl⟩,
      _, ⟨rfl, (Nat.le_mul_of_pos_right _ layers).trans (key.trans fits)⟩,
      _, ⟨rfl, (Nat.le_mul_of_pos_right _ layers).trans (val.trans fits)⟩,
      _, ⟨k, isK, rowK, wide, narrow, (Nat.le_add_right ..).trans perLayer, rfl⟩,
      _, ⟨v, isV, rowV, wide, narrow, (Nat.le_add_left ..).trans perLayer, rfl⟩,
      _, ⟨rfl, perLayer⟩, _, ⟨rfl, fits⟩, (), fits, _, ⟨rfl, key.trans fits⟩,
      _, ⟨rfl, val.trans fits⟩, rfl⟩

/-! ## Orders of the size -/

/-- The nominal bits of an element. -/
def KvType.bits : KvType → Nat
  | .f16 => 16
  | .q8 => 8
  | .q4 => 4

theorem allocatedBytes_mono_columns {columns' : Nat} (le : columns ≤ columns') :
    allocatedBytes b t rows columns ≤ allocatedBytes b t rows columns' :=
  roundUp_mono _ (Nat.add_le_add_right (Nat.mul_le_mul_left _ le) _)

theorem tailBytes_le (b : KvBackend) (t : KvType) (rows : Nat) :
    tailBytes b t rows ≤ t.rowBytes (512 - rows % 512) := by
  unfold tailBytes
  split
  · exact le_rfl
  · exact Nat.zero_le _

theorem tailBytes_f16 : tailBytes b .f16 rows = 0 :=
  if_neg fun padded => absurd padded.2.1 (by decide)

/-- What 256 quantized rows save against unquantized ones makes up for the tail. -/
theorem tail_add_rows_le (b : KvBackend) (row : t.FitsRow rows) :
    tailBytes b t rows + t.rowBytes rows * 256 ≤ KvType.f16.rowBytes rows * 256 := by
  obtain ⟨positive, _, whole⟩ := row
  have tail := tailBytes_le b t rows
  cases t with
  | f16 =>
    rw [tailBytes_f16]
    omega
  | q8 | q4 =>
    simp only [KvType.rowBytes, KvType.blockSize, KvType.typeSize] at tail whole ⊢
    omega

theorem tensorBytes_le_f16 (row : t.FitsRow rows) (wide : 256 ≤ columns) :
    tensorBytes b t rows columns ≤ tensorBytes b .f16 rows columns := by
  obtain ⟨more, rfl⟩ := Nat.exists_eq_add_of_le wide
  have first := tail_add_rows_le b row
  have rest : t.rowBytes rows * more ≤ KvType.f16.rowBytes rows * more := by
    refine Nat.mul_le_mul_right _ ?_
    omega
  simp only [tensorBytes, tailBytes_f16, Nat.mul_add]
  omega

theorem tensorBytes_q4_le_q8 :
    tensorBytes b .q4 rows columns ≤ tensorBytes b .q8 rows columns := by
  have row : ∀ rows, KvType.q4.rowBytes rows ≤ KvType.q8.rowBytes rows :=
    fun rows => Nat.mul_le_mul_left _ (by decide)
  have tail : tailBytes b .q4 rows ≤ tailBytes b .q8 rows := by
    by_cases padded : b = .cuda ∧ 1 < 32 ∧ rows % 512 ≠ 0
    · have short : tailBytes b .q4 rows = KvType.q4.rowBytes (512 - rows % 512) := if_pos padded
      have long : tailBytes b .q8 rows = KvType.q8.rowBytes (512 - rows % 512) := if_pos padded
      rw [short, long]
      exact row _
    · have nothing : tailBytes b .q4 rows = 0 := if_neg padded
      rw [nothing]
      exact Nat.zero_le _
  exact Nat.add_le_add (Nat.mul_le_mul_right _ (row rows)) tail

theorem allocatedBytes_mono_bits {t' : KvType} (le : t.bits ≤ t'.bits) (row : t.FitsRow rows)
    (wide : 256 ≤ columns) :
    allocatedBytes b t rows columns ≤ allocatedBytes b t' rows columns := by
  refine roundUp_mono _ ?_
  cases t' with
  | f16 => exact tensorBytes_le_f16 row wide
  | q8 =>
    cases t with
    | f16 => cases Nat.not_lt.mpr le (by decide)
    | q8 => exact le_rfl
    | q4 => exact tensorBytes_q4_le_q8
  | q4 =>
    cases t with
    | f16 => cases Nat.not_lt.mpr le (by decide)
    | q8 => cases Nat.not_lt.mpr le (by decide)
    | q4 => exact le_rfl

variable {arch : KvArchitecture} {k v k' v' : KvType} {nCtx' : Nat}

theorem exactKvCacheBytes_mono_context (le : nCtx ≤ nCtx') :
    exactKvCacheBytes arch nCtx k v b ≤ exactKvCacheBytes arch nCtx' k v b :=
  Nat.mul_le_mul_right _
    (Nat.add_le_add (allocatedBytes_mono_columns le) (allocatedBytes_mono_columns le))

theorem exactKvCacheBytes_mono_bits (leK : k.bits ≤ k'.bits) (leV : v.bits ≤ v'.bits)
    (rowK : k.FitsRow arch.nEmbdKGqa) (rowV : v.FitsRow arch.nEmbdVGqa) (wide : 256 ≤ nCtx) :
    exactKvCacheBytes arch nCtx k v b ≤ exactKvCacheBytes arch nCtx k' v' b :=
  Nat.mul_le_mul_right _
    (Nat.add_le_add (allocatedBytes_mono_bits leK rowK wide)
      (allocatedBytes_mono_bits leV rowV wide))

/-- The size for a normalised backend. -/
def sizeFor (arch : KvArchitecture) (nCtx : Nat) (k v : KvType) : Option KvBackend → Nat
  | some b => exactKvCacheBytes arch nCtx k v b
  | none =>
    max (max (exactKvCacheBytes arch nCtx k v .cpu) (exactKvCacheBytes arch nCtx k v .metal))
      (exactKvCacheBytes arch nCtx k v .cuda)

theorem sizeFor_mono {backend : Option KvBackend}
    (le : ∀ b, exactKvCacheBytes arch nCtx k v b ≤ exactKvCacheBytes arch nCtx' k' v' b) :
    sizeFor arch nCtx k v backend ≤ sizeFor arch nCtx' k' v' backend := by
  cases backend with
  | some b => exact le b
  | none => exact max_le_max (max_le_max (le _) (le _)) (le _)

/-! ## Every backend -/

theorem largerEstimate_kvCacheBytes (first second : KvCacheEstimate) :
    (largerEstimate first second).kvCacheBytes = max first.kvCacheBytes second.kvCacheBytes := by
  unfold largerEstimate
  split
  · next lt => exact (max_eq_right lt.le).symm
  · next ge => exact (max_eq_left (Nat.not_lt.mp ge)).symm

theorem largerEstimate_eq (first second : KvCacheEstimate) :
    largerEstimate first second = first ∨ largerEstimate first second = second := by
  unfold largerEstimate
  split
  · exact .inr rfl
  · exact .inl rfl

theorem roundUp_256_bounds (positive : 1 ≤ nCtx) (bounded : nCtx ≤ 2 ^ 30) :
    256 ≤ roundUp nCtx 256 ∧ roundUp nCtx 256 ≤ 2 ^ 30 := by
  unfold roundUp
  omega

theorem estimate_eq (positive : 1 ≤ nCtx) (bounded : nCtx ≤ 2 ^ 30) (backend : String) :
    estimateKvCacheBytesFromMetadata metadata nCtx typeK typeV backend =
      let estimate := estimateForBackend metadata nCtx (roundUp nCtx 256) typeK typeV
      match normalizeKvBackend backend with
      | some b => estimate b
      | none => do
        let cpu ← estimate .cpu
        let metal ← estimate .metal
        let cuda ← estimate .cuda
        return { largerEstimate (largerEstimate cpu metal) cuda with
          backend := "unknown"
          backendAllocationMode := "conservative_max_supported_backend"
          exactAllocationAvailable := false } := by
  have requested : checkedPositiveInt (.int (nCtx : Nat)) "context_size_tokens" (2 ^ 30) =
      .ok nCtx := checkedPositiveInt_natCast.mpr ⟨rfl, positive, bounded⟩
  have allocated : allocatedContextTokens nCtx = .ok (roundUp nCtx 256) :=
    alignUp_eq_ok.mpr ⟨rfl, positive, by omega, by decide, by decide, by omega⟩
  unfold estimateKvCacheBytesFromMetadata
  rw [requested]
  change (allocatedContextTokens nCtx >>= _) = _
  rw [allocated]
  rfl

theorem estimate_unknown (positive : 1 ≤ nCtx) (bounded : nCtx ≤ 2 ^ 30) {backend : String}
    (unknown : normalizeKvBackend backend = none)
    (returned : estimateKvCacheBytesFromMetadata metadata nCtx typeK typeV backend = .ok r) :
    (∃ b r', estimateForBackend metadata nCtx (roundUp nCtx 256) typeK typeV b = .ok r' ∧
      r = { r' with
        backend := "unknown"
        backendAllocationMode := "conservative_max_supported_backend"
        exactAllocationAvailable := false }) ∧
      ∀ b, ∃ r', estimateForBackend metadata nCtx (roundUp nCtx 256) typeK typeV b = .ok r' ∧
        r'.kvCacheBytes ≤ r.kvCacheBytes := by
  rw [estimate_eq positive bounded, unknown] at returned
  simp only [Method.bind_ok_iff] at returned
  obtain ⟨cpu, isCpu, metal, isMetal, cuda, isCuda, same⟩ := returned
  cases same
  have first := largerEstimate_kvCacheBytes cpu metal
  have second := largerEstimate_kvCacheBytes (largerEstimate cpu metal) cuda
  constructor
  · obtain same | same := largerEstimate_eq (largerEstimate cpu metal) cuda
    · rw [same]
      obtain same | same := largerEstimate_eq cpu metal
      · exact ⟨.cpu, cpu, isCpu, by rw [same]⟩
      · exact ⟨.metal, metal, isMetal, by rw [same]⟩
    · exact ⟨.cuda, cuda, isCuda, by rw [same]⟩
  · intro b
    cases b with
    | cpu => exact ⟨cpu, isCpu, by simp [second, first]⟩
    | metal => exact ⟨metal, isMetal, by simp [second, first]⟩
    | cuda => exact ⟨cuda, isCuda, by simp [second]⟩

theorem estimate_size (accepted : deriveKvCacheMetadata metadata = .ok arch)
    (positive : 1 ≤ nCtx) (bounded : nCtx ≤ 2 ^ 30) {backend : String}
    (returned : estimateKvCacheBytesFromMetadata metadata nCtx typeK typeV backend = .ok r) :
    ∃ k v, kvTypeOf typeK = some k ∧ kvTypeOf typeV = some v ∧
      k.FitsRow arch.nEmbdKGqa ∧ v.FitsRow arch.nEmbdVGqa ∧
      r.kvCacheBytes = sizeFor arch (roundUp nCtx 256) k v (normalizeKvBackend backend) := by
  obtain ⟨wide, narrow⟩ := roundUp_256_bounds positive bounded
  have one : ∀ {b r}, estimateForBackend metadata nCtx (roundUp nCtx 256) typeK typeV b = .ok r →
      ∃ k v, kvTypeOf typeK = some k ∧ kvTypeOf typeV = some v ∧
        k.FitsRow arch.nEmbdKGqa ∧ v.FitsRow arch.nEmbdVGqa ∧
        r.kvCacheBytes = exactKvCacheBytes arch (roundUp nCtx 256) k v b := by
    intro b r known
    obtain ⟨arch', k, v, derived, isK, isV, rowK, rowV, _, rfl⟩ :=
      (estimateForBackend_eq_ok (by omega) (by omega)).mp known
    obtain rfl : arch = arch' := Except.ok.inj (accepted.symm.trans derived)
    exact ⟨k, v, isK, isV, rowK, rowV, rfl⟩
  rw [estimate_eq positive bounded] at returned
  cases known : normalizeKvBackend backend with
  | some b =>
    rw [known] at returned
    exact one returned
  | none =>
    rw [known] at returned
    simp only [Method.bind_ok_iff] at returned
    obtain ⟨cpu, isCpu, metal, isMetal, cuda, isCuda, same⟩ := returned
    cases same
    obtain ⟨k, v, isK, isV, rowK, rowV, first⟩ := one isCpu
    obtain ⟨_, _, isK', isV', _, _, second⟩ := one isMetal
    cases isK.symm.trans isK'
    cases isV.symm.trans isV'
    obtain ⟨_, _, isK', isV', _, _, third⟩ := one isCuda
    cases isK.symm.trans isK'
    cases isV.symm.trans isV'
    refine ⟨k, v, isK, isV, rowK, rowV, ?_⟩
    simp only [sizeFor, ← first, ← second, ← third, largerEstimate_kvCacheBytes]

/-! ## The exact size -/

/-- The least multiple of the backend's alignment that holds the rows and the tail. -/
def IsAllocation (b : KvBackend) (t : KvType) (rows columns bytes : Nat) : Prop :=
  IsLeast
    {n | b.alignment ∣ n ∧ rows / t.blockSize * t.typeSize * columns + tailBytes b t rows ≤ n} bytes

/-- The size of the cache: both tensors of every layer, for the least multiple of 256 that is
not below the context size. -/
def IsExactSize (arch : KvArchitecture) (nCtx : Int) (k v : KvType) (b : KvBackend)
    (total : Nat) : Prop :=
  ∃ columns keyBytes valueBytes,
    IsLeast {n : Nat | 256 ∣ n ∧ nCtx ≤ n} columns ∧
      IsAllocation b k arch.nEmbdKGqa columns keyBytes ∧
      IsAllocation b v arch.nEmbdVGqa columns valueBytes ∧
      total = arch.layerCount * (keyBytes + valueBytes)

theorem allocatedBytes_isAllocation :
    IsAllocation b t rows columns (allocatedBytes b t rows columns) :=
  roundUp_isLeast _ (alignment_pos b)

theorem isExactSize_iff {total : Nat} :
    IsExactSize arch nCtx k v b total ↔
      total = exactKvCacheBytes arch (roundUp nCtx 256) k v b := by
  have padded : IsLeast {n : Nat | 256 ∣ n ∧ (nCtx : Int) ≤ n} (roundUp nCtx 256) := by
    simpa only [Nat.cast_le] using roundUp_isLeast nCtx (by decide : 0 < 256)
  constructor
  · rintro ⟨columns, keyBytes, valueBytes, least, key, val, rfl⟩
    obtain rfl := least.unique padded
    obtain rfl := key.unique allocatedBytes_isAllocation
    obtain rfl := val.unique allocatedBytes_isAllocation
    exact Nat.mul_comm ..
  · rintro rfl
    exact ⟨_, _, _, padded, allocatedBytes_isAllocation, allocatedBytes_isAllocation,
      Nat.mul_comm ..⟩

theorem exactEstimate_parts :
    ∀ r, exactEstimate arch requested nCtx typeK typeV k v b = r →
      r.kTensorPayloadBytesPerLayer + r.kBackendTailPaddingBytesPerLayer +
          r.kAllocatorAlignmentPaddingBytesPerLayer = r.kBytesPerLayer ∧
        r.vTensorPayloadBytesPerLayer + r.vBackendTailPaddingBytesPerLayer +
          r.vAllocatorAlignmentPaddingBytesPerLayer = r.vBytesPerLayer ∧
        r.kvCacheBytes = r.arch.layerCount * (r.kBytesPerLayer + r.vBytesPerLayer) := by
  rintro _ rfl
  exact ⟨Nat.add_sub_cancel' tensorBytes_le_allocatedBytes,
    Nat.add_sub_cancel' tensorBytes_le_allocatedBytes, Nat.mul_comm ..⟩

/-- The estimate of the KV cache is exact, checked and monotone. For a known backend it is the
exact size, and it is there exactly if both rows are accepted and the size fits into 63 bits.
An unknown backend gets the greatest estimate of the known ones. -/
theorem kvCacheEstimate_exact_checked_monotone {metadata : Metadata} {arch : KvArchitecture}
    (accepted : deriveKvCacheMetadata metadata = .ok arch) {nCtx : Int} (positive : 1 ≤ nCtx)
    (bounded : nCtx ≤ 2 ^ 30) (typeK typeV backend : String) :
    (∀ b, normalizeKvBackend backend = some b →
      (∀ r, estimateKvCacheBytesFromMetadata metadata nCtx typeK typeV backend = .ok r →
        ∃ k v, kvTypeOf typeK = some k ∧ kvTypeOf typeV = some v ∧
          IsExactSize arch nCtx k v b r.kvCacheBytes ∧ r.kvCacheBytes ≤ 2 ^ 63 - 1 ∧
          r.kTensorPayloadBytesPerLayer + r.kBackendTailPaddingBytesPerLayer +
            r.kAllocatorAlignmentPaddingBytesPerLayer = r.kBytesPerLayer ∧
          r.vTensorPayloadBytesPerLayer + r.vBackendTailPaddingBytesPerLayer +
            r.vAllocatorAlignmentPaddingBytesPerLayer = r.vBytesPerLayer ∧
          r.kvCacheBytes = arch.layerCount * (r.kBytesPerLayer + r.vBytesPerLayer)) ∧
      ∀ k v total, kvTypeOf typeK = some k → kvTypeOf typeV = some v →
        IsExactSize arch nCtx k v b total →
        ((∃ r, estimateKvCacheBytesFromMetadata metadata nCtx typeK typeV backend = .ok r) ↔
          k.FitsRow arch.nEmbdKGqa ∧ v.FitsRow arch.nEmbdVGqa ∧ total ≤ 2 ^ 63 - 1)) ∧
    (∀ r, estimateKvCacheBytesFromMetadata metadata nCtx typeK typeV backend = .ok r →
      (normalizeKvBackend backend = none →
        (∃ known r', normalizeKvBackend known ≠ none ∧
          estimateKvCacheBytesFromMetadata metadata nCtx typeK typeV known = .ok r' ∧
          r = { r' with
            backend := "unknown"
            backendAllocationMode := "conservative_max_supported_backend"
            exactAllocationAvailable := false }) ∧
        ∀ known, normalizeKvBackend known ≠ none →
          ∃ r', estimateKvCacheBytesFromMetadata metadata nCtx typeK typeV known = .ok r' ∧
            r'.kvCacheBytes ≤ r.kvCacheBytes) ∧
      (∀ nCtx' r', nCtx ≤ nCtx' → nCtx' ≤ 2 ^ 30 →
        estimateKvCacheBytesFromMetadata metadata nCtx' typeK typeV backend = .ok r' →
        r.kvCacheBytes ≤ r'.kvCacheBytes) ∧
      ∀ typeK' typeV' r',
        (∀ k k', kvTypeOf typeK = some k → kvTypeOf typeK' = some k' → k.bits ≤ k'.bits) →
        (∀ v v', kvTypeOf typeV = some v → kvTypeOf typeV' = some v' → v.bits ≤ v'.bits) →
        estimateKvCacheBytesFromMetadata metadata nCtx typeK' typeV' backend = .ok r' →
        r.kvCacheBytes ≤ r'.kvCacheBytes) := by
  obtain ⟨n, rfl⟩ := Int.eq_ofNat_of_zero_le (by omega : 0 ≤ nCtx)
  have positive : 1 ≤ n := by omega
  have bounded : n ≤ 2 ^ 30 := by omega
  obtain ⟨wide, narrow⟩ := roundUp_256_bounds positive bounded
  have known : ∀ {backend b}, normalizeKvBackend backend = some b →
      estimateKvCacheBytesFromMetadata metadata n typeK typeV backend =
        estimateForBackend metadata n (roundUp n 256) typeK typeV b := by
    intro backend b isKnown
    rw [estimate_eq positive bounded, isKnown]
  refine ⟨fun b isKnown => ⟨fun r returned => ?_, fun k v total isK isV exact_ => ?_⟩,
    fun r returned => ⟨fun unknown => ?_, fun nCtx' r' le bounded' returned' => ?_,
      fun typeK' typeV' r' leK leV returned' => ?_⟩⟩
  · rw [known isKnown, estimateForBackend_eq_ok (by omega) (by omega)] at returned
    obtain ⟨arch', k, v, derived, isK, isV, _, _, fits, same⟩ := returned
    obtain rfl : arch = arch' := Except.ok.inj (accepted.symm.trans derived)
    obtain ⟨key, val, size⟩ := exactEstimate_parts r same
    refine ⟨k, v, isK, isV, isExactSize_iff.mpr ?_, ?_, key, val, ?_⟩
    · rw [← same]
      rfl
    · rw [← same]
      exact fits
    · rw [size, ← same]
      rfl
  · rw [known isKnown]
    obtain rfl := isExactSize_iff.mp exact_
    constructor
    · rintro ⟨r, returned⟩
      obtain ⟨arch', k', v', derived, isK', isV', rowK, rowV, fits, _⟩ :=
        (estimateForBackend_eq_ok (by omega) (by omega)).mp returned
      obtain rfl : arch = arch' := Except.ok.inj (accepted.symm.trans derived)
      cases isK.symm.trans isK'
      cases isV.symm.trans isV'
      exact ⟨rowK, rowV, fits⟩
    · rintro ⟨rowK, rowV, fits⟩
      exact ⟨_, (estimateForBackend_eq_ok (by omega) (by omega)).mpr
        ⟨arch, k, v, accepted, isK, isV, rowK, rowV, fits, rfl⟩⟩
  · obtain ⟨⟨b, r', one, same⟩, all⟩ := estimate_unknown positive bounded unknown returned
    constructor
    · refine ⟨b.name, r', by simp, ?_, same⟩
      rw [known (normalizeKvBackend_name b)]
      exact one
    · intro backend isKnown
      obtain ⟨b, isKnown⟩ := Option.ne_none_iff_exists'.mp isKnown
      rw [known isKnown]
      exact all b
  · obtain ⟨n', rfl⟩ := Int.eq_ofNat_of_zero_le (by omega : 0 ≤ nCtx')
    obtain ⟨k, v, isK, isV, _, _, size⟩ := estimate_size accepted positive bounded returned
    obtain ⟨k', v', isK', isV', _, _, size'⟩ :=
      estimate_size accepted (by omega) (by omega) returned'
    cases isK.symm.trans isK'
    cases isV.symm.trans isV'
    rw [size, size']
    exact sizeFor_mono fun b => exactKvCacheBytes_mono_context (roundUp_mono _ (by omega))
  · obtain ⟨k, v, isK, isV, rowK, rowV, size⟩ := estimate_size accepted positive bounded returned
    obtain ⟨k', v', isK', isV', _, _, size'⟩ := estimate_size accepted positive bounded returned'
    rw [size, size']
    exact sizeFor_mono fun b =>
      exactKvCacheBytes_mono_bits (leK k k' isK isK') (leV v v' isV isV') rowK rowV wide

/-- `_fallback_qwen3_8b_kv_metadata`. -/
def fallbackQwen38bKvMetadata : Metadata
  | "general.architecture" => some (.text "qwen3")
  | "qwen3.block_count" => some (.int 36)
  | "qwen3.attention.head_count" => some (.int 32)
  | "qwen3.attention.head_count_kv" => some (.int 8)
  | "qwen3.attention.key_length" => some (.int 128)
  | "qwen3.attention.value_length" => some (.int 128)
  | "qwen3.embedding_length" => some (.int 4096)
  | _ => none

/-- The layout that it describes. -/
def fallbackArchitecture : KvArchitecture where
  architecture := "qwen3"
  layerCount := 36
  attentionHeadCount := 32
  attentionHeadCountKv := 8
  gqaGroups := 4
  keyLength := 128
  valueLength := 128
  nEmbdKGqa := 1024
  nEmbdVGqa := 1024

theorem kvCacheEstimate_fallback :
    (∃ r, estimateKvCacheBytesFromMetadata fallbackQwen38bKvMetadata 65536 "q8" "q8" "cuda" =
      .ok r) ∧
    ∀ r r',
      estimateKvCacheBytesFromMetadata fallbackQwen38bKvMetadata 65536 "q8" "q8" "cuda" = .ok r →
      estimateKvCacheBytesFromMetadata fallbackQwen38bKvMetadata 131072 "q8" "q8" "cuda" =
        .ok r' →
      r.kvCacheBytes ≤ 2 ^ 63 - 1 ∧ r.kvCacheBytes ≤ r'.kvCacheBytes := by
  have accepted : deriveKvCacheMetadata fallbackQwen38bKvMetadata = .ok fallbackArchitecture := by
    decide +kernel
  obtain ⟨exact_, ordered⟩ := kvCacheEstimate_exact_checked_monotone accepted
    (by decide : (1 : Int) ≤ 65536) (by decide) "q8" "q8" "cuda"
  obtain ⟨sized, there⟩ := exact_ .cuda (by decide +kernel)
  refine ⟨?_, fun r r' returned returned' => ?_⟩
  · exact (there .q8 .q8 (36 * (71303168 + 71303168)) (by decide +kernel) (by decide +kernel)
      (isExactSize_iff.mpr (by decide))).mpr ⟨⟨by decide, by decide, by decide⟩,
        ⟨by decide, by decide, by decide⟩, by decide⟩
  · obtain ⟨_, _, _, _, _, fits, _⟩ := sized r returned
    exact ⟨fits, (ordered r returned).2.1 131072 r' (by decide) (by decide) returned'⟩

end ModelManager
