import Mathlib
import TokenPlace.Lib.Method
import TokenPlace.Lib.Text

/-!
# The size of the KV cache

`_estimate_kv_cache_bytes_from_metadata` and what it is built from: the checked integers, the
row sizes of the GGML types, the allocation of one tensor and the layout that the GGUF metadata
describes. Integers do not wrap, a check raises instead.
-/

namespace ModelManager

/-! ## Checked integers -/

/-- The exceptions that the helpers raise. -/
inductive Raised
  | valueError (text : String)
  | overflowError (text : String)
deriving DecidableEq

/-- A metadata value. An `object` is neither an `int` nor a `str`: its truth value and its
`str()`. -/
inductive MetaValue
  | int (n : Int)
  | bool (b : Bool)
  | text (s : String)
  | object (truthy : Bool) (str : String)

/-- Goes on if `c` holds. -/
def require (c : Prop) [Decidable c] (e : Raised) : Except Raised Unit :=
  if c then .ok () else .error e

/-- `_checked_positive_int`. -/
def checkedPositiveInt (value : MetaValue) (name : String) (maximum : Nat := 2 ^ 40) :
    Except Raised Nat :=
  match value with
  | .int n => if n ≤ 0 ∨ (maximum : Int) < n then .error (.valueError (name ++ "_invalid"))
    else .ok n.toNat
  | _ => .error (.valueError (name ++ "_invalid"))

/-- `_checked_add`. -/
def checkedAdd (left right : Nat) (name : String) (maximum : Nat := 2 ^ 63 - 1) :
    Except Raised Nat :=
  if maximum < left + right then .error (.overflowError (name ++ "_overflow"))
  else .ok (left + right)

/-- `_checked_mul`. -/
def checkedMul (left right : Nat) (name : String) (maximum : Nat := 2 ^ 63 - 1) :
    Except Raised Nat :=
  if maximum < left * right then .error (.overflowError (name ++ "_overflow"))
  else .ok (left * right)

/-- `_align_up`. -/
def alignUp (value alignment : Nat) (maximum : Nat := 2 ^ 63 - 1) : Except Raised Nat := do
  let value ← checkedPositiveInt (.int value) "value" maximum
  let alignment ← checkedPositiveInt (.int alignment) "alignment" (2 ^ 20)
  let padded ← checkedAdd value (alignment - 1) "aligned_value" maximum
  return padded / alignment * alignment

/-! ## Tensors -/

/-- The keys of `GGML_KV_TYPE_LAYOUTS`. -/
inductive KvType
  | f16
  | q8
  | q4
deriving DecidableEq

/-- The `block_size` of a layout. -/
def KvType.blockSize : KvType → Nat
  | .f16 => 1
  | .q8 => 32
  | .q4 => 32

/-- The `type_size` of a layout. -/
def KvType.typeSize : KvType → Nat
  | .f16 => 2
  | .q8 => 34
  | .q4 => 18

/-- `GGML_KV_TYPE_LAYOUTS.get(str(ggml_type).lower())`. -/
def kvTypeOf (ggmlType : String) : Option KvType :=
  match ggmlType.toLower with
  | "f16" => some .f16
  | "q8" => some .q8
  | "q4" => some .q4
  | _ => none

/-- `_ggml_row_size_bytes`. -/
def ggmlRowSizeBytes (elementCount : Nat) (ggmlType : String) : Except Raised Nat := do
  let elementCount ← checkedPositiveInt (.int elementCount) "element_count"
  match kvTypeOf ggmlType with
  | none => .error (.valueError "ggml_type_unsupported")
  | some layout =>
    require (elementCount % layout.blockSize = 0)
      (.valueError "ggml_row_width_not_block_divisible")
    let blocks := elementCount / layout.blockSize
    checkedMul blocks layout.typeSize "ggml_row_size_bytes"

/-- The backends with a known alignment. -/
inductive KvBackend
  | cpu
  | metal
  | cuda
deriving DecidableEq

/-- `GGML_KV_BACKEND_ALIGNMENT_BYTES`. -/
def KvBackend.alignment : KvBackend → Nat
  | .cpu => 32
  | .metal => 32
  | .cuda => 128

def KvBackend.name : KvBackend → String
  | .cpu => "cpu"
  | .metal => "metal"
  | .cuda => "cuda"

/-- `_normalize_kv_backend`. -/
def normalizeKvBackend (backend : String) : Option KvBackend :=
  match (String.ofList (Text.strip backend.toList)).toLower with
  | "cpu" => some .cpu
  | "metal" => some .metal
  | "cuda" => some .cuda
  | _ => none

/-- `_allocated_context_tokens`. -/
def allocatedContextTokens (nCtx : Nat) : Except Raised Nat := alignUp nCtx 256

/-- The result of `_ggml_tensor_2d_allocation_breakdown`. -/
structure TensorBreakdown where
  rowPayloadBytes : Nat
  logicalPayloadBytes : Nat
  backendTailPaddingBytes : Nat
  allocatorAlignmentPaddingBytes : Nat
  allocationBytes : Nat
deriving DecidableEq

/-- `backend_tail_padding`: CUDA pads the rows of a quantized matrix to 512. -/
def backendTailPadding (backend : KvBackend) (rows : Nat) (ggmlType : String) :
    Except Raised Nat :=
  if backend = .cuda ∧ (∃ layout ∈ kvTypeOf ggmlType, 1 < layout.blockSize) ∧ rows % 512 ≠ 0 then
    ggmlRowSizeBytes (512 - rows % 512) ggmlType
  else .ok 0

/-- `_ggml_tensor_2d_allocation_breakdown`. -/
def ggmlTensor2dAllocationBreakdown (rows columns : Nat) (ggmlType backend : String) :
    Except Raised TensorBreakdown :=
  match normalizeKvBackend backend with
  | none => .error (.valueError "kv_backend_unsupported")
  | some backend => do
    let checkedRows ← checkedPositiveInt (.int rows) "rows"
    let rowSize ← ggmlRowSizeBytes checkedRows ggmlType
    let columns ← checkedPositiveInt (.int columns) "columns"
    let payload ← checkedMul rowSize columns "ggml_tensor_payload_bytes"
    let tail ← backendTailPadding backend checkedRows ggmlType
    let logicalPlusTail ← checkedAdd payload tail "ggml_tensor_backend_payload_bytes"
    let allocation ← alignUp logicalPlusTail backend.alignment
    return {
      rowPayloadBytes := rowSize
      logicalPayloadBytes := payload
      backendTailPaddingBytes := tail
      allocatorAlignmentPaddingBytes := allocation - logicalPlusTail
      allocationBytes := allocation }

/-! ## The layout that the metadata describes -/

/-- The metadata of a GGUF file. -/
abbrev Metadata := String → Option MetaValue

/-- `str(value or '')` of an entry. -/
def Metadata.strOr (metadata : Metadata) (key : String) : String :=
  match metadata key with
  | none => ""
  | some (.int n) => if n = 0 then "" else toString n
  | some (.bool b) => if b then "True" else ""
  | some (.text s) => s
  | some (.object truthy str) => if truthy then str else ""

/-- `[A-Za-z0-9_]`. -/
def isWordAscii (c : Char) : Bool := c.isAlphanum || c == '_'

/-- A match of `[A-Za-z0-9_][A-Za-z0-9_.-]{0,63}`. -/
def isArchitectureName (arch : String) : Bool :=
  match arch.toList with
  | [] => false
  | c :: cs => isWordAscii c && decide (cs.length ≤ 63) &&
      cs.all fun c => isWordAscii c || c == '.' || c == '-'

/-- `UNSUPPORTED_KV_LAYOUT_SUFFIXES`. -/
def unsupportedKvLayoutSuffixes : List String :=
  ["attention.sliding_window", "attention.layer_types", "attention.recurrent", "attention.mla",
    "attention.no_v", "attention.shared_layers"]

/-- `SUPPORTED_STANDARD_KV_ARCHITECTURES`. -/
def supportedStandardKvArchitectures : List String := ["qwen3"]

/-- `meta_int`, for its one suffix. -/
def metaInt (metadata : Metadata) (arch suffix name : String) (default : Option Nat) :
    Except Raised Nat :=
  match metadata (arch ++ "." ++ suffix), default with
  | some value, _ => checkedPositiveInt value name (2 ^ 30)
  | none, some default => .ok default
  | none, none => .error (.valueError (name ++ "_missing"))

/-- `meta_int` if the key is there, else `None`. -/
def metaInt? (metadata : Metadata) (arch suffix name : String) : Except Raised (Option Nat) :=
  match metadata (arch ++ "." ++ suffix) with
  | some value => some <$> checkedPositiveInt value name (2 ^ 30)
  | none => .ok none

/-- The result of `_derive_kv_cache_metadata`. -/
structure KvArchitecture where
  architecture : String
  layerCount : Nat
  attentionHeadCount : Nat
  attentionHeadCountKv : Nat
  gqaGroups : Nat
  keyLength : Nat
  valueLength : Nat
  nEmbdKGqa : Nat
  nEmbdVGqa : Nat
deriving DecidableEq

/-- `key_dim` and `value_dim`, from the embedding length where one is missing. -/
def headDims (metadata : Metadata) (arch : String) (headCount : Nat) :
    Option Nat → Option Nat → Except Raised (Nat × Nat)
  | some keyDim, some valueDim => .ok (keyDim, valueDim)
  | keyDim, valueDim => do
    let embd ← metaInt metadata arch "embedding_length" "embedding_length" none
    require (embd % headCount = 0)
      (.valueError "embedding_length_not_divisible_by_head_count")
    return (keyDim.getD (embd / headCount), valueDim.getD (embd / headCount))

/-- `_derive_kv_cache_metadata`. -/
def deriveKvCacheMetadata (metadata : Metadata) : Except Raised KvArchitecture := do
  let arch := String.ofList (Text.strip (metadata.strOr "general.architecture").toList)
  require (isArchitectureName arch) (.valueError "architecture_missing_or_invalid")
  require (arch ∈ supportedStandardKvArchitectures)
    (.valueError "kv_layout_architecture_unsupported")
  require (∀ suffix ∈ unsupportedKvLayoutSuffixes, (metadata (arch ++ "." ++ suffix)).isNone)
    (.valueError "kv_layout_unsupported")
  let layers ← metaInt metadata arch "block_count" "layer_count" none
  let headCount ← metaInt metadata arch "attention.head_count" "attention_head_count" none
  let kvHeads ← metaInt metadata arch "attention.head_count_kv" "attention_head_count_kv"
    (some headCount)
  let keyDim ← metaInt? metadata arch "attention.key_length" "key_length"
  let valueDim ← metaInt? metadata arch "attention.value_length" "value_length"
  require (headCount % kvHeads = 0)
    (.valueError "attention_head_count_not_divisible_by_kv_heads")
  let (keyDim, valueDim) ← headDims metadata arch headCount keyDim valueDim
  return {
    architecture := arch
    layerCount := layers
    attentionHeadCount := headCount
    attentionHeadCountKv := kvHeads
    gqaGroups := headCount / kvHeads
    keyLength := keyDim
    valueLength := valueDim
    nEmbdKGqa := kvHeads * keyDim
    nEmbdVGqa := kvHeads * valueDim }

/-! ## The estimate -/

/-- The result of `_estimate_kv_cache_bytes_from_metadata`. -/
structure KvCacheEstimate where
  arch : KvArchitecture
  requestedContextSizeTokens : Nat
  allocatedContextSizeTokens : Nat
  backend : String
  backendAllocationMode : String
  exactAllocationAvailable : Bool
  typeK : String
  typeV : String
  kRowSizeBytes : Nat
  vRowSizeBytes : Nat
  kTensorPayloadBytesPerLayer : Nat
  vTensorPayloadBytesPerLayer : Nat
  kTensorPayloadBytesTotal : Nat
  vTensorPayloadBytesTotal : Nat
  kBackendTailPaddingBytesPerLayer : Nat
  vBackendTailPaddingBytesPerLayer : Nat
  kAllocatorAlignmentPaddingBytesPerLayer : Nat
  vAllocatorAlignmentPaddingBytesPerLayer : Nat
  kBytesPerLayer : Nat
  vBytesPerLayer : Nat
  kvCacheBytes : Nat
  ggmlTensorAlignmentBytes : Nat
deriving DecidableEq

/-- The estimate for one of the known backends. -/
def estimateForBackend (metadata : Metadata) (requested nCtx : Nat) (typeK typeV : String)
    (backend : KvBackend) : Except Raised KvCacheEstimate := do
  let arch ← deriveKvCacheMetadata metadata
  let kRowPayload ← ggmlRowSizeBytes arch.nEmbdKGqa typeK
  let vRowPayload ← ggmlRowSizeBytes arch.nEmbdVGqa typeV
  let kPayloadPerLayer ← checkedMul kRowPayload nCtx "k_tensor_payload_bytes"
  let vPayloadPerLayer ← checkedMul vRowPayload nCtx "v_tensor_payload_bytes"
  let kTensor ← ggmlTensor2dAllocationBreakdown arch.nEmbdKGqa nCtx typeK backend.name
  let vTensor ← ggmlTensor2dAllocationBreakdown arch.nEmbdVGqa nCtx typeV backend.name
  let kvPerLayer ← checkedAdd kTensor.allocationBytes vTensor.allocationBytes
    "kv_cache_bytes_per_layer"
  let kvBytes ← checkedMul kvPerLayer arch.layerCount "kv_cache_bytes"
  require (kvBytes ≤ 2 ^ 63 - 1) (.overflowError "kv_cache_bytes_overflow")
  let kTotal ← checkedMul kPayloadPerLayer arch.layerCount "k_tensor_payload_bytes_total"
  let vTotal ← checkedMul vPayloadPerLayer arch.layerCount "v_tensor_payload_bytes_total"
  return {
    arch
    requestedContextSizeTokens := requested
    allocatedContextSizeTokens := nCtx
    backend := backend.name
    backendAllocationMode := "exact"
    exactAllocationAvailable := true
    typeK
    typeV
    kRowSizeBytes := kRowPayload
    vRowSizeBytes := vRowPayload
    kTensorPayloadBytesPerLayer := kPayloadPerLayer
    vTensorPayloadBytesPerLayer := vPayloadPerLayer
    kTensorPayloadBytesTotal := kTotal
    vTensorPayloadBytesTotal := vTotal
    kBackendTailPaddingBytesPerLayer := kTensor.backendTailPaddingBytes
    vBackendTailPaddingBytesPerLayer := vTensor.backendTailPaddingBytes
    kAllocatorAlignmentPaddingBytesPerLayer := kTensor.allocatorAlignmentPaddingBytes
    vAllocatorAlignmentPaddingBytesPerLayer := vTensor.allocatorAlignmentPaddingBytes
    kBytesPerLayer := kTensor.allocationBytes
    vBytesPerLayer := vTensor.allocationBytes
    kvCacheBytes := kvBytes
    ggmlTensorAlignmentBytes := backend.alignment }

/-- `max` with the size as its key: the first of the greatest. -/
def largerEstimate (first second : KvCacheEstimate) : KvCacheEstimate :=
  if first.kvCacheBytes < second.kvCacheBytes then second else first

/-- `_estimate_kv_cache_bytes_from_metadata`. Its recursive calls are for the known backends. -/
def estimateKvCacheBytesFromMetadata (metadata : Metadata) (nCtx : Int)
    (typeK typeV backend : String) : Except Raised KvCacheEstimate := do
  let requested ← checkedPositiveInt (.int nCtx) "context_size_tokens" (2 ^ 30)
  let nCtx ← allocatedContextTokens requested
  match normalizeKvBackend backend with
  | some backend => estimateForBackend metadata requested nCtx typeK typeV backend
  | none =>
    let cpu ← estimateForBackend metadata requested nCtx typeK typeV .cpu
    let metal ← estimateForBackend metadata requested nCtx typeK typeV .metal
    let cuda ← estimateForBackend metadata requested nCtx typeK typeV .cuda
    return { largerEstimate (largerEstimate cpu metal) cuda with
      backend := "unknown"
      backendAllocationMode := "conservative_max_supported_backend"
      exactAllocationAvailable := false }

/-! ## What the checks let through -/

section

variable {name : String} {maximum a b c : Nat}

@[simp] theorem require_eq_ok {p : Prop} [Decidable p] {e : Raised} {u : Unit} :
    require p e = .ok u ↔ p := by
  unfold require
  split
  · next holds => exact ⟨fun _ => holds, fun _ => rfl⟩
  · next fails => exact ⟨nofun, fun holds => absurd holds fails⟩

theorem checkedPositiveInt_eq_ok {n : Int} :
    checkedPositiveInt (.int n) name maximum = .ok c ↔ n = c ∧ 0 < c ∧ c ≤ maximum := by
  simp only [checkedPositiveInt]
  split
  · constructor
    · nofun
    · rintro ⟨rfl, positive, bounded⟩
      omega
  · simp only [Except.ok.injEq]
    omega

@[simp] theorem checkedPositiveInt_natCast :
    checkedPositiveInt (.int (a : Nat)) name maximum = .ok c ↔ a = c ∧ 0 < a ∧ a ≤ maximum := by
  rw [checkedPositiveInt_eq_ok]
  constructor
  · rintro ⟨same, positive, bounded⟩
    obtain rfl : a = c := Int.ofNat.inj same
    exact ⟨rfl, positive, bounded⟩
  · rintro ⟨rfl, positive, bounded⟩
    exact ⟨rfl, positive, bounded⟩

@[simp] theorem checkedAdd_eq_ok :
    checkedAdd a b name maximum = .ok c ↔ a + b = c ∧ a + b ≤ maximum := by
  unfold checkedAdd
  split
  · next large => exact ⟨nofun, fun fits => absurd fits.2 (by omega)⟩
  · next fits => exact ⟨fun same => ⟨by cases same; rfl, by omega⟩, fun same => by rw [same.1]⟩

@[simp] theorem checkedMul_eq_ok :
    checkedMul a b name maximum = .ok c ↔ a * b = c ∧ a * b ≤ maximum := by
  unfold checkedMul
  split
  · next large => exact ⟨nofun, fun fits => absurd fits.2 (Nat.not_le.mpr large)⟩
  · next fits =>
    exact ⟨fun same => ⟨by cases same; rfl, Nat.not_lt.mp fits⟩, fun same => by rw [same.1]⟩

/-- The least multiple of `alignment` that is not below `value`. -/
def roundUp (value alignment : Nat) : Nat := (value + (alignment - 1)) / alignment * alignment

theorem roundUp_isLeast {alignment : Nat} (value : Nat) (positive : 0 < alignment) :
    IsLeast {n | alignment ∣ n ∧ value ≤ n} (roundUp value alignment) := by
  constructor
  · refine ⟨Nat.dvd_mul_left .., ?_⟩
    have split := Nat.div_add_mod (value + (alignment - 1)) alignment
    have small := Nat.mod_lt (value + (alignment - 1)) positive
    rw [Nat.mul_comm] at split
    unfold roundUp
    omega
  · rintro _ ⟨⟨k, rfl⟩, above⟩
    rw [roundUp, Nat.mul_comm]
    refine Nat.mul_le_mul_left alignment (Nat.lt_succ_iff.mp ?_)
    rw [Nat.div_lt_iff_lt_mul positive, Nat.succ_mul, Nat.mul_comm k]
    omega

theorem roundUp_mono (alignment : Nat) (le : a ≤ b) : roundUp a alignment ≤ roundUp b alignment :=
  Nat.mul_le_mul_right alignment (Nat.div_le_div_right (Nat.add_le_add_right le _))

/-- `_align_up` returns the least multiple, and it raises where the next one does not fit. -/
theorem alignUp_eq_ok :
    alignUp a b maximum = .ok c ↔
      roundUp a b = c ∧ 0 < a ∧ a ≤ maximum ∧ 0 < b ∧ b ≤ 2 ^ 20 ∧ a + (b - 1) ≤ maximum := by
  simp only [alignUp, Method.bind_ok_iff, checkedPositiveInt_natCast, checkedAdd_eq_ok, roundUp]
  constructor
  · rintro ⟨_, ⟨rfl, positive, bounded⟩, _, ⟨rfl, positive', bounded'⟩, _, ⟨rfl, fits⟩, same⟩
    cases same
    exact ⟨rfl, positive, bounded, positive', bounded', fits⟩
  · rintro ⟨rfl, positive, bounded, positive', bounded', fits⟩
    exact ⟨a, ⟨rfl, positive, bounded⟩, b, ⟨rfl, positive', bounded'⟩, _, ⟨rfl, fits⟩, rfl⟩

/-- Where the maximum is one less than a multiple of the alignment, a sum fits exactly if its
round-up does. -/
theorem roundUp_le_iff {blocks : Nat} (positive : 0 < b) (whole : maximum + 1 = blocks * b) :
    roundUp a b ≤ maximum ↔ a + (b - 1) ≤ maximum := by
  constructor
  · intro fits
    by_contra large
    have least : blocks ≤ (a + (b - 1)) / b :=
      (Nat.le_div_iff_mul_le positive).mpr (by omega)
    have := Nat.mul_le_mul_right b least
    unfold roundUp at fits
    omega
  · intro fits
    exact le_trans (Nat.div_mul_le_self ..) fits

end

end ModelManager
