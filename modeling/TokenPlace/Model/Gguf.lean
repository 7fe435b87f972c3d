import TokenPlace.Lib.BinaryFile
import TokenPlace.Lib.Utf8
import TokenPlace.Model.KvEstimate

/-!
# The header of a GGUF file

`_read_gguf_metadata`: the magic, the version and the counts, then the entries of the metadata.
The values of the keys that the KV-cache estimate needs are kept, all others are skipped.
-/

namespace ModelManager

open Method (raise raiseIf getState)
open BinaryFile (read tell seekEnd seekSet loop fromBytes)

/-- `GGUF_MAGIC`. -/
def ggufMagic : List UInt8 := [0x47, 0x47, 0x55, 0x46]

/-- The formats of `scalar_formats`. -/
inductive ScalarFormat
  | uint8
  | int8
  | uint16
  | int16
  | uint32
  | int32
  | float32
  | bool
  | uint64
  | int64
  | float64
deriving DecidableEq

/-- The size of a format in bytes. -/
def ScalarFormat.size : ScalarFormat → Nat
  | .uint8 | .int8 | .bool => 1
  | .uint16 | .int16 => 2
  | .uint32 | .int32 | .float32 => 4
  | .uint64 | .int64 | .float64 => 8

/-- `scalar_formats`. -/
def scalarFormats : Nat → Option ScalarFormat
  | 0 => some .uint8
  | 1 => some .int8
  | 2 => some .uint16
  | 3 => some .int16
  | 4 => some .uint32
  | 5 => some .int32
  | 6 => some .float32
  | 7 => some .bool
  | 10 => some .uint64
  | 11 => some .int64
  | 12 => some .float64
  | _ => none

/-- A value as it is read. A float stands as its bits. -/
inductive GgufValue
  | int (n : Int)
  | bool (b : Bool)
  | float32 (bits : BitVec 32)
  | float64 (bits : BitVec 64)
  | text (s : String)
deriving DecidableEq

/-- `struct.unpack(fmt, data)[0]`, from the bits of the data. -/
def ScalarFormat.unpack : (format : ScalarFormat) → BitVec (8 * format.size) → GgufValue
  | .uint8, bits => .int bits.toNat
  | .int8, bits => .int bits.toInt
  | .uint16, bits => .int bits.toNat
  | .int16, bits => .int bits.toInt
  | .uint32, bits => .int bits.toNat
  | .int32, bits => .int bits.toInt
  | .float32, bits => .float32 bits
  | .bool, bits => .bool (bits != 0)
  | .uint64, bits => .int bits.toNat
  | .int64, bits => .int bits.toInt
  | .float64, bits => .float64 bits

/-- `required_suffixes`. -/
def requiredSuffixes : List String :=
  ["block_count", "attention.head_count", "attention.head_count_kv", "attention.key_length",
    "attention.value_length", "embedding_length"]

/-- `key.split('.', 1)[1] if '.' in key else key`. -/
def keySuffix (key : String) : String :=
  match key.toList.dropWhile (· ≠ '.') with
  | [] => key
  | _ :: suffix => String.ofList suffix

/-- `should_store`. -/
def shouldStore (key : String) : Bool :=
  key = "general.architecture" || requiredSuffixes.contains (keySuffix key) ||
    unsupportedKvLayoutSuffixes.contains (keySuffix key)

/-- What `_read_gguf_metadata` returns. -/
abbrev GgufMetadata := String → Option GgufValue

/-- `metadata[key] = value`. -/
def GgufMetadata.set (metadata : GgufMetadata) (key : String) (value : GgufValue) :
    GgufMetadata := fun other => if other = key then some value else metadata other

abbrev GgufReader := Method BinaryFile Raised

/-- `read_exact`. -/
def readExact (length : Nat) : GgufReader (List UInt8) := do
  let data ← read length
  raiseIf (data.length ≠ length) (.valueError "gguf_metadata_truncated")
  return data

/-- `int.from_bytes(read_exact(f, width), 'little', signed=False)`. -/
def readUnsigned (width : Nat) : GgufReader Nat := do
  let data ← readExact width
  return fromBytes data

/-- `read_string`. -/
def readString : GgufReader String := do
  let length ← readUnsigned 8
  raiseIf (2 ^ 20 < length) (.valueError "gguf_string_too_large")
  let data ← readExact length
  return String.ofList (Utf8.decode data)

/-- `skip_bytes`. -/
def skipBytes (length : Nat) : GgufReader Unit := do
  raiseIf (2 ^ 34 < length) (.valueError "gguf_metadata_value_too_large")
  let f ← getState
  if f.seekable then
    let current ← tell
    let stop ← seekEnd
    let target := current + length
    raiseIf (stop < target) (.valueError "gguf_metadata_truncated")
    seekSet target
  else
    let _ ← readExact length
    return ()

/-- `read_scalar`. -/
def readScalar (format : ScalarFormat) : GgufReader GgufValue := do
  let data ← readExact format.size
  return format.unpack (BitVec.ofNat _ (fromBytes data))

/-- The elements of an array, which are never kept. -/
def skipElements (arrayType arrayLength : Nat) : GgufReader Unit :=
  match scalarFormats arrayType with
  | some format => skipBytes (format.size * arrayLength)
  | none =>
    if arrayType = 8 then
      loop (fun _ => readString >>= fun _ => return ()) arrayLength ()
    else raise (.valueError "gguf_metadata_type_unsupported")

/-- The array branch of `read_or_skip_value`. -/
def readArray (store : Bool) : GgufReader (Option GgufValue) := do
  let arrayType ← readUnsigned 4
  let arrayLength ← readUnsigned 8
  raiseIf (2 ^ 24 < arrayLength) (.valueError "gguf_array_too_large")
  skipElements arrayType arrayLength
  raiseIf store (.valueError "gguf_required_metadata_array_unsupported")
  return none

/-- `read_or_skip_value`. -/
def readOrSkipValue (valueType : Nat) (store : Bool) : GgufReader (Option GgufValue) :=
  match scalarFormats valueType with
  | some format => do
    let value ← readScalar format
    return if store then some value else none
  | none =>
    if valueType = 8 then do
      let value ← readString
      return if store then some (.text value) else none
    else if valueType = 9 then readArray store
    else raise (.valueError "gguf_metadata_type_unsupported")

/-- One entry: the body of the loop over `kv_count`. -/
def readEntry (metadata : GgufMetadata) : GgufReader GgufMetadata := do
  let key ← readString
  let valueType ← readUnsigned 4
  let value ← readOrSkipValue valueType (shouldStore key)
  return match value with
    | some value => if shouldStore key then metadata.set key value else metadata
    | none => metadata

/-- `_read_gguf_metadata` from `open` on. -/
def readMetadata (maxKv : Nat) : GgufReader GgufMetadata := do
  let magic ← readExact 4
  raiseIf (magic ≠ ggufMagic) (.valueError "gguf_magic_missing")
  let version ← readUnsigned 4
  raiseIf (version ∉ [2, 3]) (.valueError "gguf_version_unsupported")
  let _tensorCount ← readUnsigned 8
  let kvCount ← readUnsigned 8
  raiseIf (maxKv < kvCount) (.valueError "gguf_kv_count_too_large")
  loop readEntry kvCount fun _ => none

/-! ## The cache -/

/-- What `stat` tells of a file: its resolved path, its size and when it was last written. -/
structure FileIdentity where
  path : String
  size : Nat
  mtimeNs : Nat
deriving DecidableEq

/-- `GGUF_METADATA_CACHE`, which holds at most one entry. -/
abbrev GgufCache := Option ((FileIdentity × Nat) × GgufMetadata)

/-- `GGUF_METADATA_CACHE.get(cache_key)`. -/
def GgufCache.get (cache : GgufCache) (key : FileIdentity × Nat) : Option GgufMetadata :=
  match cache with
  | some (cachedKey, metadata) => if cachedKey = key then some metadata else none
  | none => none

/-- A call of `_read_gguf_metadata`: the file that it finds, and `max_kv`. -/
structure GgufCall where
  identity : FileIdentity
  contents : List UInt8
  seekable : Bool
  maxKv : Nat := 4096

/-- What reading the file gives, without the cache. -/
def GgufCall.read (call : GgufCall) : Except Raised GgufMetadata × BinaryFile :=
  readMetadata call.maxKv (.opened call.contents call.seekable)

/-- `_read_gguf_metadata`. -/
def readGgufMetadata (call : GgufCall) : Method GgufCache Raised GgufMetadata := fun cache =>
  match cache.get (call.identity, call.maxKv) with
  | some cached => (.ok cached, cache)
  | none =>
    match call.read.1 with
    | .ok metadata => (.ok metadata, some ((call.identity, call.maxKv), metadata))
    | .error e => (.error e, cache)

/-- The results of one call after the other, and the cache they leave. -/
def runCalls : List GgufCall → GgufCache → List (Except Raised GgufMetadata) × GgufCache
  | [], cache => ([], cache)
  | call :: calls, cache =>
    let (result, cache) := readGgufMetadata call cache
    let (results, cache) := runCalls calls cache
    (result :: results, cache)

end ModelManager
