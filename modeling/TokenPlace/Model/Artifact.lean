import TokenPlace.Lib.Json
import TokenPlace.Lib.Text

/-!
# The download of a model

`download_file_in_chunks` to the path of the model, `_validate_existing_model_artifact` with its
receipt, and `download_model_if_needed`. What the server and the file system do is an input. The
temporary file has a fresh name.

Results:
1. `acceptance_iff`: when a failed download leaves the file alone and a finished one is valid,
   also for the next call.
2. `error_page_accepted`: a model without a pinned artifact that is no model.
-/

namespace Artifact

/-! ## Files -/

abbrev Bytes := List UInt8

/-- A file or a directory, which has a size but cannot be read. -/
structure File where
  bytes : Bytes
  mtimeNs : ℤ
  readable : Bool
deriving DecidableEq

/-- The file at the path of the model, and what `json.load` gives for the receipt beside it. -/
structure Disk where
  target : Option File
  receipt : Option Json

/-- A profile, and whether the path of its model is the canonical one. -/
structure Profile where
  profileId : String
  artifactSizeBytes : Option ℤ
  artifactSha256 : Option String
  canonicalPath : Bool

/-- `_is_managed_canonical_model_path`. -/
def Profile.managed (p : Profile) : Bool := p.profileId == "qwen3-8b-q4-k-m" && p.canonicalPath

/-- `_profile_has_pinned_artifact` of a managed model. -/
def Profile.pinned (p : Profile) : Bool :=
  (p.artifactSizeBytes.isSome || p.artifactSha256.isSome) && p.managed

/-- The size to check for. -/
def Profile.expectedSize (p : Profile) : Option ℤ :=
  if p.pinned then p.artifactSizeBytes else none

/-- The digest to check for: an empty text counts as none. -/
def Profile.expectedSha256 (p : Profile) : Option String :=
  if p.pinned then p.artifactSha256.filter (· ≠ "") else none

/-- `GGUF_MAGIC`. -/
def ggufMagic : Bytes := [0x47, 0x47, 0x55, 0x46]

/-- `file.read(4) == GGUF_MAGIC`. -/
def hasMagic (bytes : Bytes) : Bool := bytes.take 4 == ggufMagic

/-- `str.lower` of a digest. -/
def lowerHex (s : String) : String := String.ofList (Text.lower s.toList)

/-! ## Inputs -/

/-- What the loop over the chunks sees. An exception leaves a part of the chunk in the file. -/
inductive Event
  | chunk (data : Bytes)
  | raises (written : Bytes)

/-- A response. The length is `none` if the header is not a number, and 0 if there is none. -/
structure Response where
  status : ℤ
  contentLength : Option ℤ
  events : List Event
  closeRaises : Bool

/-- `requests.get` raises one of the exceptions that are caught or another one, or responds. -/
inductive Server
  | refuses
  | raises
  | responds (response : Response)

/-- What the file system does: which operation fails, and the time of the new file. -/
structure Faults where
  openFails : Bool
  syncFails : Bool
  tmpSizeFails : Bool
  magicFails : Bool
  replaceFails : Bool
  unlinkFails : Bool
  receiptFails : Bool
  sizeFails : Bool
  mtimeNs : ℤ

/-- What a call does: it returns a truth value or raises. -/
inductive Outcome
  | returned (result : Bool)
  | raised
deriving DecidableEq

/-! ## The receipt -/

/-- `_write_artifact_verification_receipt`. -/
def writeReceipt (p : Profile) (expected : String) (fails : Bool) (d : Disk) : Disk :=
  match d.target with
  | none => d
  | some file =>
    if fails then d
    else
      { d with
        receipt := some (.object [("artifact_sha256", .string (lowerHex expected)),
          ("mtime_ns", .number file.mtimeNs), ("profile_id", .string p.profileId),
          ("size_bytes", .number file.bytes.length)]) }

/-- A JSON value equals an integer, which truth values can do too. -/
def sameInt (v : Option Json) (n : ℤ) : Bool :=
  match v with
  | some (.number q) => q == n
  | some (.bool b) => (b.toNat : ℤ) == n
  | _ => false

def sameString (v : Option Json) (s : String) : Bool :=
  match v with
  | some (.string t) => t == s
  | _ => false

/-- `_read_artifact_verification_receipt`. A receipt that is not an object has no `get`, which
raises an exception that nobody catches. -/
def readReceipt (p : Profile) (expected : String) (file : File) : Option Json → Option Bool
  | none => some false
  | some (.object receipt) =>
    some (sameString (receipt.lookup "profile_id") p.profileId &&
      sameString (receipt.lookup "artifact_sha256") (lowerHex expected) &&
      sameInt (receipt.lookup "size_bytes") file.bytes.length &&
      sameInt (receipt.lookup "mtime_ns") file.mtimeNs)
  | some _ => none

section

variable (sha256 : Bytes → String)

/-- `digest.hexdigest().lower() == str(expected_sha256).lower()`. -/
def sameDigest (bytes : Bytes) (expected : String) : Bool :=
  lowerHex (sha256 bytes) == lowerHex expected

/-- `_validate_existing_model_artifact`: the reason with the disk, or nothing if it raises. -/
def validate (p : Profile) (receiptFails hashIfSuspect : Bool) (d : Disk) :
    Option (String × Disk) :=
  match d.target with
  | none => some ("missing", d)
  | some file =>
    if p.expectedSize.any (· ≠ (file.bytes.length : ℤ)) then some ("size_mismatch", d)
    else if !file.readable then some ("unavailable", d)
    else if !hasMagic file.bytes then some ("bad_magic", d)
    else
      match p.expectedSha256 with
      | none => some ("valid", d)
      | some expected =>
        match if hashIfSuspect then some false else readReceipt p expected file d.receipt with
        | none => none
        | some true => some ("valid", d)
        | some false =>
          if sameDigest sha256 file.bytes expected then
            some ("valid", writeReceipt p expected receiptFails d)
          else some ("checksum_mismatch", d)

/-! ## The download -/

/-- The disk, and the temporary file. -/
structure Work where
  disk : Disk
  tmp : Option Bytes

variable (p : Profile) (f : Faults)

/-- `_remove_partial_download`. -/
def removePartialDownload (w : Work) : Work := if f.unlinkFails then w else { w with tmp := none }

/-- The loop over the chunks: what is in the file behind it, and whether it ended by itself. -/
def writeChunks : List Event → Bytes → Bytes × Bool
  | [], written => (written, true)
  | .chunk data :: events, written => writeChunks events (written ++ data)
  | .raises part :: _, written => (written ++ part, false)

/-- The response is written to the temporary file. The length is given back if that succeeds. -/
def fetch (r : Response) (w : Work) : Option ℤ × Work :=
  -- nothing has been written yet, so nothing is removed here
  if r.status ≠ 200 then (none, w)
  else
    match r.contentLength with
    | none => (none, removePartialDownload f w)
    | some total =>
      if total = 0 then (none, w)
      else if f.openFails then (none, removePartialDownload f w)
      else
        let (bytes, ended) := writeChunks r.events []
        let w := { w with tmp := some bytes }
        if ended && !f.syncFails then (some total, w) else (none, removePartialDownload f w)

/-- The checks of what was written. -/
def rejects (total : ℤ) (bytes : Bytes) : Bool :=
  p.expectedSize.any (· ≠ (bytes.length : ℤ)) || total ≠ bytes.length ||
    ((p.expectedSize.isSome || p.expectedSha256.isSome) && (f.magicFails || !hasMagic bytes)) ||
    p.expectedSha256.any (!sameDigest sha256 bytes ·)

/-- The temporary file takes the place of the model. -/
def install (bytes : Bytes) (w : Work) : Outcome × Work :=
  if f.replaceFails then (.returned false, removePartialDownload f w)
  else
    let disk := { w.disk with target := some ⟨bytes, f.mtimeNs, true⟩ }
    let disk := match p.expectedSha256 with
      | some expected => writeReceipt p expected f.receiptFails disk
      | none => disk
    let w := { disk, tmp := none }
    -- the size is asked for when the target has been replaced already
    if f.sizeFails then (.returned false, removePartialDownload f w) else (.returned true, w)

/-- What follows once the response is closed. -/
def finish (total : ℤ) (w : Work) : Outcome × Work :=
  if f.tmpSizeFails then (.raised, w)
  else
    match w.tmp with
    | none => (.returned false, removePartialDownload f w)
    | some bytes =>
      if rejects sha256 p f total bytes then (.returned false, removePartialDownload f w)
      else install p f bytes w

/-- `download_file_in_chunks`. -/
def downloadFileInChunks (server : Server) (d : Disk) : Outcome × Work :=
  match server with
  | .refuses => (.returned false, ⟨d, none⟩)
  | .raises => (.raised, ⟨d, none⟩)
  | .responds r =>
    let (fetched, w) := fetch f r ⟨d, none⟩
    if r.closeRaises then (.raised, w)
    else
      match fetched with
      | none => (.returned false, w)
      | some total => finish sha256 p f total w

/-! ## The model -/

/-- What `download_model_if_needed` reads and writes. -/
structure Manager where
  disk : Disk
  lastRuntimeInitError : String

/-- The last start failed in a way that makes the file suspect. -/
def suspectExistingArtifact (m : Manager) : Bool :=
  p.managed && ["model_artifact_invalid:", "runtime_model_load_failed",
    "runtime_model_vocab_failed"].any (·.toList <+: m.lastRuntimeInitError.toList)

/-- `download_model_if_needed`: what it does, whether it has downloaded, and the manager. -/
def downloadModelIfNeeded (server : Server) (m : Manager) : Outcome × Bool × Manager :=
  match validate sha256 p f.receiptFails (suspectExistingArtifact p m) m.disk with
  | none => (.raised, false, m)
  | some (reason, disk) =>
    let m := { m with disk }
    if reason = "valid" then (.returned true, false, m)
    else if reason = "missing" then
      let (outcome, w) := downloadFileInChunks sha256 p f server disk
      (outcome, true, { m with disk := w.disk })
    else if p.managed then
      match downloadFileInChunks sha256 p f server disk with
      | (.returned false, w) =>
        (.returned false, true, ⟨w.disk, "model_artifact_invalid:" ++ reason⟩)
      | (outcome, w) => (outcome, true, { m with disk := w.disk })
    else (.returned false, false, ⟨disk, "model_artifact_invalid:" ++ reason⟩)

/-! ## What a download should do -/

variable (server : Server) (d : Disk)

/-- A failed download leaves the bytes of the model, and no temporary file. -/
def FailureLeavesFile : Prop :=
  (downloadFileInChunks sha256 p f server d).1 = .returned false →
    (downloadFileInChunks sha256 p f server d).2.disk.target.map (·.bytes) =
        d.target.map (·.bytes) ∧
      (downloadFileInChunks sha256 p f server d).2.tmp = none

/-- A finished download has installed a valid model. -/
def SuccessIsValid : Prop :=
  (downloadFileInChunks sha256 p f server d).1 = .returned true →
    ∀ receiptFails hashIfSuspect, ∃ d',
      validate sha256 p receiptFails hashIfSuspect
        (downloadFileInChunks sha256 p f server d).2.disk = some ("valid", d')

/-- Once the model is there, the next call finds it and does not download. -/
def NextCallFindsIt : Prop :=
  ∀ error, (downloadModelIfNeeded sha256 p f server ⟨d, error⟩).1 = .returned true →
    ∀ server' f', ∃ m, downloadModelIfNeeded sha256 p f' server'
      (downloadModelIfNeeded sha256 p f server ⟨d, error⟩).2.2 = (.returned true, false, m)

/-! ## The condition -/

/-- A temporary file is made for the response. -/
def makesTmp (r : Response) : Bool :=
  r.status == 200 && r.contentLength.any (· ≠ 0) && !f.openFails

/-- The length and the bytes of a response that is written to the end. -/
def delivered (r : Response) : Option (ℤ × Bytes) :=
  if makesTmp f r && (writeChunks r.events []).2 && !f.syncFails then
    r.contentLength.map (·, (writeChunks r.events []).1)
  else none

/-- The bytes that pass the checks and take the place of the model. -/
def installed (r : Response) : Option Bytes :=
  match delivered f r with
  | some (total, bytes) =>
    if rejects sha256 p f total bytes || f.replaceFails then none else some bytes
  | none => none

/-- Nothing raises an exception that nobody catches. -/
def returns (r : Response) : Bool :=
  !r.closeRaises && !((delivered f r).isSome && f.tmpSizeFails)

/-- The receipt of a pinned digest is an object, if it can be read. -/
def ReceiptReadable : Prop :=
  p.expectedSha256.isSome = true → ∀ value ∈ d.receipt, ∃ fields, value = .object fields

/-- Where nothing is installed, the temporary file can be removed. What is installed is a GGUF
file, its size can be asked for at once, and a receipt that cannot be written replaces none that
cannot be read. -/
def Intact : Prop :=
  ∀ r, server = .responds r → returns f r = true →
    match installed sha256 p f r with
    | none => makesTmp f r = true → f.unlinkFails = false
    | some bytes =>
      if f.sizeFails then d.target.map (·.bytes) = some bytes
      else hasMagic bytes = true ∧ (f.receiptFails = true → ReceiptReadable p d)

/-! ## What a download does -/

variable {sha256 p f server d} {r : Response}

/-- The disk behind a download that installs something. -/
def installedDisk (p : Profile) (f : Faults) (d : Disk) (bytes : Bytes) : Disk :=
  match p.expectedSha256 with
  | some expected =>
    writeReceipt p expected f.receiptFails { d with target := some ⟨bytes, f.mtimeNs, true⟩ }
  | none => { d with target := some ⟨bytes, f.mtimeNs, true⟩ }

theorem fetch_eq (f : Faults) (r : Response) (d : Disk) :
    fetch f r ⟨d, none⟩ =
      match delivered f r with
      | some (total, bytes) => (some total, ⟨d, some bytes⟩)
      | none => (none, ⟨d, if makesTmp f r && f.unlinkFails then
          some (writeChunks r.events []).1 else none⟩) := by
  unfold fetch delivered makesTmp
  by_cases status : r.status = 200
  · rw [if_neg (not_not.mpr status), status]
    cases r.contentLength with
    | none => cases unlink : f.unlinkFails <;> simp [removePartialDownload, unlink]
    | some total =>
      by_cases zero : total = 0
      · simp [zero]
      · cases f.openFails <;> cases ended : (writeChunks r.events []).2 <;> cases f.syncFails <;>
          cases unlink : f.unlinkFails <;> simp [zero, ended, removePartialDownload, unlink]
  · rw [if_pos status]
    simp [status]

theorem download_of_not_installed (back : returns f r = true)
    (nothing : installed sha256 p f r = none) :
    ∃ bytes, downloadFileInChunks sha256 p f (.responds r) d =
      (.returned false, ⟨d, if makesTmp f r && f.unlinkFails then some bytes else none⟩) := by
  unfold returns at back
  unfold installed at nothing
  simp only [downloadFileInChunks, fetch_eq]
  cases written : delivered f r with
  | none =>
    rw [written] at back
    simp only [Option.isSome_none, Bool.false_and, Bool.not_false, Bool.and_true,
      Bool.not_eq_true'] at back
    simp only [back, Bool.false_eq_true, if_false]
    exact ⟨_, rfl⟩
  | some sent =>
    obtain ⟨total, bytes⟩ := sent
    rw [written] at back nothing
    have made : makesTmp f r = true := by
      unfold delivered at written
      split at written
      · next all => simp only [Bool.and_eq_true] at all; exact all.1.1
      · cases written
    simp only [Option.isSome_some, Bool.true_and, Bool.and_eq_true, Bool.not_eq_true'] at back
    simp only [back.1, Bool.false_eq_true, if_false, made, Bool.true_and, finish, back.2]
    refine ⟨bytes, ?_⟩
    have removed : removePartialDownload f ⟨d, some bytes⟩ =
        ⟨d, if f.unlinkFails then some bytes else none⟩ := by
      unfold removePartialDownload
      split <;> rfl
    split
    · rw [removed]
    · next passes =>
      rw [install]
      split
      · rw [removed]
      · next replaces =>
        dsimp only at nothing
        rw [if_neg (by simp [passes, replaces])] at nothing
        cases nothing

variable {receiptFails hashIfSuspect : Bool} {file : File} {expected : String} {d' : Disk}
  {bytes : Bytes} {m : Manager}

theorem download_of_installed (back : returns f r = true)
    (some_ : installed sha256 p f r = some bytes) :
    downloadFileInChunks sha256 p f (.responds r) d =
      (.returned (!f.sizeFails), ⟨installedDisk p f d bytes, none⟩) := by
  unfold returns at back
  unfold installed at some_
  simp only [downloadFileInChunks, fetch_eq]
  cases written : delivered f r with
  | none =>
    rw [written] at some_
    cases some_
  | some sent =>
    obtain ⟨total, bytes'⟩ := sent
    rw [written] at back some_
    dsimp only at some_
    split at some_
    · cases some_
    · next passes =>
      cases some_
      simp only [Bool.or_eq_true, not_or, Bool.not_eq_true] at passes
      simp only [Option.isSome_some, Bool.true_and, Bool.and_eq_true, Bool.not_eq_true'] at back
      simp only [back.1, Bool.false_eq_true, if_false, finish, back.2, passes.1, install, passes.2,
        installedDisk]
      cases f.sizeFails <;> cases p.expectedSha256 <;> simp [removePartialDownload]

theorem download_raises (lost : returns f r = false) :
    (downloadFileInChunks sha256 p f (.responds r) d).1 = .raised := by
  unfold returns at lost
  simp only [downloadFileInChunks, fetch_eq]
  cases closes : r.closeRaises with
  | true => cases delivered f r <;> rfl
  | false =>
    rw [closes] at lost
    cases written : delivered f r with
    | none =>
      rw [written] at lost
      cases lost
    | some sent =>
      rw [written] at lost
      have size : f.tmpSizeFails = true := by simpa using lost
      simp [finish, size]

/-! ## Validation -/

theorem validate_valid (there : d.target = some file) (readable : file.readable = true)
    (size : p.expectedSize.any (· ≠ (file.bytes.length : ℤ)) = false)
    (digest : p.expectedSha256.any (!sameDigest sha256 file.bytes ·) = false)
    (receiptFails hashIfSuspect : Bool) :
    (∃ d', validate sha256 p receiptFails hashIfSuspect d = some ("valid", d')) ↔
      hasMagic file.bytes = true ∧ (hashIfSuspect = true ∨
        ∀ expected ∈ p.expectedSha256, readReceipt p expected file d.receipt ≠ none) := by
  simp only [validate, there, size, readable, Bool.not_true, Bool.false_eq_true, if_false]
  cases magic : hasMagic file.bytes with
  | false => simp
  | true =>
    simp only [Bool.not_true, Bool.false_eq_true, if_false, true_and]
    cases pinned : p.expectedSha256 with
    | none => simp
    | some expected =>
      rw [pinned] at digest
      have same : sameDigest sha256 file.bytes expected = true := by simpa using digest
      cases hashIfSuspect with
      | true => simp [same]
      | false =>
        simp only [Bool.false_eq_true, if_false, false_or, Option.mem_some_iff, forall_eq', same,
          if_true]
        cases readReceipt p expected file d.receipt with
        | none => simp
        | some matched => cases matched <;> simp

theorem readReceipt_ne_none {receipt : Option Json} :
    readReceipt p expected file receipt ≠ none ↔
      ∀ value ∈ receipt, ∃ fields, value = .object fields := by
  cases receipt with
  | none => simp [readReceipt]
  | some value => cases value <;> simp [readReceipt]

theorem writeReceipt_target (expected : String) (fails : Bool) :
    (writeReceipt p expected fails d).target = d.target := by
  unfold writeReceipt
  split
  · rfl
  · split <;> rfl

theorem installedDisk_target (bytes : Bytes) :
    (installedDisk p f d bytes).target = some ⟨bytes, f.mtimeNs, true⟩ := by
  unfold installedDisk
  split
  · rw [writeReceipt_target]
  · rfl

theorem installed_valid_iff (some_ : installed sha256 p f r = some bytes) :
    (∀ receiptFails hashIfSuspect, ∃ d',
      validate sha256 p receiptFails hashIfSuspect (installedDisk p f d bytes) =
        some ("valid", d')) ↔
    hasMagic bytes = true ∧ (f.receiptFails = true → ReceiptReadable p d) := by
  have passes : ∃ total, rejects sha256 p f total bytes = false := by
    unfold installed at some_
    split at some_
    · next total _ _ =>
      split at some_
      · cases some_
      · next passes =>
        cases some_
        simp only [Bool.or_eq_true, not_or, Bool.not_eq_true] at passes
        exact ⟨total, passes.1⟩
    · cases some_
  obtain ⟨total, passes⟩ := passes
  simp only [rejects, Bool.or_eq_false_iff] at passes
  obtain ⟨⟨⟨size, _⟩, _⟩, digest⟩ := passes
  have there : (installedDisk p f d bytes).target = some ⟨bytes, f.mtimeNs, true⟩ :=
    installedDisk_target bytes
  have valid := validate_valid there rfl size digest
  constructor
  · intro all
    obtain ⟨magic, readable⟩ := (valid false false).mp (all false false)
    refine ⟨magic, fun fails pinned => ?_⟩
    obtain ⟨expected, isPinned⟩ := Option.isSome_iff_exists.mp pinned
    have read := (readReceipt_ne_none).mp (readable.resolve_left nofun expected isPinned)
    simpa [installedDisk, isPinned, writeReceipt, fails] using read
  · rintro ⟨magic, readable⟩ receiptFails hashIfSuspect
    refine (valid receiptFails hashIfSuspect).mpr ⟨magic, .inr fun expected isPinned => ?_⟩
    refine readReceipt_ne_none.mpr ?_
    cases fails : f.receiptFails with
    | true =>
      have read := readable fails (by rw [Option.mem_def.mp isPinned]; rfl)
      simpa [installedDisk, Option.mem_def.mp isPinned, writeReceipt, fails] using read
    | false =>
      simp [installedDisk, Option.mem_def.mp isPinned, writeReceipt, fails]

theorem rereadable (there : d.target = some file) (pinned : p.expectedSha256 = some expected)
    (read : (if hashIfSuspect then some false else readReceipt p expected file d.receipt) =
      some false) :
    hashIfSuspect = true ∨ ∀ e ∈ p.expectedSha256,
      readReceipt p e file (writeReceipt p expected receiptFails d).receipt ≠ none := by
  cases hashIfSuspect with
  | true => exact .inl rfl
  | false =>
    refine .inr fun e isPinned => ?_
    obtain rfl := Option.some.inj (pinned.symm.trans isPinned)
    rw [writeReceipt, there]
    cases receiptFails with
    | true => exact fun none => nomatch read.symm.trans none
    | false =>
      exact readReceipt_ne_none.mpr fun value given => ⟨_, (Option.some.inj given).symm⟩

theorem validate_again (valid : validate sha256 p receiptFails hashIfSuspect d = some ("valid", d'))
    (receiptFails' : Bool) :
    ∃ d'', validate sha256 p receiptFails' hashIfSuspect d' = some ("valid", d'') := by
  unfold validate at valid
  split at valid
  · simp at valid
  · next file there =>
    split at valid
    · simp at valid
    · next size =>
      split at valid
      · simp at valid
      · next readable =>
        split at valid
        · simp at valid
        · next magic =>
          split at valid
          · next free =>
            cases valid
            exact ⟨d, by simp only [validate, there, size, readable, magic, free]; rfl⟩
          · next expected pinned =>
            split at valid
            · cases valid
            · next read =>
              cases valid
              exact ⟨d, by simp only [validate, there, size, readable, magic, pinned, read]; rfl⟩
            · next read =>
              split at valid
              · next same =>
                cases valid
                refine (validate_valid ((writeReceipt_target expected receiptFails).trans there)
                  (by simpa using readable) (Bool.eq_false_iff.mpr size) ?_ _ _).mpr
                  ⟨by simpa using magic, ?_⟩
                · rw [pinned]
                  simp [same]
                · exact rereadable there pinned read
              · simp at valid

theorem validate_disk {reason : String}
    (validated : validate sha256 p receiptFails hashIfSuspect d = some (reason, d'))
    (invalid : reason ≠ "valid") : d' = d := by
  unfold validate at validated
  split at validated
  · cases validated; rfl
  · split at validated
    · cases validated; rfl
    · split at validated
      · cases validated; rfl
      · split at validated
        · cases validated; rfl
        · split at validated
          · cases validated; rfl
          · split at validated
            · cases validated
            · cases validated; rfl
            · split at validated
              · cases validated; exact absurd rfl invalid
              · cases validated; rfl

/-! ## The next call -/

theorem found_of_valid
    (valid : validate sha256 p f.receiptFails (suspectExistingArtifact p m) m.disk =
      some ("valid", d')) :
    downloadModelIfNeeded sha256 p f server m = (.returned true, false, { m with disk := d' }) := by
  simp only [downloadModelIfNeeded, valid, if_true]

/-- A call succeeds with a valid file or with a download, and keeps the last error. -/
theorem succeeded_cases
    (succeeded : (downloadModelIfNeeded sha256 p f server m).1 = .returned true) :
    (∃ d', validate sha256 p f.receiptFails (suspectExistingArtifact p m) m.disk =
        some ("valid", d') ∧
          (downloadModelIfNeeded sha256 p f server m).2.2 = { m with disk := d' }) ∨
      ∃ w, downloadFileInChunks sha256 p f server m.disk = (.returned true, w) ∧
        (downloadModelIfNeeded sha256 p f server m).2.2 = { m with disk := w.disk } := by
  cases validated : validate sha256 p f.receiptFails (suspectExistingArtifact p m) m.disk with
  | none =>
    simp only [downloadModelIfNeeded, validated] at succeeded
    cases succeeded
  | some result =>
    obtain ⟨reason, disk⟩ := result
    by_cases valid : reason = "valid"
    · subst valid
      exact .inl ⟨disk, rfl, by rw [found_of_valid validated]⟩
    · obtain rfl := validate_disk validated valid
      refine .inr ?_
      simp only [downloadModelIfNeeded, validated, valid, if_false] at succeeded ⊢
      generalize downloadFileInChunks sha256 p f server m.disk = result at succeeded ⊢
      obtain ⟨outcome, w⟩ := result
      by_cases missing : reason = "missing"
      · simp only [missing, if_true] at succeeded ⊢
        exact ⟨w, by rw [show outcome = .returned true from succeeded], rfl⟩
      · simp only [missing, if_false] at succeeded ⊢
        split at succeeded
        · next managed =>
          cases outcome with
          | raised => cases succeeded
          | returned result =>
            cases result with
            | false => cases succeeded
            | true => exact ⟨w, rfl, by rw [if_pos managed]⟩
        · cases succeeded

theorem nextCallFindsIt (accepts : SuccessIsValid sha256 p f server d) :
    NextCallFindsIt sha256 p f server d := by
  intro error succeeded server' f'
  have suspect : ∀ d',
      suspectExistingArtifact p ⟨d', error⟩ = suspectExistingArtifact p ⟨d, error⟩ := fun _ => rfl
  obtain ⟨d', valid, after⟩ | ⟨w, downloaded, after⟩ := succeeded_cases succeeded
  · obtain ⟨d'', again⟩ := validate_again valid f'.receiptFails
    rw [after]
    exact ⟨_, found_of_valid (m := ⟨d', error⟩) again⟩
  · have valid := accepts (by rw [downloaded])
    rw [downloaded] at valid
    obtain ⟨d'', again⟩ := valid f'.receiptFails (suspectExistingArtifact p ⟨d, error⟩)
    rw [after]
    exact ⟨_, found_of_valid (m := ⟨w.disk, error⟩) again⟩

/-- The two sides agree, and a finished download is found again, exactly under the condition. -/
theorem acceptance_iff (sha256 : Bytes → String) (p : Profile) (f : Faults) (server : Server)
    (d : Disk) :
    FailureLeavesFile sha256 p f server d ∧ SuccessIsValid sha256 p f server d ∧
        NextCallFindsIt sha256 p f server d ↔
      Intact sha256 p f server d := by
  constructor
  · rintro ⟨leaves, accepts, _⟩ r rfl back
    unfold FailureLeavesFile at leaves
    unfold SuccessIsValid at accepts
    cases some_ : installed sha256 p f r with
    | none =>
      intro made
      obtain ⟨bytes, downloaded⟩ := download_of_not_installed (d := d) back some_
      rw [downloaded] at leaves
      have gone := (leaves rfl).2
      rw [made] at gone
      by_contra unlink
      simp [unlink] at gone
    | some bytes =>
      have downloaded := download_of_installed (d := d) back some_
      rw [downloaded] at leaves accepts
      dsimp only
      split
      · next size =>
        rw [size] at leaves
        have kept := (leaves rfl).1
        rw [installedDisk_target] at kept
        exact kept.symm
      · next size =>
        refine (installed_valid_iff some_).mp (accepts ?_)
        simp [size]
  · intro intact
    have leaves : FailureLeavesFile sha256 p f server d := by
      intro failed
      cases server with
      | refuses => exact ⟨rfl, rfl⟩
      | raises => cases failed
      | responds r =>
        cases back : returns f r with
        | false =>
          rw [download_raises back] at failed
          cases failed
        | true =>
          have here := intact r rfl back
          cases some_ : installed sha256 p f r with
          | none =>
            rw [some_] at here
            obtain ⟨bytes, downloaded⟩ := download_of_not_installed (d := d) back some_
            rw [downloaded]
            refine ⟨rfl, if_neg fun stays => ?_⟩
            obtain ⟨made, unlink⟩ := Bool.and_eq_true_iff.mp stays
            rw [here made] at unlink
            cases unlink
          | some bytes =>
            have downloaded := download_of_installed (d := d) back some_
            rw [downloaded] at failed ⊢
            rw [some_] at here
            cases size : f.sizeFails with
            | false =>
              rw [size] at failed
              cases failed
            | true =>
              simp only [size, if_true] at here
              exact ⟨by rw [installedDisk_target]; exact here.symm, rfl⟩
    have accepts : SuccessIsValid sha256 p f server d := by
      intro succeeded
      cases server with
      | refuses | raises => cases succeeded
      | responds r =>
        cases back : returns f r with
        | false =>
          rw [download_raises back] at succeeded
          cases succeeded
        | true =>
          have here := intact r rfl back
          cases some_ : installed sha256 p f r with
          | none =>
            obtain ⟨bytes, downloaded⟩ := download_of_not_installed (d := d) back some_
            rw [downloaded] at succeeded
            cases succeeded
          | some bytes =>
            have downloaded := download_of_installed (d := d) back some_
            rw [downloaded] at succeeded ⊢
            rw [some_] at here
            cases size : f.sizeFails with
            | true =>
              rw [size] at succeeded
              cases succeeded
            | false =>
              simp only [size, Bool.false_eq_true, if_false] at here
              exact (installed_valid_iff some_).mpr here
    exact ⟨leaves, accepts, nextCallFindsIt accepts⟩

/-- A page of another kind that the server sends for the model. -/
def errorPage : Response where
  status := 200
  contentLength := some 4
  events := [.chunk [0x6e, 0x6f, 0x6e, 0x65]]
  closeRaises := false

/-- A file system without failures. -/
def noFaults : Faults := ⟨false, false, false, false, false, false, false, false, 0⟩

/-- The page is accepted for a model whose artifact is not pinned, and the next call fails. -/
theorem error_page_accepted :
    ∃ p d, ¬ SuccessIsValid (fun _ => "") p noFaults (.responds errorPage) d ∧
      (downloadModelIfNeeded (fun _ => "") p noFaults (.responds errorPage) ⟨d, ""⟩).1 =
        .returned true ∧
      (downloadModelIfNeeded (fun _ => "") p noFaults (.responds errorPage)
        (downloadModelIfNeeded (fun _ => "") p noFaults (.responds errorPage) ⟨d, ""⟩).2.2).1 =
          .returned false := by
  refine ⟨⟨"llama", none, none, false⟩, ⟨none, none⟩, fun accepts => ?_, ?_, ?_⟩
  · obtain ⟨d', valid⟩ := accepts (by decide +kernel) false false
    have reason : _ = some "valid" := congrArg (Option.map Prod.fst) valid
    exact absurd reason (by decide +kernel)
  · decide +kernel
  · decide +kernel

end

end Artifact
