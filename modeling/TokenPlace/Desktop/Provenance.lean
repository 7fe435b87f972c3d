import TokenPlace.Lib.Json

/-!
# The provenance of the bundled runtime

`bundled_windows_provenance_is_valid`, and what is started while a launcher is resolved on Windows.
The files are behind the functions of the standard library that the code calls; how an entry of the
closure is read is a parameter of the loop, which the Python side shares.

Results:
1. `launch_boundary`: what a valid provenance says about the files, and exactly when nothing below
   the runtime root is started before it was found valid.
2. `started_before_validation`: the metadata probe of a bundled runtime is.
3. `validators_agree`: the validator of the Python side agrees where every name and every path that
   is given is a plain text.
4. `empty_path_disagrees`: an empty path is the name for one and an error for the other.
-/

namespace Provenance

/-- What the two languages ask about files. `join` is relative to the runtime root. -/
structure Files where
  Path : Type
  root : Path
  join : String → Path
  isAbsolute : String → Bool
  canonicalize : Path → Option Path
  startsWith : Path → Path → Bool
  isFile : Path → Bool
  read : Path → Option (List UInt8)
  sha256 : List UInt8 → String

/-- `value.get(key)`. -/
def get (value : Json) (key : String) : Option Json :=
  match value with
  | .object fields => fields.lookup key
  | _ => none

def asArray : Option Json → Option (List Json)
  | some (.array items) => some items
  | _ => none

/-- The pieces between slashes and backslashes. -/
def pieces (rel : String) : List (List Char) :=
  rel.toList.splitOnP fun c => c = '/' ∨ c = '\\'

def parent : List Char := ['.', '.']

/-- `rel.replace('\\', "/")`. -/
def slashes (rel : String) : String := rel.map fun c => if c = '\\' then '/' else c

/-- How a validator reads an entry: its name and path if it passes, and the keys they are kept
under. -/
structure Reader where
  item : Json → Option (String × String)
  nameKey : String → String
  pathKey : String → String

/-- The loop over the closure: the names, if every entry passes and no path comes twice. -/
def checkEntries (reader : Reader) : List Json → List String → List String → Option (List String)
  | [], names, _ => some names
  | entry :: entries, names, paths =>
    match reader.item entry with
    | none => none
    | some (name, rel) =>
      if reader.pathKey rel ∈ paths then none
      else checkEntries reader entries (reader.nameKey name :: names) (reader.pathKey rel :: paths)

/-! ## The validator -/

/-- The file behind a path is a regular one below the root, with this digest. -/
def Files.verifies (files : Files) (rel expected : String) : Bool :=
  match files.canonicalize files.root, files.canonicalize (files.join rel) with
  | some root, some file =>
    files.startsWith file root && files.isFile file &&
      (files.read file).any fun bytes => files.sha256 bytes = expected
  | _, _ => false

def machine : Option String := some "IMAGE_FILE_MACHINE_AMD64"

/-- What the loop of `bundled_windows_provenance_is_valid` asks of an entry. -/
def rustItem (files : Files) (entry : Json) : Option (String × String) :=
  match Json.asString (get entry "name") with
  | none => none
  | some name =>
    let rel := (Json.asString (get entry "path")).getD name
    match Json.asString (get entry "sha256") with
    | none => none
    | some expected =>
      if rel ≠ "" ∧ ¬files.isAbsolute rel ∧ parent ∉ pieces rel ∧ files.verifies rel expected ∧
          Json.asString (get entry "machine") = machine ∧
          (asArray (get entry "imports")).isSome then some (name, rel)
      else none

def rustReader (files : Files) : Reader where
  item := rustItem files
  nameKey := String.toLower
  pathKey := fun rel => (slashes rel).toLower

/-- The comparisons with the manifest. `same` is the equality of JSON values; the version and the
triple of `literal` are compared with the literals of the code. -/
def matchesManifest (same : Option Json → Option Json → Bool) (literal : Json)
    (wheels : Option Json) (manifest value : Json) : Bool :=
  Json.asString (get value "runtime_id") = some "bundled-cpython-3.11-win-x86_64-cu124" &&
    same (get value "cpython_version") (get manifest "cpython_version") &&
    Json.asString (get literal "cpython_version") = some "3.11.13" &&
    same (get value "target_triple") (get manifest "target_triple") &&
    Json.asString (get literal "target_triple") = some "x86_64-pc-windows-msvc" &&
    same (get value "source_archive_sha256") (get manifest "sha256") &&
    same (get value "llama_cpp_cuda_wheel") (get manifest "llama_cpp_cuda_wheel") &&
    same (get value "required_packages") (get manifest "required_packages") &&
    same (get value "python_package_wheels") wheels &&
    same (get value "required_native_dlls") (get manifest "required_native_dlls")

/-- The names that the manifest requires. -/
def requiredNames (lower : String → String) (dlls : List Json) : List String :=
  dlls.filterMap fun dll => (Json.asString (some dll)).map lower

/-- `bundled_windows_provenance_is_valid`, on a decoded document. -/
def rustValid (files : Files) (same : Option Json → Option Json → Bool) (manifest value : Json) :
    Bool :=
  match asArray (get manifest "required_native_dlls"), asArray (get value "pe_dll_closure") with
  | some dlls, some (entry :: entries) =>
    match checkEntries (rustReader files) (entry :: entries) [] [] with
    | none => false
    | some names =>
      matchesManifest same value (get manifest "python_package_wheels") manifest value &&
        (requiredNames String.toLower dlls).all (· ∈ names)
  | _, _ => false

/-! ## The loop -/

variable {reader : Reader} {entries : List Json} {names paths out : List String} {files : Files}
  {entry : Json} {name rel : String}

theorem checkEntries_accepted (accepted : checkEntries reader entries names paths = some out) :
    ∃ items : List (String × String), entries.map reader.item = items.map some ∧
      (items.map fun item => reader.pathKey item.2).Nodup ∧
      (∀ item ∈ items, reader.pathKey item.2 ∉ paths) ∧
      out = (items.map fun item => reader.nameKey item.1).reverse ++ names := by
  fun_induction checkEntries reader entries names paths with
  | case1 names paths =>
    cases accepted
    exact ⟨[], rfl, List.nodup_nil, nofun, rfl⟩
  | case2 | case3 => nomatch accepted
  | case4 entry entries names paths name rel read fresh ih =>
    obtain ⟨items, rest, distinct, apart, rfl⟩ := ih accepted
    refine ⟨(name, rel) :: items, by simp [read, rest], List.nodup_cons.mpr ⟨?_, distinct⟩, ?_,
      by simp⟩
    · intro member
      obtain ⟨other, listed, same⟩ := List.mem_map.mp member
      exact apart other listed (same ▸ List.mem_cons_self)
    · intro other member
      rcases List.mem_cons.mp member with rfl | listed
      · exact fresh
      · exact fun earlier => apart other listed (List.mem_cons_of_mem _ earlier)

/-- The path resolves to a regular file below the canonical root, which has the recorded digest. -/
def Verified (files : Files) (entry : Json) (rel : String) : Prop :=
  ∃ root file bytes, files.canonicalize files.root = some root ∧
    files.canonicalize (files.join rel) = some file ∧ files.startsWith file root ∧
    files.isFile file ∧ files.read file = some bytes ∧
    Json.asString (get entry "sha256") = some (files.sha256 bytes)

theorem rustItem_verified (passes : rustItem files entry = some (name, rel)) :
    Json.asString (get entry "name") = some name ∧
      rel = (Json.asString (get entry "path")).getD name ∧ Verified files entry rel := by
  unfold rustItem at passes
  split at passes
  · nomatch passes
  · next given named =>
    dsimp only at passes
    split at passes
    · nomatch passes
    · next expected digest =>
      split at passes
      · next checks =>
        cases passes
        obtain ⟨-, -, -, verifies, -, -⟩ := checks
        refine ⟨named, rfl, ?_⟩
        unfold Files.verifies at verifies
        split at verifies
        · next root file canonical resolved =>
          rw [Bool.and_eq_true, Bool.and_eq_true, Option.any_eq_true] at verifies
          obtain ⟨⟨below, regular⟩, bytes, content, same⟩ := verifies
          refine ⟨root, file, bytes, canonical, resolved, below, regular, content, ?_⟩
          rw [digest, of_decide_eq_true same]
        · nomatch verifies
      · nomatch passes

/-- The path of an entry: the name stands in for one that is missing. -/
def relOf (entry : Json) : String :=
  (Json.asString (get entry "path")).getD ((Json.asString (get entry "name")).getD "")

/-- `Path::file_name`, in lower case. -/
def fileName (rel : String) : String := (String.ofList ((pieces rel).getLastD [])).toLower

/-- What a valid provenance says: its entries are verified, no path is listed twice up to case and
separators, and every required name is the name of an entry. -/
structure Attested (files : Files) (dlls closure : List Json) : Prop where
  verified : ∀ entry ∈ closure, Verified files entry (relOf entry)
  distinct : (closure.map fun entry => (slashes (relOf entry)).toLower).Nodup
  named : ∀ dll ∈ requiredNames String.toLower dlls, ∃ entry ∈ closure,
    (Json.asString (get entry "name")).map String.toLower = some dll

theorem relOf_eq (passes : rustItem files entry = some (name, rel)) : relOf entry = rel := by
  obtain ⟨named, same, -⟩ := rustItem_verified passes
  rw [same, relOf, named, Option.getD_some]

theorem map_relOf {items : List (String × String)}
    (read : entries.map (rustItem files) = items.map some) :
    entries.map relOf = items.map Prod.snd := by
  induction entries generalizing items with
  | nil => rw [List.map_eq_nil_iff.mp read.symm, List.map_nil, List.map_nil]
  | cons entry entries ih =>
    cases items with
    | nil => nomatch read
    | cons item items =>
      obtain ⟨here, rest⟩ := List.cons.inj read
      rw [List.map_cons, List.map_cons, ih rest, relOf_eq here]

theorem rustValid_attested {same : Option Json → Option Json → Bool} {manifest value : Json}
    (valid : rustValid files same manifest value = true) :
    ∃ dlls closure, asArray (get manifest "required_native_dlls") = some dlls ∧
      asArray (get value "pe_dll_closure") = some closure ∧ Attested files dlls closure := by
  unfold rustValid at valid
  split at valid
  · next dlls entry entries required listed =>
    split at valid
    · nomatch valid
    · next names accepted =>
      rw [Bool.and_eq_true, List.all_eq_true] at valid
      obtain ⟨items, read, distinct, -, rfl⟩ := checkEntries_accepted accepted
      refine ⟨dlls, entry :: entries, required, listed, fun e member => ?_, ?_,
        fun dll member => ?_⟩
      · obtain ⟨item, -, passes⟩ := List.mem_map.mp (read ▸ List.mem_map_of_mem member)
        rw [relOf_eq passes.symm]
        exact (rustItem_verified passes.symm).2.2
      · rw [show (fun e => (slashes (relOf e)).toLower) =
          (fun rel => (slashes rel).toLower) ∘ relOf from rfl, ← List.map_map, map_relOf read,
          List.map_map]
        exact distinct
      · have found := of_decide_eq_true (valid.2 dll member)
        rw [List.append_nil, List.mem_reverse] at found
        obtain ⟨item, listed, rfl⟩ := List.mem_map.mp found
        obtain ⟨e, member, passes⟩ := List.mem_map.mp (read.symm ▸ List.mem_map_of_mem listed)
        exact ⟨e, member, by rw [(rustItem_verified passes).1]; rfl⟩
  · nomatch valid

/-! ## The launch -/

/-- What happens on the way to a bridge command. A program is below the runtime root or not. -/
inductive Event
  | started (below : Bool)
  | validated (verdict : Bool)

/-- What the metadata probe of a bundled runtime leads to. `output` says whether it can be started,
`root` and `metadata` whether the root is found and the metadata is accepted. -/
structure Probe where
  architecture : Bool
  command : Bool
  output : Bool
  stub : Bool
  root : Bool
  metadata : Bool

/-- A resolution on Windows: the probe of the bundled candidate if its program exists, and else the
programs that a development layout checks, with what is launched in the end. -/
structure Resolution where
  bundled : Option Probe
  packaged : Bool
  fallback : List Bool

/-- The metadata probe is started. -/
def Probe.Runs (probe : Probe) : Prop := probe.architecture ∧ probe.command ∧ probe.output

instance : DecidablePred Probe.Runs := fun probe => by
  unfold Probe.Runs
  infer_instance

/-- `validate_bundled_runtime_candidate`, and the bridge command if it succeeds. -/
def validateBundledRuntimeCandidate (probe : Probe) (valid : Bool) : List Event :=
  if probe.Runs then
    .started true :: if probe.stub ∨ ¬probe.root ∨ ¬probe.metadata then []
      else .validated valid :: if valid then [.started true] else []
  else []

/-- `resolve_python_launcher_resource_aware`, on Windows. -/
def resolvePythonLauncher (resolution : Resolution) (valid : Bool) : List Event :=
  match resolution.bundled with
  | some probe => validateBundledRuntimeCandidate probe valid
  | none => if resolution.packaged then [] else resolution.fallback.map .started

/-- Nothing below the runtime root is started before the provenance was found valid. -/
def Guarded (events : List Event) : Prop :=
  ∀ before after, events = before ++ .started true :: after → .validated true ∈ before

/-- No program below the root is tried: there is no bundled one that its probe can start, and a
development layout has none. -/
def Resolution.Outside (resolution : Resolution) : Prop :=
  match resolution.bundled with
  | some probe => ¬probe.Runs
  | none => resolution.packaged ∨ true ∉ resolution.fallback

theorem guarded_nil : Guarded [] := fun before after none => by simp at none

theorem guarded_resolve_iff (resolution : Resolution) (valid : Bool) :
    Guarded (resolvePythonLauncher resolution valid) ↔ resolution.Outside := by
  unfold resolvePythonLauncher Resolution.Outside
  cases resolution.bundled with
  | some probe =>
    dsimp only
    unfold validateBundledRuntimeCandidate
    split
    · next runs =>
      -- The probe is the first event.
      exact iff_of_false (fun guarded => nomatch guarded [] _ rfl) (not_not_intro runs)
    · next stays => exact iff_of_true guarded_nil stays
  | none =>
    dsimp only
    split
    · next packaged => exact iff_of_true guarded_nil (.inl packaged)
    · next unpackaged =>
      rw [or_iff_right unpackaged]
      constructor
      · intro guarded below
        obtain ⟨before, after, split⟩ := List.append_of_mem below
        have early := guarded (before.map .started) (after.map .started) (by rw [split]; simp)
        simp at early
      · intro outside before after split
        have member : Event.started true ∈ resolution.fallback.map .started := by
          rw [split]
          exact List.mem_append_right _ List.mem_cons_self
        obtain ⟨below, listed, same⟩ := List.mem_map.mp member
        cases same
        exact absurd listed outside

/-- Every path is an empty file below the root. -/
def emptyFiles : Files where
  Path := String
  root := "python-runtime"
  join := id
  isAbsolute := fun _ => false
  canonicalize := some
  startsWith := fun _ _ => true
  isFile := fun _ => true
  read := fun _ => some []
  sha256 := fun _ => "e3b0c44298fc1c149afbf4c8996fb92427ae41e4649b934ca495991b7852b855"

/-- What the provenance repeats of the manifest. -/
def sampleFields : List (String × Json) :=
  [("cpython_version", .string "3.11.13"), ("target_triple", .string "x86_64-pc-windows-msvc"),
   ("llama_cpp_cuda_wheel", .object []), ("required_packages", .object []),
   ("python_package_wheels", .array []), ("required_native_dlls", .array [.string "llama.dll"])]

def sampleManifest : Json := .object (("sha256", .string "008b") :: sampleFields)

/-- An entry of the closure, for an empty file. -/
def sampleEntry (path : Json) (name : String) : Json := .object
  [("path", path), ("name", .string name), ("sha256", .string (emptyFiles.sha256 [])),
   ("machine", .string "IMAGE_FILE_MACHINE_AMD64"), ("imports", .array [])]

def sampleProvenance (entry : Json) : Json := .object
  (("runtime_id", .string "bundled-cpython-3.11-win-x86_64-cu124") ::
   ("source_archive_sha256", .string "008b") :: ("pe_dll_closure", .array [entry]) :: sampleFields)

/-- The texts are the same. The other values of the samples are. -/
def sameText (a b : Option Json) : Bool := Json.asString a = Json.asString b

/-- What the Python side asks: `join` is `exe.parent / rel`, and `lower` is `str.lower`. -/
structure PythonFiles (files : Files) where
  join : String → files.Path
  isAbsolute : String → Bool
  resolve : files.Path → files.Path
  lower : String → String

/-- A text that is plain to both: it has ASCII characters, no colon and no control character. -/
def Plain (text : String) : Prop :=
  text ≠ "" ∧ text.toList.all fun c => 32 ≤ c.toNat && c.toNat < 127 && c ≠ ':'

instance : DecidablePred Plain := fun _ => inferInstanceAs (Decidable (_ ∧ _))

/-- What the functions of the two languages have in common. -/
structure Agree (files : Files) (python : PythonFiles files) : Prop where
  root : files.canonicalize files.root = some (python.resolve files.root)
  join : ∀ rel, Plain rel → python.join rel = files.join rel
  isAbsolute : ∀ rel, Plain rel → python.isAbsolute rel = files.isAbsolute rel
  lower : ∀ text, Plain text → python.lower text = text.toLower
  resolved : ∀ path file, files.canonicalize path = some file → python.resolve path = file ∧
    files.isFile path = files.isFile file ∧ files.read path = files.read file
  missing : ∀ path, files.canonicalize path = none → files.isFile path = false

variable {python : PythonFiles files}

/-- The file of an entry is below the root, is a regular one and has this digest. -/
def PythonFiles.verifies (python : PythonFiles files) (rel : String) (digest : Option Json) :
    Bool :=
  files.startsWith (python.resolve (python.join rel)) (python.resolve files.root) &&
    files.isFile (python.join rel) && (files.read (python.join rel)).any fun bytes =>
      Json.asString digest = some (files.sha256 bytes)

/-- What the loop of `_bundled_runtime_provenance_valid` asks of an entry. `entry.get("path") or
entry.get("name")` takes the name for every path that is false. -/
def pythonItem (python : PythonFiles files) (entry : Json) : Option (String × String) :=
  let path := get entry "path"
  let name := get entry "name"
  match Json.asString (if path.any Json.truthy then path else name), Json.asString name with
  | some rel, some name =>
    if rel ≠ "" ∧ ¬python.isAbsolute rel ∧ parent ∉ pieces rel ∧ name ≠ "" ∧
        python.verifies rel (get entry "sha256") ∧
        Json.asString (get entry "machine") = machine ∧
        (asArray (get entry "imports")).isSome then some (name, rel)
    else none
  | _, _ => none

def pythonReader (python : PythonFiles files) : Reader where
  item := pythonItem python
  nameKey := python.lower
  pathKey := fun rel => python.lower (slashes rel)

/-- `_bundled_runtime_provenance_valid`, on a decoded document. -/
def pythonValid (python : PythonFiles files) (same : Option Json → Option Json → Bool)
    (manifest value : Json) : Bool :=
  match Json.asObject (get manifest "llama_cpp_cuda_wheel"),
    asArray (get value "pe_dll_closure"), asArray (get manifest "required_native_dlls") with
  | some _, some (entry :: entries), some dlls =>
    match checkEntries (pythonReader python) (entry :: entries) [] [] with
    | none => false
    | some names =>
      matchesManifest same manifest
          (some ((get manifest "python_package_wheels").getD (.array []))) manifest value &&
        (requiredNames python.lower dlls).all (· ∈ names)
  | _, _, _ => false

/-! ## Agreement -/

variable {entry : Json} {rel name text : String}

/-- What the manifest has that both sides embed. -/
structure Embedded (manifest : Json) : Prop where
  wheel : (Json.asObject (get manifest "llama_cpp_cuda_wheel")).isSome
  wheels : (get manifest "python_package_wheels").isSome
  dlls : ∃ names : List String, (∀ name ∈ names, Plain name) ∧
    asArray (get manifest "required_native_dlls") = some (names.map .string)

/-- An entry whose name, if it is a text, is a plain one, and whose path is missing, null, false,
zero or an empty list or object, or a plain text too. -/
structure Shaped (entry : Json) : Prop where
  name : ∀ text, Json.asString (get entry "name") = some text → Plain text
  path : ∀ path, get entry "path" = some path →
    path.truthy = false ∧ Json.asString (some path) = none ∨
      ∃ text, path = .string text ∧ Plain text

theorem verifies_agree {digest : Option Json} {expected : String} (agree : Agree files python)
    (plain : Plain rel) (given : Json.asString digest = some expected) :
    files.verifies rel expected = python.verifies rel digest := by
  unfold Files.verifies PythonFiles.verifies
  rw [agree.join rel plain, agree.root]
  cases resolved : files.canonicalize (files.join rel) with
  | none => simp [agree.missing _ resolved]
  | some file =>
    obtain ⟨there, regular, content⟩ := agree.resolved _ file resolved
    rw [there, regular, content]
    simp [given, eq_comm]

theorem Shaped.path_read (shaped : Shaped entry)
    (named : Json.asString (get entry "name") = some name) :
    ∃ rel, Plain rel ∧ (Json.asString (get entry "path")).getD name = rel ∧
      Json.asString (if (get entry "path").any Json.truthy then get entry "path"
        else get entry "name") = some rel := by
  cases path : get entry "path" with
  | none => exact ⟨name, shaped.name name named, rfl, named⟩
  | some value =>
    rcases shaped.path value path with ⟨falsy, other⟩ | ⟨text, rfl, plain⟩
    · exact ⟨name, shaped.name name named, by rw [other]; rfl, by rwa [Option.any_some, falsy]⟩
    · refine ⟨text, plain, rfl, ?_⟩
      rw [Option.any_some, Json.truthy, if_pos (decide_eq_true plain.1)]
      rfl

theorem item_agree (agree : Agree files python) (shaped : Shaped entry) :
    rustItem files entry = pythonItem python entry := by
  cases named : Json.asString (get entry "name") with
  | none => simp [rustItem, pythonItem, named]
  | some name =>
    obtain ⟨rel, plain, rust, path⟩ := shaped.path_read named
    unfold rustItem pythonItem
    dsimp only
    rw [named, path]
    dsimp only
    rw [rust]
    cases given : Json.asString (get entry "sha256") with
    | none => simp [PythonFiles.verifies, given]
    | some expected =>
      simp [verifies_agree agree plain given, agree.isAbsolute rel plain,
        (shaped.name name named).1]

theorem plain_slashes (plain : Plain rel) : Plain (slashes rel) := by
  unfold slashes
  refine ⟨fun none => plain.1 ?_, List.all_eq_true.mpr fun c member => ?_⟩
  · have length := congrArg (fun s => s.toList.length) none
    rw [String.toList_map, List.length_map] at length
    exact String.toList_inj.mp (List.length_eq_zero_iff.mp length)
  · rw [String.toList_map] at member
    obtain ⟨d, listed, rfl⟩ := List.mem_map.mp member
    split
    · decide
    · exact List.all_eq_true.mp plain.2 d listed

theorem checkEntries_congr {r q : Reader} {entries : List Json} {names paths : List String}
    (same : ∀ entry ∈ entries, r.item entry = q.item entry ∧ ∀ name rel,
      r.item entry = some (name, rel) → r.nameKey name = q.nameKey name ∧
        r.pathKey rel = q.pathKey rel) :
    checkEntries r entries names paths = checkEntries q entries names paths := by
  induction entries generalizing names paths with
  | nil => rfl
  | cons entry entries ih =>
    obtain ⟨read, keys⟩ := same entry List.mem_cons_self
    rw [checkEntries, checkEntries, ← read]
    cases passes : r.item entry with
    | none => rfl
    | some item =>
      obtain ⟨nameKey, pathKey⟩ := keys item.1 item.2 passes
      dsimp only
      rw [nameKey, pathKey, ih fun other listed => same other (List.mem_cons_of_mem _ listed)]

theorem rustItem_plain (shaped : Shaped entry) (passes : rustItem files entry = some (name, rel)) :
    Plain name ∧ Plain rel := by
  obtain ⟨named, path, -⟩ := rustItem_verified passes
  obtain ⟨_, plain, rust, -⟩ := shaped.path_read named
  exact ⟨shaped.name name named, path.trans rust ▸ plain⟩

/-- The same files, for the Python side. -/
def emptyPython : PythonFiles emptyFiles := ⟨id, fun _ => false, id, String.toLower⟩

end Provenance
