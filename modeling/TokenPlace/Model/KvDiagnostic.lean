import TokenPlace.Model.KvEstimate

/-!
# The KV buffer sizes in the log

`parse_llama_cpp_kv_allocation_diagnostics` reads one line for each device and adds up the
sizes. A size is printed in MiB with at most two decimals, so what is observed comes with a
half-width: the printed value is rounded, and the centre is cut off to whole bytes.
-/

namespace ModelManager

/-! ## One line -/

/-- A line that reports a device, with the digits of its value. -/
structure KvBufferReport where
  device : String
  whole : List Char
  fraction : List Char
  short : fraction.length ≤ 2
deriving DecidableEq

/-- `[A-Za-z0-9_-]`. -/
def isDeviceChar (c : Char) : Bool := c.isAlphanum || c == '_' || c == '-'

/-- `(?:_init|_unified)?`. -/
def skipKvCacheTag (s : List Char) : List Char :=
  ((Text.literal "_init".toList s) <|> (Text.literal "_unified".toList s)).getD s

/-- `(?:\.[0-9]{1,2})?`, for the longest run of digits: what follows it is not a digit. -/
def kvFraction : List Char → Option ({ digits : List Char // digits.length ≤ 2 } × List Char)
  | '.' :: s => do
    let (digits, s) ← Text.many Char.isDigit s
    if short : digits.length ≤ 2 then some (⟨digits, short⟩, s) else none
  | s => some (⟨[], Nat.zero_le 2⟩, s)

/-- `_LLAMA_CPP_KV_BUFFER_RE.fullmatch(str(raw).strip())`. -/
def kvBufferLine (raw : String) : Option KvBufferReport := do
  let s ← Text.literal "llama_kv_cache".toList (Text.strip raw.toList)
  let s ← Text.literal ":".toList (skipKvCacheTag s)
  let (_, s) ← Text.many Text.isSpace s
  let (device, s) ← Text.many isDeviceChar s
  let (_, s) ← Text.many Text.isSpace s
  let s ← Text.literal "KV buffer size =".toList s
  let (_, s) ← Text.many Text.isSpace s
  let (whole, s) ← Text.many Char.isDigit s
  let (fraction, s) ← kvFraction s
  let (_, s) ← Text.many Text.isSpace s
  if s = "MiB".toList then some ⟨String.ofList device, whole, fraction.1, fraction.2⟩ else none

/-- The value of decimal digits. -/
def digitsValue (digits : List Char) : Nat :=
  digits.foldl (fun n c => 10 * n + (c.toNat - '0'.toNat)) 0

/-- `int` of a text of digits. -/
def intOfDigits (digits : List Char) : Except Raised Nat :=
  if 4300 < digits.length then
    .error (.valueError ("Exceeds the limit (4300 digits) for integer string conversion: value " ++
      "has " ++ toString digits.length ++
      " digits; use sys.set_int_max_str_digits() to increase the limit"))
  else .ok (digitsValue digits)

/-! ## All lines -/

/-- A record of the loop. -/
structure KvRecord where
  device : String
  center : Nat
  precision : Nat
  decimals : Nat
deriving DecidableEq

/-- The record of a report. The quotient of the half-width is not rounded before `ceil`. -/
def kvRecord (report : KvBufferReport) : Except Raised KvRecord := do
  let decimals := report.fraction.length
  let scale := 10 ^ decimals
  let units ← intOfDigits (report.whole ++ report.fraction)
  let numerator ← checkedMul units (1024 * 1024) "kv_diagnostic_bytes" (2 ^ 63 * scale)
  return {
    device := report.device.toLower
    center := numerator / scale
    precision := max 1 ⌈((1024 * 1024 : ℕ) : ℚ) / ((2 * scale : ℕ) : ℚ)⌉₊
    decimals := decimals }

/-- The result of `parse_llama_cpp_kv_allocation_diagnostics`. -/
structure KvAllocationDiagnostics where
  method : String
  llamaCppPythonVersion : String
  llamaCppCommit : String
  observedBytes : Nat
  precisionBytes : Nat
  recordCount : Nat
  unit : String
  decimalPlaces : Nat
deriving DecidableEq

/-- The reports among the lines. -/
def kvReports (lines : List String) : List KvBufferReport := lines.filterMap kvBufferLine

/-- `parse_llama_cpp_kv_allocation_diagnostics`. -/
def parseLlamaCppKvAllocationDiagnostics (lines : List String) :
    Except Raised KvAllocationDiagnostics := do
  let records ← (kvReports lines).mapM kvRecord
  require (records ≠ []) (.valueError "kv_runtime_diagnostic_missing")
  require (records.map (·.device)).Nodup (.valueError "kv_runtime_diagnostic_ambiguous")
  let decimals := (records.map (·.decimals)).dedup
  require (decimals.length = 1) (.valueError "kv_runtime_diagnostic_mixed_precision")
  let observed : Nat := (records.map (·.center)).sum
  let precision : Nat := (records.map (·.precision)).sum
  require (0 < observed ∧ observed < 2 ^ 63) (.valueError "kv_runtime_diagnostic_out_of_range")
  return {
    method := "pinned_llama_cpp_kv_buffer_diagnostic"
    llamaCppPythonVersion := "0.3.32"
    llamaCppCommit := "b3fed31b99f9bd37725833674252bccb429bb183"
    observedBytes := observed
    precisionBytes := precision
    recordCount := records.length
    unit := "MiB"
    decimalPlaces := decimals.headD 0 }

/-! ## One report -/

/-- The value that a report prints, in MiB. -/
def KvBufferReport.mebibytes (report : KvBufferReport) : ℚ :=
  digitsValue (report.whole ++ report.fraction) / 10 ^ report.fraction.length

/-- A byte count is printed with the decimals of the report: the error is at most half a unit in
the last place. -/
def KvBufferReport.Rounds (report : KvBufferReport) (bytes : ℕ) : Prop :=
  |bytes / 2 ^ 20 - report.mebibytes| ≤ 1 / 2 / 10 ^ report.fraction.length

/-- The record covers a byte count. -/
def KvRecord.Covers (record : KvRecord) (bytes : ℕ) : Prop :=
  record.center ≤ bytes + record.precision ∧ bytes ≤ record.center + record.precision

/-- A rounded value in whole units of the last place, with the denominators cleared. -/
theorem rounded_units (bytes units scale : ℕ) (positive : 0 < scale)
    (rounded : |(bytes / 2 ^ 20 - units / scale : ℚ)| ≤ 1 / 2 / scale) :
    2 * units * 2 ^ 20 ≤ 2 * bytes * scale + 2 ^ 20 ∧
      2 * bytes * scale ≤ 2 * units * 2 ^ 20 + 2 ^ 20 := by
  have positive : (0 : ℚ) < scale := Nat.cast_pos.mpr positive
  have cleared : |(2 * bytes * scale - 2 * units * 2 ^ 20 : ℚ)| ≤ 2 ^ 20 := by
    calc |(2 * bytes * scale - 2 * units * 2 ^ 20 : ℚ)|
        = |(bytes / 2 ^ 20 - units / scale : ℚ)| * (2 * scale * 2 ^ 20) := by
          rw [← abs_of_pos (by positivity : (0 : ℚ) < 2 * scale * 2 ^ 20), ← abs_mul]
          congr 1
          field_simp
      _ ≤ 1 / 2 / scale * (2 * scale * 2 ^ 20) :=
          mul_le_mul_of_nonneg_right rounded (by positivity)
      _ = 2 ^ 20 := by field_simp
  obtain ⟨lower, upper⟩ := abs_le.mp cleared
  constructor
  · have : (2 * units * 2 ^ 20 : ℚ) ≤ 2 * bytes * scale + 2 ^ 20 := by linarith
    exact_mod_cast this
  · have : (2 * bytes * scale : ℚ) ≤ 2 * units * 2 ^ 20 + 2 ^ 20 := by linarith
    exact_mod_cast this

theorem half_width (decimals : ℕ) (short : decimals ≤ 2) :
    max 1 ⌈((1024 * 1024 : ℕ) : ℚ) / ((2 * 10 ^ decimals : ℕ) : ℚ)⌉₊ =
      (2 ^ 20 + (2 * 10 ^ decimals - 1)) / (2 * 10 ^ decimals) := by
  obtain rfl | rfl | rfl : decimals = 0 ∨ decimals = 1 ∨ decimals = 2 := by omega
  · have half : ⌈((1024 * 1024 : ℕ) : ℚ) / ((2 * 10 ^ 0 : ℕ) : ℚ)⌉₊ = 524288 := by
      rw [Nat.ceil_eq_iff (by decide)]
      norm_num
    rw [half]
    norm_num
  · have tenth : ⌈((1024 * 1024 : ℕ) : ℚ) / ((2 * 10 ^ 1 : ℕ) : ℚ)⌉₊ = 52429 := by
      rw [Nat.ceil_eq_iff (by decide)]
      norm_num
    rw [tenth]
    norm_num
  · have hundredth : ⌈((1024 * 1024 : ℕ) : ℚ) / ((2 * 10 ^ 2 : ℕ) : ℚ)⌉₊ = 5243 := by
      rw [Nat.ceil_eq_iff (by decide)]
      norm_num
    rw [hundredth]
    norm_num

/-- A byte count is whole, and what the centre cuts off is less than one byte: the half-width,
rounded up, covers both losses. -/
theorem kvRecord_covers {report : KvBufferReport} {record : KvRecord} {bytes : ℕ}
    (recorded : kvRecord report = .ok record) (rounded : report.Rounds bytes) :
    record.Covers bytes := by
  simp only [kvRecord, Method.bind_ok_iff, checkedMul_eq_ok] at recorded
  obtain ⟨units, read, _, ⟨rfl, _⟩, same⟩ := recorded
  cases same
  have value : units = digitsValue (report.whole ++ report.fraction) := by
    unfold intOfDigits at read
    split at read
    · cases read
    · cases read
      rfl
  have scaled := rounded_units bytes units (10 ^ report.fraction.length)
    (Nat.pow_pos (by decide)) (by
      rw [value]
      push_cast
      exact rounded)
  simp only [KvRecord.Covers, half_width _ report.short]
  have short := report.short
  generalize report.fraction.length = decimals at scaled short
  obtain rfl | rfl | rfl : decimals = 0 ∨ decimals = 1 ∨ decimals = 2 := by omega
  all_goals omega

/-! ## All reports -/

variable {reports : List KvBufferReport} {records : List KvRecord}

theorem mapM_kvRecord (recorded : reports.mapM kvRecord = .ok records) :
    List.Forall₂ (fun report record => kvRecord report = .ok record) reports records := by
  induction reports generalizing records with
  | nil =>
    cases recorded
    exact .nil
  | cons report reports ih =>
    simp only [List.mapM_cons, Method.bind_ok_iff] at recorded
    obtain ⟨record, first, rest, others, same⟩ := recorded
    cases same
    exact .cons first (ih others)

theorem kvRecord_device {report : KvBufferReport} {record : KvRecord}
    (recorded : kvRecord report = .ok record) : record.device = report.device.toLower := by
  simp only [kvRecord, Method.bind_ok_iff] at recorded
  obtain ⟨_, _, _, _, same⟩ := recorded
  cases same
  rfl

theorem devices_nodup
    (recorded : List.Forall₂ (fun report record => kvRecord report = .ok record) reports records)
    (distinct : (records.map (·.device)).Nodup) : (reports.map (·.device)).Nodup := by
  have lowered : records.map (·.device) = (reports.map (·.device)).map String.toLower := by
    induction recorded with
    | nil => rfl
    | cons first _ ih =>
      simp only [List.map_cons, kvRecord_device first, List.cons.injEq, true_and]
      exact ih (List.nodup_cons.mp distinct).2
  rw [lowered] at distinct
  exact distinct.of_map

theorem records_cover (bytes : String → ℕ)
    (recorded : List.Forall₂ (fun report record => kvRecord report = .ok record) reports records)
    (rounded : ∀ report ∈ reports, report.Rounds (bytes report.device)) :
    (records.map (·.center)).sum ≤
        (reports.map (bytes ·.device)).sum + (records.map (·.precision)).sum ∧
      (reports.map (bytes ·.device)).sum ≤
        (records.map (·.center)).sum + (records.map (·.precision)).sum := by
  induction recorded with
  | nil => exact ⟨le_rfl, le_rfl⟩
  | cons first _ ih =>
    obtain ⟨here, rest⟩ := List.forall_mem_cons.mp rounded
    obtain ⟨lower, upper⟩ := kvRecord_covers first here
    obtain ⟨lowers, uppers⟩ := ih rest
    simp only [List.map_cons, List.sum_cons]
    omega

/-- The interval of the diagnostic is sound: for the true byte counts of the devices that report,
each rounded to the decimals that are printed, their sum lies in it. -/
theorem kvAllocationDiagnostics_sound (lines : List String) (bytes : String → ℕ)
    (rounded : ∀ line ∈ lines, ∀ report, kvBufferLine line = some report →
      |(bytes report.device : ℚ) / 2 ^ 20 -
        digitsValue (report.whole ++ report.fraction) / 10 ^ report.fraction.length| ≤
          1 / 2 / 10 ^ report.fraction.length)
    {r : KvAllocationDiagnostics} (returned : parseLlamaCppKvAllocationDiagnostics lines = .ok r) :
    r.observedBytes - r.precisionBytes ≤
        ∑ device ∈ ((kvReports lines).map (·.device)).toFinset, bytes device ∧
      ∑ device ∈ ((kvReports lines).map (·.device)).toFinset, bytes device ≤
        r.observedBytes + r.precisionBytes := by
  simp only [parseLlamaCppKvAllocationDiagnostics, Method.bind_ok_iff, require_eq_ok] at returned
  obtain ⟨records, recorded, _, _, _, distinct, _, _, _, _, same⟩ := returned
  cases same
  have recorded := mapM_kvRecord recorded
  obtain ⟨lower, upper⟩ := records_cover bytes recorded (by
    intro report member
    obtain ⟨line, isLine, reports⟩ := List.mem_filterMap.mp member
    exact rounded line isLine report reports)
  rw [List.sum_toFinset _ (devices_nodup recorded distinct), List.map_map]
  exact ⟨Nat.sub_le_iff_le_add.mpr lower, upper⟩

/-- A log with two devices. -/
def twoDeviceLog : List String :=
  ["llama_kv_cache: CUDA0 KV buffer size = 1.2 MiB", "load time = 1.2 MiB",
    "llama_kv_cache_unified: CPU KV buffer size = 100.0 MiB"]

theorem kvAllocationDiagnostics_two_devices :
    ∃ r, parseLlamaCppKvAllocationDiagnostics twoDeviceLog = .ok r ∧
      r.observedBytes - r.precisionBytes ≤ 1258300 + 104857600 ∧
      1258300 + 104857600 ≤ r.observedBytes + r.precisionBytes := by
  have cuda : kvBufferLine "llama_kv_cache: CUDA0 KV buffer size = 1.2 MiB" =
      some ⟨"CUDA0", ['1'], ['2'], by decide⟩ := by decide +kernel
  have other : kvBufferLine "load time = 1.2 MiB" = none := by decide +kernel
  have cpu : kvBufferLine "llama_kv_cache_unified: CPU KV buffer size = 100.0 MiB" =
      some ⟨"CPU", ['1', '0', '0'], ['0'], by decide⟩ := by decide +kernel
  have devices : (kvReports twoDeviceLog).map (·.device) = ["CUDA0", "CPU"] := by
    simp only [kvReports, twoDeviceLog, List.filterMap_cons, cuda, other, cpu, List.filterMap_nil,
      List.map_cons, List.map_nil]
  have returned : parseLlamaCppKvAllocationDiagnostics twoDeviceLog =
      .ok ⟨"pinned_llama_cpp_kv_buffer_diagnostic", "0.3.32",
        "b3fed31b99f9bd37725833674252bccb429bb183", 106115891, 104858, 2, "MiB", 1⟩ := by
    decide +kernel
  have sound := kvAllocationDiagnostics_sound twoDeviceLog
    (fun device => if device = "CUDA0" then 1258300 else 104857600) (by
      intro line member report reports
      simp only [twoDeviceLog, List.mem_cons, List.not_mem_nil, or_false] at member
      obtain rfl | rfl | rfl := member
      · cases cuda.symm.trans reports
        have units : digitsValue ['1', '2'] = 12 := by decide
        norm_num [units, abs_le]
      · cases other.symm.trans reports
      · cases cpu.symm.trans reports
        have units : digitsValue ['1', '0', '0', '0'] = 1000 := by decide
        rw [if_neg (by decide)]
        norm_num [units, abs_le]) returned
  rw [devices] at sound
  exact ⟨_, returned, sound⟩

end ModelManager
