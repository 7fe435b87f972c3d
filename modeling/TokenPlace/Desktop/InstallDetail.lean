import TokenPlace.Lib.Search
import TokenPlace.Lib.Text

/-!
# The detail text of an installation

What `_run_pip_install` writes about a run of pip, and what `_extract_install_detail_value` reads
out of it. The fields are joined by a semicolon and a blank, and nothing is escaped.

Results:
1. `extract_field`: what is read for a field whose mark stands nowhere before it.
2. `detail_codec`: where no text has the mark of a later field, each field is read back exactly if
   no value has a separator, is `empty` or has blanks around it.
3. `stderr_cut_short`: an error message with a semicolon is cut short.
-/

namespace InstallDetail

open Search
open Text (strip isSpace)

/-- A text. -/
abbrev Chars := List Char

/-! ## Writing -/

/-- `INSTALL_LOG_TAIL_MAX_CHARS`. -/
def INSTALL_LOG_TAIL_MAX_CHARS : ℕ := 2000

/-- `_tail_text`. -/
def tailText (raw : Chars) : Chars :=
  let text := strip raw
  if text.length ≤ INSTALL_LOG_TAIL_MAX_CHARS then text
  else "...".toList ++ text.drop (text.length - INSTALL_LOG_TAIL_MAX_CHARS)

/-- What `_command_summary` asks the system: `sys.executable`, `os.sep` and `os.altsep`. -/
structure Platform where
  executable : Chars
  separator : Char
  altSeparator : Option Char

/-- The parts of a command that are shown. The first flag says that a path comes next. -/
def safeParts (p : Platform) : Bool → List Chars → List Chars
  | _, [] => []
  | true, _ :: parts => "<path>".toList :: safeParts p false parts
  | false, text :: parts =>
    if text = "--target".toList ∨ text = "-r".toList then text :: safeParts p true parts
    else
      (if text = p.executable then "<python>".toList
      else if p.separator ∈ text ∨ p.altSeparator.any (· ∈ text) then "<path>".toList
      else text) :: safeParts p false parts

/-- `_command_summary`. -/
def commandSummary (p : Platform) (cmd : List Chars) : Chars :=
  [' '].intercalate (safeParts p false cmd)

/-- How a run of pip ends. -/
inductive Outcome
  | completed
  | cancelled
  | timedOut
  | heartbeatFailed

def Outcome.text : Outcome → Chars
  | completed => "completed".toList
  | cancelled => "cancelled".toList
  | timedOut => "timed_out".toList
  | heartbeatFailed => "heartbeat_failed".toList

/-- A run of pip. `heartbeatError` is the name of an exception class, or empty. -/
structure Run where
  platform : Platform
  cmd : List Chars
  returncode : Option ℤ
  outcome : Outcome
  heartbeatError : Chars
  stdout : Chars
  stderr : Chars

/-- `value or default`. -/
def orElse (value default : Chars) : Chars := if value = [] then default else value

def Run.command (run : Run) : Chars := commandSummary run.platform run.cmd

def Run.returncodeText (run : Run) : Chars :=
  match run.returncode with
  | some n => (toString n).toList
  | none => "None".toList

def separator : Chars := "; ".toList

/-- A field with its value. -/
def field (name value : Chars) : Chars := name ++ '=' :: value

/-- Fields with separators between them. -/
def joinFields : List Chars → Chars
  | [] => []
  | [field] => field
  | field :: fields => field ++ (separator ++ joinFields fields)

/-- What `_run_pip_install` returns beside the verdict. -/
def Run.detail (run : Run) : Chars :=
  joinFields [field "command".toList run.command,
    field "returncode".toList run.returncodeText,
    field "outcome".toList run.outcome.text,
    field "heartbeat_error".toList (orElse run.heartbeatError "none".toList),
    field "stdout_tail".toList (orElse (tailText run.stdout) "empty".toList),
    field "stderr_tail".toList (orElse (tailText run.stderr) "empty".toList)]

/-! ## Reading -/

/-- The value behind a mark: what comes before the next separator, without blanks around it. -/
def readValue (behind : Chars) : Chars :=
  let value := strip (match find separator behind with
    | none => behind
    | some nextField => behind.take nextField)
  if value = [] ∨ value = "empty".toList then [] else value

/-- The mark of a field. -/
def mark (name : Chars) : Chars := name ++ ['=']

/-- `_extract_install_detail_value`. -/
def extractInstallDetailValue (raw name : Chars) : Chars :=
  match find (mark name) raw with
  | none => []
  | some start => readValue (raw.drop (start + (mark name).length))

/-! ## Separators -/

variable {w s value rest name other : Chars}

theorem find_separator (value rest : Chars) :
    (match find separator (value ++ (separator ++ rest)) with
      | none => value ++ (separator ++ rest)
      | some n => (value ++ (separator ++ rest)).take n) =
    match find separator value with
      | none => value
      | some n => value.take n := by
  cases found : find separator value with
  | some n =>
    rw [find_append found]
    obtain ⟨small, -, -⟩ := find_eq_some_iff.mp found
    exact List.take_append_of_le_length small
  | none =>
    have absent := find_eq_none_iff.mp found
    have here : find separator (value ++ (separator ++ rest)) = some value.length := by
      refine find_eq_some_iff.mpr ⟨by simp, ?_, fun j before starts => ?_⟩
      · rw [List.drop_left]
        exact List.prefix_append ..
      · rw [List.drop_append_of_le_length before.le] at starts
        -- Where only the first character is in the value, the second one is a semicolon.
        cases split : value.drop j with
        | nil =>
          have := List.drop_eq_nil_iff.mp split
          omega
        | cons d more =>
          cases more with
          | nil =>
            rw [split] at starts
            obtain ⟨tail, same⟩ := starts
            exact absurd (List.cons.inj (List.cons.inj same).2).1 (by decide)
          | cons e more =>
            refine absent j before.le (prefix_of_prefix_append ?_ starts)
            rw [split]
            exact Nat.le_add_left 2 more.length
    rw [here]
    exact List.take_left

theorem readValue_append (value rest : Chars) :
    readValue (value ++ (separator ++ rest)) = readValue value := by
  unfold readValue
  rw [find_separator]

/-- The fields behind one. -/
def tailFields : List Chars → Chars
  | [] => []
  | field :: fields => separator ++ joinFields (field :: fields)

theorem readValue_tailFields (value : Chars) (after : List Chars) :
    readValue (value ++ tailFields after) = readValue value := by
  cases after with
  | nil => rw [tailFields, List.append_nil]
  | cons => exact readValue_append value _

theorem joinFields_append (before after : List Chars) (x : Chars) :
    joinFields (before ++ x :: after) = before.flatMap (· ++ separator) ++ (x ++ tailFields after) := by
  induction before with
  | nil =>
    cases after with
    | nil => exact (List.append_nil x).symm
    | cons => rfl
  | cons y before ih =>
    rw [List.flatMap_cons, List.append_assoc, List.append_assoc, ← ih]
    cases before <;> rfl

/-! ## Marks -/

/-- What has neither a semicolon nor a blank is in one of the fields. -/
theorem infix_of_infix_fields {before : List Chars} (some : w ≠ []) (free : ';' ∉ w ∧ ' ' ∉ w)
    (inside : w <:+: before.flatMap (· ++ separator)) : ∃ x ∈ before, w <:+: x := by
  induction before with
  | nil => exact absurd (List.infix_nil.mp inside) some
  | cons x before ih =>
    rw [List.flatMap_cons, List.append_assoc] at inside
    rcases infix_of_infix_append_cons free.1 inside with here | later
    · exact ⟨x, List.mem_cons_self, here⟩
    · have later := (infix_of_infix_append_cons (a := []) free.2 later).resolve_left fun none =>
        some (List.infix_nil.mp none)
      obtain ⟨y, member, inside⟩ := ih later
      exact ⟨y, List.mem_cons_of_mem _ member, inside⟩

theorem find_mark {before : List Chars} (free : ';' ∉ name ∧ ' ' ∉ name)
    (absent : ∀ x ∈ before, ¬ mark name <:+: x) (value rest : Chars) :
    find (mark name) (before.flatMap (· ++ separator) ++ (field name value ++ rest)) =
      some (before.flatMap (· ++ separator)).length := by
  have letters : ';' ∉ mark name ∧ ' ' ∉ mark name := by
    simp only [mark, List.mem_append, List.mem_singleton, not_or]
    exact ⟨⟨free.1, by decide⟩, free.2, by decide⟩
  have some : mark name ≠ [] := by simp [mark]
  refine find_eq_some_iff.mpr ⟨by simp, ?_, fun j early starts => ?_⟩
  · rw [List.drop_left]
    exact ⟨value ++ rest, by simp [mark, field]⟩
  · rw [List.drop_append_of_le_length early.le] at starts
    rcases Nat.le_total (mark name).length ((before.flatMap (· ++ separator)).drop j).length with
      long | short
    · have inside := (prefix_of_prefix_append long starts).isInfix.trans
        (List.drop_suffix j _).isInfix
      obtain ⟨x, member, inside⟩ := infix_of_infix_fields some letters inside
      exact absent x member inside
    · -- The fields end with a blank, which would be in the mark.
      have front : (before.flatMap (· ++ separator)).drop j <+: mark name :=
        List.prefix_of_prefix_length_le (List.prefix_append ..) starts short
      have filled : before.flatMap (· ++ separator) ≠ [] := by
        intro none
        rw [none] at early
        exact absurd early (Nat.not_lt_zero j)
      have blank : (before.flatMap (· ++ separator)).getLast filled = ' ' := by
        cases before using List.reverseRecOn with
        | nil => exact absurd rfl filled
        | append_singleton before x => simp [separator]
      have more : (before.flatMap (· ++ separator)).drop j ≠ [] :=
        List.ne_nil_of_length_pos (by
          rw [List.length_drop]
          omega)
      have last := List.getLast_mem more
      rw [List.getLast_drop, blank] at last
      exact letters.2 (front.subset last)

theorem extract_field (before : List Chars) {after : List Chars} (free : ';' ∉ name ∧ ' ' ∉ name)
    (absent : ∀ x ∈ before, ¬ mark name <:+: x) :
    extractInstallDetailValue (joinFields (before ++ field name value :: after)) name =
      readValue value := by
  unfold extractInstallDetailValue
  rw [joinFields_append, find_mark free absent]
  dsimp only
  rw [← List.drop_drop, List.drop_left]
  have split : field name value ++ tailFields after =
      mark name ++ (value ++ tailFields after) := by simp [field, mark]
  rw [split, List.drop_left, readValue_tailFields]

theorem mark_infix_field (names : '=' ∉ name ∧ '=' ∉ other) (different : ¬ name <:+ other)
    (inside : mark name <:+: field other value) : mark name <:+: value := by
  obtain ⟨front, back, whole⟩ := inside
  have whole : (front ++ name) ++ '=' :: back = other ++ '=' :: value := by
    rw [← show field other value = other ++ '=' :: value from rfl, ← whole]
    simp [mark]
  obtain ⟨more, left, right⟩ | ⟨more, left, right⟩ := List.append_eq_append_iff.mp whole
  · cases more with
    | nil => exact absurd ⟨front, (left.trans (List.append_nil _)).symm⟩ different
    | cons c more =>
      cases (List.cons.inj right).1
      exact absurd (left ▸ List.mem_append_right _ List.mem_cons_self) names.2
  · cases more with
    | nil => exact absurd ⟨front, left.trans (List.append_nil _)⟩ different
    | cons c more =>
      obtain ⟨rfl, rfl⟩ := List.cons.inj right
      obtain ⟨rest, -, split⟩ | ⟨rest, -, split⟩ := List.append_eq_append_iff.mp left
      · exact absurd (split ▸ List.mem_append_right _ List.mem_cons_self) names.1
      · cases rest with
        | nil => exact absurd (by rw [← List.nil_append name, ← split]; simp) names.1
        | cons c rest =>
          obtain ⟨-, rfl⟩ := List.cons.inj split
          exact ⟨rest, back, by simp [mark]⟩

theorem not_mark_infix (free : '=' ∉ value) : ¬ mark name <:+: value := fun inside =>
  free (inside.subset (List.mem_append_right _ List.mem_cons_self))

/-! ## Values -/

/-- A value that is read as it is. -/
structure Clean (value : Chars) : Prop where
  whole : ¬ separator <:+: value
  trimmed : strip value = value
  other : value ≠ "empty".toList

theorem find_eq_none_iff_part : find w s = none ↔ ¬ w <:+: s := by
  rw [find_eq_none_iff]
  constructor
  · rintro none ⟨front, back, rfl⟩
    refine none front.length (by simp) ?_
    rw [List.append_assoc, List.drop_left]
    exact List.prefix_append w back
  · exact fun none i _ starts => none (starts.isInfix.trans (List.drop_suffix i s).isInfix)

theorem strip_length_le (s : Chars) : (strip s).length ≤ s.length :=
  ((List.rdropWhile_prefix isSpace _).sublist.trans (List.dropWhile_sublist _)).length_le

theorem readValue_eq_iff : readValue value = value ↔ Clean value := by
  unfold readValue
  cases found : find separator value with
  | none =>
    have whole := find_eq_none_iff_part.mp found
    dsimp only
    split
    · next word =>
      constructor
      · rintro rfl
        exact ⟨whole, rfl, by decide⟩
      · rintro ⟨-, trimmed, other⟩
        rw [trimmed] at word
        exact (word.resolve_right other).symm
    · next word =>
      constructor
      · intro trimmed
        refine ⟨whole, trimmed, fun same => word (.inr ?_)⟩
        rw [trimmed, same]
      · exact Clean.trimmed
  | some n =>
    obtain ⟨small, starts, -⟩ := find_eq_some_iff.mp found
    -- What is read is shorter than the value, which goes on with a separator.
    have shorter : n < value.length := by
      have long := starts.length_le
      rw [List.length_drop] at long
      have two : separator.length = 2 := rfl
      omega
    have inside : separator <:+: value := starts.isInfix.trans (List.drop_suffix n value).isInfix
    refine iff_of_false (fun same => ?_) fun clean => clean.whole inside
    have length := congrArg List.length same
    dsimp only at length
    split at length
    · rw [List.length_nil] at length
      omega
    · have short := strip_length_le (value.take n)
      rw [length, List.length_take] at short
      omega

theorem strip_of_trimmed (begins : Text.Stops isSpace s) (ends : Text.EndsTrimmed s) :
    strip s = s := by
  have back := Text.rstrip_append ends Text.spaces_nil
  rw [List.append_nil] at back
  rw [strip, Text.lstrip_of_stops begins, back]

theorem strip_trimmed (s : Chars) : Text.Stops isSpace (strip s) ∧ Text.EndsTrimmed (strip s) := by
  obtain ⟨-, -, -, begins⟩ := Text.lstrip_eq s
  obtain ⟨back, -, split, ends⟩ := Text.rstrip_eq (Text.lstrip s)
  refine ⟨?_, ends⟩
  unfold strip
  rcases eq_or_ne (Text.rstrip (Text.lstrip s)) [] with none | some
  · rw [none]
    exact Text.stops_nil
  · rw [split] at begins
    exact begins.of_append some

theorem strip_tailText (raw : Chars) : strip (tailText raw) = tailText raw := by
  obtain ⟨begins, ends⟩ := strip_trimmed raw
  unfold tailText
  dsimp only
  split
  · exact strip_of_trimmed begins ends
  · next long =>
    have some : (strip raw).drop ((strip raw).length - INSTALL_LOG_TAIL_MAX_CHARS) ≠ [] := by
      refine List.ne_nil_of_length_pos ?_
      rw [List.length_drop]
      have positive : 0 < INSTALL_LOG_TAIL_MAX_CHARS := by decide
      omega
    refine strip_of_trimmed (Text.stops_cons.mpr (by decide)) fun c last => ends c ?_
    rw [List.getLast?_append_of_ne_nil _ some] at last
    rw [← List.take_append_drop ((strip raw).length - INSTALL_LOG_TAIL_MAX_CHARS) (strip raw),
      List.getLast?_append_of_ne_nil _ some]
    exact last

/-! ## The whole -/

/-- The four fields are read back. -/
def Run.ReadBack (run : Run) : Prop :=
  extractInstallDetailValue run.detail "command".toList = run.command ∧
    extractInstallDetailValue run.detail "outcome".toList = run.outcome.text ∧
    extractInstallDetailValue run.detail "stdout_tail".toList = tailText run.stdout ∧
    extractInstallDetailValue run.detail "stderr_tail".toList = tailText run.stderr

/-- No text has the mark of a later field. -/
structure Run.Unmarked (run : Run) : Prop where
  outcome : ¬ mark "outcome".toList <:+: run.command
  stdout : ¬ mark "stdout_tail".toList <:+: run.command ∧
    ¬ mark "stdout_tail".toList <:+: run.heartbeatError
  stderr : ¬ mark "stderr_tail".toList <:+: run.command ∧
    ¬ mark "stderr_tail".toList <:+: run.heartbeatError ∧
    ¬ mark "stderr_tail".toList <:+: tailText run.stdout

/-- The command is read as it is, and no tail has a separator or is the word for an empty one. -/
structure Run.Plain (run : Run) : Prop where
  command : Clean run.command
  stdout : ¬ separator <:+: tailText run.stdout ∧ tailText run.stdout ≠ "empty".toList
  stderr : ¬ separator <:+: tailText run.stderr ∧ tailText run.stderr ≠ "empty".toList

variable {run : Run}

theorem returncodeText_free (run : Run) : '=' ∉ run.returncodeText := by
  unfold Run.returncodeText
  cases run.returncode with
  | none => decide
  | some n =>
    have digits : ∀ m : ℕ, '=' ∉ (Nat.repr m).toList := by
      intro m member
      rw [Nat.toList_repr] at member
      exact absurd (Nat.isDigit_of_mem_toDigits (by decide) (by decide) member) (by decide)
    cases n with
    | ofNat m => exact digits m
    | negSucc m =>
      intro member
      rcases List.mem_cons.mp (show '=' ∈ '-' :: (Nat.repr (m + 1)).toList from by
        simpa [toString, Int.repr, String.toList_append] using member) with sign | digit
      · exact absurd sign (by decide)
      · exact digits (m + 1) digit

theorem mark_orElse {default : Chars} (absent : ¬ w <:+: value) (other : ¬ w <:+: default) :
    ¬ w <:+: orElse value default := by
  unfold orElse
  split
  · exact other
  · exact absent

theorem readValue_tail_iff (raw : Chars) :
    readValue (orElse (tailText raw) "empty".toList) = tailText raw ↔
      ¬ separator <:+: tailText raw ∧ tailText raw ≠ "empty".toList := by
  unfold orElse
  split
  · next none =>
    rw [none]
    decide
  · rw [readValue_eq_iff]
    exact ⟨fun clean => ⟨clean.whole, clean.other⟩,
      fun plain => ⟨plain.1, strip_tailText raw, plain.2⟩⟩

/-- Where no text has the mark of a later field, the fields are read back exactly if the command is
read as it is, and no tail has a separator or is the word for an empty one. -/
theorem detail_codec (run : Run) (unmarked : run.Unmarked) : run.ReadBack ↔ run.Plain := by
  have code (name : Chars) : ¬ mark name <:+: run.returncodeText :=
    not_mark_infix (returncodeText_free run)
  have ends (name : Chars) : ¬ mark name <:+: run.outcome.text := by
    refine not_mark_infix ?_
    cases run.outcome <;> decide
  have none (name : Chars) : ¬ mark name <:+: "none".toList := not_mark_infix (by decide)
  have empty (name : Chars) : ¬ mark name <:+: "empty".toList := not_mark_infix (by decide)
  have command : extractInstallDetailValue run.detail "command".toList = readValue run.command :=
    extract_field [] (by decide) nofun
  have outcome : extractInstallDetailValue run.detail "outcome".toList =
      readValue run.outcome.text := by
    refine extract_field [_, _] (by decide) (List.forall_mem_cons.mpr ⟨fun inside => ?_,
      List.forall_mem_singleton.mpr fun inside => ?_⟩)
    · exact unmarked.outcome (mark_infix_field (by decide) (by decide) inside)
    · exact code _ (mark_infix_field (by decide) (by decide) inside)
  have stdout : extractInstallDetailValue run.detail "stdout_tail".toList =
      readValue (orElse (tailText run.stdout) "empty".toList) := by
    refine extract_field [_, _, _, _] (by decide) fun x member inside => ?_
    simp only [List.mem_cons, List.not_mem_nil, or_false] at member
    rcases member with rfl | rfl | rfl | rfl <;>
      have inside := mark_infix_field (by decide) (by decide) inside
    · exact unmarked.stdout.1 inside
    · exact code _ inside
    · exact ends _ inside
    · exact mark_orElse unmarked.stdout.2 (none _) inside
  have stderr : extractInstallDetailValue run.detail "stderr_tail".toList =
      readValue (orElse (tailText run.stderr) "empty".toList) := by
    refine extract_field [_, _, _, _, _] (by decide) fun x member inside => ?_
    simp only [List.mem_cons, List.not_mem_nil, or_false] at member
    rcases member with rfl | rfl | rfl | rfl | rfl <;>
      have inside := mark_infix_field (by decide) (by decide) inside
    · exact unmarked.stderr.1 inside
    · exact code _ inside
    · exact ends _ inside
    · exact mark_orElse unmarked.stderr.2.1 (none _) inside
    · exact mark_orElse unmarked.stderr.2.2 (empty _) inside
  have word : readValue run.outcome.text = run.outcome.text := by
    cases run.outcome <;> decide
  unfold Run.ReadBack
  rw [command, outcome, stdout, stderr, word, readValue_eq_iff, readValue_tail_iff,
    readValue_tail_iff]
  exact ⟨fun ⟨command, _, stdout, stderr⟩ => ⟨command, stdout, stderr⟩,
    fun plain => ⟨plain.command, rfl, plain.stdout, plain.stderr⟩⟩

/-- A run of `python -m pip install llama-cpp-python` that fails with one message. -/
def failed (message : String) : Run where
  platform := ⟨"/usr/bin/python3".toList, '/', none⟩
  cmd := ["/usr/bin/python3".toList, "-m".toList, "pip".toList, "install".toList,
    "llama-cpp-python".toList]
  returncode := some 1
  outcome := .completed
  heartbeatError := []
  stdout := []
  stderr := message.toList

theorem detail_codec_failed : (failed "error: no wheel\n").Unmarked ∧
    ((failed "error: no wheel\n").ReadBack ↔ (failed "error: no wheel\n").Plain) :=
  have unmarked : (failed "error: no wheel\n").Unmarked :=
    ⟨by decide, by decide, by decide⟩
  ⟨unmarked, detail_codec _ unmarked⟩

/-- An error message with a semicolon is cut short. -/
theorem stderr_cut_short :
    tailText (failed "error: no wheel; no compiler").stderr =
        "error: no wheel; no compiler".toList ∧
      extractInstallDetailValue (failed "error: no wheel; no compiler").detail
        "stderr_tail".toList = "error: no wheel".toList ∧
      ¬ (failed "error: no wheel; no compiler").ReadBack :=
  ⟨by decide +kernel, by decide +kernel, fun read => absurd read.2.2.2 (by decide +kernel)⟩

end InstallDetail
