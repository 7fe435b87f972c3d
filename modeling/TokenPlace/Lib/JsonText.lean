import TokenPlace.Lib.Json

/-!
# The text of a JSON value

`json.dumps`: all that is not printable ASCII is escaped, and the separators and the order of the
keys are chosen.
-/

namespace Json

/-- The choices of the writer: a space behind each comma and each colon, the keys in their
order, and how a number is written. -/
structure Format where
  itemSpace : Bool
  keySpace : Bool
  sortKeys : Bool
  number : ℚ → List Char

def quoteMark : Char := Char.ofNat 0x22

def hexDigit (n : Nat) : Char := Char.ofNat (if n < 10 then 0x30 + n else 0x57 + n)

/-- `\uXXXX`. -/
def escapeUnit (n : Nat) : List Char :=
  ['\\', 'u', hexDigit (n / 4096 % 16), hexDigit (n / 256 % 16), hexDigit (n / 16 % 16),
    hexDigit (n % 16)]

/-- One character of a string. Beyond the basic plane it is a pair of surrogates. -/
def escapeChar (c : Char) : List Char :=
  if c = quoteMark ∨ c = '\\' then ['\\', c]
  else if c = '\n' then ['\\', 'n']
  else if c = '\r' then ['\\', 'r']
  else if c = '\t' then ['\\', 't']
  else if c.toNat = 8 then ['\\', 'b']
  else if c.toNat = 12 then ['\\', 'f']
  else if 0x20 ≤ c.toNat ∧ c.toNat ≤ 0x7E then [c]
  else if c.toNat < 0x10000 then escapeUnit c.toNat
  else escapeUnit (0xD800 + (c.toNat - 0x10000) / 1024) ++
    escapeUnit (0xDC00 + (c.toNat - 0x10000) % 1024)

/-- A string between its quotes. -/
def quote (s : String) : List Char := quoteMark :: s.toList.flatMap escapeChar ++ [quoteMark]

/-- The parts between commas. -/
def separated (format : Format) (parts : List (List Char)) : List Char :=
  List.intercalate (if format.itemSpace then [',', ' '] else [',']) parts

/-- The fields of an object, once their values are written. -/
def fieldsText (format : Format) (fields : List (String × List Char)) : List Char :=
  let fields := if format.sortKeys then fields.insertionSort fun a b => a.1 ≤ b.1 else fields
  separated format <| fields.map fun field =>
    quote field.1 ++ (if format.keySpace then [':', ' '] else [':']) ++ field.2

mutual

/-- `json.dumps(value)`. -/
def dumps (format : Format) : Json → List Char
  | .null => "null".toList
  | .bool b => (if b then "true" else "false").toList
  | .number n => format.number n
  | .string s => quote s
  | .array items => Char.ofNat 0x5B :: separated format (dumpsItems format items) ++
      [Char.ofNat 0x5D]
  | .object fields => Char.ofNat 0x7B :: fieldsText format (dumpsFields format fields) ++
      [Char.ofNat 0x7D]

def dumpsItems (format : Format) : List Json → List (List Char)
  | [] => []
  | item :: items => dumps format item :: dumpsItems format items

def dumpsFields (format : Format) : List (String × Json) → List (String × List Char)
  | [] => []
  | (key, value) :: fields => (key, dumps format value) :: dumpsFields format fields

end

/-- The whitespace of JSON. -/
def isSpace (c : Char) : Bool := c = ' ' || c = '\t' || c = '\n' || c = '\r'

/-! ## What a text consists of -/

/-- Printable ASCII. -/
def Printable (c : Char) : Prop := 0x20 ≤ c.toNat ∧ c.toNat ≤ 0x7E

instance : DecidablePred Printable := fun _ => inferInstanceAs (Decidable (_ ∧ _))

/-- Text of printable characters. -/
def AllPrintable (s : List Char) : Prop := ∀ c ∈ s, Printable c

theorem AllPrintable.append {s t : List Char} (hs : AllPrintable s) (ht : AllPrintable t) :
    AllPrintable (s ++ t) :=
  List.forall_mem_append.mpr ⟨hs, ht⟩

theorem AllPrintable.cons {c : Char} {s : List Char} (hc : Printable c) (hs : AllPrintable s) :
    AllPrintable (c :: s) :=
  List.forall_mem_cons.mpr ⟨hc, hs⟩

theorem allPrintable_nil : AllPrintable [] := nofun

theorem hexDigit_printable : ∀ n < 16, Printable (hexDigit n) := by decide

theorem escapeUnit_printable (n : Nat) : AllPrintable (escapeUnit n) := by
  have digit : ∀ m, Printable (hexDigit (m % 16)) := fun m =>
    hexDigit_printable _ (Nat.mod_lt _ (by decide))
  refine .cons (by decide) (.cons (by decide) (.cons (digit _) (.cons (digit _) (.cons (digit _)
    (.cons (digit _) allPrintable_nil)))))

theorem escapeChar_printable (c : Char) : AllPrintable (escapeChar c) := by
  unfold escapeChar
  split_ifs with quoted line carriage tab backspace feed plain basic
  · refine .cons (by decide) (.cons ?_ allPrintable_nil)
    rcases quoted with rfl | rfl <;> decide
  · exact .cons (by decide) (.cons (by decide) allPrintable_nil)
  · exact .cons (by decide) (.cons (by decide) allPrintable_nil)
  · exact .cons (by decide) (.cons (by decide) allPrintable_nil)
  · exact .cons (by decide) (.cons (by decide) allPrintable_nil)
  · exact .cons (by decide) (.cons (by decide) allPrintable_nil)
  · exact .cons plain allPrintable_nil
  · exact escapeUnit_printable _
  · exact (escapeUnit_printable _).append (escapeUnit_printable _)

theorem quote_printable (s : String) : AllPrintable (quote s) := by
  refine .cons (by decide) (.append (fun c member => ?_) (.cons (by decide) allPrintable_nil))
  obtain ⟨c', _, inside⟩ := List.mem_flatMap.mp member
  exact escapeChar_printable c' c inside

variable {format : Format}

theorem separated_printable {parts : List (List Char)}
    (each : ∀ part ∈ parts, AllPrintable part) : AllPrintable (separated format parts) := by
  unfold separated
  have comma : AllPrintable (if format.itemSpace then [',', ' '] else [',']) := by
    split
    · exact .cons (by decide) (.cons (by decide) allPrintable_nil)
    · exact .cons (by decide) allPrintable_nil
  induction parts with
  | nil => exact allPrintable_nil
  | cons part parts ih =>
    obtain ⟨here, rest⟩ := List.forall_mem_cons.mp each
    cases parts with
    | nil => simpa [List.intercalate] using here
    | cons next parts =>
      rw [List.intercalate_cons_cons]
      exact (here.append comma).append (ih rest)

theorem fieldsText_printable {fields : List (String × List Char)}
    (each : ∀ field ∈ fields, AllPrintable field.2) : AllPrintable (fieldsText format fields) := by
  refine separated_printable fun part member => ?_
  obtain ⟨field, among, rfl⟩ := List.mem_map.mp member
  have there : field ∈ fields := by
    split at among
    · exact (List.mem_insertionSort _).mp among
    · exact among
  refine ((quote_printable _).append ?_).append (each field there)
  split
  · exact .cons (by decide) (.cons (by decide) allPrintable_nil)
  · exact .cons (by decide) allPrintable_nil

mutual

theorem dumps_printable (numbers : ∀ n, AllPrintable (format.number n)) :
    (value : Json) → AllPrintable (dumps format value)
  | .null => by
    rw [dumps]
    exact List.all_iff_forall_prop.mp (by decide)
  | .bool b => by
    rw [dumps]
    cases b <;> exact List.all_iff_forall_prop.mp (by decide)
  | .number n => numbers n
  | .string s => quote_printable s
  | .array items =>
    .cons (by decide) (.append (separated_printable (dumpsItems_printable numbers items))
      (.cons (by decide) allPrintable_nil))
  | .object fields =>
    .cons (by decide) (.append (fieldsText_printable (dumpsFields_printable numbers fields))
      (.cons (by decide) allPrintable_nil))

theorem dumpsItems_printable (numbers : ∀ n, AllPrintable (format.number n)) :
    (items : List Json) → ∀ part ∈ dumpsItems format items, AllPrintable part
  | [] => nofun
  | item :: items => List.forall_mem_cons.mpr
      ⟨dumps_printable numbers item, dumpsItems_printable numbers items⟩

theorem dumpsFields_printable (numbers : ∀ n, AllPrintable (format.number n)) :
    (fields : List (String × Json)) → ∀ field ∈ dumpsFields format fields, AllPrintable field.2
  | [] => nofun
  | (_, value) :: fields => List.forall_mem_cons.mpr
      ⟨dumps_printable numbers value, dumpsFields_printable numbers fields⟩

end

end Json
