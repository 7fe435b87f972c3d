import TokenPlace.Lib.Json

/-!
# JavaScript values and text

What counts as true, the field of a value that may be none, what `trim` takes for whitespace, and
strings as their code units.
-/

namespace JsText

/-- Whitespace and the ends of lines, the class `\s`. -/
def isSpace (n : Nat) : Bool :=
  (9 ≤ n && n ≤ 13) || n == 32 || n == 0xA0 || n == 0x1680 || (0x2000 ≤ n && n ≤ 0x200A) ||
    n == 0x2028 || n == 0x2029 || n == 0x202F || n == 0x205F || n == 0x3000 || n == 0xFEFF

/-- What is left when the letters of a class are cut off at both ends. -/
def trimBy {α : Type} (p : α → Bool) (s : List α) : List α := (s.dropWhile p).rdropWhile p

/-- `trim`, on the characters. -/
def trim (s : List Char) : List Char := trimBy (fun c => isSpace c.toNat) s

/-- `Boolean(value)`. -/
def truthy : Json → Bool
  | .null => false
  | .bool b => b
  | .number n => n ≠ 0
  | .string s => s ≠ ""
  | .array _ | .object _ => true

/-- The field of a value, if it is an object that has it. -/
def property (value : Option Json) (name : String) : Option Json :=
  (Json.asObject value).bind fun fields => fields.lookup name

/-- A value that is there and is a number. -/
def asNumber : Option Json → Option ℚ
  | some (.number n) => some n
  | _ => none

/-- `value === true`. -/
def isTrue (value : Option Json) : Bool := value matches some (.bool true)

/-! ## Code units -/

/-- A string: its code units. -/
abbrev Units := List UInt16

/-- A literal of plain characters. -/
def units (s : String) : Units := s.toList.map fun c => UInt16.ofNat c.toNat

/-- A code unit that is whitespace. -/
def isSpaceUnit (c : UInt16) : Bool := isSpace c.toNat

/-- What `.` does not match. -/
def isLineTerminator (c : UInt16) : Bool := c == 0x0A || c == 0x0D || c == 0x2028 || c == 0x2029

end JsText
