import Mathlib

/-!
# JSON values

Decoded JSON, with the fields of an object in their order. A number is its exact value.
-/

/-- A JSON value. -/
inductive Json
  | null
  | bool (b : Bool)
  | number (n : ℚ)
  | string (s : String)
  | array (items : List Json)
  | object (fields : List (String × Json))

namespace Json

/-- The value `v` is the other one or stands in it, at any depth. -/
inductive Within (v : Json) : Json → Prop
  | here : Within v v
  | item {items : List Json} {item : Json} (member : item ∈ items) (inside : Within v item) :
    Within v (.array items)
  | field {fields : List (String × Json)} {key : String} {value : Json}
    (member : (key, value) ∈ fields) (inside : Within v value) : Within v (.object fields)

/-- `bool(value)`. -/
def truthy : Json → Bool
  | null => false
  | bool b => b
  | number n => n ≠ 0
  | string s => s ≠ ""
  | array items => !items.isEmpty
  | object fields => !fields.isEmpty

/-- A value that is there and is a text. -/
def asString : Option Json → Option String
  | some (.string text) => some text
  | _ => none

/-- A value that is there and is an object. -/
def asObject : Option Json → Option (List (String × Json))
  | some (.object fields) => some fields
  | _ => none

theorem asString_eq_some {value : Option Json} {text : String} :
    asString value = some text ↔ value = some (.string text) := by
  unfold asString
  split <;> simp_all

theorem asObject_eq_some {value : Option Json} {fields : List (String × Json)} :
    asObject value = some fields ↔ value = some (.object fields) := by
  unfold asObject
  split <;> simp_all

/-- A list or an object: a test whether it is in a set raises. -/
def Unhashable : Json → Prop
  | .array _ | .object _ => True
  | _ => False

instance : DecidablePred Unhashable
  | .array _ | .object _ => isTrue trivial
  | .null | .bool _ | .number _ | .string _ => isFalse id

/-- `{**fields, key: value}`: a key that is there keeps its place. -/
def setField (key : String) (value : Json) : List (String × Json) → List (String × Json)
  | [] => [(key, value)]
  | (k, v) :: fields =>
    if k = key then (k, value) :: fields else (k, v) :: setField key value fields

@[simp] theorem lookup_setField (key : String) (value : Json) (fields : List (String × Json)) :
    (setField key value fields).lookup key = some value := by
  induction fields with
  | nil => simp [setField]
  | cons field fields ih =>
    obtain ⟨k, v⟩ := field
    simp only [setField]
    split
    · next same => simp [same]
    · next other => rw [List.lookup_cons, beq_eq_false_iff_ne.mpr (Ne.symm other), ih]

theorem lookup_setField_of_ne {key other : String} (ne : other ≠ key) (value : Json)
    (fields : List (String × Json)) :
    (setField key value fields).lookup other = fields.lookup other := by
  induction fields with
  | nil => rw [setField, List.lookup_cons, beq_eq_false_iff_ne.mpr ne]
  | cons field fields ih =>
    obtain ⟨k, v⟩ := field
    simp only [setField]
    split
    · next same =>
      rw [List.lookup_cons, List.lookup_cons, same, beq_eq_false_iff_ne.mpr ne]
    · simp only [List.lookup_cons, ih]

end Json
