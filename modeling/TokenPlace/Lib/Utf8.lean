import Mathlib.Data.List.Basic

/-!
# UTF-8 with replacement

`bytes.decode('utf-8', errors='replace')`: what is no UTF-8 becomes U+FFFD, one for each longest
run of bytes that could still have become a character.
-/

namespace Utf8

/-- A character that is not complete: how many bytes it needs, its bits so far, and between
which values the next byte has to lie. -/
structure Pending where
  needed : Nat
  point : Nat
  lower : Nat
  upper : Nat
deriving DecidableEq

/-- What one byte gives out, and the character that it leaves incomplete. -/
abbrev Step := List Char × Option Pending

/-- U+FFFD. -/
def replacement : Char := '\ufffd'

/-- The first byte of a character. -/
def first (b : Nat) : Step :=
  if b < 0x80 then ([Char.ofNat b], none)
  else if b < 0xC2 then ([replacement], none)
  else if b < 0xE0 then ([], some ⟨1, b % 0x20, 0x80, 0xBF⟩)
  else if b < 0xF0 then
    ([], some ⟨2, b % 0x10, if b = 0xE0 then 0xA0 else 0x80, if b = 0xED then 0x9F else 0xBF⟩)
  else if b < 0xF5 then
    ([], some ⟨3, b % 0x08, if b = 0xF0 then 0x90 else 0x80, if b = 0xF4 then 0x8F else 0xBF⟩)
  else ([replacement], none)

/-- One byte. One that cannot go on with the incomplete character starts anew. -/
def step (b : Nat) : Option Pending → Step
  | none => first b
  | some p =>
    if p.lower ≤ b ∧ b ≤ p.upper then
      let point := p.point * 0x40 + b % 0x40
      if p.needed = 1 then ([Char.ofNat point], none)
      else ([], some ⟨p.needed - 1, point, 0x80, 0xBF⟩)
    else (replacement :: (first b).1, (first b).2)

/-- Decodes from where a character may be incomplete. -/
def decodeFrom : Option Pending → List UInt8 → List Char
  | none, [] => []
  | some _, [] => [replacement]
  | state, b :: bs => (step b.toNat state).1 ++ decodeFrom (step b.toNat state).2 bs

/-- `bytes.decode('utf-8', errors='replace')`. -/
def decode (bs : List UInt8) : List Char := decodeFrom none bs

/-- `str.encode('utf-8')`. -/
def encode (s : List Char) : List UInt8 := s.flatMap String.utf8EncodeChar

/-- `bytes.decode('utf-8')`: a text whose encoding is just these bytes. -/
def decodeStrict (bs : List UInt8) : Option (List Char) :=
  if encode (decode bs) = bs then some (decode bs) else none

theorem decodeFrom_cons (state : Option Pending) (b : UInt8) (bs : List UInt8) :
    decodeFrom state (b :: bs) =
      (step b.toNat state).1 ++ decodeFrom (step b.toNat state).2 bs := by
  cases state <;> rfl

variable {b n : Nat} {bs : List UInt8}

/-- A byte that the incomplete character accepts, with more to come. -/
theorem step_more {p : Pending} (lower : p.lower ≤ b) (upper : b ≤ p.upper)
    (more : p.needed ≠ 1) :
    step b (some p) = ([], some ⟨p.needed - 1, p.point * 0x40 + b % 0x40, 0x80, 0xBF⟩) := by
  simp only [step]
  rw [if_pos ⟨lower, upper⟩, if_neg more]

theorem step_last {p : Pending} (lower : p.lower ≤ b) (upper : b ≤ p.upper)
    (last : p.needed = 1) :
    step b (some p) = ([Char.ofNat (p.point * 0x40 + b % 0x40)], none) := by
  simp only [step]
  rw [if_pos ⟨lower, upper⟩, if_pos last]

theorem first_two (lower : 0xC2 ≤ b) (upper : b < 0xE0) :
    first b = ([], some ⟨1, b % 0x20, 0x80, 0xBF⟩) := by
  unfold first
  rw [if_neg (by omega), if_neg (by omega), if_pos upper]

theorem first_three (lower : 0xE0 ≤ b) (upper : b < 0xF0) :
    first b = ([], some ⟨2, b % 0x10, if b = 0xE0 then 0xA0 else 0x80,
      if b = 0xED then 0x9F else 0xBF⟩) := by
  unfold first
  rw [if_neg (by omega), if_neg (by omega), if_neg (by omega), if_pos upper]

theorem first_four (lower : 0xF0 ≤ b) (upper : b < 0xF5) :
    first b = ([], some ⟨3, b % 0x08, if b = 0xF0 then 0x90 else 0x80,
      if b = 0xF4 then 0x8F else 0xBF⟩) := by
  unfold first
  rw [if_neg (by omega), if_neg (by omega), if_neg (by omega), if_neg (by omega), if_pos upper]

theorem toNat_ofNat_of_lt (small : n < 256) : (UInt8.ofNat n).toNat = n :=
  UInt8.toNat_ofNat_of_lt' small

variable {v : Nat}

theorem decodeFrom_one (small : v < 0x80) :
    decodeFrom none (UInt8.ofNat v :: bs) = Char.ofNat v :: decodeFrom none bs := by
  rw [decodeFrom_cons, toNat_ofNat_of_lt (by omega)]
  simp only [step, first, if_pos small, List.cons_append, List.nil_append]

theorem decodeFrom_two (lower : 0x80 ≤ v) (upper : v < 0x800) :
    decodeFrom none (UInt8.ofNat (v / 64 % 0x20 + 0xC0) :: UInt8.ofNat (v % 0x40 + 0x80) :: bs) =
      Char.ofNat v :: decodeFrom none bs := by
  rw [decodeFrom_cons, toNat_ofNat_of_lt (by omega), step, first_two (by omega) (by omega),
    decodeFrom_cons, toNat_ofNat_of_lt (by omega),
    step_last (show 0x80 ≤ _ by omega) (show _ ≤ 0xBF by omega) rfl]
  have point : (v / 64 % 0x20 + 0xC0) % 0x20 * 0x40 + (v % 0x40 + 0x80) % 0x40 = v := by omega
  simp only [point, List.cons_append, List.nil_append]

theorem decodeFrom_three (lower : 0x800 ≤ v) (upper : v < 0x10000)
    (valid : v < 0xD800 ∨ 0xDFFF < v) :
    decodeFrom none (UInt8.ofNat (v / 4096 % 0x10 + 0xE0) ::
        UInt8.ofNat (v / 64 % 0x40 + 0x80) :: UInt8.ofNat (v % 0x40 + 0x80) :: bs) =
      Char.ofNat v :: decodeFrom none bs := by
  rw [decodeFrom_cons, toNat_ofNat_of_lt (by omega), step, first_three (by omega) (by omega),
    decodeFrom_cons, toNat_ofNat_of_lt (by omega),
    step_more (by show (if _ then _ else _) ≤ _; split <;> omega)
      (by show _ ≤ (if _ then _ else _); split <;> omega) (by show 2 ≠ 1; omega),
    decodeFrom_cons, toNat_ofNat_of_lt (by omega),
    step_last (show 0x80 ≤ _ by omega) (show _ ≤ 0xBF by omega) rfl]
  have point : ((v / 4096 % 0x10 + 0xE0) % 0x10 * 0x40 + (v / 64 % 0x40 + 0x80) % 0x40) * 0x40 +
      (v % 0x40 + 0x80) % 0x40 = v := by omega
  simp only [point, List.cons_append, List.nil_append]

theorem decodeFrom_four (lower : 0x10000 ≤ v) (upper : v < 0x110000) :
    decodeFrom none (UInt8.ofNat (v / 262144 % 0x08 + 0xF0) ::
        UInt8.ofNat (v / 4096 % 0x40 + 0x80) :: UInt8.ofNat (v / 64 % 0x40 + 0x80) ::
          UInt8.ofNat (v % 0x40 + 0x80) :: bs) =
      Char.ofNat v :: decodeFrom none bs := by
  rw [decodeFrom_cons, toNat_ofNat_of_lt (by omega), step, first_four (by omega) (by omega),
    decodeFrom_cons, toNat_ofNat_of_lt (by omega),
    step_more (by show (if _ then _ else _) ≤ _; split <;> omega)
      (by show _ ≤ (if _ then _ else _); split <;> omega) (by show 3 ≠ 1; omega),
    decodeFrom_cons, toNat_ofNat_of_lt (by omega),
    step_more (show 0x80 ≤ _ by omega) (show _ ≤ 0xBF by omega) (by show 3 - 1 ≠ 1; omega),
    decodeFrom_cons, toNat_ofNat_of_lt (by omega),
    step_last (show 0x80 ≤ _ by omega) (show _ ≤ 0xBF by omega) rfl]
  have point : (((v / 262144 % 0x08 + 0xF0) % 0x08 * 0x40 + (v / 4096 % 0x40 + 0x80) % 0x40) *
      0x40 + (v / 64 % 0x40 + 0x80) % 0x40) * 0x40 + (v % 0x40 + 0x80) % 0x40 = v := by omega
  simp only [point, List.cons_append, List.nil_append]

theorem decodeFrom_char (c : Char) (bs : List UInt8) :
    decodeFrom none (String.utf8EncodeChar c ++ bs) = c :: decodeFrom none bs := by
  have valid : c.toNat < 0xD800 ∨ 0xDFFF < c.toNat ∧ c.toNat < 0x110000 := c.valid
  have back : Char.ofNat c.val.toNat = c := Char.ofNat_toNat c
  change c.val.toNat < _ ∨ _ < c.val.toNat ∧ c.val.toNat < _ at valid
  fun_cases String.utf8EncodeChar
  case case1 v one =>
    exact (decodeFrom_one (by omega)).trans (by rw [back]; rfl)
  case case2 v more two =>
    exact (decodeFrom_two (by omega) (by omega)).trans (by rw [back]; rfl)
  case case3 v more more' three =>
    exact (decodeFrom_three (by omega) (by omega) (by omega)).trans (by rw [back]; rfl)
  case case4 v more more' four =>
    exact (decodeFrom_four (by omega) (by omega)).trans (by rw [back]; rfl)

theorem decode_encode (s : List Char) : decode (encode s) = s := by
  unfold decode encode
  induction s with
  | nil => rfl
  | cons c s ih => rw [List.flatMap_cons, decodeFrom_char, ih]

theorem decodeStrict_encode (s : List Char) : decodeStrict (encode s) = some s := by
  rw [decodeStrict, decode_encode, if_pos rfl]

/-- A truncated character, a byte that starts none and a surrogate: one U+FFFD for each run. -/
example : decode [0x41, 0xE2, 0x82, 0x41, 0xFF, 0xED, 0xA0, 0x80] =
    ['A', '\ufffd', 'A', '\ufffd', '\ufffd', '\ufffd', '\ufffd'] := by decide +kernel

end Utf8
