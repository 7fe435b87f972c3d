import Mathlib.Order.Bounds.Basic
import TokenPlace.Crypto.StreamRoundTrip

/-!
# PKCS#7 padding

`pkcs7_pad` and `pkcs7_unpad` for every block size. Both get bytes and an integer; what they raise
is a `ValueError` with its message.

Results:
1. `pkcs7Unpad_eq_ok_iff`: unpadding succeeds on what padding gives, and on nothing else.
2. `pkcs7_codec`: the two functions are an exact codec.
-/

namespace Padding

open Encrypt (Bytes)

/-- The check of the block size. -/
def validBlockSize (blockSize : ℤ) : Bool := 0 < blockSize && blockSize ≤ 255

/-- `pkcs7_pad`. -/
def pkcs7Pad (data : Bytes) (blockSize : ℤ) : Except String Bytes :=
  if !validBlockSize blockSize then .error "Block size must be between 1 and 255"
  else
    let paddingLength := blockSize.toNat - data.length % blockSize.toNat
    .ok (data ++ List.replicate paddingLength (UInt8.ofNat paddingLength))

/-- `pkcs7_unpad`. -/
def pkcs7Unpad (padded : Bytes) (blockSize : ℤ) : Except String Bytes :=
  if !validBlockSize blockSize then .error "Block size must be between 1 and 255"
  else
    match padded.getLast? with
    | none => .error "Invalid padding"
    | some last =>
      if padded.length % blockSize.toNat ≠ 0 then .error "Invalid padding length"
      else if last.toNat = 0 ∨ blockSize.toNat < last.toNat then .error "Invalid padding"
      else if padded.drop (padded.length - last.toNat) ≠ List.replicate last.toNat last then
        .error "Invalid padding"
      else .ok (padded.take (padded.length - last.toNat))

/-! ## The length of the padding -/

section Length

variable {b n length : ℕ}

theorem paddingLength_bounds (length : ℕ) (some : 0 < b) :
    0 < b - length % b ∧ b - length % b ≤ b := by
  have small := Nat.mod_lt length some
  omega

theorem dvd_length_add (some : 0 < b) : b ∣ length + (b - length % b) := by
  have small := Nat.mod_lt length some
  have whole := Nat.div_add_mod length b
  refine ⟨length / b + 1, ?_⟩
  rw [Nat.mul_succ]
  omega

theorem eq_paddingLength (positive : 0 < n) (atMost : n ≤ b) (whole : b ∣ length + n) :
    b - length % b = n := by
  obtain ⟨k, whole⟩ := whole
  cases k with
  | zero => omega
  | succ k =>
    rw [Nat.mul_succ] at whole
    have split : length = b - n + b * k := by omega
    rw [split, Nat.add_mul_mod_self_left, Nat.mod_eq_of_lt (by omega)]
    omega

end Length

/-! ## The codec -/

variable {b : ℕ} {data padded : Bytes}

theorem validBlockSize_natCast (low : 1 ≤ b) (high : b ≤ 255) :
    validBlockSize (b : ℤ) = true := by
  simp only [validBlockSize, Bool.and_eq_true, decide_eq_true_eq]
  omega

theorem pkcs7Pad_natCast (data : Bytes) (low : 1 ≤ b) (high : b ≤ 255) : pkcs7Pad data b =
    .ok (data ++ List.replicate (b - data.length % b)
      (UInt8.ofNat (b - data.length % b))) := by
  unfold pkcs7Pad
  rw [validBlockSize_natCast low high]
  rfl

theorem pkcs7Unpad_append {n : ℕ} (low : 1 ≤ b) (high : b ≤ 255) (positive : 0 < n) (atMost : n ≤ b)
    (whole : b ∣ data.length + n) :
    pkcs7Unpad (data ++ List.replicate n (UInt8.ofNat n)) b = .ok data := by
  have value : (UInt8.ofNat n).toNat = n := by
    rw [UInt8.toNat_ofNat']
    exact Nat.mod_eq_of_lt (by omega)
  have last : (data ++ List.replicate n (UInt8.ofNat n)).getLast? = some (UInt8.ofNat n) := by
    rw [List.getLast?_append, List.getLast?_replicate, if_neg (by omega)]
    rfl
  have length : (data ++ List.replicate n (UInt8.ofNat n)).length = data.length + n := by simp
  unfold pkcs7Unpad
  rw [validBlockSize_natCast low high]
  simp only [last, length, value, Int.toNat_natCast, Nat.add_sub_cancel, List.drop_left,
    List.take_left, Bool.not_true, Bool.false_eq_true, if_false]
  rw [if_neg (not_not.mpr (Nat.mod_eq_zero_of_dvd whole)), if_neg (by omega),
    if_neg (not_not.mpr rfl)]

theorem of_pkcs7Unpad (low : 1 ≤ b) (high : b ≤ 255) (unpadded : pkcs7Unpad padded b = .ok data) :
    ∃ n, 0 < n ∧ n ≤ b ∧ b ∣ data.length + n ∧
      padded = data ++ List.replicate n (UInt8.ofNat n) := by
  unfold pkcs7Unpad at unpadded
  rw [validBlockSize_natCast low high] at unpadded
  simp only [Int.toNat_natCast, Bool.not_true, Bool.false_eq_true, if_false] at unpadded
  split at unpadded
  · nomatch unpadded
  · next last found =>
    split at unpadded
    · nomatch unpadded
    · next whole =>
      split at unpadded
      · nomatch unpadded
      · next inRange =>
        split at unpadded
        · nomatch unpadded
        · next repeated =>
          have dvd : b ∣ padded.length := Nat.dvd_of_mod_eq_zero (not_not.mp whole)
          have some : 0 < padded.length := by
            refine List.length_pos_of_mem (a := last) ?_
            exact List.mem_of_getLast? found
          -- A whole block is there, so the slice from the end is not cut short.
          have enough : last.toNat ≤ padded.length := by
            have block := Nat.le_of_dvd some dvd
            omega
          have data_eq : padded.take (padded.length - last.toNat) = data :=
            Except.ok.inj unpadded
          have length : data.length = padded.length - last.toNat := by
            rw [← data_eq, List.length_take]
            omega
          refine ⟨last.toNat, by omega, by omega, ?_, ?_⟩
          · rw [length, Nat.sub_add_cancel enough]
            exact dvd
          · rw [UInt8.ofNat_toNat, ← data_eq, ← not_not.mp repeated]
            exact (List.take_append_drop ..).symm

/-- Unpadding succeeds on what padding gives, and on nothing else. -/
theorem pkcs7Unpad_eq_ok_iff (low : 1 ≤ b) (high : b ≤ 255) :
    pkcs7Unpad padded b = .ok data ↔ pkcs7Pad data b = .ok padded := by
  obtain ⟨positive, atMost⟩ := paddingLength_bounds data.length low
  rw [pkcs7Pad_natCast _ low high, Except.ok.injEq]
  constructor
  · intro unpadded
    obtain ⟨n, positive', atMost', whole, rfl⟩ := of_pkcs7Unpad low high unpadded
    rw [eq_paddingLength positive' atMost' whole]
  · rintro rfl
    exact pkcs7Unpad_append low high positive atMost (dvd_length_add low)

theorem pkcs7Pad_isLeast (low : 1 ≤ b) (high : b ≤ 255) (padding : pkcs7Pad data b = .ok padded) :
    IsLeast {length | b ∣ length ∧ data.length < length} padded.length := by
  obtain ⟨positive, atMost⟩ := paddingLength_bounds data.length low
  rw [pkcs7Pad_natCast _ low high] at padding
  cases Except.ok.inj padding
  rw [List.length_append, List.length_replicate]
  refine ⟨⟨dvd_length_add low, by omega⟩, fun length ⟨whole, longer⟩ => ?_⟩
  -- A shorter multiple would be a padding of at most one block, too.
  by_contra shorter
  have other : b - data.length % b = length - data.length :=
    eq_paddingLength (by omega) (by omega) (by rwa [Nat.add_sub_cancel' longer.le])
  omega

theorem pkcs7Pad_sixteen (data : Bytes) : pkcs7Pad data 16 = .ok (Encrypt.pkcs7Pad data) := rfl

theorem pkcs7Unpad_sixteen (padded : Bytes) :
    pkcs7Unpad padded 16 = Encrypt.pkcs7Unpad padded := rfl

/-- Padding is an exact codec: unpadding gives back the data and nothing else, a padded text is as
short as can be, and what is no padded text is refused. -/
theorem pkcs7_codec {b : ℕ} (low : 1 ≤ b) (high : b ≤ 255) :
    (∀ data, ∃ padded, pkcs7Pad data b = .ok padded ∧ pkcs7Unpad padded b = .ok data ∧
        IsLeast {length | b ∣ length ∧ data.length < length} padded.length) ∧
      (∀ padded data, pkcs7Unpad padded b = .ok data ↔ pkcs7Pad data b = .ok padded) ∧
      ∀ padded, (∃! data, pkcs7Pad data b = .ok padded) ∨
        (∀ data, pkcs7Pad data b ≠ .ok padded) ∧
          ∃ message, pkcs7Unpad padded b = .error message := by
  have inverse (padded data : Bytes) :
      pkcs7Unpad padded b = .ok data ↔ pkcs7Pad data b = .ok padded := pkcs7Unpad_eq_ok_iff low high
  refine ⟨fun data => ?_, inverse, fun padded => ?_⟩
  · have padding := pkcs7Pad_natCast data low high
    exact ⟨_, padding, (inverse _ data).mpr padding, pkcs7Pad_isLeast low high padding⟩
  · cases unpadded : pkcs7Unpad padded b with
    | error message =>
      refine .inr ⟨fun data padding => ?_, message, rfl⟩
      rw [(inverse padded data).mpr padding] at unpadded
      nomatch unpadded
    | ok data =>
      refine .inl ⟨data, (inverse padded data).mp unpadded, fun data' padding => ?_⟩
      exact (Except.ok.inj (unpadded.symm.trans ((inverse padded data').mpr padding))).symm

theorem pkcs7_codec_block : pkcs7Pad [1, 2] 2 = .ok [1, 2, 2, 2] ∧
    pkcs7Unpad [1, 2, 2, 2] 2 = .ok [1, 2] := by
  obtain ⟨padded, padding, unpadded, -⟩ := (pkcs7_codec (b := 2) (by decide) (by decide)).1 [1, 2]
  have known : pkcs7Pad [1, 2] 2 = .ok [1, 2, 2, 2] := by decide
  cases Except.ok.inj (known.symm.trans padding)
  exact ⟨known, unpadded⟩

end Padding
