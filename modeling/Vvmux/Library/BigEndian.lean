import Mathlib.Data.List.Basic
import Mathlib.Tactic.Ring

/-!
# Big-endian numbers in byte lists

A number is written in a fixed count of bytes, the highest first, and read
from a place in a longer list.
-/

namespace Vvmux
namespace Library

/-- The number in so many bytes, the highest first. -/
def bigEndian :
    Nat → Nat → List UInt8
  | 0, _ => []
  | width + 1, value => bigEndian width (value / 256) ++ [UInt8.ofNat value]

/-- The number that the bytes stand for. -/
def ofBigEndian (bytes : List UInt8) : Nat :=
  bytes.foldl (fun value byte => value * 256 + byte.toNat) 0

@[simp] theorem length_bigEndian
    (width value : Nat) : (bigEndian width value).length = width := by
  induction width generalizing value with
  | zero => rfl
  | succ width ih =>
      simp [bigEndian, ih]

theorem ofBigEndian_append_singleton
    (bytes : List UInt8)
    (byte : UInt8) :
    ofBigEndian (bytes ++ [byte]) = ofBigEndian bytes * 256 + byte.toNat := by
  simp [ofBigEndian]

/-- By induction over the width: the last byte is the remainder. -/
theorem ofBigEndian_bigEndian
    (width value : Nat) :
    ofBigEndian (bigEndian width value) = value % 256 ^ width := by
  induction width generalizing value with
  | zero => simp [bigEndian, ofBigEndian, Nat.mod_one]
  | succ width ih =>
      have byte : (UInt8.ofNat value).toNat = value % 256 := by simp
      rw [bigEndian, ofBigEndian_append_singleton, ih, byte,
        pow_succ, Nat.mul_comm (256 ^ width), Nat.mod_mul]
      omega

/-! ## Reading a field -/

/-- The number in the bytes from a place on. -/
def field (bytes : List UInt8) (start width : Nat) : Nat :=
  ofBigEndian ((bytes.drop start).take width)

@[simp] theorem field_here
    (width value : Nat)
    (rest : List UInt8) :
    field (bigEndian width value ++ rest) 0 width = value % 256 ^ width := by
  rw [field, List.drop_zero, List.take_left' (length_bigEndian width value),
    ofBigEndian_bigEndian]

/-- A field that comes after another one. -/
theorem field_later
    {width start : Nat}
    (after : width ≤ start)
    (value size : Nat)
    (rest : List UInt8) :
    field (bigEndian width value ++ rest) start size =
      field rest (start - width) size := by
  have skipped : (bigEndian width value ++ rest).drop start =
      rest.drop (start - width) := by
    rw [List.drop_append, length_bigEndian, List.drop_eq_nil_of_le,
      List.nil_append]
    rw [length_bigEndian]
    exact after
  rw [field, skipped, field]

/-! ## Machine words -/

@[simp] theorem ofNat_mod_word64
    (word : UInt64) : UInt64.ofNat (word.toNat % 256 ^ 8) = word := by
  have small : word.toNat < 256 ^ 8 := word.toNat_lt
  rw [Nat.mod_eq_of_lt small, UInt64.ofNat_toNat]

@[simp] theorem ofNat_mod_word32
    (word : UInt32) : UInt32.ofNat (word.toNat % 256 ^ 4) = word := by
  have small : word.toNat < 256 ^ 4 := word.toNat_lt
  rw [Nat.mod_eq_of_lt small, UInt32.ofNat_toNat]

@[simp] theorem ofNat_mod_word16
    (word : UInt16) : UInt16.ofNat (word.toNat % 256 ^ 2) = word := by
  have small : word.toNat < 256 ^ 2 := word.toNat_lt
  rw [Nat.mod_eq_of_lt small, UInt16.ofNat_toNat]

end Library
end Vvmux
