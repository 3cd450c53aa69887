import Mathlib.Order.Lattice
import Mathlib.Tactic.Common

/-!
# Bounded machine arithmetic

Natural-number models of fixed-width unsigned operations. Saturating
operations are total. Operations that abort the program on overflow, and a
clamp whose bounds are out of order, return `none`.
-/

namespace Vvmux
namespace Library

/-- Largest 16-bit unsigned value. -/
def u16Max : Nat := 65535

/-- Largest 32-bit unsigned value. -/
def u32Max : Nat := 4294967295

/-- Largest 64-bit unsigned value. -/
def u64Max : Nat := 18446744073709551615

/-- Addition that stops at the largest value. -/
def saturatingAdd (largest left right : Nat) : Nat := min (left + right) largest

/-- Addition that aborts past the largest value. -/
def checkedAdd (largest left right : Nat) : Option Nat :=
  if left + right ≤ largest then some (left + right) else none

/-- Multiplication that aborts past the largest value. -/
def checkedMul (largest left right : Nat) : Option Nat :=
  if left * right ≤ largest then some (left * right) else none

/-- Subtraction that aborts below zero. -/
def checkedSub (left right : Nat) : Option Nat :=
  if right ≤ left then some (left - right) else none

/-- Restrict a value to an interval, aborting when the interval is empty. -/
def clamp? (value low high : Nat) : Option Nat :=
  if low ≤ high then some (max low (min value high)) else none

variable {largest left right : Nat}

theorem saturatingAdd_eq_add
    (bounded : left + right ≤ largest) :
    saturatingAdd largest left right = left + right :=
  min_eq_left bounded

theorem checkedAdd_eq_some
    (bounded : left + right ≤ largest) :
    checkedAdd largest left right = some (left + right) :=
  if_pos bounded

theorem checkedAdd_eq_some_iff
    {largest left right sum : Nat} :
    checkedAdd largest left right = some sum ↔
      left + right ≤ largest ∧ sum = left + right := by
  unfold checkedAdd
  split_ifs with bounded
  · simp [bounded, eq_comm]
  · simp [bounded]

theorem checkedAdd_eq_none_iff
    {largest left right : Nat} :
    checkedAdd largest left right = none ↔ largest < left + right := by
  unfold checkedAdd
  split_ifs with bounded
  · simpa using bounded
  · simpa using bounded

theorem checkedMul_eq_some
    (bounded : left * right ≤ largest) :
    checkedMul largest left right = some (left * right) :=
  if_pos bounded

theorem checkedSub_eq_some
    (le : right ≤ left) : checkedSub left right = some (left - right) :=
  if_pos le

theorem clamp?_eq_some
    {value low high : Nat}
    (ordered : low ≤ high) :
    clamp? value low high = some (max low (min value high)) :=
  if_pos ordered

theorem clamp?_eq_none_iff {value low high : Nat} :
    clamp? value low high = none ↔ high < low := by
  unfold clamp?
  split_ifs with ordered
  · simpa using ordered
  · simpa using ordered

end Library
end Vvmux
