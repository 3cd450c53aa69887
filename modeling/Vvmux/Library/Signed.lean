import Mathlib.Algebra.Order.Ring.Int

/-!
# Signed sixty-four bit integers

A value carries the proof that it is in range.  An operation that would leave
the range has no result.
-/

namespace Vvmux
namespace Library

def i64Min : Int := -2 ^ 63
def i64Max : Int := 2 ^ 63 - 1

/-- `i64` -/
abbrev I64 := { value : Int // i64Min ≤ value ∧ value ≤ i64Max }

namespace I64

/-- A number as an `i64`, if it is one. -/
def check (value : Int) : Option I64 :=
  if inside : i64Min ≤ value ∧ value ≤ i64Max then some ⟨value, inside⟩
  else none

/-- `checked_add` -/
def checkedAdd (left right : I64) : Option I64 := check (left.1 + right.1)

/-- `checked_sub` -/
def checkedSub (left right : I64) : Option I64 := check (left.1 - right.1)

theorem check_eq_some_iff
    {value : Int}
    {result : I64} : check value = some result ↔ result.1 = value := by
  unfold check
  constructor
  · intro checked
    split at checked
    · injection checked with same
      rw [← same]
    · cases checked
  · intro same
    rw [dif_pos (same ▸ result.2)]
    exact congrArg some (Subtype.ext same.symm)

theorem checkedAdd_eq_some_iff
    {left right sum : I64} :
    checkedAdd left right = some sum ↔ sum.1 = left.1 + right.1 :=
  check_eq_some_iff

theorem checkedSub_eq_some_iff
    {left right difference : I64} :
    checkedSub left right = some difference ↔
      difference.1 = left.1 - right.1 :=
  check_eq_some_iff

theorem max_val (left right : I64) : (max left right).1 = max left.1 right.1 :=
  (Subtype.mono_coe _).map_max

theorem min_val (left right : I64) : (min left right).1 = min left.1 right.1 :=
  (Subtype.mono_coe _).map_min

end I64
end Library
end Vvmux
