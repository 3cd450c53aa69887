import Mathlib.Algebra.Order.Ring.Nat
import Mathlib.Data.List.Basic

/-!
# Chunks of a list

A list is cut into chunks of one size, the last of which may be shorter.
-/

namespace Vvmux
namespace Library

variable {α : Type*}

/-- The first chunks, up to a count. -/
def firstChunks
    (size : Nat) :
    Nat → List α → List (List α)
  | 0, _ => []
  | count + 1, items =>
      if items.isEmpty then []
      else items.take size :: firstChunks size count (items.drop size)

/-- `chunks` -/
def chunks (size : Nat) (items : List α) : List (List α) :=
  firstChunks size items.length items

/-- All chunks but the last have the size, and the last is not longer and not
empty. -/
def EvenlyCut
    (size : Nat) :
    List (List α) → Prop
  | [] => True
  | [last] => 0 < last.length ∧ last.length ≤ size
  | first :: second :: rest =>
      first.length = size ∧ EvenlyCut size (second :: rest)

variable {size : Nat}

variable {items : List α}

theorem firstChunks_spec
    (positive : 0 < size)
    {count : Nat}
    (enough : items.length ≤ count) :
    (firstChunks size count items).flatten = items ∧
      EvenlyCut size (firstChunks size count items) := by
  induction count generalizing items with
  | zero =>
      have none : items = [] := List.length_eq_zero_iff.mp (Nat.le_zero.mp enough)
      rw [none]
      exact ⟨rfl, trivial⟩
  | succ count ih =>
      unfold firstChunks
      split_ifs with empty
      · exact ⟨(List.isEmpty_iff.mp empty).symm, trivial⟩
      · have more : 0 < items.length :=
          List.length_pos_of_ne_nil fun nil => empty (nil ▸ rfl)
        have fewer : (items.drop size).length ≤ count := by
          rw [List.length_drop]
          omega
        obtain ⟨whole, even⟩ := ih fewer
        refine ⟨?_, ?_⟩
        · rw [List.flatten_cons, whole, List.take_append_drop]
        · cases tail : firstChunks size count (items.drop size) with
          | nil =>
              refine ⟨?_, List.length_take_le _ _⟩
              rw [List.length_take]
              omega
          | cons second rest =>
              rw [tail] at whole even
              refine ⟨?_, even⟩
              have below : size < items.length := by
                by_contra above
                rw [List.drop_eq_nil_of_le (Nat.le_of_not_lt above)] at tail
                cases count with
                | zero => cases tail
                | succ count => simp [firstChunks] at tail
              rw [List.length_take]
              omega

/-- The chunks put together are the list. -/
theorem flatten_chunks
    (positive : 0 < size)
    (items : List α) : (chunks size items).flatten = items :=
  (firstChunks_spec positive le_rfl).1

theorem evenlyCut_chunks
    (positive : 0 < size)
    (items : List α) : EvenlyCut size (chunks size items) :=
  (firstChunks_spec positive le_rfl).2

variable {rest : List (List α)} {first : List α}

theorem EvenlyCut.tail
    (even : EvenlyCut size (first :: rest)) : EvenlyCut size rest := by
  cases rest with
  | nil => trivial
  | cons second rest => exact even.2

/-- Every chunk has items, and no more than the size. -/
theorem EvenlyCut.head
    (positive : 0 < size)
    (even : EvenlyCut size (first :: rest)) :
    0 < first.length ∧ first.length ≤ size := by
  cases rest with
  | nil => exact even
  | cons second rest => exact ⟨even.1 ▸ positive, le_of_eq even.1⟩

variable {pieces : List (List α)}

/-- Only the last chunk has nothing after it. -/
theorem EvenlyCut.flatten_eq_nil_iff
    (positive : 0 < size)
    (even : EvenlyCut size pieces) : pieces.flatten = [] ↔ pieces = [] := by
  cases pieces with
  | nil => simp
  | cons first rest =>
      have some := (even.head positive).1
      simp only [List.flatten_cons, List.append_eq_nil_iff, reduceCtorEq,
        iff_false, not_and]
      rintro rfl
      cases some

theorem exists_first_chunk
    (positive : 0 < size)
    (some : items ≠ []) :
    ∃ first rest, chunks size items = first :: rest ∧ 0 < first.length := by
  have whole := flatten_chunks positive items
  have even := evenlyCut_chunks positive items
  cases pieces : chunks size items with
  | nil =>
      rw [pieces] at whole
      exact absurd whole.symm some
  | cons first rest =>
      rw [pieces] at even
      exact ⟨first, rest, rfl, (even.head positive).1⟩

/-- So many chunks there are. -/
theorem EvenlyCut.length_eq
    (positive : 0 < size)
    (even : EvenlyCut size pieces) :
    pieces.length = (pieces.flatten.length + (size - 1)) / size := by
  induction pieces with
  | nil =>
      have below : 0 + (size - 1) < size := by omega
      exact (Nat.div_eq_of_lt below).symm
  | cons first rest ih =>
      rw [List.length_cons, ih even.tail, List.flatten_cons, List.length_append]
      cases rest with
      | nil =>
          obtain ⟨some, few⟩ := even
          rw [List.flatten_nil, List.length_nil, Nat.zero_add,
            Nat.div_eq_of_lt (Nat.sub_lt positive Nat.one_pos)]
          symm
          rw [Nat.div_eq_iff positive]
          omega
      | cons second rest =>
          rw [even.1, Nat.add_assoc, Nat.add_div_left _ positive]

end Library
end Vvmux
