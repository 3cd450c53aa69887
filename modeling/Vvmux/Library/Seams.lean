import Mathlib.Data.List.Basic

/-!
# Seams of a sequence of linked items

Some items of a list come in two parts that have to stand next to each other.
The first part announces a tag to the item behind it (`lead`), the second part
expects one from the item ahead of it (`trail`), and every other item does
neither.  A list is linked when each item expects exactly what the item ahead
of it announces.  A list may be cut at the places where nothing is announced:
what is put together from pieces between such cuts is linked again.
-/

namespace Vvmux
namespace Library
namespace Seams

variable {Item Tag : Type*}
variable (lead trail : Item → Option Tag)

/-- Each item expects what the one ahead of it announces, the first item
expects `before` and the last one announces `after`. -/
def Linked
    (before : Option Tag)
    (line : List Item)
    (after : Option Tag) : Prop :=
  match line with
  | [] => before = after
  | item :: rest => trail item = before ∧ Linked (lead item) rest after

/-- What the item at `column` expects from the one ahead of it. -/
def seam (line : List Item) (column : Nat) : Option Tag :=
  (line)[column]?.bind trail

variable {lead trail}

@[simp] theorem linked_nil
    {before after : Option Tag} :
    Linked lead trail before [] after ↔ before = after :=
  Iff.rfl

variable {before after : Option Tag} {item : Item} {column : Nat}

@[simp] theorem linked_cons
    {rest : List Item} :
    Linked lead trail before (item :: rest) after ↔
      trail item = before ∧ Linked lead trail (lead item) rest after :=
  Iff.rfl

theorem linked_append
    {front back : List Item} :
    Linked lead trail before (front ++ back) after ↔
      ∃ middle, Linked lead trail before front middle ∧
        Linked lead trail middle back after := by
  induction front generalizing before with
  | nil => simp
  | cons item rest ih =>
      simp [ih, and_assoc]

/-- A run of items that neither announce nor expect anything. -/
theorem linked_replicate
    (announcesNothing : lead item = none)
    (expectsNothing : trail item = none)
    (count : Nat) :
    Linked lead trail none (List.replicate count item) none := by
  induction count with
  | zero => rfl
  | succ count ih =>
      rw [List.replicate_succ, linked_cons, announcesNothing]
      exact ⟨expectsNothing, ih⟩

/-- Replacing items by ones that announce and expect the same keeps the
links. -/
theorem linked_map
    {change : Item → Item}
    (sameLead : ∀ item, lead (change item) = lead item)
    (sameTrail : ∀ item, trail (change item) = trail item)
    {line : List Item} :
    Linked lead trail before (line.map change) after ↔
      Linked lead trail before line after := by
  induction line generalizing before with
  | nil => exact Iff.rfl
  | cons item rest ih =>
      simp [sameLead, sameTrail, ih]

theorem linked_mapIdx
    {change : Nat → Item → Item}
    (sameLead : ∀ column item, lead (change column item) = lead item)
    (sameTrail : ∀ column item, trail (change column item) = trail item)
    {line : List Item} :
    Linked lead trail before (line.mapIdx change) after ↔
      Linked lead trail before line after := by
  induction line generalizing before change with
  | nil => exact Iff.rfl
  | cons item rest ih =>
      simp only [List.mapIdx_cons, linked_cons, sameLead, sameTrail]
      rw [ih (fun column => sameLead (column + 1))
        (fun column => sameTrail (column + 1))]

/-- The tag that crosses a cut is the one expected behind it. -/
theorem linked_cut
    {line : List Item}
    (linked : Linked lead trail before line none)
    (column : Nat) :
    Linked lead trail before (line.take column) (seam trail line column) ∧
      Linked lead trail (seam trail line column) (line.drop column) none := by
  have whole := linked
  rw [← List.take_append_drop column line, linked_append] at whole
  obtain ⟨middle, front, back⟩ := whole
  have crossing : middle = seam trail line column := by
    rcases Nat.lt_or_ge column line.length with inside | outside
    · rw [List.drop_eq_getElem_cons inside, linked_cons] at back
      rw [seam, List.getElem?_eq_getElem inside]
      exact back.1.symm
    · rw [List.drop_eq_nil_of_le outside, linked_nil] at back
      rw [seam, List.getElem?_eq_none outside]
      exact back
  rw [← crossing]
  exact ⟨front, back⟩

variable {line : List Item}

/-- The piece ahead of a seam that nothing crosses. -/
theorem linked_take
    (linked : Linked lead trail none line none)
    (uncrossed : seam trail line column = none) :
    Linked lead trail none (line.take column) none := by
  have front := (linked_cut linked column).1
  rwa [uncrossed] at front

/-- The piece behind a seam that nothing crosses. -/
theorem linked_drop
    (linked : Linked lead trail none line none)
    (uncrossed : seam trail line column = none) :
    Linked lead trail none (line.drop column) none := by
  have back := (linked_cut linked column).2
  rwa [uncrossed] at back

theorem linked_join
    {front back : List Item}
    (left : Linked lead trail none front none)
    (right : Linked lead trail none back none) :
    Linked lead trail none (front ++ back) none :=
  linked_append.2 ⟨none, left, right⟩

section

variable (linked : Linked lead trail before line after)
include linked

/-- Nothing is expected from ahead of the first item. -/
theorem trail_head (first : (line)[0]? = some item) : trail item = before := by
  cases line with
  | nil => simp at first
  | cons head rest =>
      have same : head = item := by simpa using first
      rw [← same]
      exact linked.1

/-- An item expects what its left neighbour announces. -/
theorem trail_next
    {item next : Item}
    (here : (line)[column]? = some item)
    (behind : (line)[column + 1]? = some next) : trail next = lead item := by
  induction line generalizing before column with
  | nil => simp at here
  | cons head rest ih =>
      cases column with
      | zero =>
          have same : head = item := by simpa using here
          rw [← same]
          exact trail_head linked.2 (by simpa using behind)
      | succ column =>
          exact ih linked.2 (by simpa using here)
            (by simpa using behind)

/-- The last item announces what the list does. -/
theorem lead_last
    (here : (line)[column]? = some item)
    (last : line.length = column + 1) : lead item = after := by
  induction line generalizing before column with
  | nil => simp at here
  | cons head rest ih =>
      cases column with
      | zero =>
          have same : head = item := by simpa using here
          have alone : rest = [] := by simpa using last
          subst alone
          rw [← same]
          exact linked.2
      | succ column =>
          exact ih linked.2 (by simpa using here)
            (by simpa using last)

end

end Seams
end Library
end Vvmux
