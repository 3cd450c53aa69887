import Mathlib.Data.List.Nodup
import Mathlib.Data.List.Perm.Basic

/-!
# Lists of sections

A list whose elements each own a list of members. The lemmas say what a rewrite
of one section, of all of them, or the removal of an empty one does to the
concatenation of the members.
-/

namespace Vvmux
namespace Library

variable {α β : Type*}

variable {index : Nat}

variable {elements : List α} {change : α → α}

/-- Rewriting one element relates the two lists elementwise. -/
theorem forall₂_modify
    {related : α → α → Prop}
    (unchanged : ∀ other element, other ≠ index →
      elements[other]? = some element → related element element)
    (changed : ∀ element, elements[index]? = some element →
      related element (change element)) :
    List.Forall₂ related elements (elements.modify index change) := by
  induction elements generalizing index with
  | nil => simp
  | cons head rest ih =>
      cases index with
      | zero =>
          rw [List.modify_zero_cons]
          refine .cons (changed head rfl) (List.forall₂_same.mpr ?_)
          intro element present
          obtain ⟨other, found⟩ := List.getElem?_of_mem present
          exact unchanged (other + 1) element (Nat.succ_ne_zero other)
            (by simpa using found)
      | succ index =>
          rw [List.modify_succ_cons]
          refine .cons (unchanged 0 head (Nat.succ_ne_zero index).symm rfl)
            (ih ?_ ?_)
          · intro other element different found
            exact unchanged (other + 1) element (by omega) (by simpa using found)
          · intro element found
            exact changed element (by simpa using found)

/-- An element after a rewrite is an old one or the rewritten one. -/
theorem mem_modify_cases
    {element : α}
    (present : element ∈ elements.modify index change) :
    element ∈ elements ∨
      ∃ old, elements[index]? = some old ∧ element = change old := by
  obtain ⟨position, found⟩ := List.getElem?_of_mem present
  rw [List.getElem?_modify, Option.map_eq_map, Option.map_eq_some_iff] at found
  obtain ⟨old, oldFound, rfl⟩ := found
  split_ifs with same
  · subst same
    exact .inr ⟨old, oldFound, rfl⟩
  · exact .inl (List.mem_of_getElem? oldFound)

/-- The position of a search result and the search result. -/
theorem find?_of_findIdx?
    {search : α → Bool}
    (position : elements.findIdx? search = some index) :
    ∃ element, elements[index]? = some element ∧
      elements.find? search = some element := by
  obtain ⟨within, holds, before⟩ :=
    List.findIdx?_eq_some_iff_getElem.mp position
  refine ⟨elements[index], List.getElem?_eq_getElem within, ?_⟩
  rw [List.find?_eq_some_iff_getElem]
  exact ⟨holds, index, within, rfl, fun other below => by simp [before other below]⟩

variable {members : α → List β}

/-- A member of one section of a list without repetition is in no other. -/
theorem not_mem_of_other_section
    (distinct : (elements.flatMap members).Nodup)
    {index other : Nat}
    {owner element : α}
    (found : elements[index]? = some owner)
    (otherFound : elements[other]? = some element)
    (different : other ≠ index)
    {member : β}
    (owned : member ∈ members owner) : member ∉ members element := by
  obtain ⟨within, rfl⟩ := List.getElem?_eq_some_iff.mp found
  obtain ⟨otherWithin, rfl⟩ := List.getElem?_eq_some_iff.mp otherFound
  have disjoint := List.pairwise_iff_getElem.mp (List.nodup_flatMap.mp distinct).2
  intro inOther
  rcases Nat.lt_or_gt_of_ne different with before | after
  · exact disjoint other index otherWithin within before inOther owned
  · exact disjoint index other within otherWithin after owned inOther

theorem forall₂_trans
    {related : α → α → Prop}
    (transitive : ∀ {a b c}, related a b → related b c → related a c)
    {first second third : List α}
    (left : List.Forall₂ related first second)
    (right : List.Forall₂ related second third) :
    List.Forall₂ related first third := by
  induction left generalizing third with
  | nil =>
      cases right
      exact .nil
  | cons head _ ih =>
      cases right with
      | cons nextHead nextRest =>
          exact .cons (transitive head nextHead) (ih nextRest)

section

variable {related : α → α → Prop} {before after : List α}
  (pairwise : List.Forall₂ related before after)
include pairwise

/-- Every element of the second list is related to one of the first. -/
theorem exists_related_of_mem
    {new : α}
    (present : new ∈ after) : ∃ old ∈ before, related old new := by
  induction pairwise with
  | nil => simp at present
  | cons head _ ih =>
      rcases List.mem_cons.mp present with rfl | inRest
      · exact ⟨_, List.mem_cons_self .., head⟩
      · obtain ⟨old, member, found⟩ := ih inRest
        exact ⟨old, List.mem_cons_of_mem _ member, found⟩

/-- Related lists are related position by position. -/
theorem exists_related_getElem?
    {new : α}
    (found : after[index]? = some new) :
    ∃ old, before[index]? = some old ∧ related old new := by
  induction pairwise generalizing index with
  | nil => simp at found
  | cons head _ ih =>
      cases index with
      | zero =>
          rw [List.getElem?_cons_zero, Option.some.injEq] at found
          subst found
          exact ⟨_, rfl, head⟩
      | succ index =>
          rw [List.getElem?_cons_succ] at found
          simpa using ih found

/-- What related elements agree on, the lists agree on. -/
theorem map_eq_of_forall₂
    {feature : α → β}
    (agree : ∀ {old new}, related old new → feature new = feature old) :
    after.map feature = before.map feature := by
  induction pairwise with
  | nil => rfl
  | cons head _ ih =>
      rw [List.map_cons, List.map_cons, agree head, ih]

end

/-- Sections that are permuted one by one permute the concatenation. -/
theorem perm_flatMap_of_forall₂
    {members expected : α → List β}
    {before after : List α}
    (permuted : List.Forall₂
      (fun old new => (members new).Perm (expected old)) before after) :
    (after.flatMap members).Perm (before.flatMap expected) := by
  induction permuted with
  | nil => exact List.Perm.refl _
  | cons head _ ih =>
      simp only [List.flatMap_cons]
      exact head.append ih

/-- A section that gains one member adds it to the concatenation. -/
theorem perm_flatMap_modify_cons
    {element : α}
    {added : β}
    (found : elements[index]? = some element)
    (gained : (members (change element)).Perm (added :: members element)) :
    ((elements.modify index change).flatMap members).Perm
      (added :: elements.flatMap members) := by
  induction elements generalizing index with
  | nil => simp at found
  | cons head rest ih =>
      cases index with
      | zero =>
          simp only [List.getElem?_cons_zero, Option.some.injEq] at found
          subst found
          rw [List.modify_zero_cons, List.flatMap_cons, List.flatMap_cons]
          exact gained.append_right _
      | succ index =>
          rw [List.getElem?_cons_succ] at found
          rw [List.modify_succ_cons, List.flatMap_cons, List.flatMap_cons]
          have inner := (ih found).append_left (members head)
          exact inner.trans List.perm_middle

/-- Dropping an empty section changes nothing. -/
theorem flatMap_eraseIdx_of_nil
    (vacant : ∀ element, elements[index]? = some element →
      members element = []) :
    (elements.eraseIdx index).flatMap members = elements.flatMap members := by
  induction elements generalizing index with
  | nil => simp
  | cons head rest ih =>
      cases index with
      | zero => simp [vacant head rfl]
      | succ index =>
          rw [List.eraseIdx_cons_succ, List.flatMap_cons, List.flatMap_cons,
            ih fun element found => vacant element (by
              simpa using found)]

end Library
end Vvmux
