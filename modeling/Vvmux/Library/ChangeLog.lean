import Mathlib.Data.List.Basic

/-!
# Bounded logs of changes

Something is seen at places and changes from time to time.  A log keeps the
latest changes under consecutive numbers, each with the places it may have
touched, or without places when it may have touched all of them.  Who has
looked at one number and finds the log still reaching back to it needs to look
again only at the places the later changes name.
-/

namespace Vvmux
namespace Library

variable {Place Value Item : Type*}

/-- A change in a log. -/
structure LoggedChange (Place : Type*) where
  sequence : Nat
  places : Option (List Place)
deriving DecidableEq

/-! ## Logs -/

/-- The latest items of a list, at most `limit` of them. -/
def keepLast (limit : Nat) (items : List Item) : List Item :=
  items.drop (items.length - limit)

theorem keepLast_sublist
    (limit : Nat)
    (items : List Item) : (keepLast limit items).Sublist items :=
  List.drop_sublist _ _

/-- Dropping early is dropping. -/
theorem keepLast_keepLast_concat
    (limit : Nat)
    (items : List Item)
    (item : Item) :
    keepLast limit (keepLast limit items ++ [item]) =
      keepLast limit (items ++ [item]) := by
  unfold keepLast
  rw [← List.drop_append_of_le_length (by omega), List.drop_drop]
  congr 1
  simp only [List.length_drop, List.length_append, List.length_singleton]
  omega

/-- Changes under the numbers after `start`. -/
def numberedFrom
    (start : Nat)
    (changes : List (Option (List Place))) : List (LoggedChange Place) :=
  changes.mapIdx fun index places => ⟨start + index + 1, places⟩

theorem numberedFrom_concat
    (start : Nat)
    (changes : List (Option (List Place)))
    (places : Option (List Place)) :
    numberedFrom start (changes ++ [places]) =
      numberedFrom start changes ++ [⟨start + changes.length + 1, places⟩] := by
  simp [numberedFrom, List.mapIdx_append]

@[simp] theorem length_numberedFrom
    (start : Nat)
    (changes : List (Option (List Place))) :
    (numberedFrom start changes).length = changes.length := by
  simp [numberedFrom]

variable {changes : List (Option (List Place))} {places : Option (List Place)}

/-- Every change is there under a later number. -/
theorem mem_numberedFrom
    {start : Nat}
    (listed : places ∈ changes) :
    ∃ entry ∈ numberedFrom start changes,
      start < entry.sequence ∧ entry.places = places := by
  obtain ⟨index, inside, here⟩ := List.getElem_of_mem listed
  refine ⟨⟨start + index + 1, places⟩, ?_, by dsimp only; omega, rfl⟩
  rw [numberedFrom, List.mem_mapIdx]
  exact ⟨index, inside, by rw [here]⟩

section

variable
    (limit : Nat)
    (old : List (LoggedChange Place))
    (start : Nat)
    (changes : List (Option (List Place)))

/-- A log after some changes. -/
def logAfter : List (LoggedChange Place) :=
  if changes = [] then old else keepLast limit (old ++ numberedFrom start changes)

/-- Recording one more change. -/
theorem logAfter_concat
    (places : Option (List Place)) :
    keepLast limit (logAfter limit old start changes ++
        [⟨start + changes.length + 1, places⟩]) =
      logAfter limit old start (changes ++ [places]) := by
  have some : changes ++ [places] ≠ [] := by simp
  rw [logAfter, logAfter, if_neg some, numberedFrom_concat]
  split
  · rename_i none
    rw [none, numberedFrom, List.mapIdx_nil, List.nil_append]
  · rw [keepLast_keepLast_concat, List.append_assoc]

end

/-- A log whose oldest entry is not after the first of some changes holds all
of them: had one been dropped, so had everything before it. -/
theorem numberedFrom_subset_logAfter
    {limit : Nat}
    {old : List (LoggedChange Place)}
    {start : Nat}
    (some : changes ≠ [])
    (room : 0 < limit)
    (reaches : ∀ oldest, (logAfter limit old start changes).head? = .some oldest →
      oldest.sequence ≤ start + 1) :
    ∀ entry ∈ numberedFrom start changes,
      entry ∈ logAfter limit old start changes := by
  rw [logAfter, if_neg some] at reaches ⊢
  unfold keepLast at reaches ⊢
  have total : (old ++ numberedFrom start changes).length =
      old.length + (numberedFrom start changes).length := List.length_append
  generalize dropped : (old ++ numberedFrom start changes).length - limit = count
    at reaches ⊢
  rcases Nat.lt_or_ge old.length count with beyond | within
  · have inside : count - old.length < changes.length := by
      have least := List.length_pos_iff.mpr some
      rw [total, length_numberedFrom] at dropped
      omega
    have oldest : ((old ++ numberedFrom start changes).drop count).head? =
        .some ⟨start + (count - old.length) + 1, changes[count - old.length]⟩ := by
      rw [List.head?_drop, List.getElem?_append_right (Nat.le_of_lt beyond),
        numberedFrom, List.getElem?_mapIdx, List.getElem?_eq_getElem inside]
      rfl
    have early := reaches _ oldest
    dsimp only at early
    omega
  · intro entry listed
    rw [List.drop_append_of_le_length within]
    exact List.mem_append_right _ listed

/-! ## What is seen -/

/-- Some change names the place. -/
def Names (changes : List (Option (List Place))) (place : Place) : Prop :=
  ∃ places, some places ∈ changes ∧ place ∈ places

/-- What is seen differs only where some change may have touched it. -/
def Tracked
    (before after : Place → Value)
    (changes : List (Option (List Place))) : Prop :=
  ∀ place, before place ≠ after place → none ∈ changes ∨ Names changes place

theorem tracked_refl (view : Place → Value) : Tracked view view [] :=
  fun _ different => absurd rfl different

/-- A change that names what it touches keeps the log good. -/
theorem Tracked.concat
    {before middle after : Place → Value}
    (tracked : Tracked before middle changes)
    (names : ∀ place, middle place ≠ after place →
      places = none ∨ ∃ named, places = some named ∧ place ∈ named) :
    Tracked before after (changes ++ [places]) := by
  intro place different
  by_cases same : before place = middle place
  · rw [same] at different
    rcases names place different with all | ⟨named, isSome, listed⟩
    · left
      simp [all]
    · right
      exact ⟨named, by simp [isSome], listed⟩
  · rcases tracked place same with all | ⟨named, earlier, listed⟩
    · exact .inl (List.mem_append_left _ all)
    · exact .inr ⟨named, List.mem_append_left _ earlier, listed⟩

/-- Look again at some of the places. -/
def lookAgain
    [DecidableEq Place]
    (places : List Place)
    (before after : Place → Value) : Place → Value :=
  fun place => if place ∈ places then after place else before place

/-- Looking again at the places that changes name shows what is there. -/
theorem Tracked.lookAgain
    [DecidableEq Place]
    {before after : Place → Value}
    (tracked : Tracked before after changes)
    (named : none ∉ changes)
    {places : List Place}
    (covers : ∀ place, Names changes place → place ∈ places) :
    Library.lookAgain places before after = after := by
  funext place
  unfold Library.lookAgain
  split
  · rfl
  · rename_i unlisted
    by_contra different
    rcases tracked place different with all | names
    · exact named all
    · exact unlisted (covers place names)

end Library
end Vvmux
