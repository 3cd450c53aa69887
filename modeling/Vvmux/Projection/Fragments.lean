import Vvmux.Library.LowestFree
import Vvmux.Library.Machine
import Vvmux.Projection.Region

/-!
# Fragment IDs

`FragmentMap` numbers the fragments of one logical node.  A rectangle keeps
its ID as long as it stays; the IDs of those that have gone are given to new
ones.
-/

namespace Vvmux

open Library

namespace Projection

/-- How many IDs a `u8` has. -/
def fragmentIds : Nat := 256

structure FragmentMap where
  rectangles : List (FixedRect × Nat)
deriving DecidableEq

namespace FragmentMap

/-- `FragmentMap::default` -/
def start :
    FragmentMap where
  rectangles := []

def find? (map : FragmentMap) (fragment : FixedRect) : Option Nat :=
  (map.rectangles.find? fun entry => entry.1 = fragment).map Prod.snd

/-- The loop of `FragmentMap::assign`. -/
def assignLoop
    (map : FragmentMap) :
    Finset Nat → List FixedRect → Option (List (Nat × FixedRect))
  | _, [] => some []
  | used, fragment :: rest =>
      match map.find? fragment with
      | some id =>
          if id ∈ used then none
          else
            (assignLoop map (insert id used) rest).map ((id, fragment) :: ·)
      | none =>
          (lowestFree fragmentIds used).bind fun id =>
            (assignLoop map (insert id used) rest).map ((id, fragment) :: ·)

/-- `FragmentMap::assign`: the map after it, and the assignment if there is
one. -/
def assign
    (map : FragmentMap)
    (fragments : List FixedRect) :
    FragmentMap × Option (List (Nat × FixedRect)) :=
  if ¬ fragments.Nodup then (map, none)
  else
    match map.assignLoop ∅ fragments with
    | none => (map, none)
    | some assigned =>
        ({ rectangles := assigned.map Prod.swap }, some assigned)

end FragmentMap

/-- A map that is used for one assignment after the other. -/
def fragmentMachine : Machine FragmentMap (List FixedRect) where
  initial map := map = .start
  step before fragments after := after = (before.assign fragments).1

namespace FragmentMap

/-- What an assignment should be: the rectangles in order, those known before
with their IDs, no ID twice, and the others with the lowest IDs that no
rectangle of the list holds. -/
structure Assigns
    (map : FragmentMap)
    (fragments : List FixedRect)
    (assigned : List (Nat × FixedRect)) : Prop where
  order : assigned.map Prod.snd = fragments
  keeps : ∀ entry ∈ assigned, ∀ id, map.find? entry.2 = some id →
    entry.1 = id
  distinct : (assigned.map Prod.fst).Nodup
  lowest : (assigned.filter fun entry =>
      (map.find? entry.2).isNone).map Prod.fst =
    ((List.range fragmentIds).filter fun id =>
      decide (id ∉ fragments.filterMap map.find?)).take
        (fragments.countP fun fragment => (map.find? fragment).isNone)

/-- Whether a rectangle is new or holds an ID below another. -/
def mayTakeBelow (map : FragmentMap) (id : Nat) (fragment : FixedRect) : Bool :=
  takesBelow id (map.find? fragment)

/-- Before a rectangle that holds an ID, no more rectangles are listed that
are new or hold a lower one than there are lower IDs. -/
def LeavesRoom (map : FragmentMap) (fragments : List FixedRect) : Prop :=
  ∀ before fragment after id, fragments = before ++ fragment :: after →
    map.find? fragment = some id →
    before.countP (map.mayTakeBelow id) ≤ id

/-- The loop hands out numbers. -/
theorem assignLoop_eq_handOut
    (map : FragmentMap)
    (used : Finset Nat)
    (fragments : List FixedRect) :
    map.assignLoop used fragments =
      (handOut fragmentIds used (fragments.map map.find?)).map
        fun ids => ids.zip fragments := by
  induction fragments generalizing used with
  | nil => rfl
  | cons fragment rest ih =>
      rw [List.map_cons, handOut, assignLoop]
      cases known : map.find? fragment with
      | some id =>
          simp only [handOutOne]
          split
          · rfl
          · rw [Option.bind_some, ih, Option.map_map, Option.map_map]
            rfl
      | none =>
          simp only [handOutOne]
          cases lowestFree fragmentIds used with
          | none => rfl
          | some id =>
              rw [Option.bind_some, Option.bind_some, ih,
                Option.map_map, Option.map_map]
              rfl

/-- No ID stands for two rectangles. -/
def Distinct (map : FragmentMap) : Prop :=
  (map.rectangles.map Prod.snd).Nodup

variable {map : FragmentMap}

theorem Distinct.find?_inj
    (distinct : map.Distinct)
    {left right : FixedRect}
    {id : Nat}
    (first : map.find? left = some id)
    (second : map.find? right = some id) : left = right := by
  obtain ⟨one, found, sameOne⟩ := Option.map_eq_some_iff.mp first
  obtain ⟨other, foundOther, sameOther⟩ := Option.map_eq_some_iff.mp second
  have same : one = other := List.inj_on_of_nodup_map distinct
    (List.mem_of_find?_eq_some found) (List.mem_of_find?_eq_some foundOther)
    (sameOne.trans sameOther.symm)
  have isLeft : one.1 = left := by simpa using List.find?_some found
  have isRight : other.1 = right := by simpa using List.find?_some foundOther
  rw [← isLeft, ← isRight, same]

theorem reduceOption_map_find?
    (map : FragmentMap)
    (fragments : List FixedRect) :
    (fragments.map map.find?).reduceOption =
      fragments.filterMap map.find? := by
  rw [List.reduceOption, List.filterMap_map]
  rfl

theorem zip_map_find?
    (map : FragmentMap)
    (fragments : List FixedRect)
    (ids : List Nat) :
    (fragments.map map.find?).zip ids =
      (ids.zip fragments).map fun entry => (map.find? entry.2, entry.1) := by
  induction fragments generalizing ids with
  | nil => simp
  | cons fragment rest ih =>
      cases ids with
      | nil => rfl
      | cons id others =>
          rw [List.map_cons, List.zip_cons_cons, List.zip_cons_cons,
            List.map_cons, ih]

variable {fragments : List FixedRect}

/-- What the loop assigns is what should be assigned. -/
theorem assigns_of_assignLoop
    {assigned : List (Nat × FixedRect)}
    (done : map.assignLoop ∅ fragments = some assigned) :
    map.Assigns fragments assigned := by
  rw [assignLoop_eq_handOut] at done
  obtain ⟨ids, handed, rfl⟩ := Option.map_eq_some_iff.mp done
  have out := handedOut_of_handOut handed
  have long : ids.length = fragments.length := by
    rw [out.everyone, List.length_map]
  have wants : (fragments.map map.find?).zip ids =
      (ids.zip fragments).map fun entry => (map.find? entry.2, entry.1) :=
    zip_map_find? map fragments ids
  exact
    { order := by
        rw [List.map_snd_zip]
        exact long.ge
      keeps := by
        intro entry listed id known
        refine out.kept (map.find? entry.2, entry.1) ?_ id known
        rw [wants]
        exact List.mem_map_of_mem listed
      distinct := by
        rw [List.map_fst_zip]
        · exact out.distinct
        · exact long.le
      lowest := by
        have lowest := out.lowest
        rw [wants, List.filter_map, List.map_map, freeNumbers,
          reduceOption_map_find?, List.countP_map] at lowest
        simp only [Finset.notMem_empty, not_false_eq_true, true_and] at lowest
        exact lowest }

/-- The loop succeeds exactly if every kept ID is left alone. -/
theorem assignLoop_isSome_iff
    (distinct : map.Distinct)
    (different : fragments.Nodup)
    (few : fragments.length ≤ fragmentIds) :
    (map.assignLoop ∅ fragments).isSome ↔ map.LeavesRoom fragments := by
  have roomy : Roomy ∅ (fragments.map map.find?) ↔
      map.LeavesRoom fragments := by
    have none : ∀ id, countBelow ∅ id = 0 := fun id => rfl
    constructor
    · intro roomy before fragment after id split known
      have room := roomy (before.map map.find?) id (after.map map.find?) (by
        rw [split, List.map_append, List.map_cons, known])
      rw [none, Nat.zero_add, List.countP_map] at room
      exact room
    · intro leaves before id after split
      obtain ⟨first, rest, same, rfl, tail⟩ := List.map_eq_append_iff.mp split
      obtain ⟨fragment, others, whole, known, -⟩ := List.map_eq_cons_iff.mp tail
      rw [none, Nat.zero_add, List.countP_map]
      exact leaves first fragment others id (by rw [same, whole]) known
  rw [assignLoop_eq_handOut, Option.isSome_map, ← roomy]
  refine handOut_isSome_iff ?_ (fun _ _ => Finset.notMem_empty _) ?_
  · rw [reduceOption_map_find?]
    exact different.filterMap fun left right id first second =>
      distinct.find?_inj first second
  · rw [List.length_map, Finset.card_empty, Nat.zero_add]
    exact few

/-- Every reachable map is without double IDs. -/
theorem distinct_reachable
    (reached : fragmentMachine.Reachable (fun _ _ => True) map) :
    map.Distinct := by
  refine reached.invariant ?_ ?_
  · intro start initial
    rw [initial]
    exact List.nodup_nil
  · intro before fragments after distinct _ stepped
    rw [stepped]
    unfold assign
    split
    · exact distinct
    · split
      · exact distinct
      · rename_i assigned done
        have assigns := assigns_of_assignLoop done
        unfold Distinct
        rw [List.map_map]
        exact assigns.distinct

/-- For at most 256 different rectangles, an assignment that is as it should
be is made exactly if every kept ID is left room. -/
theorem assign_iff_leavesRoom
    {map : FragmentMap}
    (reached : fragmentMachine.Reachable (fun _ _ => True) map)
    {fragments : List FixedRect}
    (different : fragments.Nodup)
    (few : fragments.length ≤ fragmentIds) :
    (∃ assigned, (map.assign fragments).2 = some assigned ∧
      map.Assigns fragments assigned) ↔
    map.LeavesRoom fragments := by
  rw [← assignLoop_isSome_iff (distinct_reachable reached) different few,
    Option.isSome_iff_exists]
  unfold assign
  rw [if_neg (not_not.mpr different)]
  constructor
  · rintro ⟨assigned, done, -⟩
    split at done
    · cases done
    · rename_i found same
      exact ⟨found, same⟩
  · rintro ⟨assigned, done⟩
    rw [done]
    exact ⟨assigned, rfl, assigns_of_assignLoop done⟩

/-- The rectangle of one cell of the first row. -/
def cell (column : Nat) : Option FixedRect :=
  fromCells ⟨column, 0, 1, 1⟩

/-- Three cells of the first row. -/
def threeOf :
    Option (FixedRect × FixedRect × FixedRect) := do
  let left ← cell 0
  let middle ← cell 2
  let right ← cell 4
  some (left, middle, right)

/-- The map after two rectangles were assigned. -/
def afterTwo (left right : FixedRect) : FragmentMap :=
  (FragmentMap.start.assign [left, right]).1

theorem reachable_afterTwo
    (left right : FixedRect) :
    fragmentMachine.Reachable (fun _ _ => True) (afterTwo left right) :=
  .step (.initial rfl) trivial rfl

/-- The right one stays, and a new one comes after it. -/
theorem assign_iff_leavesRoom_kept :
    ∃ left middle right,
      threeOf = some (left, middle, right) ∧
      ((afterTwo left right).assign [right, middle]).2 =
        some [(1, right), (0, middle)] ∧
      (afterTwo left right).LeavesRoom [right, middle] := by
  have seen : threeOf.map (fun three =>
      decide (((afterTwo three.1 three.2.2).assign
          [three.2.2, three.2.1]).2 =
        some [(1, three.2.2), (0, three.2.1)] ∧
      [three.2.2, three.2.1].Nodup)) = some true := by
    decide +kernel
  obtain ⟨⟨left, middle, right⟩, three, holds⟩ := Option.map_eq_some_iff.mp seen
  obtain ⟨done, different⟩ := of_decide_eq_true holds
  refine ⟨left, middle, right, three, done, ?_⟩
  refine (assign_iff_leavesRoom (reachable_afterTwo left right) different
    (show 2 ≤ 256 by decide)).mp ⟨_, done, ?_⟩
  unfold assign at done
  rw [if_neg (not_not.mpr different)] at done
  split at done
  · cases done
  · rename_i found same
    injection done with done
    exact done ▸ assigns_of_assignLoop same

/-- A new rectangle that is listed before one that stays takes its ID. -/
theorem new_rectangle_takes_id :
    ∃ map fragments,
      fragmentMachine.Reachable (fun _ _ => True) map ∧
      fragments.Nodup ∧
      fragments.length ≤ fragmentIds ∧
      (map.assign fragments).2 = none := by
  have seen : threeOf.map (fun three =>
      decide (((afterTwo three.1 three.2.2).assign [three.2.1, three.1]).2 =
        none ∧ [three.2.1, three.1].Nodup)) = some true := by
    decide +kernel
  obtain ⟨⟨left, middle, right⟩, -, holds⟩ := Option.map_eq_some_iff.mp seen
  obtain ⟨refused, different⟩ := of_decide_eq_true holds
  exact ⟨afterTwo left right, [middle, left], reachable_afterTwo left right,
    different, show 2 ≤ 256 by decide, refused⟩

end FragmentMap

end Projection
end Vvmux
