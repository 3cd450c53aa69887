import Mathlib.Algebra.Order.Ring.Int
import Mathlib.Data.List.Sort

/-!
# Finite maps ordered by key

A map is a list of entries with strictly increasing keys. Iteration visits the
keys in ascending order and an insertion replaces the value of a present key,
as in a balanced search tree; the balancing itself is not represented.
-/

namespace Vvmux
namespace Library

variable {κ α : Type*}

/-- Entries with strictly increasing keys. -/
structure OrderedMap (κ α : Type*) [LinearOrder κ] where
  entries : List (κ × α)
  ascending : (entries.map Prod.fst).Pairwise (· < ·)

namespace OrderedMap

variable [LinearOrder κ]

instance [DecidableEq α] : DecidableEq (OrderedMap κ α) := fun left right =>
  decidable_of_iff (left.entries = right.entries) <| by
    cases left
    cases right
    simp

@[ext] theorem ext {left right : OrderedMap κ α}
    (entriesEqual : left.entries = right.entries) : left = right := by
  cases left
  cases right
  simpa using entriesEqual

/-- The map without entries. -/
def empty : OrderedMap κ α := ⟨[], List.Pairwise.nil⟩

/-- Keys in ascending order. -/
def keys (map : OrderedMap κ α) : List κ := map.entries.map Prod.fst

/-- Insert or replace in a list of entries ordered by key. -/
def insertEntry (key : κ) (value : α) : List (κ × α) → List (κ × α)
  | [] => [(key, value)]
  | (other, stored) :: rest =>
      if key < other then (key, value) :: (other, stored) :: rest
      else if key = other then (key, value) :: rest
      else (other, stored) :: insertEntry key value rest

theorem mem_keys_insertEntry
    (key : κ) (value : α) (entries : List (κ × α)) (query : κ) :
    query ∈ (insertEntry key value entries).map Prod.fst ↔
      query = key ∨ query ∈ entries.map Prod.fst := by
  induction entries with
  | nil => simp [insertEntry]
  | cons entry rest ih =>
      obtain ⟨other, stored⟩ := entry
      unfold insertEntry
      split_ifs with before same
      · simp
      · subst same
        simp
      · simp only [List.map_cons, List.mem_cons, ih]
        tauto

theorem insertEntry_ascending
    (key : κ) (value : α) (entries : List (κ × α))
    (ascending : (entries.map Prod.fst).Pairwise (· < ·)) :
    ((insertEntry key value entries).map Prod.fst).Pairwise (· < ·) := by
  induction entries with
  | nil => simp [insertEntry]
  | cons entry rest ih =>
      obtain ⟨other, stored⟩ := entry
      simp only [List.map_cons, List.pairwise_cons] at ascending
      obtain ⟨headBelow, tailAscending⟩ := ascending
      unfold insertEntry
      split_ifs with before same
      · simp only [List.map_cons, List.pairwise_cons, List.mem_cons]
        refine ⟨?_, headBelow, tailAscending⟩
        rintro query (rfl | present)
        · exact before
        · exact before.trans (headBelow query present)
      · subst same
        exact List.pairwise_cons.mpr ⟨headBelow, tailAscending⟩
      · simp only [List.map_cons, List.pairwise_cons]
        refine ⟨?_, ih tailAscending⟩
        intro query present
        rcases (mem_keys_insertEntry key value rest query).mp present with
          equal | inRest
        · subst equal
          exact lt_of_le_of_ne (not_lt.mp before) (Ne.symm same)
        · exact headBelow query inRest

/-- Insert a value, replacing the one stored under an equal key. -/
def insert (map : OrderedMap κ α) (key : κ) (value : α) : OrderedMap κ α :=
  ⟨insertEntry key value map.entries,
    insertEntry_ascending key value map.entries map.ascending⟩

/-- Remove the entry of a key, if there is one. -/
def erase (map : OrderedMap κ α) (key : κ) : OrderedMap κ α :=
  ⟨map.entries.filter fun entry => entry.1 ≠ key,
    map.ascending.sublist (List.filter_sublist.map Prod.fst)⟩

/-- Rewrite the value stored under a key, if there is one. -/
def modify (map : OrderedMap κ α) (key : κ) (change : α → α) : OrderedMap κ α :=
  ⟨map.entries.map fun entry =>
      if entry.1 = key then (entry.1, change entry.2) else entry, by
    have keysKept : (map.entries.map fun entry =>
        if entry.1 = key then (entry.1, change entry.2) else entry).map
          Prod.fst = map.entries.map Prod.fst := by
      rw [List.map_map]
      refine List.map_congr_left fun entry _ => ?_
      simp only [Function.comp_apply]
      split_ifs <;> rfl
    rw [keysKept]
    exact map.ascending⟩

/-- Value stored under a key. -/
def find? (map : OrderedMap κ α) (key : κ) : Option α :=
  (map.entries.find? fun entry => entry.1 = key).map Prod.snd

instance : Membership κ (OrderedMap κ α) := ⟨fun map key => key ∈ map.keys⟩

instance (map : OrderedMap κ α) (key : κ) : Decidable (key ∈ map) :=
  inferInstanceAs (Decidable (key ∈ map.keys))

theorem mem_def (map : OrderedMap κ α) (key : κ) :
    key ∈ map ↔ key ∈ map.keys := Iff.rfl

theorem keys_nodup (map : OrderedMap κ α) : map.keys.Nodup :=
  map.ascending.imp fun below => ne_of_lt below

@[simp] theorem not_mem_empty (key : κ) : key ∉ (empty : OrderedMap κ α) := by
  simp [mem_def, empty, keys]

@[simp] theorem mem_insert
    (map : OrderedMap κ α) (key : κ) (value : α) (query : κ) :
    query ∈ map.insert key value ↔ query = key ∨ query ∈ map :=
  mem_keys_insertEntry key value map.entries query

@[simp] theorem mem_erase
    (map : OrderedMap κ α) (key query : κ) :
    query ∈ map.erase key ↔ query ∈ map ∧ query ≠ key := by
  simp only [mem_def, keys, erase, List.mem_map, List.mem_filter,
    decide_eq_true_eq]
  constructor
  · rintro ⟨entry, ⟨present, different⟩, rfl⟩
    exact ⟨⟨entry, present, rfl⟩, different⟩
  · rintro ⟨⟨entry, present, rfl⟩, different⟩
    exact ⟨entry, ⟨present, different⟩, rfl⟩

@[simp] theorem mem_modify
    (map : OrderedMap κ α) (key : κ) (change : α → α) (query : κ) :
    query ∈ map.modify key change ↔ query ∈ map := by
  simp only [mem_def, keys, modify, List.map_map]
  have sameKeys : (Prod.fst ∘ fun entry : κ × α =>
      if entry.1 = key then (entry.1, change entry.2) else entry) =
        Prod.fst := by
    funext entry
    simp only [Function.comp_apply]
    split_ifs <;> rfl
  rw [sameKeys]

/-- A key is present exactly when looking it up succeeds. -/
theorem find?_isSome_iff (map : OrderedMap κ α) (key : κ) :
    (map.find? key).isSome ↔ key ∈ map := by
  simp only [find?, Option.isSome_map, List.find?_isSome, mem_def, keys,
    List.mem_map, decide_eq_true_eq]

theorem find?_eq_none_iff (map : OrderedMap κ α) (key : κ) :
    map.find? key = none ↔ key ∉ map := by
  rw [← find?_isSome_iff, Option.not_isSome_iff_eq_none]

theorem mem_of_find?_eq_some
    {map : OrderedMap κ α} {key : κ} {value : α}
    (found : map.find? key = some value) : key ∈ map := by
  rw [← find?_isSome_iff, found]
  rfl

/-! ## Looking up after an update -/

@[simp] theorem find?_empty (key : κ) :
    (empty : OrderedMap κ α).find? key = none := rfl

theorem find?_insertEntry
    (key : κ) (value : α) (entries : List (κ × α)) (query : κ) :
    ((insertEntry key value entries).find? fun entry => entry.1 = query) =
      if query = key then some (key, value)
      else entries.find? fun entry => entry.1 = query := by
  induction entries with
  | nil =>
      unfold insertEntry
      by_cases same : query = key
      · simp [same]
      · simp [same, Ne.symm same]
  | cons entry rest ih =>
      obtain ⟨other, stored⟩ := entry
      unfold insertEntry
      by_cases before : key < other
      · rw [if_pos before]
        by_cases same : query = key
        · simp [same]
        · simp [same, Ne.symm same]
      · rw [if_neg before]
        by_cases equal : key = other
        · rw [if_pos equal]
          subst equal
          by_cases same : query = key
          · simp [same]
          · simp [same, Ne.symm same]
        · rw [if_neg equal]
          by_cases here : other = query
          · subst here
            rw [if_neg (Ne.symm equal)]
            simp
          · rw [List.find?_cons_of_neg (by simpa using here), ih,
              List.find?_cons_of_neg (by simpa using here)]

theorem find?_insert
    (map : OrderedMap κ α) (key : κ) (value : α) (query : κ) :
    (map.insert key value).find? query =
      if query = key then some value else map.find? query := by
  unfold find? insert
  rw [find?_insertEntry]
  split_ifs <;> rfl

@[simp] theorem find?_insert_self
    (map : OrderedMap κ α) (key : κ) (value : α) :
    (map.insert key value).find? key = some value := by
  rw [find?_insert, if_pos rfl]

/-- Keep the entries that satisfy a predicate. -/
def filter (keep : κ → α → Bool) (map : OrderedMap κ α) : OrderedMap κ α :=
  ⟨map.entries.filter fun entry => keep entry.1 entry.2,
    map.ascending.sublist (List.filter_sublist.map Prod.fst)⟩

/-- Rewrite every value. -/
def mapValues (change : κ → α → α) (map : OrderedMap κ α) : OrderedMap κ α :=
  ⟨map.entries.map fun entry => (entry.1, change entry.1 entry.2), by
    rw [List.map_map]
    exact map.ascending⟩

/-- Number of entries. -/
def size (map : OrderedMap κ α) : Nat := map.entries.length

theorem find?_filter
    (keep : κ → α → Bool) (map : OrderedMap κ α) (query : κ) :
    (map.filter keep).find? query =
      (map.find? query).filter (keep query) := by
  obtain ⟨entries, ascending⟩ := map
  unfold find? filter
  simp only
  induction entries with
  | nil => rfl
  | cons entry rest ih =>
      obtain ⟨other, stored⟩ := entry
      simp only [List.map_cons, List.pairwise_cons] at ascending
      obtain ⟨headBelow, tailAscending⟩ := ascending
      have rest? := ih tailAscending
      by_cases here : other = query
      · subst here
        have gone : (rest.find? fun entry => entry.1 = other) = none := by
          rw [List.find?_eq_none]
          intro entry present
          have below := headBelow entry.1 (List.mem_map_of_mem present)
          simpa using ne_of_gt below
        rw [gone] at rest?
        by_cases kept : keep other stored = true
        · rw [List.filter_cons_of_pos (by simpa using kept)]
          simp [Option.filter, kept]
        · rw [List.filter_cons_of_neg (by simpa using kept), rest?]
          simp [Option.filter, kept]
      · rw [List.find?_cons_of_neg (by simpa using here), ← rest?]
        by_cases kept : keep other stored = true
        · rw [List.filter_cons_of_pos (by simpa using kept),
            List.find?_cons_of_neg (by simpa using here)]
        · rw [List.filter_cons_of_neg (by simpa using kept)]

theorem find?_mapValues
    (change : κ → α → α) (map : OrderedMap κ α) (query : κ) :
    (map.mapValues change).find? query =
      (map.find? query).map (change query) := by
  obtain ⟨entries, ascending⟩ := map
  unfold find? mapValues
  simp only
  clear ascending
  induction entries with
  | nil => rfl
  | cons entry rest ih =>
      obtain ⟨other, stored⟩ := entry
      by_cases here : other = query
      · subst here
        simp
      · simpa [here] using ih

theorem find?_erase
    (map : OrderedMap κ α) (key query : κ) :
    (map.erase key).find? query =
      if query = key then none else map.find? query := by
  have asFilter : map.erase key =
      map.filter fun other _ => decide (other ≠ key) := rfl
  rw [asFilter, find?_filter]
  by_cases same : query = key
  · cases map.find? query <;> simp [same]
  · cases map.find? query <;> simp [same]

theorem find?_modify
    (map : OrderedMap κ α) (key : κ) (change : α → α) (query : κ) :
    (map.modify key change).find? query =
      if query = key then (map.find? query).map change
      else map.find? query := by
  have asMap : map.modify key change =
      map.mapValues fun other value =>
        if other = key then change value else value := by
    apply ext
    simp only [modify, mapValues]
    refine List.map_congr_left fun entry _ => ?_
    split_ifs <;> rfl
  rw [asMap, find?_mapValues]
  by_cases same : query = key
  · simp [same]
  · cases map.find? query <;> simp [same]

/-! ## Entries -/

/-- What looking up a key finds is the entry under that key. -/
theorem find?_eq_some_iff
    {map : OrderedMap κ α} {key : κ} {value : α} :
    map.find? key = some value ↔ (key, value) ∈ map.entries := by
  obtain ⟨entries, ascending⟩ := map
  unfold find?
  simp only
  induction entries with
  | nil => simp
  | cons entry rest ih =>
      obtain ⟨other, stored⟩ := entry
      simp only [List.map_cons, List.pairwise_cons] at ascending
      obtain ⟨headBelow, tailAscending⟩ := ascending
      by_cases here : other = key
      · subst here
        have gone : (other, value) ∉ rest := by
          intro present
          exact absurd (headBelow other (List.mem_map_of_mem present))
            (lt_irrefl other)
        simp [gone, eq_comm]
      · have step := ih tailAscending
        rw [List.find?_cons_of_neg (by simpa using here), step]
        simp [Ne.symm here]

/-- Rewriting depends only on what is done to the value that is there. -/
theorem modify_congr
    {map : OrderedMap κ α} {key : κ} {value : α} {first second : α → α}
    (found : map.find? key = some value)
    (same : first value = second value) :
    map.modify key first = map.modify key second := by
  apply ext
  refine List.map_congr_left fun entry present => ?_
  split
  · rename_i here
    have stored : map.find? entry.1 = some entry.2 :=
      find?_eq_some_iff.mpr present
    rw [here, found] at stored
    rw [← Option.some.inj stored, same]
  · rfl

/-- Rewriting a value twice. -/
theorem modify_modify
    (map : OrderedMap κ α) (key : κ) (first second : α → α) :
    (map.modify key first).modify key second =
      map.modify key fun value => second (first value) := by
  apply ext
  simp only [modify, List.map_map]
  refine List.map_congr_left fun entry _ => ?_
  simp only [Function.comp_apply]
  split_ifs with here
  · rfl
  · rfl

/-! ## Maps related value by value -/

/-- Two maps with the same keys and related values. -/
def Related (relation : α → α → Prop) (before after : OrderedMap κ α) : Prop :=
  ∀ key, Option.Rel relation (before.find? key) (after.find? key)

theorem Related.refl
    {relation : α → α → Prop} (reflexive : ∀ value, relation value value)
    (map : OrderedMap κ α) : map.Related relation map := by
  intro key
  cases map.find? key with
  | none => exact .none
  | some value => exact .some (reflexive value)

theorem Related.symm
    {relation reverse : α → α → Prop} {before after : OrderedMap κ α}
    (reversed : ∀ one two, relation one two → reverse two one)
    (related : before.Related relation after) :
    after.Related reverse before := by
  intro key
  have here := related key
  generalize before.find? key = one at *
  generalize after.find? key = two at *
  cases here with
  | none => exact .none
  | some holds => exact .some (reversed _ _ holds)

theorem Related.trans
    {relation : α → α → Prop} {first second third : OrderedMap κ α}
    (transitive : ∀ one two three,
      relation one two → relation two three → relation one three)
    (before : first.Related relation second)
    (after : second.Related relation third) : first.Related relation third := by
  intro key
  have earlier := before key
  have later := after key
  generalize first.find? key = one at *
  generalize second.find? key = two at *
  generalize third.find? key = three at *
  cases earlier with
  | none =>
      cases later
      exact .none
  | some related =>
      cases later with
      | some relatedNext => exact .some (transitive _ _ _ related relatedNext)

theorem Related.weaken
    {strong weak : α → α → Prop} {before after : OrderedMap κ α}
    (related : before.Related strong after)
    (implies : ∀ one two, strong one two → weak one two) :
    before.Related weak after := by
  intro key
  have here := related key
  generalize before.find? key = one at *
  generalize after.find? key = two at *
  cases here with
  | none => exact .none
  | some holds => exact .some (implies _ _ holds)

theorem Related.exists_before
    {relation : α → α → Prop} {before after : OrderedMap κ α}
    (related : before.Related relation after)
    {key : κ} {value : α} (found : after.find? key = some value) :
    ∃ old, before.find? key = some old ∧ relation old value := by
  have here := related key
  rw [found] at here
  generalize before.find? key = one at *
  cases here with
  | some holds => exact ⟨_, rfl, holds⟩

theorem Related.exists_after
    {relation : α → α → Prop} {before after : OrderedMap κ α}
    (related : before.Related relation after)
    {key : κ} {value : α} (found : before.find? key = some value) :
    ∃ new, after.find? key = some new ∧ relation value new := by
  have here := related key
  rw [found] at here
  generalize after.find? key = two at *
  cases here with
  | some holds => exact ⟨_, rfl, holds⟩

/-- Rewriting one value relates the maps if it relates the values. -/
theorem related_modify
    {relation : α → α → Prop} (reflexive : ∀ value, relation value value)
    (map : OrderedMap κ α) (key : κ) (change : α → α)
    (changes : ∀ value, map.find? key = some value →
      relation value (change value)) :
    map.Related relation (map.modify key change) := by
  intro query
  rw [find?_modify]
  split
  · rename_i same
    subst same
    cases found : map.find? query with
    | none => exact .none
    | some value => exact .some (changes value found)
  · exact Related.refl reflexive map query

/-- Rewriting every value relates the maps if it relates the values. -/
theorem related_mapValues
    {relation : α → α → Prop} (map : OrderedMap κ α) (change : κ → α → α)
    (changes : ∀ key value, relation value (change key value)) :
    map.Related relation (map.mapValues change) := by
  intro query
  rw [find?_mapValues]
  cases map.find? query with
  | none => exact .none
  | some value => exact .some (changes query value)

/-! ## Totals over a map -/

/-- The sum of a measure over all entries. -/
def total (measure : κ → α → Nat) (map : OrderedMap κ α) : Nat :=
  (map.entries.map fun entry => measure entry.1 entry.2).sum

section

variable (measure : κ → α → Nat)

theorem total_insert_of_not_mem (map : OrderedMap κ α) (key : κ) (value : α)
    (fresh : key ∉ map) :
    (map.insert key value).total measure =
      measure key value + map.total measure := by
  obtain ⟨entries, ascending⟩ := map
  simp only [mem_def, keys] at fresh
  unfold total insert
  simp only
  clear ascending
  induction entries with
  | nil => simp [insertEntry]
  | cons entry rest ih =>
      obtain ⟨other, stored⟩ := entry
      simp only [List.map_cons, List.mem_cons, not_or] at fresh
      have step := ih fresh.2
      unfold insertEntry
      split_ifs with before same
      · simp
      · exact absurd same fresh.1
      · simp only [List.map_cons, List.sum_cons, step]
        omega

theorem total_erase (map : OrderedMap κ α) (key : κ) (value : α)
    (found : map.find? key = some value) :
    map.total measure =
      measure key value + (map.erase key).total measure := by
  obtain ⟨entries, ascending⟩ := map
  unfold find? at found
  unfold total erase
  simp only at found ⊢
  induction entries with
  | nil => simp at found
  | cons entry rest ih =>
      obtain ⟨other, stored⟩ := entry
      simp only [List.map_cons, List.pairwise_cons] at ascending
      obtain ⟨headBelow, tailAscending⟩ := ascending
      by_cases here : other = key
      · subst here
        have keepsAll : (rest.filter fun entry => entry.1 ≠ other) = rest := by
          rw [List.filter_eq_self]
          intro entry present
          have below := headBelow entry.1 (List.mem_map_of_mem present)
          simpa using ne_of_gt below
        simp only [decide_true, List.find?_cons_of_pos, Option.map_some,
          Option.some.injEq] at found
        subst found
        simp only [List.filter_cons, ne_eq, not_true_eq_false, decide_false,
          Bool.false_eq_true, if_false, List.map_cons, List.sum_cons]
        rw [keepsAll]
      · have found' : (rest.find? fun entry => entry.1 = key).map Prod.snd =
            some value := by
          simpa [here] using found
        have step := ih tailAscending found'
        simp only [List.filter_cons, ne_eq, here, not_false_eq_true,
          decide_true, if_true, List.map_cons, List.sum_cons]
        simp only [ne_eq] at step
        omega

/-- What is erased may have been changed before. -/
theorem erase_modify
    (map : OrderedMap κ α)
    (key : κ)
    (change : α → α) : (map.modify key change).erase key = map.erase key := by
  apply ext
  unfold erase modify
  dsimp only
  rw [List.filter_map]
  have same : (map.entries.filter ((fun entry => decide (entry.1 ≠ key)) ∘
      fun entry => if entry.1 = key then (entry.1, change entry.2)
        else entry)) = map.entries.filter fun entry => entry.1 ≠ key := by
    apply List.filter_congr
    intro entry _
    dsimp only [Function.comp]
    split <;> rfl
  rw [same]
  refine (List.map_congr_left fun entry kept => ?_).trans (List.map_id _)
  exact if_neg (of_decide_eq_true (List.mem_filter.mp kept).2)

theorem total_modify {map : OrderedMap κ α} {key : κ} {value : α}
    (found : map.find? key = some value) (change : α → α) :
    (map.modify key change).total measure + measure key value =
      map.total measure + measure key (change value) := by
  have changed : (map.modify key change).find? key = some (change value) := by
    rw [find?_modify, if_pos rfl, found]
    rfl
  rw [total_erase measure _ key _ changed, erase_modify,
    total_erase measure map key value found]
  omega

/-! ## Sizes -/

theorem size_eq_keys_length (map : OrderedMap κ α) :
    map.size = map.keys.length := by
  simp [size, keys]

/-- A map whose keys another map has is not larger. -/
theorem size_le_of_subset
    {β : Type*} {small : OrderedMap κ α} {large : OrderedMap κ β}
    (subset : ∀ key, key ∈ small → key ∈ large) : small.size ≤ large.size := by
  rw [size_eq_keys_length, size_eq_keys_length]
  exact (List.subperm_of_subset small.keys_nodup fun key present =>
    subset key present).length_le

theorem size_filter_le (keep : κ → α → Bool) (map : OrderedMap κ α) :
    (map.filter keep).size ≤ map.size :=
  List.length_filter_le _ _

theorem size_erase_le (map : OrderedMap κ α) (key : κ) :
    (map.erase key).size ≤ map.size :=
  List.length_filter_le _ _

@[simp] theorem size_modify
    (map : OrderedMap κ α) (key : κ) (change : α → α) :
    (map.modify key change).size = map.size := by
  simp [size, modify]

theorem length_insertEntry_le
    (key : κ) (value : α) (entries : List (κ × α)) :
    (insertEntry key value entries).length ≤ entries.length + 1 := by
  induction entries with
  | nil => simp [insertEntry]
  | cons entry rest ih =>
      unfold insertEntry
      split_ifs
      · simp
      · simp
      · simpa using ih

theorem size_insert_le (map : OrderedMap κ α) (key : κ) (value : α) :
    (map.insert key value).size ≤ map.size + 1 :=
  length_insertEntry_le key value map.entries

/-- Replacing a value keeps the size. -/
theorem size_insert_of_mem
    {map : OrderedMap κ α} {key : κ} (present : key ∈ map) (value : α) :
    (map.insert key value).size ≤ map.size := by
  apply size_le_of_subset
  intro query inserted
  rcases (mem_insert map key value query).mp inserted with rfl | there
  · exact present
  · exact there

theorem size_insert_of_not_mem
    {map : OrderedMap κ α} {key : κ} (fresh : key ∉ map) (value : α) :
    (map.insert key value).size = map.size + 1 := by
  apply le_antisymm (size_insert_le map key value)
  have distinct : (key :: map.keys).Nodup :=
    List.nodup_cons.mpr ⟨fresh, map.keys_nodup⟩
  have contained : key :: map.keys ⊆ (map.insert key value).keys := by
    intro query present
    rcases List.mem_cons.mp present with rfl | there
    · exact (mem_insert map query value query).mpr (.inl rfl)
    · exact (mem_insert map key value query).mpr (.inr there)
  rw [size_eq_keys_length, size_eq_keys_length]
  exact (List.subperm_of_subset distinct contained).length_le

theorem Related.mem_iff
    {relation : α → α → Prop} {before after : OrderedMap κ α}
    (related : before.Related relation after) (key : κ) :
    key ∈ after ↔ key ∈ before := by
  have here := related key
  rw [← find?_isSome_iff, ← find?_isSome_iff]
  generalize before.find? key = one at *
  generalize after.find? key = two at *
  cases here <;> simp

theorem Related.size_eq
    {relation : α → α → Prop} {before after : OrderedMap κ α}
    (related : before.Related relation after) : after.size = before.size := by
  apply le_antisymm
  · exact size_le_of_subset fun key => (related.mem_iff key).mp
  · exact size_le_of_subset fun key => (related.mem_iff key).mpr

/-- Maps with the same keys list them in the same order. -/
theorem keys_eq_of_mem_iff
    {β : Type*} {first : OrderedMap κ α} {second : OrderedMap κ β}
    (same : ∀ key, key ∈ first ↔ key ∈ second) : first.keys = second.keys :=
  first.ascending.eq_of_mem_iff second.ascending fun {key} => same key

/-- A total is a sum over the keys. -/
theorem total_eq_sum_keys (map : OrderedMap κ α) :
    map.total measure =
      (map.keys.map fun key =>
        ((map.find? key).map (measure key)).getD 0).sum := by
  unfold total keys
  rw [List.map_map]
  congr 1
  apply List.map_congr_left
  intro entry present
  have found : map.find? entry.1 = some entry.2 :=
    find?_eq_some_iff.mpr present
  simp [found]

end

/-- Related maps whose values measure the same have the same total. -/
theorem Related.total_eq
    {relation : α → α → Prop} {before after : OrderedMap κ α}
    (related : before.Related relation after)
    {measure : κ → α → Nat}
    (same : ∀ key one two, relation one two →
      measure key two = measure key one) :
    after.total measure = before.total measure := by
  rw [total_eq_sum_keys, total_eq_sum_keys,
    keys_eq_of_mem_iff fun key => related.mem_iff key]
  congr 1
  apply List.map_congr_left
  intro key _
  have here := related key
  generalize before.find? key = one at *
  generalize after.find? key = two at *
  cases here with
  | none => rfl
  | some holds => simp [same _ _ _ holds]

/-! ## Entering several entries -/

/-- Enter entries from left to right. -/
def insertAll
    (map : OrderedMap κ α)
    (entries : List (κ × α)) : OrderedMap κ α :=
  entries.foldl (fun entered entry => entered.insert entry.1 entry.2) map

@[simp] theorem insertAll_cons
    (map : OrderedMap κ α)
    (entry : κ × α)
    (entries : List (κ × α)) :
    map.insertAll (entry :: entries) =
      (map.insert entry.1 entry.2).insertAll entries := rfl

theorem insertAll_append
    (map : OrderedMap κ α)
    (first second : List (κ × α)) :
    map.insertAll (first ++ second) =
      (map.insertAll first).insertAll second := by
  unfold insertAll
  rw [List.foldl_append]

variable {entries : List (κ × α)} {key : κ} {value : α}

/-- What is found was entered, or was there before. -/
theorem mem_or_of_find?_insertAll
    {map : OrderedMap κ α}
    (found : (map.insertAll entries).find? key = some value) :
    (key, value) ∈ entries ∨ map.find? key = some value := by
  induction entries generalizing map with
  | nil => exact .inr found
  | cons entry rest ih =>
      rcases ih found with later | earlier
      · exact .inl (List.mem_cons_of_mem _ later)
      · rw [find?_insert] at earlier
        split_ifs at earlier with same
        · left
          rw [Option.some.injEq] at earlier
          rw [same, ← earlier]
          exact List.mem_cons_self ..
        · exact .inr earlier

/-- A key that is not entered keeps what it had. -/
theorem find?_insertAll_of_not_mem
    {map : OrderedMap κ α}
    (absent : key ∉ entries.map Prod.fst) :
    (map.insertAll entries).find? key = map.find? key := by
  induction entries generalizing map with
  | nil => rfl
  | cons entry rest ih =>
      rw [List.map_cons, List.mem_cons, not_or] at absent
      rw [insertAll_cons, ih absent.2, find?_insert, if_neg absent.1]

/-- Under distinct keys every entered entry is found. -/
theorem find?_insertAll_of_mem
    {map : OrderedMap κ α}
    (distinct : (entries.map Prod.fst).Nodup)
    (listed : (key, value) ∈ entries) :
    (map.insertAll entries).find? key = some value := by
  induction entries generalizing map with
  | nil => cases listed
  | cons entry rest ih =>
      obtain ⟨absent, distinctRest⟩ := List.nodup_cons.mp distinct
      rcases List.mem_cons.mp listed with same | later
      · subst same
        rw [insertAll_cons, find?_insertAll_of_not_mem absent, find?_insert_self]
      · exact ih distinctRest later

/-! ## Updates that change nothing -/

theorem find?_insert_same_iff
    (map : OrderedMap κ α)
    (key : κ)
    (value : α) :
    (∀ query, (map.insert key value).find? query = map.find? query) ↔
      map.find? key = some value := by
  constructor
  · intro same
    rw [← same key, find?_insert_self]
  · intro stored query
    rw [find?_insert]
    split
    · rename_i here
      rw [here, stored]
    · rfl

theorem find?_erase_same_iff
    (map : OrderedMap κ α)
    (key : κ) :
    (∀ query, (map.erase key).find? query = map.find? query) ↔
      map.find? key = none := by
  constructor
  · intro same
    rw [← same key, find?_erase, if_pos rfl]
  · intro missing query
    rw [find?_erase]
    split
    · rename_i here
      rw [here, missing]
    · rfl

theorem find?_modify_same_iff
    (map : OrderedMap κ α)
    (key : κ)
    (change : α → α) :
    (∀ query, (map.modify key change).find? query = map.find? query) ↔
      ∀ value ∈ map.find? key, change value = value := by
  constructor
  · intro same value stored
    have changed := same key
    rw [find?_modify, if_pos rfl, stored] at changed
    exact Option.some.inj changed
  · intro unchanged query
    rw [find?_modify]
    split
    · rename_i here
      rw [here]
      cases stored : map.find? key with
      | none => rfl
      | some value => rw [Option.map_some, unchanged value stored]
    · rfl

/-! ## What holds of every value -/

/-- Every stored value has a property. -/
def Every (property : α → Prop) (map : OrderedMap κ α) : Prop :=
  ∀ key, ∀ value ∈ map.find? key, property value

namespace Every

variable {property : α → Prop} {map : OrderedMap κ α}

theorem empty : (OrderedMap.empty : OrderedMap κ α).Every property := by
  intro key value found
  cases found

theorem insert
    (every : map.Every property)
    (key : κ)
    (holds : property value) : (map.insert key value).Every property := by
  intro query found stored
  rw [find?_insert] at stored
  split at stored
  · cases stored
    exact holds
  · exact every query found stored

theorem erase
    (every : map.Every property)
    (key : κ) : (map.erase key).Every property := by
  intro query found stored
  rw [find?_erase] at stored
  split at stored
  · cases stored
  · exact every query found stored

theorem modify
    (every : map.Every property)
    {change : α → α}
    (holds : ∀ value ∈ map.find? key, property value →
      property (change value)) :
    (map.modify key change).Every property := by
  intro query found stored
  rw [find?_modify] at stored
  split at stored
  · rename_i same
    obtain ⟨value, before, rfl⟩ := Option.map_eq_some_iff.mp stored
    rw [same] at before
    exact holds value before (every key value before)
  · exact every query found stored

end Every

end OrderedMap

end Library
end Vvmux
