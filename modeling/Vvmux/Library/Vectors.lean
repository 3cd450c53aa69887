import Mathlib.Data.List.InsertIdx
import Mathlib.Logic.Function.Iterate

/-!
# Vectors whose accesses can abort

Reading, writing, removing and inserting at an index, and filling a range, as
a program does them that aborts on an index out of range: `none` is the
abort.  Loops run their body until it aborts.  Under an invariant that keeps
the indices in range, a loop computes what its body computes without checks.
-/

namespace Vvmux
namespace Library
namespace Vectors

variable {Item State : Type*}

section

variable (items : List Item) (index : Nat)

/-- Write one entry. -/
def assign?
    (item : Item) : Option (List Item) :=
  if index < items.length then some (items.set index item) else none

/-- Change one entry in place. -/
def update?
    (change : Item → Option Item) :
    Option (List Item) := do
  let item ← items[index]?
  let changed ← change item
  assign? items index changed

/-- Remove one entry and return it. -/
def remove? :
    Option (Item × List Item) := do
  let item ← items[index]?
  some (item, items.eraseIdx index)

/-- Insert an entry in front of an index, or at the end. -/
def insert?
    (item : Item) : Option (List Item) :=
  if index ≤ items.length then some (items.insertIdx index item) else none

end

/-- Write all entries of a range. -/
def fill?
    (items : List Item)
    (start stop : Nat)
    (item : Item) : Option (List Item) :=
  if start ≤ stop ∧ stop ≤ items.length then
    some (items.take start ++ List.replicate (stop - start) item ++
      items.drop stop)
  else
    none

/-- Run a body for each index in turn. -/
def each?
    (indices : List Nat)
    (body : State → Nat → Option State)
    (state : State) : Option State :=
  indices.foldlM body state

/-- Run a body a number of times. -/
def repeat?
    (body : State → Option State) :
    Nat → State → Option State
  | 0, state => some state
  | turns + 1, state => do
      let next ← body state
      repeat? body turns next

/-! ## Accesses in range -/

variable {items : List Item} {index : Nat}

theorem assign?_of_lt
    (inside : index < items.length)
    (item : Item) : assign? items index item = some (items.set index item) :=
  if_pos inside

theorem update?_of_getElem?
    {item changed : Item}
    (known : items[index]? = some item)
    {change : Item → Option Item}
    (changes : change item = some changed) :
    update? items index change = some (items.set index changed) := by
  have inside : index < items.length := (List.getElem?_eq_some_iff.1 known).1
  rw [update?, known]
  simp only [Option.bind_eq_bind, Option.bind_some, changes]
  exact assign?_of_lt inside changed

theorem modify_eq_set
    {item : Item}
    (known : items[index]? = some item)
    (change : Item → Item) :
    items.modify index change = items.set index (change item) := by
  apply List.ext_getElem?
  intro position
  rw [List.getElem?_modify, List.getElem?_set]
  obtain ⟨inside, equal⟩ := List.getElem?_eq_some_iff.1 known
  by_cases same : index = position
  · subst same
    simp [inside, equal]
  · simp [same]

/-- An update that does not abort is the plain change of the entry. -/
theorem update?_eq_modify
    {items : List Item}
    {index : Nat}
    (inside : index < items.length)
    {change : Item → Option Item}
    {plain : Item → Item}
    (changes : ∀ item, items[index]? = some item →
      change item = some (plain item)) :
    update? items index change = some (items.modify index plain) := by
  have known : items[index]? = some items[index] :=
    List.getElem?_eq_getElem inside
  rw [update?_of_getElem? known (changes _ known), modify_eq_set known]

theorem remove?_of_lt
    {items : List Item}
    {index : Nat}
    (inside : index < items.length)
    (default : Item) :
    remove? items index =
      some (items.getD index default, items.eraseIdx index) := by
  simp [remove?, List.getElem?_eq_getElem inside]

theorem insert?_of_le
    (inside : index ≤ items.length)
    (item : Item) :
    insert? items index item = some (items.insertIdx index item) :=
  if_pos inside

theorem fill?_of_le
    {start stop : Nat}
    (ordered : start ≤ stop)
    (inside : stop ≤ items.length)
    (item : Item) :
    fill? items start stop item =
      some (items.take start ++ List.replicate (stop - start) item ++
        items.drop stop) :=
  if_pos ⟨ordered, inside⟩

/-! ## Loops -/

/-- A loop whose invariant keeps its body from aborting. -/
theorem each?_eq_foldl
    {indices : List Nat}
    {body : State → Nat → Option State}
    {plain : State → Nat → State}
    (invariant : State → Prop)
    (runs : ∀ state index, invariant state → index ∈ indices →
      body state index = some (plain state index) ∧
        invariant (plain state index))
    {state : State}
    (holds : invariant state) :
    each? indices body state = some (indices.foldl plain state) ∧
      invariant (indices.foldl plain state) := by
  induction indices generalizing state with
  | nil => exact ⟨rfl, holds⟩
  | cons index rest ih =>
      obtain ⟨once, kept⟩ := runs state index holds (by simp)
      have others := ih
        (fun other position held member =>
          runs other position held (List.mem_cons_of_mem _ member)) kept
      unfold each? at others ⊢
      rw [List.foldlM_cons, once]
      exact others

theorem repeat?_eq_iterate
    {body : State → Option State}
    {plain : State → State}
    (invariant : State → Prop)
    (runs : ∀ state, invariant state →
      body state = some (plain state) ∧ invariant (plain state))
    (turns : Nat)
    {state : State}
    (holds : invariant state) :
    repeat? body turns state = some (plain^[turns] state) := by
  induction turns generalizing state with
  | zero => rfl
  | succ turns ih =>
      obtain ⟨once, kept⟩ := runs state holds
      rw [repeat?, once, Function.iterate_succ_apply]
      exact ih kept

/-- A loop that only changes one entry changes it once by a loop of its
own. -/
theorem each?_update?
    {items : List Item}
    {row : Nat}
    (inside : row < items.length)
    {indices : List Nat}
    {body : Item → Nat → Option Item}
    {plain : Item → Item}
    (runs : ∀ item, items[row]? = some item →
      each? indices body item = some (plain item)) :
    each? indices
        (fun state index => update? state row fun item => body item index)
        items =
      some (items.modify row plain) := by
  have known : items[row]? = some items[row] := List.getElem?_eq_getElem inside
  have whole : ∀ (item : Item) (state : List Item),
      state[row]? = some item → ∀ result,
      each? indices body item = some result →
      each? indices
          (fun state index => update? state row fun item => body item index)
          state = some (state.set row result) := by
    clear runs
    induction indices with
    | nil =>
        intro item state here result same
        obtain rfl := Option.some.inj same
        obtain ⟨long, equal⟩ := List.getElem?_eq_some_iff.1 here
        rw [← equal, List.set_getElem_self]
        rfl
    | cons index rest ih =>
        intro item state here result same
        unfold each? at same ih ⊢
        rw [List.foldlM_cons] at same ⊢
        cases once : body item index with
        | none =>
            rw [once] at same
            cases same
        | some next =>
            rw [once] at same
            have long : row < state.length :=
              (List.getElem?_eq_some_iff.1 here).1
            rw [update?_of_getElem? here once]
            have others := ih next (state.set row next)
              (List.getElem?_set_self long) result same
            rw [List.set_set] at others
            exact others
  rw [whole _ items known _ (runs _ known), modify_eq_set known]

/-- A loop that rewrites each entry from itself maps the entries. -/
theorem each?_rewrite
    {body : List Item → Nat → Option (List Item)}
    {plain : Nat → Item → Item}
    (runs : ∀ state index item, state[index]? = some item →
      body state index = some (state.set index (plain index item)))
    (count : Nat)
    (inside : count ≤ items.length) :
    each? (List.range count) body items =
      some (items.mapIdx fun index item =>
        if index < count then plain index item else item) := by
  induction count with
  | zero =>
      have same : (items.mapIdx fun index item =>
          if index < 0 then plain index item else item) = items := by
        apply List.ext_getElem?
        intro index
        rw [List.getElem?_mapIdx]
        simp
      rw [same]
      rfl
  | succ count ih =>
      have here : (items.mapIdx fun index item =>
          if index < count then plain index item else item)[count]? =
            some items[count] := by
        rw [List.getElem?_mapIdx, List.getElem?_eq_getElem (by omega)]
        simp
      have earlier := ih (by omega)
      unfold each? at earlier ⊢
      rw [List.range_succ, List.foldlM_append, earlier]
      simp only [Option.bind_eq_bind, Option.bind_some, List.foldlM_cons,
        List.foldlM_nil]
      rw [runs _ _ _ here]
      simp only [Option.bind_some, Option.pure_def, Option.some.injEq]
      apply List.ext_getElem?
      intro index
      rw [List.getElem?_set, List.getElem?_mapIdx, List.getElem?_mapIdx,
        List.length_mapIdx]
      by_cases isLast : count = index
      · subst isLast
        rw [if_pos rfl, if_pos (by omega),
          List.getElem?_eq_getElem (show count < items.length by omega)]
        simp
      · rw [if_neg isLast]
        congr 1
        funext item
        have sameBranch : index < count ↔ index < count + 1 := by omega
        simp only [sameBranch]

end Vectors
end Library
end Vvmux
