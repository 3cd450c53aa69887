import Mathlib.Data.Finset.Card
import Mathlib.Data.List.Range
import Mathlib.Data.List.ReduceOption

/-!
# Handing out numbers

Numbers below a limit are handed out one after the other.  Some who ask have a
number that they want to keep; the others get the lowest that is free at their
turn.  All succeeds exactly if no one else has come to need a kept number
before its owner asks.
-/

namespace Vvmux
namespace Library

/-- The lowest number below a limit that is not used. -/
def lowestFree (limit : Nat) (used : Finset Nat) : Option Nat :=
  (List.range limit).find? fun id => decide (id ∉ used)

variable {limit id : Nat} {used : Finset Nat} {wants : List (Option Nat)}

theorem lowestFree_eq_some_iff
    {used : Finset Nat} :
    lowestFree limit used = some id ↔
      id ∉ used ∧ id < limit ∧ ∀ lower < id, lower ∈ used := by
  unfold lowestFree
  rw [List.find?_range_eq_some]
  simp

/-- Fewer used numbers than the limit leave one free. -/
theorem exists_lowestFree
    {limit : Nat}
    {used : Finset Nat}
    (few : used.card < limit) : ∃ id, lowestFree limit used = some id := by
  rw [← Option.isSome_iff_exists, lowestFree, List.find?_isSome]
  by_contra none
  have all : Finset.range limit ⊆ used := by
    intro id inside
    by_contra free
    exact none ⟨id, List.mem_range.mpr (Finset.mem_range.mp inside),
      decide_eq_true free⟩
  have many := Finset.card_le_card all
  rw [Finset.card_range] at many
  omega

/-- The number of one who asks. -/
def handOutOne
    (limit : Nat)
    (used : Finset Nat) :
    Option Nat → Option Nat
  | some id => if id ∈ used then none else some id
  | none => lowestFree limit used

theorem eq_of_handOutOne
    {limit kept first : Nat}
    (one : handOutOne limit used (some kept) = some first) :
    kept = first ∧ kept ∉ used := by
  simp only [handOutOne] at one
  split at one
  · cases one
  · rename_i free
    cases one
    exact ⟨rfl, free⟩

/-- The numbers of all who ask, those who have none yet asking for `none`. -/
def handOut
    (limit : Nat) :
    Finset Nat → List (Option Nat) → Option (List Nat)
  | _, [] => some []
  | used, want :: rest =>
      (handOutOne limit used want).bind fun id =>
        (handOut limit (insert id used) rest).map (id :: ·)

/-- How many used numbers are below another. -/
def countBelow (used : Finset Nat) (id : Nat) : Nat :=
  (used.filter fun other => other < id).card

/-- Whether one who asks gets a number below another, as long as there is
one. -/
def takesBelow
    (id : Nat) :
    Option Nat → Bool
  | some other => decide (other < id)
  | none => true

/-- Every kept number is still free when its owner asks: those before that
have a lower one or none leave it alone. -/
def Roomy (used : Finset Nat) (wants : List (Option Nat)) : Prop :=
  ∀ before id after, wants = before ++ some id :: after →
    countBelow used id + before.countP (takesBelow id) ≤ id

theorem countBelow_le
    (used : Finset Nat)
    (id : Nat) : countBelow used id ≤ id := by
  have within : (used.filter fun other => other < id) ⊆ Finset.range id :=
    fun other listed => Finset.mem_range.mpr (Finset.mem_filter.mp listed).2
  have few := Finset.card_le_card within
  rw [Finset.card_range] at few
  exact few

theorem countBelow_insert
    {new : Nat}
    (fresh : new ∉ used)
    (id : Nat) :
    countBelow (insert new used) id =
      countBelow used id + if new < id then 1 else 0 := by
  unfold countBelow
  rw [Finset.filter_insert]
  split_ifs with below
  · rw [Finset.card_insert_of_notMem]
    exact fun listed => fresh (Finset.mem_of_mem_filter _ listed)
  · rfl

/-- All numbers below the lowest free one are used. -/
theorem countBelow_lowestFree
    (lowest : lowestFree limit used = some id) : countBelow used id = id := by
  have all := (lowestFree_eq_some_iff.mp lowest).2.2
  have same : (used.filter fun other => other < id) = Finset.range id := by
    ext other
    rw [Finset.mem_filter, Finset.mem_range]
    exact ⟨fun both => both.2, fun below => ⟨all other below, below⟩⟩
  rw [countBelow, same, Finset.card_range]

theorem roomy_cons
    {want : Option Nat}
    {rest : List (Option Nat)} :
    Roomy used (want :: rest) ↔
      (∀ id, want = some id → countBelow used id ≤ id) ∧
        ∀ before id after, rest = before ++ some id :: after →
          countBelow used id + (if takesBelow id want then 1 else 0) +
            before.countP (takesBelow id) ≤ id := by
  constructor
  · intro roomy
    refine ⟨fun id _ => countBelow_le used id, fun before id after split => ?_⟩
    have room := roomy (want :: before) id after (by rw [split]; rfl)
    rw [List.countP_cons] at room
    omega
  · rintro ⟨first, others⟩ before id after split
    cases before with
    | nil => exact countBelow_le used id
    | cons head before =>
        injection split with same split
        have room := others before id after split
        rw [List.countP_cons, ← same]
        omega

/-- Whoever keeps a number that is used already gets none. -/
theorem handOut_eq_none
    (kept : some id ∈ wants)
    (taken : id ∈ used) : handOut limit used wants = none := by
  induction wants generalizing used with
  | nil => cases kept
  | cons want rest ih =>
      unfold handOut
      rcases List.mem_cons.mp kept with same | later
      · rw [← same, handOutOne, if_pos taken]
        rfl
      · cases handOutOne limit used want with
        | none => rfl
        | some first =>
            rw [Option.bind_some, ih later
              (Finset.mem_insert_of_mem taken)]
            rfl

/-- By induction over those who ask: there is a number for everyone exactly
if the list is roomy. -/
theorem handOut_isSome_iff
    (distinct : wants.reduceOption.Nodup)
    (free : ∀ kept, some kept ∈ wants → kept ∉ used)
    (few : used.card + wants.length ≤ limit) :
    (handOut limit used wants).isSome ↔ Roomy used wants := by
  induction wants generalizing used with
  | nil =>
      refine iff_of_true rfl fun before id after split => ?_
      cases before <;> cases split
  | cons want rest ih =>
      rw [List.length_cons] at few
      cases want with
      | some kept =>
          have fresh := free kept List.mem_cons_self
          rw [List.reduceOption_cons_of_some, List.nodup_cons] at distinct
          have others : ∀ other, some other ∈ rest →
              other ∉ insert kept used := by
            intro other later taken
            rcases Finset.mem_insert.mp taken with same | before
            · exact distinct.1 (same ▸ List.reduceOption_mem_iff.mpr later)
            · exact free other (List.mem_cons_of_mem _ later) before
          have further := ih distinct.2 others (by
            rw [Finset.card_insert_of_notMem fresh]
            omega)
          unfold handOut
          rw [handOutOne, if_neg fresh, Option.bind_some, Option.isSome_map,
            further, roomy_cons]
          constructor
          · intro roomy
            refine ⟨fun id _ => countBelow_le used id,
              fun before id after split => ?_⟩
            have room := roomy before id after split
            rw [countBelow_insert fresh] at room
            simpa [takesBelow] using room
          · rintro ⟨-, roomy⟩ before id after split
            have room := roomy before id after split
            rw [countBelow_insert fresh]
            simpa [takesBelow] using room
      | none =>
          obtain ⟨first, lowest⟩ :=
            @exists_lowestFree limit used (by omega)
          obtain ⟨fresh, -, below⟩ := lowestFree_eq_some_iff.mp lowest
          rw [List.reduceOption_cons_of_none] at distinct
          unfold handOut
          rw [handOutOne, lowest, Option.bind_some, Option.isSome_map,
            roomy_cons]
          by_cases wanted : some first ∈ rest
          · -- The lowest free number is one that is kept.
            rw [handOut_eq_none wanted (Finset.mem_insert_self first used)]
            refine iff_of_false Bool.false_ne_true fun roomy => ?_
            obtain ⟨before, after, split⟩ := List.append_of_mem wanted
            have room := roomy.2 before first after split
            rw [countBelow_lowestFree lowest] at room
            simp only [takesBelow, if_true] at room
            omega
          · have others : ∀ other, some other ∈ rest →
                other ∉ insert first used := by
              intro other later taken
              rcases Finset.mem_insert.mp taken with same | before
              · exact wanted (same ▸ later)
              · exact free other (List.mem_cons_of_mem _ later) before
            have further := ih distinct others (by
              rw [Finset.card_insert_of_notMem fresh]
              omega)
            rw [further]
            -- A kept number lies above the one that is handed out.
            have above : ∀ before id after,
                rest = before ++ some id :: after → first < id := by
              intro before id after split
              have later : some id ∈ rest := by
                rw [split]
                simp
              rcases Nat.lt_trichotomy first id with less | same | greater
              · exact less
              · exact absurd (same ▸ later) wanted
              · exact absurd (below id greater)
                  (free id (List.mem_cons_of_mem _ later))
            constructor
            · intro roomy
              refine ⟨fun id same => (nomatch same),
                fun before id after split => ?_⟩
              have room := roomy before id after split
              rw [countBelow_insert fresh, if_pos (above before id after split)]
                at room
              simpa [takesBelow] using room
            · rintro ⟨-, roomy⟩ before id after split
              have room := roomy before id after split
              rw [countBelow_insert fresh, if_pos (above before id after split)]
              simpa [takesBelow] using room

/-- The numbers below a limit that are neither used nor kept. -/
def freeNumbers
    (limit : Nat)
    (used : Finset Nat)
    (kept : List Nat) : List Nat :=
  (List.range limit).filter fun number => decide (number ∉ used ∧ number ∉ kept)

/-- Using a number that is kept changes nothing for those who have none. -/
theorem freeNumbers_keep
    (limit : Nat)
    (used : Finset Nat)
    (number : Nat)
    (kept : List Nat) :
    freeNumbers limit (insert number used) kept =
      freeNumbers limit used (number :: kept) := by
  refine List.filter_congr fun other _ => decide_eq_decide.mpr ?_
  rw [Finset.mem_insert, List.mem_cons]
  tauto

/-- The lowest free number comes first, if no one keeps it. -/
theorem freeNumbers_lowestFree
    {limit number : Nat}
    {kept : List Nat}
    (lowest : lowestFree limit used = some number)
    (wanted : number ∉ kept) :
    freeNumbers limit used kept =
      number :: freeNumbers limit (insert number used) kept := by
  obtain ⟨fresh, inside, below⟩ := lowestFree_eq_some_iff.mp lowest
  obtain ⟨more, rfl⟩ := Nat.exists_eq_add_of_lt inside
  have parts : List.range (number + more + 1) =
      List.range number ++ number :: (List.range more).map fun other =>
        number + 1 + other := by
    rw [show number + more + 1 = number + (more + 1) by omega, List.range_add,
      List.range_succ_eq_map, List.map_cons, List.map_map]
    congr 2
    refine List.map_congr_left fun other _ => ?_
    simp only [Function.comp_apply]
    omega
  have nothing : ∀ others : Finset Nat, used ⊆ others →
      (List.range number).filter (fun other =>
        decide (other ∉ others ∧ other ∉ kept)) = [] := by
    intro others more
    rw [List.filter_eq_nil_iff]
    intro other listed
    rw [decide_eq_true_eq]
    exact fun free => free.1 (more (below other (List.mem_range.mp listed)))
  unfold freeNumbers
  rw [parts, List.filter_append, List.filter_append, List.filter_cons,
    List.filter_cons, nothing used (Finset.Subset.refl used),
    nothing (insert number used) (Finset.subset_insert number used)]
  rw [if_pos (decide_eq_true ⟨fresh, wanted⟩), if_neg (by simp)]
  rw [List.nil_append, List.nil_append]
  congr 1
  refine List.filter_congr fun other listed => decide_eq_decide.mpr ?_
  obtain ⟨offset, -, same⟩ := List.mem_map.mp listed
  rw [Finset.mem_insert]
  have differs : other ≠ number := by omega
  tauto

/-- What was handed out: everyone has a number, no number twice, kept ones
were kept, and the others are the lowest that no one keeps. -/
structure HandedOut
    (limit : Nat)
    (used : Finset Nat)
    (wants : List (Option Nat))
    (numbers : List Nat) : Prop where
  everyone : numbers.length = wants.length
  distinct : numbers.Nodup
  fresh : ∀ number ∈ numbers, number ∉ used
  kept : ∀ pair ∈ wants.zip numbers, ∀ number, pair.1 = some number →
    pair.2 = number
  lowest : ((wants.zip numbers).filter fun pair => pair.1.isNone).map Prod.snd =
    (freeNumbers limit used wants.reduceOption).take
      (wants.countP Option.isNone)

/-- By induction over those who ask. -/
theorem handedOut_of_handOut
    {numbers : List Nat}
    (handed : handOut limit used wants = some numbers) :
    HandedOut limit used wants numbers := by
  induction wants generalizing used numbers with
  | nil =>
      cases handed
      exact
        { everyone := rfl
          distinct := List.nodup_nil
          fresh := fun _ here => nomatch here
          kept := fun _ here => nomatch here
          lowest := rfl }
  | cons want rest ih =>
      unfold handOut at handed
      obtain ⟨first, one, handed⟩ := Option.bind_eq_some_iff.mp handed
      obtain ⟨others, further, same⟩ := Option.map_eq_some_iff.mp handed
      have hypothesis := ih further
      have fresh : first ∉ used := by
        cases want with
        | some kept =>
            obtain ⟨rfl, free⟩ := eq_of_handOutOne one
            exact free
        | none => exact (lowestFree_eq_some_iff.mp one).1
      rw [← same]
      exact
        { everyone := by
            rw [List.length_cons, List.length_cons, hypothesis.everyone]
          distinct := List.nodup_cons.mpr ⟨fun listed =>
            hypothesis.fresh first listed (Finset.mem_insert_self first used),
            hypothesis.distinct⟩
          fresh := by
            intro number listed
            rcases List.mem_cons.mp listed with new | later
            · exact new ▸ fresh
            · exact fun taken => hypothesis.fresh number later
                (Finset.mem_insert_of_mem taken)
          kept := by
            intro pair listed number keeps
            rw [List.zip_cons_cons] at listed
            rcases List.mem_cons.mp listed with new | later
            · rw [new] at keeps ⊢
              dsimp only at keeps ⊢
              rw [keeps] at one
              exact (eq_of_handOutOne one).1.symm
            · exact hypothesis.kept pair later number keeps
          lowest := by
            have before := hypothesis.lowest
            cases want with
            | some kept =>
                rw [(eq_of_handOutOne one).1, List.reduceOption_cons_of_some, ← freeNumbers_keep]
                simpa using before
            | none =>
                have wanted : first ∉ rest.reduceOption := by
                  intro keeps
                  rw [handOut_eq_none (List.reduceOption_mem_iff.mp keeps)
                    (Finset.mem_insert_self first used)] at further
                  cases further
                rw [List.reduceOption_cons_of_none,
                  freeNumbers_lowestFree one wanted]
                simpa using before }

end Library
end Vvmux
