import Mathlib.Data.List.Basic

/-!
# Sequences with mergeable runs

Some items of a sequence are runs of smaller units, and every other item
stands for itself.  Two sequences are alike after merging adjacent runs exactly
if they list the same units and other items; where a run was cut does not
matter.
-/

namespace Vvmux
namespace Library

/-- How a type of items contains runs of units. -/
structure Runs (Item Piece : Type*) where
  run : List Piece → Item
  units : Item → Option (List Piece)
  units_run : ∀ pieces, units (run pieces) = some pieces
  run_units : ∀ item pieces, units item = some pieces → item = run pieces

namespace Runs

variable {Item Piece : Type*} (runs : Runs Item Piece)

/-- Put units behind a sequence, into its last run if there is one. -/
def push (merged : List Item) (pieces : List Piece) : List Item :=
  if pieces.isEmpty then
    merged
  else
    match merged.getLast?.bind runs.units with
    | some previous => merged.dropLast ++ [runs.run (previous ++ pieces)]
    | none => merged ++ [runs.run pieces]

/-- Put an item behind a sequence. -/
def pushItem (merged : List Item) (item : Item) : List Item :=
  match runs.units item with
  | some pieces => runs.push merged pieces
  | none => merged ++ [item]

/-- Merge adjacent runs. -/
def merge (items : List Item) : List Item :=
  items.foldl runs.pushItem []

/-- The units and the other items of one item. -/
def tokensOf (item : Item) : List (Piece ⊕ Item) :=
  match runs.units item with
  | some pieces => pieces.map .inl
  | none => [.inr item]

/-- The units and the other items of a sequence. -/
def tokens (items : List Item) : List (Piece ⊕ Item) :=
  items.flatMap runs.tokensOf

@[simp] theorem tokens_nil : runs.tokens [] = [] :=
  rfl

@[simp] theorem tokens_append
    (first second : List Item) :
    runs.tokens (first ++ second) = runs.tokens first ++ runs.tokens second :=
  List.flatMap_append

theorem tokens_singleton
    (item : Item) : runs.tokens [item] = runs.tokensOf item :=
  List.flatMap_singleton runs.tokensOf item

@[simp] theorem tokens_run
    (pieces : List Piece) :
    runs.tokens [runs.run pieces] = pieces.map .inl := by
  rw [tokens_singleton, tokensOf, runs.units_run]

theorem tokens_other
    {item : Item}
    (other : runs.units item = none) : runs.tokens [item] = [.inr item] := by
  rw [tokens_singleton, tokensOf, other]

/-- The last item of a sequence is a run, and what stands ahead of it. -/
theorem eq_append_of_getLast?
    {merged : List Item}
    {previous : List Piece}
    (last : merged.getLast?.bind runs.units = some previous) :
    merged = merged.dropLast ++ [runs.run previous] := by
  obtain ⟨item, isLast, isRun⟩ := Option.bind_eq_some_iff.mp last
  obtain ⟨front, rfl⟩ := List.getLast?_eq_some_iff.mp isLast
  rw [List.dropLast_concat, runs.run_units item previous isRun]

@[simp] theorem tokens_push
    (merged : List Item)
    (pieces : List Piece) :
    runs.tokens (runs.push merged pieces) =
      runs.tokens merged ++ pieces.map .inl := by
  unfold push
  split
  · next empty =>
      rw [List.isEmpty_iff.mp empty, List.map_nil, List.append_nil]
  · split
    · next previous last =>
        have whole := runs.eq_append_of_getLast? last
        calc
          runs.tokens (merged.dropLast ++ [runs.run (previous ++ pieces)]) =
              runs.tokens merged.dropLast ++ previous.map .inl ++
                pieces.map .inl := by
            rw [tokens_append, tokens_run, List.map_append, List.append_assoc]
          _ = runs.tokens (merged.dropLast ++ [runs.run previous]) ++
              pieces.map .inl := by
            rw [tokens_append, tokens_run]
          _ = runs.tokens merged ++ pieces.map .inl := by
            rw [← whole]
    · rw [tokens_append, tokens_run]

theorem push_nil (merged : List Item) : runs.push merged [] = merged :=
  rfl

/-- Units may come one after the other. -/
theorem push_cons
    (merged : List Item)
    (piece : Piece)
    (rest : List Piece) :
    runs.push merged (piece :: rest) =
      runs.push (runs.push merged [piece]) rest := by
  have ends : ∃ front previous,
      runs.push merged [piece] =
          front ++ [runs.run (previous ++ [piece])] ∧
        runs.push merged (piece :: rest) =
          front ++ [runs.run (previous ++ piece :: rest)] := by
    unfold push
    rw [if_neg (by simp), if_neg (by simp)]
    split
    · next previous last => exact ⟨merged.dropLast, previous, rfl, rfl⟩
    · exact ⟨merged, [], rfl, rfl⟩
  obtain ⟨front, previous, one, all⟩ := ends
  rw [one, all]
  unfold push
  cases rest with
  | nil => rfl
  | cons next rest =>
      rw [if_neg (by simp), List.getLast?_concat, Option.bind_some,
        runs.units_run]
      dsimp only
      rw [List.dropLast_concat, List.append_assoc, List.singleton_append]

/-- One unit or other item behind a sequence. -/
def pushToken (merged : List Item) (token : Piece ⊕ Item) : List Item :=
  match token with
  | .inl piece => runs.push merged [piece]
  | .inr item => merged ++ [item]

theorem foldl_pushToken_inl
    (pieces : List Piece)
    (merged : List Item) :
    (pieces.map Sum.inl).foldl runs.pushToken merged =
      runs.push merged pieces := by
  induction pieces generalizing merged with
  | nil => exact (runs.push_nil merged).symm
  | cons piece rest ih =>
      rw [List.map_cons, List.foldl_cons, ih, push_cons runs merged]
      rfl

/-- The merged sequence depends on the units and other items alone. -/
theorem merge_eq
    (items : List Item) :
    runs.merge items = (runs.tokens items).foldl runs.pushToken [] := by
  unfold merge
  generalize ([] : List Item) = merged
  induction items generalizing merged with
  | nil => rfl
  | cons item rest ih =>
      have first : runs.tokens (item :: rest) =
          runs.tokensOf item ++ runs.tokens rest :=
        List.flatMap_cons
      rw [List.foldl_cons, first, List.foldl_append, ih]
      unfold pushItem tokensOf
      cases runs.units item with
      | none => rfl
      | some pieces =>
          dsimp only
          rw [foldl_pushToken_inl]

/-- Sequences with the same units and other items merge to the same. -/
theorem merge_congr
    {first second : List Item}
    (same : runs.tokens first = runs.tokens second) :
    runs.merge first = runs.merge second := by
  rw [merge_eq, merge_eq, same]

end Runs

end Library
end Vvmux
