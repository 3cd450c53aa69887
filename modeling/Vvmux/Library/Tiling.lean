import Mathlib

/-!
# Tilings

A list of pieces tiles a set when no two of them share a point and together
they have exactly its points.  What a piece covers is a function, so that
pieces can be of any type.
-/

namespace Vvmux
namespace Library

variable {Piece Point : Type*}

/-- The pieces cover a set, each of its points once. -/
structure Tiles
    (points : Piece → Set Point)
    (pieces : List Piece)
    (whole : Set Point) : Prop where
  apart : pieces.Pairwise fun left right =>
    Disjoint (points left) (points right)
  covers : ∀ point, point ∈ whole ↔ ∃ piece ∈ pieces, point ∈ points piece

namespace Tiles

variable {points : Piece → Set Point}

theorem nil :
    Tiles points [] ∅ where
  apart := List.Pairwise.nil
  covers := by simp

theorem single (piece : Piece) : Tiles points [piece] (points piece) where
  apart := List.pairwise_singleton _ _
  covers := by simp

variable {pieces : List Piece} {whole : Set Point}

/-- A piece lies within what it helps to cover. -/
theorem subset
    (tiles : Tiles points pieces whole)
    {piece : Piece}
    (listed : piece ∈ pieces) : points piece ⊆ whole :=
  fun point here => (tiles.covers point).mpr ⟨piece, listed, here⟩

theorem congr
    {whole same : Set Point}
    (tiles : Tiles points pieces whole)
    (equal : ∀ point, point ∈ same ↔ point ∈ whole) :
    Tiles points pieces same where
  apart := tiles.apart
  covers := fun point => (equal point).trans (tiles.covers point)

theorem perm
    {pieces others : List Piece}
    (tiles : Tiles points pieces whole)
    (same : pieces.Perm others) : Tiles points others whole where
  apart := (same.pairwise_iff fun apart => apart.symm).mp tiles.apart
  covers := fun point => by
    rw [tiles.covers point]
    simp only [same.mem_iff]

/-- Two tilings of sets without a common point. -/
theorem append
    {left right : List Piece}
    {first second : Set Point}
    (tilesLeft : Tiles points left first)
    (tilesRight : Tiles points right second)
    (apart : Disjoint first second) :
    Tiles points (left ++ right) (first ∪ second) where
  apart := by
    rw [List.pairwise_append]
    refine ⟨tilesLeft.apart, tilesRight.apart, fun one here other there => ?_⟩
    exact apart.mono (tilesLeft.subset here) (tilesRight.subset there)
  covers := by
    intro point
    rw [Set.mem_union, tilesLeft.covers, tilesRight.covers]
    simp only [List.mem_append, or_and_right, exists_or]

/-- The first piece and the rest. -/
theorem cons
    {piece : Piece}
    {rest : List Piece}
    {whole : Set Point}
    (tiles : Tiles points (piece :: rest) whole) :
    Tiles points rest (whole \ points piece) where
  apart := (List.pairwise_cons.mp tiles.apart).2
  covers := by
    intro point
    have others := (List.pairwise_cons.mp tiles.apart).1
    rw [Set.mem_sdiff, tiles.covers]
    constructor
    · rintro ⟨⟨other, listed, here⟩, outside⟩
      rcases List.mem_cons.mp listed with same | later
      · exact absurd (same ▸ here) outside
      · exact ⟨other, later, here⟩
    · rintro ⟨other, later, here⟩
      exact ⟨⟨other, List.mem_cons_of_mem _ later, here⟩, fun inside =>
        Set.disjoint_left.mp (others other later) inside here⟩

/-- Two pieces are replaced by one that covers both. -/
theorem join
    {first second joined : Piece}
    {rest : List Piece}
    (tiles : Tiles points (first :: second :: rest) whole)
    (both : points joined = points first ∪ points second) :
    Tiles points (joined :: rest) whole where
  apart := by
    have parts := tiles.apart
    simp only [List.pairwise_cons, List.mem_cons, forall_eq_or_imp] at parts
    obtain ⟨⟨-, fromFirst⟩, fromSecond, between⟩ := parts
    refine List.pairwise_cons.mpr ⟨fun other listed => ?_, between⟩
    rw [both]
    exact Disjoint.sup_left (fromFirst other listed) (fromSecond other listed)
  covers := by
    intro point
    rw [tiles.covers point]
    simp only [List.mem_cons, exists_eq_or_imp, both, Set.mem_union, or_assoc]

end Tiles
end Library
end Vvmux
