import Vvmux.Projection.Region

/-!
# Coalescing to a fixed point

The loop of `order_and_coalesce` has no bound of its own.  Here it is a
relation between the rectangles it starts from and those it leaves.  Every turn
makes one rectangle of two, so the loop ends; what it leaves depends on the
rectangles alone because they are sorted by all their fields.
-/

namespace Vvmux

open Library

namespace Projection

/-- What the loop of `order_and_coalesce` leaves of some rectangles. -/
inductive Coalesces : List FixedRect → List FixedRect → Prop
  | stop
      {fragments : List FixedRect}
      (nothing : joinFirst (sortFragments fragments) = none) :
      Coalesces fragments (sortFragments (sortFragments fragments))
  | turn
      {fragments merged result : List FixedRect}
      (found : joinFirst (sortFragments fragments) = some merged)
      (rest : Coalesces merged result) :
      Coalesces fragments result

/-- The rectangles have a full edge in common. -/
def ShareEdge (a b : FixedRect) : Prop :=
  (a.y = b.y ∧ a.height = b.height ∧ (a.right = b.x ∨ b.right = a.x)) ∨
    (a.x = b.x ∧ a.width = b.width ∧ (a.bottom = b.y ∨ b.bottom = a.y))

theorem ShareEdge.symm {a b : FixedRect} (shared : ShareEdge a b) :
    ShareEdge b a := by
  rcases shared with ⟨y, height, edge⟩ | ⟨x, width, edge⟩
  · exact .inl ⟨y.symm, height.symm, edge.symm⟩
  · exact .inr ⟨x.symm, width.symm, edge.symm⟩

/-! ## The order of rectangles -/

theorem sortKey_le_iff {a b : FixedRect} :
    sortKey a ≤ sortKey b ↔
      a.y.1 < b.y.1 ∨ (a.y.1 = b.y.1 ∧ (a.x.1 < b.x.1 ∨ (a.x.1 = b.x.1 ∧
        (a.height.1 < b.height.1 ∨
          (a.height.1 = b.height.1 ∧ a.width.1 ≤ b.width.1))))) := by
  simp only [sortKey, Prod.Lex.toLex_le_toLex]

variable {a b : FixedRect}

/-- The key has every field of a rectangle. -/
theorem eq_of_sortKey_le
    (before : sortKey a ≤ sortKey b)
    (after : sortKey b ≤ sortKey a) : a = b := by
  rw [sortKey_le_iff] at before after
  have x : a.x = b.x := Subtype.ext (by omega)
  have y : a.y = b.y := Subtype.ext (by omega)
  have width : a.width = b.width := Subtype.ext (by omega)
  have height : a.height = b.height := Subtype.ext (by omega)
  cases a
  cases b
  cases x
  cases y
  cases width
  cases height
  rfl

variable {fragments merged result : List FixedRect}

variable {one other : List FixedRect}

theorem eq_of_ordered
    (ordered : Ordered one)
    (otherOrdered : Ordered other)
    (same : one.Perm other) : one = other :=
  List.Perm.eq_of_pairwise (fun _ _ _ _ => eq_of_sortKey_le) ordered
    otherOrdered same

theorem sortFragments_eq_of_perm
    (same : one.Perm other) : sortFragments one = sortFragments other :=
  eq_of_ordered (ordered_sortFragments one) (ordered_sortFragments other)
    ((sortFragments_perm one).trans
      (same.trans (sortFragments_perm other).symm))

/-! ## One turn -/

theorem joinInto_eq_none {a : FixedRect} :
    joinInto a fragments = none ↔ ∀ b ∈ fragments, joined a b = none := by
  induction fragments with
  | nil => simp [joinInto]
  | cons b rest ih =>
      unfold joinInto
      cases union : joined a b with
      | some whole => simp [union]
      | none => simp [union, ih]

theorem joinFirst_eq_none :
    joinFirst fragments = none ↔
      fragments.Pairwise fun a b => joined a b = none := by
  induction fragments with
  | nil => simp [joinFirst]
  | cons a rest ih =>
      unfold joinFirst
      rw [List.pairwise_cons, ← joinInto_eq_none]
      cases into : joinInto a rest with
      | some found => simp
      | none => simp [ih]

theorem length_of_joinFirst (found : joinFirst fragments = some merged) :
    merged.length + 1 = fragments.length := by
  obtain ⟨a, b, union, others, before, -, after⟩ := exists_of_joinFirst found
  rw [before.length_eq, after.length_eq]
  rfl

/-- A turn is about one rectangle less than the one before. -/
theorem length_of_turn
    (found : joinFirst (sortFragments fragments) = some merged) :
    merged.length + 1 = fragments.length :=
  (length_of_joinFirst found).trans (sortFragments_perm fragments).length_eq

/-! ## The whole loop -/

/-- As many turns as there are rectangles are enough. -/
theorem coalesces_coalesceTurns
    {turns : Nat}
    (enough : fragments.length ≤ turns) :
    Coalesces fragments (coalesceTurns turns fragments) := by
  have stopped : ∀ fragments : List FixedRect,
      joinFirst (sortFragments fragments) = none →
        Coalesces fragments (sortFragments fragments) := by
    intro fragments nothing
    have again := Coalesces.stop nothing
    rwa [sortFragments_eq_of_perm (sortFragments_perm fragments)] at again
  induction turns generalizing fragments with
  | zero =>
      rw [List.length_eq_zero_iff.mp (Nat.le_zero.mp enough)]
      exact stopped [] rfl
  | succ turns ih =>
      unfold coalesceTurns
      split
      · rename_i merged found
        have shorter := length_of_turn found
        exact .turn found (ih (by omega))
      · rename_i nothing
        exact stopped fragments nothing

theorem Coalesces.unique
    {other : List FixedRect}
    (one : Coalesces fragments result)
    (again : Coalesces fragments other) : result = other := by
  induction one with
  | stop nothing =>
      cases again with
      | stop _ => rfl
      | turn found _ =>
          rw [nothing] at found
          cases found
  | turn found _ ih =>
      cases again with
      | stop nothing =>
          rw [nothing] at found
          cases found
      | turn same rest =>
          rw [same] at found
          cases found
          exact ih rest

/-- The loop ends, and `orderAndCoalesce` is what it leaves. -/
theorem coalesces_iff :
    Coalesces fragments result ↔ result = orderAndCoalesce fragments := by
  have ends := coalesces_coalesceTurns (le_refl fragments.length)
  constructor
  · intro left
    exact left.unique ends
  · rintro rfl
    exact ends

/-- The first thing a turn does is to sort. -/
theorem Coalesces.perm
    {others : List FixedRect}
    (left : Coalesces fragments result)
    (same : others.Perm fragments) : Coalesces others result := by
  have sorted := sortFragments_eq_of_perm same
  cases left with
  | stop nothing =>
      rw [← sorted] at nothing ⊢
      exact .stop nothing
  | turn found rest =>
      rw [← sorted] at found
      exact .turn found rest

theorem Coalesces.length_le (left : Coalesces fragments result) :
    result.length ≤ fragments.length := by
  induction left with
  | @stop fragments _ =>
      rw [(sortFragments_perm _).length_eq, (sortFragments_perm _).length_eq]
  | turn found _ ih =>
      have shorter := length_of_turn found
      omega

/-- The last turn found nothing to join. -/
theorem Coalesces.irreducible (left : Coalesces fragments result) :
    Ordered result ∧ result.Pairwise fun a b => joined a b = none := by
  induction left with
  | @stop fragments nothing =>
      rw [sortFragments_eq_of_perm (sortFragments_perm fragments)]
      exact ⟨ordered_sortFragments fragments, joinFirst_eq_none.mp nothing⟩
  | turn _ _ ih => exact ih

/-- The loop leaves alone what is ordered and holds nothing to join, and that
is what it leaves of anything else. -/
theorem orderAndCoalesce_settles (fragments : List FixedRect) :
    (orderAndCoalesce fragments = fragments ↔ Ordered fragments ∧
      fragments.Pairwise fun a b => joined a b = none) ∧
    orderAndCoalesce (orderAndCoalesce fragments) =
      orderAndCoalesce fragments := by
  have settled : ∀ others : List FixedRect, Ordered others →
      (others.Pairwise fun a b => joined a b = none) →
        orderAndCoalesce others = others := by
    intro others ordered apart
    have sorted : sortFragments others = others :=
      eq_of_ordered (ordered_sortFragments others) ordered
        (sortFragments_perm others)
    have stops := Coalesces.stop
      (sorted.symm ▸ joinFirst_eq_none.mpr apart :
        joinFirst (sortFragments others) = none)
    rw [sorted, sorted] at stops
    exact (coalesces_iff.mp stops).symm
  have left := (coalesces_iff.mpr (rfl : _ = orderAndCoalesce fragments)).irreducible
  refine ⟨⟨?_, fun held => settled _ held.1 held.2⟩, settled _ left.1 left.2⟩
  intro same
  exact same ▸ left

/-! ## What is not joined -/

/-- Neighbours in order are joined if some rectangle holds them both. -/
theorem joined_isSome
    {a b whole : FixedRect}
    (before : sortKey a ≤ sortKey b)
    (shared : ShareEdge a b)
    (first : a.points ⊆ whole.points)
    (second : b.points ⊆ whole.points) : (joined a b).isSome := by
  obtain ⟨⟨left, top⟩, -, -⟩ := edges_of_points_subset first
  obtain ⟨-, right, bottom⟩ := edges_of_points_subset second
  have rightA := a.right_val
  have rightB := b.right_val
  have bottomA := a.bottom_val
  have bottomB := b.bottom_val
  have wideA := a.widthPositive
  have wideB := b.widthPositive
  have highA := a.heightPositive
  have highB := b.heightPositive
  have wide := whole.width.2.2
  have high := whole.height.2.2
  have farX := b.right.2.2
  have farY := b.bottom.2.2
  have low : i64Min ≤ 0 := by decide
  rw [sortKey_le_iff] at before
  unfold joined
  rcases shared with ⟨y, height, edge⟩ | ⟨x, width, edge⟩
  · have sameY := congrArg Subtype.val y
    have sameHeight := congrArg Subtype.val height
    have edge : a.right = b.x := by
      refine edge.resolve_right fun behind => ?_
      have behind := congrArg Subtype.val behind
      omega
    have touch := congrArg Subtype.val edge
    obtain ⟨union, spans⟩ : ∃ width,
        I64.checkedSub b.right a.x = some width :=
      ⟨⟨_, by omega, by omega⟩, I64.checkedSub_eq_some_iff.mpr rfl⟩
    rw [if_pos ⟨y, height, edge⟩, spans, Option.bind_some,
      FixedRect.new_isSome_iff, I64.checkedSub_eq_some_iff.mp spans]
    have inBottom := a.bottom.2.2
    omega
  · have sameX := congrArg Subtype.val x
    have sameWidth := congrArg Subtype.val width
    have edge : a.bottom = b.y := by
      refine edge.resolve_right fun behind => ?_
      have behind := congrArg Subtype.val behind
      omega
    have touch := congrArg Subtype.val edge
    obtain ⟨union, spans⟩ : ∃ height,
        I64.checkedSub b.bottom a.y = some height :=
      ⟨⟨_, by omega, by omega⟩, I64.checkedSub_eq_some_iff.mpr rfl⟩
    have stacked : ¬ (a.y = b.y ∧ a.height = b.height ∧ a.right = b.x) := by
      rintro ⟨level, -, -⟩
      have level := congrArg Subtype.val level
      omega
    rw [if_neg stacked, if_pos ⟨x, width, edge⟩, spans, Option.bind_some,
      FixedRect.new_isSome_iff, I64.checkedSub_eq_some_iff.mp spans]
    have inRight := a.right.2.2
    omega

/-- Rectangles left behind that share a full edge are not two halves of a
rectangle that can be represented. -/
theorem Coalesces.not_rectangle
    (left : Coalesces fragments result)
    (listed : a ∈ result)
    (otherListed : b ∈ result)
    (shared : ShareEdge a b)
    (union : FixedRect) : union.points ≠ a.points ∪ b.points := by
  intro whole
  have first : a.points ⊆ union.points := whole ▸ Set.subset_union_left
  have second : b.points ⊆ union.points := whole ▸ Set.subset_union_right
  have distinct : a ≠ b := by
    rintro rfl
    have right := a.right_val
    have bottom := a.bottom_val
    have wide := a.widthPositive
    have high := a.heightPositive
    rcases shared with ⟨-, -, edge⟩ | ⟨-, -, edge⟩
    · have edge := congrArg Subtype.val (or_self_iff.mp edge)
      omega
    · have edge := congrArg Subtype.val (or_self_iff.mp edge)
      omega
  obtain ⟨ordered, apart⟩ := left.irreducible
  -- whichever comes first, the search tried the two in that order
  have tried : result.Pairwise fun a b =>
      (sortKey a ≤ sortKey b ∧ joined a b = none) ∨
        (sortKey b ≤ sortKey a ∧ joined b a = none) :=
    (ordered.and apart).imp .inl
  have : Std.Symm fun a b : FixedRect =>
      (sortKey a ≤ sortKey b ∧ joined a b = none) ∨
        (sortKey b ≤ sortKey a ∧ joined b a = none) :=
    ⟨fun _ _ => Or.symm⟩
  rcases tried.forall listed otherListed distinct with
    ⟨before, nothing⟩ | ⟨before, nothing⟩
  · have some := joined_isSome before shared first second
    rw [nothing] at some
    cases some
  · have some := joined_isSome before shared.symm second first
    rw [nothing] at some
    cases some

/-- The loop of `order_and_coalesce` ends for disjoint rectangles.  It leaves
no more of them, in order and disjoint, that cover the same points; two of them
that share a full edge make no rectangle that can be represented.  Another
order of the same rectangles gives the same list. -/
theorem orderAndCoalesce_exact
    (fragments : List FixedRect)
    (apart : fragments.Pairwise fun left right =>
      Disjoint left.points right.points) :
    (∀ result, Coalesces fragments result ↔
      result = orderAndCoalesce fragments) ∧
    covered (orderAndCoalesce fragments) = covered fragments ∧
    ((orderAndCoalesce fragments).Pairwise fun left right =>
      Disjoint left.points right.points) ∧
    (∀ a ∈ orderAndCoalesce fragments, ∀ b ∈ orderAndCoalesce fragments,
      ShareEdge a b → ∀ union : FixedRect,
        union.points ≠ a.points ∪ b.points) ∧
    Ordered (orderAndCoalesce fragments) ∧
    (orderAndCoalesce fragments).length ≤ fragments.length ∧
    ∀ others, others.Perm fragments →
      orderAndCoalesce others = orderAndCoalesce fragments := by
  have tiles : Tiles FixedRect.points fragments (covered fragments) :=
    ⟨apart, fun _ => Iff.rfl⟩
  have left : Coalesces fragments (orderAndCoalesce fragments) :=
    coalesces_iff.mpr rfl
  refine ⟨fun result => coalesces_iff,
    covered_of_tiles (orderAndCoalesce_tiles tiles),
    (orderAndCoalesce_tiles tiles).apart, ?_, left.irreducible.1,
    left.length_le, ?_⟩
  · intro a listed b otherListed shared
    exact left.not_rectangle listed otherListed shared
  · intro others same
    exact (coalesces_iff.mp (left.perm same)).symm

/-- Two cells side by side, the right one first, become one rectangle. -/
theorem orderAndCoalesce_exact_cells :
    ∃ left right whole,
      fromCells ⟨0, 0, 1, 1⟩ = some left ∧
      fromCells ⟨1, 0, 1, 1⟩ = some right ∧
      fromCells ⟨0, 0, 2, 1⟩ = some whole ∧
      orderAndCoalesce [right, left] = [whole] ∧
      whole.points = covered [right, left] := by
  have seen : (fromCells ⟨0, 0, 1, 1⟩).bind (fun left =>
      (fromCells ⟨1, 0, 1, 1⟩).bind fun right =>
        (fromCells ⟨0, 0, 2, 1⟩).map fun whole =>
          decide (orderAndCoalesce [right, left] = [whole] ∧
            intersect right left = none)) = some true := by
    decide +kernel
  obtain ⟨left, madeLeft, seen⟩ := Option.bind_eq_some_iff.mp seen
  obtain ⟨right, madeRight, seen⟩ := Option.bind_eq_some_iff.mp seen
  obtain ⟨whole, madeWhole, seen⟩ := Option.map_eq_some_iff.mp seen
  obtain ⟨one, missed⟩ := of_decide_eq_true seen
  refine ⟨left, right, whole, madeLeft, madeRight, madeWhole, one, ?_⟩
  obtain ⟨-, same, -⟩ := orderAndCoalesce_exact [right, left]
    (List.pairwise_pair.mpr (disjoint_of_intersect missed))
  rw [← same, one]
  ext point
  simp [covered]

/-- Two rectangles side by side, together too wide for 64 bits, stay two. -/
theorem tooWide_not_joined :
    ∃ left right : FixedRect,
      Disjoint left.points right.points ∧ ShareEdge left right ∧
        orderAndCoalesce [left, right] = [left, right] := by
  have seen : (FixedRect.new ⟨i64Min, by decide⟩ ⟨0, by decide⟩
      ⟨i64Max, by decide⟩ ⟨1, by decide⟩).bind (fun left =>
        (FixedRect.new ⟨-1, by decide⟩ ⟨0, by decide⟩
          ⟨i64Max, by decide⟩ ⟨1, by decide⟩).map fun right =>
            decide (intersect left right = none ∧
              (left.y = right.y ∧ left.height = right.height ∧
                left.right = right.x) ∧
              orderAndCoalesce [left, right] = [left, right])) =
      some true := by
    decide +kernel
  obtain ⟨left, -, seen⟩ := Option.bind_eq_some_iff.mp seen
  obtain ⟨right, -, seen⟩ := Option.map_eq_some_iff.mp seen
  obtain ⟨missed, ⟨y, height, edge⟩, two⟩ := of_decide_eq_true seen
  exact ⟨left, right, disjoint_of_intersect missed,
    .inl ⟨y, height, .inl edge⟩, two⟩

end Projection
end Vvmux
