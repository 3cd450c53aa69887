import Mathlib.Order.Interval.Finset.Nat
import Vvmux.Media.Raster

/-!
# The damage of a raster delta

The damage of a delta is the number of pixels that its operations write, each
counted once.  `raster_damage_pixels` cuts the rectangles into bands between
neighbouring edges and merges the intervals of each band.
-/

namespace Vvmux
namespace Media

open Library

/-! ## Intervals -/

/-- The points of some intervals. -/
def spanned (intervals : List (Nat × Nat)) : Finset Nat :=
  intervals.foldr (fun interval rest => Finset.Ico interval.1 interval.2 ∪ rest)
    ∅

variable {intervals : List (Nat × Nat)}
  {rectangles : List (Nat × Nat × Nat × Nat)}

@[simp] theorem mem_spanned
    {point : Nat} :
    point ∈ spanned intervals ↔
      ∃ interval ∈ intervals, interval.1 ≤ point ∧ point < interval.2 := by
  induction intervals with
  | nil => simp [spanned]
  | cons interval rest ih =>
      have unfolded : spanned (interval :: rest) =
          Finset.Ico interval.1 interval.2 ∪ spanned rest := rfl
      rw [unfolded, Finset.mem_union, Finset.mem_Ico, ih]
      simp

theorem spanned_perm
    {one other : List (Nat × Nat)}
    (same : one.Perm other) : spanned one = spanned other := by
  ext point
  simp only [mem_spanned, same.mem_iff]

/-- Merged intervals, the last one first: between two of them there is a
gap. -/
structure Merged (intervals : List (Nat × Nat)) : Prop where
  proper : ∀ interval ∈ intervals, interval.1 ≤ interval.2
  apart : intervals.Pairwise fun later earlier => earlier.2 < later.1

/-- The lengths of merged intervals add up to the number of their points. -/
theorem Merged.sum_eq_card
    (merged : Merged intervals) :
    (intervals.map fun interval => interval.2 - interval.1).sum =
      (spanned intervals).card := by
  induction intervals with
  | nil => rfl
  | cons interval rest ih =>
      have rests : Merged rest :=
        ⟨fun other listed => merged.proper other
          (List.mem_cons_of_mem _ listed), merged.apart.of_cons⟩
      have disjoint : Disjoint (Finset.Ico interval.1 interval.2)
          (spanned rest) := by
        rw [Finset.disjoint_left]
        intro point here there
        obtain ⟨earlier, listed, -, below⟩ := mem_spanned.mp there
        have gap := List.rel_of_pairwise_cons merged.apart listed
        have above := (Finset.mem_Ico.mp here).1
        omega
      have unfolded : spanned (interval :: rest) =
          Finset.Ico interval.1 interval.2 ∪ spanned rest := rfl
      rw [List.map_cons, List.sum_cons, ih rests, unfolded,
        Finset.card_union_of_disjoint disjoint, Nat.card_Ico]

/-- One more interval that starts no earlier than the last one. -/
theorem Merged.merge
    (merged : Merged intervals)
    {interval : Nat × Nat}
    (proper : interval.1 ≤ interval.2)
    (later : ∀ last ∈ intervals.head?, last.1 ≤ interval.1) :
    Merged (mergeInterval intervals interval) ∧
      spanned (mergeInterval intervals interval) =
        spanned (interval :: intervals) ∧
      ∀ last ∈ (mergeInterval intervals interval).head?,
        last.1 ≤ interval.1 := by
  cases intervals with
  | nil =>
      refine ⟨⟨?_, List.pairwise_singleton _ _⟩, rfl, ?_⟩
      · intro other listed
        rw [List.mem_singleton.mp listed]
        exact proper
      · intro last first
        cases first
        exact le_rfl
  | cons last rest =>
      obtain ⟨left, right⟩ := last
      have before : left ≤ interval.1 := later (left, right) rfl
      have lastProper : left ≤ right :=
        merged.proper (left, right) List.mem_cons_self
      have ends : ∀ earlier ∈ rest, earlier.2 < left := fun earlier listed =>
        List.rel_of_pairwise_cons merged.apart listed
      have unfolded : mergeInterval ((left, right) :: rest) interval =
          if interval.1 ≤ right then (left, max right interval.2) :: rest
          else interval :: (left, right) :: rest := rfl
      rw [unfolded]
      by_cases touches : interval.1 ≤ right
      · rw [if_pos touches]
        refine ⟨⟨?_, ?_⟩, ?_, ?_⟩
        · rw [List.forall_mem_cons]
          refine ⟨by dsimp only; omega, fun other listed =>
            merged.proper other (List.mem_cons_of_mem _ listed)⟩
        · rw [List.pairwise_cons]
          exact ⟨ends, merged.apart.of_cons⟩
        · ext point
          simp only [mem_spanned, List.mem_cons, exists_eq_or_imp]
          constructor
          · rintro (here | there)
            · by_cases short : point < right
              · exact .inr (.inl ⟨here.1, short⟩)
              · exact .inl ⟨by omega, by
                  have within := here.2
                  omega⟩
            · exact .inr (.inr there)
          · rintro (new | here | there)
            · exact .inl ⟨by omega, by omega⟩
            · exact .inl ⟨here.1, by have within := here.2; omega⟩
            · exact .inr there
        · intro first same
          cases same
          exact before
      · rw [if_neg touches]
        refine ⟨⟨?_, ?_⟩, rfl, ?_⟩
        · rw [List.forall_mem_cons]
          exact ⟨proper, merged.proper⟩
        · rw [List.pairwise_cons]
          refine ⟨?_, merged.apart⟩
          rw [List.forall_mem_cons]
          refine ⟨by dsimp only; omega, ?_⟩
          intro earlier listed
          have gap := ends earlier listed
          omega
        · intro first same
          cases same
          exact le_rfl

/-- All intervals, in the order of their starts. -/
theorem Merged.foldl
    {intervals merged : List (Nat × Nat)}
    (sound : Merged merged)
    (proper : ∀ interval ∈ intervals, interval.1 ≤ interval.2)
    (ordered : intervals.Pairwise fun one two => one.1 ≤ two.1)
    (later : ∀ last ∈ merged.head?, ∀ interval ∈ intervals,
      last.1 ≤ interval.1) :
    Merged (intervals.foldl mergeInterval merged) ∧
      spanned (intervals.foldl mergeInterval merged) =
        spanned intervals ∪ spanned merged := by
  induction intervals generalizing merged with
  | nil =>
      refine ⟨sound, ?_⟩
      exact (Finset.empty_union (spanned merged)).symm
  | cons interval rest ih =>
      obtain ⟨firstProper, restProper⟩ := List.forall_mem_cons.mp proper
      obtain ⟨soundStep, spannedStep, head⟩ := sound.merge firstProper
        fun last there => later last there interval List.mem_cons_self
      obtain ⟨soundRest, spannedRest⟩ := ih soundStep
        restProper ordered.of_cons
        (fun last there other listed => (head last there).trans
          (List.rel_of_pairwise_cons ordered listed))
      refine ⟨soundRest, ?_⟩
      rw [List.foldl_cons, spannedRest, spannedStep]
      ext point
      simp only [Finset.mem_union, mem_spanned, List.mem_cons,
        exists_eq_or_imp]
      exact or_left_comm.trans or_assoc.symm

/-- The merged width of intervals is the number of their points. -/
theorem mergedWidth_eq_card
    (proper : ∀ interval ∈ intervals, interval.1 ≤ interval.2) :
    mergedWidth intervals = (spanned intervals).card := by
  unfold mergedWidth
  generalize sortedIs : intervals.mergeSort
    (fun one two => decide (toLex one ≤ toLex two)) = sorted
  have same : sorted.Perm intervals := sortedIs ▸ List.mergeSort_perm _ _
  have ordered : sorted.Pairwise fun one two => one.1 ≤ two.1 := by
    have sound := @List.pairwise_mergeSort _
      (fun one two : Nat × Nat => decide (toLex one ≤ toLex two))
      (by
        intro one two three before after
        rw [decide_eq_true_eq] at before after ⊢
        exact before.trans after)
      (by
        intro one two
        rw [Bool.or_eq_true, decide_eq_true_eq, decide_eq_true_eq]
        exact le_total _ _) intervals
    rw [sortedIs] at sound
    refine sound.imp ?_
    intro one two before
    rw [decide_eq_true_eq, Prod.Lex.le_iff] at before
    obtain less | ⟨equal, -⟩ := before
    · exact le_of_lt less
    · exact le_of_eq equal
  have started : Merged [] := ⟨by simp, List.Pairwise.nil⟩
  obtain ⟨merged, points⟩ := started.foldl
    (fun interval listed => proper interval (same.mem_iff.mp listed)) ordered
    (by simp)
  rw [merged.sum_eq_card, points, spanned_perm same]
  exact congrArg Finset.card (Finset.union_empty (spanned intervals))

/-! ## Bands -/

/-- The pixels of a rectangle. -/
def rectanglePixels (rectangle : Nat × Nat × Nat × Nat) : Finset (Nat × Nat) :=
  Finset.Ico rectangle.1 (rectangle.1 + rectangle.2.2.1) ×ˢ
    Finset.Ico rectangle.2.1 (rectangle.2.1 + rectangle.2.2.2)

/-- The pixels of some rectangles. -/
def coveredPixels
    (rectangles : List (Nat × Nat × Nat × Nat)) : Finset (Nat × Nat) :=
  rectangles.foldr (fun rectangle rest => rectanglePixels rectangle ∪ rest) ∅

theorem mem_coveredPixels
    {pixel : Nat × Nat} :
    pixel ∈ coveredPixels rectangles ↔
      ∃ rectangle ∈ rectangles,
        (rectangle.1 ≤ pixel.1 ∧ pixel.1 < rectangle.1 + rectangle.2.2.1) ∧
          rectangle.2.1 ≤ pixel.2 ∧
            pixel.2 < rectangle.2.1 + rectangle.2.2.2 := by
  induction rectangles with
  | nil => simp [coveredPixels]
  | cons rectangle rest ih =>
      have unfolded : coveredPixels (rectangle :: rest) =
          rectanglePixels rectangle ∪ coveredPixels rest := rfl
      rw [unfolded, Finset.mem_union, ih, rectanglePixels,
        Finset.mem_product, Finset.mem_Ico, Finset.mem_Ico]
      simp

/-- What a band adds, without the checks. -/
def bandArea
    (rectangles : List (Nat × Nat × Nat × Nat))
    (band : Nat × Nat) : Nat :=
  mergedWidth (bandIntervals rectangles band.1 band.2) * (band.2 - band.1)

/-- The checks fail exactly where the sum is too large. -/
theorem bandPixels_eq
    (rectangles : List (Nat × Nat × Nat × Nat))
    (remaining : List (Nat × Nat)) :
    bandPixels rectangles remaining =
      if (remaining.map (bandArea rectangles)).sum ≤ u64Max then
        .ok (remaining.map (bandArea rectangles)).sum
      else .error "raster delta damage accounting overflowed" := by
  induction remaining with
  | nil => rfl
  | cons band rest ih =>
      obtain ⟨top, bottom⟩ := band
      rw [List.map_cons, List.sum_cons]
      unfold bandPixels
      rw [ih]
      generalize (rest.map (bandArea rectangles)).sum = pixels
      have area : bandArea rectangles (top, bottom) =
          mergedWidth (bandIntervals rectangles top bottom) *
            (bottom - top) := rfl
      rw [area]
      generalize mergedWidth (bandIntervals rectangles top bottom) = width
      unfold checkedMul
      by_cases before : pixels ≤ u64Max
      · rw [if_pos before]
        dsimp only
        by_cases product : width * (bottom - top) ≤ u64Max
        · rw [if_pos product, Option.bind_some]
          unfold checkedAdd
          by_cases sum : width * (bottom - top) + pixels ≤ u64Max
          · rw [if_pos (by omega), if_pos sum, Nat.add_comm]
          · rw [if_neg (by omega), if_neg sum]
        · rw [if_neg product, Option.bind_none, if_neg (by omega)]
      · have sum : ¬ width * (bottom - top) + pixels ≤ u64Max := by omega
        rw [if_neg before, if_neg sum]

/-- No edge of a rectangle lies within a band. -/
def EdgesAmong
    (rectangles : List (Nat × Nat × Nat × Nat))
    (first : Nat)
    (edges : List Nat) : Prop :=
  ∀ rectangle ∈ rectangles,
    (rectangle.2.1 ≤ first ∨ rectangle.2.1 ∈ edges) ∧
      (rectangle.2.1 + rectangle.2.2.2 ≤ first ∨
        rectangle.2.1 + rectangle.2.2.2 ∈ edges)

/-- Within a band each row has the same pixels. -/
theorem mem_band_iff
    {top bottom : Nat}
    (edges : ∀ rectangle ∈ rectangles,
      (rectangle.2.1 ≤ top ∨ bottom ≤ rectangle.2.1) ∧
        (rectangle.2.1 + rectangle.2.2.2 ≤ top ∨
          bottom ≤ rectangle.2.1 + rectangle.2.2.2))
    {pixel : Nat × Nat}
    (below : top ≤ pixel.2)
    (above : pixel.2 < bottom) :
    pixel ∈ coveredPixels rectangles ↔
      pixel.1 ∈ spanned (bandIntervals rectangles top bottom) := by
  rw [mem_coveredPixels, mem_spanned]
  unfold bandIntervals
  simp only [List.mem_map, List.mem_filter, Bool.and_eq_true,
    decide_eq_true_eq]
  constructor
  · rintro ⟨rectangle, listed, across, down⟩
    obtain ⟨start, stop⟩ := edges rectangle listed
    refine ⟨_, ⟨rectangle, ⟨listed, ?_, ?_⟩, rfl⟩, across⟩
    · obtain before | after := start
      · exact before
      · omega
    · obtain before | after := stop
      · omega
      · exact after
  · rintro ⟨interval, ⟨rectangle, ⟨listed, starts, stops⟩, rfl⟩, across⟩
    exact ⟨rectangle, listed, across, starts.trans below,
      above.trans_le stops⟩

/-- The bands from an edge on count the pixels from that edge on. -/
theorem sum_bandArea
    {first : Nat}
    {edges : List Nat}
    (ascending : (first :: edges).Pairwise (· < ·))
    (among : EdgesAmong rectangles first edges) :
    ((bands (first :: edges)).map (bandArea rectangles)).sum =
      ((coveredPixels rectangles).filter fun pixel =>
        first ≤ pixel.2).card := by
  induction edges generalizing first with
  | nil =>
      have empty : (coveredPixels rectangles).filter
          (fun pixel => first ≤ pixel.2) = ∅ := by
        rw [Finset.filter_eq_empty_iff]
        intro pixel covered from_
        obtain ⟨rectangle, listed, -, -, ends⟩ :=
          mem_coveredPixels.mp covered
        obtain ⟨-, before | impossible⟩ := among rectangle listed
        · omega
        · cases impossible
      rw [empty]
      rfl
  | cons second rest ih =>
      have next : first < second :=
        List.rel_of_pairwise_cons ascending List.mem_cons_self
      have later : ∀ edge ∈ rest, second < edge := fun edge listed =>
        List.rel_of_pairwise_cons ascending.of_cons listed
      have amongRest : EdgesAmong rectangles second rest := by
        intro rectangle listed
        obtain ⟨start, stop⟩ := among rectangle listed
        rw [List.mem_cons] at start stop
        constructor
        · obtain before | same | behind := start
          · exact .inl (by omega)
          · exact .inl (by omega)
          · exact .inr behind
        · obtain before | same | behind := stop
          · exact .inl (by omega)
          · exact .inl (by omega)
          · exact .inr behind
      have outside : ∀ rectangle ∈ rectangles,
          (rectangle.2.1 ≤ first ∨ second ≤ rectangle.2.1) ∧
            (rectangle.2.1 + rectangle.2.2.2 ≤ first ∨
              second ≤ rectangle.2.1 + rectangle.2.2.2) := by
        intro rectangle listed
        obtain ⟨start, stop⟩ := among rectangle listed
        rw [List.mem_cons] at start stop
        constructor
        · obtain before | same | behind := start
          · exact .inl before
          · exact .inr (by omega)
          · exact .inr (le_of_lt (later _ behind))
        · obtain before | same | behind := stop
          · exact .inl before
          · exact .inr (by omega)
          · exact .inr (le_of_lt (later _ behind))
      have proper : ∀ interval ∈ bandIntervals rectangles first second,
          interval.1 ≤ interval.2 := by
        intro interval listed
        obtain ⟨rectangle, -, rfl⟩ := List.mem_map.mp listed
        exact Nat.le_add_right _ _
      have split : (coveredPixels rectangles).filter
          (fun pixel => first ≤ pixel.2) =
            (spanned (bandIntervals rectangles first second) ×ˢ
              Finset.Ico first second) ∪
            (coveredPixels rectangles).filter
              (fun pixel => second ≤ pixel.2) := by
        ext pixel
        rw [Finset.mem_filter, Finset.mem_union, Finset.mem_product,
          Finset.mem_Ico, Finset.mem_filter]
        by_cases above : pixel.2 < second
        · have notBelow : ¬ second ≤ pixel.2 := by omega
          simp only [above, and_true, notBelow, and_false, or_false]
          constructor
          · rintro ⟨covered, below⟩
            exact ⟨(mem_band_iff outside below above).mp covered, below⟩
          · rintro ⟨inBand, below⟩
            exact ⟨(mem_band_iff outside below above).mpr inBand, below⟩
        · have below : second ≤ pixel.2 := by omega
          have further : first ≤ pixel.2 := by omega
          simp [above, below, further]
      have disjoint : Disjoint
          (spanned (bandIntervals rectangles first second) ×ˢ
            Finset.Ico first second)
          ((coveredPixels rectangles).filter
            (fun pixel => second ≤ pixel.2)) := by
        rw [Finset.disjoint_left]
        intro pixel here there
        rw [Finset.mem_product, Finset.mem_Ico] at here
        have below := (Finset.mem_filter.mp there).2
        omega
      have unfolded : bands (first :: second :: rest) =
          (first, second) :: bands (second :: rest) := rfl
      rw [unfolded, List.map_cons, List.sum_cons,
        ih ascending.of_cons amongRest, split,
        Finset.card_union_of_disjoint disjoint, Finset.card_product,
        Nat.card_Ico]
      unfold bandArea
      rw [mergedWidth_eq_card proper]

/-! ## The damage -/

theorem ascending_rectangleEdges
    (rectangles : List (Nat × Nat × Nat × Nat)) :
    (rectangleEdges rectangles).Pairwise (· < ·) := by
  unfold rectangleEdges
  generalize (rectangles.flatMap fun rectangle =>
    [rectangle.2.1, rectangle.2.1 + rectangle.2.2.2]) = edges
  have sorted : (edges.mergeSort (fun one two => decide (one ≤ two))).Pairwise
      (fun one two => one ≤ two) := by
    have sound := @List.pairwise_mergeSort _
      (fun one two : Nat => decide (one ≤ two))
      (by
        intro one two three before after
        rw [decide_eq_true_eq] at before after ⊢
        omega)
      (by
        intro one two
        rw [Bool.or_eq_true, decide_eq_true_eq, decide_eq_true_eq]
        exact le_total _ _) edges
    exact sound.imp fun before => decide_eq_true_eq.mp before
  have distinct := List.nodup_dedup
    (edges.mergeSort (fun one two => decide (one ≤ two)))
  have still := sorted.sublist (List.dedup_sublist _)
  exact (still.and distinct).imp fun both => lt_of_le_of_ne both.1 both.2

theorem mem_rectangleEdges
    {rectangles : List (Nat × Nat × Nat × Nat)}
    {rectangle : Nat × Nat × Nat × Nat}
    (listed : rectangle ∈ rectangles) :
    rectangle.2.1 ∈ rectangleEdges rectangles ∧
      rectangle.2.1 + rectangle.2.2.2 ∈ rectangleEdges rectangles := by
  unfold rectangleEdges
  rw [List.mem_dedup, List.mem_dedup, List.mem_mergeSort, List.mem_mergeSort,
    List.mem_flatMap, List.mem_flatMap]
  exact ⟨⟨rectangle, listed, by simp⟩, ⟨rectangle, listed, by simp⟩⟩

/-- All bands count all pixels. -/
theorem sum_rectangleBands
    (rectangles : List (Nat × Nat × Nat × Nat)) :
    ((bands (rectangleEdges rectangles)).map (bandArea rectangles)).sum =
      (coveredPixels rectangles).card := by
  have ascending := ascending_rectangleEdges rectangles
  have listed : ∀ rectangle ∈ rectangles, _ :=
    fun rectangle inside => @mem_rectangleEdges rectangles rectangle inside
  cases edgesAre : rectangleEdges rectangles with
  | nil =>
      have none : rectangles = [] := by
        rw [List.eq_nil_iff_forall_not_mem]
        intro rectangle inside
        have edge := (listed rectangle inside).1
        rw [edgesAre] at edge
        cases edge
      rw [none]
      rfl
  | cons first edges =>
      rw [edgesAre] at ascending
      have least : ∀ edge ∈ first :: edges, first ≤ edge := by
        rw [List.forall_mem_cons]
        exact ⟨le_rfl, fun edge behind =>
          le_of_lt (List.rel_of_pairwise_cons ascending behind)⟩
      have among : EdgesAmong rectangles first edges := by
        intro rectangle inside
        obtain ⟨start, stop⟩ := listed rectangle inside
        rw [edgesAre, List.mem_cons] at start stop
        constructor
        · exact start.imp le_of_eq id
        · exact stop.imp le_of_eq id
      rw [sum_bandArea ascending among, Finset.filter_true_of_mem]
      intro pixel covered
      obtain ⟨rectangle, inside, -, starts, -⟩ := mem_coveredPixels.mp covered
      have edge := (listed rectangle inside).1
      rw [edgesAre] at edge
      exact (least _ edge).trans starts

/-- The pixels that some operations write. -/
def damagedPixels (operations : List DeltaOperation) : Finset (Nat × Nat) :=
  coveredPixels (operations.map DeltaOperation.rectangle)

/-- `raster_damage_pixels` fails only where the damage is too large. -/
theorem rasterDamagePixels_eq
    (operations : List DeltaOperation) :
    rasterDamagePixels operations =
      if (damagedPixels operations).card ≤ u64Max then
        .ok (damagedPixels operations).card
      else .error "raster delta damage accounting overflowed" := by
  unfold rasterDamagePixels
  dsimp only
  rw [bandPixels_eq, sum_rectangleBands]
  rfl

theorem damagedPixels_perm
    {operations order : List DeltaOperation}
    (same : operations.Perm order) :
    damagedPixels operations = damagedPixels order := by
  ext pixel
  unfold damagedPixels
  simp only [mem_coveredPixels, (same.map DeltaOperation.rectangle).mem_iff]

/-- There are no more pixels than the square of the largest far edge. -/
theorem card_damagedPixels_le
    {operations : List DeltaOperation}
    {limit : Nat}
    (fits : ∀ operation ∈ operations,
      operation.rectangle.1 + operation.rectangle.2.2.1 ≤ limit ∧
        operation.rectangle.2.1 + operation.rectangle.2.2.2 ≤ limit) :
    (damagedPixels operations).card ≤ limit * limit := by
  have inside : damagedPixels operations ⊆
      Finset.Ico 0 limit ×ˢ Finset.Ico 0 limit := by
    intro pixel covered
    obtain ⟨rectangle, listed, across, down⟩ := mem_coveredPixels.mp covered
    obtain ⟨operation, there, rfl⟩ := List.mem_map.mp listed
    have edges := fits operation there
    rw [Finset.mem_product, Finset.mem_Ico, Finset.mem_Ico]
    omega
  have square := Finset.card_le_card inside
  rwa [Finset.card_product, Nat.card_Ico, Nat.sub_zero] at square

/-- The damage of operations whose far edges are coordinates is the number of
pixels that they write, whatever their order, and it is always found. -/
theorem rasterDamagePixels_exact
    (operations : List DeltaOperation)
    (fits : ∀ operation ∈ operations,
      operation.rectangle.1 + operation.rectangle.2.2.1 ≤ u32Max ∧
        operation.rectangle.2.1 + operation.rectangle.2.2.2 ≤ u32Max) :
    rasterDamagePixels operations = .ok (damagedPixels operations).card ∧
      (∀ pixel, pixel ∈ damagedPixels operations ↔
        ∃ operation ∈ operations,
          pixel ∈ rectanglePixels operation.rectangle) ∧
      ∀ order, operations.Perm order →
        rasterDamagePixels order = rasterDamagePixels operations := by
  refine ⟨?_, ?_, ?_⟩
  · have few : (damagedPixels operations).card ≤ u64Max :=
      (card_damagedPixels_le fits).trans (Nat.le_of_ble_eq_true rfl)
    rw [rasterDamagePixels_eq, if_pos few]
  · intro pixel
    unfold damagedPixels rectanglePixels
    rw [mem_coveredPixels]
    simp only [List.mem_map, exists_exists_and_eq_and, Finset.mem_product,
      Finset.mem_Ico]
  · intro order same
    rw [rasterDamagePixels_eq, rasterDamagePixels_eq, damagedPixels_perm same]

/-- Two overlapping rectangles, and one that touches them. -/
theorem rasterDamagePixels_exact_overlap :
    rasterDamagePixels
        [.overwrite 0 0 2 2 [], .copy 1 1 2 2 0 0, .overwrite 2 0 1 1 []] =
      .ok (damagedPixels
        [.overwrite 0 0 2 2 [], .copy 1 1 2 2 0 0,
          .overwrite 2 0 1 1 []]).card :=
  (rasterDamagePixels_exact _ (by decide)).1

end Media
end Vvmux
