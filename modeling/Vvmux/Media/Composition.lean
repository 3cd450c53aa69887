import Vvmux.Library.RowBuffer
import Vvmux.Media.Raster

/-!
# Composition of raster deltas

The pixels that a delta leaves behind, against a picture of pixels in which
every operation reads the picture as it was before.
-/

namespace Vvmux
namespace Media

open Library

variable (protocol : Protocol)

/-! ## Pictures -/

/-- The four bytes of a pixel. -/
abbrev Pixel := Fin 4 → UInt8

/-- The pixels of a picture by column and row; outside of it there are
none. -/
abbrev Picture := Nat → Nat → Option Pixel

/-- A position lies in a rectangle. -/
def inRectangle (left top width height column row : Nat) : Bool :=
  decide (left ≤ column) && decide (column < left + width) &&
    decide (top ≤ row) && decide (row < top + height)

/-- The picture that the decoded pixels of a frame are. -/
def picture (width height : Nat) (pixels : Pixels) : Picture :=
  fun column row =>
    if inRectangle 0 0 width height column row then
      some fun channel =>
        (pixels[(row * width + column) * 4 + channel.val]?).getD 0
    else none

/-- A payload replaces the pixels of a rectangle. -/
def Picture.overwrite
    (shown : Picture)
    (left top width height : Nat)
    (payload : Picture) : Picture :=
  fun column row =>
    if inRectangle left top width height column row then
      payload (column - left) (row - top)
    else shown column row

/-- Every pixel of a rectangle gets the one that was at its place in another
rectangle before. -/
def Picture.copy
    (shown : Picture)
    (left top width height sourceLeft sourceTop : Nat) : Picture :=
  fun column row =>
    if inRectangle left top width height column row then
      shown (sourceLeft + (column - left)) (sourceTop + (row - top))
    else shown column row

/-- What an operation is to do to a picture. -/
def DeltaOperation.paint
    (shown : Picture) :
    DeltaOperation → Picture
  | overwrite x y width height rgba =>
      shown.overwrite x y width height (picture width height rgba)
  | copy destinationX destinationY width height sourceX sourceY =>
      shown.copy destinationX destinationY width height sourceX sourceY

/-- The rectangles of an operation lie in the frame, and a payload has the
length of its rectangle. -/
def DeltaOperation.Within
    (frameWidth frameHeight : Nat) :
    DeltaOperation → Prop
  | overwrite x y width height rgba =>
      x + width ≤ frameWidth ∧ y + height ≤ frameHeight ∧
        rgba.length = width * height * 4
  | copy destinationX destinationY width height sourceX sourceY =>
      destinationX + width ≤ frameWidth ∧
        destinationY + height ≤ frameHeight ∧
        sourceX + width ≤ frameWidth ∧ sourceY + height ≤ frameHeight

/-! ## Operations on bytes -/

/-- The byte of a pixel as a cell of its row. -/
theorem byte_eq_cell
    (width : Nat)
    (pixels : Pixels)
    (column row : Nat)
    (channel : Fin 4) :
    pixels[(row * width + column) * 4 + channel.val]? =
      RowBuffer.cell (width * 4) pixels (column * 4 + channel.val) row := by
  unfold RowBuffer.cell
  congr 1
  ring

variable {width height now : Nat} {pixels : Pixels} {source : Source}
  {config : RasterConfig} {prepared : PreparedRaster}

/-- Pictures agree when the bytes of their pixels do. -/
theorem picture_congr
    {shown : Picture}
    (inside : ∀ column row, column < width → row < height →
      shown column row = some fun channel =>
        ((RowBuffer.cell (width * 4) pixels (column * 4 + channel.val)
          row).getD 0))
    (outside : ∀ column row, ¬(column < width ∧ row < height) →
      shown column row = none) :
    picture width height pixels = shown := by
  funext column row
  unfold picture inRectangle
  by_cases within : column < width ∧ row < height
  · rw [if_pos (by simp [within]), inside column row within.1 within.2]
    simp only [byte_eq_cell]
  · rw [if_neg (by simpa using within), outside column row within]

theorem inRectangle_iff
    {left top width height column row : Nat} :
    inRectangle left top width height column row = true ↔
      left ≤ column ∧ column < left + width ∧
        top ≤ row ∧ row < top + height := by
  simp only [inRectangle, Bool.and_eq_true, decide_eq_true_eq, and_assoc]

/-- A rectangle whose rows were painted shows the pixels of its content. -/
theorem picture_painted
    {width height left top across down : Nat}
    {content : Nat → Nat → Option UInt8}
    {rows : List Nat}
    {before after : Pixels}
    (painted : RowBuffer.Painted (width * 4) (left * 4) top (across * 4)
      content rows before after)
    (all : ∀ row, row ∈ rows ↔ row < down)
    (fits : left + across ≤ width)
    (within : top + down ≤ height)
    (replacement : Picture)
    (shows : ∀ column row, column < across → row < down →
      replacement column row = some fun channel =>
        (content row (column * 4 + channel.val)).getD 0) :
    picture width height after = fun column row =>
      if inRectangle left top across down column row then
        replacement (column - left) (row - top)
      else picture width height before column row := by
  apply picture_congr
  · intro column row across_lt down_lt
    by_cases covered : inRectangle left top across down column row = true
    · rw [if_pos covered]
      obtain ⟨fromLeft, toRight, fromTop, toBottom⟩ :=
        inRectangle_iff.mp covered
      rw [shows _ _ (by omega) (by omega)]
      congr 1
      funext channel
      have small := channel.isLt
      rw [painted.cells _ _ (by omega),
        if_pos ⟨fromTop, (all _).mpr (by omega), by omega, by omega⟩]
      congr 2
      omega
    · rw [if_neg covered]
      unfold picture
      rw [if_pos (inRectangle_iff.mpr (by omega))]
      congr 1
      funext channel
      have small := channel.isLt
      rw [painted.cells _ _ (by omega), if_neg, byte_eq_cell]
      rintro ⟨fromTop, inside, fromLeft, toRight⟩
      have := (all _).mp inside
      exact covered (inRectangle_iff.mpr (by omega))
  · intro column row outside
    have uncovered : ¬inRectangle left top across down column row = true := by
      rw [inRectangle_iff]
      omega
    rw [if_neg uncovered]
    unfold picture
    rw [if_neg]
    rw [inRectangle_iff]
    omega

/-- The pixels of a picture, by the cells of its rows. -/
theorem picture_eq_some
    {width height column row : Nat}
    (pixels : Pixels)
    (across : column < width)
    (down : row < height) :
    picture width height pixels column row = some fun channel =>
      (RowBuffer.cell (width * 4) pixels (column * 4 + channel.val)
        row).getD 0 := by
  unfold picture
  rw [if_pos (inRectangle_iff.mpr (by omega))]
  simp only [byte_eq_cell]

/-- Rows that are copied downwards start from the last, so that none is read
behind its own copy. -/
theorem pairwise_copyRows
    (destinationY sourceY height : Nat) :
    (if sourceY < destinationY then (List.range height).reverse
      else List.range height).Pairwise fun earlier later =>
        destinationY + earlier ≠ sourceY + later := by
  have ascending : (List.range height).Pairwise (· < ·) :=
    List.pairwise_lt_range
  split
  · rw [List.pairwise_reverse]
    exact ascending.imp fun less => by omega
  · exact ascending.imp fun less => by omega

/-- An operation within a frame keeps the length of its pixels and does to the
picture what it is to do. -/
theorem picture_applyRasterDeltaOperation
    {operation : DeltaOperation}
    (whole : pixels.length = width * height * 4)
    (within : operation.Within width height) :
    (applyRasterDeltaOperation width pixels operation).length =
        width * height * 4 ∧
      picture width height (applyRasterDeltaOperation width pixels operation) =
        operation.paint (picture width height pixels) := by
  have rowsWhole : pixels.length = height * (width * 4) := by
    rw [whole]
    ring
  have rowsWithin : ∀ bottom, bottom ≤ height →
      bottom * (width * 4) ≤ pixels.length := by
    intro bottom below
    rw [rowsWhole]
    exact Nat.mul_le_mul_right _ below
  cases operation with
  | overwrite x y across down rgba =>
      obtain ⟨fits, below, sized⟩ := within
      have painted : RowBuffer.Painted (width * 4) (x * 4) y (across * 4)
          (fun row column => RowBuffer.cell (across * 4) rgba column row)
          (List.range down) pixels
          (applyRasterDeltaOperation width pixels
            (.overwrite x y across down rgba)) :=
        RowBuffer.painted_overwrite (by omega) (rowsWithin _ below)
          (by rw [sized]; ring)
      refine ⟨painted.length.trans whole, ?_⟩
      exact picture_painted painted (fun _ => List.mem_range) fits below
        (picture across down rgba)
        fun column row inside under => picture_eq_some rgba inside under
  | copy destinationX destinationY across down sourceX sourceY =>
      obtain ⟨fits, below, sourceFits, sourceBelow⟩ := within
      have rows : ∀ row, row ∈ (if sourceY < destinationY then
          (List.range down).reverse else List.range down) ↔ row < down := by
        intro row
        split <;> simp
      have painted : RowBuffer.Painted (width * 4) (destinationX * 4)
          destinationY (across * 4)
          (fun row column => RowBuffer.cell (width * 4) pixels
            (sourceX * 4 + column) (sourceY + row))
          (if sourceY < destinationY then (List.range down).reverse
            else List.range down) pixels
          (applyRasterDeltaOperation width pixels
            (.copy destinationX destinationY across down sourceX sourceY)) :=
        RowBuffer.painted_copy (by omega) (by omega) (rowsWithin _ below)
          (rowsWithin _ sourceBelow) (fun row inside => (rows row).mp inside)
          (pairwise_copyRows destinationY sourceY down)
      refine ⟨painted.length.trans whole, ?_⟩
      refine picture_painted painted rows fits below
        (fun column row =>
          picture width height pixels (sourceX + column) (sourceY + row))
        fun column row inside under => ?_
      rw [picture_eq_some pixels (by omega) (by omega)]
      congr 1
      funext channel
      congr 2
      ring

/-- Operations within a frame, one after the other. -/
theorem picture_applyOperations
    {operations : List DeltaOperation}
    (within : ∀ operation ∈ operations, operation.Within width height)
    (whole : pixels.length = width * height * 4) :
    (operations.foldl (applyRasterDeltaOperation width) pixels).length =
        width * height * 4 ∧
      picture width height
          (operations.foldl (applyRasterDeltaOperation width) pixels) =
        operations.foldl DeltaOperation.paint (picture width height pixels) := by
  induction operations generalizing pixels with
  | nil => exact ⟨whole, rfl⟩
  | cons operation rest ih =>
      obtain ⟨length, same⟩ := picture_applyRasterDeltaOperation whole
        (within operation (by simp))
      rw [List.foldl_cons, List.foldl_cons, ← same]
      exact ih
        (fun other inside => within other (by simp [inside])) length

/-! ## What is accepted -/

/-- An accepted media id lengthens its sequence. -/
theorem accept_ok
    {protocol : Protocol}
    {sequence longer : MediaSequence}
    {mediaId epoch : Nat}
    (accepted : protocol.accept sequence mediaId epoch = .ok longer) :
    ∃ entry, longer = entry :: sequence := by
  unfold Protocol.accept at accepted
  split at accepted
  · cases accepted
    exact ⟨_, rfl⟩
  · cases accepted

/-- How an accepted raster record and what is prepared of it belong
together. -/
inductive Source.Composes
    (source : Source)
    (config : RasterConfig) :
    RasterBody → PreparedRaster → Prop
  | full (parsed : ParsedFullFrame) (pixels : Pixels)
      (prepared : PreparedRaster) :
      parsed.pixels = .ok pixels →
      parsed.width = config.width → parsed.height = config.height →
      prepared.frame =
        { epoch := parsed.epoch
          frameId := parsed.frameId
          ptsUs := parsed.ptsUs
          durationUs := parsed.durationUs
          width := config.width
          height := config.height
          pixels := pixels } →
      protocol.accept source.sequence parsed.frameId parsed.epoch =
        .ok prepared.sequence →
      Composes source config (.full (.ok parsed)) prepared
  | delta (delta : DeltaFrame) (retained : Retained) (current : FullFrame)
      (prepared : PreparedRaster) :
      source.rasterRequiresFullReason = none →
      source.retained = some retained → retained.frame = some current →
      delta.epoch = current.epoch → delta.baseFrameId = current.frameId →
      prepared.frame =
        { epoch := delta.epoch
          frameId := delta.frameId
          ptsUs := delta.ptsUs
          durationUs := delta.durationUs
          width := config.width
          height := config.height
          pixels := delta.operations.foldl
            (applyRasterDeltaOperation config.width) current.pixels } →
      protocol.accept source.sequence delta.frameId delta.epoch =
        .ok prepared.sequence →
      Composes source config (.delta (.ok delta)) prepared

theorem prepareFullRaster_accepted
    {parsed : Except String ParsedFullFrame}
    {preparation : RasterPreparation}
    (result : prepareFullRaster protocol source config parsed now =
      .ok preparation) :
    ∃ prepared, preparation = .accepted prepared ∧
      source.Composes protocol config (.full parsed) prepared := by
  unfold prepareFullRaster at result
  split at result
  · cases result
  · rename_i parsed
    split at result
    · cases result
    · rename_i same
      rw [not_not, Prod.mk.injEq] at same
      split at result
      · cases result
      · rename_i pixels decoded
        simp only at result
        split at result
        · cases result
        · split at result
          · cases result
          · rename_i sequence accepted
            cases result
            exact ⟨_, rfl,
              .full parsed pixels _ decoded same.1 same.2 rfl accepted⟩

theorem composeDelta_accepted
    {delta : DeltaFrame}
    {current : FullFrame}
    (result : composeDelta protocol source config delta current now =
      .ok (.accepted prepared)) :
    prepared.frame =
        { epoch := delta.epoch
          frameId := delta.frameId
          ptsUs := delta.ptsUs
          durationUs := delta.durationUs
          width := config.width
          height := config.height
          pixels := delta.operations.foldl
            (applyRasterDeltaOperation config.width) current.pixels } ∧
      protocol.accept source.sequence delta.frameId delta.epoch =
        .ok prepared.sequence := by
  unfold composeDelta at result
  split at result
  · cases result
  · dsimp only at result
    generalize decide (rasterDamageIntervalUs ≤
      now - source.rasterDamageWindowStarted) = renewed at result
    generalize (if renewed = true then now
      else source.rasterDamageWindowStarted) = started at result
    generalize (if renewed = true then 0
      else source.rasterDamagePixels) = accumulated at result
    split at result
    · cases result
    · split at result
      · cases result
      · rename_i sequence accepted
        split at result
        · cases result
        · cases result
          exact ⟨rfl, accepted⟩

variable {body : RasterBody}

/-- A raster record is accepted only as one of its two kinds. -/
theorem prepareRaster_accepted
    (result : prepareRaster protocol source config body now =
      .ok (.accepted prepared)) :
    source.Composes protocol config body prepared := by
  unfold prepareRaster at result
  split at result
  · cases result
  · obtain ⟨other, same, composes⟩ := prepareFullRaster_accepted protocol result
    cases same
    exact composes
  · unfold prepareDeltaRaster at result
    split at result
    · cases result
    · split at result
      · cases result
      · rename_i delta
        split at result
        · cases result
        · rename_i free
          split at result
          · cases result
          · rename_i retained retains
            split at result
            · cases result
            · rename_i current holds
              split at result
              · cases result
              · rename_i based
                rw [not_or, not_not, not_not] at based
                obtain ⟨frame, accepted⟩ :=
                  composeDelta_accepted protocol result
                exact .delta delta retained current prepared free retains
                  holds based.1 based.2 frame accepted

/-- An accepted raster record lengthens the sequence of its source. -/
theorem Source.Composes.sequence
    {protocol : Protocol}
    (composes : source.Composes protocol config body prepared) :
    ∃ entry, prepared.sequence = entry :: source.sequence := by
  cases composes with
  | full parsed pixels _ decoded width height frame accepted =>
      exact accept_ok accepted
  | delta delta retained current _ free retains holds epoch base frame
      accepted =>
      exact accept_ok accepted

end Media
end Vvmux
