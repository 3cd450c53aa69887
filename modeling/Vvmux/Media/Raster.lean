import Vvmux.Media.State

/-!
# Raster frames

A full frame replaces the retained pixels.  A delta is applied to them if it
names the retained frame as its base and stays within the damage budget;
otherwise it is rejected and a full frame is asked for.
-/

namespace Vvmux
namespace Media

open Library

variable (protocol : Protocol)

def rasterDamageFrameEquivalents : Nat := 8

/-- `RASTER_DAMAGE_INTERVAL` in microseconds. -/
def rasterDamageIntervalUs : Nat := 100000

/-! ## Damage -/

/-- The rectangle an operation writes: left, top, width and height. -/
def DeltaOperation.rectangle :
    DeltaOperation → Nat × Nat × Nat × Nat
  | overwrite x y width height _ => (x, y, width, height)
  | copy x y width height _ _ => (x, y, width, height)

/-- Merge one more interval into merged intervals, the last one first. -/
def mergeInterval :
    List (Nat × Nat) → Nat × Nat → List (Nat × Nat)
  | [], interval => [interval]
  | (left, right) :: rest, interval =>
      if interval.1 ≤ right then (left, max right interval.2) :: rest
      else interval :: (left, right) :: rest

/-- The length of the union of intervals. -/
def mergedWidth (intervals : List (Nat × Nat)) : Nat :=
  (((intervals.mergeSort fun one two => toLex one ≤ toLex two).foldl
    mergeInterval []).map fun interval => interval.2 - interval.1).sum

/-- The horizontal intervals of the rectangles that span a band. -/
def bandIntervals
    (rectangles : List (Nat × Nat × Nat × Nat))
    (top bottom : Nat) : List (Nat × Nat) :=
  (rectangles.filter fun (_, y, _, height) =>
    y ≤ top && bottom ≤ y + height).map fun (x, _, width, _) => (x, x + width)

/-- The bands between neighbouring edges. -/
def bands (edges : List Nat) : List (Nat × Nat) :=
  edges.zip edges.tail

/-- The horizontal edges of the rectangles, ascending and distinct. -/
def rectangleEdges (rectangles : List (Nat × Nat × Nat × Nat)) : List Nat :=
  ((rectangles.flatMap fun (_, y, _, height) =>
    [y, y + height]).mergeSort (· ≤ ·)).dedup

/-- Add up the damaged area band by band. -/
def bandPixels
    (rectangles : List (Nat × Nat × Nat × Nat)) :
    List (Nat × Nat) → Except String Nat
  | [] => .ok 0
  | (top, bottom) :: rest =>
      match bandPixels rectangles rest with
      | .error text => .error text
      | .ok pixels =>
          match (checkedMul u64Max
              (mergedWidth (bandIntervals rectangles top bottom))
              (bottom - top)).bind (checkedAdd u64Max pixels) with
          | none => .error "raster delta damage accounting overflowed"
          | some sum => .ok sum

/-- `raster_damage_pixels` -/
def rasterDamagePixels (operations : List DeltaOperation) : Except String Nat :=
  let rectangles := operations.map DeltaOperation.rectangle
  bandPixels rectangles (bands (rectangleEdges rectangles))

/-! ## Composition -/

/-- `copy_from_slice` into a range that starts at an offset. -/
def writeBytes (pixels : Pixels) (offset : Nat) (bytes : List UInt8) : Pixels :=
  pixels.take offset ++ bytes ++ pixels.drop (offset + bytes.length)

/-- The bytes of a range. -/
def readBytes (pixels : List UInt8) (offset length : Nat) : List UInt8 :=
  (pixels.drop offset).take length

/-- `apply_raster_delta_operation` -/
def applyRasterDeltaOperation
    (sourceWidth : Nat)
    (pixels : Pixels) :
    DeltaOperation → Pixels
  | .overwrite x y width height rgba =>
      let stride := sourceWidth * 4
      let rowBytes := width * 4
      (List.range height).foldl
        (fun pixels row =>
          writeBytes pixels ((y + row) * stride + x * 4)
            (readBytes rgba (row * rowBytes) rowBytes))
        pixels
  | .copy destinationX destinationY width height sourceX sourceY =>
      let stride := sourceWidth * 4
      let rowBytes := width * 4
      -- Overlapping rows are copied from the far end.
      let rows :=
        if sourceY < destinationY then (List.range height).reverse
        else List.range height
      rows.foldl
        (fun pixels row =>
          writeBytes pixels
            ((destinationY + row) * stride + destinationX * 4)
            (readBytes pixels ((sourceY + row) * stride + sourceX * 4)
              rowBytes))
        pixels

/-! ## Preparation -/

/-- `PreparedRaster`, with the frame that its canonical body holds. -/
structure PreparedRaster where
  frame : FullFrame
  length : Nat
  sequence : MediaSequence
  damageWindowStarted : Nat
  damagePixels : Nat

inductive RasterPreparation where
  | accepted (prepared : PreparedRaster)
  | rejected (reason : FullFrameReason) (notify : Bool)

section

variable (source : Source) (config : RasterConfig)

/-- The body of a full frame replaces what the source retains. -/
def prepareFullRaster
    (parsed : Except String ParsedFullFrame)
    (now : Nat) : Except String RasterPreparation :=
  match parsed with
  | .error text => .error text
  | .ok parsed =>
      if (parsed.width, parsed.height) ≠ (config.width, config.height) then
        .error "raster dimensions changed"
      else
        match parsed.pixels with
        | .error text => .error text
        | .ok pixels =>
            let frame : FullFrame :=
              { epoch := parsed.epoch
                frameId := parsed.frameId
                ptsUs := parsed.ptsUs
                durationUs := parsed.durationUs
                width := config.width
                height := config.height
                pixels := pixels }
            match protocol.rasterFrameBody frame with
            | .error text => .error text
            | .ok length =>
                match protocol.accept source.sequence frame.frameId
                    frame.epoch with
                | .error text => .error text
                | .ok sequence =>
                    .ok (.accepted
                      { frame := frame
                        length := length
                        sequence := sequence
                        damageWindowStarted := now
                        damagePixels := 0 })

/-- A delta whose base is retained: compose it within the damage budget. -/
def composeDelta
    (delta : DeltaFrame)
    (current : FullFrame)
    (now : Nat) : Except String RasterPreparation :=
  match rasterDamagePixels delta.operations with
  | .error text => .error text
  | .ok damaged =>
      let renewed := decide
        (rasterDamageIntervalUs ≤ now - source.rasterDamageWindowStarted)
      let windowStarted :=
        if renewed then now else source.rasterDamageWindowStarted
      let accumulated := if renewed then 0 else source.rasterDamagePixels
      let budget := min u64Max
        (config.width * config.height * rasterDamageFrameEquivalents)
      if budget < saturatingAdd u64Max accumulated damaged then
        .ok (.rejected .damageBudget true)
      else
        let pixels := delta.operations.foldl
          (applyRasterDeltaOperation config.width) current.pixels
        match protocol.accept source.sequence delta.frameId delta.epoch with
        | .error text => .error text
        | .ok sequence =>
            let frame : FullFrame :=
              { epoch := delta.epoch
                frameId := delta.frameId
                ptsUs := delta.ptsUs
                durationUs := delta.durationUs
                width := config.width
                height := config.height
                pixels := pixels }
            match protocol.rasterFrameBody frame with
            | .error text => .error text
            | .ok length =>
                .ok (.accepted
                  { frame := frame
                    length := length
                    sequence := sequence
                    damageWindowStarted := windowStarted
                    damagePixels := saturatingAdd u64Max accumulated damaged })

/-- A delta is composed onto the retained frame it is based on. -/
def prepareDeltaRaster
    (parsed : Except String DeltaFrame)
    (now : Nat) : Except String RasterPreparation :=
  if !(source.rasterUpdate.any fun update =>
      update.mode == .fullFrameAndDelta) then
    .error "raster delta was not enabled by CREATE_RASTER"
  else
    match parsed with
    | .error text => .error text
    | .ok delta =>
        match source.rasterRequiresFullReason with
        | some reason => .ok (.rejected reason false)
        | none =>
            match source.retained with
            | none => .ok (.rejected .baseUnavailable true)
            | some retained =>
                match retained.frame with
                | none => .error "retained body is no raster frame"
                | some current =>
                    if delta.epoch ≠ current.epoch ∨
                        delta.baseFrameId ≠ current.frameId then
                      .ok (.rejected .baseUnavailable true)
                    else
                      composeDelta protocol source config delta current now

/-- `prepare_raster` -/
def prepareRaster
    (body : RasterBody)
    (now : Nat) : Except String RasterPreparation :=
  match body with
  | .truncated => .error "raster frame header is truncated"
  | .full parsed => prepareFullRaster protocol source config parsed now
  | .delta parsed => prepareDeltaRaster protocol source config parsed now

end

end Media
end Vvmux
