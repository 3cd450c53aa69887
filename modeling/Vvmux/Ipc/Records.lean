import Vvmux.Library.BigEndian
import Vvmux.Library.Chunks

/-!
# Records between server and client

Every record has a header with its sequence number, type, flags and length.
Media bodies and terminal frames go in binary records of their own, in chunks
that the negotiated maximum bounds.  The streams are lists of bytes: a writer
appends, and a reader takes from the front.
-/

namespace Vvmux

open Library

namespace Ipc

structure BridgeSourceKey where
  producer : UInt64
  source : UInt64
deriving DecidableEq

/-- `STRUCTURED_RECORD` -/
def structuredRecord : UInt16 := 1

/-- `MEDIA_RECORD` -/
def mediaRecord : UInt16 := 2

/-- `RENDER_RECORD` -/
def renderRecord : UInt16 := 3

/-- `MEDIA_RECORD_HEADER` -/
def mediaRecordHeader : Nat := 40

/-- `RENDER_RECORD_HEADER` -/
def renderRecordHeader : Nat := 24

/-- `MEDIA_FLAG_LAST` -/
def mediaFlagLast : UInt16 := 1

/-- `RENDER_FLAG_FULL` -/
def renderFlagFull : UInt16 := 1

/-- `RENDER_FLAG_LAST` -/
def renderFlagLast : UInt16 := 2

/-- `MEDIA_CHUNK` -/
def preferredMediaChunk : Nat := 128 * 1024

/-- `RENDER_CHUNK` -/
def preferredRenderChunk : Nat := 256 * 1024

/-- `u32::MAX` -/
def maxAddressable : Nat := 2 ^ 32 - 1

/-- `ServerMessage`, with the structured messages as they are encoded. -/
inductive ServerMessage where
  | structured (body : List UInt8)
  | mediaRecord (deliveryId : UInt64) (source : BridgeSourceKey)
      (recordType : UInt16) (offset total : UInt32) (last : Bool)
      (bytes : List UInt8)
  | render (frameId sessionSequence : UInt64) (full last : Bool)
      (bytes : List UInt8)
deriving DecidableEq

/-! ## Writing -/

structure RecordWriter where
  stream : List UInt8
  nextSequence : UInt64
  maximumBody : UInt32

/-- The header that `write_raw_parts` writes. -/
def rawHeader
    (sequence : UInt64)
    (recordType flags : UInt16)
    (length : Nat) : List UInt8 :=
  bigEndian 8 sequence.toNat ++ (bigEndian 2 recordType.toNat ++
    (bigEndian 2 flags.toNat ++ (bigEndian 4 length ++ [])))

/-- Header fields of one media chunk. -/
structure MediaChunk where
  deliveryId : UInt64
  source : BridgeSourceKey
  recordType : UInt16
  offset : UInt32
  total : UInt32
  last : Bool

/-- The header that `write_media_record` writes. -/
def MediaChunk.header (chunk : MediaChunk) : List UInt8 :=
  bigEndian 8 chunk.deliveryId.toNat ++
    (bigEndian 8 chunk.source.producer.toNat ++
    (bigEndian 8 chunk.source.source.toNat ++
    (bigEndian 2 chunk.recordType.toNat ++
    (bigEndian 2 (if chunk.last then mediaFlagLast else 0).toNat ++
    (bigEndian 4 chunk.offset.toNat ++
    (bigEndian 4 chunk.total.toNat ++ (bigEndian 4 0 ++ [])))))))

/-- The header that `write_render_record` writes. -/
def renderHeader
    (frameId sessionSequence : UInt64)
    (full last : Bool) : List UInt8 :=
  bigEndian 8 frameId.toNat ++ (bigEndian 8 sessionSequence.toNat ++
    (bigEndian 2 ((if full then renderFlagFull else 0) |||
      (if last then renderFlagLast else 0)).toNat ++
    (bigEndian 2 0 ++ (bigEndian 4 0 ++ []))))

namespace RecordWriter

/-- `write_raw_parts`; the sink takes every byte. -/
def writeRawParts
    (writer : RecordWriter)
    (recordType flags : UInt16)
    (parts : List (List UInt8)) : RecordWriter × Except String Unit :=
  let length := (parts.map List.length).sum
  if flags &&& ~~~1 ≠ 0 then
    (writer, .error "VVMX record uses reserved flags")
  else if writer.maximumBody.toNat < length then
    (writer, .error "VVMX record body exceeds negotiated limit")
  else
    ({ writer with
        stream := writer.stream ++
          (rawHeader writer.nextSequence recordType flags length ++
            parts.flatten)
        nextSequence := writer.nextSequence + 1 },
      .ok ())

def payloadCapacity (writer : RecordWriter) (header : Nat) : Nat :=
  writer.maximumBody.toNat - header

def writeMediaRecord
    (writer : RecordWriter)
    (chunk : MediaChunk)
    (bytes : List UInt8) : RecordWriter × Except String Unit :=
  writer.writeRawParts mediaRecord 0 [chunk.header, bytes]

def writeRenderRecord
    (writer : RecordWriter)
    (frameId sessionSequence : UInt64)
    (full last : Bool)
    (bytes : List UInt8) : RecordWriter × Except String Unit :=
  writer.writeRawParts renderRecord 0
    [renderHeader frameId sessionSequence full last, bytes]

/-- The loop of `send_media_record`, from a chunk's index on. -/
def writeMediaChunks
    (size total : Nat)
    (header : MediaChunk) :
    Nat → List (List UInt8) → RecordWriter → RecordWriter × Except String Unit
  | _, [], writer => (writer, .ok ())
  | index, bytes :: rest, writer =>
      let offset := UInt32.ofNat (index * size)
      match writer.writeMediaRecord
          { header with
            offset := offset
            last := decide (offset.toNat + bytes.length = total) } bytes with
      | (after, .error error) => (after, .error error)
      | (after, .ok ()) =>
          writeMediaChunks size total header (index + 1) rest after

/-- `send_media_record` -/
def sendMediaRecord
    (writer : RecordWriter)
    (deliveryId : UInt64)
    (source : BridgeSourceKey)
    (recordType : UInt16)
    (body : List UInt8) : RecordWriter × Except String Unit :=
  if maxAddressable < body.length then
    (writer, .error "VVMX media body exceeds the addressable chunk range")
  else
    let size :=
      max 1 (min preferredMediaChunk
        (writer.payloadCapacity mediaRecordHeader))
    let header : MediaChunk :=
      { deliveryId := deliveryId
        source := source
        recordType := recordType
        offset := 0
        total := UInt32.ofNat body.length
        last := true }
    if body.isEmpty then writer.writeMediaRecord header []
    else
      writeMediaChunks size body.length header 0 (chunks size body) writer

/-- The loop of `send_render_record`, from a chunk's index on. -/
def writeRenderChunks
    (frameId sessionSequence : UInt64)
    (full : Bool)
    (count : Nat) :
    Nat → List (List UInt8) → RecordWriter → RecordWriter × Except String Unit
  | _, [], writer => (writer, .ok ())
  | index, bytes :: rest, writer =>
      match writer.writeRenderRecord frameId sessionSequence
          (full && decide (index = 0)) (decide (index + 1 = count)) bytes with
      | (after, .error error) => (after, .error error)
      | (after, .ok ()) =>
          writeRenderChunks frameId sessionSequence full count (index + 1) rest
            after

/-- `send_render_record` -/
def sendRenderRecord
    (writer : RecordWriter)
    (frameId sessionSequence : UInt64)
    (full : Bool)
    (body : List UInt8) : RecordWriter × Except String Unit :=
  let size :=
    max 1 (min preferredRenderChunk
      (writer.payloadCapacity renderRecordHeader))
  if body.isEmpty then
    writer.writeRenderRecord frameId sessionSequence full true []
  else
    writeRenderChunks frameId sessionSequence full
      ((body.length + (size - 1)) / size) 0 (chunks size body) writer

end RecordWriter

/-! ## Reading -/

structure RecordReader where
  stream : List UInt8
  expectedSequence : UInt64
  maximumBody : UInt32

namespace RecordReader

/-- `read_raw`: the type, the flags and the body of the next record. -/
def readRaw
    (reader : RecordReader) :
    Except String ((UInt16 × UInt16 × List UInt8) × RecordReader) :=
  if reader.stream.length < 16 then .error "failed to fill whole buffer"
  else
    let sequence := UInt64.ofNat (field reader.stream 0 8)
    let recordType := UInt16.ofNat (field reader.stream 8 2)
    let flags := UInt16.ofNat (field reader.stream 10 2)
    let length := UInt32.ofNat (field reader.stream 12 4)
    let rest := reader.stream.drop 16
    if sequence ≠ reader.expectedSequence then
      .error "VVMX record sequence gap"
    else if flags &&& ~~~1 ≠ 0 then .error "VVMX record uses reserved flags"
    else if reader.maximumBody < length then
      .error "VVMX record body exceeds negotiated limit"
    else if rest.length < length.toNat then
      .error "failed to fill whole buffer"
    else
      .ok ((recordType, flags, rest.take length.toNat),
        { reader with
          stream := rest.drop length.toNat
          expectedSequence := reader.expectedSequence + 1 })

end RecordReader

def decodeMediaRecord (body : List UInt8) : Except String ServerMessage :=
  if body.length < mediaRecordHeader then
    .error "VVMX media record is shorter than its header"
  else
    let flags := UInt16.ofNat (field body 26 2)
    let offset := UInt32.ofNat (field body 28 4)
    let total := UInt32.ofNat (field body 32 4)
    let bytes := body.drop mediaRecordHeader
    let finish := offset.toNat + bytes.length
    if field body 36 4 ≠ 0 then
      .error "VVMX media record reserved field is nonzero"
    else if flags &&& ~~~mediaFlagLast ≠ 0 then
      .error "VVMX media record uses reserved flags"
    else if 2 ^ 64 ≤ finish then
      .error "VVMX media record chunk extent overflows"
    else if total.toNat < finish then
      .error "VVMX media record chunk exceeds its total"
    else if decide (flags &&& mediaFlagLast ≠ 0) ≠
        decide (finish = total.toNat) then
      .error "VVMX media record last flag disagrees with its total"
    else
      .ok (.mediaRecord (UInt64.ofNat (field body 0 8))
        ⟨UInt64.ofNat (field body 8 8), UInt64.ofNat (field body 16 8)⟩
        (UInt16.ofNat (field body 24 2)) offset total
        (decide (flags &&& mediaFlagLast ≠ 0)) bytes)

def decodeRenderRecord (body : List UInt8) : Except String ServerMessage :=
  if body.length < renderRecordHeader then
    .error "VVMX render record is shorter than its header"
  else
    let flags := UInt16.ofNat (field body 16 2)
    if field body 18 2 ≠ 0 ∨ field body 20 4 ≠ 0 then
      .error "VVMX render record reserved field is nonzero"
    else if flags &&& ~~~(renderFlagFull ||| renderFlagLast) ≠ 0 then
      .error "VVMX render record uses reserved flags"
    else
      .ok (.render (UInt64.ofNat (field body 0 8))
        (UInt64.ofNat (field body 8 8))
        (decide (flags &&& renderFlagFull ≠ 0))
        (decide (flags &&& renderFlagLast ≠ 0))
        (body.drop renderRecordHeader))

namespace RecordReader

/-- `recv_server` -/
def recvServer
    (reader : RecordReader) : Except String (ServerMessage × RecordReader) :=
  match reader.readRaw with
  | .error error => .error error
  | .ok ((recordType, flags, body), after) =>
      if flags ≠ 0 then .error "unexpected VVMX control record"
      else if recordType = structuredRecord then .ok (.structured body, after)
      else if recordType = mediaRecord then
        (decodeMediaRecord body).map fun message => (message, after)
      else if recordType = renderRecord then
        (decodeRenderRecord body).map fun message => (message, after)
      else .error "unexpected VVMX control record"

end RecordReader

end Ipc
end Vvmux
