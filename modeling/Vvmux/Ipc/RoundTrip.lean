import Vvmux.Ipc.Records

/-!
# What is sent in records is received

A binary record is read back as it was written, whatever follows it in the
stream.  A body goes in one record for each chunk, so that the records read
back carry the chunks in their order.
-/

namespace Vvmux

open Library

namespace Ipc

/-! ## One record -/

@[simp] theorem length_rawHeader
    (sequence : UInt64)
    (recordType flags : UInt16)
    (length : Nat) :
    (rawHeader sequence recordType flags length).length = 16 := by
  simp [rawHeader]

@[simp] theorem length_mediaHeader
    (chunk : MediaChunk) : chunk.header.length = mediaRecordHeader := by
  simp [MediaChunk.header, mediaRecordHeader]

@[simp] theorem length_renderHeader
    (frameId sessionSequence : UInt64)
    (full last : Bool) :
    (renderHeader frameId sessionSequence full last).length =
      renderRecordHeader := by
  simp [renderHeader, renderRecordHeader]

variable {body bytes : List UInt8} (writer : RecordWriter)

/-- A record in front of the stream is read as it was written. -/
theorem readRaw_record
    (sequence : UInt64)
    (recordType : UInt16)
    {maximumBody : UInt32}
    (fits : body.length ≤ maximumBody.toNat)
    (rest : List UInt8) :
    RecordReader.readRaw
        ⟨rawHeader sequence recordType 0 body.length ++ body ++ rest,
          sequence, maximumBody⟩ =
      .ok ((recordType, 0, body), ⟨rest, sequence + 1, maximumBody⟩) := by
  have small : body.length < 256 ^ 4 :=
    Nat.lt_of_le_of_lt fits maximumBody.toNat_lt
  have isSequence : field (rawHeader sequence recordType 0 body.length ++
      body ++ rest) 0 8 = sequence.toNat % 256 ^ 8 := by
    simp only [rawHeader, List.append_assoc]
    exact field_here _ _ _
  have isType : field (rawHeader sequence recordType 0 body.length ++
      body ++ rest) 8 2 = recordType.toNat % 256 ^ 2 := by
    simp only [rawHeader, List.append_assoc]
    rw [field_later (by decide)]
    exact field_here _ _ _
  have isFlags : field (rawHeader sequence recordType 0 body.length ++
      body ++ rest) 10 2 = (0 : UInt16).toNat % 256 ^ 2 := by
    simp only [rawHeader, List.append_assoc]
    rw [field_later (by decide), field_later (by decide)]
    exact field_here _ _ _
  have isLength : field (rawHeader sequence recordType 0 body.length ++
      body ++ rest) 12 4 = body.length := by
    simp only [rawHeader, List.append_assoc]
    rw [field_later (by decide), field_later (by decide),
      field_later (by decide)]
    exact (field_here _ _ _).trans (Nat.mod_eq_of_lt small)
  have lengthBack : (UInt32.ofNat body.length).toNat = body.length := by
    rw [UInt32.toNat_ofNat']
    exact Nat.mod_eq_of_lt small
  have afterHeader : (rawHeader sequence recordType 0 body.length ++
      body ++ rest).drop 16 = body ++ rest := by
    rw [List.append_assoc]
    exact List.drop_left' (length_rawHeader _ _ _ _)
  have whole : ¬ (rawHeader sequence recordType 0 body.length ++
      body ++ rest).length < 16 := by
    simp only [List.length_append, length_rawHeader]
    omega
  have within : ¬ maximumBody < UInt32.ofNat body.length := by
    rw [UInt32.lt_iff_toNat_lt, lengthBack]
    exact Nat.not_lt.mpr fits
  unfold RecordReader.readRaw
  simp only [isSequence, isType, isFlags, isLength, afterHeader, lengthBack,
    ofNat_mod_word64, ofNat_mod_word16]
  rw [if_neg whole, if_neg (not_not.mpr rfl), if_neg (by decide),
    if_neg within, if_neg, List.take_left' rfl, List.drop_left' rfl]
  rw [List.length_append]
  omega

theorem mediaFlags_last
    (last : Bool) :
    (if last then mediaFlagLast else 0) &&& ~~~mediaFlagLast = 0 ∧
      decide ((if last then mediaFlagLast else 0) &&& mediaFlagLast ≠ 0) =
        last := by
  cases last <;> decide

/-- A media chunk is decoded as it was written if it is marked as the last one
exactly where it ends the body. -/
theorem decodeMediaRecord_header
    (chunk : MediaChunk)
    (inside : chunk.offset.toNat + bytes.length ≤ chunk.total.toNat)
    (last : chunk.last =
      decide (chunk.offset.toNat + bytes.length = chunk.total.toNat)) :
    decodeMediaRecord (chunk.header ++ bytes) =
      .ok (.mediaRecord chunk.deliveryId chunk.source chunk.recordType
        chunk.offset chunk.total chunk.last bytes) := by
  obtain ⟨deliveryId, ⟨producer, source⟩, recordType, offset, total, isLast⟩ :=
    chunk
  have long : ¬ (MediaChunk.header ⟨deliveryId, ⟨producer, source⟩,
      recordType, offset, total, isLast⟩ ++ bytes).length <
        mediaRecordHeader := by
    rw [List.length_append, length_mediaHeader]
    omega
  have payload : (MediaChunk.header ⟨deliveryId, ⟨producer, source⟩,
      recordType, offset, total, isLast⟩ ++ bytes).drop mediaRecordHeader =
        bytes := List.drop_left' (length_mediaHeader _)
  have small : ¬ 2 ^ 64 ≤ offset.toNat + bytes.length := by
    have bound := total.toNat_lt
    simp only at inside
    omega
  unfold decodeMediaRecord
  rw [if_neg long]
  simp only [payload]
  simp only [MediaChunk.header, List.append_assoc, List.nil_append]
  simp only [field_later, field_here, Nat.reduceLeDiff, Nat.reduceSub,
    ofNat_mod_word64, ofNat_mod_word32, ofNat_mod_word16, Nat.zero_mod]
  simp only at inside last
  obtain ⟨noReserved, flagBack⟩ := mediaFlags_last isLast
  rw [if_neg (not_not.mpr rfl), if_neg (not_not.mpr noReserved), if_neg small,
    if_neg (Nat.not_lt.mpr inside), flagBack, if_neg]
  exact not_not.mpr last

theorem decodeRenderRecord_header
    (frameId sessionSequence : UInt64)
    (full last : Bool)
    (bytes : List UInt8) :
    decodeRenderRecord
        (renderHeader frameId sessionSequence full last ++ bytes) =
      .ok (.render frameId sessionSequence full last bytes) := by
  have long : ¬ (renderHeader frameId sessionSequence full last ++
      bytes).length < renderRecordHeader := by
    rw [List.length_append, length_renderHeader]
    omega
  have payload : (renderHeader frameId sessionSequence full last ++
      bytes).drop renderRecordHeader = bytes :=
    List.drop_left' (length_renderHeader _ _ _ _)
  unfold decodeRenderRecord
  rw [if_neg long]
  simp only [payload]
  simp only [renderHeader, List.append_assoc, List.nil_append]
  simp only [field_later, field_here, Nat.reduceLeDiff, Nat.reduceSub,
    ofNat_mod_word64, ofNat_mod_word16, Nat.zero_mod]
  rw [if_neg (by simp), if_neg]
  · cases full <;> cases last <;> rfl
  · cases full <;> cases last <;> decide

/-! ## A run of records -/

/-- The reader gets these messages one after another, each from a record with
the sequence number that is due and a body within the maximum. -/
inductive Receives :
    RecordReader → List ServerMessage → RecordReader → Prop
  | done (reader : RecordReader) : Receives reader [] reader
  | next {reader middle after : RecordReader} {recordType : UInt16}
      {body : List UInt8} {message : ServerMessage}
      {rest : List ServerMessage} :
      reader.readRaw = .ok ((recordType, 0, body), middle) →
      middle.expectedSequence = reader.expectedSequence + 1 →
      body.length ≤ reader.maximumBody.toNat →
      reader.recvServer = .ok (message, middle) →
      Receives middle rest after →
      Receives reader (message :: rest) after

/-- What the writer has put into its stream is received as these messages,
whatever follows it there. -/
structure Carries
    (before after : RecordWriter)
    (messages : List ServerMessage) : Prop where
  maximum : after.maximumBody = before.maximumBody
  received : ∃ sent, after.stream = before.stream ++ sent ∧ ∀ rest,
    Receives ⟨sent ++ rest, before.nextSequence, before.maximumBody⟩ messages
      ⟨rest, after.nextSequence, before.maximumBody⟩

theorem Carries.none (writer : RecordWriter) : Carries writer writer [] :=
  ⟨rfl, [], (List.append_nil _).symm, fun _ => .done _⟩

/-- What `read_raw` gets from a record is decoded by its type. -/
def decodes
    (recordType : UInt16)
    (body : List UInt8) : Except String ServerMessage :=
  if recordType = mediaRecord then decodeMediaRecord body
  else decodeRenderRecord body

theorem decodes_mediaRecord
    (body : List UInt8) : decodes mediaRecord body = decodeMediaRecord body :=
  if_pos rfl

theorem decodes_renderRecord
    (body : List UInt8) : decodes renderRecord body = decodeRenderRecord body :=
  if_neg (by decide)

/-- The writer with one more record in its stream. -/
def RecordWriter.withRecord
    (writer : RecordWriter)
    (recordType : UInt16)
    (body : List UInt8) : RecordWriter :=
  { writer with
    stream := writer.stream ++
      (rawHeader writer.nextSequence recordType 0 body.length ++ body)
    nextSequence := writer.nextSequence + 1 }

variable (recordType : UInt16)

/-- A record that fits is written. -/
theorem writeRawParts_flatten
    {parts : List (List UInt8)}
    (fits : parts.flatten.length ≤ writer.maximumBody.toNat) :
    writer.writeRawParts recordType 0 parts =
      (writer.withRecord recordType parts.flatten, .ok ()) := by
  unfold RecordWriter.writeRawParts
  simp only [← List.length_flatten]
  rw [if_neg (by decide), if_neg (Nat.not_lt.mpr fits)]
  rfl

theorem writeRawParts_fits
    {header bytes : List UInt8}
    (fits : header.length + bytes.length ≤ writer.maximumBody.toNat) :
    writer.writeRawParts recordType 0 [header, bytes] =
      (writer.withRecord recordType (header ++ bytes), .ok ()) := by
  have whole : [header, bytes].flatten = header ++ bytes := by
    simp
  rw [← whole]
  refine writeRawParts_flatten writer recordType ?_
  rwa [whole, List.length_append]

/-- A binary record is received before what is written after it. -/
theorem Carries.cons
    {writer last : RecordWriter}
    {recordType : UInt16}
    {body : List UInt8}
    {message : ServerMessage}
    {messages : List ServerMessage}
    (binary : recordType = mediaRecord ∨ recordType = renderRecord)
    (fits : body.length ≤ writer.maximumBody.toNat)
    (decoded : decodes recordType body = .ok message)
    (carries : Carries (writer.withRecord recordType body) last messages) :
    Carries writer last (message :: messages) := by
  obtain ⟨sameMaximum, sent, stream, receives⟩ := carries
  refine ⟨sameMaximum, rawHeader writer.nextSequence recordType 0
    body.length ++ body ++ sent, ?_, ?_⟩
  · rw [stream]
    exact List.append_assoc _ _ _
  · intro rest
    have isRead := readRaw_record writer.nextSequence recordType fits
      (sent ++ rest)
    rw [← List.append_assoc] at isRead
    refine .next isRead rfl fits ?_ (receives rest)
    unfold RecordReader.recvServer
    rw [isRead]
    obtain rfl | rfl := binary
    · rw [decodes_mediaRecord] at decoded
      simp only [decoded]
      rfl
    · rw [decodes_renderRecord] at decoded
      simp only [decoded]
      rfl

/-- A record that does not fit is refused before anything is written. -/
theorem writeRawParts_refused
    {header bytes : List UInt8}
    (exceeds : writer.maximumBody.toNat < header.length + bytes.length) :
    writer.writeRawParts recordType 0 [header, bytes] =
      (writer, .error "VVMX record body exceeds negotiated limit") := by
  have lengths : (([header, bytes].map List.length).sum) =
      header.length + bytes.length := by
    simp
  unfold RecordWriter.writeRawParts
  simp only [lengths]
  rw [if_neg (by decide), if_pos exceeds]

/-! ## Media bodies -/

/-- The messages of a media body that was cut into pieces, from an offset
on. -/
def mediaMessages
    (deliveryId : UInt64)
    (source : BridgeSourceKey)
    (recordType : UInt16)
    (total offset : Nat)
    (pieces : List (List UInt8)) : List ServerMessage :=
  pieces.mapIdx fun index bytes =>
    .mediaRecord deliveryId source recordType
      (UInt32.ofNat (offset + (pieces.take index).flatten.length))
      (UInt32.ofNat total) (decide (index + 1 = pieces.length)) bytes

variable (deliveryId : UInt64) (source : BridgeSourceKey)

theorem mediaMessages_cons
    (recordType : UInt16)
    (total offset : Nat)
    (bytes : List UInt8)
    (rest : List (List UInt8)) :
    mediaMessages deliveryId source recordType total offset (bytes :: rest) =
      .mediaRecord deliveryId source recordType (UInt32.ofNat offset)
          (UInt32.ofNat total) (decide (rest = [])) bytes ::
        mediaMessages deliveryId source recordType total
          (offset + bytes.length) rest := by
  unfold mediaMessages
  rw [List.mapIdx_cons]
  refine congrArg₂ List.cons ?_ ?_
  · simp
  · congr 1
    funext index piece
    simp [Nat.add_assoc]

theorem toNat_ofNat_of_le
    {number : Nat}
    (small : number ≤ maxAddressable) :
    (UInt32.ofNat number).toNat = number := by
  have below : number < 2 ^ 32 :=
    Nat.lt_of_le_of_lt small (Nat.lt_of_succ_le (Nat.le_of_ble_eq_true rfl))
  rw [UInt32.toNat_ofNat']
  exact Nat.mod_eq_of_lt below

theorem writeMediaRecord_fits
    (chunk : MediaChunk)
    (fits : mediaRecordHeader + bytes.length ≤ writer.maximumBody.toNat) :
    writer.writeMediaRecord chunk bytes =
      (writer.withRecord mediaRecord (chunk.header ++ bytes), .ok ()) := by
  rw [← length_mediaHeader chunk] at fits
  exact writeRawParts_fits writer mediaRecord fits

variable {messages : List ServerMessage}

/-- A media chunk is received before what is written after it. -/
theorem Carries.mediaChunk
    {writer final : RecordWriter}
    {chunk : MediaChunk}
    (fits : mediaRecordHeader + bytes.length ≤ writer.maximumBody.toNat)
    (inside : chunk.offset.toNat + bytes.length ≤ chunk.total.toNat)
    (last : chunk.last =
      decide (chunk.offset.toNat + bytes.length = chunk.total.toNat))
    (carries : Carries
      (writer.withRecord mediaRecord (chunk.header ++ bytes)) final messages) :
    Carries writer final
      (.mediaRecord chunk.deliveryId chunk.source chunk.recordType
        chunk.offset chunk.total chunk.last bytes :: messages) := by
  refine .cons (.inl rfl) ?_ ?_ carries
  · rw [List.length_append, length_mediaHeader]
    exact fits
  · rw [decodes_mediaRecord]
    exact decodeMediaRecord_header chunk inside last

variable {pieces : List (List UInt8)}

/-- By induction over the pieces: so many bytes of the body were sent before
the next one. -/
theorem writeMediaChunks_carries
    {size total : Nat}
    (positive : 0 < size)
    (addressable : total ≤ maxAddressable)
    (header : MediaChunk)
    (isTotal : header.total = UInt32.ofNat total)
    (even : EvenlyCut size pieces)
    {index : Nat}
    (rests : index * size + pieces.flatten.length = total)
    {writer : RecordWriter}
    (fits : mediaRecordHeader + size ≤ writer.maximumBody.toNat) :
    ∃ after, RecordWriter.writeMediaChunks size total header index pieces
        writer = (after, .ok ()) ∧
      Carries writer after (mediaMessages header.deliveryId header.source
        header.recordType total (index * size) pieces) := by
  induction pieces generalizing index writer with
  | nil => exact ⟨writer, rfl, .none writer⟩
  | cons bytes rest ih =>
      obtain ⟨-, few⟩ := even.head positive
      rw [List.flatten_cons, List.length_append] at rests
      have offsetBack : (UInt32.ofNat (index * size)).toNat = index * size :=
        toNat_ofNat_of_le (by omega)
      have totalBack : header.total.toNat = total := by
        rw [isTotal]
        exact toNat_ofNat_of_le addressable
      have endsBody : decide (index * size + bytes.length = total) =
          decide (rest = []) := by
        rw [decide_eq_decide, ← even.tail.flatten_eq_nil_iff positive,
          ← List.length_eq_zero_iff]
        omega
      have bytesFit : mediaRecordHeader + bytes.length ≤
          writer.maximumBody.toNat := by
        omega
      have inside : (UInt32.ofNat (index * size)).toNat + bytes.length ≤
          header.total.toNat := by
        rw [offsetBack, totalBack]
        omega
      have last : decide (index * size + bytes.length = total) =
          decide ((UInt32.ofNat (index * size)).toNat + bytes.length =
            header.total.toNat) := by
        rw [offsetBack, totalBack]
      unfold RecordWriter.writeMediaChunks
      simp only [offsetBack]
      rw [writeMediaRecord_fits writer _ bytesFit, mediaMessages_cons,
        ← endsBody, ← isTotal]
      simp only
      cases rest with
      | nil =>
          exact ⟨_, rfl, .mediaChunk bytesFit inside last (.none _)⟩
      | cons second rest =>
          have full : bytes.length = size := even.1
          have next : (index + 1) * size = index * size + bytes.length := by
            rw [full, Nat.succ_mul]
          have nextFits : mediaRecordHeader + size ≤
              (writer.withRecord mediaRecord
                (MediaChunk.header
                  ⟨header.deliveryId, header.source, header.recordType,
                    UInt32.ofNat (index * size), header.total,
                    decide (index * size + bytes.length = total)⟩ ++
                  bytes)).maximumBody.toNat := fits
          obtain ⟨after, written, carries⟩ :=
            ih even.tail (by rw [next]; omega) nextFits
          rw [next] at carries
          exact ⟨after, written, .mediaChunk bytesFit inside last carries⟩

/-- Of the bodies that can be addressed, all that fit are sent. -/
theorem sendMediaRecord_carries
    (recordType : UInt16)
    (addressable : body.length ≤ maxAddressable)
    (room : mediaRecordHeader < writer.maximumBody.toNat ∨
      body = [] ∧ mediaRecordHeader ≤ writer.maximumBody.toNat) :
    ∃ after pieces,
      writer.sendMediaRecord deliveryId source recordType body =
        (after, .ok ()) ∧
      pieces ≠ [] ∧ pieces.flatten = body ∧
      Carries writer after
        (mediaMessages deliveryId source recordType body.length 0 pieces) := by
  unfold RecordWriter.sendMediaRecord
  rw [if_neg (Nat.not_lt.mpr addressable)]
  simp only
  split_ifs with empty
  · rw [List.isEmpty_iff] at empty
    subst empty
    have fits : mediaRecordHeader + ([] : List UInt8).length ≤
        writer.maximumBody.toNat := by
      obtain more | ⟨-, enough⟩ := room
      · exact le_of_lt more
      · exact enough
    rw [writeMediaRecord_fits writer _ fits]
    exact ⟨_, [[]], rfl, List.cons_ne_nil _ _, rfl,
      .mediaChunk fits (le_refl 0) rfl (.none _)⟩
  · have some : body ≠ [] := fun nil => empty (List.isEmpty_iff.mpr nil)
    have more : mediaRecordHeader < writer.maximumBody.toNat := by
      obtain more | ⟨nil, -⟩ := room
      · exact more
      · exact absurd nil some
    have positive : 0 < max 1 (min preferredMediaChunk
        (writer.payloadCapacity mediaRecordHeader)) :=
      Nat.lt_of_lt_of_le Nat.one_pos (le_max_left _ _)
    have fits : mediaRecordHeader + max 1 (min preferredMediaChunk
        (writer.payloadCapacity mediaRecordHeader)) ≤
          writer.maximumBody.toNat := by
      unfold RecordWriter.payloadCapacity
      omega
    have whole := flatten_chunks positive body
    obtain ⟨after, written, carries⟩ := writeMediaChunks_carries positive
      addressable ⟨deliveryId, source, recordType, 0,
        UInt32.ofNat body.length, true⟩ rfl (evenlyCut_chunks positive body)
      (by rw [whole, Nat.zero_mul, Nat.zero_add]) fits
    rw [Nat.zero_mul] at carries
    refine ⟨after, _, written, ?_, whole, carries⟩
    intro nil
    rw [nil] at whole
    exact some whole.symm

/-- The sending loops refuse their first chunk where it does not fit. -/
theorem sendMediaRecord_refused
    (recordType : UInt16)
    (addressable : body.length ≤ maxAddressable)
    (full : writer.maximumBody.toNat ≤ mediaRecordHeader)
    (needs : body ≠ [] ∨ writer.maximumBody.toNat < mediaRecordHeader) :
    writer.sendMediaRecord deliveryId source recordType body =
      (writer, .error "VVMX record body exceeds negotiated limit") := by
  unfold RecordWriter.sendMediaRecord
  rw [if_neg (Nat.not_lt.mpr addressable)]
  simp only
  split_ifs with empty
  · have less : writer.maximumBody.toNat < mediaRecordHeader :=
      needs.resolve_left fun some => some (List.isEmpty_iff.mp empty)
    refine writeRawParts_refused writer mediaRecord ?_
    rw [length_mediaHeader]
    exact Nat.lt_of_lt_of_le less (Nat.le_add_right _ _)
  · have positive : 0 < max 1 (min preferredMediaChunk
        (writer.payloadCapacity mediaRecordHeader)) :=
      Nat.lt_of_lt_of_le Nat.one_pos (le_max_left _ _)
    obtain ⟨bytes, rest, pieces, some⟩ := exists_first_chunk positive
      fun nil => empty (List.isEmpty_iff.mpr nil)
    rw [pieces]
    unfold RecordWriter.writeMediaChunks RecordWriter.writeMediaRecord
    simp only
    rw [writeRawParts_refused]
    rw [length_mediaHeader]
    omega

/-! ## Terminal frames -/

/-- The messages of a frame that was cut into pieces, from an index on. -/
def renderMessages
    (frameId sessionSequence : UInt64)
    (full : Bool)
    (index : Nat)
    (pieces : List (List UInt8)) : List ServerMessage :=
  pieces.mapIdx fun place bytes =>
    .render frameId sessionSequence (full && decide (index + place = 0))
      (decide (place + 1 = pieces.length)) bytes

theorem renderMessages_cons
    (frameId sessionSequence : UInt64)
    (full : Bool)
    (index : Nat)
    (bytes : List UInt8)
    (rest : List (List UInt8)) :
    renderMessages frameId sessionSequence full index (bytes :: rest) =
      .render frameId sessionSequence (full && decide (index = 0))
          (decide (rest = [])) bytes ::
        renderMessages frameId sessionSequence full (index + 1) rest := by
  unfold renderMessages
  rw [List.mapIdx_cons]
  refine congrArg₂ List.cons ?_ ?_
  · simp
  · congr 1
    funext place piece
    simp [Nat.add_assoc, Nat.add_comm 1]

theorem writeRenderRecord_fits
    (frameId sessionSequence : UInt64)
    (full last : Bool)
    (fits : renderRecordHeader + bytes.length ≤ writer.maximumBody.toNat) :
    writer.writeRenderRecord frameId sessionSequence full last bytes =
      (writer.withRecord renderRecord
        (renderHeader frameId sessionSequence full last ++ bytes), .ok ()) := by
  rw [← length_renderHeader frameId sessionSequence full last] at fits
  exact writeRawParts_fits writer renderRecord fits

/-- A chunk of a frame is received before what is written after it. -/
theorem Carries.renderChunk
    {writer final : RecordWriter}
    {frameId sessionSequence : UInt64}
    {full last : Bool}
    (fits : renderRecordHeader + bytes.length ≤ writer.maximumBody.toNat)
    (carries : Carries
      (writer.withRecord renderRecord
        (renderHeader frameId sessionSequence full last ++ bytes)) final
      messages) :
    Carries writer final
      (.render frameId sessionSequence full last bytes :: messages) := by
  refine .cons (.inr rfl) ?_ ?_ carries
  · rw [List.length_append, length_renderHeader]
    exact fits
  · rw [decodes_renderRecord]
    exact decodeRenderRecord_header frameId sessionSequence full last bytes

section

variable (frameId sessionSequence : UInt64) (full : Bool)

/-- By induction over the pieces. -/
theorem writeRenderChunks_carries
    {size count : Nat}
    (positive : 0 < size)
    (even : EvenlyCut size pieces)
    {index : Nat}
    (rests : index + pieces.length = count)
    {writer : RecordWriter}
    (fits : renderRecordHeader + size ≤ writer.maximumBody.toNat) :
    ∃ after, RecordWriter.writeRenderChunks frameId sessionSequence full count
        index pieces writer = (after, .ok ()) ∧
      Carries writer after
        (renderMessages frameId sessionSequence full index pieces) := by
  induction pieces generalizing index writer with
  | nil => exact ⟨writer, rfl, .none writer⟩
  | cons bytes rest ih =>
      obtain ⟨-, few⟩ := even.head positive
      rw [List.length_cons] at rests
      have bytesFit : renderRecordHeader + bytes.length ≤
          writer.maximumBody.toNat := by
        omega
      have endsFrame : decide (index + 1 = count) = decide (rest = []) := by
        rw [decide_eq_decide, ← List.length_eq_zero_iff]
        omega
      have nextFits : renderRecordHeader + size ≤
          (writer.withRecord renderRecord
            (renderHeader frameId sessionSequence (full && decide (index = 0))
              (decide (rest = [])) ++ bytes)).maximumBody.toNat := fits
      have nextRests : index + 1 + rest.length = count := by
        omega
      obtain ⟨after, written, carries⟩ :=
        ih even.tail nextRests nextFits
      refine ⟨after, ?_, ?_⟩
      · unfold RecordWriter.writeRenderChunks
        rw [endsFrame, writeRenderRecord_fits writer _ _ _ _ bytesFit]
        exact written
      · rw [renderMessages_cons]
        exact .renderChunk bytesFit carries

theorem sendRenderRecord_carries
    (room : renderRecordHeader < writer.maximumBody.toNat ∨
      body = [] ∧ renderRecordHeader ≤ writer.maximumBody.toNat) :
    ∃ after pieces,
      writer.sendRenderRecord frameId sessionSequence full body =
        (after, .ok ()) ∧
      pieces ≠ [] ∧ pieces.flatten = body ∧
      Carries writer after
        (renderMessages frameId sessionSequence full 0 pieces) := by
  unfold RecordWriter.sendRenderRecord
  simp only
  split_ifs with empty
  · rw [List.isEmpty_iff] at empty
    subst empty
    have fits : renderRecordHeader + ([] : List UInt8).length ≤
        writer.maximumBody.toNat := by
      obtain more | ⟨-, enough⟩ := room
      · exact le_of_lt more
      · exact enough
    rw [writeRenderRecord_fits writer _ _ _ _ fits]
    refine ⟨_, [[]], rfl, List.cons_ne_nil _ _, rfl, ?_⟩
    rw [renderMessages_cons]
    simp only [decide_true, Bool.and_true]
    exact .renderChunk fits (.none _)
  · have some : body ≠ [] := fun nil => empty (List.isEmpty_iff.mpr nil)
    have more : renderRecordHeader < writer.maximumBody.toNat := by
      obtain more | ⟨nil, -⟩ := room
      · exact more
      · exact absurd nil some
    have positive : 0 < max 1 (min preferredRenderChunk
        (writer.payloadCapacity renderRecordHeader)) :=
      Nat.lt_of_lt_of_le Nat.one_pos (le_max_left _ _)
    have fits : renderRecordHeader + max 1 (min preferredRenderChunk
        (writer.payloadCapacity renderRecordHeader)) ≤
          writer.maximumBody.toNat := by
      unfold RecordWriter.payloadCapacity
      omega
    have whole := flatten_chunks positive body
    have even := evenlyCut_chunks positive body
    have count := even.length_eq positive
    rw [whole] at count
    obtain ⟨after, written, carries⟩ := writeRenderChunks_carries frameId
      sessionSequence full positive even ((Nat.zero_add _).trans count) fits
    refine ⟨after, _, written, ?_, whole, carries⟩
    intro nil
    rw [nil] at whole
    exact some whole.symm

theorem sendRenderRecord_refused
    (none : writer.maximumBody.toNat ≤ renderRecordHeader)
    (needs : body ≠ [] ∨ writer.maximumBody.toNat < renderRecordHeader) :
    writer.sendRenderRecord frameId sessionSequence full body =
      (writer, .error "VVMX record body exceeds negotiated limit") := by
  unfold RecordWriter.sendRenderRecord
  simp only
  split_ifs with empty
  · have less : writer.maximumBody.toNat < renderRecordHeader :=
      needs.resolve_left fun some => some (List.isEmpty_iff.mp empty)
    refine writeRawParts_refused writer renderRecord ?_
    rw [length_renderHeader]
    exact Nat.lt_of_lt_of_le less (Nat.le_add_right _ _)
  · have positive : 0 < max 1 (min preferredRenderChunk
        (writer.payloadCapacity renderRecordHeader)) :=
      Nat.lt_of_lt_of_le Nat.one_pos (le_max_left _ _)
    obtain ⟨bytes, rest, pieces, some⟩ := exists_first_chunk positive
      fun nil => empty (List.isEmpty_iff.mpr nil)
    rw [pieces]
    unfold RecordWriter.writeRenderChunks RecordWriter.writeRenderRecord
    simp only
    rw [writeRawParts_refused]
    rw [length_renderHeader]
    omega

end

/-! ## Both kinds of record -/

/-- A body goes out in records that carry its pieces in order, if the maximum
has room for more than the header or if the body is empty and the maximum has
room for the header; otherwise nothing is written. -/
theorem binary_records_round_trip
    (writer : RecordWriter)
    (deliveryId : UInt64)
    (source : BridgeSourceKey)
    (recordType : UInt16)
    {body : List UInt8}
    (addressable : body.length ≤ maxAddressable)
    (frameId sessionSequence : UInt64)
    (full : Bool)
    (frame : List UInt8) :
    ((mediaRecordHeader < writer.maximumBody.toNat ∨
        body = [] ∧ mediaRecordHeader ≤ writer.maximumBody.toNat →
      ∃ after pieces,
        writer.sendMediaRecord deliveryId source recordType body =
          (after, .ok ()) ∧
        pieces ≠ [] ∧ pieces.flatten = body ∧
        Carries writer after
          (mediaMessages deliveryId source recordType body.length 0 pieces)) ∧
      (writer.maximumBody.toNat ≤ mediaRecordHeader →
        body ≠ [] ∨ writer.maximumBody.toNat < mediaRecordHeader →
        writer.sendMediaRecord deliveryId source recordType body =
          (writer, .error "VVMX record body exceeds negotiated limit"))) ∧
    ((renderRecordHeader < writer.maximumBody.toNat ∨
        frame = [] ∧ renderRecordHeader ≤ writer.maximumBody.toNat →
      ∃ after pieces,
        writer.sendRenderRecord frameId sessionSequence full frame =
          (after, .ok ()) ∧
        pieces ≠ [] ∧ pieces.flatten = frame ∧
        Carries writer after
          (renderMessages frameId sessionSequence full 0 pieces)) ∧
      (writer.maximumBody.toNat ≤ renderRecordHeader →
        frame ≠ [] ∨ writer.maximumBody.toNat < renderRecordHeader →
        writer.sendRenderRecord frameId sessionSequence full frame =
          (writer, .error "VVMX record body exceeds negotiated limit"))) :=
  ⟨⟨sendMediaRecord_carries writer deliveryId source recordType addressable,
    sendMediaRecord_refused writer deliveryId source recordType addressable⟩,
    sendRenderRecord_carries writer frameId sessionSequence full,
    sendRenderRecord_refused writer frameId sessionSequence full⟩

/-- Three bytes of payload fit in a record, and the body has five. -/
theorem binary_records_round_trip_five :
    ∃ after pieces,
      RecordWriter.sendMediaRecord ⟨[], 7, 43⟩ 42 ⟨7, 11⟩ 32771
        [1, 2, 3, 4, 5] = (after, .ok ()) ∧
      pieces ≠ [] ∧ pieces.flatten = [1, 2, 3, 4, 5] ∧
      Carries ⟨[], 7, 43⟩ after
        (mediaMessages 42 ⟨7, 11⟩ 32771 5 0 pieces) :=
  (binary_records_round_trip ⟨[], 7, 43⟩ 42 ⟨7, 11⟩ 32771
    (Nat.le_of_ble_eq_true rfl) 0 0 true []).1.1 (.inl (by decide))

/-- An empty body is sent where the maximum is the header's length. -/
theorem empty_body_needs_only_header :
    ¬ ∀ (writer : RecordWriter) (deliveryId : UInt64)
        (source : BridgeSourceKey) (recordType : UInt16) (body : List UInt8),
      body.length ≤ maxAddressable →
        writer.maximumBody.toNat ≤ mediaRecordHeader →
          ∃ error,
            (writer.sendMediaRecord deliveryId source recordType body).2 =
              .error error := by
  intro always
  obtain ⟨error, failed⟩ := always ⟨[], 0, 40⟩ 1 ⟨1, 1⟩ 1 []
    (Nat.zero_le _) (by decide)
  cases failed

end Ipc
end Vvmux
