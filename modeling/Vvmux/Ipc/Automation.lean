import Vvmux.Gateway.Protocol
import Vvmux.Ipc.RoundTrip
import Vvmux.Library.Base64

/-!
# Replies to automation requests

A reply goes in one structured record, or, where its encoding is long, in
chunks of it as Base64 texts.  The encoder of `serde_json` is written out; its
parser and the encoding of a result's value are parameters.
-/

namespace Vvmux

open Library

namespace Ipc

open Gateway (Text escape quoted number boolean member object)

/-- `CONTROL_MAX_BODY` -/
def controlMaxBody : UInt32 := 1024 * 1024

/-- `AUTOMATION_RESPONSE_LIMIT` -/
def automationResponseLimit : Nat := 16 * 1024 * 1024

/-- `AUTOMATION_CHUNK_BYTES` -/
def automationChunkBytes : Nat := 512 * 1024

structure AutomationError where
  code : Text
  message : Text
deriving DecidableEq

structure AutomationResponse (Value : Type*) where
  id : UInt64
  ok : Bool
  result : Option Value
  error : Option AutomationError
deriving DecidableEq

/-- `AutomationResponse::error` -/
def AutomationResponse.failed
    {Value : Type*}
    (id : UInt64)
    (code message : String) : AutomationResponse Value where
  id := id
  ok := false
  result := none
  error := some ⟨code.toList, message.toList⟩

/-- The structured messages of a server; those that do not belong to an
automation connection are known by their encoding. -/
inductive StructuredMessage (Value : Type*) where
  | automation (response : AutomationResponse Value)
  | automationChunk (requestId : UInt64) (index : UInt32) (last : Bool)
    (base64 : Text)
  | other (body : List UInt8)
deriving DecidableEq

/-- What is taken of `serde_json`: the text of a value, and the parser. -/
structure Json (Value : Type*) where
  encodeValue : Value → Text
  decodeResponse : List UInt8 → Except String (AutomationResponse Value)
  decodeMessage : List UInt8 → Except String (StructuredMessage Value)

/-- The bytes of a text. -/
def utf8 (text : Text) : List UInt8 :=
  text.flatMap String.utf8EncodeChar

namespace Json

variable {Value : Type*} (json : Json Value)

def responseText (response : AutomationResponse Value) : Text :=
  object
    (member "id" (number response.id.toNat) ::
      member "ok" (boolean response.ok) ::
      ((response.result.map fun value =>
          member "result" (json.encodeValue value)).toList ++
        (response.error.map fun error =>
          member "error" (object
            [member "code" (quoted error.code),
              member "message" (quoted error.message)])).toList))

/-- `serde_json::to_vec` of a response. -/
def encodeResponse (response : AutomationResponse Value) : List UInt8 :=
  utf8 (json.responseText response)

/-- `serde_json::to_vec` of a message. -/
def encodeMessage :
    StructuredMessage Value → List UInt8
  | .automation response =>
      utf8 (object [member "Automation" (json.responseText response)])
  | .automationChunk requestId index last base64 =>
      utf8 (object
        [member "AutomationChunk" (object
          [member "request_id" (number requestId.toNat),
            member "index" (number index.toNat),
            member "last" (boolean last),
            member "base64" (quoted base64)])])
  | .other body => body

/-! ## Sending -/

/-- The response that is sent: a long one is replaced by an error. -/
def admitted (response : AutomationResponse Value) : AutomationResponse Value :=
  if automationResponseLimit < (json.encodeResponse response).length then
    .failed response.id "limit_exceeded"
      "automation response exceeds the 16 MiB decoded limit"
  else response

/-- The messages of some chunks, from an index on. -/
def chunkMessages
    (requestId : UInt64)
    (count : Nat) :
    Nat → List (List UInt8) → List (StructuredMessage Value)
  | _, [] => []
  | index, chunk :: rest =>
      .automationChunk requestId (UInt32.ofNat index)
          (decide (index + 1 = count)) (Base64.encode chunk) ::
        chunkMessages requestId count (index + 1) rest

/-- The messages that `send_automation` sends. -/
def automationMessages
    (response : AutomationResponse Value) : List (StructuredMessage Value) :=
  let response := json.admitted response
  let encoded := json.encodeResponse response
  if encoded.length ≤ controlMaxBody.toNat / 2 then [.automation response]
  else
    let pieces := chunks automationChunkBytes encoded
    chunkMessages response.id pieces.length 0 pieces

/-- `RecordWriter::send` for some messages in turn. -/
def sendMessages
    (writer : RecordWriter) :
    List (StructuredMessage Value) → RecordWriter × Except String Unit
  | [] => (writer, .ok ())
  | message :: rest =>
      match writer.writeRawParts structuredRecord 0
          [json.encodeMessage message] with
      | (after, .error error) => (after, .error error)
      | (after, .ok ()) => sendMessages after rest

/-- `send_automation`, with the writer locked. -/
def sendAutomation
    (writer : RecordWriter)
    (response : AutomationResponse Value) : RecordWriter × Except String Unit :=
  json.sendMessages writer (json.automationMessages response)

/-! ## Receiving -/

/-- `recv_server`, with a structured body decoded. -/
def recvServer
    (reader : RecordReader) :
    Except String (Option (StructuredMessage Value) × RecordReader) :=
  match reader.recvServer with
  | .error error => .error error
  | .ok (.structured body, after) =>
      match json.decodeMessage body with
      | .error error => .error s!"malformed VVMX message: {error}"
      | .ok message => .ok (some message, after)
  | .ok (_, after) => .ok (none, after)

end Json

variable {reader after : RecordReader}

/-- A record that is read leaves less of the stream. -/
theorem RecordReader.recvServer_shrinks
    {message : ServerMessage}
    (received : reader.recvServer = .ok (message, after)) :
    after.stream.length < reader.stream.length := by
  have read {recordType flags : UInt16} {body : List UInt8}
      (read : reader.readRaw = .ok ((recordType, flags, body), after)) :
      after.stream.length < reader.stream.length := by
    unfold RecordReader.readRaw at read
    split at read
    · cases read
    next long =>
      simp only at read
      split_ifs at read
      cases read
      simp only [List.length_drop]
      omega
  unfold RecordReader.recvServer at received
  split at received
  · cases received
  next recordType flags body middle found =>
    have same : middle = after := by
      split_ifs at received
      · cases received
        rfl
      · cases decoded : decodeMediaRecord body <;>
          simp [decoded, Except.map] at received
        exact received.2
      · cases decoded : decodeRenderRecord body <;>
          simp [decoded, Except.map] at received
        exact received.2
    subst same
    exact read found

namespace Json

variable {Value : Type*} (json : Json Value)

theorem recvServer_shrinks
    {message : Option (StructuredMessage Value)}
    (received : json.recvServer reader = .ok (message, after)) :
    after.stream.length < reader.stream.length := by
  unfold recvServer at received
  split at received
  · cases received
  next body middle found =>
    split at received
    · cases received
    · cases received
      exact RecordReader.recvServer_shrinks found
  next found =>
    cases received
    exact RecordReader.recvServer_shrinks found

/-- The loop of `receive_response`. -/
def receiveFrom
    (id : UInt64)
    (reader : RecordReader)
    (collected : List UInt8)
    (nextIndex : UInt32) :
    Except String (AutomationResponse Value × RecordReader) :=
  match _ : json.recvServer reader with
  | .error error => .error error
  | .ok (some (.automation response), after) =>
      if response.id = id then .ok (response, after)
      else .error "unexpected VVMX message on automation connection"
  | .ok (some (.automationChunk requestId index last base64), after) =>
      if requestId = id then
        if index ≠ nextIndex then
          .error "automation response chunk sequence gap"
        else
          match Base64.decode base64 with
          | none => .error "invalid response base64"
          | some decoded =>
              if automationResponseLimit <
                  collected.length + decoded.length then
                .error "automation response exceeds 16 MiB"
              else if last then
                match json.decodeResponse (collected ++ decoded) with
                | .error error =>
                    .error s!"invalid automation response: {error}"
                | .ok response => .ok (response, after)
              else
                receiveFrom id after (collected ++ decoded) (nextIndex + 1)
      else .error "unexpected VVMX message on automation connection"
  | .ok (_, _) => .error "unexpected VVMX message on automation connection"
termination_by reader.stream.length
decreasing_by exact json.recvServer_shrinks (by assumption)

/-- `receive_response` -/
def receiveResponse
    (reader : RecordReader)
    (id : UInt64) : Except String (AutomationResponse Value × RecordReader) :=
  json.receiveFrom id reader [] 0

/-! ## How long the records are -/

end Json

theorem length_utf8_append
    (first second : Text) :
    (utf8 (first ++ second)).length =
      (utf8 first).length + (utf8 second).length := by
  simp only [utf8, List.flatMap_append, List.length_append]

theorem length_utf8_le
    (text : Text) : (utf8 text).length ≤ 4 * text.length := by
  induction text with
  | nil => exact le_rfl
  | cons character rest ih =>
      have few := character.utf8Size_le_four
      simp only [utf8, List.flatMap_cons, List.length_append,
        String.length_utf8EncodeChar, List.length_cons] at *
      omega

/-- The members, and a character after each. -/
theorem length_utf8_object
    (members : List Text) :
    (utf8 (object members)).length ≤
      2 + (members.map fun member => (utf8 member).length + 1).sum := by
  have separated : (utf8 (List.intercalate ",".toList members)).length ≤
      (members.map fun member => (utf8 member).length + 1).sum := by
    induction members with
    | nil => exact le_rfl
    | cons first rest ih =>
        cases rest with
        | nil => simp [List.intercalate]
        | cons second rest =>
            rw [List.intercalate_cons_cons, length_utf8_append,
              length_utf8_append, List.map_cons, List.sum_cons]
            have comma : (utf8 ",".toList).length = 1 := rfl
            omega
  have braces : (utf8 "\x7b".toList).length = 1 ∧
      (utf8 "\x7d".toList).length = 1 := ⟨rfl, rfl⟩
  unfold object
  rw [length_utf8_append, length_utf8_append]
  omega

theorem length_utf8_member
    (name : String)
    (value : Text) :
    (utf8 (member name value)).length =
      (utf8 (quoted name.toList)).length + 1 + (utf8 value).length := by
  have colon : (utf8 ":".toList).length = 1 := rfl
  unfold member
  rw [length_utf8_append, length_utf8_append, colon]

/-- No digit of Base64 is escaped. -/
theorem length_utf8_quoted_encode
    (bytes : List UInt8) :
    (utf8 (quoted (Base64.encode bytes))).length =
      2 + (bytes.length + 2) / 3 * 4 := by
  have all : (Base64.alphabet ++ ['=']).all (fun character =>
      utf8 (escape character) == [UInt8.ofNat character.toNat]) := rfl
  have plain : ∀ character ∈ Base64.alphabet ++ ['='],
      utf8 (escape character) = [UInt8.ofNat character.toNat] :=
    fun character here => eq_of_beq (List.all_eq_true.mp all character here)
  have content : ∀ text : Text,
      (∀ character ∈ text, character ∈ Base64.alphabet ++ ['=']) →
      (utf8 (text.flatMap escape)).length = text.length := by
    intro text all
    induction text with
    | nil => rfl
    | cons character rest ih =>
        rw [List.flatMap_cons, length_utf8_append,
          plain character (all _ List.mem_cons_self),
          ih fun _ here => all _ (List.mem_cons_of_mem _ here),
          List.length_singleton, List.length_cons, Nat.add_comm]
  have digits : ∀ character ∈ Base64.encode bytes,
      character ∈ Base64.alphabet ++ ['='] := by
    intro character here
    rcases Base64.mem_of_mem_encode here with digit | rfl
    · exact List.mem_append_left _ digit
    · exact List.mem_append_right _ List.mem_cons_self
  have quote : (utf8 "\"".toList).length = 1 := rfl
  unfold quoted
  rw [length_utf8_append, length_utf8_append, content _ digits, quote,
    Base64.length_encode]
  omega

theorem length_utf8_number
    {value : Nat}
    (small : value < 2 ^ 64) : (utf8 (number value)).length ≤ 80 := by
  have few : (Nat.toDigits 10 value).length ≤ 20 :=
    (Nat.length_toDigits_le_iff (by decide) (by decide)).mpr
      (small.trans (by decide))
  exact (length_utf8_le _).trans (Nat.mul_le_mul_left 4 few)

theorem length_utf8_boolean
    (value : Bool) : (utf8 (boolean value)).length ≤ 5 := by
  cases value <;> decide

namespace Json

variable {Value : Type*} (json : Json Value)

/-- An envelope is small beside its chunk. -/
theorem length_encodeMessage_chunk
    (requestId : UInt64)
    (index : UInt32)
    (last : Bool)
    {bytes : List UInt8}
    (few : bytes.length ≤ automationChunkBytes) :
    (json.encodeMessage (.automationChunk requestId index last
      (Base64.encode bytes))).length ≤ controlMaxBody.toNat := by
  have names : (utf8 (quoted "AutomationChunk".toList)).length = 17 ∧
      (utf8 (quoted "request_id".toList)).length = 12 ∧
      (utf8 (quoted "index".toList)).length = 7 ∧
      (utf8 (quoted "last".toList)).length = 6 ∧
      (utf8 (quoted "base64".toList)).length = 8 :=
    ⟨rfl, rfl, rfl, rfl, rfl⟩
  have isRequest := length_utf8_number requestId.toNat_lt
  have isIndex := length_utf8_number
    (index.toNat_lt.trans (by decide : 2 ^ 32 < 2 ^ 64))
  have isLast := length_utf8_boolean last
  have inner := length_utf8_object
    [member "request_id" (number requestId.toNat),
      member "index" (number index.toNat), member "last" (boolean last),
      member "base64" (quoted (Base64.encode bytes))]
  have outer := length_utf8_object
    [member "AutomationChunk" (object
      [member "request_id" (number requestId.toNat),
        member "index" (number index.toNat), member "last" (boolean last),
        member "base64" (quoted (Base64.encode bytes))])]
  simp only [List.map_cons, List.map_nil, List.sum_cons, List.sum_nil,
    length_utf8_member, length_utf8_quoted_encode, names] at inner outer
  have isMaximum : controlMaxBody.toNat = 1048576 := rfl
  unfold automationChunkBytes at few
  exact outer.trans (by omega)

/-- A response of half a record at most has room in one. -/
theorem length_encodeMessage_inline
    {response : AutomationResponse Value}
    (few : (json.encodeResponse response).length ≤ controlMaxBody.toNat / 2) :
    (json.encodeMessage (.automation response)).length ≤
      controlMaxBody.toNat := by
  have isName : (utf8 (quoted "Automation".toList)).length = 12 := rfl
  have outer := length_utf8_object
    [member "Automation" (json.responseText response)]
  simp only [List.map_cons, List.map_nil, List.sum_cons, List.sum_nil,
    length_utf8_member, isName] at outer
  have isMaximum : controlMaxBody.toNat = 1048576 := rfl
  unfold encodeResponse at few
  exact outer.trans (by omega)

/-- The error for a long response is short. -/
theorem length_encodeResponse_failed
    (id : UInt64) :
    (json.encodeResponse (.failed id "limit_exceeded"
      "automation response exceeds the 16 MiB decoded limit")).length ≤
      controlMaxBody.toNat / 2 := by
  have texts : (utf8 (quoted "id".toList)).length = 4 ∧
      (utf8 (quoted "ok".toList)).length = 4 ∧
      (utf8 (quoted "error".toList)).length = 7 ∧
      (utf8 (quoted "code".toList)).length = 6 ∧
      (utf8 (quoted "message".toList)).length = 9 ∧
      (utf8 (quoted "limit_exceeded".toList)).length = 16 ∧
      (utf8 (quoted ("automation response exceeds the 16 MiB " ++
        "decoded limit").toList)).length = 54 :=
    ⟨rfl, rfl, rfl, rfl, rfl, rfl, rfl⟩
  have isId := length_utf8_number id.toNat_lt
  have isOk := length_utf8_boolean false
  have inner := length_utf8_object
    [member "code" (quoted "limit_exceeded".toList),
      member "message" (quoted
        ("automation response exceeds the 16 MiB " ++
          "decoded limit").toList)]
  have outer := length_utf8_object
    [member "id" (number id.toNat), member "ok" (boolean false),
      member "error" (object
        [member "code" (quoted "limit_exceeded".toList),
          member "message" (quoted
            ("automation response exceeds the 16 MiB " ++
              "decoded limit").toList)])]
  simp only [List.map_cons, List.map_nil, List.sum_cons, List.sum_nil,
    length_utf8_member, texts] at inner outer
  have isMaximum : controlMaxBody.toNat / 2 = 524288 := rfl
  have whole : (json.encodeResponse (.failed id "limit_exceeded"
      "automation response exceeds the 16 MiB decoded limit")).length ≤
        200 + 80 + 5 := by
    refine (show _ = _ from rfl).le.trans (outer.trans ?_)
    omega
  omega

end Json

/-! ## What is sent is received -/

/-- The records of some structured bodies. -/
def structuredRecords :
    UInt64 → List (List UInt8) → List UInt8
  | _, [] => []
  | sequence, body :: rest =>
      rawHeader sequence structuredRecord 0 body.length ++ body ++
        structuredRecords (sequence + 1) rest

/-- The writer after some structured bodies. -/
def RecordWriter.withBodies
    (writer : RecordWriter)
    (bodies : List (List UInt8)) : RecordWriter :=
  { writer with
    stream := writer.stream ++ structuredRecords writer.nextSequence bodies
    nextSequence := writer.nextSequence + UInt64.ofNat bodies.length }

theorem RecordWriter.withBodies_cons
    (writer : RecordWriter)
    (body : List UInt8)
    (rest : List (List UInt8)) :
    writer.withBodies (body :: rest) =
      (writer.withRecord structuredRecord body).withBodies rest := by
  unfold RecordWriter.withBodies RecordWriter.withRecord
  simp only [structuredRecords, List.append_assoc, List.length_cons,
    UInt64.ofNat_add, UInt64.add_assoc]
  rw [UInt64.add_comm (UInt64.ofNat rest.length)]
  rfl

namespace Json

variable {Value : Type*} (json : Json Value)

/-- Messages that fit are all written. -/
theorem sendMessages_fit
    (writer : RecordWriter)
    {messages : List (StructuredMessage Value)}
    (fit : ∀ message ∈ messages,
      (json.encodeMessage message).length ≤ writer.maximumBody.toNat) :
    json.sendMessages writer messages =
      (writer.withBodies (messages.map json.encodeMessage), .ok ()) := by
  induction messages generalizing writer with
  | nil => simp [sendMessages, RecordWriter.withBodies, structuredRecords]
  | cons message rest ih =>
      have fits := fit message List.mem_cons_self
      have written : writer.writeRawParts structuredRecord 0
          [json.encodeMessage message] =
            (writer.withRecord structuredRecord
              (json.encodeMessage message), .ok ()) := by
        have whole : [json.encodeMessage message].flatten =
            json.encodeMessage message := List.append_nil _
        rw [writeRawParts_flatten writer structuredRecord (by rwa [whole]),
          whole]
      unfold sendMessages
      rw [written]
      simp only
      rw [ih, List.map_cons, RecordWriter.withBodies_cons]
      intro message here
      exact fit message (List.mem_cons_of_mem _ here)

/-- A record of a message is received before what follows it. -/
theorem recvServer_record
    {message : StructuredMessage Value}
    (fits : (json.encodeMessage message).length ≤ controlMaxBody.toNat)
    (decoded : json.decodeMessage (json.encodeMessage message) = .ok message)
    (sequence : UInt64)
    (rest : List UInt8) :
    json.recvServer ⟨rawHeader sequence structuredRecord 0
        (json.encodeMessage message).length ++ json.encodeMessage message ++
          rest, sequence, controlMaxBody⟩ =
      .ok (some message, ⟨rest, sequence + 1, controlMaxBody⟩) := by
  unfold recvServer RecordReader.recvServer
  rw [readRaw_record sequence structuredRecord fits rest]
  simp only [ne_eq, not_true_eq_false, if_false, if_true, decoded]

variable {response : AutomationResponse Value} {collected : List UInt8}

/-- A response that is due is taken. -/
theorem receiveFrom_response
    {index : UInt32}
    (received : json.recvServer reader =
      .ok (some (.automation response), after)) :
    json.receiveFrom response.id reader collected index =
      .ok (response, after) := by
  rw [receiveFrom]
  split
  · simp_all
  next other after' same =>
    rw [received] at same
    cases same
    rw [if_pos rfl]
  · simp_all
  next other _ same =>
    rw [received] at same
    cases same
    exact (other _ rfl).elim

/-- A chunk that is due is put to those collected. -/
theorem receiveFrom_chunk
    {id : UInt64}
    {collected bytes : List UInt8}
    {index : UInt32}
    {last : Bool}
    (received : json.recvServer reader =
      .ok (some (.automationChunk id index last (Base64.encode bytes)), after))
    (short : collected.length + bytes.length ≤ automationResponseLimit) :
    json.receiveFrom id reader collected index =
      if last then
        match json.decodeResponse (collected ++ bytes) with
        | .error error => .error s!"invalid automation response: {error}"
        | .ok response => .ok (response, after)
      else json.receiveFrom id after (collected ++ bytes) (index + 1) := by
  rw [receiveFrom]
  split
  · simp_all
  · simp_all
  next requestId index' last' base64 after' same =>
    rw [received] at same
    cases same
    rw [if_pos rfl, if_neg (not_not.mpr rfl)]
    simp only [Base64.decode_encode]
    rw [if_neg (Nat.not_lt.mpr short)]
  next other same =>
    rw [received] at same
    cases same
    exact (other _ _ _ _ rfl).elim

variable {pieces : List (List UInt8)}

/-- By induction over the chunks: so much of the response is collected before
the next one. -/
theorem receiveFrom_chunks
    {id : UInt64}
    {count : Nat}
    (some : pieces ≠ [])
    (even : EvenlyCut automationChunkBytes pieces)
    {index : Nat}
    (indexed : index + pieces.length = count)
    (short : (collected ++ pieces.flatten).length ≤ automationResponseLimit)
    (whole : json.decodeResponse (collected ++ pieces.flatten) = .ok response)
    (decoded : ∀ message ∈ chunkMessages id count index pieces,
      json.decodeMessage (json.encodeMessage message) = .ok message)
    (sequence : UInt64)
    (rest : List UInt8) :
    json.receiveFrom id
        ⟨structuredRecords sequence
          ((chunkMessages id count index pieces).map json.encodeMessage) ++
            rest, sequence, controlMaxBody⟩ collected (UInt32.ofNat index) =
      .ok (response, ⟨rest, sequence + UInt64.ofNat pieces.length,
        controlMaxBody⟩) := by
  induction pieces generalizing index collected sequence with
  | nil => exact absurd rfl some
  | cons bytes further ih =>
      obtain ⟨-, bounded⟩ := even.head (by decide)
      simp only [List.flatten_cons, ← List.append_assoc] at short whole
      have received := json.recvServer_record
        (json.length_encodeMessage_chunk id (UInt32.ofNat index)
          (decide (index + 1 = count)) bounded)
        (decoded _ List.mem_cons_self) sequence
        (structuredRecords (sequence + 1)
          ((chunkMessages id count (index + 1) further).map
            json.encodeMessage) ++ rest)
      simp only [chunkMessages, List.map_cons, structuredRecords,
        List.append_assoc] at received ⊢
      rw [json.receiveFrom_chunk received]
      · cases further with
        | nil =>
            simp only [List.flatten_nil, List.append_nil] at whole
            have isLast : index + 1 = count := by
              simpa using indexed
            rw [if_pos (decide_eq_true isLast), whole]
            simp [chunkMessages, structuredRecords]
        | cons second others =>
            have isLater : index + 1 ≠ count := by
              simp only [List.length_cons] at indexed
              omega
            rw [if_neg (by simpa using isLater)]
            have next : UInt32.ofNat index + 1 = UInt32.ofNat (index + 1) :=
              (UInt32.ofNat_add index 1).symm
            rw [next, ih (List.cons_ne_nil _ _) even.tail
              (by simp only [List.length_cons] at indexed ⊢; omega) short whole
              (fun message here => decoded message
                (List.mem_cons_of_mem _ here)),
              @List.length_cons _ bytes (second :: others), UInt64.ofNat_add,
              UInt64.add_assoc]
            rw [UInt64.add_comm (UInt64.ofNat _) (UInt64.ofNat 1)]
            rfl
      · rw [List.length_append] at short
        rw [List.length_append] at short
        omega

/-- What is sent is short enough for the receiver, and an admitted response is
the response itself or a short error. -/
theorem length_encodeResponse_admitted
    (response : AutomationResponse Value) :
    (json.encodeResponse (json.admitted response)).length ≤
      automationResponseLimit := by
  unfold admitted
  split_ifs with long
  · exact (json.length_encodeResponse_failed response.id).trans (by decide)
  · exact Nat.not_lt.mp long

theorem admitted_id
    (response : AutomationResponse Value) :
    (json.admitted response).id = response.id := by
  unfold admitted
  split_ifs <;> rfl

@[simp] theorem length_chunkMessages
    (id : UInt64)
    (count index : Nat)
    (pieces : List (List UInt8)) :
    (chunkMessages id count index pieces :
        List (StructuredMessage Value)).length =
      pieces.length := by
  induction pieces generalizing index with
  | nil => rfl
  | cons _ _ ih =>
      exact congrArg Nat.succ (ih (index + 1))

/-- Every chunk has room in its record. -/
theorem chunkMessages_fit
    (id : UInt64)
    (count : Nat)
    (even : EvenlyCut automationChunkBytes pieces)
    (index : Nat) :
    ∀ message ∈ (chunkMessages id count index pieces :
        List (StructuredMessage Value)),
      (json.encodeMessage message).length ≤ controlMaxBody.toNat := by
  induction pieces generalizing index with
  | nil => simp [chunkMessages]
  | cons bytes further ih =>
      intro message here
      rcases List.mem_cons.mp here with rfl | later
      · exact json.length_encodeMessage_chunk _ _ _ (even.head (by decide)).2
      · exact ih even.tail (index + 1) message later

end Json

/-- The parser at the texts of one response. -/
def acknowledged : AutomationResponse Unit :=
  ⟨7, true, none, none⟩

def acknowledgedJson : Json Unit where
  encodeValue := fun _ => "null".toList
  decodeResponse := fun body =>
    if body = utf8 "\x7b\"id\":7,\"ok\":true\x7d".toList then
      .ok acknowledged
    else .error "expected value at line 1 column 1"
  decodeMessage := fun body =>
    if body = utf8
        "\x7b\"Automation\":\x7b\"id\":7,\"ok\":true\x7d\x7d".toList then
      .ok (.automation acknowledged)
    else .error "expected value at line 1 column 1"

end Ipc
end Vvmux
