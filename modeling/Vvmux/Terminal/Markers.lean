import Vvmux.Library.Occurrences
import Vvmux.Library.Runs

/-!
# The marker scanner

`VividMarkerScanner` cuts the bytes of a pane into runs of bytes and markers.
It holds back what may still become a marker.  `decode` reads a whole stream at
once; a push hands over what `decode` says about the stream so far and holds
back the rest, whatever comes next.
-/

namespace Vvmux
namespace Terminal
namespace Markers

open Library

/-! ## Envelopes and markers -/

/-- The bytes of a text. -/
def utf8 (text : String) : List UInt8 :=
  text.toUTF8.data.toList

structure MarkerEnvelope where
  start : List UInt8
  terminator : List UInt8
  payloadSkip : Nat

/-- `APC_ENVELOPE`, the only one on Unix.  The field `prefix` of the source is
`start` here. -/
def apcEnvelope : MarkerEnvelope where
  start := utf8 "\x1b_VIVID;2;A;"
  terminator := utf8 "\x1b\\"
  payloadSkip := 2

/-- `MAX_MARKER_BYTES` -/
def maxMarkerBytes : Nat := 128

/-- `u8::is_ascii_digit` -/
def isAsciiDigit (byte : UInt8) : Bool :=
  0x30 ≤ byte && byte ≤ 0x39

/-- `u8::is_ascii_alphanumeric` -/
def isAsciiAlphanumeric (byte : UInt8) : Bool :=
  isAsciiDigit byte || 0x41 ≤ byte && byte ≤ 0x5a ||
    0x61 ≤ byte && byte ≤ 0x7a

/-- `u8::is_ascii_hexdigit` -/
def isAsciiHexdigit (byte : UInt8) : Bool :=
  isAsciiDigit byte || 0x41 ≤ byte && byte ≤ 0x46 ||
    0x61 ≤ byte && byte ≤ 0x66

/-- `is_base64url` -/
def isBase64url (byte : UInt8) : Bool :=
  isAsciiAlphanumeric byte || byte == 0x2d || byte == 0x5f

/-- `valid_marker_shape`; the fields are read as bytes. -/
def validMarkerShape (marker : String) : Bool :=
  let bytes := utf8 marker
  if 124 < bytes.length || !bytes.all fun byte => byte < 0x80 then
    false
  else
    match bytes.splitOn 0x3b with
    | [vivid, version, kind, tag, id, auth] =>
        vivid == utf8 "VIVID" && version == utf8 "2" && kind == utf8 "A" &&
          (tag.length == 22 && tag.all isBase64url) &&
          (id.length == 16 && id.all isAsciiHexdigit &&
            id.any fun byte => byte != 0x30) &&
          (auth.length == 22 && auth.all isBase64url)
    | _ => false

/-- `str::from_utf8` -/
def fromUtf8 (bytes : List UInt8) : Option String :=
  String.fromUTF8? ⟨bytes.toArray⟩

theorem utf8_of_fromUtf8
    {bytes : List UInt8}
    {text : String}
    (decoded : fromUtf8 bytes = some text) : utf8 text = bytes := by
  unfold fromUtf8 String.fromUTF8? at decoded
  split at decoded
  · obtain rfl := Option.some.inj decoded
    rfl
  · cases decoded

/-! ## The scanner -/

inductive VividChunk where
  | bytes (bytes : List UInt8)
  | marker (marker : String)
deriving DecidableEq

/-- `push_bytes` -/
def pushBytes
    (chunks : List VividChunk)
    (bytes : List UInt8) : List VividChunk :=
  if bytes = [] then
    chunks
  else
    match chunks.getLast? with
    | some (.bytes previous) =>
        chunks.dropLast ++ [.bytes (previous ++ bytes)]
    | _ => chunks ++ [.bytes bytes]

/-- `find_envelope` -/
def findEnvelope (haystack : List UInt8) : Option Nat :=
  firstOccurrence haystack apcEnvelope.start

/-- `partial_prefix_len` -/
def partialPrefixLen (haystack : List UInt8) : Nat :=
  begunLength haystack apcEnvelope.start

/-- The last part of a turn: a marker, or bytes that only look like one.
`candidate` starts with the prefix, `terminator` and `stop` are where its
terminator starts and ends. -/
def pushCandidate
    (chunks : List VividChunk)
    (candidate : List UInt8)
    (terminator stop : Nat) : List VividChunk :=
  match fromUtf8
      ((candidate.take terminator).drop apcEnvelope.payloadSkip) with
  | some marker =>
      if validMarkerShape marker then chunks ++ [.marker marker]
      else pushBytes chunks (candidate.take stop)
  | none => pushBytes chunks (candidate.take stop)

variable {start : Nat}

/-- Behind an envelope's prefix there is less to read. -/
theorem length_of_findEnvelope
    {rest : List UInt8}
    (found : findEnvelope rest = some start) : start + 12 ≤ rest.length := by
  have room := (firstOccurrence_eq_some_iff.mp found).1.1
  have twelve : apcEnvelope.start.length = 12 := by decide
  omega

/-- The loop of `push` from the cursor on: the chunks, and what is kept in
`pending`. -/
def scan
    (chunks : List VividChunk)
    (rest : List UInt8) : List VividChunk × List UInt8 :=
  match found : findEnvelope rest with
  | none =>
      let stop := rest.length - partialPrefixLen rest
      (pushBytes chunks (rest.take stop), rest.drop stop)
  | some start =>
      let chunks := pushBytes chunks (rest.take start)
      let candidate := rest.drop start
      let body := candidate.drop apcEnvelope.start.length
      match firstOccurrence body apcEnvelope.terminator with
      | none =>
          if maxMarkerBytes < candidate.length then
            scan
              (pushBytes chunks (candidate.take apcEnvelope.start.length)) body
          else
            (chunks, candidate)
      | some relativeEnd =>
          let terminator := apcEnvelope.start.length + relativeEnd
          let stop := terminator + apcEnvelope.terminator.length
          if maxMarkerBytes < stop then
            scan
              (pushBytes chunks (candidate.take apcEnvelope.start.length)) body
          else
            scan (pushCandidate chunks candidate terminator stop)
              (candidate.drop stop)
termination_by rest.length
decreasing_by
  all_goals
    have room := length_of_findEnvelope found
    have twelve : apcEnvelope.start.length = 12 := by decide
    simp only [List.length_drop]
    omega

structure VividMarkerScanner where
  pending : List UInt8 := []

/-- `VividMarkerScanner::push` -/
def VividMarkerScanner.push
    (scanner : VividMarkerScanner)
    (bytes : List UInt8) : List VividChunk × VividMarkerScanner :=
  let scanned := scan [] (scanner.pending ++ bytes)
  (scanned.1, ⟨scanned.2⟩)

/-- `VividMarkerScanner::finish` -/
def VividMarkerScanner.finish
    (scanner : VividMarkerScanner) : List VividChunk :=
  if scanner.pending = [] then [] else [.bytes scanner.pending]

/-! ## What chunks say -/

/-- Chunks are runs of bytes and markers. -/
def chunkRuns : Runs VividChunk UInt8 where
  run := .bytes
  units
    | .bytes plain => some plain
    | .marker _ => none
  units_run _ := rfl
  run_units := by
    intro chunk pieces isRun
    cases chunk with
    | bytes plain => rw [Option.some.inj isRun]
    | marker text => cases isRun

/-- A byte of the stream, or a marker. -/
abbrev Item := UInt8 ⊕ VividChunk

/-- The bytes and markers of a sequence of chunks. -/
def content (chunks : List VividChunk) : List Item :=
  chunkRuns.tokens chunks

variable (chunks : List VividChunk) (bytes : List UInt8)

theorem pushBytes_eq :
    pushBytes chunks bytes = chunkRuns.push chunks bytes := by
  unfold pushBytes Runs.push
  cases bytes with
  | nil => rfl
  | cons byte rest =>
      rw [if_neg (List.cons_ne_nil _ _), if_neg (by simp)]
      cases last : chunks.getLast? with
      | none => rfl
      | some chunk =>
          cases chunk with
          | bytes plain => rfl
          | marker text => rfl

@[simp] theorem content_nil : content [] = [] :=
  rfl

@[simp] theorem content_append
    (first second : List VividChunk) :
    content (first ++ second) = content first ++ content second :=
  chunkRuns.tokens_append first second

@[simp] theorem content_bytes
    (bytes : List UInt8) : content [.bytes bytes] = bytes.map .inl :=
  chunkRuns.tokens_run bytes

@[simp] theorem content_marker
    (marker : String) : content [.marker marker] = [.inr (.marker marker)] :=
  chunkRuns.tokens_other rfl

@[simp] theorem content_pushBytes :
    content (pushBytes chunks bytes) = content chunks ++ bytes.map .inl := by
  rw [pushBytes_eq]
  exact chunkRuns.tokens_push chunks bytes

/-- What a candidate turns out to be. -/
def candidateItems
    (candidate : List UInt8)
    (terminator stop : Nat) : List Item :=
  match fromUtf8
      ((candidate.take terminator).drop apcEnvelope.payloadSkip) with
  | some marker =>
      if validMarkerShape marker then [.inr (.marker marker)]
      else (candidate.take stop).map .inl
  | none => (candidate.take stop).map .inl

@[simp] theorem content_pushCandidate
    (candidate : List UInt8)
    (terminator stop : Nat) :
    content (pushCandidate chunks candidate terminator stop) =
      content chunks ++ candidateItems candidate terminator stop := by
  unfold pushCandidate candidateItems
  split
  · split
    · rw [content_append, content_marker]
    · exact content_pushBytes _ _
  · exact content_pushBytes _ _

/-! ## A whole stream -/

/-- The bytes and markers of a stream that has ended. -/
def decode (rest : List UInt8) : List Item :=
  match found : findEnvelope rest with
  | none => rest.map .inl
  | some start =>
      let candidate := rest.drop start
      let body := candidate.drop apcEnvelope.start.length
      (rest.take start).map .inl ++
        match firstOccurrence body apcEnvelope.terminator with
        | none =>
            if maxMarkerBytes < candidate.length then
              (candidate.take apcEnvelope.start.length).map .inl ++ decode body
            else
              candidate.map .inl
        | some relativeEnd =>
            let terminator := apcEnvelope.start.length + relativeEnd
            let stop := terminator + apcEnvelope.terminator.length
            if maxMarkerBytes < stop then
              (candidate.take apcEnvelope.start.length).map .inl ++ decode body
            else
              candidateItems candidate terminator stop ++
                decode (candidate.drop stop)
termination_by rest.length
decreasing_by
  all_goals
    have room := length_of_findEnvelope found
    have twelve : apcEnvelope.start.length = 12 := by decide
    simp only [List.length_drop]
    omega

/-- The part of `decode` behind the bytes ahead of a prefix. -/
def decodeCandidate (candidate : List UInt8) : List Item :=
  let body := candidate.drop apcEnvelope.start.length
  match firstOccurrence body apcEnvelope.terminator with
  | none =>
      if maxMarkerBytes < candidate.length then
        (candidate.take apcEnvelope.start.length).map .inl ++ decode body
      else
        candidate.map .inl
  | some relativeEnd =>
      let terminator := apcEnvelope.start.length + relativeEnd
      let stop := terminator + apcEnvelope.terminator.length
      if maxMarkerBytes < stop then
        (candidate.take apcEnvelope.start.length).map .inl ++ decode body
      else
        candidateItems candidate terminator stop ++
          decode (candidate.drop stop)

theorem decode_of_none
    {rest : List UInt8}
    (nowhere : findEnvelope rest = none) : decode rest = rest.map .inl := by
  rw [decode]
  split
  · rfl
  · next start found =>
      rw [nowhere] at found
      cases found

theorem decode_of_some
    {rest : List UInt8}
    (found : findEnvelope rest = some start) :
    decode rest =
      (rest.take start).map .inl ++ decodeCandidate (rest.drop start) := by
  rw [decode]
  split
  · next nowhere =>
      rw [nowhere] at found
      cases found
  · next other same =>
      obtain rfl := Option.some.inj (same.symm.trans found)
      rfl

/-- Bytes at which no prefix starts are themselves. -/
theorem decode_skip
    {text : List UInt8}
    {cut : Nat}
    (inside : cut ≤ text.length)
    (plain : ∀ start < cut, ¬ OccursAt text apcEnvelope.start start) :
    decode text = (text.take cut).map .inl ++ decode (text.drop cut) := by
  have moved := firstOccurrence_drop inside plain
  cases rest : findEnvelope (text.drop cut) with
  | none =>
      have nowhere : findEnvelope text = none := by
        unfold findEnvelope at rest ⊢
        rw [moved, rest, Option.map_none]
      rw [decode_of_none rest, decode_of_none nowhere, ← List.map_append,
        List.take_append_drop]
  | some start =>
      have found : findEnvelope text = some (cut + start) := by
        unfold findEnvelope at rest ⊢
        rw [moved, rest, Option.map_some]
      rw [decode_of_some rest, decode_of_some found, List.drop_drop,
        ← List.append_assoc, ← List.map_append, List.take_add]

variable {candidate : List UInt8}

/-- A candidate without a terminator that is too long stays too long. -/
theorem decodeCandidate_append_of_none
    (opened : apcEnvelope.start.length ≤ candidate.length)
    (unclosed : firstOccurrence (candidate.drop apcEnvelope.start.length)
      apcEnvelope.terminator = none)
    (long : maxMarkerBytes < candidate.length)
    (more : List UInt8) :
    decodeCandidate (candidate ++ more) =
      (candidate.take apcEnvelope.start.length).map .inl ++
        decode (candidate.drop apcEnvelope.start.length ++ more) := by
  unfold decodeCandidate
  dsimp only
  rw [List.drop_append_of_le_length opened,
    List.take_append_of_le_length opened]
  split
  · rw [if_pos (by rw [List.length_append]; omega)]
  · next relativeEnd closed =>
      have late := length_lt_of_firstOccurrence_append unclosed closed
      rw [List.length_drop] at late
      rw [if_pos (by omega)]

variable {relativeEnd : Nat}

/-- A candidate with its terminator stays what it is. -/
theorem decodeCandidate_append_of_some
    (opened : apcEnvelope.start.length ≤ candidate.length)
    (closed : firstOccurrence (candidate.drop apcEnvelope.start.length)
      apcEnvelope.terminator = some relativeEnd)
    (more : List UInt8) :
    decodeCandidate (candidate ++ more) =
      let terminator := apcEnvelope.start.length + relativeEnd
      let stop := terminator + apcEnvelope.terminator.length
      if maxMarkerBytes < stop then
        (candidate.take apcEnvelope.start.length).map .inl ++
          decode (candidate.drop apcEnvelope.start.length ++ more)
      else
        candidateItems candidate terminator stop ++
          decode (candidate.drop stop ++ more) := by
  have room := (firstOccurrence_eq_some_iff.mp closed).1.1
  rw [List.length_drop] at room
  unfold decodeCandidate
  dsimp only
  rw [List.drop_append_of_le_length opened,
    List.take_append_of_le_length opened,
    firstOccurrence_append_of_some closed]
  dsimp only
  rw [List.drop_append_of_le_length (by omega)]
  unfold candidateItems
  rw [List.take_append_of_le_length (by omega),
    List.take_append_of_le_length (by omega)]

/-! ## One push -/

/-- A candidate starts with the prefix. -/
theorem candidate_opened
    {rest : List UInt8}
    (found : findEnvelope rest = some start) :
    apcEnvelope.start.length ≤ (rest.drop start).length := by
  have room := (firstOccurrence_eq_some_iff.mp found).1.1
  rw [List.length_drop]
  omega

/-- The stream that a candidate starts, with what comes behind it. -/
theorem decode_append_of_some
    {rest : List UInt8}
    (found : findEnvelope rest = some start)
    (more : List UInt8) :
    decode (rest ++ more) =
      (rest.take start).map .inl ++
        decodeCandidate (rest.drop start ++ more) := by
  have room := length_of_findEnvelope found
  have still : findEnvelope (rest ++ more) = some start :=
    firstOccurrence_append_of_some found more
  rw [decode_of_some still, List.take_append_of_le_length (by omega),
    List.drop_append_of_le_length (by omega)]

/-- A scan hands over what the whole stream says about its bytes, whatever
comes behind them. -/
theorem content_scan
    (rest more : List UInt8) :
    content (scan chunks rest).1 ++ decode ((scan chunks rest).2 ++ more) =
      content chunks ++ decode (rest ++ more) := by
  fun_induction scan chunks rest with
  | case1 chunks rest nowhere stop =>
      -- A prefix behind the end starts in the bytes that are kept.
      have inside : stop ≤ (rest ++ more).length := by
        rw [List.length_append]
        omega
      have whole := decode_skip inside (fun start early occurs =>
        absurd (le_start_of_occursAt_append nowhere occurs) (by
          change ¬ stop ≤ start
          omega))
      rw [List.take_append_of_le_length (Nat.sub_le _ _),
        List.drop_append_of_le_length (Nat.sub_le _ _)] at whole
      rw [content_pushBytes, whole, List.append_assoc]
  | case2 chunks rest start found flushed candidate body unclosed long
      ih =>
      rw [ih, decode_append_of_some found,
        decodeCandidate_append_of_none (candidate_opened found) unclosed long,
        content_pushBytes, content_pushBytes]
      simp only [List.append_assoc]
      rfl
  | case3 chunks rest start found flushed candidate body unclosed short =>
      rw [content_pushBytes, List.append_assoc]
      congr 1
      have room := length_of_findEnvelope found
      have first := (firstOccurrence_eq_some_iff.mp
        (firstOccurrence_append_of_some found more)).2
      have inside : start ≤ (rest ++ more).length := by
        rw [List.length_append]
        omega
      have whole := decode_skip inside first
      rw [List.take_append_of_le_length (by omega),
        List.drop_append_of_le_length (by omega)] at whole
      exact whole.symm
  | case4 chunks rest start found flushed candidate body relativeEnd closed
      terminator stop long ih =>
      have extended := decodeCandidate_append_of_some (candidate_opened found)
        closed more
      dsimp only at extended
      rw [if_pos long] at extended
      rw [ih, decode_append_of_some found, extended,
        content_pushBytes, content_pushBytes]
      simp only [List.append_assoc]
      rfl
  | case5 chunks rest start found flushed candidate body relativeEnd closed
      terminator stop short ih =>
      have extended := decodeCandidate_append_of_some (candidate_opened found)
        closed more
      dsimp only at extended
      rw [if_neg short] at extended
      rw [ih, decode_append_of_some found, extended,
        content_pushCandidate, content_pushBytes]
      simp only [List.append_assoc]
      rfl

/-- What a scan keeps is bytes, if nothing comes behind it. -/
theorem decode_kept
    (rest : List UInt8) :
    decode (scan chunks rest).2 = (scan chunks rest).2.map .inl := by
  fun_induction scan chunks rest with
  | case1 chunks rest nowhere stop =>
      apply decode_of_none
      apply firstOccurrence_eq_none_iff.mpr
      intro start occurs
      rw [occursAt_drop (Nat.sub_le _ _)] at occurs
      exact firstOccurrence_eq_none_iff.mp nowhere _ occurs
  | case2 chunks rest start found flushed candidate body unclosed long
      ih => exact ih
  | case3 chunks rest start found flushed candidate body unclosed short =>
      have room := length_of_findEnvelope found
      have atStart : findEnvelope candidate = some 0 := by
        apply firstOccurrence_eq_some_iff.mpr
        have occurs := (firstOccurrence_eq_some_iff.mp found).1
        exact ⟨(occursAt_drop (by omega)).mpr occurs, by
          intro earlier before
          exact absurd before (Nat.not_lt_zero _)⟩
      rw [decode_of_some atStart, List.take_zero, List.drop_zero,
        List.map_nil, List.nil_append, decodeCandidate, unclosed]
      dsimp only
      rw [if_neg short]
  | case4 chunks rest start found flushed candidate body relativeEnd closed
      terminator stop long ih => exact ih
  | case5 chunks rest start found flushed candidate body relativeEnd closed
      terminator stop short ih => exact ih

/-- A scan keeps no more bytes than a marker may have. -/
theorem length_kept
    (rest : List UInt8) : (scan chunks rest).2.length ≤ maxMarkerBytes := by
  fun_induction scan chunks rest with
  | case1 chunks rest nowhere stop =>
      have begun : partialPrefixLen rest ≤ apcEnvelope.start.length - 1 :=
        (begunLength_le rest apcEnvelope.start).2
      have twelve : apcEnvelope.start.length = 12 := by decide
      have most : maxMarkerBytes = 128 := rfl
      rw [List.length_drop]
      omega
  | case2 chunks rest start found flushed candidate body unclosed long
      ih => exact ih
  | case3 chunks rest start found flushed candidate body unclosed short =>
      exact Nat.le_of_not_lt short
  | case4 chunks rest start found flushed candidate body relativeEnd closed
      terminator stop long ih => exact ih
  | case5 chunks rest start found flushed candidate body relativeEnd closed
      terminator stop short ih => exact ih

/-! ## The bytes of a stream -/

/-- The bytes that a chunk stands for: a marker stands in its envelope. -/
def VividChunk.spelled (chunk : VividChunk) : List UInt8 :=
  match chunk with
  | .bytes plain => plain
  | .marker text => utf8 "\x1b_" ++ utf8 text ++ utf8 "\x1b\\"

def Item.spelled (item : Item) : List UInt8 :=
  match item with
  | .inl byte => [byte]
  | .inr chunk => chunk.spelled

theorem spelled_bytes : (bytes.map Sum.inl).flatMap Item.spelled = bytes := by
  induction bytes with
  | nil => rfl
  | cons byte rest ih =>
      rw [List.map_cons, List.flatMap_cons, ih]
      rfl

/-- Between its prefix and its terminator a candidate spells its bytes. -/
theorem spelled_candidateItems
    (opened : OccursAt candidate apcEnvelope.start 0)
    (closed : OccursAt (candidate.drop apcEnvelope.start.length)
      apcEnvelope.terminator relativeEnd) :
    (candidateItems candidate (apcEnvelope.start.length + relativeEnd)
        (apcEnvelope.start.length + relativeEnd +
          apcEnvelope.terminator.length)).flatMap Item.spelled =
      candidate.take (apcEnvelope.start.length + relativeEnd +
        apcEnvelope.terminator.length) := by
  rw [occursAt_drop (by have room := opened.1; omega)] at closed
  unfold candidateItems
  split
  · next marker decoded =>
      split
      · have payload := utf8_of_fromUtf8 decoded
        have twelve : apcEnvelope.start.length = 12 := by decide
        have introducer : candidate.take 2 = utf8 "\x1b_" := by
          have begins := congrArg (List.take 2) opened.2
          rw [List.drop_zero, List.take_take, twelve] at begins
          exact begins
        have front : candidate.take 2 ++
            (candidate.take (apcEnvelope.start.length + relativeEnd)).drop 2 =
              candidate.take (apcEnvelope.start.length + relativeEnd) := by
          have short :
              (candidate.take (apcEnvelope.start.length + relativeEnd)).take 2 =
                candidate.take 2 := by
            rw [List.take_take, Nat.min_eq_left (by omega)]
          rw [← short, List.take_append_drop]
        calc
          [Sum.inr (.marker marker)].flatMap Item.spelled =
              candidate.take 2 ++
                (candidate.take (apcEnvelope.start.length + relativeEnd)).drop
                  2 ++ apcEnvelope.terminator := by
            rw [List.flatMap_singleton, Item.spelled, VividChunk.spelled, payload,
              ← introducer]
            rfl
          _ = candidate.take (apcEnvelope.start.length + relativeEnd) ++
              (candidate.drop (apcEnvelope.start.length + relativeEnd)).take
                apcEnvelope.terminator.length := by
            rw [front, closed.2]
          _ = _ := List.take_add.symm
      · exact spelled_bytes _
  · exact spelled_bytes _

theorem no_marker_in_bytes
    (marker : String) :
    Sum.inr (.marker marker) ∉ (bytes.map .inl : List Item) := by
  intro member
  obtain ⟨byte, _, same⟩ := List.mem_map.mp member
  cases same

variable {marker : String}

/-- Markers have the shape of markers. -/
theorem valid_of_mem_candidateItems
    {terminator stop : Nat}
    (member : Sum.inr (.marker marker) ∈ candidateItems candidate terminator stop) :
    validMarkerShape marker = true := by
  unfold candidateItems at member
  split at member
  · split at member
    · next valid =>
        obtain rfl := VividChunk.marker.inj
          (Sum.inr.inj (List.mem_singleton.mp member))
        exact valid
    · exact absurd member (no_marker_in_bytes _ _)
  · exact absurd member (no_marker_in_bytes _ _)

/-- A stream is all bytes, or it starts with items that spell its first bytes
and goes on behind them. -/
theorem decode_cases
    (rest : List UInt8) :
    decode rest = rest.map .inl ∨
      ∃ items tail, decode rest = items ++ decode tail ∧
        tail.length < rest.length ∧ items.flatMap Item.spelled ++ tail = rest ∧
        ∀ marker, Sum.inr (.marker marker) ∈ items → validMarkerShape marker = true := by
  cases found : findEnvelope rest with
  | none => exact .inl (decode_of_none found)
  | some start =>
      have room := length_of_findEnvelope found
      have opened := candidate_opened found
      have twelve : apcEnvelope.start.length = 12 := by decide
      have readAgain : ∀ tail : List UInt8,
          tail = (rest.drop start).drop apcEnvelope.start.length →
          decode rest = (rest.take start).map .inl ++
            (((rest.drop start).take apcEnvelope.start.length).map .inl ++
              decode tail) →
          ∃ items tail, decode rest = items ++ decode tail ∧
            tail.length < rest.length ∧
            items.flatMap Item.spelled ++ tail = rest ∧
            ∀ marker, Sum.inr (.marker marker) ∈ items →
              validMarkerShape marker = true := by
        intro tail isTail whole
        refine ⟨(rest.take start ++
          (rest.drop start).take apcEnvelope.start.length).map .inl, tail,
          ?_, ?_, ?_, ?_⟩
        · rw [whole, List.map_append, List.append_assoc]
        · rw [isTail, List.length_drop, List.length_drop]
          omega
        · rw [spelled_bytes, isTail, List.append_assoc,
            List.take_append_drop, List.take_append_drop]
        · intro marker member
          exact absurd member (no_marker_in_bytes _ _)
      have whole := decode_of_some found
      unfold decodeCandidate at whole
      dsimp only at whole
      cases closed : firstOccurrence
          ((rest.drop start).drop apcEnvelope.start.length)
          apcEnvelope.terminator with
      | none =>
          rw [closed] at whole
          dsimp only at whole
          by_cases long : maxMarkerBytes < (rest.drop start).length
          · rw [if_pos long] at whole
            exact .inr (readAgain _ rfl whole)
          · rw [if_neg long, ← List.map_append, List.take_append_drop] at whole
            exact .inl whole
      | some relativeEnd =>
          rw [closed] at whole
          dsimp only at whole
          by_cases long : maxMarkerBytes < apcEnvelope.start.length +
              relativeEnd + apcEnvelope.terminator.length
          · rw [if_pos long] at whole
            exact .inr (readAgain _ rfl whole)
          · rw [if_neg long] at whole
            have occurs := (firstOccurrence_eq_some_iff.mp found).1
            have begins : OccursAt (rest.drop start) apcEnvelope.start 0 :=
              (occursAt_drop (by omega)).mpr occurs
            have ends := (firstOccurrence_eq_some_iff.mp closed).1
            refine .inr ⟨(rest.take start).map .inl ++
              candidateItems (rest.drop start)
                (apcEnvelope.start.length + relativeEnd)
                (apcEnvelope.start.length + relativeEnd +
                  apcEnvelope.terminator.length),
              (rest.drop start).drop (apcEnvelope.start.length + relativeEnd +
                apcEnvelope.terminator.length), ?_, ?_, ?_, ?_⟩
            · rw [whole, List.append_assoc]
            · rw [List.length_drop, List.length_drop]
              omega
            · rw [List.flatMap_append, spelled_bytes,
                spelled_candidateItems begins ends, List.append_assoc,
                List.take_append_drop, List.take_append_drop]
            · intro marker member
              rcases List.mem_append.mp member with plain | candidate
              · exact absurd plain (no_marker_in_bytes _ _)
              · exact valid_of_mem_candidateItems candidate

/-- The items of a stream spell its bytes. -/
theorem spelled_decode
    (rest : List UInt8) : (decode rest).flatMap Item.spelled = rest := by
  rcases decode_cases rest with bytes | ⟨items, tail, whole, shorter, spells, _⟩
  · rw [bytes]
    exact spelled_bytes rest
  · rw [whole, List.flatMap_append, spelled_decode tail, spells]
termination_by rest.length

/-- The markers of a stream have the shape of markers. -/
theorem valid_of_mem_decode
    {rest : List UInt8}
    (member : Sum.inr (.marker marker) ∈ decode rest) :
    validMarkerShape marker = true := by
  rcases decode_cases rest with bytes | ⟨items, tail, whole, shorter, _, valid⟩
  · rw [bytes] at member
    exact absurd member (no_marker_in_bytes _ _)
  · rw [whole] at member
    rcases List.mem_append.mp member with here | later
    · exact valid marker here
    · exact valid_of_mem_decode later
termination_by rest.length

/-! ## Runs -/

/-- Merge adjacent runs of bytes. -/
def mergeChunks (chunks : List VividChunk) : List VividChunk :=
  chunkRuns.merge chunks

/-- All chunks of a run of pushes, and the scanner behind it. -/
def VividMarkerScanner.pushAll
    (scanner : VividMarkerScanner)
    (pushes : List (List UInt8)) : List VividChunk × VividMarkerScanner :=
  pushes.foldl
    (fun reached bytes =>
      let pushed := reached.2.push bytes
      (reached.1 ++ pushed.1, pushed.2))
    ([], scanner)

theorem VividMarkerScanner.pushAll_concat
    (scanner : VividMarkerScanner)
    (pushes : List (List UInt8))
    (bytes : List UInt8) :
    scanner.pushAll (pushes ++ [bytes]) =
      ((scanner.pushAll pushes).1 ++
          ((scanner.pushAll pushes).2.push bytes).1,
        ((scanner.pushAll pushes).2.push bytes).2) := by
  unfold pushAll
  rw [List.foldl_append]
  rfl

/-- All chunks of a run of pushes and a final `finish`. -/
def scanned (pushes : List (List UInt8)) : List VividChunk :=
  let reached := VividMarkerScanner.pushAll {} pushes
  reached.1 ++ reached.2.finish

variable (pushes : List (List UInt8))

/-- What a run of pushes handed over and keeps. -/
theorem pushAll_sound :
    let reached := VividMarkerScanner.pushAll {} pushes
    (∀ more, content reached.1 ++ decode (reached.2.pending ++ more) =
        decode (pushes.flatten ++ more)) ∧
      decode reached.2.pending = reached.2.pending.map .inl ∧
      reached.2.pending.length ≤ maxMarkerBytes := by
  induction pushes using List.reverseRecOn with
  | nil =>
      refine ⟨fun more => rfl, ?_, Nat.zero_le _⟩
      exact decode_of_none rfl
  | append_singleton pushes bytes ih =>
      obtain ⟨handed, _, _⟩ := ih
      dsimp only
      rw [VividMarkerScanner.pushAll_concat]
      refine ⟨?_, decode_kept _ _, length_kept _ _⟩
      intro more
      have step := content_scan []
        ((VividMarkerScanner.pushAll {} pushes).2.pending ++ bytes) more
      calc
        _ = content (VividMarkerScanner.pushAll {} pushes).1 ++
            (content (scan [] ((VividMarkerScanner.pushAll {} pushes).2.pending
              ++ bytes)).1 ++
              decode ((scan [] ((VividMarkerScanner.pushAll {}
                pushes).2.pending ++ bytes)).2 ++ more)) := by
          rw [content_append, List.append_assoc]
          rfl
        _ = content (VividMarkerScanner.pushAll {} pushes).1 ++
            decode ((VividMarkerScanner.pushAll {} pushes).2.pending ++
              (bytes ++ more)) := by
          rw [step, content_nil, List.nil_append, List.append_assoc]
        _ = decode ((pushes ++ [bytes]).flatten ++ more) := by
          rw [handed, List.flatten_append, List.flatten_singleton,
            List.append_assoc]

/-- A run of pushes says what the whole stream says. -/
theorem content_scanned : content (scanned pushes) = decode pushes.flatten := by
  obtain ⟨handed, kept, _⟩ := pushAll_sound pushes
  have whole := handed []
  rw [List.append_nil, List.append_nil, kept] at whole
  unfold scanned VividMarkerScanner.finish
  dsimp only
  rw [content_append, ← whole]
  split
  · next empty =>
      rw [empty]
      rfl
  · rw [content_bytes]

theorem spelled_content :
    (content chunks).flatMap Item.spelled =
      chunks.flatMap VividChunk.spelled := by
  unfold content Runs.tokens
  rw [List.flatMap_assoc]
  congr 1
  funext chunk
  cases chunk with
  | bytes plain => exact spelled_bytes plain
  | marker text => exact List.flatMap_singleton _ _

/-- However a stream is split into pushes: the merged chunks are those of one
push, they spell the stream, their markers have the shape of markers, and no
push keeps more than `MAX_MARKER_BYTES`. -/
theorem marker_scanner_exact
    (pushes : List (List UInt8)) :
    mergeChunks (scanned pushes) = mergeChunks (scanned [pushes.flatten]) ∧
      (scanned pushes).flatMap VividChunk.spelled = pushes.flatten ∧
      (∀ marker, .marker marker ∈ scanned pushes →
        validMarkerShape marker = true) ∧
      (VividMarkerScanner.pushAll {} pushes).2.pending.length ≤
        maxMarkerBytes := by
  refine ⟨?_, ?_, ?_, (pushAll_sound pushes).2.2⟩
  · apply chunkRuns.merge_congr
    change content _ = content _
    rw [content_scanned, content_scanned, List.flatten_singleton]
  · rw [← spelled_content, content_scanned]
    exact spelled_decode _
  · intro marker member
    have item : Sum.inr (.marker marker) ∈ content (scanned pushes) :=
      List.mem_flatMap.mpr ⟨_, member, List.mem_singleton.mpr rfl⟩
    rw [content_scanned] at item
    exact valid_of_mem_decode item

end Markers
end Terminal
end Vvmux
