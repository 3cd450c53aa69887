import Vvmux.Client.PrefixParser

/-!
# Splitting the input of the prefix parser

One byte moves the parser and says something; what it says does not depend on
the bytes that are still in the buffer.  So a run says the same however its
bytes are split into calls of `feed`, and every byte of the input is accounted
for: it belongs to a command or a report, it is input, or the parser holds it.
-/

namespace Vvmux
namespace Client

open Library
open Session (Action MouseEvent)
open Gateway (ParsedInput)

/-! ## What the parser says -/

/-- The parser's output consists of runs of input bytes and other items. -/
def inputRuns : Runs ParsedInput UInt8 where
  run := .input
  units
    | .input bytes => some bytes
    | _ => none
  units_run _ := rfl
  run_units := by
    intro item bytes isRun
    cases item with
    | input plain => rw [Option.some.inj isRun]
    | action _ => cases isRun
    | mouse _ => cases isRun
    | detach => cases isRun

/-- Merge adjacent input. -/
def mergeInputs (items : List ParsedInput) : List ParsedInput :=
  inputRuns.merge items

/-- The bytes of the input items. -/
def inputBytes (items : List ParsedInput) : List UInt8 :=
  items.flatMap fun item =>
    match item with
    | .input bytes => bytes
    | _ => []

abbrev Token := UInt8 ⊕ ParsedInput

namespace Reading

/-- What was handed over or waits in the buffer. -/
def tokens (reading : Reading) : List Token :=
  inputRuns.tokens reading.output ++ reading.ordinary.map .inl

theorem tokens_flush
    (reading : Reading) : reading.flush.tokens = reading.tokens := by
  unfold flush
  split
  · rfl
  · change inputRuns.tokens (reading.output ++ [.input reading.ordinary]) ++
      [] = _
    have isRun : inputRuns.tokens [.input reading.ordinary] =
        reading.ordinary.map .inl :=
      inputRuns.tokens_run reading.ordinary
    rw [List.append_nil, Runs.tokens_append, isRun]
    rfl

theorem ordinary_flush (reading : Reading) : reading.flush.ordinary = [] := by
  unfold flush
  split
  · assumption
  · rfl

theorem parser_flush
    (reading : Reading) : reading.flush.parser = reading.parser := by
  unfold flush
  split
  · rfl
  · rfl

theorem tokens_push
    {reading : Reading}
    (empty : reading.ordinary = [])
    (item : ParsedInput) :
    (reading.push item).tokens =
      reading.tokens ++ inputRuns.tokens [item] := by
  unfold tokens push
  dsimp only
  rw [empty, List.map_nil, List.append_nil, List.append_nil,
    Runs.tokens_append]

theorem tokens_ordinary
    (reading : Reading)
    (parser : PrefixParser)
    (bytes : List UInt8) :
    Reading.tokens ⟨parser, reading.output, reading.ordinary ++ bytes⟩ =
      reading.tokens ++ inputRuns.tokens [.input bytes] := by
  have isRun : inputRuns.tokens [.input bytes] = bytes.map .inl :=
    inputRuns.tokens_run bytes
  unfold tokens
  dsimp only
  rw [isRun, List.map_append, List.append_assoc]

/-- The buffer is empty where something else than input is being read. -/
def Quiet (reading : Reading) : Prop :=
  reading.parser.confirmClose = true ∨ reading.parser.sequence ≠ [] ∨
      reading.parser.inPrefix = true →
    reading.ordinary = []

end Reading

/-! ## One byte -/

namespace PrefixParser

def reactConfirmation
    (parser : PrefixParser)
    (byte : UInt8) : PrefixParser × List ParsedInput :=
  ({ parser with confirmClose := false },
    if byte = 0x79 ∨ byte = 0x59 then [.action .closePane] else [])

def reactSequence
    (parser : PrefixParser)
    (byte : UInt8) : PrefixParser × List ParsedInput :=
  let sequence := parser.sequence ++ [byte]
  match prefixSequence sequence with
  | some command =>
      ({ parser with sequence := [], inPrefix := false }, [.action command])
  | none =>
      if 7 ≤ sequence.length then
        ({ parser with sequence := [], inPrefix := false }, [])
      else
        ({ parser with sequence := sequence }, [])

def reactMouse
    (parser : PrefixParser)
    (byte : UInt8) : PrefixParser × List ParsedInput :=
  let sequence := parser.mouseSequence ++ [byte]
  let cleared := { parser with mouseSequence := [] }
  if !Reading.opensMouse sequence then
    (cleared, [.input sequence])
  else if byte = 0x4d ∨ byte = 0x6d then
    match parseSgrMouse sequence with
    | some mouse => (cleared, [.mouse mouse])
    | none => (cleared, [.input sequence])
  else if 64 ≤ sequence.length then
    (cleared, [.input sequence])
  else
    ({ parser with mouseSequence := sequence }, [])

def reactOrdinary
    (parser : PrefixParser)
    (byte : UInt8) : PrefixParser × List ParsedInput :=
  if byte = 0x1b then
    ({ parser with mouseSequence := [byte] }, [])
  else if byte = parser.prefixByte then
    ({ parser with inPrefix := true }, [])
  else
    (parser, [.input [byte]])

def reactCommand
    (parser : PrefixParser)
    (byte : UInt8) : PrefixParser × List ParsedInput :=
  match parser.bindings byte with
  | some action => ({ parser with inPrefix := false }, [.action action])
  | none =>
      if byte ≠ parser.prefixByte ∧ byte = 0x78 then
        ({ parser with inPrefix := false, confirmClose := true }, [])
      else if byte ≠ parser.prefixByte ∧ byte = 0x1b then
        ({ parser with sequence := parser.sequence ++ [byte] }, [])
      else
        ({ parser with inPrefix := false },
          (parser.defaultCommand byte).toList)

/-- What one byte does to the parser, and what it says. -/
def react
    (parser : PrefixParser)
    (byte : UInt8) : PrefixParser × List ParsedInput :=
  if parser.confirmClose then parser.reactConfirmation byte
  else if parser.sequence ≠ [] then parser.reactSequence byte
  else if !parser.inPrefix then
    if parser.mouseSequence ≠ [] then parser.reactMouse byte
    else parser.reactOrdinary byte
  else parser.reactCommand byte

end PrefixParser

namespace Reading

/-- The reading behind a step that says these items. -/
structure Tells
    (before : Reading)
    (said : PrefixParser × List ParsedInput)
    (after : Reading) : Prop where
  parser : after.parser = said.1
  tokens : after.tokens = before.tokens ++ inputRuns.tokens said.2
  quiet : after.Quiet

variable {reading : Reading} {parser : PrefixParser}

theorem tells_nothing
    (quiet : Quiet { reading with parser := parser }) :
    reading.Tells (parser, []) { reading with parser := parser } :=
  ⟨rfl, (List.append_nil _).symm, quiet⟩

theorem tells_item
    (empty : reading.ordinary = [])
    (item : ParsedInput) :
    reading.Tells (parser, [item])
      ({ reading with parser := parser }.push item) :=
  ⟨rfl, @tokens_push { reading with parser := parser } empty item,
    fun _ => empty⟩

theorem tells_input
    (bytes : List UInt8)
    (quiet : Quiet ⟨parser, reading.output, reading.ordinary ++ bytes⟩) :
    reading.Tells (parser, [.input bytes])
      ⟨parser, reading.output, reading.ordinary ++ bytes⟩ :=
  ⟨rfl, tokens_ordinary reading parser bytes, quiet⟩

/-- An item behind the input that was in the buffer. -/
theorem tells_flushed
    (reading : Reading)
    (parser : PrefixParser)
    (item : ParsedInput) :
    reading.Tells (parser, [item])
      ((flush { reading with parser := parser }).push item) := by
  have empty := ordinary_flush { reading with parser := parser }
  refine ⟨parser_flush _, ?_, fun _ => empty⟩
  rw [tokens_push empty, tokens_flush]
  rfl

/-- Input behind the input that was in the buffer. -/
theorem tells_rejected
    {reading : Reading}
    {parser : PrefixParser}
    (idle : ¬ (parser.confirmClose = true ∨ parser.sequence ≠ [] ∨
      parser.inPrefix = true))
    (bytes : List UInt8) :
    reading.Tells (parser, [.input bytes])
      { flush { reading with parser := parser } with
        ordinary := (flush { reading with parser := parser }).ordinary ++
          bytes } := by
  have same := parser_flush { reading with parser := parser }
  refine ⟨same, ?_, ?_⟩
  · have appended := tokens_ordinary (flush { reading with parser := parser })
      (flush { reading with parser := parser }).parser bytes
    rw [tokens_flush] at appended
    exact appended
  · intro busy
    dsimp only at busy
    rw [same] at busy
    exact absurd busy idle

theorem feedConfirmation_tells
    (empty : reading.ordinary = [])
    (byte : UInt8) :
    reading.Tells (reading.parser.reactConfirmation byte)
      (reading.feedConfirmation byte) := by
  unfold feedConfirmation PrefixParser.reactConfirmation
  dsimp only
  split
  · exact tells_item empty _
  · exact tells_nothing fun _ => empty

theorem feedSequence_tells
    (empty : reading.ordinary = [])
    (byte : UInt8) :
    reading.Tells (reading.parser.reactSequence byte)
      (reading.feedSequence byte) := by
  unfold feedSequence PrefixParser.reactSequence
  dsimp only
  cases prefixSequence (reading.parser.sequence ++ [byte]) with
  | some command => exact tells_item empty _
  | none =>
      dsimp only
      split
      · exact tells_nothing fun _ => empty
      · exact tells_nothing fun _ => empty

theorem feedCommand_tells
    (empty : reading.ordinary = [])
    (byte : UInt8) :
    reading.Tells (reading.parser.reactCommand byte)
      (reading.feedCommand byte) := by
  unfold feedCommand PrefixParser.reactCommand
  dsimp only
  cases reading.parser.bindings byte with
  | some action => exact tells_item empty _
  | none =>
      dsimp only
      split
      · exact tells_nothing fun _ => empty
      · split
        · exact tells_nothing fun _ => empty
        · cases reading.parser.defaultCommand byte with
          | some item => exact tells_item empty _
          | none => exact tells_nothing fun _ => empty

/-- No command or sequence is being read. -/
def Idle (parser : PrefixParser) : Prop :=
  ¬ (parser.confirmClose = true ∨ parser.sequence ≠ [] ∨
    parser.inPrefix = true)

theorem feedMouse_tells
    (idle : Idle reading.parser)
    (byte : UInt8) :
    reading.Tells (reading.parser.reactMouse byte)
      (reading.feedMouse byte) := by
  unfold feedMouse PrefixParser.reactMouse
  dsimp only
  split
  · exact tells_input _ (fun busy => absurd busy idle)
  · split
    · cases parseSgrMouse (reading.parser.mouseSequence ++ [byte]) with
      | some mouse => exact tells_flushed reading _ _
      | none =>
          exact @tells_rejected reading
            { reading.parser with mouseSequence := [] } idle _
    · split
      · exact tells_input _ (fun busy => absurd busy idle)
      · exact tells_nothing fun busy => absurd busy idle

theorem feedOrdinary_tells
    (idle : Idle reading.parser)
    (byte : UInt8) :
    reading.Tells (reading.parser.reactOrdinary byte)
      (reading.feedOrdinary byte) := by
  unfold feedOrdinary PrefixParser.reactOrdinary
  dsimp only
  split
  · exact tells_nothing fun busy => absurd busy idle
  · split
    · refine ⟨rfl, ?_, fun _ => ordinary_flush reading⟩
      rw [Runs.tokens_nil, List.append_nil, ← tokens_flush reading]
      rfl
    · exact tells_input _ (fun busy => absurd busy idle)

theorem feedByte_tells
    (quiet : reading.Quiet)
    (byte : UInt8) :
    reading.Tells (reading.parser.react byte) (reading.feedByte byte) := by
  unfold feedByte PrefixParser.react
  dsimp only
  by_cases confirming : reading.parser.confirmClose = true
  · rw [if_pos confirming, if_pos confirming]
    exact feedConfirmation_tells (quiet (.inl confirming)) byte
  · rw [if_neg confirming, if_neg confirming]
    by_cases escaping : reading.parser.sequence ≠ []
    · rw [if_pos escaping, if_pos escaping]
      exact feedSequence_tells (quiet (.inr (.inl escaping))) byte
    · rw [if_neg escaping, if_neg escaping]
      cases commanding : reading.parser.inPrefix with
      | true =>
          have empty := quiet (.inr (.inr commanding))
          exact feedCommand_tells empty byte
      | false =>
          have idle : Idle reading.parser := by
            rintro (confirm | escape | command)
            · exact confirming confirm
            · exact escaping escape
            · rw [commanding] at command
              cases command
          rw [Bool.not_false, if_pos rfl, if_pos rfl]
          split
          · exact feedMouse_tells idle byte
          · exact feedOrdinary_tells idle byte

end Reading

/-! ## Runs -/

namespace PrefixParser

/-- What a run of bytes does to the parser, and what it says. -/
def reacts
    (parser : PrefixParser)
    (bytes : List UInt8) : PrefixParser × List ParsedInput :=
  match bytes with
  | [] => (parser, [])
  | byte :: rest =>
      let first := parser.react byte
      let later := first.1.reacts rest
      (later.1, first.2 ++ later.2)

variable (parser : PrefixParser)

theorem reacts_append
    (first second : List UInt8) :
    parser.reacts (first ++ second) =
      let before := parser.reacts first
      let after := before.1.reacts second
      (after.1, before.2 ++ after.2) := by
  induction first generalizing parser with
  | nil => rfl
  | cons byte rest ih =>
      simp only [List.cons_append, reacts, ih, List.append_assoc]

/-- The loop of `feed` says what its bytes say. -/
theorem foldl_feedByte
    {reading : Reading}
    (quiet : reading.Quiet)
    (bytes : List UInt8) :
    (bytes.foldl Reading.feedByte reading).parser =
        (reading.parser.reacts bytes).1 ∧
      (bytes.foldl Reading.feedByte reading).tokens =
        reading.tokens ++
          inputRuns.tokens (reading.parser.reacts bytes).2 := by
  induction bytes generalizing reading with
  | nil => exact ⟨rfl, (List.append_nil _).symm⟩
  | cons byte rest ih =>
      have first := Reading.feedByte_tells quiet byte
      obtain ⟨parser, tokens⟩ := ih first.quiet
      rw [first.parser] at parser tokens
      refine ⟨parser, ?_⟩
      rw [List.foldl_cons, tokens, first.tokens, List.append_assoc,
        ← Runs.tokens_append]
      rfl

/-- A call of `feed` says what its bytes say. -/
theorem feed_spec
    (bytes : List UInt8) :
    (parser.feed bytes).2 = (parser.reacts bytes).1 ∧
      inputRuns.tokens (parser.feed bytes).1 =
        inputRuns.tokens (parser.reacts bytes).2 := by
  have quiet : Reading.Quiet ⟨parser, [], []⟩ := fun _ => rfl
  obtain ⟨same, tokens⟩ := foldl_feedByte quiet bytes
  refine ⟨same, ?_⟩
  have flushed := Reading.tokens_flush
    (bytes.foldl Reading.feedByte ⟨parser, [], []⟩)
  have empty := Reading.ordinary_flush
    (bytes.foldl Reading.feedByte ⟨parser, [], []⟩)
  have handed : Reading.tokens
      (Reading.flush (bytes.foldl Reading.feedByte ⟨parser, [], []⟩)) =
        inputRuns.tokens (parser.feed bytes).1 := by
    unfold Reading.tokens
    rw [empty, List.map_nil, List.append_nil]
    rfl
  rw [← handed, flushed, tokens]
  rfl

/-- A run may be split anywhere. -/
theorem feed_append
    (first second : List UInt8) :
    mergeInputs ((parser.feed first).1 ++
        ((parser.feed first).2.feed second).1) =
        mergeInputs (parser.feed (first ++ second)).1 ∧
      ((parser.feed first).2.feed second).2 =
        (parser.feed (first ++ second)).2 := by
  obtain ⟨before, said⟩ := feed_spec parser first
  obtain ⟨after, answered⟩ := feed_spec (parser.feed first).2 second
  obtain ⟨whole, all⟩ := feed_spec parser (first ++ second)
  rw [before] at after answered
  rw [reacts_append] at whole all
  constructor
  · apply inputRuns.merge_congr
    rw [Runs.tokens_append, said, before, answered, all, Runs.tokens_append]
  · rw [before, after, whole]

end PrefixParser

/-! ## Every byte is accounted for -/

/-- What some bytes of the input were: one byte of input, a byte behind the
prefix byte, an escape sequence behind it, an `x` behind it with the answer, or
a mouse report. -/
inductive Segment where
  | plain (byte : UInt8)
  | command (byte : UInt8)
  | escape (bytes : List UInt8)
  | confirmation (byte : UInt8)
  | mouse (bytes : List UInt8)

namespace Segment

/-- The bytes of the segment. -/
def spelled (prefixByte : UInt8) (segment : Segment) : List UInt8 :=
  match segment with
  | .plain byte => [byte]
  | .command byte => [prefixByte, byte]
  | .escape bytes => prefixByte :: bytes
  | .confirmation byte => [prefixByte, 0x78, byte]
  | .mouse bytes => bytes

/-- The bytes that the segment puts into the input: itself if it is plain, and
one prefix byte if it is that byte twice. -/
def passed (parser : PrefixParser) (segment : Segment) : List UInt8 :=
  match segment with
  | .plain byte => [byte]
  | .command byte =>
      if parser.bindings byte = none ∧ byte = parser.prefixByte then
        [parser.prefixByte]
      else
        []
  | _ => []

/-- The segment is one that the parser takes for what it is called. -/
def WellFormed (parser : PrefixParser) (segment : Segment) : Prop :=
  match segment with
  | .plain _ => True
  | .command byte =>
      parser.bindings byte ≠ none ∨ byte = parser.prefixByte ∨
        byte ≠ 0x78 ∧ byte ≠ 0x1b
  | .escape bytes =>
      bytes.head? = some 0x1b ∧
        (prefixSequence bytes ≠ none ∨ bytes.length = 7)
  | .confirmation _ => True
  | .mouse bytes => (parseSgrMouse bytes).isSome

end Segment

theorem inputBytes_append
    (first second : List ParsedInput) :
    inputBytes (first ++ second) = inputBytes first ++ inputBytes second :=
  List.flatMap_append

/-- The bytes of the input are read off the tokens. -/
theorem inputBytes_eq
    (items : List ParsedInput) :
    inputBytes items = (inputRuns.tokens items).filterMap Sum.getLeft? := by
  induction items with
  | nil => rfl
  | cons item rest ih =>
      have first : inputRuns.tokens (item :: rest) =
          inputRuns.tokensOf item ++ inputRuns.tokens rest :=
        List.flatMap_cons
      have head : inputBytes (item :: rest) = _ ++ inputBytes rest :=
        List.flatMap_cons
      rw [head, first, List.filterMap_append, ih]
      congr 1
      cases item with
      | input bytes =>
          change bytes = (bytes.map Sum.inl).filterMap Sum.getLeft?
          rw [List.filterMap_map]
          exact List.filterMap_some.symm
      | action _ => rfl
      | mouse _ => rfl
      | detach => rfl

namespace PrefixParser

/-- The bytes that the parser has read and not yet taken for anything. -/
def held (parser : PrefixParser) : List UInt8 :=
  if parser.confirmClose then [parser.prefixByte, 0x78]
  else if parser.inPrefix then parser.prefixByte :: parser.sequence
  else parser.mouseSequence

/-- What holds of a parser between two bytes. -/
structure Settled (parser : PrefixParser) : Prop where
  confirming : parser.confirmClose = true →
    parser.inPrefix = false ∧ parser.sequence = [] ∧ parser.mouseSequence = []
  escaping : parser.sequence ≠ [] →
    parser.inPrefix = true ∧ parser.sequence.head? = some 0x1b ∧
      parser.sequence.length ≤ 6
  commanding : parser.inPrefix = true → parser.mouseSequence = []
  reporting : parser.mouseSequence.length ≤ 63

theorem settled_start
    (prefixByte : UInt8)
    (bindings : UInt8 → Option Action) :
    Settled (start prefixByte bindings) where
  confirming := by
    intro confirming
    cases confirming
  escaping escaping := absurd rfl escaping
  commanding _ := rfl
  reporting := Nat.zero_le _

theorem inputBytes_defaultCommand
    (parser : PrefixParser)
    (byte : UInt8) :
    inputBytes (parser.defaultCommand byte).toList =
      if byte = parser.prefixByte then [parser.prefixByte] else [] := by
  unfold defaultCommand
  split
  · rfl
  · split
    all_goals try rfl
    split
    · rfl
    · rfl

/-- One byte more: the segments that it ends, and what the parser holds. -/
structure Accounts
    (parser : PrefixParser)
    (bytes : List UInt8)
    (said : PrefixParser × List ParsedInput)
    (segments : List Segment) : Prop where
  settled : said.1.Settled
  sameBindings : said.1.bindings = parser.bindings
  samePrefix : said.1.prefixByte = parser.prefixByte
  spelled : parser.held ++ bytes =
    segments.flatMap (·.spelled parser.prefixByte) ++ said.1.held
  passed : inputBytes said.2 = segments.flatMap (·.passed parser)
  wellFormed : ∀ segment ∈ segments, segment.WellFormed parser

variable {parser : PrefixParser}

theorem accounts_confirmation
    (settled : parser.Settled)
    (confirming : parser.confirmClose = true)
    (byte : UInt8) :
    parser.Accounts [byte] (parser.reactConfirmation byte)
      [.confirmation byte] := by
  obtain ⟨noPrefix, noSequence, noMouse⟩ := settled.confirming confirming
  constructor
  · constructor
    · intro again
      cases again
    · intro escaping
      exact absurd noSequence escaping
    · intro commanding
      exact noMouse
    · exact settled.reporting
  · rfl
  · rfl
  · have nothing : (parser.reactConfirmation byte).1.held = [] := by
      simp [held, reactConfirmation, noPrefix, noMouse]
    rw [nothing, held, if_pos confirming]
    rfl
  · unfold reactConfirmation
    dsimp only
    split
    · rfl
    · rfl
  · intro segment member
    rw [List.mem_singleton.mp member]
    trivial

theorem accounts_sequence
    (settled : parser.Settled)
    (idle : parser.confirmClose = false)
    (escaping : parser.sequence ≠ [])
    (byte : UInt8) :
    ∃ segments,
      parser.Accounts [byte] (parser.reactSequence byte) segments := by
  obtain ⟨commanding, escape, short⟩ := settled.escaping escaping
  have noMouse := settled.commanding commanding
  have holds : parser.held = parser.prefixByte :: parser.sequence := by
    rw [held, if_neg (by rw [idle]; decide), if_pos commanding]
  have begins : (parser.sequence ++ [byte]).head? = some 0x1b := by
    rw [List.head?_append, escape]
    rfl
  have cleared : Settled { parser with sequence := [], inPrefix := false } := by
    constructor
    · intro confirming
      rw [idle] at confirming
      cases confirming
    · intro again
      exact absurd rfl again
    · intro again
      cases again
    · exact settled.reporting
  have nothing :
      held { parser with sequence := [], inPrefix := false } = [] := by
    simp [held, idle, noMouse]
  have ends : prefixSequence (parser.sequence ++ [byte]) ≠ none ∨
      (parser.sequence ++ [byte]).length = 7 →
      ∀ items, inputBytes items = [] →
        parser.Accounts [byte]
          ({ parser with sequence := [], inPrefix := false }, items)
          [.escape (parser.sequence ++ [byte])] := by
    intro ended items silent
    refine ⟨cleared, rfl, rfl, ?_, silent, ?_⟩
    · rw [nothing, holds]
      simp [Segment.spelled]
    · intro segment member
      rw [List.mem_singleton.mp member]
      exact ⟨begins, ended⟩
  unfold reactSequence
  dsimp only
  cases command : prefixSequence (parser.sequence ++ [byte]) with
  | some action =>
      exact ⟨_, ends (.inl (by rw [command]; exact Option.some_ne_none _)) _
        rfl⟩
  | none =>
      dsimp only
      split
      · next long =>
          have seven : (parser.sequence ++ [byte]).length = 7 := by
            simp only [List.length_append, List.length_singleton] at long ⊢
            omega
          exact ⟨_, ends (.inr seven) _ rfl⟩
      · next unfinished =>
          refine ⟨[], ⟨?_, ?_, settled.commanding, settled.reporting⟩, rfl, rfl,
            ?_, rfl, ?_⟩
          · intro confirming
            rw [idle] at confirming
            cases confirming
          · intro _
            exact ⟨commanding, begins, by dsimp only; omega⟩
          · have longer : held
                { parser with sequence := parser.sequence ++ [byte] } =
                  parser.prefixByte :: (parser.sequence ++ [byte]) := by
              simp [held, idle, commanding]
            rw [longer, holds]
            rfl
          · intro segment member
            cases member

theorem spelled_plain
    (prefixByte : UInt8)
    (bytes : List UInt8) :
    (bytes.map Segment.plain).flatMap (·.spelled prefixByte) = bytes := by
  induction bytes with
  | nil => rfl
  | cons byte rest ih =>
      rw [List.map_cons, List.flatMap_cons, ih]
      rfl

theorem passed_plain
    (parser : PrefixParser)
    (bytes : List UInt8) :
    (bytes.map Segment.plain).flatMap (·.passed parser) = bytes := by
  induction bytes with
  | nil => rfl
  | cons byte rest ih =>
      rw [List.map_cons, List.flatMap_cons, ih]
      rfl

theorem accounts_mouse
    (idle : parser.confirmClose = false)
    (noPrefix : parser.inPrefix = false)
    (noSequence : parser.sequence = [])
    (byte : UInt8) :
    ∃ segments,
      parser.Accounts [byte] (parser.reactMouse byte) segments := by
  have holds : ∀ mouse,
      held { parser with mouseSequence := mouse } = mouse := by
    intro mouse
    simp [held, idle, noPrefix]
  have stays : ∀ mouse : List UInt8, mouse.length ≤ 63 →
      Settled { parser with mouseSequence := mouse } := by
    intro mouse short
    constructor
    · intro confirming
      rw [idle] at confirming
      cases confirming
    · intro escaping
      exact absurd noSequence escaping
    · intro commanding
      rw [noPrefix] at commanding
      cases commanding
    · exact short
  have now : parser.held = parser.mouseSequence := holds _
  have nothing : held { parser with mouseSequence := [] } = [] := holds _
  have asInput : parser.Accounts [byte]
      ({ parser with mouseSequence := [] },
        [.input (parser.mouseSequence ++ [byte])])
      ((parser.mouseSequence ++ [byte]).map .plain) := by
    refine ⟨stays [] (Nat.zero_le _), rfl, rfl, ?_, ?_, ?_⟩
    · rw [nothing, spelled_plain, now, List.append_nil]
    · rw [passed_plain]
      exact List.append_nil _
    · intro segment member
      obtain ⟨plain, _, rfl⟩ := List.mem_map.mp member
      trivial
  unfold reactMouse
  dsimp only
  split
  · exact ⟨_, asInput⟩
  · split
    · cases report : parseSgrMouse (parser.mouseSequence ++ [byte]) with
      | some mouse =>
          refine ⟨[.mouse (parser.mouseSequence ++ [byte])],
            stays [] (Nat.zero_le _), rfl, rfl, ?_, rfl, ?_⟩
          · rw [nothing, now]
            simp [Segment.spelled]
          · intro segment member
            rw [List.mem_singleton.mp member, Segment.WellFormed, report]
            rfl
      | none => exact ⟨_, asInput⟩
    · split
      · exact ⟨_, asInput⟩
      · next short =>
          refine ⟨[], stays _ (by omega), rfl, rfl, ?_, rfl, ?_⟩
          · have longer : held { parser with
                mouseSequence := parser.mouseSequence ++ [byte] } =
                  parser.mouseSequence ++ [byte] := holds _
            rw [longer, now]
            rfl
          · intro segment member
            cases member

theorem accounts_ordinary
    (settled : parser.Settled)
    (idle : parser.confirmClose = false)
    (noPrefix : parser.inPrefix = false)
    (noSequence : parser.sequence = [])
    (noMouse : parser.mouseSequence = [])
    (byte : UInt8) :
    ∃ segments,
      parser.Accounts [byte] (parser.reactOrdinary byte) segments := by
  have nothing : parser.held = [] := by
    simp [held, idle, noPrefix, noMouse]
  have neverConfirms : ∀ {anything : Prop},
      parser.confirmClose = true → anything := by
    intro anything confirming
    rw [idle] at confirming
    cases confirming
  unfold reactOrdinary
  split
  · next escape =>
      refine ⟨[], ⟨neverConfirms, fun escaping => absurd noSequence escaping,
        ?_, Nat.le_of_ble_eq_true rfl⟩, rfl, rfl, ?_, rfl,
        by intro segment member; cases member⟩
      · intro commanding
        rw [noPrefix] at commanding
        cases commanding
      · rw [nothing]
        simp [held, idle, noPrefix]
  · split
    · next isPrefix =>
        refine ⟨[], ⟨neverConfirms, fun escaping => absurd noSequence escaping,
          fun _ => noMouse, settled.reporting⟩, rfl, rfl, ?_, rfl,
          by intro segment member; cases member⟩
        rw [nothing, isPrefix]
        simp [held, idle, noSequence]
    · refine ⟨[.plain byte], settled, rfl, rfl, ?_, rfl, ?_⟩
      · rw [nothing]
        rfl
      · intro segment member
        rw [List.mem_singleton.mp member]
        trivial

theorem accounts_command
    (settled : parser.Settled)
    (idle : parser.confirmClose = false)
    (commanding : parser.inPrefix = true)
    (noSequence : parser.sequence = [])
    (byte : UInt8) :
    ∃ segments,
      parser.Accounts [byte] (parser.reactCommand byte) segments := by
  have noMouse := settled.commanding commanding
  have holds : parser.held = [parser.prefixByte] := by
    simp [held, idle, commanding, noSequence]
  have left : Settled { parser with inPrefix := false } := by
    constructor
    · intro confirming
      rw [idle] at confirming
      cases confirming
    · intro escaping
      exact absurd noSequence escaping
    · intro again
      cases again
    · exact settled.reporting
  have nothing : held { parser with inPrefix := false } = [] := by
    simp [held, idle, noMouse]
  have ends : ∀ items, inputBytes items = Segment.passed parser (.command byte) →
      Segment.WellFormed parser (.command byte) →
      parser.Accounts [byte] ({ parser with inPrefix := false }, items)
        [.command byte] := by
    intro items passed wellFormed
    refine ⟨left, rfl, rfl, ?_, ?_, ?_⟩
    · rw [nothing, holds]
      rfl
    · rw [passed, List.flatMap_singleton]
    · intro segment member
      rw [List.mem_singleton.mp member]
      exact wellFormed
  unfold reactCommand
  cases bound : parser.bindings byte with
  | some action =>
      refine ⟨_, ends _ ?_ (.inl (by rw [bound]; exact Option.some_ne_none _))⟩
      rw [Segment.passed, bound]
      rfl
  | none =>
      dsimp only
      split
      · next asks =>
          refine ⟨[], ⟨fun _ => ⟨rfl, noSequence, noMouse⟩,
            fun escaping => absurd noSequence escaping,
            fun again => noMouse, settled.reporting⟩, rfl, rfl, ?_, rfl,
            by intro segment member; cases member⟩
          rw [holds, asks.2]
          rfl
      · next notAsks =>
          split
          · next escapes =>
              refine ⟨[], ⟨?_, ?_, settled.commanding, settled.reporting⟩, rfl,
                rfl, ?_, rfl, by intro segment member; cases member⟩
              · intro confirming
                rw [idle] at confirming
                cases confirming
              · intro _
                dsimp only
                rw [noSequence, escapes.2]
                exact ⟨commanding, rfl, by decide⟩
              · rw [holds]
                simp [held, idle, commanding, noSequence]
          · next notEscapes =>
              refine ⟨_, ends _ ?_ ?_⟩
              · rw [inputBytes_defaultCommand, Segment.passed]
                simp only [bound, true_and]
              · by_cases isPrefix : byte = parser.prefixByte
                · exact .inr (.inl isPrefix)
                · exact .inr (.inr ⟨fun asks => notAsks ⟨isPrefix, asks⟩,
                    fun escapes => notEscapes ⟨isPrefix, escapes⟩⟩)

theorem accounts_react
    (settled : parser.Settled)
    (byte : UInt8) :
    ∃ segments, parser.Accounts [byte] (parser.react byte) segments := by
  unfold react
  split
  · next confirming => exact ⟨_, accounts_confirmation settled confirming byte⟩
  · next notConfirming =>
      have idle : parser.confirmClose = false := by simpa using notConfirming
      split
      · next escaping => exact accounts_sequence settled idle escaping byte
      · next notEscaping =>
          have noSequence : parser.sequence = [] := by simpa using notEscaping
          split
          · next notCommanding =>
              have noPrefix : parser.inPrefix = false := by
                simpa using notCommanding
              split
              · exact accounts_mouse idle noPrefix noSequence byte
              · next notReporting =>
                  exact accounts_ordinary settled idle noPrefix noSequence
                    (by simpa using notReporting) byte
          · next commanding =>
              exact accounts_command settled idle (by simpa using commanding)
                noSequence byte

/-- A run of bytes: the segments that it ends, and what the parser holds. -/
theorem accounts_reacts
    (settled : parser.Settled)
    (bytes : List UInt8) :
    ∃ segments, parser.Accounts bytes (parser.reacts bytes) segments := by
  induction bytes generalizing parser with
  | nil =>
      refine ⟨[], settled, rfl, rfl, ?_, rfl, ?_⟩
      · rw [List.append_nil]
        rfl
      · intro segment member
        cases member
  | cons byte rest ih =>
      obtain ⟨first, one⟩ := accounts_react settled byte
      obtain ⟨later, more⟩ := ih one.settled
      have samePassed : ∀ segment : Segment,
          segment.passed (parser.react byte).1 = segment.passed parser := by
        intro segment
        unfold Segment.passed
        rw [one.sameBindings, one.samePrefix]
      refine ⟨first ++ later, more.settled,
        more.sameBindings.trans one.sameBindings,
        more.samePrefix.trans one.samePrefix, ?_, ?_, ?_⟩
      · have spelled := more.spelled
        rw [one.samePrefix] at spelled
        calc
          parser.held ++ byte :: rest = parser.held ++ [byte] ++ rest := by
            rw [List.append_assoc, List.singleton_append]
          _ = first.flatMap (·.spelled parser.prefixByte) ++
              ((parser.react byte).1.held ++ rest) := by
            rw [one.spelled, List.append_assoc]
          _ = (first ++ later).flatMap (·.spelled parser.prefixByte) ++
              (parser.reacts (byte :: rest)).1.held := by
            rw [spelled, List.flatMap_append, List.append_assoc]
            rfl
      · have passed := more.passed
        simp only [samePassed] at passed
        rw [List.flatMap_append, ← one.passed, ← passed,
          ← inputBytes_append]
        rfl
      · intro segment member
        rcases List.mem_append.mp member with early | late
        · exact one.wellFormed segment early
        · have formed := more.wellFormed segment late
          unfold Segment.WellFormed at formed ⊢
          rw [one.sameBindings, one.samePrefix] at formed
          exact formed

end PrefixParser

/-- However its bytes are split into calls, the parser says the same and ends
in the same state.  From the start every byte of the input belongs to a
segment or is held, the input items consist of the plain bytes in their order,
and of a mouse report at most 63 bytes are held. -/
theorem prefix_parser_exact :
    (∀ (parser : PrefixParser) (first second : List UInt8),
      mergeInputs ((parser.feed first).1 ++
          ((parser.feed first).2.feed second).1) =
          mergeInputs (parser.feed (first ++ second)).1 ∧
        ((parser.feed first).2.feed second).2 =
          (parser.feed (first ++ second)).2) ∧
      ∀ (prefixByte : UInt8) (bindings : UInt8 → Option Action)
        (bytes : List UInt8),
        let parser := PrefixParser.start prefixByte bindings
        ∃ segments : List Segment,
          bytes = segments.flatMap (·.spelled prefixByte) ++
              (parser.feed bytes).2.held ∧
            inputBytes (parser.feed bytes).1 =
              segments.flatMap (·.passed parser) ∧
            (∀ segment ∈ segments, segment.WellFormed parser) ∧
            (parser.feed bytes).2.mouseSequence.length ≤ 63 := by
  refine ⟨PrefixParser.feed_append, ?_⟩
  intro prefixByte bindings bytes parser
  obtain ⟨segments, accounts⟩ := PrefixParser.accounts_reacts
    (PrefixParser.settled_start prefixByte bindings) bytes
  obtain ⟨reached, said⟩ := parser.feed_spec bytes
  refine ⟨segments, ?_, ?_, accounts.wellFormed, ?_⟩
  · rw [reached]
    exact accounts.spelled
  · rw [inputBytes_eq, said, ← inputBytes_eq]
    exact accounts.passed
  · rw [reached]
    exact accounts.settled.reporting

/-- A mouse report starts with an escape byte. -/
theorem head?_of_parseSgrMouse
    {bytes : List UInt8}
    (report : (parseSgrMouse bytes).isSome) : bytes.head? = some 0x1b := by
  unfold parseSgrMouse at report
  split at report
  · rfl
  · cases report

/-- A segment that the parser recognises: behind the prefix byte stands a byte
that does something. -/
def Segment.Recognised (parser : PrefixParser) (segment : Segment) : Prop :=
  segment.WellFormed parser ∧
    ∀ byte, segment = .command byte →
      parser.bindings byte ≠ none ∨ parser.defaultCommand byte ≠ none

/-- A byte behind the prefix byte to which nothing is bound is lost: no
segment that the parser recognises contains it, it is no input, and the parser
does not hold it. -/
theorem unbound_byte_lost :
    let parser := PrefixParser.new 0x02 []
    let read := parser.feed [0x02, 0x71]
    ¬ ∃ segments : List Segment,
      [0x02, 0x71] =
          segments.flatMap (·.spelled 0x02) ++ read.2.mouseSequence ∧
        inputBytes read.1 = segments.flatMap (·.passed parser) ∧
        ∀ segment ∈ segments, segment.Recognised parser := by
  rintro parser read ⟨segments, spelled, passed, recognised⟩
  have silent : inputBytes read.1 = [] := by decide
  have released : read.2.mouseSequence = [] := by decide
  rw [released, List.append_nil] at spelled
  rw [silent] at passed
  cases segments with
  | nil => cases spelled
  | cons segment rest =>
      have known := recognised segment (List.mem_cons_self)
      rw [List.flatMap_cons] at spelled passed
      cases segment with
      | plain byte => cases passed
      | command byte =>
          obtain ⟨_, isByte⟩ := List.cons.inj spelled
          obtain ⟨rfl, _⟩ := List.cons.inj isByte
          rcases known.2 _ rfl with bound | default
          · exact absurd (by decide) bound
          · exact absurd (by decide) default
      | escape bytes =>
          obtain ⟨_, behind⟩ := List.cons.inj spelled
          have begins := known.1.1
          cases bytes with
          | nil => cases begins
          | cons first more =>
              obtain ⟨rfl, _⟩ := List.cons.inj behind
              exact absurd (Option.some.inj begins) (by decide)
      | confirmation byte =>
          obtain ⟨_, behind⟩ := List.cons.inj spelled
          exact absurd (List.cons.inj behind).1 (by decide)
      | mouse bytes =>
          have begins := head?_of_parseSgrMouse known.1
          cases bytes with
          | nil => cases begins
          | cons first more =>
              obtain ⟨rfl, _⟩ := List.cons.inj spelled
              exact absurd (Option.some.inj begins) (by decide)

end Client
end Vvmux
