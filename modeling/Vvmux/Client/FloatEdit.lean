import Vvmux.Client.PrefixParser

/-!
# Keys of a floating edit

While a floating pane is moved or resized, the scanner takes edit sequences out
of the input and forwards the rest.  It holds the bytes of a sequence that is
not complete, across reads if need be.  The time since when it holds them is
left out.
-/

namespace Vvmux
namespace Client

open Session (FloatingEditCommand)

/-- `float_edit_sequence` -/
def floatEditSequence :
    List UInt8 → Option FloatingEditCommand
  | [0x1b, 0x5b, last] => (arrow last).map (.step · 1)
  | [0x1b, 0x5b, 0x31, 0x3b, 0x32, last] => (arrow last).map (.step · 5)
  | _ => none

/-- `SEQUENCES` -/
def floatEditSequences : List (List UInt8) :=
  [[0x1b, 0x5b, 0x41], [0x1b, 0x5b, 0x42], [0x1b, 0x5b, 0x43],
    [0x1b, 0x5b, 0x44], [0x1b, 0x5b, 0x31, 0x3b, 0x32, 0x41],
    [0x1b, 0x5b, 0x31, 0x3b, 0x32, 0x42],
    [0x1b, 0x5b, 0x31, 0x3b, 0x32, 0x43],
    [0x1b, 0x5b, 0x31, 0x3b, 0x32, 0x44]]

/-- `float_edit_sequence_prefix` -/
def floatEditSequencePrefix (sequence : List UInt8) : Bool :=
  floatEditSequences.any sequence.isPrefixOf

/-- The command leaves the edit mode. -/
def leavesMode :
    FloatingEditCommand → Bool
  | .step _ _ => false
  | .commit | .cancel => true

/-- What a scan returns, and the bytes it holds at its end. -/
structure Scanned where
  commands : List FloatingEditCommand
  forward : List UInt8
  pending : List UInt8
  deriving DecidableEq

namespace Scanned

/-- A command ahead of the rest of a scan. -/
def behind (scanned : Scanned) (command : FloatingEditCommand) : Scanned :=
  { scanned with commands := command :: scanned.commands }

/-- Forwarded bytes ahead of the rest of a scan. -/
def passing (scanned : Scanned) (bytes : List UInt8) : Scanned :=
  { scanned with forward := bytes ++ scanned.forward }

end Scanned

/-- `FloatEditScanner::scan`, with the bytes that are held at its start. -/
def scan
    (pending : List UInt8) :
    List UInt8 → Scanned
  | [] => ⟨[], [], pending⟩
  | byte :: rest =>
      if pending = [] then
        if byte = 0x0d ∨ byte = 0x0a then ⟨[.commit], rest, []⟩
        else if byte = 0x1b then scan [byte] rest
        else (scan [] rest).passing [byte]
      else
        match floatEditSequence (pending ++ [byte]) with
        | some command =>
            if leavesMode command then ⟨[command], rest, []⟩
            else (scan [] rest).behind command
        | none =>
            if floatEditSequencePrefix (pending ++ [byte]) then
              scan (pending ++ [byte]) rest
            else (scan [] rest).passing (pending ++ [byte])

/-- The edit mode of a client and the bytes that its scanner holds. -/
structure FloatInput where
  floatMode : Option Nat
  pending : List UInt8
  deriving DecidableEq

/-- What some reads led to: the edit commands and the bytes for the prefix
parser. -/
structure Dispatched where
  input : FloatInput
  commands : List FloatingEditCommand
  forward : List UInt8
  deriving DecidableEq

/-- What reads led to behind others. -/
def Dispatched.behind (later first : Dispatched) : Dispatched :=
  ⟨later.input, first.commands ++ later.commands,
    first.forward ++ later.forward⟩

namespace FloatInput

/-- The mode was just entered. -/
def entered (modeId : Nat) : FloatInput :=
  ⟨some modeId, []⟩

/-- `dispatch_input`, up to the prefix parser. -/
def dispatchInput (input : FloatInput) (bytes : List UInt8) : Dispatched :=
  match input.floatMode with
  | none => ⟨input, [], bytes⟩
  | some modeId =>
      let scanned := scan input.pending bytes
      ⟨⟨if scanned.commands.any leavesMode then none else some modeId,
          scanned.pending⟩, scanned.commands, scanned.forward⟩

/-- Reads in their order. -/
def dispatchReads
    (input : FloatInput) :
    List (List UInt8) → Dispatched
  | [] => ⟨input, [], []⟩
  | bytes :: rest =>
      let first := input.dispatchInput bytes
      (first.input.dispatchReads rest).behind first

end FloatInput

/-! ## One byte -/

variable {command : FloatingEditCommand} {sequence : List UInt8}

/-- No sequence of the scanner leaves the mode. -/
theorem leavesMode_of_sequence
    (recognised : floatEditSequence sequence = some command) :
    leavesMode command = false := by
  unfold floatEditSequence at recognised
  split at recognised
  · obtain ⟨direction, -, rfl⟩ := Option.map_eq_some_iff.mp recognised
    rfl
  · obtain ⟨direction, -, rfl⟩ := Option.map_eq_some_iff.mp recognised
    rfl
  · cases recognised

namespace FloatInput

/-- What one byte does while the mode is active. -/
theorem dispatchInput_byte
    (modeId : Nat)
    (pending : List UInt8)
    (byte : UInt8) :
    dispatchInput ⟨some modeId, pending⟩ [byte] =
      if pending = [] then
        if byte = 0x0d ∨ byte = 0x0a then ⟨⟨none, []⟩, [.commit], []⟩
        else if byte = 0x1b then ⟨⟨some modeId, [byte]⟩, [], []⟩
        else ⟨⟨some modeId, []⟩, [], [byte]⟩
      else
        match floatEditSequence (pending ++ [byte]) with
        | some command => ⟨⟨some modeId, []⟩, [command], []⟩
        | none =>
            if floatEditSequencePrefix (pending ++ [byte]) then
              ⟨⟨some modeId, pending ++ [byte]⟩, [], []⟩
            else ⟨⟨some modeId, []⟩, [], pending ++ [byte]⟩ := by
  by_cases empty : pending = []
  · by_cases ends : byte = 0x0d ∨ byte = 0x0a
    · simp [dispatchInput, scan, empty, ends, leavesMode]
    · by_cases escape : byte = 0x1b
      · simp [dispatchInput, scan, empty, escape]
      · simp [dispatchInput, scan, empty, ends, escape, Scanned.passing]
  · cases recognised : floatEditSequence (pending ++ [byte]) with
    | some command =>
        simp [dispatchInput, scan, empty, recognised,
          leavesMode_of_sequence recognised, Scanned.behind]
    | none =>
        by_cases opens : floatEditSequencePrefix (pending ++ [byte]) = true
        · simp [dispatchInput, scan, empty, recognised, opens]
        · simp [dispatchInput, scan, empty, recognised, opens,
            Scanned.passing]

/-- A first byte and then the rest. -/
theorem dispatchInput_cons
    (input : FloatInput)
    (byte : UInt8)
    (rest : List UInt8) :
    input.dispatchInput (byte :: rest) =
      ((input.dispatchInput [byte]).input.dispatchInput rest).behind
        (input.dispatchInput [byte]) := by
  obtain ⟨_ | modeId, pending⟩ := input
  · rfl
  rw [dispatchInput_byte]
  by_cases empty : pending = []
  · by_cases ends : byte = 0x0d ∨ byte = 0x0a
    · simp [dispatchInput, scan, empty, ends, leavesMode, Dispatched.behind]
    · by_cases escape : byte = 0x1b
      · simp [dispatchInput, scan, empty, escape, Dispatched.behind]
      · simp [dispatchInput, scan, empty, ends, escape, Scanned.passing,
          Dispatched.behind]
  · cases recognised : floatEditSequence (pending ++ [byte]) with
    | some command =>
        simp [dispatchInput, scan, empty, recognised,
          leavesMode_of_sequence recognised, Scanned.behind,
          Dispatched.behind]
    | none =>
        by_cases opens : floatEditSequencePrefix (pending ++ [byte]) = true
        · simp [dispatchInput, scan, empty, recognised, opens,
            Dispatched.behind]
        · simp [dispatchInput, scan, empty, recognised, opens,
            Scanned.passing, Dispatched.behind]

@[simp] theorem dispatchInput_nil
    (input : FloatInput) : input.dispatchInput [] = ⟨input, [], []⟩ := by
  obtain ⟨_ | modeId, pending⟩ := input <;> rfl

theorem dispatchInput_append
    (input : FloatInput)
    (first second : List UInt8) :
    input.dispatchInput (first ++ second) =
      ((input.dispatchInput first).input.dispatchInput second).behind
        (input.dispatchInput first) := by
  induction first generalizing input with
  | nil => simp [Dispatched.behind]
  | cons byte rest ih =>
      rw [List.cons_append, dispatchInput_cons, ih,
        dispatchInput_cons input byte rest]
      simp only [Dispatched.behind, List.append_assoc]

/-- Where the reads end does not matter. -/
theorem dispatchReads_eq
    (input : FloatInput)
    (reads : List (List UInt8)) :
    input.dispatchReads reads = input.dispatchInput reads.flatten := by
  induction reads generalizing input with
  | nil => exact (dispatchInput_nil input).symm
  | cons bytes rest ih =>
      rw [List.flatten_cons, dispatchInput_append, dispatchReads, ih]

end FloatInput

/-! ## What becomes of every byte -/

/-- A forwarded byte, or an edit sequence. -/
inductive Part
  | forwarded (byte : UInt8)
  | edit (sequence : List UInt8)

namespace Part

def spelled :
    Part → List UInt8
  | forwarded byte => [byte]
  | edit sequence => sequence

/-- The byte that the part puts into the forwarded output. -/
def passed :
    Part → List UInt8
  | forwarded byte => [byte]
  | edit _ => []

/-- The command of an edit sequence; a line end commits. -/
def commands :
    Part → List (Option FloatingEditCommand)
  | forwarded _ => []
  | edit sequence =>
      [if sequence = [0x0d] ∨ sequence = [0x0a] then some .commit
        else floatEditSequence sequence]

end Part

/-- The bytes are put together from forwarded bytes, from the sequences of the
commands, and from those that are held. -/
def Covered (bytes : List UInt8) (result : Dispatched) : Prop :=
  ∃ parts : List Part,
    parts.flatMap Part.spelled ++ result.input.pending = bytes ∧
      parts.flatMap Part.passed = result.forward ∧
      parts.flatMap Part.commands = result.commands.map some

/-- What is known of an edit once some bytes were read. -/
structure Reached
    (modeId : Nat)
    (bytes : List UInt8)
    (result : Dispatched) : Prop where
  left : result.input.floatMode = none → result.input.pending = []
  active : ∀ other, result.input.floatMode = some other → other = modeId
  held : result.input.pending ≠ [] →
    floatEditSequencePrefix result.input.pending = true ∧
      floatEditSequence result.input.pending = none
  covered : Covered bytes result

/-- Bytes that are forwarded one by one. -/
theorem covered_forwarded
    (bytes : List UInt8) :
    (bytes.map Part.forwarded).flatMap Part.spelled = bytes ∧
      (bytes.map Part.forwarded).flatMap Part.passed = bytes ∧
      (bytes.map Part.forwarded).flatMap Part.commands = [] := by
  induction bytes with
  | nil => exact ⟨rfl, rfl, rfl⟩
  | cons byte rest ih =>
      obtain ⟨spelled, passed, commands⟩ := ih
      exact ⟨congrArg (byte :: ·) spelled, congrArg (byte :: ·) passed,
        commands⟩

/-- More parts behind those of the bytes so far. -/
theorem Covered.behind
    {bytes more : List UInt8}
    {first later : Dispatched}
    (covered : Covered bytes first)
    (parts : List Part)
    (spelled : first.input.pending ++ more =
      parts.flatMap Part.spelled ++ later.input.pending)
    (passed : parts.flatMap Part.passed = later.forward)
    (commands : parts.flatMap Part.commands = later.commands.map some) :
    Covered (bytes ++ more) (later.behind first) := by
  obtain ⟨before, whole, forward, edits⟩ := covered
  refine ⟨before ++ parts, ?_, ?_, ?_⟩
  · rw [← whole, List.flatMap_append, List.append_assoc, List.append_assoc,
      spelled]
    rfl
  · rw [List.flatMap_append, forward, passed]
    rfl
  · rw [List.flatMap_append, edits, commands, ← List.map_append]
    rfl

variable {bytes : List UInt8}

/-- While the mode is active. -/
theorem Reached.of_active
    {modeId : Nat}
    {result : Dispatched}
    (active : result.input.floatMode = some modeId)
    (held : result.input.pending ≠ [] →
      floatEditSequencePrefix result.input.pending = true ∧
        floatEditSequence result.input.pending = none)
    (covered : Covered bytes result) : Reached modeId bytes result where
  left gone := nomatch active.symm.trans gone
  active _ same := Option.some.inj (same.symm.trans active)
  held := held
  covered := covered

/-- By induction over the bytes: a byte is forwarded, with those that are held
if it disproves them, or it ends a sequence, or is held. -/
theorem reached
    (modeId : Nat)
    (bytes : List UInt8) :
    Reached modeId bytes ((FloatInput.entered modeId).dispatchInput bytes) := by
  induction bytes using List.reverseRecOn with
  | nil =>
      rw [FloatInput.dispatchInput_nil]
      exact .of_active rfl (fun holds => absurd rfl holds) ⟨[], rfl, rfl, rfl⟩
  | append_singleton bytes byte ih =>
      rw [FloatInput.dispatchInput_append]
      generalize (FloatInput.entered modeId).dispatchInput bytes = first at *
      obtain ⟨⟨mode, pending⟩, commands, forward⟩ := first
      obtain ⟨left, active, held, covered⟩ := ih
      cases mode with
      | none =>
          cases left rfl
          exact ⟨fun _ => rfl, fun _ same => (nomatch same),
            fun holds => absurd rfl holds,
            covered.behind [.forwarded byte] rfl rfl rfl⟩
      | some other =>
          cases active other rfl
          rw [FloatInput.dispatchInput_byte]
          by_cases empty : pending = []
          · cases empty
            by_cases ends : byte = 0x0d ∨ byte = 0x0a
            · rw [if_pos rfl, if_pos ends]
              refine ⟨fun _ => rfl, fun _ same => (nomatch same),
                fun holds => absurd rfl holds,
                covered.behind [.edit [byte]] rfl rfl ?_⟩
              simp [Part.commands, ends]
            · rw [if_pos rfl, if_neg ends]
              split_ifs with escape
              · subst escape
                have held : floatEditSequencePrefix [0x1b] = true ∧
                    floatEditSequence [0x1b] = none := by
                  decide
                exact .of_active rfl (fun _ => held) (covered.behind [] rfl rfl rfl)
              · exact .of_active rfl (fun holds => absurd rfl holds)
                  (covered.behind [.forwarded byte] rfl rfl rfl)
          · rw [if_neg empty]
            cases recognised : floatEditSequence (pending ++ [byte]) with
            | some command =>
                have longer : ∀ line : UInt8, pending ++ [byte] ≠ [line] := by
                  intro line same
                  have length := congrArg List.length same
                  simp [empty] at length
                refine .of_active rfl (fun holds => absurd rfl holds)
                  (covered.behind [.edit (pending ++ [byte])] ?_ rfl ?_)
                · simp [Part.spelled]
                · simp [Part.commands, recognised, longer]
            | none =>
                dsimp only
                split_ifs with opens
                · exact .of_active rfl (fun _ => ⟨opens, recognised⟩)
                    (covered.behind [] rfl rfl rfl)
                · obtain ⟨spelled, passed, none⟩ :=
                    covered_forwarded (pending ++ [byte])
                  refine .of_active rfl (fun holds => absurd rfl holds)
                    (covered.behind ((pending ++ [byte]).map .forwarded) ?_
                      passed none)
                  rw [spelled, List.append_nil]

/-! ## A byte behind bytes that are held -/

/-- The byte ends a line or starts a sequence. -/
def Fresh (byte : UInt8) : Prop :=
  byte = 0x0d ∨ byte = 0x0a ∨ byte = 0x1b

/-- The bytes start an edit sequence and are none. -/
def Starts (held : List UInt8) : Prop :=
  held ≠ [] ∧ floatEditSequencePrefix held = true ∧
    floatEditSequence held = none

/-- The laws of the input of an edit, up to the end of the given bytes: it does
not matter where reads end, no byte is lost, and a byte that disproves the
bytes held is read as if these had been forwarded before. -/
structure FloatEditLaws (modeId : Nat) (bytes : List UInt8) : Prop where
  chunks : ∀ reads : List (List UInt8), reads.flatten <+: bytes →
    (FloatInput.entered modeId).dispatchReads reads =
      (FloatInput.entered modeId).dispatchInput reads.flatten
  lossless : ∀ read : List UInt8, read <+: bytes →
    Covered read ((FloatInput.entered modeId).dispatchInput read)
  fresh : ∀ (read : List UInt8) (byte : UInt8), read ++ [byte] <+: bytes →
    ∀ pending : List UInt8, pending ≠ [] →
    ((FloatInput.entered modeId).dispatchInput read).input =
      ⟨some modeId, pending⟩ →
    floatEditSequencePrefix (pending ++ [byte]) = false →
    FloatInput.dispatchInput ⟨some modeId, pending⟩ [byte] =
      ((FloatInput.entered modeId).dispatchInput [byte]).behind
        ⟨.entered modeId, [], pending⟩

/-- No start of a sequence is followed by a line end or by the start of
another before the mode is left. -/
def Undisturbed (bytes : List UInt8) : Prop :=
  ∀ (before held : List UInt8) (byte : UInt8),
    before ++ held ++ [byte] <+: bytes →
    (∀ earlier ∈ before, earlier ≠ 0x0d ∧ earlier ≠ 0x0a) →
    Starts held → ¬ Fresh byte

theorem prefix_of_sequence
    (recognised : floatEditSequence sequence = some command) :
    floatEditSequencePrefix sequence = true := by
  unfold floatEditSequence at recognised
  split at recognised
  all_goals
    first
    | cases recognised
    | obtain ⟨direction, pointed, -⟩ := Option.map_eq_some_iff.mp recognised
      unfold arrow at pointed
      split at pointed
      · decide
      · decide
      · decide
      · decide
      · cases pointed

variable {held : List UInt8}

/-- A fresh byte continues no sequence. -/
theorem disproves_of_fresh
    {byte : UInt8}
    (nonempty : held ≠ [])
    (fresh : Fresh byte) :
    floatEditSequencePrefix (held ++ [byte]) = false := by
  by_contra opens
  obtain ⟨candidate, listed, starts⟩ :=
    List.any_eq_true.mp (Bool.of_not_eq_false opens)
  obtain ⟨rest, rfl⟩ := List.isPrefixOf_iff_prefix.mp starts
  obtain ⟨first, tail, rfl⟩ := List.exists_cons_of_ne_nil nonempty
  have none : ∀ candidate ∈ floatEditSequences, ∀ byte ∈ candidate.tail,
      ¬ (byte = 0x0d ∨ byte = 0x0a ∨ byte = 0x1b) := by
    decide +kernel
  exact none _ listed byte (by simp) fresh

section

variable (modeId : Nat)

/-- The start of a sequence is held once it is read. -/
theorem dispatchInput_starts
    (starts : Starts held) :
    (FloatInput.entered modeId).dispatchInput held =
        ⟨⟨some modeId, held⟩, [], []⟩ ∧ held.head? = some 0x1b := by
  obtain ⟨nonempty, opens, incomplete⟩ := starts
  obtain ⟨candidate, listed, isPrefix⟩ := List.any_eq_true.mp opens
  have all : ∀ candidate ∈ floatEditSequences, ∀ held ∈ candidate.inits,
      held ≠ [] → floatEditSequence held = none →
      scan [] held = ⟨[], [], held⟩ ∧ held.head? = some 0x1b := by
    decide
  obtain ⟨scanned, first⟩ := all candidate listed held
    ((List.mem_inits _ _).mpr (List.isPrefixOf_iff_prefix.mp isPrefix))
    nonempty incomplete
  refine ⟨?_, first⟩
  simp [FloatInput.dispatchInput, FloatInput.entered, scanned]

/-- A byte that disproves the bytes held is read as behind them exactly if it
is not fresh. -/
theorem fresh_iff
    {pending : List UInt8}
    (nonempty : pending ≠ [])
    {byte : UInt8}
    (disproves : floatEditSequencePrefix (pending ++ [byte]) = false) :
    FloatInput.dispatchInput ⟨some modeId, pending⟩ [byte] =
        ((FloatInput.entered modeId).dispatchInput [byte]).behind
          ⟨.entered modeId, [], pending⟩ ↔
      ¬ Fresh byte := by
  have unrecognised : floatEditSequence (pending ++ [byte]) = none := by
    cases recognised : floatEditSequence (pending ++ [byte]) with
    | none => rfl
    | some command =>
        rw [prefix_of_sequence recognised] at disproves
        cases disproves
  unfold Fresh FloatInput.entered
  rw [FloatInput.dispatchInput_byte, FloatInput.dispatchInput_byte,
    if_neg nonempty, unrecognised, if_pos rfl]
  simp only [disproves, Bool.false_eq_true, if_false]
  by_cases ends : byte = 0x0d ∨ byte = 0x0a
  · simp [ends, Dispatched.behind, ← or_assoc]
  · by_cases escape : byte = 0x1b
    · simp [escape, Dispatched.behind]
    · simp [ends, escape, Dispatched.behind]

/-- The mode is left with a line end that is read fresh. -/
theorem mode_byte
    (pending : List UInt8)
    (byte : UInt8) :
    (FloatInput.dispatchInput ⟨some modeId, pending⟩ [byte]).input.floatMode =
      if pending = [] ∧ (byte = 0x0d ∨ byte = 0x0a) then none
      else some modeId := by
  rw [FloatInput.dispatchInput_byte]
  by_cases empty : pending = []
  · by_cases ends : byte = 0x0d ∨ byte = 0x0a
    · simp [empty, ends]
    · by_cases escape : byte = 0x1b
      · simp [empty, escape]
      · simp [empty, ends, escape]
  · simp only [empty, if_false, false_and]
    split
    · rfl
    · split_ifs <;> rfl

/-- Without a line end the mode is not left. -/
theorem stays_active
    (noEnd : ∀ byte ∈ bytes, byte ≠ 0x0d ∧ byte ≠ 0x0a) :
    ((FloatInput.entered modeId).dispatchInput bytes).input.floatMode =
      some modeId := by
  induction bytes using List.reverseRecOn with
  | nil => rw [FloatInput.dispatchInput_nil, FloatInput.entered]
  | append_singleton bytes byte ih =>
      have active := ih fun earlier here =>
        noEnd earlier (List.mem_append_left _ here)
      obtain ⟨noReturn, noFeed⟩ := noEnd byte (by simp)
      rw [FloatInput.dispatchInput_append]
      generalize (FloatInput.entered modeId).dispatchInput bytes = first at *
      obtain ⟨⟨mode, pending⟩, commands, forward⟩ := first
      cases active
      exact (mode_byte modeId pending byte).trans
        (if_neg fun leaves => leaves.2.elim noReturn noFeed)

/-- The bytes held are the last ones read. -/
theorem held_last
    (read : List UInt8) :
    ∃ before, before ++ ((FloatInput.entered modeId).dispatchInput
      read).input.pending = read := by
  obtain ⟨parts, whole, -⟩ := (reached modeId read).covered
  exact ⟨_, whole⟩

/-- By induction over the bytes read: while the mode is active, none of them
is a line end. -/
theorem noEnd_of_active
    (undisturbed : Undisturbed bytes)
    {read : List UInt8}
    (isRead : read <+: bytes)
    (active : ((FloatInput.entered modeId).dispatchInput
      read).input.floatMode = some modeId) :
    ∀ byte ∈ read, byte ≠ 0x0d ∧ byte ≠ 0x0a := by
  induction read using List.reverseRecOn with
  | nil => exact fun _ here => absurd here List.not_mem_nil
  | append_singleton read byte ih =>
      have earlier : read <+: bytes := (List.prefix_append _ _).trans isRead
      have last := reached modeId read
      obtain ⟨before, whole⟩ := held_last modeId read
      rw [FloatInput.dispatchInput_append] at active
      generalize (FloatInput.entered modeId).dispatchInput read = first at *
      obtain ⟨⟨mode, pending⟩, commands, forward⟩ := first
      cases mode with
      | none => cases active
      | some other =>
          cases last.active other rfl
          have noEnd := ih earlier rfl
          have stays := (mode_byte modeId pending byte).symm.trans active
          dsimp only at whole
          intro found here
          rcases List.mem_append.mp here with before | isLast
          · exact noEnd found before
          cases List.mem_singleton.mp isLast
          by_contra ends
          have isEnd : byte = 0x0d ∨ byte = 0x0a := by
            tauto
          by_cases empty : pending = []
          · rw [if_pos ⟨empty, isEnd⟩] at stays
            cases stays
          · refine undisturbed before pending byte (whole ▸ isRead)
              (fun earlier there => noEnd earlier ?_)
              ⟨empty, last.held empty⟩ ?_
            · rw [← whole]
              exact List.mem_append_left _ there
            · exact or_assoc.mp (.inl isEnd)

end

/-- The laws hold of an input exactly if no start of a sequence in it is
followed by a line end or by another start. -/
theorem floatEditLaws_iff
    (modeId : Nat)
    (bytes : List UInt8) : FloatEditLaws modeId bytes ↔ Undisturbed bytes := by
  constructor
  · intro laws before held byte isPrefix noEnd starts fresh
    obtain ⟨isHeld, first⟩ := dispatchInput_starts modeId starts
    have active := stays_active modeId noEnd
    have whole := FloatInput.dispatchInput_append (.entered modeId) before held
    cases state : (FloatInput.entered modeId).dispatchInput before with
    | mk input commands forward =>
    obtain ⟨mode, pending⟩ := input
    rw [state] at active whole
    cases active
    by_cases empty : pending = []
    · -- The bytes are held, and the fresh byte disproves them.
      cases empty
      have disproves := disproves_of_fresh starts.1 fresh
      refine (fresh_iff modeId starts.1 disproves).mp
        (laws.fresh (before ++ held) byte isPrefix held starts.1 ?_
          disproves) fresh
      rw [whole]
      exact congrArg Dispatched.input isHeld
    · -- Already the first of them disproves what was held before.
      obtain ⟨tail, rfl⟩ := List.head?_eq_some_iff.mp first
      have isFresh : Fresh 0x1b := .inr (.inr rfl)
      have disproves := disproves_of_fresh empty isFresh
      refine (fresh_iff modeId empty disproves).mp
        (laws.fresh before 0x1b (.trans ⟨tail ++ [byte], by simp⟩ isPrefix)
          pending empty ?_ disproves) isFresh
      rw [state]
  · intro undisturbed
    refine ⟨fun reads _ => FloatInput.dispatchReads_eq _ reads,
      fun read _ => (reached modeId read).covered, ?_⟩
    intro read byte isPrefix pending nonempty isHeld disproves
    refine (fresh_iff modeId nonempty disproves).mpr ?_
    have earlier : read <+: bytes := (List.prefix_append _ _).trans isPrefix
    have noEnd := noEnd_of_active modeId undisturbed earlier (by rw [isHeld])
    have held := (reached modeId read).held
    obtain ⟨before, whole⟩ := held_last modeId read
    rw [isHeld] at held whole
    refine undisturbed before pending byte (whole ▸ isPrefix)
      (fun earlier there => noEnd earlier ?_) ⟨nonempty, held nonempty⟩
    rw [← whole]
    exact List.mem_append_left _ there

/-- An escape byte and then a line end do not commit. -/
theorem escape_return_forwarded :
    ¬ FloatEditLaws 1 [0x1b, 0x0d] := by
  intro laws
  have fresh := laws.fresh [0x1b] 0x0d List.prefix_rfl [0x1b] (by decide)
    (by decide +kernel) (by decide +kernel)
  revert fresh
  decide +kernel

end Client
end Vvmux
