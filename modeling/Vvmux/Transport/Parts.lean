import Mathlib.Data.List.Infix
import Mathlib.Data.List.Range
import Mathlib.Tactic.Linarith

/-!
# Writing a record in parts

A record goes to the stream as its header and the parts of its body, in
vectored writes of at most sixteen slices.  A write may take fewer bytes than
it was offered; the next one goes on where it stopped.
-/

namespace Vvmux
namespace Transport

abbrev Bytes := List UInt8

/-- The slices of one vectored write. -/
def maximumSlices : Nat := 16

/-- A record to be written: its header and the parts of its body. -/
structure Parts where
  header : Bytes
  parts : List Bytes
deriving DecidableEq

namespace Parts

/-- The header is the first logical part. -/
def part (record : Parts) (logicalIndex : Nat) : Bytes :=
  if logicalIndex = 0 then record.header
  else (record.parts[logicalIndex - 1]?).getD []

/-- All bytes of a record. -/
def bytes (record : Parts) : Bytes :=
  record.header ++ record.parts.flatten

/-- The slices from a position in the record on, for some logical indices. -/
def gatherFrom
    (record : Parts)
    (partIndex partOffset : Nat) :
    List Nat → List Bytes → List Bytes
  | [], slices => slices
  | logicalIndex :: rest, slices =>
      let part := record.part logicalIndex
      let offset := if logicalIndex = partIndex then partOffset else 0
      if offset < part.length then
        let slices := slices ++ [part.drop offset]
        if slices.length = maximumSlices then slices
        else record.gatherFrom partIndex partOffset rest slices
      else record.gatherFrom partIndex partOffset rest slices

/-- The slices that the next write is offered. -/
def gather (record : Parts) (partIndex partOffset : Nat) : List Bytes :=
  record.gatherFrom partIndex partOffset
    (List.range' partIndex (record.parts.length + 1 - partIndex)) []

/-- The position in the record behind some written bytes. -/
def advance
    (record : Parts)
    (partIndex partOffset remaining : Nat) : Nat × Nat :=
  if partIndex ≤ record.parts.length then
    let available := (record.part partIndex).length - partOffset
    if remaining < available then (partIndex, partOffset + remaining)
    else if remaining - available = 0 then (partIndex + 1, 0)
    else record.advance (partIndex + 1) 0 (remaining - available)
  else (partIndex, partOffset)
termination_by record.parts.length + 1 - partIndex

/-- A position moves to a later part, or on within its part. -/
theorem advance_decreases
    (record : Parts)
    {partIndex partOffset remaining : Nat}
    (within : partIndex ≤ record.parts.length)
    (positive : 0 < remaining) :
    let next := record.advance partIndex partOffset remaining
    partIndex < next.1 ∨
      next.1 = partIndex ∧ partOffset < next.2 ∧
        next.2 < (record.part partIndex).length := by
  fun_induction record.advance partIndex partOffset remaining with
  | case1 partIndex partOffset remaining _ available short =>
      exact .inr ⟨rfl, by omega, by omega⟩
  | case2 partIndex partOffset remaining _ available _ ends =>
      exact .inl (Nat.lt_succ_self _)
  | case3 partIndex partOffset remaining _ available enough further
      ih =>
      left
      by_cases inside : partIndex + 1 ≤ record.parts.length
      · rcases ih inside (Nat.pos_of_ne_zero further) with
          later | ⟨same, -⟩
        · exact Nat.lt_of_succ_lt later
        · exact Nat.lt_of_succ_le same.ge
      · unfold advance
        rw [if_neg inside]
        exact Nat.lt_succ_self _
  | case4 partIndex partOffset remaining outside => exact absurd within outside

end Parts

/-- What becomes of a record: the result, the bytes that the stream accepted,
and for each call how many bytes it was offered and what it reported. -/
structure Outcome where
  result : Except String Unit
  accepted : Bytes
  calls : List (Nat × Except String Nat)

/-- The outcome behind one more call. -/
def Outcome.behind
    (outcome : Outcome)
    (accepted : Bytes)
    (call : Nat × Except String Nat) : Outcome where
  result := outcome.result
  accepted := accepted ++ outcome.accepted
  calls := call :: outcome.calls

/-- The loop of `write_parts` from a position and a call on. -/
def writeFrom
    (reports : Nat → Except String Nat)
    (record : Parts)
    (call partIndex partOffset : Nat) : Outcome :=
  if within : partIndex ≤ record.parts.length then
    let slices := record.gather partIndex partOffset
    if slices = [] then ⟨.ok (), [], []⟩
    else
      let offered := slices.flatten
      match reports call with
      | .error text => ⟨.error text, [], [(offered.length, .error text)]⟩
      | .ok written =>
          if positive : written = 0 then
            ⟨.error "failed to write Vivid record parts", [],
              [(offered.length, .ok 0)]⟩
          else
            have progress : partIndex <
                (record.advance partIndex partOffset written).1 ∨ _ :=
              record.advance_decreases within (Nat.pos_of_ne_zero positive)
            let next := record.advance partIndex partOffset written
            (writeFrom reports record (call + 1) next.1 next.2).behind
              (offered.take written) (offered.length, .ok written)
  else ⟨.ok (), [], []⟩
termination_by
  (record.parts.length + 1 - partIndex,
    (record.part partIndex).length - partOffset)
decreasing_by
  rcases progress with later | ⟨same, onward, short⟩
  · exact Prod.Lex.left _ _ (by omega)
  · rw [same]
    exact Prod.Lex.right _ (by omega)

/-- `write_parts`, on a stream whose vectored writes report one after the
other. -/
def writeParts (reports : Nat → Except String Nat) (record : Parts) : Outcome :=
  writeFrom reports record 0 0 0

/-! ## What is still to be written -/

namespace Parts

/-- The bytes behind a position. -/
def unwritten (record : Parts) (partIndex partOffset : Nat) : Bytes :=
  ((record.header :: record.parts).drop partIndex).flatten.drop partOffset

/-- The position lies in its part, or behind the last part. -/
structure Positioned (record : Parts) (partIndex partOffset : Nat) : Prop where
  index : partIndex ≤ record.parts.length + 1
  offset : partOffset ≤ (record.part partIndex).length

theorem part_eq_getElem?
    (record : Parts)
    (logicalIndex : Nat) :
    record.part logicalIndex =
      ((record.header :: record.parts)[logicalIndex]?).getD [] := by
  cases logicalIndex with
  | zero => rfl
  | succ index => rfl

variable {partIndex partOffset : Nat} {record : Parts}

theorem drop_eq_part_cons
    (record : Parts)
    (within : partIndex ≤ record.parts.length) :
    (record.header :: record.parts).drop partIndex =
      record.part partIndex ::
        (record.header :: record.parts).drop (partIndex + 1) := by
  have inside : partIndex < (record.header :: record.parts).length :=
    Nat.lt_succ_of_le within
  rw [List.drop_eq_getElem_cons inside, part_eq_getElem?,
    List.getElem?_eq_getElem inside, Option.getD_some]

/-- The bytes behind a position are those of its part and of all later
parts. -/
theorem unwritten_eq_append
    (within : partIndex ≤ record.parts.length)
    (inside : partOffset ≤ (record.part partIndex).length) :
    record.unwritten partIndex partOffset =
      (record.part partIndex).drop partOffset ++
        record.unwritten (partIndex + 1) 0 := by
  unfold unwritten
  rw [record.drop_eq_part_cons within, List.flatten_cons,
    List.drop_append_of_le_length inside, List.drop_zero]

theorem unwritten_eq_nil
    (behind : record.parts.length < partIndex)
    (partOffset : Nat) : record.unwritten partIndex partOffset = [] := by
  have none : (record.header :: record.parts).drop partIndex = [] :=
    List.drop_eq_nil_of_le (Nat.succ_le_of_lt behind)
  unfold unwritten
  rw [none, List.flatten_nil, List.drop_nil]

theorem unwritten_start
    (record : Parts) : record.unwritten 0 0 = record.bytes := by
  unfold unwritten bytes
  rw [List.drop_zero, List.drop_zero, List.flatten_cons]

/-- What is offered starts what is still to be written, and nothing is offered
only if nothing is left. -/
structure Offers
    (record : Parts)
    (partIndex partOffset : Nat)
    (slices : List Bytes) : Prop where
  starts : slices.flatten <+: record.unwritten partIndex partOffset
  complete : slices = [] → record.unwritten partIndex partOffset = []
  full : [] ∉ slices
  bounded : slices.length ≤ maximumSlices

/-- By induction over the logical indices that are left, the slices so far
being at most fifteen. -/
theorem gatherFrom_spec
    (record : Parts)
    (partIndex partOffset : Nat)
    (inside : partOffset ≤ (record.part partIndex).length)
    (count : Nat)
    {logicalIndex : Nat}
    (last : logicalIndex + count = record.parts.length + 1)
    (later : partIndex ≤ logicalIndex)
    (slices : List Bytes)
    (room : slices.length < maximumSlices)
    (full : [] ∉ slices) :
    let offset := if logicalIndex = partIndex then partOffset else 0
    let result := record.gatherFrom partIndex partOffset
      (List.range' logicalIndex count) slices
    (∃ taken, result.flatten = slices.flatten ++ taken ∧
        taken <+: record.unwritten logicalIndex offset) ∧
      (result = [] → record.unwritten logicalIndex offset = []) ∧
      [] ∉ result ∧ result.length ≤ maximumSlices := by
  induction count generalizing logicalIndex slices with
  | zero =>
      intro offset result
      have none : record.unwritten logicalIndex offset = [] :=
        unwritten_eq_nil (by omega) offset
      refine ⟨⟨[], (List.append_nil _).symm, List.nil_prefix⟩, fun _ => none,
        full, room.le⟩
  | succ count ih =>
      intro offset result
      have within : logicalIndex ≤ record.parts.length := by omega
      have offsetInside : offset ≤ (record.part logicalIndex).length := by
        by_cases same : logicalIndex = partIndex
        · simp only [offset, if_pos same]
          rw [same]
          exact inside
        · simp only [offset, if_neg same]
          exact Nat.zero_le _
      have splits := unwritten_eq_append within offsetInside
      have next := fun slices room full =>
        @ih (logicalIndex + 1) (by omega) (by omega) slices
          room full
      simp only [if_neg (show logicalIndex + 1 ≠ partIndex by omega)] at next
      have unfolded : result =
          if offset < (record.part logicalIndex).length then
            if (slices ++ [(record.part logicalIndex).drop offset]).length =
                maximumSlices then
              slices ++ [(record.part logicalIndex).drop offset]
            else record.gatherFrom partIndex partOffset
              (List.range' (logicalIndex + 1) count)
              (slices ++ [(record.part logicalIndex).drop offset])
          else record.gatherFrom partIndex partOffset
            (List.range' (logicalIndex + 1) count) slices := by
        simp only [result, List.range'_succ, gatherFrom, offset]
      rw [unfolded, splits]
      by_cases some : offset < (record.part logicalIndex).length
      · have nonempty : (record.part logicalIndex).drop offset ≠ [] := by
          rw [Ne, List.drop_eq_nil_iff]
          omega
        have stillFull :
            [] ∉ slices ++ [(record.part logicalIndex).drop offset] := by
          rw [List.mem_append, List.mem_singleton]
          rintro (inside | same)
          · exact full inside
          · exact nonempty same.symm
        rw [if_pos some]
        split
        · rename_i filled
          refine ⟨⟨(record.part logicalIndex).drop offset, ?_,
            List.prefix_append _ _⟩, fun empty => ?_, stillFull, filled.le⟩
          · rw [List.flatten_append, List.flatten_singleton]
          · exact absurd empty (by simp)
        · rename_i unfilled
          have fits : (slices ++
              [(record.part logicalIndex).drop offset]).length <
                maximumSlices := by
            rw [List.length_append, List.length_singleton] at unfilled ⊢
            omega
          obtain ⟨⟨taken, flat, starts⟩, -, isFull, bounded⟩ :=
            next _ fits stillFull
          refine ⟨⟨(record.part logicalIndex).drop offset ++ taken, ?_, ?_⟩,
            fun empty => ?_, isFull, bounded⟩
          · rw [flat, List.flatten_append, List.flatten_singleton,
              List.append_assoc]
          · exact (List.prefix_append_right_inj _).mpr starts
          · rw [empty, List.flatten_nil, List.flatten_append,
              List.flatten_singleton] at flat
            have := congrArg List.length flat
            simp only [List.length_nil, List.length_append] at this
            exact absurd (List.length_eq_zero_iff.mp (by omega)) nonempty
      · have none : (record.part logicalIndex).drop offset = [] :=
          List.drop_eq_nil_of_le (Nat.not_lt.mp some)
        rw [if_neg some, none, List.nil_append]
        exact next slices room full

theorem gather_spec
    (positioned : record.Positioned partIndex partOffset) :
    record.Offers partIndex partOffset (record.gather partIndex partOffset) := by
  have last := positioned.index
  obtain ⟨⟨taken, flat, starts⟩, complete, full, bounded⟩ :=
    record.gatherFrom_spec partIndex partOffset positioned.offset
      (record.parts.length + 1 - partIndex) (by omega) (Nat.le_refl _) []
      (by decide) List.not_mem_nil
  rw [if_pos rfl] at starts complete
  refine ⟨?_, complete, full, bounded⟩
  rw [gather, flat]
  exact starts

/-- Behind as many bytes the others are still to be written. -/
theorem advance_spec
    {partIndex partOffset remaining : Nat}
    (positioned : record.Positioned partIndex partOffset) :
    let next := record.advance partIndex partOffset remaining
    record.Positioned next.1 next.2 ∧
      record.unwritten next.1 next.2 =
        (record.unwritten partIndex partOffset).drop remaining := by
  fun_induction record.advance partIndex partOffset remaining with
  | case1 partIndex partOffset remaining within available short =>
      refine ⟨⟨positioned.index, ?_⟩, ?_⟩
      · simp only [available] at short ⊢
        omega
      · unfold unwritten
        rw [List.drop_drop]
  | case2 partIndex partOffset remaining within available long ends =>
      have exactly : remaining = available := by omega
      refine ⟨⟨by omega, Nat.zero_le _⟩, ?_⟩
      rw [unwritten_eq_append within positioned.offset, exactly]
      simp only [available]
      rw [← List.length_drop, List.drop_left]
  | case3 partIndex partOffset remaining within available long further
      ih =>
      have splits := unwritten_eq_append within positioned.offset
      have drops : (record.unwritten (partIndex + 1) 0).drop
          (remaining - available) =
          (record.unwritten partIndex partOffset).drop remaining := by
        have taken : ((record.part partIndex).drop partOffset).drop
            remaining = [] := by
          apply List.drop_eq_nil_of_le
          rw [List.length_drop]
          exact Nat.not_lt.mp long
        rw [splits, List.drop_append, taken, List.nil_append, List.length_drop]
      rw [← drops]
      exact ih ⟨by omega, Nat.zero_le _⟩
  | case4 partIndex partOffset remaining outside =>
      have none := unwritten_eq_nil (Nat.not_le.mp outside) partOffset
      refine ⟨positioned, ?_⟩
      rw [none, List.drop_nil]

end Parts

/-! ## Whole records -/

/-- A call reported at most as many bytes as it was offered. -/
def honest (call : Nat × Except String Nat) : Prop :=
  ∀ written, call.2 = .ok written → written ≤ call.1

/-- A call took some of the bytes it was offered. -/
def progresses (call : Nat × Except String Nat) : Prop :=
  ∃ written, call.2 = .ok written ∧ 1 ≤ written ∧ written ≤ call.1

/-- What an outcome says about the bytes that were to be written. -/
structure Outcome.Delivers (outcome : Outcome) (bytes : Bytes) : Prop where
  starts : (∀ call ∈ outcome.calls, honest call) → outcome.accepted <+: bytes
  whole : (∀ call ∈ outcome.calls, progresses call) →
    outcome.result = .ok () ∧ outcome.accepted = bytes ∧
      outcome.calls.length ≤ bytes.length
  failed : (∃ call ∈ outcome.calls, call.2 = .ok 0) →
    ∃ text, outcome.result = .error text

/-- A call that took some bytes, before what is delivered behind them. -/
theorem Outcome.Delivers.behind
    {outcome : Outcome}
    {bytes offered : Bytes}
    {written : Nat}
    (delivers : outcome.Delivers (bytes.drop written))
    (starts : offered <+: bytes)
    (positive : written ≠ 0) :
    (outcome.behind (offered.take written)
      (offered.length, .ok written)).Delivers bytes := by
  have taken : written ≤ offered.length →
      offered.take written ++ bytes.drop written = bytes := by
    intro fits
    obtain ⟨rest, rfl⟩ := starts
    rw [← List.take_append_of_le_length fits]
    exact List.take_append_drop _ _
  constructor
  · intro calls
    have fits := calls (offered.length, .ok written) (List.mem_cons_self ..)
      written rfl
    have later := delivers.starts fun call inside =>
      calls call (List.mem_cons_of_mem _ inside)
    show offered.take written ++ outcome.accepted <+: bytes
    conv_rhs => rw [← taken fits]
    exact (List.prefix_append_right_inj _).mpr later
  · intro calls
    obtain ⟨_, same, -, fits⟩ :=
      calls (offered.length, .ok written) (List.mem_cons_self ..)
    cases same
    obtain ⟨ok, accepted, few⟩ := delivers.whole fun call inside =>
      calls call (List.mem_cons_of_mem _ inside)
    refine ⟨ok, ?_, ?_⟩
    · show offered.take written ++ outcome.accepted = bytes
      rw [accepted, taken fits]
    · show outcome.calls.length + 1 ≤ bytes.length
      have enough := starts.length_le
      rw [List.length_drop] at few
      omega
  · rintro ⟨call, inside, none⟩
    rcases List.mem_cons.mp inside with rfl | later
    · exact absurd (Except.ok.inj none) positive
    · exact delivers.failed ⟨call, later, none⟩

/-- From every position on the rest of the record is delivered.  By induction
over the calls. -/
theorem writeFrom_delivers
    (reports : Nat → Except String Nat)
    {record : Parts}
    {call partIndex partOffset : Nat}
    (positioned : record.Positioned partIndex partOffset) :
    (writeFrom reports record call partIndex partOffset).Delivers
      (record.unwritten partIndex partOffset) := by
  fun_induction writeFrom reports record call partIndex partOffset with
  | case1 call partIndex partOffset within slices none =>
      have offers := Parts.gather_spec positioned
      rw [offers.complete none]
      exact ⟨fun _ => List.nil_prefix, fun _ => ⟨rfl, rfl, Nat.le_refl _⟩,
        fun ⟨_, inside, _⟩ => absurd inside List.not_mem_nil⟩
  | case2 call partIndex partOffset within slices some offered text failed =>
      refine ⟨fun _ => List.nil_prefix, fun calls => ?_, fun _ => ⟨_, rfl⟩⟩
      obtain ⟨_, same, -⟩ := calls _ (List.mem_singleton_self _)
      cases same
  | case3 call partIndex partOffset within slices some offered report =>
      refine ⟨fun _ => List.nil_prefix, fun calls => ?_, fun _ => ⟨_, rfl⟩⟩
      obtain ⟨_, same, positive, -⟩ := calls _ (List.mem_singleton_self _)
      cases same
      exact absurd positive (by decide)
  | case4 call partIndex partOffset within slices some offered written report
      positive progress next ih =>
      obtain ⟨nextPositioned, drops⟩ := Parts.advance_spec positioned
      have delivers := ih nextPositioned
      rw [drops] at delivers
      exact delivers.behind (Parts.gather_spec positioned).starts positive
  | case5 call partIndex partOffset outside =>
      rw [Parts.unwritten_eq_nil (Nat.not_le.mp outside)]
      exact ⟨fun _ => List.nil_prefix, fun _ => ⟨rfl, rfl, Nat.le_refl _⟩,
        fun ⟨_, inside, _⟩ => absurd inside List.not_mem_nil⟩

/-- `write_parts` ends, whatever the calls report.  If each call takes at least
one byte and no more than it is offered, the record is written and the stream
accepted the header and the parts in order, with at most one call for each
byte; if one reports that it took none, the result is an error; and as long as
no call reports more than it was offered, the accepted bytes start the
record. -/
theorem writeParts_exact
    (reports : Nat → Except String Nat)
    (record : Parts) :
    let outcome := writeParts reports record
    let bytes := record.header ++ record.parts.flatten
    ((∀ call ∈ outcome.calls, progresses call) →
      outcome.result = .ok () ∧ outcome.accepted = bytes ∧
        outcome.calls.length ≤ bytes.length) ∧
    ((∃ call ∈ outcome.calls, call.2 = .ok 0) →
      ∃ text, outcome.result = .error text) ∧
    ((∀ call ∈ outcome.calls, honest call) → outcome.accepted <+: bytes) := by
  have delivers := @writeFrom_delivers reports record 0 0 0
    ⟨Nat.zero_le _, Nat.zero_le _⟩
  rw [Parts.unwritten_start] at delivers
  exact ⟨delivers.whole, delivers.failed, delivers.starts⟩

end Transport
end Vvmux
