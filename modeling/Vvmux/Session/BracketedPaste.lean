import Vvmux.Library.Occurrences

/-!
# Bracketed paste

A text that is pasted into a pane with bracketed paste enabled stands between
two sequences of its terminal.  Every terminator within the text gets a
semicolon, so that the paste ends where the session ends it.
-/

namespace Vvmux
namespace Session

open Library

/-! ## The sequences -/

/-- `ESC [ 2 0 0 ~` -/
def pasteStart : List UInt8 :=
  [0x1b, 0x5b, 0x32, 0x30, 0x30, 0x7e]

/-- `END`: `ESC [ 2 0 1 ~` -/
def pasteEnd : List UInt8 :=
  [0x1b, 0x5b, 0x32, 0x30, 0x31, 0x7e]

/-- What stands for a terminator within the text: `ESC [ 2 0 1 ; ~` -/
def pasteEndWithin : List UInt8 :=
  [0x1b, 0x5b, 0x32, 0x30, 0x31, 0x3b, 0x7e]

/-- The text behind an occurrence is shorter. -/
theorem length_drop_pasteEnd_lt
    {bytes : List UInt8}
    {position : Nat}
    (found : firstOccurrence bytes pasteEnd = some position) :
    (bytes.drop (position + pasteEnd.length)).length < bytes.length := by
  have inside := (firstOccurrence_eq_some_iff.mp found).1.1
  have some : pasteEnd.length = 6 := rfl
  rw [List.length_drop]
  omega

/-- `sanitize_bracketed_paste`; the bytes are those from the cursor on. -/
def sanitizeBracketedPaste (bytes : List UInt8) : List UInt8 :=
  match _found : firstOccurrence bytes pasteEnd with
  | none => bytes
  | some position =>
      bytes.take position ++ pasteEndWithin ++
        sanitizeBracketedPaste (bytes.drop (position + pasteEnd.length))
termination_by bytes.length
decreasing_by exact length_drop_pasteEnd_lt _found

/-- Bytes that are not inserted. -/
def plain (bytes : List UInt8) : List (UInt8 × Bool) :=
  bytes.map fun byte => (byte, false)

/-- The same bytes, each with a mark that tells whether it was inserted. -/
def markedBracketedPaste (bytes : List UInt8) : List (UInt8 × Bool) :=
  match _found : firstOccurrence bytes pasteEnd with
  | none => plain bytes
  | some position =>
      plain (bytes.take position) ++
        pasteEndWithin.map (fun byte => (byte, byte == 0x3b)) ++
        markedBracketedPaste (bytes.drop (position + pasteEnd.length))
termination_by bytes.length
decreasing_by exact length_drop_pasteEnd_lt _found

/-- The bytes that `SessionActor::paste` sends to a pane. -/
def pasteBytes (bracketed : Bool) (copyBuffer : List UInt8) : List UInt8 :=
  if bracketed then
    pasteStart ++ sanitizeBracketedPaste copyBuffer ++ pasteEnd
  else copyBuffer

/-- The bytes that the automation request `Paste` sends to a pane. -/
def automationPasteBytes (bracketed : Bool) (text : List UInt8) : List UInt8 :=
  if bracketed then pasteStart ++ sanitizeBracketedPaste text ++ pasteEnd
  else sanitizeBracketedPaste text

/-! ## The terminator -/

/-- Behind the terminator's first byte that byte does not come again. -/
theorem escape_once :
    (0x1b : UInt8) ∉ [0x5b, 0x32, 0x30, 0x31, (0x7e : UInt8)] := by
  decide

theorem escape_first_of_within :
    ∀ place : Nat, (pasteEndWithin)[place]? = some (0x1b : UInt8) → place = 0 := by
  have alone : ∀ place < pasteEndWithin.length,
      (pasteEndWithin)[place]? = some (0x1b : UInt8) → place = 0 := by
    decide
  intro place here
  exact alone place (List.getElem?_eq_some_iff.mp here).1 here

theorem escape_first_of_start :
    ∀ place : Nat, (pasteStart)[place]? = some (0x1b : UInt8) → place = 0 := by
  have alone : ∀ place < pasteStart.length,
      (pasteStart)[place]? = some (0x1b : UInt8) → place = 0 := by
    decide
  intro place here
  exact alone place (List.getElem?_eq_some_iff.mp here).1 here

variable (bytes : List UInt8)

/-- By induction over the terminators of the text: a piece ahead of the first
one holds none, and none runs into what stands for it. -/
theorem not_occursAt_sanitized :
    ∀ start, ¬ OccursAt (sanitizeBracketedPaste bytes) pasteEnd start := by
  fun_induction sanitizeBracketedPaste bytes with
  | case1 bytes nowhere => exact firstOccurrence_eq_none_iff.mp nowhere
  | case2 bytes position found ih =>
      obtain ⟨occurs, first⟩ := firstOccurrence_eq_some_iff.mp found
      rw [List.append_assoc]
      apply not_occursAt_append_of_marked escape_once
      · rfl
      · intro start there
        have inside := there.1
        rw [List.length_take] at inside
        have room := occurs.1
        have short : 0 < pasteEnd.length := by decide
        refine first start ?_ ?_
        · change start + pasteEnd.length ≤ _ at inside
          omega
        · have again := there.append (bytes.drop position)
          rwa [List.take_append_drop] at again
      · exact not_occursAt_append escape_first_of_within (by decide)
          (by decide) ih

/-- With what is ahead of it, and the terminator behind it. -/
theorem firstOccurrence_framed :
    firstOccurrence (pasteStart ++ sanitizeBracketedPaste bytes ++ pasteEnd)
        pasteEnd =
      some (pasteStart ++ sanitizeBracketedPaste bytes).length := by
  have none : ∀ start, ¬ OccursAt
      (pasteStart ++ sanitizeBracketedPaste bytes) pasteEnd start :=
    not_occursAt_append escape_first_of_start (by decide) (by decide)
      (not_occursAt_sanitized bytes)
  rw [firstOccurrence_eq_some_iff]
  refine ⟨occursAt_iff.mpr ⟨_, [], (List.append_nil _).symm, rfl⟩, ?_⟩
  intro earlier ahead occurs
  have seam : (pasteStart ++ sanitizeBracketedPaste bytes ++
      pasteEnd)[(pasteStart ++ sanitizeBracketedPaste bytes).length]? =
        some 0x1b := by
    rw [List.getElem?_append_right le_rfl, Nat.sub_self]
    rfl
  rcases OccursAt.beside escape_once occurs seam with before | behind
  · exact none earlier (occurs.of_append before)
  · omega

/-! ## The inserted semicolons -/

theorem map_fst_plain
    (bytes : List UInt8) : (plain bytes).map Prod.fst = bytes := by
  unfold plain
  rw [List.map_map]
  exact List.map_id bytes

theorem filter_plain :
    (plain bytes).filter (fun entry => !entry.2) = plain bytes := by
  rw [List.filter_eq_self]
  intro entry listed
  obtain ⟨byte, -, rfl⟩ := List.mem_map.mp listed
  rfl

theorem map_fst_marked :
    (markedBracketedPaste bytes).map Prod.fst =
      sanitizeBracketedPaste bytes := by
  fun_induction markedBracketedPaste bytes with
  | case1 bytes nowhere =>
      rw [sanitizeBracketedPaste]
      split
      · exact map_fst_plain bytes
      · rename_i position found
        rw [nowhere] at found
        cases found
  | case2 bytes position found ih =>
      rw [sanitizeBracketedPaste]
      split
      · rename_i nowhere
        rw [nowhere] at found
        cases found
      · rename_i other there
        rw [found] at there
        cases there
        have within : (pasteEndWithin.map fun byte =>
            (byte, byte == 0x3b)).map Prod.fst = pasteEndWithin := by
          decide
        rw [List.map_append, List.map_append, ih, within, map_fst_plain]

theorem semicolon_of_marked :
    ∀ entry ∈ markedBracketedPaste bytes,
      entry.2 = true → entry.1 = 0x3b := by
  fun_induction markedBracketedPaste bytes with
  | case1 bytes nowhere =>
      intro entry listed inserted
      obtain ⟨byte, -, rfl⟩ := List.mem_map.mp listed
      cases inserted
  | case2 bytes position found ih =>
      intro entry listed inserted
      rw [List.mem_append, List.mem_append] at listed
      obtain (ahead | within) | behind := listed
      · obtain ⟨byte, -, rfl⟩ := List.mem_map.mp ahead
        cases inserted
      · obtain ⟨byte, -, rfl⟩ := List.mem_map.mp within
        exact beq_iff_eq.mp inserted
      · exact ih entry behind inserted

theorem kept_of_marked :
    ((markedBracketedPaste bytes).filter fun entry => !entry.2).map Prod.fst =
      bytes := by
  fun_induction markedBracketedPaste bytes with
  | case1 bytes nowhere =>
      rw [filter_plain, map_fst_plain]
  | case2 bytes position found ih =>
      obtain ⟨occurs, -⟩ := firstOccurrence_eq_some_iff.mp found
      have within : ((pasteEndWithin.map fun byte =>
          (byte, byte == 0x3b)).filter fun entry => !entry.2).map Prod.fst =
            pasteEnd := by
        decide
      rw [List.filter_append, List.filter_append, List.map_append,
        List.map_append, ih, within, filter_plain,
        map_fst_plain]
      obtain ⟨before, after, rfl, rfl⟩ := occursAt_iff.mp occurs
      rw [← List.length_append, List.drop_left, List.append_assoc before,
        List.take_left, List.append_assoc]

/-- A bracketed paste ends where the session ends it, and only semicolons were
added to its text. -/
theorem bracketed_paste_ends_once
    (bytes : List UInt8) :
    firstOccurrence (pasteBytes true bytes) pasteEnd =
        some (pasteStart ++ sanitizeBracketedPaste bytes).length ∧
      (pasteStart ++ sanitizeBracketedPaste bytes).length + pasteEnd.length =
        (pasteBytes true bytes).length ∧
      automationPasteBytes true bytes = pasteBytes true bytes ∧
      (markedBracketedPaste bytes).map Prod.fst =
        sanitizeBracketedPaste bytes ∧
      (∀ entry ∈ markedBracketedPaste bytes,
        entry.2 = true → entry.1 = 0x3b) ∧
      ((markedBracketedPaste bytes).filter fun entry => !entry.2).map Prod.fst =
        bytes := by
  refine ⟨firstOccurrence_framed bytes, ?_, rfl, map_fst_marked bytes,
    semicolon_of_marked bytes, kept_of_marked bytes⟩
  exact List.length_append.symm

end Session
end Vvmux
