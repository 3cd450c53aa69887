import Vvmux.Automation.CopyText
import Vvmux.Terminal.ScrolledRows
import Vvmux.Terminal.SoftWrap

/-!
# Copy mode over scrolled rows

A copy state counts its lines from the top of the screen.  Output moves the
anchors of the media along with the rows it scrolls, and not the copy state: a
selection and a view stay where they were exactly when nothing is scrolled.
-/

namespace Vvmux

namespace Terminal

/-- Rows were scrolled into the history, and every row that was there is still
retained in its place. -/
structure OnlyScrolls (before after : Terminal) (count : Nat) : Prop where
  retained : before.retained <+: after.retained
  history : after.history.length = before.history.length + count

/-- The whole primary screen is scrolled and the history has room. -/
theorem onlyScrolls_iterate
    {terminal : Terminal}
    (sized : WellSized terminal)
    (whole : Retains terminal)
    {count : Nat}
    (room : terminal.history.length + count ≤ terminal.historyLimit) :
    OnlyScrolls terminal (scrollUpOnce^[count] terminal) count := by
  induction count with
  | zero => exact ⟨List.prefix_rfl, rfl⟩
  | succ count ih =>
      have earlier := ih (by omega)
      have before := Function.Iterate.rec WellSized sized
        (fun _ held => held.scrollUpOnce) count
      have frame := (scrolled_iterate scrolled_scrollUpOnce terminal
        count).frame
      rw [Function.iterate_succ_apply']
      generalize scrollUpOnce^[count] terminal = scrolled at *
      obtain ⟨top, bottom, primary⟩ : Retains scrolled := by
        rw [frame]
        exact whole
      have limit : scrolled.historyLimit = terminal.historyLimit := by
        rw [frame]
      have lengths := earlier.history
      obtain ⟨retained, -, history⟩ :=
        scrollUpOnce_retained before top bottom primary (by omega)
      refine ⟨earlier.retained.trans ?_, by omega⟩
      rw [retained]
      exact List.prefix_append _ _

end Terminal

namespace Automation

open Library
open Terminal (UnicodeWidth OutputCall OnlyScrolls latinAndHan)

/-- Where the copied text begins: a row, counted from the oldest one that is
retained, and a column of it. -/
def CopyState.begins
    (copy : CopyState)
    (terminal : Terminal)
    (start : Int × Nat) : Int × Nat :=
  let stop := ((copy.row : Int) - copy.offset, copy.column)
  let ordered := start.1 < stop.1 ∨ (start.1 = stop.1 ∧ start.2 ≤ stop.2)
  let first := if ordered then start else stop
  (terminal.history.length + first.1, first.2)

/-- The text of that row from that column is copied first. -/
theorem extractSelection_begins
    {copy : CopyState}
    {terminal : Terminal}
    {start : Int × Nat}
    {row : Nat}
    {line : Terminal.Row}
    (begins : (copy.begins terminal start).1 = row)
    (here : terminal.retained[row]? = some line) :
    ∃ last rest,
      extractSelection terminal start
          ((copy.row : Int) - copy.offset, copy.column) =
        (selectedText line (copy.begins terminal start).2 last ++
          rest).flatMap String.utf8EncodeChar := by
  have shown := Terminal.viewportLine_eq terminal row
  rw [here, ← begins] at shown
  unfold CopyState.begins at shown ⊢
  unfold extractSelection
  dsimp only at shown ⊢
  rw [add_sub_cancel_left] at shown
  split at shown
  all_goals
    rename_i order
    simp only [order, if_true, if_false]
    rw [Int.toNat_add (by omega) (by omega), Int.toNat_one,
      List.range_succ_eq_map]
    simp only [List.pure_def, List.bind_eq_flatMap, List.flatMap_cons,
      List.singleton_append, List.map_cons, Nat.cast_zero, add_zero, shown,
      List.append_assoc, if_true]
    exact ⟨_, _, rfl⟩

/-- Where the text begins that Enter copies. -/
def Pane.copyBegins (pane : Pane) : Option (Int × Nat) :=
  pane.copy.bind fun copy =>
    copy.selectionStart.map fun start => copy.begins pane.terminal start

/-- The copied text begins with the text of a retained row, from a column. -/
structure Pane.CopiesFrom (pane : Pane) (row column : Nat) : Prop where
  begins : pane.copyBegins = some ((row : Int), column)
  text : ∃ line ∈ pane.terminal.retained[row]?, ∃ last rest,
    pane.copy.map (·.copied pane.terminal) =
      some (((selectedText line column last ++ rest).flatMap
        String.utf8EncodeChar).take copyBufferLimit)

/-- The row at the top of the view, counted from the oldest one. -/
def Pane.viewTop (pane : Pane) : Int :=
  pane.terminal.history.length - pane.displayOffset

/-- The copied text begins where it did, and a view that is scrolled back
shows the same rows. -/
structure Pane.KeepsText (before after : Pane) : Prop where
  text : ∀ row column, before.CopiesFrom row column →
    after.CopiesFrom row column
  view : 0 < before.displayOffset → after.viewTop = before.viewTop

/-- A selection that begins in a retained row is copied from there. -/
theorem Pane.copiesFrom
    {pane : Pane}
    {row column : Nat}
    (begins : pane.copyBegins = some ((row : Int), column))
    (retained : row < pane.terminal.retained.length) :
    pane.CopiesFrom row column := by
  refine ⟨begins, _, List.getElem?_eq_getElem retained, ?_⟩
  obtain ⟨copy, copying, selected⟩ := Option.bind_eq_some_iff.mp begins
  obtain ⟨start, started, first⟩ := Option.map_eq_some_iff.mp selected
  obtain ⟨last, rest, copied⟩ := extractSelection_begins
    (congrArg Prod.fst first) (List.getElem?_eq_getElem retained)
  rw [first] at copied
  refine ⟨last, rest, ?_⟩
  rw [copying, Option.map_some, CopyState.copied, started, Option.getD_some,
    copied]

/-- Output that only scrolls leaves the selection on its text exactly when it
scrolls no row. -/
theorem keepsText_iff
    {unicode : UnicodeWidth}
    {pane : Pane}
    {row column : Nat}
    {calls : List OutputCall}
    {now count : Nat}
    (copies : pane.CopiesFrom row column)
    (scrolls : OnlyScrolls pane.terminal
      (pane.output unicode calls now).1.terminal count) :
    pane.KeepsText (pane.output unicode calls now).1 ↔ count = 0 := by
  have still := pane.output_copy unicode calls now
  have history := scrolls.history
  generalize (pane.output unicode calls now).1 = after at *
  constructor
  · intro kept
    obtain ⟨copy, copying, selected⟩ :=
      Option.bind_eq_some_iff.mp copies.begins
    obtain ⟨start, started, first⟩ := Option.map_eq_some_iff.mp selected
    have same := (kept.text row column copies).begins
    simp only [Pane.copyBegins, still, copying, started, Option.bind_some,
      Option.map_some, Option.some.injEq, ← first, Prod.mk.injEq,
      CopyState.begins, history, and_true] at same
    omega
  · rintro rfl
    refine ⟨?_, fun _ => ?_⟩
    · intro row column copies
      obtain ⟨line, here, -⟩ := copies.text
      refine Pane.copiesFrom ?_ ?_
      · rw [← copies.begins]
        simp only [Pane.copyBegins, still, CopyState.begins, history, add_zero]
      · exact (List.getElem?_eq_some_iff.mp here).1.trans_le
          scrolls.retained.length_le
    · simp only [Pane.viewTop, Pane.displayOffset, still, history, add_zero]

/-- Copy mode with a selection that starts on the last row. -/
def selecting : Pane :=
  leftEdge.pane.copyInput (fun _ => none) (ascii " ") 0

theorem onlyScrolls_selecting :
    OnlyScrolls selecting.terminal
      (selecting.output latinAndHan [⟨.scrollUp 1, rfl⟩] 0).1.terminal 1 :=
  ⟨by decide, by decide⟩

theorem copiesFrom_selecting :
    selecting.CopiesFrom 21 0 :=
  Pane.copiesFrom (by decide) (by decide)

theorem keepsText_iff_selecting :
    selecting.KeepsText
        (selecting.output latinAndHan [⟨.scrollUp 1, rfl⟩] 0).1 ↔ 1 = 0 :=
  keepsText_iff copiesFrom_selecting onlyScrolls_selecting

/-- One row is scrolled, and the selection starts on the row after it. -/
theorem scrolled_selection_leaves_text :
    ¬ ∀ (pane : Pane) (row column : Nat) (calls : List OutputCall)
        (count : Nat),
      (paneMachine latinAndHan fun _ => none).Reachable (fun _ _ => True)
          pane →
        pane.CopiesFrom row column →
          OnlyScrolls pane.terminal
              (pane.output latinAndHan calls 0).1.terminal count →
            pane.KeepsText (pane.output latinAndHan calls 0).1 := by
  intro keeps
  have reached := @Machine.Reachable.step _ _ _ _ _ _
    (.copyInput (ascii " ") 0) (leftEdge_reached fun _ => none) trivial rfl
  have begins := ((keeps selecting 21 0 [⟨.scrollUp 1, rfl⟩] 1 reached
    copiesFrom_selecting onlyScrolls_selecting).text 21 0
      copiesFrom_selecting).begins
  revert begins
  decide +kernel

end Automation
end Vvmux
