import Vvmux.Automation.Grid

/-!
# Screen deltas

A client holds a snapshot of a pane's viewport and asks for the rows that
changed since.  Where every change of the viewport was recorded, the rows of
the answer make the snapshot into what the viewport is now.  The wheel moves
the copy view without a record, and output is compared by its cells, not by
its wrap flags or by what it moves through a copy view.
-/

namespace Vvmux

open Library

namespace Automation

open Layout (PaneId)
open Session (MouseEvent)
open Terminal (UnicodeWidth OutputCall resized GridCell)

/-- Replace in a snapshot the viewport rows that a later one returns. -/
def GridSnapshot.patchedBy
    (base delta : GridSnapshot) : Nat → Option ShownRow :=
  fun row => (delta.shows row).or (base.shows row)

/-! ## Changes without a record -/

/-- Whether an event moves the copy view under the pointer. -/
def Pane.scrollsView (pane : Pane) (event : MouseEvent) : Bool :=
  !pane.applicationMouse event &&
    (decide (event.kind = .wheel) || event.shift) &&
    (if event.button = 0 then
      decide (pane.displayOffset ≠ pane.terminal.history.length)
    else decide (pane.displayOffset ≠ 0))

/-- Whether output changes the viewport at rows that it does not record: the
wrap flag of a screen row whose cells stay, or any row if the output seems to
change nothing. -/
def Pane.hidesChanges
    (unicode : UnicodeWidth)
    (pane : Pane)
    (calls : List OutputCall) : Bool :=
  let fed := (pane.terminal.feed unicode calls).1
  let rows := List.range pane.terminal.rows
  if semanticChanged pane.terminal fed then
    decide (pane.displayOffset = 0 ∧
      pane.terminal.alternateScreen = fed.alternateScreen) &&
      rows.any fun row =>
        decide (pane.terminal.lineWrapped row ≠ fed.lineWrapped row ∧
          pane.terminal.cells[row]? = fed.cells[row]?)
  else
    rows.any fun row =>
      decide (pane.viewportRow row ≠
        { pane with terminal := fed }.viewportRow row)

/-- Every change of the viewport is recorded, under a number that is not yet
the largest. -/
def recordsChanges
    (unicode : UnicodeWidth)
    (pane : Pane)
    (event : PaneEvent) : Bool :=
  decide (pane.screenSequence < u64Max) &&
    match event with
    | .output calls _ => !pane.hidesChanges unicode calls
    | .mouse event => !pane.scrollsView event
    | _ => true

/-! ## What was recorded since a snapshot -/

/-- The viewport stays where it is, and a copy view has seen no change. -/
structure KeptInView
    (first pane : Pane)
    (changes : List (Option (List Nat))) : Prop where
  offset : pane.displayOffset = first.displayOffset
  rows : pane.terminal.rows = first.terminal.rows
  cols : pane.terminal.cols = first.terminal.cols
  tracked : pane.displayOffset = 0 ∨ changes = [] →
    Tracked first.viewportRow pane.viewportRow changes

/-- A pane after some recorded changes. -/
structure Followed
    (first pane : Pane)
    (changes : List (Option (List Nat))) : Prop where
  sized : Terminal.WellSized pane.terminal
  numbered :
    pane.screenSequence = first.screenSequence + changes.length
  bounded : changes ≠ [] → pane.screenSequence ≤ u64Max
  logged : pane.screenChanges = logAfter screenChangeHistory
    first.screenChanges first.screenSequence changes
  kept : none ∈ changes ∨ KeptInView first pane changes

variable {first pane after : Pane} {row : Nat} {rows : List Nat}

section

variable {changes : List (Option (List Nat))}
  (followed : Followed first pane changes)
include followed

/-- A change that is recorded for a pane that was changed otherwise. -/
theorem Followed.mark
    (middle : Pane)
    (room : pane.screenSequence < u64Max)
    (sized : Terminal.WellSized middle.terminal)
    (sequence : middle.screenSequence = pane.screenSequence)
    (log : middle.screenChanges = pane.screenChanges)
    (rows : Option (List Nat))
    (now : Nat)
    (kept : none ∈ changes ++ [rows] ∨
      KeptInView first middle (changes ++ [rows])) :
    Followed first (middle.markScreenChange rows now) (changes ++ [rows]) := by
  have number : (middle.markScreenChange rows now).screenSequence =
      first.screenSequence + changes.length + 1 := by
    rw [← followed.numbered]
    simp only [Pane.markScreenChange, Session.wrappingAdd, sequence]
    exact Nat.mod_eq_of_lt (by omega)
  constructor
  case sized => exact sized
  case numbered =>
    rw [number]
    simp [Nat.add_assoc]
  case bounded =>
    intro _
    rw [number, ← followed.numbered]
    exact room
  case logged =>
    rw [Pane.markScreenChange_screenChanges, number, log, followed.logged,
      logAfter_concat]
  case kept =>
    refine kept.imp_right fun kept => ?_
    exact { kept with }

/-- A change of all rows. -/
theorem Followed.markAll
    (middle : Pane)
    (room : pane.screenSequence < u64Max)
    (sized : Terminal.WellSized middle.terminal)
    (sequence : middle.screenSequence = pane.screenSequence)
    (log : middle.screenChanges = pane.screenChanges)
    (now : Nat) :
    Followed first (middle.markScreenChange none now) (changes ++ [none]) :=
  followed.mark middle room sized sequence log none now (.inl (by simp))

/-- A change that needs no record. -/
theorem Followed.silent
    (sized : Terminal.WellSized after.terminal)
    (sequence : after.screenSequence = pane.screenSequence)
    (log : after.screenChanges = pane.screenChanges)
    (offset : after.displayOffset = pane.displayOffset)
    (rows : after.terminal.rows = pane.terminal.rows)
    (cols : after.terminal.cols = pane.terminal.cols)
    (view : after.viewportRow = pane.viewportRow) :
    Followed first after changes where
  sized := sized
  numbered := sequence.trans followed.numbered
  bounded := by
    rw [sequence]
    exact followed.bounded
  logged := log.trans followed.logged
  kept := by
    refine followed.kept.imp_right fun kept => ?_
    refine ⟨offset.trans kept.offset, rows.trans kept.rows,
      cols.trans kept.cols, ?_⟩
    rw [offset, view]
    exact kept.tracked

end

/-- The viewport depends on the terminal and on the offset only. -/
theorem viewportRow_congr
    {before after : Pane}
    (terminal : after.terminal = before.terminal)
    (offset : after.displayOffset = before.displayOffset) :
    after.viewportRow = before.viewportRow := by
  funext row
  unfold Pane.viewportRow
  rw [terminal, offset]

/-! ## Steps -/

theorem map_toCell_resized
    (row : Terminal.Row)
    (length : Nat) :
    (resized row length {}).map GridCell.toCell =
      resized (row.map GridCell.toCell) length {} := by
  simp [resized]

/-- On the screen itself a row is its cells and its wrap flag. -/
theorem viewportRow_of_live
    (live : pane.displayOffset = 0)
    (row : Nat) :
    pane.viewportRow row =
      if row < pane.terminal.rows then
        (pane.terminal.cells[row]?).map fun cells =>
          { wrapped := (pane.terminal.lineWrapped row).getD false
            cells := shownCells (resized cells pane.terminal.cols {}) }
      else none := by
  have line : -((0 : Nat) : Int) + (row : Int) = row := by omega
  unfold Pane.viewportRow
  rw [live]
  dsimp only
  rw [line]
  split
  · rw [Terminal.viewportLine, if_neg (by omega), Int.toNat_natCast,
      Terminal.cells, List.getElem?_map, Option.map_map]
    congr 1
    funext source
    simp [map_toCell_resized]
  · rfl

/-- A row that is not among the changed ones has the same cells. -/
theorem cells_of_not_changed
    {before after : List (List Screen.Cell)}
    (unlisted : row ∉ changedRows before after) :
    before[row]? = after[row]? := by
  by_contra different
  apply unlisted
  rw [changedRows, List.mem_filter, List.mem_range]
  refine ⟨?_, by simpa using different⟩
  by_contra beyond
  apply different
  rw [List.getElem?_eq_none (by omega), List.getElem?_eq_none (by omega)]

/-- Output that hides nothing. -/
theorem Followed.output
    {changes : List (Option (List Nat))}
    (followed : Followed first pane changes)
    (room : pane.screenSequence < u64Max)
    (unicode : UnicodeWidth)
    (calls : List OutputCall)
    (now : Nat)
    (open_ : pane.hidesChanges unicode calls = false) :
    ∃ changes, Followed first (pane.output unicode calls now).1 changes := by
  have sized := followed.sized.feed unicode calls
  have same := Terminal.sameSize_feed unicode pane.terminal calls
  unfold Pane.hidesChanges at open_
  unfold Pane.output
  dsimp only at open_ ⊢
  generalize (pane.terminal.feed unicode calls).1 = fed at sized same open_ ⊢
  split
  · rename_i changed
    rw [if_pos changed] at open_
    dsimp only
    split
    · rename_i screen
      refine ⟨_, followed.mark { pane with terminal := fed } room
        sized rfl rfl _ now ?_⟩
      refine followed.kept.imp (List.mem_append_left _) fun kept => ?_
      refine ⟨kept.offset, same.rows.trans kept.rows,
        same.cols.trans kept.cols, ?_⟩
      rintro (live | none)
      · have before : pane.displayOffset = 0 := live
        refine (kept.tracked (.inl before)).concat fun row different => ?_
        right
        refine ⟨_, rfl, ?_⟩
        by_contra unlisted
        have cells := cells_of_not_changed unlisted
        apply different
        rw [viewportRow_of_live before, viewportRow_of_live live, same.rows,
          same.cols]
        dsimp only
        split
        · rename_i inside
          have wraps : pane.terminal.lineWrapped row = fed.lineWrapped row := by
            by_contra moved
            rw [Bool.and_eq_false_iff] at open_
            rcases open_ with elsewhere | nowhere
            · exact of_decide_eq_false elsewhere ⟨before, screen⟩
            · have here := List.any_eq_false.mp nowhere row
                (List.mem_range.mpr inside)
              exact here (decide_eq_true ⟨moved, cells⟩)
          rw [cells, wraps]
        · rfl
      · simp at none
    · exact ⟨_, followed.markAll { pane with terminal := fed } room sized rfl
        rfl now⟩
  · rename_i unchanged
    rw [if_neg unchanged] at open_
    refine ⟨changes, followed.silent sized rfl rfl rfl same.rows same.cols ?_⟩
    funext row
    by_cases inside : row < pane.terminal.rows
    · by_contra different
      have here := List.any_eq_false.mp open_ row (List.mem_range.mpr inside)
      exact here (decide_eq_true fun equal => different equal.symm)
    · have beyond : ¬ row < fed.rows := by
        rw [same.rows]
        exact inside
      unfold Pane.viewportRow
      rw [if_neg inside, if_neg beyond]

/-- An event of the pointer that does not move the copy view. -/
theorem mouse_keeps
    {event : MouseEvent}
    (still : pane.scrollsView event = false) :
    (pane.mouse event).displayOffset = pane.displayOffset ∧
      (pane.mouse event).screenSequence = pane.screenSequence ∧
      (pane.mouse event).screenChanges = pane.screenChanges := by
  unfold Pane.mouse
  split
  · exact ⟨rfl, rfl, rfl⟩
  · rename_i toPane
    split
    · rename_i scrolls
      have offset : pane.displayOffset =
          (pane.copy.getD ⟨0, 0, 0, none⟩).offset := by
        unfold Pane.displayOffset
        cases pane.copy <;> rfl
      have kept : (if event.button = 0 then
          decide (pane.displayOffset ≠ pane.terminal.history.length)
        else decide (pane.displayOffset ≠ 0)) = false := by
        unfold Pane.scrollsView at still
        rw [Bool.and_eq_false_iff, Bool.and_eq_false_iff] at still
        rcases still with (taken | none) | kept
        · simp only [Bool.not_eq_false'] at taken
          exact absurd taken toPane
        · simp only [Bool.or_eq_false_iff, decide_eq_false_iff_not] at none
          rcases scrolls with wheel | shift
          · exact absurd wheel none.1
          · rw [none.2] at shift
            cases shift
        · exact kept
      unfold Pane.scrollCopyView
      rw [offset] at kept ⊢
      dsimp only
      split
      · rename_i up
        rw [if_pos up] at kept
        have bottom := of_decide_eq_false kept
        refine ⟨?_, rfl, rfl⟩
        simp only [Pane.displayOffset, Option.map_some, Option.getD_some]
        omega
      · rename_i down
        rw [if_neg down] at kept
        have live := of_decide_eq_false kept
        split
        · refine ⟨?_, rfl, rfl⟩
          simp only [Pane.displayOffset, Option.map_none, Option.getD_none]
          omega
        · refine ⟨?_, rfl, rfl⟩
          simp only [Pane.displayOffset, Option.map_some, Option.getD_some]
          omega
    · exact ⟨rfl, rfl, rfl⟩

/-- A step that records what it changes. -/
theorem Followed.step
    {first pane : Pane}
    {changes : List (Option (List Nat))}
    (followed : Followed first pane changes)
    (unicode : UnicodeWidth)
    (keys : String → Option String)
    {event : PaneEvent}
    (records : recordsChanges unicode pane event = true) :
    ∃ changes, Followed first (paneStep unicode keys pane event) changes := by
  have sized := wellSized_paneStep followed.sized unicode keys event
  unfold recordsChanges at records
  rw [Bool.and_eq_true, decide_eq_true_eq] at records
  obtain ⟨room, shows⟩ := records
  cases event with
  | output calls now =>
      exact followed.output room unicode calls now
        ((Bool.not_eq_true' _).mp shows)
  | resize height width now =>
      simp only [paneStep, Pane.resize]
      split
      · exact ⟨_, followed.markAll
          { pane with terminal := pane.terminal.resize height width } room
          (followed.sized.resize height width) rfl rfl now⟩
      · exact ⟨changes, followed⟩
  | enterCopyMode contentHeight now =>
      exact ⟨_, followed.markAll
        { pane with copy := some ⟨0, contentHeight - 2 - 1, 0, none⟩ } room
        followed.sized rfl rfl now⟩
  | copyInput bytes now =>
      simp only [paneStep, Pane.copyInput]
      split
      · exact ⟨changes, followed⟩
      · rename_i copy active
        split
        · exact ⟨_, followed.markAll
            { pane with copy := copy.key pane.terminal _ } room followed.sized
            rfl rfl now⟩
        · rename_i unchanged
          have same := not_not.mp unchanged
          rw [same, ← active]
          exact ⟨changes, followed⟩
  | mouse event =>
      obtain ⟨offset, sequence, log⟩ :=
        mouse_keeps ((Bool.not_eq_true' _).mp shows)
      have terminal := Pane.mouse_terminal pane event
      refine ⟨changes, followed.silent sized sequence log offset
        (congrArg Terminal.rows terminal) (congrArg Terminal.cols terminal)
        (viewportRow_congr terminal offset)⟩

/-- By induction over the run, with the changes it recorded. -/
theorem followed_of_reachable
    {unicode : UnicodeWidth}
    {keys : String → Option String}
    (sized : Terminal.WellSized first.terminal)
    (since : ((paneMachine unicode keys).startingAt first).Reachable
      (fun before event => recordsChanges unicode before event = true) pane) :
    ∃ changes, Followed first pane changes := by
  apply since.invariant
  · rintro start rfl
    refine ⟨[], sized, rfl, fun some => absurd rfl some, rfl, .inr ?_⟩
    exact ⟨rfl, rfl, rfl, fun _ => tracked_refl _⟩
  · rintro before event after ⟨changes, followed⟩ records rfl
    exact followed.step unicode keys records

/-! ## Snapshots of the viewport -/

theorem insertRow_mem
    {row query : Nat} :
    query ∈ Pane.insertRow rows row ↔ query = row ∨ query ∈ rows := by
  unfold Pane.insertRow
  split
  · rename_i present
    constructor
    · exact .inr
    · rintro (rfl | there)
      · exact present
      · exact there
  · exact List.mem_orderedInsert _

/-- Every row that a change names is collected. -/
theorem mem_collectRows
    {changes : List ScreenChange}
    {change : ScreenChange}
    (listed : change ∈ changes)
    (names : change.places = some rows)
    (named : row ∈ rows) : row ∈ Pane.collectRows changes := by
  have collected : ∀ (all collecting : List Nat),
      row ∈ all ∨ row ∈ collecting →
        row ∈ all.foldl Pane.insertRow collecting := by
    intro all
    induction all with
    | nil => exact fun _ present => present.resolve_left List.not_mem_nil
    | cons next rest ih =>
        intro collecting present
        apply ih
        rw [insertRow_mem]
        rcases present with first | collected
        · rcases List.mem_cons.mp first with here | later
          · exact .inr (.inl here)
          · exact .inl later
        · exact .inr (.inr collected)
  apply collected
  left
  rw [List.mem_flatMap]
  exact ⟨change, listed, by rw [names]; exact named⟩

/-- A snapshot of the viewport says what is in it. -/
theorem shows_of_selected
    (pane : Pane)
    (paneId : PaneId)
    (sessionSequence : Nat)
    (selected : Pane.SelectedRows)
    (rows : List Nat)
    (row : Nat) :
    (pane.snapshot paneId sessionSequence selected
      (pane.serializeRows (-(pane.displayOffset : Int)) pane.terminal.rows []
        rows)).shows row =
      if row ∈ rows then pane.viewportRow row else none :=
  serializeRows_shows pane rows List.prefix_rfl row

/-- A full snapshot shows the whole viewport. -/
theorem shows_of_full
    {paneId : PaneId}
    {sessionSequence : Nat}
    {base : GridSnapshot}
    (taken : pane.gridSnapshot paneId sessionSequence none none none =
      .ok base) :
    base.shows = pane.viewportRow ∧
      base.displayOffset = pane.displayOffset ∧
      base.rowCount = pane.terminal.rows ∧
      base.columns = pane.terminal.cols ∧
      base.screenSequence = pane.screenSequence := by
  obtain ⟨selected, selects, -, rfl⟩ := Pane.gridSnapshot_ok taken
  cases selects
  refine ⟨?_, rfl, rfl, rfl, rfl⟩
  funext row
  refine (shows_of_selected pane paneId sessionSequence _ _ row).trans ?_
  simp only [Pane.lineRange, List.mem_range, Option.getD_none]
  split
  · rfl
  · rename_i beyond
    rw [Pane.viewportRow, if_neg beyond]

/-- Every viewport row of a pane shows something. -/
theorem viewportRow_isSome
    (sized : Terminal.WellSized pane.terminal)
    (within : pane.displayOffset ≤ pane.terminal.history.length)
    (inside : row < pane.terminal.rows) : (pane.viewportRow row).isSome := by
  rw [Pane.viewportRow, if_pos inside]
  dsimp only
  rw [Option.isSome_map, Terminal.viewportLine]
  split
  · rw [if_pos (by omega), List.getElem?_eq_getElem (by omega)]
    rfl
  · have grid := sized.grid
    rw [List.getElem?_eq_getElem (by omega)]
    rfl

/-! ## Completeness -/

/-- What an answer that is not full selects: nothing if nothing was recorded,
otherwise rows of the screen itself. -/
theorem selectRows_of_not_full
    {since : Nat}
    {selected : Pane.SelectedRows}
    (selects : pane.selectRows none none (some since) = .ok selected)
    (notFull : selected.full = false) :
    (since = pane.screenSequence ∧ selected.viewportRows = some []) ∨
      (since < pane.screenSequence ∧ pane.displayOffset = 0 ∧
        ¬ saturatingAdd u64Max since 1 <
          (pane.screenChanges.head?.map LoggedChange.sequence).getD
            pane.screenSequence ∧
        (∀ change ∈ pane.screenChanges, since < change.sequence →
          change.places ≠ none) ∧
        selected.viewportRows = some (Pane.collectRows
          (pane.screenChanges.filter fun change =>
            since < change.sequence))) := by
  unfold Pane.selectRows at selects
  dsimp only at selects
  rw [if_neg (by simp)] at selects
  split at selects
  · cases selects
  · rename_i known
    split at selects
    · rename_i same
      cases selects
      exact .inl ⟨same, rfl⟩
    · rename_i earlier
      split at selects
      · cases selects
        cases notFull
      · rename_i live
        right
        refine ⟨by omega, by omega, ?_⟩
        simp only [Except.ok.injEq] at selects
        unfold Pane.changedSince at selects
        dsimp only at selects
        split at selects
        · rw [← selects] at notFull
          cases notFull
        · rename_i reaches
          split at selects
          · rw [← selects] at notFull
            cases notFull
          · rename_i named
            refine ⟨reaches, ?_, by rw [← selects]⟩
            intro change listed later all
            apply named
            rw [List.any_eq_true]
            refine ⟨change, List.mem_filter.mpr ⟨listed, ?_⟩, by simp [all]⟩
            exact decide_eq_true later

/-- The rows that were collected cover every recorded change. -/
theorem Followed.collected
    {changes : List (Option (List Nat))}
    (followed : Followed first pane changes)
    (later : first.screenSequence < pane.screenSequence)
    (reaches : ¬ saturatingAdd u64Max first.screenSequence 1 <
      (pane.screenChanges.head?.map LoggedChange.sequence).getD
        pane.screenSequence)
    (named : ∀ change ∈ pane.screenChanges,
      first.screenSequence < change.sequence → change.places ≠ none) :
    none ∉ changes ∧ ∀ row, Names changes row →
      row ∈ Pane.collectRows (pane.screenChanges.filter fun change =>
        first.screenSequence < change.sequence) := by
  have some : changes ≠ [] := by
    intro none
    have number := followed.numbered
    rw [none] at number
    simp at number
    omega
  have bounded := followed.bounded some
  rw [saturatingAdd_eq_add (by omega)] at reaches
  have logged : ∀ entry ∈ numberedFrom first.screenSequence changes,
      entry ∈ pane.screenChanges := by
    rw [followed.logged] at reaches ⊢
    apply numberedFrom_subset_logAfter some (by decide)
    intro oldest isOldest
    rw [isOldest] at reaches
    simpa using reaches
  constructor
  · intro all
    obtain ⟨entry, listed, after, places⟩ := mem_numberedFrom all
    exact named entry (logged entry listed) after places
  · rintro row ⟨rows, listed, here⟩
    obtain ⟨entry, logs, after, places⟩ := mem_numberedFrom listed
    refine mem_collectRows (List.mem_filter.mpr ⟨logged entry logs, ?_⟩)
      places here
    exact decide_eq_true after

/-- What an answer that is not full selects covers what was recorded. -/
theorem Followed.selected
    {changes : List (Option (List Nat))}
    (followed : Followed first pane changes)
    {selected : Pane.SelectedRows}
    (selects : pane.selectRows none none (some first.screenSequence) =
      .ok selected)
    (notFull : selected.full = false) :
    ∃ rows, selected.viewportRows = some rows ∧ none ∉ changes ∧
      (pane.displayOffset = 0 ∨ changes = []) ∧
        ∀ row, Names changes row → row ∈ rows := by
  rcases selectRows_of_not_full selects notFull with
    ⟨same, nothing⟩ | ⟨later, live, reaches, named, collected⟩
  · have unchanged : changes = [] := by
      have number := followed.numbered
      rw [← List.length_eq_zero_iff]
      omega
    refine ⟨[], nothing, ?_, .inr unchanged, ?_⟩
    · rw [unchanged]
      exact List.not_mem_nil
    · rintro row ⟨rows, listed, -⟩
      rw [unchanged] at listed
      cases listed
  · obtain ⟨known, covers⟩ := followed.collected later reaches named
    exact ⟨_, collected, known, .inl live, covers⟩

/-- Patching looks at the returned rows again. -/
theorem patchedBy_eq_lookAgain
    {base delta : GridSnapshot}
    {before after : Nat → Option ShownRow}
    (baseShows : base.shows = before)
    (deltaShows : ∀ row,
      delta.shows row = if row ∈ rows then after row else none)
    (shown : ∀ row, after row = none → before row = none) :
    base.patchedBy delta = lookAgain rows before after := by
  funext row
  rw [GridSnapshot.patchedBy, deltaShows, baseShows, lookAgain]
  split
  · cases here : after row with
    | none => rw [shown row here, Option.or_none]
    | some current => rw [Option.some_or]
  · rw [Option.none_or]

/-- Screen deltas are complete in every run that records its changes. -/
theorem deltas_complete
    {unicode : UnicodeWidth}
    {keys : String → Option String}
    {first second : Pane}
    {paneId : PaneId}
    {firstSession secondSession : Nat}
    {base delta : GridSnapshot}
    (reached : (paneMachine unicode keys).Reachable (fun _ _ => True) first)
    (taken : first.gridSnapshot paneId firstSession none none none = .ok base)
    (since : ((paneMachine unicode keys).startingAt first).Reachable
      (fun before event => recordsChanges unicode before event = true) second)
    (asked : second.gridSnapshot paneId secondSession none none
      (some base.screenSequence) = .ok delta)
    (notFull : delta.full = false) :
    base.patchedBy delta = second.viewportRow ∧
      delta.displayOffset = base.displayOffset ∧
      delta.rowCount = base.rowCount ∧ delta.columns = base.columns := by
  obtain ⟨changes, followed⟩ :=
    followed_of_reachable (wellSized_of_reachable_pane reached) since
  obtain ⟨shows, offset, rowCount, columns, sequence⟩ := shows_of_full taken
  rw [sequence] at asked
  obtain ⟨selected, selects, within, rfl⟩ := Pane.gridSnapshot_ok asked
  obtain ⟨rows, selectedRows, known, live, covers⟩ :=
    followed.selected selects notFull
  have kept := followed.kept.resolve_left known
  refine ⟨?_, kept.offset.trans offset.symm, kept.rows.trans rowCount.symm,
    kept.cols.trans columns.symm⟩
  have deltaShows : ∀ row,
      (second.snapshot paneId secondSession selected _).shows row =
        if row ∈ rows then second.viewportRow row else none :=
    shows_of_selected second paneId secondSession selected rows
  have shown : ∀ row, second.viewportRow row = none →
      first.viewportRow row = none := by
    intro row nothing
    have inView : second.displayOffset ≤ second.terminal.history.length := by
      unfold Pane.outside Pane.lineRange at within
      dsimp only at within
      omega
    have beyond : ¬ row < second.terminal.rows := by
      intro inside
      have something := viewportRow_isSome followed.sized inView inside
      rw [nothing] at something
      cases something
    rw [kept.rows] at beyond
    rw [Pane.viewportRow, if_neg beyond]
  rw [selectedRows]
  exact (patchedBy_eq_lookAgain shows deltaShows shown).trans
    ((kept.tracked live).lookAgain known covers)

/-! ## Two runs -/

/-- A pane that is 2 columns wide and 2 rows high, with text on both rows and
one row of history. -/
def smallPane :
    List PaneEvent :=
  [.resize 2 2 0,
    .output [⟨.input 'a', rfl⟩, ⟨.newline, rfl⟩, ⟨.input 'b', rfl⟩,
      ⟨.newline, rfl⟩] 1]

/-- The pane after events that all pass a check. -/
def followPane
    (allowed : Pane → PaneEvent → Bool) : Pane → List PaneEvent → Option Pane :=
  Machine.follow
    (fun pane event =>
      some (paneStep Terminal.latinAndHan (fun _ => none) pane event))
    allowed

variable {allowed : Pane → PaneEvent → Bool} {guard : Pane → PaneEvent → Prop}

theorem reachable_followPane
    {machine : Machine Pane PaneEvent}
    (checks : ∀ pane event, allowed pane event = true → guard pane event)
    (reachable : machine.Reachable guard pane)
    (steps : machine.step =
      (paneMachine Terminal.latinAndHan fun _ => none).step)
    {events : List PaneEvent}
    (followed : followPane allowed pane events = some after) :
    machine.Reachable guard after := by
  refine reachable.follow ?_ checks followed
  intro before event next stepped
  rw [steps]
  exact (Option.some.inj stepped).symm

/-- A look at a small pane and, after some more events, a look at what has
changed since. -/
structure TwoLooks where
  first : Pane
  second : Pane
  base : GridSnapshot
  delta : GridSnapshot

def lookTwice
    (allowed : Pane → PaneEvent → Bool)
    (between : List PaneEvent) : Option TwoLooks :=
  (followPane (fun _ _ => true) (.spawned 10 0) smallPane).bind fun first =>
    (followPane allowed first between).bind fun second =>
      (first.gridSnapshot 1 0 none none none).toOption.bind fun base =>
        (second.gridSnapshot 1 0 none none
          (some base.screenSequence)).toOption.map fun delta =>
            ⟨first, second, base, delta⟩

/-- What two looks are looks at. -/
structure TwoLooks.Real
    (guard : Pane → PaneEvent → Prop)
    (looks : TwoLooks) : Prop where
  reached : (paneMachine Terminal.latinAndHan fun _ => none).Reachable
    (fun _ _ => True) looks.first
  taken : looks.first.gridSnapshot 1 0 none none none = .ok looks.base
  since : ((paneMachine Terminal.latinAndHan fun _ => none).startingAt
    looks.first).Reachable guard looks.second
  asked : looks.second.gridSnapshot 1 0 none none
    (some looks.base.screenSequence) = .ok looks.delta

theorem eq_ok_of_toOption
    {Error Value : Type}
    {result : Except Error Value}
    {value : Value}
    (known : result.toOption = some value) : result = .ok value := by
  cases result with
  | error refused => cases known
  | ok found =>
      cases known
      rfl

theorem lookTwice_real
    (checks : ∀ pane event, allowed pane event = true → guard pane event)
    {between : List PaneEvent}
    {looks : TwoLooks}
    (looked : lookTwice allowed between = some looks) : looks.Real guard := by
  obtain ⟨first, toFirst, looked⟩ := Option.bind_eq_some_iff.mp looked
  obtain ⟨second, toSecond, looked⟩ := Option.bind_eq_some_iff.mp looked
  obtain ⟨base, taken, looked⟩ := Option.bind_eq_some_iff.mp looked
  obtain ⟨delta, asked, rfl⟩ := Option.map_eq_some_iff.mp looked
  constructor
  case reached =>
    exact reachable_followPane (fun _ _ _ => trivial)
      (.initial ⟨10, 0, rfl⟩) rfl toFirst
  case taken => exact eq_ok_of_toOption taken
  case since =>
    have start : ((paneMachine Terminal.latinAndHan fun _ => none).startingAt
        first).Reachable guard first := .initial rfl
    exact reachable_followPane checks start rfl toSecond
  case asked => exact eq_ok_of_toOption asked

/-- A letter is put in the upper left corner. -/
theorem deltas_complete_letter :
    ∃ looks,
      lookTwice (recordsChanges Terminal.latinAndHan)
          [.output [⟨.goto 0 0, rfl⟩, ⟨.input 'c', rfl⟩] 2] = some looks ∧
        looks.delta.full = false ∧
        looks.delta.rows.map GridRow.gridLine = [0] ∧
        looks.base.patchedBy looks.delta = looks.second.viewportRow := by
  have seen : (lookTwice (recordsChanges Terminal.latinAndHan)
      [.output [⟨.goto 0 0, rfl⟩, ⟨.input 'c', rfl⟩] 2]).map (fun looks =>
        (looks.delta.full, looks.delta.rows.map GridRow.gridLine)) =
      some (false, [0]) := by
    decide +kernel
  obtain ⟨looks, looked, holds⟩ := Option.map_eq_some_iff.mp seen
  obtain ⟨notFull, rows⟩ := Prod.mk.inj holds
  have real : looks.Real fun pane event =>
      recordsChanges Terminal.latinAndHan pane event = true :=
    lookTwice_real (fun _ _ records => records) looked
  exact ⟨looks, looked, notFull, rows, (deltas_complete real.reached real.taken
    real.since real.asked notFull).1⟩

/-- Output that writes over full rows what is in them already makes the first
one wrap, and no row is returned. -/
example :
    ((followPane (fun _ _ => true) (.spawned 10 0)
        [.resize 2 2 0,
          .output [⟨.input 'a', rfl⟩, ⟨.input 'b', rfl⟩, ⟨.newline, rfl⟩,
            ⟨.input 'c', rfl⟩] 1]).map fun pane =>
      pane.hidesChanges Terminal.latinAndHan
        [⟨.goto 0 0, rfl⟩, ⟨.input 'a', rfl⟩, ⟨.input 'b', rfl⟩,
          ⟨.input 'c', rfl⟩]) = some true := by
  decide +kernel

/-- A turn of the wheel moves the viewport into the history, and the answer
says that nothing changed. -/
theorem wheel_hides_viewport :
    ∃ looks : TwoLooks,
      looks.Real (fun _ _ => True) ∧
        looks.delta.full = false ∧
        looks.delta.rows = [] ∧
        looks.delta.displayOffset ≠ looks.base.displayOffset ∧
        looks.base.patchedBy looks.delta ≠ looks.second.viewportRow := by
  have seen : (lookTwice (fun _ _ => true)
      [.mouse ⟨0, 0, 0, .wheel, false⟩]).map (fun looks =>
        (looks.delta.full, looks.delta.rows, looks.delta.displayOffset,
          looks.base.displayOffset,
          decide (looks.base.patchedBy looks.delta 0 =
            looks.second.viewportRow 0))) =
      some (false, [], 1, 0, false) := by
    decide +kernel
  obtain ⟨looks, looked, holds⟩ := Option.map_eq_some_iff.mp seen
  obtain ⟨notFull, rest⟩ := Prod.mk.inj holds
  obtain ⟨rows, rest⟩ := Prod.mk.inj rest
  obtain ⟨after, rest⟩ := Prod.mk.inj rest
  obtain ⟨before, different⟩ := Prod.mk.inj rest
  refine ⟨looks, lookTwice_real (fun _ _ _ => trivial) looked, notFull, rows,
    ?_, ?_⟩
  · rw [after, before]
    decide
  · intro same
    exact of_decide_eq_false different (congrFun same 0)

end Automation
end Vvmux
