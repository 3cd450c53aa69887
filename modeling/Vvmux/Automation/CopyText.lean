import Vvmux.Automation.CopyKeys

/-!
# Whole lines in the copy buffer

`extract_selection` and `extract_rows` walk over a row in the same turns, but
they trim it in different ways: the one its text, over all cells that are
stored, the other its cells, up to the columns of the terminal.  Whole lines
are copied as `extract_rows` gives them exactly when no row shows the
difference.
-/

namespace Vvmux
namespace Terminal

/-! ## The turns of both walks -/

/-- How many columns a turn goes on. -/
def GridCell.advance (cell : GridCell) : Nat :=
  match cell.tabWidth with
  | some width => max width.toNat 1
  | none => 1

/-- What a turn adds to the text. -/
def GridCell.shown (cell : GridCell) : List Char :=
  match cell.tabWidth with
  | some _ => ['\t']
  | none => cell.text

namespace Row

/-- The columns of the turns from a column on. -/
def stops (row : Row) : Nat → Nat → List Nat
  | 0, _ => []
  | fuel + 1, column =>
      if column < row.length then
        column :: row.stops fuel (column + (row.getD column {}).advance)
      else []

/-- What the turn at a column adds to the text. -/
def shownAt (row : Row) (column : Nat) : List Char :=
  (row.getD column {}).shown

/-- The columns of a walk over the whole row. -/
def allStops (row : Row) : List Nat :=
  row.stops row.length 0

/-- A turn up to the last used cell within the columns that ends the text in
a blank is followed by one that shows something. -/
def Trimmed (row : Row) (cols : Nat) : Prop :=
  ∀ column ∈ row.allStops, column < usedEnd (row.take cols) →
    (row.shownAt column).getLast? = some ' ' →
      ∃ later ∈ row.allStops, later < usedEnd (row.take cols) ∧
        column < later ∧ row.shownAt later ≠ []

/-- The turns behind the columns show only blanks. -/
def Narrow (row : Row) (cols : Nat) : Prop :=
  ∀ column ∈ row.allStops, cols ≤ column →
    ∀ ch ∈ row.shownAt column, ch = ' '

theorem bounds_of_mem_stops
    {row : Row}
    {fuel start column : Nat}
    (stop : column ∈ row.stops fuel start) :
    start ≤ column ∧ column < row.length := by
  induction fuel generalizing start with
  | zero => cases stop
  | succ fuel ih =>
      unfold stops at stop
      split at stop
      · next inside =>
        rcases List.mem_cons.mp stop with rfl | later
        · exact ⟨Nat.le_refl _, inside⟩
        · have further := ih later
          omega
      · cases stop

theorem pairwise_stops
    (row : Row)
    (fuel start : Nat) : (row.stops fuel start).Pairwise (· < ·) := by
  induction fuel generalizing start with
  | zero => exact .nil
  | succ fuel ih =>
      unfold stops
      split
      · refine .cons (fun later stop => ?_) (ih _)
        have further := bounds_of_mem_stops stop
        have positive : 0 < (row.getD start {}).advance := by
          unfold GridCell.advance
          split <;> omega
        omega
      · exact .nil

theorem filter_stops_of_le
    {row : Row}
    {stop start : Nat}
    (turns : Nat)
    (done : stop ≤ start) : (row.stops turns start).filter (· < stop) = [] := by
  rw [List.filter_eq_nil_iff]
  intro column there
  have := bounds_of_mem_stops there
  simp only [decide_eq_true_eq]
  omega

/-- Both walks add up what their turns show. -/
theorem textFrom_eq_flatMap
    (row : Row)
    {stop : Nat}
    (inside : stop ≤ row.length)
    (fuel turns start : Nat)
    (enough : stop ≤ start + fuel)
    (enoughTurns : stop ≤ start + turns) :
    row.textFrom stop fuel start =
      ((row.stops turns start).filter (· < stop)).flatMap row.shownAt := by
  induction fuel generalizing start turns with
  | zero =>
      rw [filter_stops_of_le turns (by omega)]
      rfl
  | succ fuel ih =>
      unfold textFrom
      split
      · next more =>
          obtain ⟨turns, rfl⟩ : ∃ fewer, turns = fewer + 1 :=
            ⟨turns - 1, by omega⟩
          unfold stops
          rw [if_pos (by omega), List.filter_cons_of_pos (by simpa using more),
            List.flatMap_cons, shownAt, GridCell.shown, GridCell.advance]
          cases tab : (row.getD start {}).tabWidth with
          | some width =>
              simp only [tab]
              rw [ih turns _ (by omega) (by omega)]
              rfl
          | none =>
              simp only [tab]
              rw [ih turns _ (by omega) (by omega)]
      · rw [filter_stops_of_le turns (by omega)]
        rfl

/-- A walk within the columns does not see the cells behind them. -/
theorem textFrom_take
    (row : Row)
    {stop cols : Nat}
    (inside : stop ≤ cols)
    (fuel start : Nat) :
    textFrom (row.take cols) stop fuel start = row.textFrom stop fuel start := by
  induction fuel generalizing start with
  | zero => rfl
  | succ fuel ih =>
      unfold textFrom
      split
      · have same : List.getD (row.take cols) start {} =
            row.getD start {} := by
          simp only [List.getD_eq_getElem?_getD]
          rw [List.getElem?_take_of_lt (by omega)]
        simp only [same, ih]
      · rfl

/-- A cell that `append_row_text` trims shows a blank. -/
theorem shown_of_unused
    {cell : GridCell}
    (unused : cell.used = false) : cell.shown = [' '] := by
  simp only [GridCell.used, Bool.or_eq_false_iff, decide_eq_false_iff_not,
    ne_eq, not_not] at unused
  obtain ⟨⟨⟨⟨blank, unmarked⟩, untabbed⟩, second⟩, spacer⟩ := unused
  simp only [Option.isSome_eq_false_iff, Option.isNone_iff_eq_none] at untabbed
  simp [GridCell.shown, untabbed, GridCell.text, second, spacer, blank,
    unmarked]

/-- Behind the last used cell there is none. -/
theorem used_eq_false_of_usedEnd_le
    (row : Row)
    {column : Nat}
    (behind : row.usedEnd ≤ column)
    (inside : column < row.length) : row[column].used = false := by
  unfold usedEnd at behind
  split at behind
  · next index found =>
      obtain ⟨_, _, unused⟩ := List.findIdx?_eq_some_iff_getElem.mp found
      have other := unused (row.length - 1 - column) (by omega)
      rw [List.getElem_reverse] at other
      have same : row.length - 1 - (row.length - 1 - column) = column := by
        omega
      simpa only [same, Bool.not_eq_true] using other
  · next none =>
      rw [List.findIdx?_eq_none_iff] at none
      exact none _ (List.mem_reverse.mpr (List.getElem_mem inside))

end Row

/-! ## Trimmed lists -/

/-- A sorted list, cut at a bound. -/
theorem filter_append_filter_of_pairwise
    {columns : List Nat}
    (sorted : columns.Pairwise (· < ·))
    (bound : Nat) :
    columns.filter (· < bound) ++ columns.filter (bound ≤ ·) = columns := by
  induction sorted with
  | nil => rfl
  | @cons column rest below _ ih =>
      rcases Nat.lt_or_ge column bound with inside | outside
      · rw [List.filter_cons_of_pos (by simpa using inside),
          List.filter_cons_of_neg (by simpa using inside), List.cons_append,
          ih]
      · have none : rest.filter (· < bound) = [] := by
          rw [List.filter_eq_nil_iff]
          intro later there
          have := below later there
          simp only [decide_eq_true_eq]
          omega
        have all : rest.filter (bound ≤ ·) = rest := by
          rw [none] at ih
          exact ih
        rw [List.filter_cons_of_neg (by simpa using outside), none,
          List.nil_append, List.filter_cons_of_pos (by simpa using outside),
          all]

theorem rdropWhile_append_iff
    {Item : Type*}
    (drops : Item → Bool)
    (front back : List Item) :
    (front ++ back).rdropWhile drops = front.rdropWhile drops ↔
      ∀ item ∈ back, drops item = true := by
  unfold List.rdropWhile
  rw [List.reverse_inj, List.reverse_append, List.dropWhile_append]
  split
  · next gone =>
      rw [List.isEmpty_iff, List.dropWhile_eq_nil_iff] at gone
      exact iff_of_true rfl (by simpa using gone)
  · next some =>
      refine iff_of_false (fun same => ?_) fun all => some ?_
      · have short := congrArg List.length same
        have least := (List.dropWhile_suffix drops :
          front.reverse.dropWhile drops <:+ front.reverse).length_le
        rw [List.length_append] at short
        rw [List.isEmpty_iff, ← List.length_eq_zero_iff] at some
        omega
      · rw [List.isEmpty_iff, List.dropWhile_eq_nil_iff]
        simpa using all

/-- A text ends in no blank when the last of its parts that is not empty ends
in none: by induction from the right. -/
theorem rdropWhile_flatMap_iff
    {columns : List Nat}
    (sorted : columns.Pairwise (· < ·))
    (shownAt : Nat → List Char) :
    (columns.flatMap shownAt).rdropWhile (· = ' ') =
        columns.flatMap shownAt ↔
      ∀ column ∈ columns, (shownAt column).getLast? = some ' ' →
        ∃ later ∈ columns, column < later ∧ shownAt later ≠ [] := by
  have ends (text : List Char) :
      text.rdropWhile (· = ' ') = text ↔ text.getLast? ≠ some ' ' := by
    rw [List.rdropWhile_eq_self_iff]
    cases text using List.reverseRecOn with
    | nil => simp
    | append_singleton front ch => simp
  rw [ends]
  induction columns using List.reverseRecOn with
  | nil => simp
  | append_singleton front column ih =>
      obtain ⟨sortedFront, -, below⟩ := List.pairwise_append.mp sorted
      have before := ih sortedFront
      rw [List.flatMap_append, List.flatMap_singleton, List.getLast?_append]
      by_cases silent : shownAt column = []
      · rw [silent, List.getLast?_nil, Option.none_or]
        refine before.trans ⟨?_, ?_⟩
        · intro followed other there blank
          rcases List.mem_append.mp there with inFront | last
          · obtain ⟨later, further, behind, shows⟩ :=
              followed other inFront blank
            exact ⟨later, List.mem_append_left _ further, behind, shows⟩
          · cases List.mem_singleton.mp last
            rw [silent] at blank
            cases blank
        · intro followed other inFront blank
          obtain ⟨later, there, behind, shows⟩ :=
            followed other (List.mem_append_left _ inFront) blank
          rcases List.mem_append.mp there with further | last
          · exact ⟨later, further, behind, shows⟩
          · cases List.mem_singleton.mp last
            exact (shows silent).elim
      · obtain ⟨ch, last⟩ := List.getLast?_isSome.mpr silent |>
          Option.isSome_iff_exists.mp
        rw [last, Option.some_or]
        constructor
        · intro ends other there blank
          rcases List.mem_append.mp there with inFront | same
          · exact ⟨column, by simp, below other inFront column (by simp),
              silent⟩
          · cases List.mem_singleton.mp same
            exact (ends (last.symm.trans blank)).elim
        · intro followed blank
          obtain ⟨later, there, behind, -⟩ :=
            followed column (by simp) (last.trans blank)
          rcases List.mem_append.mp there with inFront | same
          · have := below later inFront column (by simp)
            omega
          · cases List.mem_singleton.mp same
            omega

namespace Row

variable (row : Row) (cols : Nat)

theorem pairwise_allStops : row.allStops.Pairwise (· < ·) :=
  row.pairwise_stops row.length 0

theorem text_take :
    text (row.take cols) =
      (row.allStops.filter (· < usedEnd (row.take cols))).flatMap
        row.shownAt := by
  have inside := usedEnd_le_length (row.take cols)
  rw [List.length_take] at inside
  rw [text, textFrom_take row (by omega),
    row.textFrom_eq_flatMap (by omega) _ row.length 0 (by omega) (by omega)]
  rfl

/-- Within the columns the turns behind the last used cell show blanks. -/
theorem shownAt_of_usedEnd_le
    {column : Nat}
    (behind : usedEnd (row.take cols) ≤ column)
    (inside : column < min cols row.length) : row.shownAt column = [' '] := by
  have unused := used_eq_false_of_usedEnd_le (row.take cols) behind
    (by rw [List.length_take]; exact inside)
  rw [List.getElem_take] at unused
  have known : row.getD column {} = row[column] := by
    rw [List.getD_eq_getElem?_getD, List.getElem?_eq_getElem (by omega)]
    rfl
  rw [shownAt, known, shown_of_unused unused]

/-- The turns within the columns show the text and blanks. -/
theorem flatMap_filter_cols :
    ∃ blanks, (∀ ch ∈ blanks, ch = ' ') ∧
      (row.allStops.filter (· < min cols row.length)).flatMap row.shownAt =
        text (row.take cols) ++ blanks := by
  have inside := usedEnd_le_length (row.take cols)
  rw [List.length_take] at inside
  have parts := filter_append_filter_of_pairwise
    (row.pairwise_allStops.filter fun column =>
      decide (column < min cols row.length)) (usedEnd (row.take cols))
  have front : (row.allStops.filter (· < min cols row.length)).filter
      (· < usedEnd (row.take cols)) =
        row.allStops.filter (· < usedEnd (row.take cols)) := by
    rw [List.filter_filter]
    apply List.filter_congr
    intro column _
    by_cases before : column < usedEnd (row.take cols)
    · simp only [before, decide_true, Bool.true_and, decide_eq_true_eq]
      omega
    · simp [before]
  rw [front] at parts
  refine ⟨_, fun ch shown => ?_, by rw [← parts, List.flatMap_append,
    text_take]⟩
  obtain ⟨column, there, shows⟩ := List.mem_flatMap.mp shown
  simp only [List.mem_filter, decide_eq_true_eq] at there
  rw [row.shownAt_of_usedEnd_le cols there.2 there.1.2] at shows
  exact List.mem_singleton.mp shows

/-- Copying within the columns drops the blanks at the end of the text. -/
theorem selectedText_cols :
    Automation.selectedText row 0 cols =
      (text (row.take cols)).rdropWhile (· = ' ') := by
  obtain ⟨blanks, all, shows⟩ := row.flatMap_filter_cols cols
  rw [Automation.selectedText, Nat.min_eq_left (Nat.zero_le _),
    row.textFrom_eq_flatMap (by omega) _ row.length 0 (by omega) (by omega)]
  change List.rdropWhile _ ((row.allStops.filter _).flatMap row.shownAt) = _
  rw [shows, rdropWhile_append_iff]
  simpa using all

theorem selectedText_cols_iff :
    Automation.selectedText row 0 cols = text (row.take cols) ↔
      row.Trimmed cols := by
  rw [selectedText_cols, text_take,
    rdropWhile_flatMap_iff (row.pairwise_allStops.filter _)]
  simp only [Trimmed, List.mem_filter, decide_eq_true_eq, and_imp, and_assoc]

/-- The whole row is copied as within the columns when it goes on in
blanks. -/
theorem selectedText_length_iff (trimmed : row.Trimmed cols) :
    Automation.selectedText row 0 row.length = text (row.take cols) ↔
      row.Narrow cols := by
  obtain ⟨blanks, all, shows⟩ := row.flatMap_filter_cols cols
  have cut := (row.selectedText_cols_iff cols).mpr trimmed
  rw [selectedText_cols] at cut
  have whole : row.allStops.flatMap row.shownAt =
      text (row.take cols) ++ (blanks ++
        (row.allStops.filter (min cols row.length ≤ ·)).flatMap
          row.shownAt) := by
    rw [← List.append_assoc, ← shows, ← List.flatMap_append,
      filter_append_filter_of_pairwise row.pairwise_allStops]
  have every : row.allStops.filter (· < row.length) = row.allStops := by
    rw [List.filter_eq_self]
    intro column stop
    simpa using (bounds_of_mem_stops stop).2
  rw [Automation.selectedText, Nat.min_eq_left (Nat.zero_le _),
    row.textFrom_eq_flatMap (by omega) _ row.length 0 (by omega) (by omega)]
  change List.rdropWhile _ ((row.allStops.filter _).flatMap row.shownAt) = _ ↔
    _
  rw [Nat.min_self, every, whole]
  nth_rewrite 2 [← cut]
  rw [rdropWhile_append_iff]
  simp only [decide_eq_true_eq]
  constructor
  · intro blank column stop behind ch shown
    refine blank ch (List.mem_append_right _ (List.mem_flatMap.mpr
      ⟨column, List.mem_filter.mpr ⟨stop, ?_⟩, shown⟩))
    simp only [decide_eq_true_eq]
    omega
  · intro narrow ch shown
    rcases List.mem_append.mp shown with before | behind
    · exact all ch before
    · obtain ⟨column, there, shows⟩ := List.mem_flatMap.mp behind
      obtain ⟨stop, behind⟩ := List.mem_filter.mp there
      have inside := (bounds_of_mem_stops stop).2
      simp only [decide_eq_true_eq] at behind
      exact narrow column stop (by omega) ch shows

end Row

/-! ## Lines -/

/-- A line is in the history or on the screen. -/
def HasLine (terminal : Terminal) (line : Int) : Prop :=
  -(terminal.history.length : Int) ≤ line ∧ line < terminal.rows

variable {terminal : Terminal}

theorem hasLine_iff
    (sized : WellSized terminal)
    {line : Int} :
    terminal.HasLine line ↔ ∃ row, terminal.viewportLine line = some row := by
  constructor
  · intro there
    have shown := viewportLine_eq terminal
      (line + terminal.history.length).toNat
    have same : ((line + terminal.history.length).toNat : Int) -
        terminal.history.length = line := by
      have := there.1
      omega
    rw [same] at shown
    have inside : (line + terminal.history.length).toNat <
        terminal.retained.length := by
      have := there.2
      rw [retained, List.length_append, sized.grid]
      omega
    exact ⟨_, shown.trans (List.getElem?_eq_getElem inside)⟩
  · rintro ⟨row, shown⟩
    unfold viewportLine at shown
    split at shown
    · dsimp only at shown
      split at shown
      · constructor <;> omega
      · cases shown
    · obtain ⟨inside, -⟩ := List.getElem?_eq_some_iff.mp shown
      rw [sized.grid] at inside
      constructor <;> omega

/-- A part of the text of a line. -/
def lineText
    (terminal : Terminal)
    (part : Row → List Char)
    (line : Int) : List Char :=
  ((terminal.viewportLine line).map part).getD []

/-- Lines, each with its line break, before the last one. -/
def joinLines
    (terminal : Terminal)
    (body last : Row → List Char)
    (first : Int)
    (count : Nat) : List Char :=
  (List.range count).flatMap (fun index : Nat =>
    terminal.lineText body (first + index) ++
      if (terminal.lineWrapped (first + index)).getD false = false then
        ['\n']
      else []) ++
    terminal.lineText last (first + count)

theorem joinLines_succ
    (body last : Row → List Char)
    (first : Int)
    (count : Nat) :
    terminal.joinLines body last first (count + 1) =
      terminal.joinLines body body first count ++
        (if (terminal.lineWrapped (first + count)).getD false = false then
          ['\n'] else []) ++
        terminal.lineText last (first + (count + 1 : Nat)) := by
  simp only [joinLines, List.range_succ, List.flatMap_append,
    List.flatMap_singleton, List.append_assoc]

/-- By induction over the rows: what is extracted, and the wrap flag of the
last row. -/
theorem extractRows_eq_joinLines
    (sized : WellSized terminal)
    {first : Int}
    {count : Nat}
    (there : ∀ index : Nat, index ≤ count →
      terminal.HasLine (first + index)) :
    terminal.extractRows first (count + 1) =
      terminal.joinLines (fun row => Row.text (row.take terminal.cols))
        (fun row => Row.text (row.take terminal.cols)) first count := by
  have extracted : (List.range (count + 1)).foldl
      (terminal.extractRow first) ([], false) =
        (terminal.joinLines (fun row => Row.text (row.take terminal.cols))
          (fun row => Row.text (row.take terminal.cols)) first count,
        (terminal.lineWrapped (first + count)).getD false) := by
    induction count with
    | zero =>
        obtain ⟨row, here⟩ := (hasLine_iff sized).mp (there 0 (Nat.le_refl 0))
        simp only [List.range_succ, List.range_zero, List.nil_append,
          List.foldl_cons, List.foldl_nil, extractRow, here, joinLines,
          lineText]
        simp
    | succ count ih =>
        obtain ⟨row, here⟩ := (hasLine_iff sized).mp
          (there (count + 1) (Nat.le_refl _))
        rw [List.range_succ, List.foldl_append, ih
          fun index inside => there index (by omega), joinLines_succ]
        simp only [List.foldl_cons, List.foldl_nil, extractRow, here,
          lineText, Nat.zero_lt_succ, true_and, Option.map_some,
          Option.getD_some]
        split <;> simp
  rw [extractRows, extracted]

end Terminal

namespace Automation

open Terminal (WellSized UnicodeWidth)

variable {terminal : Terminal}

theorem extractSelection_eq_joinLines
    (sized : WellSized terminal)
    {first : Int}
    {count : Nat}
    (there : ∀ index : Nat, index ≤ count →
      terminal.HasLine (first + index)) :
    extractSelection terminal (first, 0)
        (first + count, terminal.cols - 1) =
      (terminal.joinLines (fun row => selectedText row 0 row.length)
        (fun row => selectedText row 0 terminal.cols) first
        count).flatMap String.utf8EncodeChar := by
  have wide := sized.cols
  have ordered : first < first + count ∨
      first = first + count ∧ 0 ≤ terminal.cols - 1 := by
    omega
  have number : (first + count - first + 1).toNat = count + 1 := by omega
  unfold extractSelection
  simp only [ordered, if_true, number, List.pure_def, List.bind_eq_flatMap,
    List.flatMap_map]
  rw [List.range_succ, List.flatMap_append, List.flatMap_singleton,
    List.flatMap_append, List.flatMap_singleton, List.flatMap_assoc]
  refine congrArg _ (congrArg₂ _ (List.flatMap_congr fun index inside => ?_) ?_)
  · have before := List.mem_range.mp inside
    obtain ⟨row, here⟩ := (Terminal.hasLine_iff sized).mp
      (there index (by omega))
    have other : first + (index : Int) ≠ first + count := by omega
    rw [List.flatMap_singleton]
    simp only [here, Terminal.lineText, other, ite_self, if_false,
      not_false_eq_true, ne_eq, true_and, Option.map_some, Option.getD_some]
  · obtain ⟨row, here⟩ := (Terminal.hasLine_iff sized).mp
      (there count (Nat.le_refl _))
    have columns : terminal.cols - 1 + 1 = terminal.cols := by omega
    simp only [here, Terminal.lineText, ite_self, if_true, ne_eq, not_true,
      false_and, if_false, List.append_nil, Option.map_some, Option.getD_some,
      columns]

/-- The encoding of a text determines it. -/
theorem utf8Encode_injective :
    Function.Injective fun text : List Char =>
      text.flatMap String.utf8EncodeChar := by
  intro left right same
  have bytes : (String.ofList left).toByteArray =
      (String.ofList right).toByteArray := by
    simp only [String.toByteArray_ofList, List.utf8Encode]
    exact congrArg List.toByteArray same
  exact String.ofList_injective (String.toByteArray_inj.mp bytes)

/-- Whole lines are copied as `extract_rows` gives them. -/
def CopiesLines (terminal : Terminal) : Prop :=
  ∀ first last : Int, terminal.HasLine first → terminal.HasLine last →
    first ≤ last →
      extractSelection terminal (first, 0) (last, terminal.cols - 1) =
        (terminal.extractRows first (last - first + 1).toNat).flatMap
          String.utf8EncodeChar

/-- In every line the text within the columns does not end in a blank, and in
every line but the lowest it goes on in blanks. -/
def PlainEnds (terminal : Terminal) : Prop :=
  ∀ line row, terminal.viewportLine line = some row →
    row.Trimmed terminal.cols ∧
      (terminal.HasLine (line + 1) → row.Narrow terminal.cols)

theorem copiesLines_iff_joinLines
    (sized : WellSized terminal) :
    CopiesLines terminal ↔
      ∀ (first : Int) (count : Nat),
        (∀ index : Nat, index ≤ count → terminal.HasLine (first + index)) →
          terminal.joinLines (fun row => selectedText row 0 row.length)
              (fun row => selectedText row 0 terminal.cols) first count =
            terminal.joinLines
              (fun row => Terminal.Row.text (row.take terminal.cols))
              (fun row => Terminal.Row.text (row.take terminal.cols)) first
              count := by
  constructor
  · intro copies first count there
    have copied := copies first (first + count)
      (by simpa using there 0 (Nat.zero_le _)) (there count (Nat.le_refl _))
      (by omega)
    have number : (first + count - first + 1).toNat = count + 1 := by omega
    rw [extractSelection_eq_joinLines sized there, number,
      Terminal.extractRows_eq_joinLines sized there] at copied
    exact utf8Encode_injective copied
  · intro joins first last firstThere lastThere ordered
    obtain ⟨count, rfl⟩ : ∃ count : Nat, last = first + count :=
      ⟨(last - first).toNat, by omega⟩
    have there : ∀ index : Nat, index ≤ count →
        terminal.HasLine (first + index) := by
      intro index inside
      have low := firstThere.1
      have high := lastThere.2
      constructor <;> omega
    have number : (first + count - first + 1).toNat = count + 1 := by omega
    rw [extractSelection_eq_joinLines sized there, number,
      Terminal.extractRows_eq_joinLines sized there, joins first count there]

/-- Two narrow glyphs with a blank between them. -/
def spacedLetters : Terminal :=
  (((Terminal.new 2 4 0).apply Terminal.latinAndHan (.input 'a')).apply
    Terminal.latinAndHan (.input ' ')).apply Terminal.latinAndHan (.input 'b')

/-- A letter, a blank, and a wide glyph that the last column has no room
for. -/
def blankBeforeSpacer : Terminal :=
  (((Terminal.new 2 3 0).apply Terminal.latinAndHan (.input 'a')).apply
    Terminal.latinAndHan (.input ' ')).apply Terminal.latinAndHan (.input '界')

end Automation
end Vvmux
