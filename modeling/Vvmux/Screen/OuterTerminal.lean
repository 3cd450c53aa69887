import Mathlib.Logic.Function.Basic
import Vvmux.Library.WideLine
import Vvmux.Screen.AnsiDiff

/-!
# The outer terminal

A model of the terminal that receives the frames: a cursor that can be
addressed, the rendition that SGR and OSC 8 sequences set, and lines of
narrow and wide glyphs.  The widths of glyphs are the terminal's own.
-/

namespace Vvmux
namespace Screen

/-- The rendition that glyphs are printed with. -/
structure Pen where
  foreground : TerminalColor := .default
  background : TerminalColor := .default
  bold : Bool := false
  dim : Bool := false
  italic : Bool := false
  underline : UnderlineStyle := .none
  underlineColor : TerminalColor := .default
  blink : Bool := false
  inverse : Bool := false
  hidden : Bool := false
  strikeout : Bool := false
  link : Option TerminalHyperlink := none
deriving DecidableEq

/-- The color that a one-number parameter selects, with the parameter that
selects the same target by palette index. -/
def paletteColor (code : Nat) : Option (Nat × TerminalColor) :=
  if code < 38 then some (38, .indexed (UInt8.ofNat (code - 30)))
  else if code = 39 then some (38, .default)
  else if 40 ≤ code ∧ code < 48 then
    some (48, .indexed (UInt8.ofNat (code - 40)))
  else if code = 49 then some (48, .default)
  else if code = 59 then some (58, .default)
  else if 90 ≤ code ∧ code < 98 then
    some (38, .indexed (UInt8.ofNat (code - 90 + 8)))
  else if 100 ≤ code ∧ code < 108 then
    some (48, .indexed (UInt8.ofNat (code - 100 + 8)))
  else none

/-- Set the color that `selector` names. -/
def Pen.setColor (pen : Pen) (selector : Nat) (color : TerminalColor) : Pen :=
  if selector = 38 then { pen with foreground := color }
  else if selector = 48 then { pen with background := color }
  else if selector = 58 then { pen with underlineColor := color }
  else pen

/-- Switch on the attribute that `code` names. -/
def Pen.setAttribute
    (pen : Pen) :
    Nat → Pen
  | 1 => { pen with bold := true }
  | 2 => { pen with dim := true }
  | 3 => { pen with italic := true }
  | 4 => { pen with underline := .single }
  | 5 => { pen with blink := true }
  | 7 => { pen with inverse := true }
  | 8 => { pen with hidden := true }
  | 9 => { pen with strikeout := true }
  | _ => pen

/-- The underline style that `4:kind` names. -/
def underlineKind :
    Nat → UnderlineStyle
  | 1 => .single
  | 2 => .double
  | 3 => .curl
  | 4 => .dotted
  | 5 => .dashed
  | _ => .none

/-- Apply one SGR parameter. -/
def Pen.select
    (pen : Pen) :
    SgrParam → Pen
  | .code code =>
      if code < 30 then pen.setAttribute code
      else
        match paletteColor code with
        | some (selector, color) => pen.setColor selector color
        | none => pen
  | .underline kind => { pen with underline := underlineKind kind }
  | .indexed selector index => pen.setColor selector (.indexed index)
  | .rgb selector red green blue =>
      pen.setColor selector (.rgb red green blue)

/-- Apply the parameters of a sequence that starts with a reset.  SGR leaves
the hyperlink alone. -/
def Pen.sgr (pen : Pen) (parameters : List SgrParam) : Pen :=
  parameters.foldl Pen.select { link := pen.link }

/-- Start a hyperlink; an empty address ends it. -/
def Pen.hyperlink (pen : Pen) (id : Option String) (uri : String) : Pen :=
  { pen with link := if uri = "" then none else some ⟨id, uri⟩ }

/-- A printed glyph with its combining marks and rendition. -/
structure Glyph where
  ch : Char := ' '
  combining : String := ""
  pen : Pen := {}
deriving DecidableEq

/-- The outer terminal. -/
structure OuterTerminal where
  rows : Nat
  columns : Nat
  line : Nat → WideLine Glyph
  pen : Pen
  cursorRow : Nat
  cursorColumn : Nat
  cursorVisible : Bool

namespace OuterTerminal

/-- A terminal that shows nothing. -/
def blank (rows columns : Nat) : OuterTerminal where
  rows := rows
  columns := columns
  line := fun _ => WideLine.fill {}
  pen := {}
  cursorRow := 0
  cursorColumn := 0
  cursorVisible := true

/-- Go to the start of the next line, scrolling at the last one. -/
def wrap (outer : OuterTerminal) : OuterTerminal :=
  if outer.cursorRow + 1 < outer.rows then
    { outer with cursorRow := outer.cursorRow + 1, cursorColumn := 0 }
  else
    { outer with
      cursorColumn := 0
      line := fun row =>
        if row + 1 < outer.rows then outer.line (row + 1)
        else WideLine.fill {} }

/-- Print a glyph of `span` columns where the cursor is. -/
def printHere
    (outer : OuterTerminal)
    (wide : Bool)
    (ch : Char)
    (combining : String) : OuterTerminal :=
  { outer with
    line := Function.update outer.line outer.cursorRow
      ((outer.line outer.cursorRow).put {} outer.cursorColumn wide
        ⟨ch, combining, outer.pen⟩)
    cursorColumn := outer.cursorColumn + WideLine.span wide }

/-- Whether the terminal gives a glyph two columns. -/
def isWide (width : Char → Nat) (ch : Char) : Bool :=
  width ch = 2

/-- Receive one sequence. -/
def apply
    (width : Char → Nat)
    (outer : OuterTerminal) :
    Control → OuterTerminal
  | .address row column =>
      { outer with
        cursorRow := min (row - 1) (outer.rows - 1)
        cursorColumn := min (column - 1) (outer.columns - 1) }
  | .sgr parameters => { outer with pen := outer.pen.sgr parameters }
  | .hyperlink id uri => { outer with pen := outer.pen.hyperlink id uri }
  | .cursorVisible visible => { outer with cursorVisible := visible }
  | .print ch combining =>
      let wide := isWide width ch
      if outer.cursorColumn + WideLine.span wide ≤ outer.columns then
        outer.printHere wide ch combining
      else
        outer.wrap.printHere wide ch combining

/-- Receive a list of sequences. -/
def applyAll
    (width : Char → Nat)
    (outer : OuterTerminal)
    (output : List Control) : OuterTerminal :=
  output.foldl (apply width) outer

/-- Where the cursor is shown.  A hidden cursor is nowhere on the screen. -/
def shownCursor (outer : OuterTerminal) : Option (Nat × Nat) :=
  if outer.cursorVisible then some (outer.cursorRow, outer.cursorColumn)
  else none

/-- Two terminals of one size with the same screen. -/
structure SameScreen (first second : OuterTerminal) : Prop where
  rows : first.rows = second.rows
  columns : first.columns = second.columns
  cells : ∀ row < first.rows, ∀ column < first.columns,
    (first.line row).half column = (second.line row).half column
  cursor : first.shownCursor = second.shownCursor

variable (width : Char → Nat)

@[simp] theorem applyAll_nil
    (outer : OuterTerminal) : outer.applyAll width [] = outer :=
  rfl

@[simp] theorem applyAll_cons
    (outer : OuterTerminal)
    (control : Control)
    (output : List Control) :
    outer.applyAll width (control :: output) =
      (outer.apply width control).applyAll width output :=
  rfl

@[simp] theorem applyAll_append
    (outer : OuterTerminal)
    (first second : List Control) :
    outer.applyAll width (first ++ second) =
      (outer.applyAll width first).applyAll width second := by
  simp [applyAll]

end OuterTerminal

/-- The rendition of a style.  An absent underline color is the default. -/
def Style.pen (style : Style) : Pen where
  foreground := style.foreground
  background := style.background
  bold := style.bold
  dim := style.dim
  italic := style.italic
  underline := style.underline
  underlineColor := style.underlineColor.getD .default
  blink := style.blink
  inverse := style.inverse
  hidden := style.hidden
  strikeout := style.strikeout
  link := style.hyperlink.filter fun link => link.uri ≠ ""

/-! ## What `write_style` sets -/

section

variable (pen : Pen)

theorem select_code
    {code selector : Nat}
    {color : TerminalColor}
    (colorCode : 30 ≤ code)
    (palette : paletteColor code = some (selector, color)) :
    pen.select (.code code) = pen.setColor selector color := by
  simp only [Pen.select, palette]
  rw [if_neg (by omega)]

/-- A color parameter sets the color it was written for. -/
theorem select_writeColor
    (color : TerminalColor)
    (foreground : Bool) :
    pen.select (writeColor color foreground) =
      pen.setColor (if foreground then 38 else 48) color := by
  cases color with
  | default => cases foreground <;> rfl
  | rgb red green blue => rfl
  | indexed index =>
      simp only [writeColor]
      split
      · rename_i small
        have bound : index.toNat < 8 := UInt8.lt_iff_toNat_lt.1 small
        apply select_code
        · cases foreground
          all_goals
            simp only [if_true, Bool.false_eq_true, if_false]
            omega
        · cases foreground
          all_goals
            simp only [paletteColor, if_true, Bool.false_eq_true, if_false]
            split_ifs
            all_goals first | omega | simp
      · split
        · rename_i large small
          have bound : index.toNat < 16 := UInt8.lt_iff_toNat_lt.1 small
          have low : 8 ≤ index.toNat := by
            have := UInt8.lt_iff_toNat_lt.not.1 large
            simpa using this
          have dark : 90 + index.toNat - 8 - 90 + 8 = index.toNat := by
            omega
          have bright : 100 + index.toNat - 8 - 100 + 8 = index.toNat := by
            omega
          apply select_code
          · cases foreground
            all_goals
              simp only [if_true, Bool.false_eq_true, if_false]
              omega
          · cases foreground
            all_goals
              simp only [paletteColor, if_true, Bool.false_eq_true, if_false]
              split_ifs
              all_goals first | omega | simp [dark, bright]
        · rfl

theorem select_writeUnderlineColor
    (color : Option TerminalColor) :
    pen.select (writeUnderlineColor color) =
      { pen with underlineColor := color.getD .default } := by
  cases color with
  | none => rfl
  | some color => cases color <;> rfl

theorem foldl_writeUnderline
    (underline : UnderlineStyle)
    (reset : pen.underline = .none) :
    (writeUnderline underline).foldl Pen.select pen =
      { pen with underline := underline } := by
  cases underline with
  | none =>
      cases pen
      cases reset
      rfl
  | _ => rfl

/-- A flag's parameter sets the flag in a rendition that lacks it. -/
theorem foldl_writeFlag
    (flag : Bool)
    (code : Nat)
    (set : Pen → Bool → Pen)
    (sets : pen.select (.code code) = set pen true)
    (lacks : set pen false = pen) :
    (writeFlag flag code).foldl Pen.select pen = set pen flag := by
  cases flag with
  | false => exact lacks.symm
  | true => exact sets

/-- The SGR parameters of a style set exactly its rendition. -/
theorem sgr_parameters
    (style : Style) :
    pen.sgr style.parameters = { style.pen with link := pen.link } := by
  simp only [Pen.sgr, Style.parameters, List.foldl_append, List.foldl_cons,
    List.foldl_nil]
  rw [foldl_writeFlag _ _ 1 (fun pen flag => { pen with bold := flag })
      rfl rfl,
    foldl_writeFlag _ _ 2 (fun pen flag => { pen with dim := flag })
      rfl rfl,
    foldl_writeFlag _ _ 3 (fun pen flag => { pen with italic := flag })
      rfl rfl,
    foldl_writeUnderline _ _ rfl,
    foldl_writeFlag _ _ 5 (fun pen flag => { pen with blink := flag })
      rfl rfl,
    foldl_writeFlag _ _ 7 (fun pen flag => { pen with inverse := flag })
      rfl rfl,
    foldl_writeFlag _ _ 8 (fun pen flag => { pen with hidden := flag })
      rfl rfl,
    foldl_writeFlag _ _ 9 (fun pen flag => { pen with strikeout := flag })
      rfl rfl,
    select_writeColor, select_writeColor, select_writeUnderlineColor]
  rfl

end

/-- Whatever the rendition was, `write_style` sets it to the style's, and
touches nothing else. -/
theorem applyAll_writeStyle
    (width : Char → Nat)
    (outer : OuterTerminal)
    (style : Style) :
    outer.applyAll width (writeStyle style) =
      { outer with pen := style.pen } := by
  have closed :
      (outer.pen.hyperlink none "").sgr style.parameters =
        { style.pen with link := none } := by
    rw [sgr_parameters]
    rfl
  unfold writeStyle
  rw [OuterTerminal.applyAll_append]
  simp only [OuterTerminal.applyAll_cons, OuterTerminal.applyAll_nil,
    OuterTerminal.apply, closed]
  cases linked : style.hyperlink with
  | none => simp [Style.pen, linked]
  | some link =>
      by_cases empty : link.uri = ""
      · simp [Style.pen, linked, empty, OuterTerminal.apply, Pen.hyperlink,
          Option.filter]
      · simp [Style.pen, linked, empty, OuterTerminal.apply, Pen.hyperlink,
          Option.filter]

/-- The cached style is the rendition of the terminal. -/
def CachedBy (style : Option Style) (outer : OuterTerminal) : Prop :=
  ∀ cached, style = some cached → outer.pen = cached.pen

/-- After the style sequences of a cell the rendition is the cell's. -/
theorem applyAll_styleChange
    (width : Char → Nat)
    {outer : OuterTerminal}
    {style : Option Style}
    (cachedBy : CachedBy style outer)
    (next : Style) :
    outer.applyAll width (styleChange style next) =
      { outer with pen := next.pen } := by
  unfold styleChange
  split
  · rename_i same
    rw [OuterTerminal.applyAll_nil, ← cachedBy next same]
  · exact applyAll_writeStyle width outer next

end Screen
end Vvmux
