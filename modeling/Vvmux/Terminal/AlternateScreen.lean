import Vvmux.Terminal.Shape

/-!
# The alternate screen

Private mode 1049 exchanges two screens.  While the alternate one is shown, no
call but a reset, a resize and the switch back writes the primary one.
-/

namespace Vvmux
namespace Terminal

/-- What only a switch of the screens writes on the alternate screen. -/
def spared (terminal : Terminal) : List Row × List Bool × Bool :=
  (terminal.alternateGrid, terminal.alternateGridWrapped,
    terminal.alternateScreen)

/-- Whether a call may bring back or drop what the alternate screen covers. -/
def Call.uncovers :
    Call → Bool
  | .resetState => true
  | .resize _ _ => true
  | .privateMode mode enabled => mode = 1049 && !enabled
  | _ => false

variable (terminal : Terminal)

theorem spared_damage : terminal.damage.spared = terminal.spared := by
  rw [damage_eq]
  rfl

theorem Scrolled.spared
    {before after : Terminal}
    (scrolled : Scrolled before after) : after.spared = before.spared := by
  rw [scrolled.frame]
  rfl

theorem spared_lineFeed : terminal.lineFeed.spared = terminal.spared := by
  unfold lineFeed
  split
  · exact (scrolled_scrollRegionUp terminal 1).spared
  · rfl

theorem spared_input (unicode : UnicodeWidth) (ch : Char) :
    (terminal.input unicode ch).spared = terminal.spared := by
  have nextRow : ∀ start : Terminal, start.nextRow.spared = start.spared :=
    fun start => spared_lineFeed _
  have pending : terminal.wrapPending.spared = terminal.spared := by
    unfold wrapPending
    split
    · exact nextRow terminal
    · rfl
  have wide : ∀ (start : Terminal) width,
      (start.wrapWide width).spared = start.spared := by
    intro start width
    unfold wrapWide
    split
    · exact nextRow _
    · rfl
  have put : ∀ (start : Terminal) width,
      (start.putGlyph ch width).spared = start.spared := by
    intro start width
    unfold putGlyph untabGlyph
    dsimp only
    split <;> split <;> rfl
  unfold input
  dsimp only
  split
  · exact spared_damage _
  · rw [spared_damage, put, wide, pending]

theorem spared_clearRows (start stop : Nat) :
    (terminal.clearRows start stop).spared = terminal.spared := by
  unfold clearRows
  generalize List.range' start (stop - start) = rows
  induction rows generalizing terminal with
  | nil => rfl
  | cons row rest ih => exact (ih _).trans (spared_damage _)

theorem spared_updatePrivateMode
    {mode : Nat}
    {enabled : Bool}
    (alternate : terminal.alternateScreen = true)
    (stays : (decide (mode = 1049) && !enabled) = false) :
    (terminal.updatePrivateMode mode enabled).spared = terminal.spared := by
  unfold updatePrivateMode
  split
  case h_9 =>
    have same : enabled = terminal.alternateScreen := by simp_all
    simp only [same, ne_eq, not_true_eq_false, if_false]
    rfl
  all_goals rfl

/-- No other call writes what the alternate screen covers. -/
theorem spared_apply
    (unicode : UnicodeWidth)
    (alternate : terminal.alternateScreen = true)
    {call : Call}
    (covers : call.uncovers = false) :
    (terminal.apply unicode call).spared = terminal.spared := by
  cases call with
  | input ch => exact spared_input terminal unicode ch
  | linefeed | newline => exact spared_lineFeed terminal
  | putTab count =>
      refine Function.Iterate.rec
        (fun after : Terminal => after.spared = terminal.spared) rfl
        (fun _ same => Eq.trans ?_ same) count
      unfold putTabOnce
      dsimp only
      split <;> rfl
  | insertBlank count | deleteChars count => exact spared_damage _
  | clearScreen mode =>
      cases mode with
      | saved =>
          simp only [apply, clearScreen]
          split <;> rfl
      | below => exact (spared_clearRows _ _ _).trans (spared_damage _)
      | above => exact (spared_damage _).trans (spared_clearRows _ _ _)
      | all => exact spared_damage _
  | eraseChars count => exact spared_damage _
  | clearLine mode => cases mode <;> exact spared_damage _
  | scrollUp rows => exact (scrolled_scrollRegionUp terminal rows).spared
  | scrollDown rows => exact (scrolled_scrollRegionDown terminal rows).spared
  | insertBlankLines rows => exact (scrolled_scrollRegionDown _ rows).spared
  | deleteLines rows => exact (scrolled_scrollRegionUp _ rows).spared
  | reverseIndex =>
      simp only [apply, reverseIndex]
      split
      · exact (scrolled_scrollRegionDown terminal 1).spared
      · rfl
  | privateMode mode enabled =>
      exact spared_updatePrivateMode terminal alternate covers
  | deviceStatus status =>
      simp only [apply, deviceStatus]
      split <;> rfl
  | resetState | resize => cases covers
  | _ => rfl

theorem spared_switch
    (enabled : Bool)
    (differs : enabled ≠ terminal.alternateScreen) :
    let after := terminal.updatePrivateMode 1049 enabled
    after.spared = (terminal.grid, terminal.gridWrapped, enabled) ∧
      after.grid = terminal.alternateGrid ∧
      after.gridWrapped = terminal.alternateGridWrapped := by
  simp only [updatePrivateMode]
  rw [if_pos differs, damage_eq]
  exact ⟨rfl, rfl, rfl⟩

theorem spared_run
    (unicode : UnicodeWidth)
    {calls : List Call}
    (alternate : terminal.alternateScreen = true)
    (covers : ∀ call ∈ calls, call.uncovers = false) :
    (calls.foldl (apply unicode) terminal).spared = terminal.spared := by
  induction calls generalizing terminal with
  | nil => rfl
  | cons call rest ih =>
      obtain ⟨first, later⟩ := List.forall_mem_cons.mp covers
      have same := spared_apply terminal unicode alternate first
      have still : (terminal.apply unicode call).alternateScreen = true :=
        (congrArg (·.2.2) same).trans alternate
      exact (ih _ still later).trans same

/-- Leaving the alternate screen shows what the primary screen showed when it
was left, whatever was called in between. -/
theorem alternate_screen_restores_primary
    (unicode : UnicodeWidth)
    (primary : terminal.alternateScreen = false)
    {calls : List Call}
    (covers : ∀ call ∈ calls, call.uncovers = false) :
    let entered := terminal.apply unicode (.privateMode 1049 true)
    let after := (calls.foldl (apply unicode) entered).apply unicode
      (.privateMode 1049 false)
    after.grid = terminal.grid ∧ after.gridWrapped = terminal.gridWrapped ∧
      after.alternateScreen = false := by
  intro entered after
  obtain ⟨covered, -⟩ :=
    spared_switch terminal true (by rw [primary]; decide)
  have alternate : entered.alternateScreen = true := congrArg (·.2.2) covered
  have kept := (spared_run entered unicode alternate covers).trans covered
  have still : (calls.foldl (apply unicode) entered).alternateScreen = true :=
    congrArg (·.2.2) kept
  obtain ⟨shown, grid, wrapped⟩ := spared_switch
    (calls.foldl (apply unicode) entered) false
    (by rw [still]; decide)
  exact ⟨grid.trans (congrArg (·.1) kept),
    wrapped.trans (congrArg (·.2.1) kept), congrArg (·.2.2) shown⟩

/-- A program that fills the alternate screen and clears it. -/
theorem alternate_screen_restores_primary_cleared :
    let shown := (Terminal.new 2 4 10).apply latinAndHan (.input 'm')
    let after := ([.input 'a', .scrollUp 1, .clearScreen .all].foldl
      (apply latinAndHan)
        (shown.apply latinAndHan (.privateMode 1049 true))).apply
          latinAndHan (.privateMode 1049 false)
    after.grid = shown.grid ∧ after.gridWrapped = shown.gridWrapped ∧
      after.alternateScreen = false :=
  alternate_screen_restores_primary _ latinAndHan rfl (by decide)

end Terminal
end Vvmux
