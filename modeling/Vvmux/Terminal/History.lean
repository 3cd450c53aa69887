import Vvmux.Terminal.Shape

/-!
# The length of the history

Rows enter the history one by one and the oldest leave it at its limit, so the
history never gets shorter, until a call clears it as a whole.
-/

namespace Vvmux
namespace Terminal

/-- The calls that clear the history. -/
def Call.purgesHistory :
    Call → Bool
  | .clearScreen .saved => true
  | .resetState => true
  | _ => false

/-- A step that keeps the limit of the history, and within it the history at
least as long as it was. -/
structure GrowsHistory (before after : Terminal) : Prop where
  limit : after.historyLimit = before.historyLimit
  grows : before.history.length ≤ before.historyLimit →
    before.history.length ≤ after.history.length ∧
      after.history.length ≤ after.historyLimit

namespace GrowsHistory

theorem of_same
    {before after : Terminal}
    (history : after.history = before.history)
    (limit : after.historyLimit = before.historyLimit) :
    GrowsHistory before after := by
  refine ⟨limit, ?_⟩
  intro within
  rw [history, limit]
  exact ⟨le_rfl, within⟩

theorem refl (terminal : Terminal) : GrowsHistory terminal terminal :=
  of_same rfl rfl

theorem trans
    {first second third : Terminal}
    (before : GrowsHistory first second)
    (after : GrowsHistory second third) : GrowsHistory first third := by
  refine ⟨after.limit.trans before.limit, ?_⟩
  intro within
  obtain ⟨longer, still⟩ := before.grows within
  obtain ⟨longest, last⟩ := after.grows still
  exact ⟨longer.trans longest, last⟩

theorem damage
    {before after : Terminal}
    (grows : GrowsHistory before after) : GrowsHistory before after.damage := by
  rw [damage_eq]
  exact ⟨grows.limit, grows.grows⟩

theorem scrollUpOnce
    (terminal : Terminal) : GrowsHistory terminal terminal.scrollUpOnce := by
  refine ⟨rfl, ?_⟩
  intro within
  simp only [Terminal.scrollUpOnce, List.length_drop]
  split
  · rw [List.length_append, List.length_singleton]
    omega
  · omega

variable (terminal : Terminal)

theorem scrollRegionUp
    (count : Nat) : GrowsHistory terminal (terminal.scrollRegionUp count) :=
  scroll_rule (GrowsHistory terminal) (refl terminal)
    (fun _ earlier => earlier.trans (scrollUpOnce _))
    (fun _ _ earlier => damage ⟨earlier.limit, earlier.grows⟩) _ _

theorem scrollRegionDown
    (count : Nat) :
    GrowsHistory terminal (terminal.scrollRegionDown count) :=
  scroll_rule (GrowsHistory terminal) (refl terminal)
    (fun terminal earlier => earlier.trans
      (of_same rfl rfl : GrowsHistory terminal terminal.scrollDownOnce))
    (fun _ _ earlier => damage ⟨earlier.limit, earlier.grows⟩) _ _

theorem lineFeed
    (terminal : Terminal) : GrowsHistory terminal terminal.lineFeed := by
  unfold Terminal.lineFeed
  split
  · exact scrollRegionUp terminal 1
  · exact of_same rfl rfl

theorem nextRow
    (terminal : Terminal) : GrowsHistory terminal terminal.nextRow := by
  have marked : GrowsHistory terminal
      { terminal.markWrapped terminal.cursorRow with cursorCol := 0 } :=
    of_same rfl rfl
  exact marked.trans (lineFeed _)

theorem input
    (unicode : UnicodeWidth)
    (terminal : Terminal)
    (ch : Char) : GrowsHistory terminal (terminal.input unicode ch) := by
  have pending : ∀ start : Terminal, GrowsHistory start start.wrapPending := by
    intro start
    unfold wrapPending
    split
    · exact nextRow start
    · exact refl start
  have wide : ∀ (start : Terminal) width,
      GrowsHistory start (start.wrapWide width) := by
    intro start width
    unfold wrapWide
    split
    · refine trans ?_ (nextRow _)
      exact of_same rfl rfl
    · exact refl start
  have put : ∀ (start : Terminal) width,
      GrowsHistory start (start.putGlyph ch width) := by
    intro start width
    unfold putGlyph untabGlyph
    dsimp only
    split <;> split <;> exact of_same rfl rfl
  unfold Terminal.input
  dsimp only
  split
  · exact damage (of_same rfl rfl)
  · exact damage (((pending _).trans (wide _ _)).trans (put _ _))

theorem clearRowRange
    (row start stop : Nat) :
    GrowsHistory terminal (terminal.clearRowRange row start stop) :=
  damage (of_same rfl rfl)

theorem clearRows
    (start stop : Nat) :
    GrowsHistory terminal (terminal.clearRows start stop) := by
  unfold Terminal.clearRows
  generalize List.range' start (stop - start) = rows
  induction rows generalizing terminal with
  | nil => exact refl terminal
  | cons row rest ih =>
      exact (clearRowRange terminal row 0 _).trans (ih _)

/-- Every call but the two that clear it. -/
theorem apply
    (unicode : UnicodeWidth)
    (terminal : Terminal)
    {call : Call}
    (keeps : call.purgesHistory = false) :
    GrowsHistory terminal (terminal.apply unicode call) := by
  cases call with
  | input ch => exact input unicode terminal ch
  | linefeed => exact lineFeed terminal
  | newline => exact (lineFeed terminal).trans (of_same rfl rfl)
  | putTab count =>
      refine Function.Iterate.rec (GrowsHistory terminal) (refl terminal)
        (fun _ earlier => earlier.trans ?_) count
      unfold putTabOnce
      dsimp only
      split <;> exact of_same rfl rfl
  | insertBlank count | deleteChars count => exact damage (of_same rfl rfl)
  | eraseChars count => exact clearRowRange terminal _ _ _
  | clearLine mode => cases mode <;> exact clearRowRange terminal _ _ _
  | clearScreen mode =>
      cases mode with
      | below =>
          exact (clearRowRange terminal _ _ _).trans (clearRows _ _ _)
      | above =>
          exact (clearRows terminal _ _).trans (clearRowRange _ _ _ _)
      | all => exact damage (of_same rfl rfl)
      | saved => cases keeps
  | scrollUp rows => exact scrollRegionUp terminal rows
  | scrollDown rows => exact scrollRegionDown terminal rows
  | insertBlankLines rows =>
      have scrolled := scrollRegionDown
        { terminal with scrollTop := terminal.cursorRow } rows
      exact ⟨scrolled.limit, scrolled.grows⟩
  | deleteLines rows =>
      have scrolled := scrollRegionUp
        { terminal with scrollTop := terminal.cursorRow } rows
      exact ⟨scrolled.limit, scrolled.grows⟩
  | reverseIndex =>
      simp only [Terminal.apply, reverseIndex]
      split
      · exact scrollRegionDown terminal 1
      · exact of_same rfl rfl
  | resetState => cases keeps
  | privateMode mode enabled =>
      have told : ∀ updated : Terminal, GrowsHistory terminal updated →
          GrowsHistory terminal (updated.push (.modeChange updated.modes)) :=
        fun _ grows => ⟨grows.limit, grows.grows⟩
      simp only [Terminal.apply, updatePrivateMode]
      apply told
      split
      case h_9 =>
        split
        · exact damage (of_same rfl rfl)
        · exact refl terminal
      all_goals exact of_same rfl rfl
  | deviceStatus status =>
      simp only [Terminal.apply, deviceStatus]
      split <;> exact of_same rfl rfl
  | _ => exact of_same rfl rfl

end GrowsHistory

/-! ## The history stays within its limit -/

/-- A step that keeps the limit of the history, and the history within it. -/
structure KeepsLimit (before after : Terminal) : Prop where
  limit : after.historyLimit = before.historyLimit
  within : before.history.length ≤ before.historyLimit →
    after.history.length ≤ after.historyLimit

theorem GrowsHistory.keepsLimit
    {before after : Terminal}
    (grows : GrowsHistory before after) : KeepsLimit before after :=
  ⟨grows.limit, fun within => (grows.grows within).2⟩

/-- A call that clears the history leaves none. -/
theorem history_of_purgesHistory
    (unicode : UnicodeWidth)
    (terminal : Terminal)
    {call : Call}
    (purges : call.purgesHistory = true) :
    (terminal.apply unicode call).history = [] ∧
      (terminal.apply unicode call).historyLimit = terminal.historyLimit := by
  cases call with
  | clearScreen mode =>
      cases mode with
      | saved =>
          simp only [apply, clearScreen]
          split
          · exact ⟨rfl, rfl⟩
          · exact ⟨rfl, rfl⟩
      | _ => cases purges
  | resetState =>
      simp only [apply, resetState]
      rw [damage_eq]
      exact ⟨rfl, rfl⟩
  | _ => cases purges

/-- Every call keeps the history within its limit. -/
theorem KeepsLimit.apply
    (unicode : UnicodeWidth)
    (terminal : Terminal)
    (call : Call) : KeepsLimit terminal (terminal.apply unicode call) := by
  cases purges : call.purgesHistory with
  | false => exact (GrowsHistory.apply unicode terminal purges).keepsLimit
  | true =>
      obtain ⟨empty, limit⟩ := history_of_purgesHistory unicode terminal purges
      refine ⟨limit, ?_⟩
      intro _
      rw [empty]
      exact Nat.zero_le _

end Terminal
end Vvmux
