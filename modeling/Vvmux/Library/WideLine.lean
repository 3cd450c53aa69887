import Mathlib.Data.Nat.Basic

/-!
# Lines of narrow and wide glyphs

A line is a row of columns.  A narrow glyph takes one column, a wide glyph
takes two neighbouring ones, and a glyph that is put over one half of a wide
glyph erases the other half.  The pairing of halves is a field of the type,
so every line that can be built has it.
-/

namespace Vvmux

/-- What one column of a line shows. -/
inductive Half (Glyph : Type*) where
  | whole (glyph : Glyph)
  | left (glyph : Glyph)
  | right (glyph : Glyph)
deriving DecidableEq

namespace Half

variable {Glyph : Type*}

def isLeft : Half Glyph → Bool
  | left _ => true
  | _ => false

def isRight : Half Glyph → Bool
  | right _ => true
  | _ => false

theorem exists_of_isLeft
    {half : Half Glyph}
    (isLeft : half.isLeft = true) : ∃ glyph, half = .left glyph := by
  cases half with
  | whole glyph => simp [Half.isLeft] at isLeft
  | left glyph => exact ⟨glyph, rfl⟩
  | right glyph => simp [Half.isLeft] at isLeft

end Half

/-- A line whose left and right halves stand next to each other. -/
structure WideLine (Glyph : Type*) where
  half : Nat → Half Glyph
  paired : ∀ column glyph,
    half column = .left glyph ↔ half (column + 1) = .right glyph
  first : (half 0).isRight = false

namespace WideLine

variable {Glyph : Type*}

/-- The line of narrow copies of one glyph. -/
def fill (glyph : Glyph) : WideLine Glyph where
  half := fun _ => .whole glyph
  paired := by simp
  first := rfl

/-- The columns that lose their glyph when `column` is overwritten. -/
def Touched (line : WideLine Glyph) (column other : Nat) : Prop :=
  other = column ∨
    (line.half column).isLeft = true ∧ other = column + 1 ∨
    (line.half column).isRight = true ∧ other + 1 = column

instance
    (line : WideLine Glyph)
    (column other : Nat) : Decidable (line.Touched column other) :=
  inferInstanceAs (Decidable (_ ∨ _ ∧ _ ∨ _ ∧ _))

theorem isRight_succ
    (line : WideLine Glyph)
    (column : Nat) :
    (line.half (column + 1)).isRight = (line.half column).isLeft := by
  cases left : line.half column with
  | left glyph =>
      rw [(line.paired column glyph).1 left]
      rfl
  | whole glyph | right glyph =>
      cases right : line.half (column + 1) with
      | right other =>
          have conflict := (line.paired column other).2 right
          rw [left] at conflict
          simp at conflict
      | _ => rfl

theorem not_isRight_of_isLeft
    (line : WideLine Glyph)
    {column : Nat}
    (isLeft : (line.half column).isLeft = true) :
    (line.half column).isRight = false := by
  obtain ⟨glyph, shown⟩ := Half.exists_of_isLeft isLeft
  rw [shown]
  rfl

variable {other : Nat}

/-- Overwriting one half of a wide glyph touches both of its halves. -/
theorem touched_pair
    (line : WideLine Glyph)
    (column : Nat)
    (isLeft : (line.half other).isLeft = true) :
    line.Touched column other ↔ line.Touched column (other + 1) := by
  have right : (line.half (other + 1)).isRight = true := by
    rw [line.isRight_succ, isLeft]
  constructor
  · intro touched
    rcases touched with same | ⟨leftColumn, next⟩ | ⟨isRight, next⟩
    · subst same
      exact Or.inr (Or.inl ⟨isLeft, rfl⟩)
    · subst next
      have notRight := line.not_isRight_of_isLeft isLeft
      rw [line.isRight_succ, leftColumn] at notRight
      simp at notRight
    · exact Or.inl next
  · intro touched
    rcases touched with same | ⟨leftColumn, next⟩ | ⟨isRight, next⟩
    · subst same
      exact Or.inr (Or.inr ⟨right, rfl⟩)
    · exact Or.inl (Nat.succ.inj next)
    · subst next
      rw [line.isRight_succ] at isRight
      have notRight := line.not_isRight_of_isLeft isRight
      rw [right] at notRight
      simp at notRight

/-- The line after `column` and the other half of its glyph are erased. -/
def split
    (blank : Glyph)
    (line : WideLine Glyph)
    (column : Nat) : WideLine Glyph where
  half := fun other =>
    if line.Touched column other then .whole blank else line.half other
  paired := by
    intro other glyph
    constructor
    · intro shown
      split at shown
      · simp at shown
      · rename_i untouched
        have isLeft : (line.half other).isLeft = true := by
          rw [shown]
          rfl
        rw [line.touched_pair column isLeft] at untouched
        rw [if_neg untouched]
        exact (line.paired other glyph).1 shown
    · intro shown
      split at shown
      · simp at shown
      · rename_i untouched
        have left := (line.paired other glyph).2 shown
        have isLeft : (line.half other).isLeft = true := by
          rw [left]
          rfl
        rw [← line.touched_pair column isLeft] at untouched
        rw [if_neg untouched]
        exact left
  first := by
    split
    · rfl
    · exact line.first

/-- Replace the narrow glyph of one column by another narrow glyph. -/
def replace
    (line : WideLine Glyph)
    (column : Nat)
    (old new : Glyph)
    (narrow : line.half column = .whole old) : WideLine Glyph where
  half := fun other => if other = column then .whole new else line.half other
  paired := by
    intro other glyph
    have before := line.paired other glyph
    by_cases same : other = column
    · subst same
      rw [narrow] at before
      simpa using before
    · by_cases next : other + 1 = column
      · subst next
        rw [narrow] at before
        simpa using before
      · simpa [same, next] using before
  first := by
    by_cases zero : 0 = column
    · simp [zero, Half.isRight]
    · simpa [zero] using line.first

/-- Replace two neighbouring narrow glyphs by one wide glyph. -/
def join
    (line : WideLine Glyph)
    (column : Nat)
    (old next new : Glyph)
    (narrow : line.half column = .whole old)
    (narrowNext : line.half (column + 1) = .whole next) : WideLine Glyph where
  half := fun other =>
    if other = column then .left new
    else if other = column + 1 then .right new
    else line.half other
  paired := by
    intro other glyph
    have before := line.paired other glyph
    by_cases same : other = column
    · subst same
      simp
    · by_cases after : other = column + 1
      · subst after
        rw [narrowNext] at before
        have notColumn : column + 1 + 1 ≠ column := by
          omega
        simpa [notColumn] using before
      · by_cases ahead : other + 1 = column
        · subst ahead
          rw [narrow] at before
          simpa [after] using before
        · have notAfter : other + 1 ≠ column + 1 := by
            omega
          simpa [same, after, ahead] using before
  first := by
    by_cases zero : 0 = column
    · simp [zero, Half.isRight]
    · have notNext : 0 ≠ column + 1 := by
        omega
      simpa [zero, notNext] using line.first

section

variable (blank : Glyph) (line : WideLine Glyph)

theorem split_of_not_touched
    (column : Nat)
    (untouched : ¬ line.Touched column other) :
    (line.split blank column).half other = line.half other := by
  simp only [split]
  rw [if_neg untouched]

theorem split_self
    (column : Nat) : (line.split blank column).half column = .whole blank := by
  simp [split, Touched]

/-- Erasing a further column keeps the columns that are blank already. -/
theorem split_whole
    (column : Nat)
    (narrow : line.half other = .whole blank) :
    (line.split blank column).half other = .whole blank := by
  simp only [split]
  split
  · rfl
  · exact narrow

end

/-- Put one glyph on the line, its first column at `column`. -/
def put
    (blank : Glyph)
    (line : WideLine Glyph)
    (column : Nat)
    (wide : Bool)
    (glyph : Glyph) : WideLine Glyph :=
  if wide then
    ((line.split blank column).split blank (column + 1)).join column
      blank blank glyph
      (split_whole blank _ _ (split_self blank line column))
      (split_self blank _ _)
  else
    (line.split blank column).replace column blank glyph
      (split_self blank line column)

/-- The number of columns a glyph takes. -/
def span (wide : Bool) : Nat :=
  if wide then 2 else 1

section Put

variable (blank : Glyph) (line : WideLine Glyph) (column : Nat)
  (wide : Bool) (glyph : Glyph)

theorem put_self :
    (line.put blank column wide glyph).half column =
      if wide then .left glyph else .whole glyph := by
  cases wide <;> simp [put, join, replace]

/-- A column ahead of the glyph keeps what it shows, unless it is the left
half of the glyph that was cut. -/
theorem put_before
    (before : other < column)
    (notCut : other + 1 = column → (line.half other).isLeft = false) :
    (line.put blank column wide glyph).half other = line.half other := by
  have untouched : ¬ line.Touched column other := by
    rintro (same | ⟨-, next⟩ | ⟨isRight, next⟩)
    · omega
    · omega
    · rw [← next, line.isRight_succ, notCut next] at isRight
      simp at isRight
  have kept := line.split_of_not_touched blank column untouched
  have notSelf : other ≠ column := by
    omega
  cases wide with
  | false => simpa [put, replace, notSelf] using kept
  | true =>
      have farther : ¬ (line.split blank column).Touched (column + 1) other := by
        rintro (same | ⟨-, next⟩ | ⟨-, next⟩)
        all_goals omega
      have notNext : other ≠ column + 1 := by
        omega
      simp only [put, if_true, join, notSelf, if_false, notNext]
      rw [split_of_not_touched _ _ _ farther]
      exact kept

/-- A column behind the glyph keeps what it shows, unless it is the right
half of the glyph that was cut. -/
theorem put_after
    (after : column + span wide ≤ other)
    (notCut : other = column + span wide →
      (line.half other).isRight = false) :
    (line.put blank column wide glyph).half other = line.half other := by
  have notSelf : other ≠ column := by
    cases wide <;> simp [span] at after <;> omega
  cases wide with
  | false =>
      have untouched : ¬ line.Touched column other := by
        rintro (same | ⟨isLeft, next⟩ | ⟨-, next⟩)
        · exact notSelf same
        · have cut := notCut next
          rw [next, line.isRight_succ, isLeft] at cut
          simp at cut
        · simp [span] at after
          omega
      have kept := line.split_of_not_touched blank column untouched
      simpa [put, replace, notSelf] using kept
  | true =>
      have notNext : other ≠ column + 1 := by
        simp [span] at after
        omega
      have untouched : ¬ line.Touched column other := by
        rintro (same | ⟨-, next⟩ | ⟨-, next⟩)
        · exact notSelf same
        · exact notNext next
        · simp [span] at after
          omega
      have farther : ¬ (line.split blank column).Touched (column + 1) other := by
        rintro (same | ⟨isLeft, next⟩ | ⟨-, next⟩)
        · exact notNext same
        · have cut := notCut next
          rw [next, line.isRight_succ] at cut
          have cleared :
              ((line.split blank column).half (column + 1)).isLeft = false := by
            simp only [split]
            split
            · rfl
            · exact cut
          rw [cleared] at isLeft
          simp at isLeft
        · simp [span] at after
          omega
      simp only [put, if_true, join, notSelf, if_false, notNext]
      rw [split_of_not_touched _ _ _ farther]
      exact line.split_of_not_touched blank column untouched

/-- No glyph that is put behind a column makes it a left half. -/
theorem put_not_left
    (before : other < column)
    (notLeft : (line.half other).isLeft = false) :
    ((line.put blank column wide glyph).half other).isLeft = false := by
  rw [line.put_before blank column wide glyph before fun _ => notLeft]
  exact notLeft

/-- Putting a glyph over the right half of a wide glyph erases the left. -/
theorem put_cuts :
    ((line.put blank (column + 1) wide glyph).half column).isLeft = false := by
  cases wide with
  | false =>
      have next := (line.put blank (column + 1) false glyph).isRight_succ column
      rw [← next, put_self]
      rfl
  | true =>
      have next := (line.put blank (column + 1) true glyph).isRight_succ column
      rw [← next, put_self]
      rfl

end Put

end WideLine
end Vvmux
