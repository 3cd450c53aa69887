import Mathlib.Data.List.Infix
import Mathlib.Data.Nat.Find

/-!
# Occurrences of a word in a growing text

The first place where a word occurs in a text, and how long a beginning of the
word the text ends with.  A text that grows at its end keeps its first
occurrence.  Where it had none, a new one reaches behind the old end, and it
starts where the text ended with a beginning of the word.
-/

namespace Vvmux
namespace Library

variable {Item : Type*}

/-- The word stands in the text from `start` on. -/
def OccursAt (text word : List Item) (start : Nat) : Prop :=
  start + word.length ≤ text.length ∧ (text.drop start).take word.length = word

instance
    [DecidableEq Item]
    (text word : List Item)
    (start : Nat) : Decidable (OccursAt text word start) :=
  inferInstanceAs (Decidable (_ ∧ _))

variable {text word others : List Item} {start : Nat} {first : Item}

theorem occursAt_iff
    {start : Nat} :
    OccursAt text word start ↔
      ∃ before after, text = before ++ word ++ after ∧ before.length = start := by
  constructor
  · rintro ⟨inside, here⟩
    refine ⟨text.take start, text.drop (start + word.length), ?_, ?_⟩
    · have rest : text.drop (start + word.length) =
          (text.drop start).drop word.length := by
        rw [List.drop_drop]
      calc
        text = text.take start ++ text.drop start :=
          (List.take_append_drop start text).symm
        _ = text.take start ++ ((text.drop start).take word.length ++
            (text.drop start).drop word.length) :=
          congrArg _ (List.take_append_drop _ _).symm
        _ = text.take start ++ word ++ text.drop (start + word.length) := by
          rw [here, rest, List.append_assoc]
    · rw [List.length_take]
      omega
  · rintro ⟨before, after, rfl, rfl⟩
    constructor
    · simp only [List.length_append]
      omega
    · rw [List.append_assoc, List.drop_left, List.take_left]

/-- A text that grows at its end keeps its occurrences. -/
theorem OccursAt.append
    (occurs : OccursAt text word start)
    (more : List Item) : OccursAt (text ++ more) word start := by
  obtain ⟨before, after, rfl, same⟩ := occursAt_iff.mp occurs
  exact occursAt_iff.mpr ⟨before, after ++ more, by
    rw [List.append_assoc (before ++ word)], same⟩

/-- An occurrence that ends inside of the old text was there before. -/
theorem OccursAt.of_append
    {text word more : List Item}
    (occurs : OccursAt (text ++ more) word start)
    (inside : start + word.length ≤ text.length) :
    OccursAt text word start := by
  refine ⟨inside, ?_⟩
  have here := occurs.2
  rw [List.drop_append_of_le_length (by omega),
    List.take_append_of_le_length (by rw [List.length_drop]; omega)] at here
  exact here

/-- Occurrences behind a cut are those of the rest. -/
theorem occursAt_drop
    {cut start : Nat}
    (inside : cut ≤ text.length) :
    OccursAt (text.drop cut) word start ↔ OccursAt text word (cut + start) := by
  unfold OccursAt
  rw [List.length_drop, List.drop_drop]
  constructor
  · rintro ⟨room, here⟩
    exact ⟨by omega, here⟩
  · rintro ⟨room, here⟩
    exact ⟨by omega, here⟩

/-! ## A word that its first item marks

The first item stands nowhere else in the word, so that no occurrence runs
across a place where that item begins something. -/

theorem OccursAt.getElem?
    (occurs : OccursAt text word start)
    {offset : Nat}
    (inside : offset < word.length) :
    (text)[start + offset]? = (word)[offset]? := by
  have here := occurs.2
  calc
    (text)[start + offset]? = (text.drop start)[offset]? := by
      rw [List.getElem?_drop]
    _ = ((text.drop start).take word.length)[offset]? := by
      rw [List.getElem?_take_of_lt inside]
    _ = (word)[offset]? := by rw [here]

/-- An occurrence is on one side of a place where the first item stands. -/
theorem OccursAt.beside
    {start place : Nat}
    (once : first ∉ others)
    (occurs : OccursAt text (first :: others) start)
    (marked : (text)[place]? = some first) :
    start + (first :: others).length ≤ place ∨ place ≤ start := by
  by_contra across
  rw [not_or, Nat.not_le, Nat.not_le] at across
  obtain ⟨offset, rfl⟩ : ∃ offset, place = start + (offset + 1) :=
    ⟨place - start - 1, by omega⟩
  rw [occurs.getElem? (by omega), List.getElem?_cons_succ] at marked
  exact once (List.mem_of_getElem? marked)

variable {front rest : List Item}

/-- A front that begins with the first item, and only begins with it, adds no
occurrence unless the word is what it begins with. -/
theorem not_occursAt_append
    (onlyThere : ∀ place, (front)[place]? = some first → place = 0)
    (fits : (first :: others).length ≤ front.length)
    (differs : front.take (first :: others).length ≠ first :: others)
    (nowhere : ∀ start, ¬ OccursAt rest (first :: others) start)
    (start : Nat) : ¬ OccursAt (front ++ rest) (first :: others) start := by
  intro occurs
  by_cases behind : front.length ≤ start
  · have later : start = front.length + (start - front.length) := by omega
    rw [later, ← occursAt_drop (by rw [List.length_append]; omega),
      List.drop_left] at occurs
    exact nowhere _ occurs
  · have begins := occurs.getElem? (Nat.succ_pos others.length)
    rw [Nat.add_zero, List.getElem?_append_left (Nat.not_le.mp behind),
      List.getElem?_cons_zero] at begins
    obtain rfl := onlyThere start begins
    refine differs ?_
    have here := occurs.2
    rwa [List.drop_zero, List.take_append_of_le_length fits] at here

/-- Where the first item begins what follows, occurrences are those of the two
parts. -/
theorem not_occursAt_append_of_marked
    (once : first ∉ others)
    (marked : (rest)[0]? = some first)
    (nowhereIn : ∀ start, ¬ OccursAt front (first :: others) start)
    (nowhere : ∀ start, ¬ OccursAt rest (first :: others) start)
    (start : Nat) : ¬ OccursAt (front ++ rest) (first :: others) start := by
  intro occurs
  have seam : (front ++ rest)[front.length]? = some first := by
    rw [List.getElem?_append_right le_rfl, Nat.sub_self]
    exact marked
  rcases occurs.beside once seam with before | behind
  · exact nowhereIn start (occurs.of_append before)
  · have later : start = front.length + (start - front.length) := by omega
    rw [later, ← occursAt_drop (by rw [List.length_append]; omega),
      List.drop_left] at occurs
    exact nowhere _ occurs

/-! ## The first occurrence -/

section First

variable [DecidableEq Item]

/-- The first place where the word occurs. -/
def firstOccurrence (text word : List Item) : Option Nat :=
  (List.range (text.length + 1 - word.length)).find? fun start =>
    (text.drop start).take word.length = word

variable {text word : List Item}

theorem firstOccurrence_eq_some_iff
    {start : Nat} :
    firstOccurrence text word = some start ↔
      OccursAt text word start ∧
        ∀ earlier < start, ¬ OccursAt text word earlier := by
  unfold firstOccurrence OccursAt
  rw [List.find?_range_eq_some]
  simp only [decide_eq_true_eq, List.mem_range, Bool.not_eq_true',
    decide_eq_false_iff_not]
  constructor
  · rintro ⟨here, inside, first⟩
    refine ⟨⟨by omega, here⟩, ?_⟩
    rintro earlier before ⟨_, there⟩
    exact first earlier before there
  · rintro ⟨⟨inside, here⟩, first⟩
    refine ⟨here, by omega, ?_⟩
    intro earlier before there
    exact first earlier before ⟨by omega, there⟩

theorem firstOccurrence_eq_none_iff
    {text word : List Item} :
    firstOccurrence text word = none ↔
      ∀ start, ¬ OccursAt text word start := by
  unfold firstOccurrence OccursAt
  rw [List.find?_range_eq_none]
  simp only [Bool.not_eq_true', decide_eq_false_iff_not]
  constructor
  · rintro nowhere start ⟨inside, here⟩
    exact nowhere start (by omega) here
  · intro nowhere start inside here
    by_cases fits : start + word.length ≤ text.length
    · exact nowhere start ⟨fits, here⟩
    · -- Only the empty word has this many places.
      omega

theorem firstOccurrence_append_of_some
    {start : Nat}
    (found : firstOccurrence text word = some start)
    (more : List Item) : firstOccurrence (text ++ more) word = some start := by
  obtain ⟨occurs, first⟩ := firstOccurrence_eq_some_iff.mp found
  refine firstOccurrence_eq_some_iff.mpr ⟨occurs.append more, ?_⟩
  intro earlier before there
  have room := occurs.1
  exact first earlier before (there.of_append (by omega))

/-- A new first occurrence reaches behind the old end. -/
theorem length_lt_of_firstOccurrence_append
    {text word more : List Item}
    {start : Nat}
    (nowhere : firstOccurrence text word = none)
    (found : firstOccurrence (text ++ more) word = some start) :
    text.length < start + word.length := by
  by_contra inside
  have occurs := (firstOccurrence_eq_some_iff.mp found).1
  exact firstOccurrence_eq_none_iff.mp nowhere start
    (occurs.of_append (by omega))

/-- What stands ahead of every occurrence only moves the first one. -/
theorem firstOccurrence_drop
    {cut : Nat}
    (inside : cut ≤ text.length)
    (behind : ∀ start < cut, ¬ OccursAt text word start) :
    firstOccurrence text word =
      (firstOccurrence (text.drop cut) word).map (cut + ·) := by
  cases rest : firstOccurrence (text.drop cut) word with
  | none =>
      rw [Option.map_none, firstOccurrence_eq_none_iff]
      intro start there
      by_cases before : start < cut
      · exact behind start before there
      · have later : start = cut + (start - cut) := by omega
        rw [later, ← occursAt_drop inside] at there
        exact firstOccurrence_eq_none_iff.mp rest _ there
  | some found =>
      obtain ⟨occurs, first⟩ := firstOccurrence_eq_some_iff.mp rest
      rw [Option.map_some, firstOccurrence_eq_some_iff]
      refine ⟨(occursAt_drop inside).mp occurs, ?_⟩
      intro earlier before there
      by_cases ahead : earlier < cut
      · exact behind earlier ahead there
      · have later : earlier = cut + (earlier - cut) := by omega
        rw [later, ← occursAt_drop inside] at there
        exact first (earlier - cut) (by omega) there

end First

/-! ## A word that has only begun -/

section Begun

variable [DecidableEq Item]

/-- How long a beginning of the word, but not all of it, the text ends
with. -/
def begunLength (text word : List Item) : Nat :=
  Nat.findGreatest (fun length => word.take length <:+ text)
    (min text.length (word.length - 1))

theorem begunLength_le
    (text word : List Item) :
    begunLength text word ≤ text.length ∧
      begunLength text word ≤ word.length - 1 := by
  have bound := Nat.findGreatest_le
    (P := fun length => word.take length <:+ text)
    (min text.length (word.length - 1))
  unfold begunLength
  omega

/-- An occurrence that ends in what is to come starts in the held end. -/
theorem le_start_of_occursAt_append
    {text word more : List Item}
    {start : Nat}
    (nowhere : firstOccurrence text word = none)
    (occurs : OccursAt (text ++ more) word start) :
    text.length - begunLength text word ≤ start := by
  by_contra early
  have begun := (begunLength_le text word).1
  have across : text.length < start + word.length := by
    by_contra inside
    exact firstOccurrence_eq_none_iff.mp nowhere start
      (occurs.of_append (by omega))
  have isSuffix : word.take (text.length - start) <:+ text := by
    have here := occurs.2
    rw [List.drop_append_of_le_length (by omega)] at here
    refine ⟨text.take start, ?_⟩
    have whole : word.take (text.length - start) = text.drop start := by
      rw [← here, List.take_take, Nat.min_eq_left (by omega),
        List.take_append_of_le_length (by rw [List.length_drop])]
      exact List.take_of_length_le (by rw [List.length_drop])
    rw [whole, List.take_append_drop]
  have longest := Nat.le_findGreatest
    (P := fun length => word.take length <:+ text)
    (n := min text.length (word.length - 1)) (by omega) isSuffix
  unfold begunLength at early
  omega

end Begun

end Library
end Vvmux
