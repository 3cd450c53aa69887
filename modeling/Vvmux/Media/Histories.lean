import Vvmux.Library.Observed
import Vvmux.Media.Ingested

/-!
# Histories of sources

A source is named by its key and its number, so that a later source under the
same key has a history of its own.  Properties of a source beside its history
are carried over steps as the source evolves.
-/

namespace Vvmux
namespace Media

open Library

variable (protocol : Protocol)

/-! ## Numbers of sources -/

/-- Each source has the number it was created under. -/
def Numbered (state : State) : Prop :=
  ∀ key source, state.sources.find? key = some source →
    source.serial < state.created

theorem Change.created
    {before after : State}
    (change : Change before after) : after.created = before.created := by
  cases change with
  | quiet quiet => exact quiet.created
  | _ => rfl

theorem Numbered.change
    {before after : State}
    (numbered : Numbered before)
    (change : Change before after) : Numbered after := by
  intro key source found
  obtain ⟨old, there, steady⟩ := change.sourcesKept.origin key source found
  rw [change.created, steady.serial]
  exact numbered key old there

theorem created_changes
    {before after : State}
    (changes : Changes before after) : after.created = before.created := by
  induction changes with
  | refl => rfl
  | tail _ change ih =>
      exact change.created.trans ih

theorem Numbered.updateSource
    {state : State}
    (numbered : Numbered state)
    (key : SourceKey)
    (change : Source → Source)
    (same : ∀ source, (change source).serial = source.serial) :
    Numbered (state.updateSource key change) := by
  intro other source found
  simp only [State.updateSource, OrderedMap.find?_modify] at found
  split at found
  · obtain ⟨old, there, rfl⟩ := Option.map_eq_some_iff.mp found
    rw [same]
    exact numbered other old there
  · exact numbered other source found

theorem Numbered.performs
    {before after : State}
    {deed : Deed}
    (numbered : Numbered before)
    (performs : Performs protocol before deed after) :
    before.created ≤ after.created ∧ Numbered after := by
  cases performs with
  | createSource producer creation maximum token now valid room small unused =>
      refine ⟨Nat.le_succ _, ?_⟩
      intro key source found
      simp only [State.enterSource, OrderedMap.find?_insert] at found
      split at found
      · cases found
        exact Nat.lt_succ_self _
      · exact Nat.lt_succ_of_lt (numbered key source found)
  | destroySource gone _ _ =>
      refine ⟨Nat.le_refl _, ?_⟩
      intro key source found
      simp only [State.dropSource, OrderedMap.find?_erase] at found
      split at found
      · cases found
      · exact numbered key source found
  | attachChannel token ticket source found
  | flushSource key source epoch causation found =>
      exact ⟨Nat.le_refl _, numbered.updateSource _ _ fun _ => rfl⟩
  | endSource key source epoch causation found =>
      exact ⟨Nat.le_refl _, numbered.updateSource _ _ fun source =>
        (source.drifts_finished epoch causation).raster.serial⟩
  | _ => exact ⟨Nat.le_refl _, numbered⟩

/-- Sources stay numbered, and numbers are not given away again. -/
theorem numbered_presenterStep
    {presenter after : Presenter}
    {event : PresenterEvent}
    (stepped : presenterStep protocol presenter event = some after)
    (numbered : Numbered presenter.shared) :
    presenter.shared.created ≤ after.shared.created ∧
      Numbered after.shared := by
  rcases does_presenterStep protocol stepped with
    changes | ⟨_, middle, -, performs, changes⟩
  · exact ⟨(created_changes changes).ge,
      Changes.preserve (fun _ _ => Numbered.change) numbered changes⟩
  · obtain ⟨counts, entered⟩ := numbered.performs protocol performs
    exact ⟨counts.trans (created_changes changes).ge,
      Changes.preserve (fun _ _ => Numbered.change) entered changes⟩

/-! ## Sources and their histories -/

/-- A source by its key and its number. -/
abbrev SourceName := SourceKey × Nat

variable {Note : Type}

/-- What holds of each source and its history. -/
def Recorded
    (holds : Source → List Note → Prop)
    (state : State)
    (notes : List (SourceName × Note)) : Prop :=
  ∀ key source, state.sources.find? key = some source →
    holds source (concerning (key, source.serial) notes)

section

variable {holds : Source → List Note → Prop} {before after : State}
  {notes : List (SourceName × Note)} (recorded : Recorded holds before notes)
include recorded

variable {relation : Source → Source → Prop}

/-- Sources that evolve, as what holds is kept. -/
theorem Recorded.evolves
    (evolves : Evolves relation before after)
    (same : ∀ one two, relation one two → two.serial = one.serial)
    (kept : ∀ one two history, relation one two → holds one history →
      holds two history) :
    Recorded holds after notes := by
  intro key source found
  obtain ⟨old, there, related⟩ := evolves key source found
  rw [same old source related]
  exact kept old source _ related (recorded key old there)

/-- A source that is born has no history. -/
theorem Recorded.born
    (born : Born before after)
    (past : ∀ note ∈ notes, note.1.2 < before.created)
    (fresh : ∀ source : Source, source.retained = none →
      source.pendingKeyframeReason = none → holds source []) :
    Recorded holds after notes := by
  cases born with
  | none => exact recorded
  | create key source token ticket unused serial bare quiet =>
      intro other current found
      simp only [State.enterSource, OrderedMap.find?_insert] at found
      split at found
      · cases found
        rw [concerning_eq_nil]
        · exact fresh source bare quiet
        · intro note noted same
          have earlier := past note noted
          rw [same, ← serial] at earlier
          exact Nat.lt_irrefl _ earlier
      · exact recorded other current found

/-- A source is rewritten and evolves with the others, and something is noted
of it. -/
theorem Recorded.rewrite
    {key : SourceKey}
    {source rewritten : Source}
    {noted : List Note}
    (found : before.sources.find? key = some source)
    (same : rewritten.serial = source.serial)
    (evolves : Evolves relation
      (before.updateSource key fun _ => rewritten) after)
    (serial : ∀ one two, relation one two → two.serial = one.serial)
    (kept : ∀ one two history, relation one two → holds one history →
      holds two history)
    (settled : key ∈ after.sources → holds rewritten
      (noted ++ concerning (key, source.serial) notes)) :
    Recorded holds after
      (noted.map (Prod.mk (key, source.serial)) ++ notes) := by
  intro other current there
  obtain ⟨old, here, related⟩ := evolves other current there
  rw [concerning_note, serial old current related]
  simp only [State.updateSource, OrderedMap.find?_modify] at here
  split at here
  · rename_i isKey
    obtain ⟨_, _, rfl⟩ := Option.map_eq_some_iff.mp here
    subst isKey
    rw [same, if_pos rfl]
    exact kept _ _ _ related
      (settled (OrderedMap.mem_of_find?_eq_some there))
  · rename_i isOther
    rw [if_neg fun named => isOther (Prod.mk.inj named).1.symm]
    exact kept _ _ _ related (recorded other old here)

end

/-- A property of histories alone, under further notes of one source. -/
theorem concerning_forall_note
    {lawful : List Note → Prop}
    {notes : List (SourceName × Note)}
    {noted : SourceName}
    {later : List Note}
    (holds : ∀ name, lawful (concerning name notes))
    (settled : lawful (later ++ concerning noted notes)) :
    ∀ name, lawful (concerning name
      (later.map (Prod.mk noted) ++ notes)) := by
  intro name
  rw [concerning_note]
  split
  · rename_i same
    rw [← same]
    exact settled
  · exact holds name

end Media
end Vvmux
