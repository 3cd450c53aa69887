import Vvmux.Layout.FloatingEdits
import Vvmux.Library.Machine

/-!
# Runs of the floating layer

Every operation on the layer takes one float out, puts one in at the top of its
class or rewrites a rectangle through the clamp. In every run, whose area
changes only together with a clamp of all floats, the panes stay distinct, the
ordinary floats stay below the pinned ones and every rectangle stays inside the
area, and an operation on one float leaves the others as they are.
-/

namespace Vvmux
namespace Layout

open Library

/-- A layer and the area that its operations are given. -/
structure FloatingState where
  layer : FloatingLayer := {}
  area : Rect
  deriving DecidableEq, Repr

inductive FloatingOperation
  | insert (pane : PaneId) (widthPercent heightPercent : Nat)
  | remove (pane : PaneId)
  | raise (pane : PaneId)
  | setPinned (pane : PaneId) (pinned : Bool)
  | moveBy (pane : PaneId) (dx dy : Int)
  | moveFrom (pane : PaneId) (original : Rect) (dx dy : Int)
  | resizeBy (pane : PaneId) (edges : EdgeMask) (dx dy : Int)
  | resizeFrom
      (pane : PaneId)
      (original : Rect)
      (edges : EdgeMask)
      (dx dy : Int)
  | setRect (pane : PaneId) (rect : Rect)
  | showOrdinary (shown : Bool)
  | clampAll (area : Rect)
  deriving DecidableEq, Repr

namespace FloatingState

/-- Put another layer in the place of the present one. -/
def withLayer (state : FloatingState) (layer : FloatingLayer) : FloatingState :=
  { state with layer }

/-- One operation. An edge resize of a float that is there aborts when a sum
overflows. -/
def step
    (state : FloatingState) : FloatingOperation → Option FloatingState
  | .insert pane widthPercent heightPercent =>
      some (state.withLayer
        (state.layer.insert pane state.area widthPercent heightPercent))
  | .remove pane => some (state.withLayer (state.layer.remove pane).1)
  | .raise pane => some (state.withLayer (state.layer.raise pane))
  | .setPinned pane pinned =>
      some (state.withLayer (state.layer.setPinned pane pinned))
  | .moveBy pane dx dy =>
      some (state.withLayer (state.layer.moveBy pane dx dy state.area).1)
  | .moveFrom pane original dx dy =>
      some (state.withLayer
        (state.layer.moveFrom pane original dx dy state.area).1)
  | .resizeBy pane edges dx dy =>
      match state.layer.get pane with
      | none => some state
      | some float =>
          if EdgeSumsFit float.rect edges dx dy then
            some (state.withLayer
              (state.layer.resizeBy pane edges dx dy state.area).1)
          else none
  | .resizeFrom pane original edges dx dy =>
      if state.layer.contains pane then
        if EdgeSumsFit original edges dx dy then
          some (state.withLayer
            (state.layer.resizeFrom pane original edges dx dy state.area).1)
        else none
      else some state
  | .setRect pane rect =>
      some (state.withLayer (state.layer.setRect pane rect state.area).1)
  | .showOrdinary shown =>
      some (state.withLayer { state.layer with ordinaryVisible := shown })
  | .clampAll area => some ⟨state.layer.clampAll area, area⟩

/-- A new pane is not in the layer, percentages are from 10 to 100 and every
area takes a float of the minimum size. -/
def Admitted (state : FloatingState) : FloatingOperation → Prop
  | .insert pane widthPercent heightPercent =>
      pane ∉ state.layer.paneIds ∧
        (10 ≤ widthPercent ∧ widthPercent ≤ 100) ∧
        (10 ≤ heightPercent ∧ heightPercent ≤ 100)
  | .clampAll area => FloatArea area
  | _ => True

end FloatingState

/-- A new layer in any admitted area, and its operations. -/
def floatingMachine : Machine FloatingState FloatingOperation where
  initial state := state.layer = {} ∧ FloatArea state.area
  step before operation after := before.step operation = some after

namespace FloatingLayer

/-! ## One float enters its class -/

/-- No ordinary float above a pinned one. -/
def Ordered (panes : List FloatingPane) : Prop :=
  panes.Pairwise fun below above => below.pinned = true → above.pinned = true

/-- A float enters an ordered layer at the top of its class. -/
theorem exists_entered
    {rest : List FloatingPane}
    (ordered : Ordered rest)
    (float : FloatingPane) :
    ∃ lower upper, rest = lower ++ upper ∧
      rest.insertIdx
          (if float.pinned then rest.length else firstPinnedIndex rest)
          float = lower ++ float :: upper ∧
      Ordered (lower ++ float :: upper) := by
  unfold Ordered at ordered ⊢
  cases pinned : float.pinned with
  | true =>
      refine ⟨rest, [], (List.append_nil rest).symm, ?_, ?_⟩
      · rw [if_pos rfl, List.insertIdx_length_self]
      · rw [List.pairwise_append]
        exact ⟨ordered, List.pairwise_singleton _ _, fun _ _ above top _ => by
          rw [List.mem_singleton.mp top, pinned]⟩
  | false =>
      induction rest with
      | nil => exact ⟨[], [], rfl, rfl, List.pairwise_singleton _ _⟩
      | cons head tail ih =>
          rw [List.pairwise_cons] at ordered
          obtain ⟨above, tailOrdered⟩ := ordered
          cases headPinned : head.pinned with
          | true =>
              -- Everything from here on is pinned, so this is the place.
              refine ⟨[], head :: tail, rfl, ?_, ?_⟩
              · rw [firstPinnedIndex, List.findIdx_cons, headPinned]
                rfl
              · rw [List.nil_append, List.pairwise_cons, List.pairwise_cons]
                exact ⟨fun _ _ ordinary => by simp [pinned] at ordinary,
                  above, tailOrdered⟩
          | false =>
              obtain ⟨lower, upper, split, entered, enteredOrdered⟩ :=
                ih tailOrdered
              refine ⟨head :: lower, upper, ?_, ?_, ?_⟩
              · rw [split, List.cons_append]
              · rw [if_neg (by simp), firstPinnedIndex] at entered
                rw [if_neg (by simp), firstPinnedIndex, List.findIdx_cons,
                  headPinned, cond_false, List.insertIdx_succ_cons, entered,
                  List.cons_append]
              · rw [List.cons_append, List.pairwise_cons]
                exact ⟨fun _ _ ordinary => by simp [headPinned] at ordinary,
                  enteredOrdered⟩

variable {layer : FloatingLayer} {pane : PaneId} {float : FloatingPane}
  {area : Rect}

variable {before behind : List FloatingPane}

/-- Lifting takes the float out and lets it enter again. -/
theorem Holds.lift
    (holds : layer.Holds pane before float behind)
    (rewrite : FloatingPane → FloatingPane) :
    layer.lift pane rewrite =
      { layer with
        panes := (before ++ behind).insertIdx
          (if (rewrite float).pinned then (before ++ behind).length
            else firstPinnedIndex (before ++ behind)) (rewrite float) } := by
  unfold FloatingLayer.lift
  rw [holds.findIdx?.1]
  dsimp only
  rw [holds.findIdx?.2]
  dsimp only
  rw [holds.panes, List.eraseIdx_append_of_length_le (le_refl _), Nat.sub_self,
    List.eraseIdx_cons_zero]

theorem lift_of_not_mem
    (absent : pane ∉ layer.paneIds)
    (rewrite : FloatingPane → FloatingPane) :
    layer.lift pane rewrite = layer := by
  unfold FloatingLayer.lift
  rw [findIdx?_of_not_mem absent]

/-! ## The invariant -/

/-- Distinct panes, ordinary below pinned and all inside the area. -/
structure Sound (layer : FloatingLayer) (area : Rect) : Prop where
  distinct : layer.paneIds.Nodup
  ordered : Ordered layer.panes
  contained : ∀ float ∈ layer.panes, float.rect.FloatsIn area

/-- The floats of all other panes, bottom to top. -/
def others (layer : FloatingLayer) (pane : PaneId) : List FloatingPane :=
  layer.panes.filter fun float => float.paneId ≠ pane

/-- What an operation leaves as it is: an operation on one float all the
others, with their rectangles and their order, and a clamp the order and every
rectangle that is inside the new area. -/
def Keeps (before after : FloatingLayer) : FloatingOperation → Prop
  | .insert pane _ _ | .remove pane | .raise pane | .setPinned pane _
  | .moveBy pane _ _ | .moveFrom pane _ _ _ | .resizeBy pane _ _ _
  | .resizeFrom pane _ _ _ _ | .setRect pane _ =>
      after.others pane = before.others pane
  | .showOrdinary _ => after.panes = before.panes
  | .clampAll area =>
      after.classes = before.classes ∧
        ∀ float ∈ before.panes, float.rect.FloatsIn area → float ∈ after.panes

/-! ## One operation -/

/-- What a step is to show of the layer it leaves. -/
def Stands
    (before : FloatingLayer)
    (operation : FloatingOperation)
    (after : FloatingLayer)
    (area : Rect) : Prop :=
  after.Sound area ∧ before.Keeps after operation

/-- The other floats do not see a float of the pane. -/
theorem filter_middle
    (named : float.paneId = pane)
    (lower upper : List FloatingPane) :
    (lower ++ float :: upper).filter (fun other => other.paneId ≠ pane) =
      (lower ++ upper).filter fun other => other.paneId ≠ pane := by
  rw [List.filter_append, List.filter_cons_of_neg (by simp [named]),
    ← List.filter_append]

/-- A float that enters a layer with no other float of its pane. -/
theorem Sound.enter
    {layer : FloatingLayer}
    {area : Rect}
    (sound : layer.Sound area)
    {float : FloatingPane}
    (fresh : float.paneId ∉ layer.paneIds)
    (inside : float.rect.FloatsIn area)
    (shown : Bool) : let entered : FloatingLayer :=
      { panes := layer.panes.insertIdx
          (if float.pinned then layer.panes.length
            else firstPinnedIndex layer.panes) float
        ordinaryVisible := shown }
    entered.Sound area ∧
      entered.others float.paneId = layer.others float.paneId := by
  intro entered
  obtain ⟨lower, upper, split, panes, ordered⟩ :=
    exists_entered sound.ordered float
  have enteredPanes : entered.panes = lower ++ float :: upper := panes
  have distinct := sound.distinct
  have contained := sound.contained
  unfold paneIds at distinct fresh
  rw [split] at distinct contained fresh
  rw [List.map_append] at distinct fresh
  refine ⟨⟨?_, ?_, ?_⟩, ?_⟩
  · unfold paneIds
    rw [enteredPanes, List.map_append, List.map_cons, List.nodup_middle,
      List.nodup_cons]
    exact ⟨fresh, distinct⟩
  · rw [enteredPanes]
    exact ordered
  · rw [enteredPanes]
    intro other member
    rw [List.mem_append, List.mem_cons] at member
    rcases member with below | rfl | above
    · exact contained other (List.mem_append_left _ below)
    · exact inside
    · exact contained other (List.mem_append_right _ above)
  · unfold others
    rw [enteredPanes, split]
    exact filter_middle rfl lower upper

/-- A layer without one of its floats. -/
theorem Sound.without
    (sound : layer.Sound area)
    (holds : layer.Holds pane before float behind) :
    ({ layer with panes := before ++ behind } : FloatingLayer).Sound area ∧
      pane ∉ (before ++ behind).map FloatingPane.paneId := by
  obtain ⟨distinct, ordered, contained⟩ := sound
  have below : (before ++ behind).Sublist layer.panes := by
    rw [holds.panes]
    exact (List.sublist_cons_self float behind).append_left before
  unfold paneIds at distinct
  refine ⟨⟨distinct.sublist (below.map _), List.Pairwise.sublist below ordered,
    fun other member => contained other (below.subset member)⟩, ?_⟩
  rw [holds.panes, List.map_append, List.map_cons, List.nodup_middle,
    List.nodup_cons, holds.named] at distinct
  rw [List.map_append]
  exact distinct.1

/-- Lifting a float keeps the rest, if the float keeps its pane and its
rectangle. -/
theorem Sound.lift
    (sound : layer.Sound area)
    (pane : PaneId)
    {rewrite : FloatingPane → FloatingPane}
    (sameFloat : ∀ float, (rewrite float).paneId = float.paneId ∧
      (rewrite float).rect = float.rect) :
    (layer.lift pane rewrite).Sound area ∧
      (layer.lift pane rewrite).others pane = layer.others pane := by
  by_cases present : pane ∈ layer.paneIds
  · obtain ⟨before, float, behind, holds⟩ := exists_holds present
    obtain ⟨rest, absent⟩ := sound.without holds
    obtain ⟨sameId, sameRect⟩ := sameFloat float
    rw [holds.named] at sameId
    have inside : (rewrite float).rect.FloatsIn area := by
      rw [sameRect]
      apply sound.contained
      rw [holds.panes]
      exact List.mem_append_right _ List.mem_cons_self
    rw [← sameId] at absent
    obtain ⟨entered, others⟩ := rest.enter absent inside layer.ordinaryVisible
    rw [holds.lift rewrite]
    refine ⟨entered, ?_⟩
    rw [sameId] at others
    refine others.trans ?_
    unfold FloatingLayer.others
    rw [holds.panes, filter_middle holds.named]
  · rw [lift_of_not_mem present]
    exact ⟨sound, rfl⟩

/-- The classes of a layer decide on its order and its panes. -/
theorem ordered_iff_classes (layer : FloatingLayer) :
    Ordered layer.panes ↔
      layer.classes.Pairwise fun below above =>
        below.2 = true → above.2 = true := by
  unfold Ordered classes
  rw [List.pairwise_map]

/-- Rewriting rectangles into the area keeps a layer sound. -/
theorem Sound.rewrite
    {before after : FloatingLayer}
    {area next : Rect}
    (sound : before.Sound area)
    (sameClasses : after.classes = before.classes)
    (contained : ∀ float ∈ after.panes, float.rect.FloatsIn next) :
    after.Sound next := by
  refine ⟨?_, ?_, contained⟩
  · rw [paneIds_eq_classes, sameClasses, ← paneIds_eq_classes]
    exact sound.distinct
  · rw [ordered_iff_classes, sameClasses, ← ordered_iff_classes]
    exact sound.ordered

/-- Updates of one rectangle. -/
theorem Sound.updateRect
    (sound : layer.Sound area)
    (admitted : FloatArea area)
    (pane : PaneId)
    (apply : Rect → Rect) :
    (layer.updateRect pane area apply).1.Sound area ∧
      (layer.updateRect pane area apply).1.others pane =
        layer.others pane := by
  by_cases present : pane ∈ layer.paneIds
  · obtain ⟨before, float, behind, holds⟩ := exists_holds present
    obtain ⟨result, _⟩ := holds.updateRect area apply
    constructor
    · refine sound.rewrite (classes_updateRect layer pane area apply).1 ?_
      rw [result]
      intro other member
      have listed := sound.contained other
      rw [holds.panes] at listed
      rw [List.mem_append, List.mem_cons] at member
      rcases member with below | rfl | above
      · exact listed (List.mem_append_left _ below)
      · exact floatsIn_clampRect admitted _
      · exact listed (List.mem_append_right _ (List.mem_cons_of_mem _ above))
    · unfold others
      rw [result, holds.panes, filter_middle holds.named]
      apply filter_middle
      exact holds.named
  · rw [updateRect_of_not_mem present]
    exact ⟨sound, rfl⟩

/-- Removing a pane. -/
theorem Sound.remove
    (sound : layer.Sound area)
    (pane : PaneId) :
    (layer.remove pane).1.Sound area ∧
      (layer.remove pane).1.others pane = layer.others pane := by
  have kept : ((layer.remove pane).1.panes).Sublist layer.panes :=
    List.filter_sublist
  refine ⟨⟨sound.distinct.sublist (kept.map _),
    List.Pairwise.sublist kept sound.ordered,
    fun other member => sound.contained other (kept.subset member)⟩, ?_⟩
  unfold others FloatingLayer.remove
  rw [List.filter_filter]
  apply List.filter_congr
  intro float _
  by_cases same : float.paneId = pane <;> simp [same]

/-- A clamp of all floats into a new area. -/
theorem Sound.clampAll
    {area next : Rect}
    (sound : layer.Sound area)
    (admitted : FloatArea next) :
    layer.Stands (.clampAll next) (layer.clampAll next) next := by
  have same := (classes_clampAll layer next).1
  refine ⟨sound.rewrite same ?_, same, ?_⟩
  · intro float member
    obtain ⟨old, _, rfl⟩ := List.mem_map.mp member
    exact floatsIn_clampRect admitted old.rect
  · intro float member inside
    refine List.mem_map.mpr ⟨float, member, ?_⟩
    rw [clampRect_eq_self inside]

end FloatingLayer

namespace FloatingState

open FloatingLayer

/-- A sound layer in an admitted area. -/
structure Sound (state : FloatingState) : Prop where
  layer : state.layer.Sound state.area
  area : FloatArea state.area

/-- One operation keeps a layer sound and leaves all other floats. -/
theorem stands_step
    {state after : FloatingState}
    {operation : FloatingOperation}
    (sound : state.Sound)
    (admitted : state.Admitted operation)
    (stepped : state.step operation = some after) :
    FloatArea after.area ∧
      state.layer.Stands operation after.layer after.area := by
  obtain ⟨sound, area⟩ := sound
  cases operation with
  | insert pane widthPercent heightPercent =>
      cases stepped
      have inside : (defaultRect state.area widthPercent
          heightPercent).FloatsIn state.area := floatsIn_clampRect area _
      have entered := @Sound.enter state.layer state.area sound
        ⟨pane, defaultRect state.area widthPercent heightPercent, false⟩
        admitted.1 inside true
      exact ⟨area, entered⟩
  | remove pane =>
      cases stepped
      exact ⟨area, sound.remove pane⟩
  | raise pane | setPinned pane pinned =>
      cases stepped
      exact ⟨area, sound.lift pane fun _ => ⟨rfl, rfl⟩⟩
  | moveBy pane dx dy | moveFrom pane original dx dy =>
      cases stepped
      exact ⟨area, sound.updateRect area pane _⟩
  | resizeBy pane edges dx dy =>
      simp only [step] at stepped
      split at stepped
      · cases stepped
        exact ⟨area, sound, rfl⟩
      · split_ifs at stepped
        cases stepped
        exact ⟨area, sound.updateRect area pane _⟩
  | resizeFrom pane original edges dx dy =>
      simp only [step] at stepped
      split_ifs at stepped
      · cases stepped
        exact ⟨area, sound.updateRect area pane _⟩
      · cases stepped
        exact ⟨area, sound, rfl⟩
  | setRect pane rect =>
      cases stepped
      exact ⟨area, sound.updateRect area pane _⟩
  | showOrdinary shown =>
      cases stepped
      exact ⟨area, { sound with }, rfl⟩
  | clampAll next =>
      cases stepped
      exact ⟨admitted, sound.clampAll admitted⟩

/-- Every reachable layer is sound. -/
theorem sound_of_reachable
    {state : FloatingState}
    (reachable : floatingMachine.Reachable Admitted state) : state.Sound := by
  refine reachable.invariant ?_ ?_
  · rintro start ⟨empty, area⟩
    refine ⟨?_, area⟩
    rw [empty]
    exact ⟨List.nodup_nil, List.Pairwise.nil, fun _ member => nomatch member⟩
  · intro before operation after sound admitted stepped
    obtain ⟨area, layer, _⟩ := stands_step sound admitted stepped
    exact ⟨layer, area⟩

/-- In every run of the layer the panes are distinct, the ordinary floats lie
below the pinned ones and all rectangles inside the area, and every operation
keeps what it is not addressed to. -/
theorem floating_layer_invariant
    {state : FloatingState}
    (reachable : floatingMachine.Reachable Admitted state) :
    state.layer.Sound state.area ∧
      ∀ operation after, state.Admitted operation →
        state.step operation = some after →
          state.layer.Keeps after.layer operation := by
  have sound := sound_of_reachable reachable
  refine ⟨sound.layer, fun operation after admitted stepped => ?_⟩
  exact (stands_step sound admitted stepped).2.2

/-- Two floats, the lower one pinned. -/
def pinnedPair : FloatingState :=
  { layer :=
      ((({} : FloatingLayer).insert 1 ⟨0, 0, 80, 23⟩ 60 60).insert 2
        ⟨0, 0, 80, 23⟩ 60 60).setPinned 1 true
    area := ⟨0, 0, 80, 23⟩ }

theorem floating_layer_invariant_pinnedPair :
    pinnedPair.layer.Sound pinnedPair.area ∧
      ∀ operation after, pinnedPair.Admitted operation →
        pinnedPair.step operation = some after →
          pinnedPair.layer.Keeps after.layer operation :=
  have start : floatingMachine.Reachable Admitted ⟨{}, ⟨0, 0, 80, 23⟩⟩ :=
    .initial ⟨rfl, by decide, by decide, by decide, by decide⟩
  have first := start.step
    (show Admitted _ (.insert 1 60 60) from ⟨by decide, by decide, by decide⟩)
    rfl
  have second := first.step
    (show Admitted _ (.insert 2 60 60) from ⟨by decide, by decide, by decide⟩)
    rfl
  floating_layer_invariant
    (second.step (show Admitted _ (.setPinned 1 true) from trivial) rfl)

end FloatingState

end Layout
end Vvmux
