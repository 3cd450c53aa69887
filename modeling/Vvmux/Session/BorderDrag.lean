import Vvmux.Layout.Dragging
import Vvmux.Session.Granted
import Vvmux.Session.HostResize
import Vvmux.Session.PaneBijection

/-!
# Dragging a tiled border

A press on a frame remembers the column or row of the pressed cell, and every
cell of a pointer move looks up again which pane touches that line. Where the
press took hold of the boundary itself and nothing competes with the pressed
split on the way, a drag changes the weights of that split only and the
boundary follows the pointer up to the minimum extents.
-/

namespace Vvmux
namespace Session

open Library
open Layout

namespace SessionActor

/-! ## Another tree for the active tab -/

/-- The session with another tree in its active tab. -/
def withTree (s : SessionActor) (tree : TiledNode) : SessionActor :=
  s.modifyActiveTab fun tab => { tab with tree := some tree }

/-- The tree of the active tab. -/
def activeTree? (s : SessionActor) : Option TiledNode :=
  s.activeTab?.bind Tab.tree

variable {s t pressed : SessionActor} {tab : Tab} {tree : TiledNode}
  {position : Position} {node now : PlacedSplit} {positive : Bool}

theorem activeTab?_withTree
    (active : s.activeTab? = some tab)
    (tree : TiledNode) :
    (s.withTree tree).activeTab? = some { tab with tree := some tree } := by
  have found : s.tabs[s.activeTab]? = some tab := active
  simp [activeTab?, withTree, modifyActiveTab, modifyTab, found]

theorem activeTree?_withTree
    {current : TiledNode}
    (active : s.activeTree? = some current)
    (tree : TiledNode) : (s.withTree tree).activeTree? = some tree := by
  obtain ⟨tab, found, _⟩ := Option.bind_eq_some_iff.mp active
  rw [activeTree?, activeTab?_withTree found]
  rfl

/-- The last tree counts. -/
theorem withTree_withTree (s : SessionActor) (first second : TiledNode) :
    (s.withTree first).withTree second = s.withTree second := by
  have same : (s.tabs.modify s.activeTab fun tab =>
        { tab with tree := some first }).modify s.activeTab
          (fun tab => { tab with tree := some second }) =
      s.tabs.modify s.activeTab fun tab => { tab with tree := some second } := by
    rw [List.modify_modify_eq]
    rfl
  simp only [withTree, modifyActiveTab, modifyTab, same]

/-- Putting the present tree in changes nothing. -/
theorem withTree_self
    (active : s.activeTree? = some tree) : s.withTree tree = s := by
  obtain ⟨tab, found, tiled⟩ := Option.bind_eq_some_iff.mp active
  have listed : s.tabs[s.activeTab]? = some tab := found
  have same : (s.tabs.modify s.activeTab fun tab =>
      { tab with tree := some tree }) = s.tabs := by
    apply List.ext_getElem?
    intro index
    rw [List.getElem?_modify]
    by_cases here : s.activeTab = index
    · subst here
      rw [listed]
      simp [← tiled]
    · simp [here]
  simp only [withTree, modifyActiveTab, modifyTab, same]

/-! ## One cell -/

/-- The first pane on a line, with a direction. -/
theorem findSome?_touching
    (entries : List (PaneId × Rect))
    (direction : Direction)
    (edge : Rect → Nat)
    (line : Nat) :
    (entries.findSome? fun entry =>
        if edge entry.2 = line then some (entry.1, direction) else none) =
      (entries.find? fun entry => edge entry.2 = line).map fun entry =>
        (entry.1, direction) := by
  induction entries with
  | nil => rfl
  | cons entry rest ih =>
      by_cases here : edge entry.2 = line
      · simp [here]
      · simp [here, ih]

/-- Whatever the axis and the sign, a cell resizes the first pane on the
line. -/
theorem resizeBoundary_eq
    (active : s.activeTree? = some tree)
    (axis : Axis)
    (line : Nat)
    (positive : Bool) :
    s.resizeBoundary axis line positive =
      (tree.geometry s.contentArea).bind fun geometry =>
        match geometry.entries.find? fun entry =>
            entry.2.edge axis positive = line with
        | none => some (s, false)
        | some entry =>
            (tree.resize entry.1 (heading axis positive) s.contentArea).map
              fun moved => (s.withTree moved.1, moved.2) := by
  obtain ⟨tab, found, tiled⟩ := Option.bind_eq_some_iff.mp active
  unfold resizeBoundary
  simp only [found, tiled, Option.bind_eq_bind, Option.pure_def]
  refine Option.bind_congr fun geometry _ => ?_
  suffices same : ∀ chosen, chosen = ((geometry.entries.find? fun entry =>
      entry.2.edge axis positive = line).map fun entry =>
        (entry.1, heading axis positive)) →
      (match chosen with
        | none => some (s, false)
        | some (pane, direction) =>
            (tree.resize pane direction s.contentArea).bind fun moved =>
              some (s.withTree moved.1, moved.2)) =
        match geometry.entries.find? fun entry =>
            entry.2.edge axis positive = line with
        | none => some (s, false)
        | some entry =>
            (tree.resize entry.1 (heading axis positive) s.contentArea).map
              fun moved => (s.withTree moved.1, moved.2) by
    apply same
    cases axis <;> cases positive
    · exact findSome?_touching geometry.entries .up Rect.y line
    · exact findSome?_touching geometry.entries .down
        (fun rect => rect.y + rect.height) line
    · exact findSome?_touching geometry.entries .left Rect.x line
    · exact findSome?_touching geometry.entries .right
        (fun rect => rect.x + rect.width) line
  rintro _ rfl
  cases geometry.entries.find? fun entry =>
      entry.2.edge axis positive = line with
  | none => rfl
  | some entry => exact (Option.map_eq_bind ..).symm

/-- A cell moves the split that nothing competes with, or nothing. -/
theorem resizeBoundary_of_clear
    {positive changed : Bool}
    (edges : TiledNode.EdgesAdmitted s.contentArea)
    (active : s.activeTree? = some tree)
    (distinct : tree.paneIds.Nodup)
    (found : tree.splitAt? s.contentArea position = some node)
    (clear : tree.Clear s.contentArea node positive)
    (result : s.resizeBoundary node.axis node.boundary positive =
      some (t, changed)) :
    (changed = false ∧ t = s ∧ node.nudged positive = none) ∨
      ∃ weights, changed = true ∧ node.nudged positive = some weights ∧
        t = s.withTree (tree.replaceAt (node.reweighed weights) position) := by
  rw [resizeBoundary_eq active] at result
  obtain ⟨geometry, placed, moved⟩ := Option.bind_eq_some_iff.mp result
  cases chosen : geometry.entries.find? fun entry =>
      entry.2.edge node.axis positive = node.boundary with
  | none =>
      -- The panes of the split itself touch its boundary.
      obtain ⟨rects, tiled, rfl⟩ := TiledNode.geometry_eq_some_iff.mp placed
      obtain ⟨entry, listed, touches⟩ :=
        TiledNode.exists_touching edges tiled found positive
      have inMap := OrderedMap.find?_eq_some_iff.mp
        ((TiledNode.find?_geometry_iff distinct tiled).mpr listed)
      simpa [touches] using List.find?_eq_none.mp chosen entry inMap
  | some entry =>
      simp only [chosen] at moved
      obtain ⟨⟨after, moves⟩, resized, same⟩ := Option.map_eq_some_iff.mp moved
      rw [Prod.mk.injEq] at same
      obtain ⟨rfl, rfl⟩ := same
      rcases TiledNode.resize_of_clear edges distinct found clear placed chosen
        resized with ⟨unchanged, rfl, stuck⟩ | ⟨weights, moves, next, rfl⟩
      · exact .inl ⟨unchanged, withTree_self active, stuck⟩
      · exact .inr ⟨weights, moves, next, rfl⟩

/-! ## Several cells -/

/-- What following the pointer through some cells leaves: the session with the
pressed split reweighed, its boundary so many cells further or at a limit. -/
structure Followed
    (s : SessionActor)
    (tree : TiledNode)
    (position : Position)
    (positive : Bool)
    (distance : Nat)
    (node next : PlacedSplit)
    (t : SessionActor) : Prop where
  reweighs : node.Reweighs next
  result : t = s.withTree (tree.replaceAt next.tree position)
  found : (tree.replaceAt next.tree position).splitAt? s.contentArea position =
    some next
  reached :
    if positive then next.boundary = node.boundary + distance ∨
      (next.boundary < node.boundary + distance ∧ next.AtLimit true)
    else next.boundary + distance = node.boundary ∨
      (node.boundary < next.boundary + distance ∧ next.AtLimit false)

/-- No cell, or none that could be moved. -/
theorem Followed.stay
    {distance : Nat}
    (active : s.activeTree? = some tree)
    (found : tree.splitAt? s.contentArea position = some node)
    (stays : distance ≠ 0 → node.AtLimit positive) :
    Followed s tree position positive distance node node s := by
  have same := TiledNode.replaceAt_tree found
  refine ⟨.refl node, ?_, ?_, ?_⟩
  · rw [same, withTree_self active]
  · rw [same]
    exact found
  · rcases Nat.eq_zero_or_pos distance with rfl | some
    · split_ifs <;> exact .inl rfl
    · have limit := stays some.ne'
      cases positive with
      | true | false => exact .inr ⟨by omega, limit⟩

/-- By induction over the cells. -/
theorem followBoundary_of_clear
    {positive changed : Bool}
    {distance boundary last : Nat}
    (edges : TiledNode.EdgesAdmitted s.contentArea)
    (active : s.activeTree? = some tree)
    (distinct : tree.paneIds.Nodup)
    (found : tree.splitAt? s.contentArea position = some node)
    (clear : TiledNode.ClearAlong s.contentArea position positive distance tree
      node)
    (result : followBoundary node.axis positive distance s node.boundary
      node.boundary = some (t, boundary, last, changed)) :
    ∃ next, Followed s tree position positive distance node next t ∧
      boundary = next.boundary ∧ last = next.boundary := by
  induction distance generalizing s tree node t boundary last changed with
  | zero =>
      simp only [followBoundary, Option.some.injEq, Prod.mk.injEq] at result
      obtain ⟨rfl, rfl, rfl, _⟩ := result
      exact ⟨node, .stay active found (absurd rfl), rfl, rfl⟩
  | succ distance ih =>
      obtain ⟨here, further⟩ := clear
      simp only [followBoundary, Option.bind_eq_bind,
        Option.bind_eq_some_iff] at result
      obtain ⟨⟨u, moved⟩, cell, rest⟩ := result
      rcases resizeBoundary_of_clear edges active distinct found here cell with
        ⟨rfl, rfl, stuck⟩ | ⟨weights, rfl, next, rfl⟩
      · simp only [Bool.false_eq_true, if_false, Option.pure_def,
          Option.some.injEq, Prod.mk.injEq] at rest
        obtain ⟨rfl, rfl, rfl, _⟩ := rest
        exact ⟨node, .stay active found fun _ =>
          (node.nudged_eq_none_iff positive).mp stuck, rfl, rfl⟩
      · simp only [if_true, Option.bind_eq_some_iff, Option.pure_def,
          Option.some.injEq, Prod.mk.injEq] at rest
        obtain ⟨⟨v, boundary', last', changed'⟩, followed, rfl, rfl, rfl, _⟩ :=
          rest
        obtain ⟨foundNext, line⟩ := TiledNode.moved_of_nudged edges found next
        have start : (if positive = true then node.boundary + 1
            else node.boundary - 1) = (node.moved weights).boundary := by
          split_ifs at line ⊢ <;> omega
        rw [start] at followed
        have foundHere : (tree.replaceAt (node.reweighed weights)
            position).splitAt? (s.withTree (tree.replaceAt
              (node.reweighed weights) position)).contentArea position =
            some (node.moved weights) := foundNext
        obtain ⟨final, after, rfl, rfl⟩ := ih
          (s := s.withTree (tree.replaceAt (node.reweighed weights) position))
          edges (activeTree?_withTree active _)
          (by rwa [TiledNode.paneIds_reweigh found]) foundHere
          (further weights next) followed
        have line' := after.reached
        refine ⟨final, ⟨?_, ?_, ?_, ?_⟩, rfl, rfl⟩
        · have moved : node.Reweighs (node.moved weights) :=
            ⟨rfl, rfl, rfl, rfl⟩
          exact moved.trans after.reweighs
        · rw [after.result, withTree_withTree, TiledNode.replaceAt_replaceAt]
        · have foundFinal := after.found
          rw [TiledNode.replaceAt_replaceAt] at foundFinal
          exact foundFinal
        · split_ifs at line line' ⊢
          · exact line'.imp (fun arrived => by omega)
              fun stopped => ⟨by omega, stopped.2⟩
          · exact line'.imp (fun arrived => by omega)
              fun stopped => ⟨by omega, stopped.2⟩

/-- One pointer move: the boundary follows, whichever way the pointer went. -/
theorem dragBoundary_of_clear
    {s t : SessionActor}
    {tree : TiledNode}
    {position : Position}
    {node : PlacedSplit}
    {changed : Bool}
    {current boundary last : Nat}
    (edges : TiledNode.EdgesAdmitted s.contentArea)
    (active : s.activeTree? = some tree)
    (distinct : tree.paneIds.Nodup)
    (found : tree.splitAt? s.contentArea position = some node)
    (onwards : TiledNode.ClearAlong s.contentArea position true
      (current - node.boundary) tree node)
    (backwards : TiledNode.ClearAlong s.contentArea position false
      (node.boundary - current) tree node)
    (result : s.dragBoundary node.axis node.boundary node.boundary current =
      some (t, boundary, last, changed)) :
    ∃ next, node.Reweighs next ∧
      t = s.withTree (tree.replaceAt next.tree position) ∧
      (tree.replaceAt next.tree position).splitAt? s.contentArea position =
        some next ∧
      boundary = next.boundary ∧ last = next.boundary ∧
      next.AtPointer current := by
  simp only [dragBoundary, Option.bind_eq_bind, Option.bind_eq_some_iff,
    Option.pure_def, Option.some.injEq, Prod.mk.injEq] at result
  obtain ⟨⟨u, middle, middleLast, forward⟩, ahead, ⟨v, line, lineLast, backward⟩,
    back, rfl, rfl, rfl, _⟩ := result
  rcases le_total node.boundary current with right | left
  · obtain ⟨next, followed, rfl, rfl⟩ :=
      followBoundary_of_clear edges active distinct found onwards ahead
    have reached := followed.reached
    simp only [if_true] at reached
    have none : next.boundary - current = 0 := by
      rcases reached with arrived | stopped <;> omega
    rw [none] at back
    simp only [followBoundary, Option.some.injEq, Prod.mk.injEq] at back
    obtain ⟨rfl, rfl, rfl, _⟩ := back
    refine ⟨next, followed.reweighs, followed.result, followed.found, rfl, rfl,
      ?_⟩
    rcases reached with arrived | ⟨short, limit⟩
    · exact .inl (by omega)
    · exact .inr (.inl ⟨by omega, limit⟩)
  · have none : current - node.boundary = 0 := by omega
    rw [none] at ahead
    simp only [followBoundary, Option.some.injEq, Prod.mk.injEq] at ahead
    obtain ⟨rfl, rfl, rfl, _⟩ := ahead
    obtain ⟨next, followed, rfl, rfl⟩ :=
      followBoundary_of_clear edges active distinct found backwards back
    have reached := followed.reached
    simp only [Bool.false_eq_true, if_false] at reached
    refine ⟨next, followed.reweighs, followed.result, followed.found, rfl, rfl,
      ?_⟩
    rcases reached with arrived | ⟨short, limit⟩
    · exact .inl (by omega)
    · exact .inr (.inr ⟨by omega, limit⟩)

/-! ## The press -/

/-- Putting the rectangle of an edited float back keeps the tree. -/
theorem activeTree?_restoreModal (s : SessionActor) (modal : FloatModal) :
    (s.restoreModal modal).1.activeTree? = s.activeTree? ∧
      SameHost s (s.restoreModal modal).1 := by
  unfold restoreModal
  cases s.tabs.findIdx? fun tab => tab.floating.contains modal.pane with
  | none => exact ⟨rfl, .refl s⟩
  | some index =>
      cases found : s.tabs[index]? with
      | none =>
          simp only [found, true_and]
          exact .refl s
      | some tab =>
          simp only [found, activeTree?, activeTab?, modifyTab]
          refine ⟨?_, rfl, rfl, rfl⟩
          rw [List.getElem?_modify]
          by_cases here : index = s.activeTab
          · subst here
            simp [found]
          · simp [here]

/-- A granted end of an edit mode keeps the tree and the host. -/
theorem Granted.activeTree?_endFloatMode
    (granted : s.Granted)
    (result : s.endFloatMode true = some t) :
    t.activeTree? = s.activeTree? ∧ SameHost s t := by
  unfold SessionActor.endFloatMode endFloatModeWith at result
  cases mode : s.floatModal with
  | none =>
      simp only [mode, Option.some.injEq] at result
      exact result ▸ ⟨rfl, .refl s⟩
  | some modal =>
      have ended : SameHost s { s with floatModal := none } := ⟨rfl, rfl, rfl⟩
      have start : Granted { s with floatModal := none } := granted
      obtain ⟨restored, host⟩ :=
        activeTree?_restoreModal { s with floatModal := none } modal
      have restoredGranted : Granted
          (restoreModal { s with floatModal := none } modal).1 := by
        rw [Granted, (sameControl_restoreModal _ modal).environment]
        exact granted
      simp only [mode, Bool.not_true, Bool.false_eq_true, if_false] at result
      obtain ⟨before, beforeEq, rfl⟩ := Option.map_eq_some_iff.mp result
      have told : activeTree? (before.notify (.floatingEditMode modal.modeId
          none none)) = before.activeTree? ∧ SameHost before
            (before.notify (.floatingEditMode modal.modeId none none)) := by
        unfold notify
        split
        · exact ⟨rfl, rfl, rfl, rfl⟩
        · exact ⟨rfl, .refl before⟩
      rw [told.1]
      suffices kept : before.activeTree? = s.activeTree? ∧ SameHost s before from
        ⟨kept.1, kept.2.trans told.2⟩
      split_ifs at beforeEq with changed
      · have core := Granted.relayoutFull restoredGranted beforeEq
        refine ⟨?_, (ended.trans host).trans
          (Granted.sameHost_relayoutFull restoredGranted beforeEq)⟩
        rw [activeTree?, activeTab?, core.tabs, core.activeTab]
        exact restored
      · rw [Option.some.injEq] at beforeEq
        exact beforeEq ▸ ⟨restored, ended.trans host⟩

/-- A granted cancellation keeps the host. -/
theorem Granted.sameHost_cancelPointerDrag
    (granted : s.Granted)
    (result : s.cancelPointerDrag true = some t) :
    SameHost s t ∧ t.Granted := by
  unfold SessionActor.cancelPointerDrag cancelPointerDragWith at result
  cases dragged : s.pointerDrag with
  | none =>
      simp only [dragged, Option.some.injEq] at result
      exact result ▸ ⟨.refl s, granted⟩
  | some drag =>
      have dropped : SameHost s { s with pointerDrag := none } := ⟨rfl, rfl, rfl⟩
      have restored : SameHost { s with pointerDrag := none }
          (SessionActor.restoreDrag { s with pointerDrag := none } drag).1 := by
        unfold SessionActor.restoreDrag
        split
        · exact .refl _
        · split
          · exact .refl _
          · split
            · split_ifs
              · exact .refl _
              · exact ⟨rfl, rfl, rfl⟩
            · exact ⟨rfl, rfl, rfl⟩
            · exact ⟨rfl, rfl, rfl⟩
      have restoredGranted : Granted
          (SessionActor.restoreDrag { s with pointerDrag := none } drag).1 := by
        rw [Granted, (sameControl_restoreDrag _ drag).environment]
        exact granted
      simp only [dragged, Bool.not_true, Bool.false_eq_true, if_false] at result
      split_ifs at result with changed
      · have core := Granted.relayoutFull restoredGranted result
        exact ⟨(dropped.trans restored).trans
          (Granted.sameHost_relayoutFull restoredGranted result),
          fun answer remaining =>
            restoredGranted answer (core.refusals.mem remaining)⟩
      · rw [Option.some.injEq] at result
        exact result ▸ ⟨dropped.trans restored, restoredGranted⟩

/-- Moving the focus keeps the tree and the ID of the active tab. -/
theorem activeTab?_focusPressed
    (active : s.activeTab? = some tab)
    (focusChanged : Bool)
    (projection : PaneProjection) :
    ∃ now, (s.focusPressed focusChanged projection).activeTab? = some now ∧
      now.id = tab.id ∧ now.tree = tab.tree := by
  have found : s.tabs[s.activeTab]? = some tab := active
  refine ⟨tab.setFocus projection.paneId, ?_,
    (Tab.samePanes_setFocus tab projection.paneId).id, ?_⟩
  · unfold focusPressed
    split_ifs <;>
      simp [activeTab?, projectionChanged, modifyActiveTab, modifyTab, found]
  · unfold Tab.setFocus
    split_ifs <;> rfl

/-- A press takes hold of the boundary of the split at a position of the active
tab's tree: on its first line behind, and on no frame of the other axis that
goes first. -/
structure TakesHold
    (s : SessionActor)
    (press : MouseEvent)
    (tab : Tab)
    (tree : TiledNode)
    (position : Position)
    (node : PlacedSplit) : Prop where
  active : s.activeTab? = some tab
  tiled : tab.tree = some tree
  found : tree.splitAt? s.contentArea position = some node
  left : press.kind = .press ∧ press.button = 0
  hit : ∃ projection, s.Hits tab press projection ∧
    projection.layer = .tiled ∧
      let rect := projection.outer
      let onVertical := press.x = rect.x ∨ press.x + 1 = rect.x + rect.width
      let onHorizontal := press.y = rect.y ∨ press.y + 1 = rect.y + rect.height
      match node.axis with
      | .vertical => press.x = node.boundary ∧ onVertical
      | .horizontal => press.y = node.boundary ∧ onHorizontal ∧ ¬onVertical

/-- The press remembers the boundary it took hold of. -/
theorem TakesHold.mousePress
    {press : MouseEvent}
    (granted : s.Granted)
    (holds : s.TakesHold press tab tree position node)
    (result : s.mousePress press = some t) :
    t.activeTree? = some tree ∧ SameHost s t ∧
      (∃ now, t.activeTab? = some now ∧ t.pointerDrag =
        some (.tiledBoundary now.id node.axis node.boundary node.boundary
          tree)) := by
  obtain ⟨projection, ⟨projections, projected, topmost⟩, layer, grip⟩ := holds.hit
  obtain ⟨kind, button⟩ := holds.left
  simp only [SessionActor.mousePress, kind, holds.active, projected, topmost,
    Option.bind_eq_bind, Option.bind_some, reduceCtorEq, or_self, if_false]
    at result
  unfold pressPane at result
  obtain ⟨u, settled, focused⟩ := Option.bind_eq_some_iff.mp result
  have before : s.activeTree? = some tree := by
    rw [activeTree?, holds.active]
    exact holds.tiled
  have kept : (∃ now, u.activeTab? = some now ∧ now.id = tab.id ∧
      now.tree = some tree) ∧ SameHost s u := by
    split_ifs at settled
    · obtain ⟨trees, host⟩ := Granted.activeTree?_endFloatMode granted settled
      have reshaped := Granted.endFloatMode granted settled
      have found : s.tabs[s.activeTab]? = some tab := holds.active
      obtain ⟨now, nowFound, same⟩ :=
        exists_related_getElem? reshaped.tabs.flip found
      have active : u.activeTab? = some now := by
        rw [activeTab?, reshaped.activeTab]
        exact nowFound
      rw [before, activeTree?, active] at trees
      exact ⟨⟨now, active, same.id, trees⟩, host⟩
    · rw [Option.some.injEq] at settled
      exact settled ▸ ⟨⟨tab, holds.active, rfl, holds.tiled⟩, .refl s⟩
  obtain ⟨⟨between, active, sameId, sameTree⟩, host⟩ := kept
  obtain ⟨now, nowActive, nowId, nowTree⟩ := activeTab?_focusPressed active
    (tab.focused != projection.paneId) projection
  have focusedHost : SameHost u (u.focusPressed
      (tab.focused != projection.paneId) projection) := by
    unfold focusPressed
    split_ifs <;> exact ⟨rfl, rfl, rfl⟩
  generalize u.focusPressed (tab.focused != projection.paneId) projection = v
    at focused nowActive focusedHost
  -- The frame that the press is on gives the axis and the line.
  have gripped : t = ({ v with
      pointerDrag := some (.tiledBoundary tab.id node.axis node.boundary
        node.boundary tree) }).scheduleRender := by
    unfold pressFocused at focused
    cases axis : node.axis with
    | vertical =>
        rw [axis] at grip
        obtain ⟨line, onVertical⟩ := grip
        rw [line] at onVertical
        simp [layer, kind, button, onVertical, holds.tiled, line] at focused
        exact focused.symm
    | horizontal =>
        rw [axis] at grip
        obtain ⟨line, onHorizontal, notVertical⟩ := grip
        rw [line] at onHorizontal
        simp [layer, kind, button, onHorizontal, notVertical, holds.tiled, line]
          at focused
        exact focused.symm
  have nowTab : t.activeTab? = some now := by
    rw [gripped]
    exact nowActive
  refine ⟨?_, ?_, now, nowTab, ?_⟩
  · rw [activeTree?, nowTab]
    exact nowTree.trans sameTree
  · obtain ⟨config, attached, lastDisplay⟩ := host.trans focusedHost
    rw [gripped]
    exact ⟨config, attached, lastDisplay⟩
  · rw [gripped, nowId, sameId]
    rfl

/-! ## The moves -/

/-- The coordinate of the pointer that a drag along an axis follows. -/
def pointerAlong (axis : Axis) (mouse : MouseEvent) : Nat :=
  match axis with
  | .vertical => mouse.x
  | .horizontal => mouse.y

/-- A pointer move with the button held, on whose way nothing competes with the
split at a position. -/
structure MovesClear
    (s : SessionActor)
    (position : Position)
    (mouse : MouseEvent) : Prop where
  held : mouse.kind = .move ∧ mouse.shift = false ∧ mouse.button = 0
  clear : ∀ tree now, s.activeTree? = some tree →
    tree.splitAt? s.contentArea position = some now →
      TiledNode.ClearAlong s.contentArea position true
          (pointerAlong now.axis mouse - now.boundary) tree now ∧
        TiledNode.ClearAlong s.contentArea position false
          (now.boundary - pointerAlong now.axis mouse) tree now

/-- Guard of the moves of one client that are granted and clear. -/
def Guided
    (id : Nat)
    (position : Position)
    (s : SessionActor)
    (event : Environment × ActorEvent) : Prop :=
  Granted { s with environment := event.1 } ∧
    ∃ mouse, event.2 = .client id (.mouse mouse) ∧
      s.MovesClear position mouse

/-- During a drag the session differs from the one right after the press in the
weights of the pressed split and in bookkeeping, and the drag remembers the
boundary. -/
structure Dragging
    (pressed : SessionActor)
    (tree : TiledNode)
    (position : Position)
    (node now : PlacedSplit)
    (s : SessionActor) : Prop where
  reweighs : node.Reweighs now
  tabs : s.tabs = (pressed.withTree (tree.replaceAt now.tree position)).tabs
  activeTab : s.activeTab = pressed.activeTab
  host : SameHost pressed s
  drag : ∃ tab, s.activeTab? = some tab ∧ s.pointerDrag =
    some (.tiledBoundary tab.id now.axis now.boundary now.boundary tree)
  found : (tree.replaceAt now.tree position).splitAt? pressed.contentArea
    position = some now

theorem Dragging.activeTree?
    (dragging : Dragging pressed tree position node now s)
    (active : pressed.activeTree? = some tree) :
    s.activeTree? = some (tree.replaceAt now.tree position) := by
  rw [SessionActor.activeTree?, activeTab?, dragging.tabs, dragging.activeTab]
  exact activeTree?_withTree active _

/-- The run loop touches panes only. -/
theorem Dragging.finishEvent
    (dragging : Dragging pressed tree position node now s) :
    Dragging pressed tree position node now s.finishEvent := by
  unfold SessionActor.finishEvent
  split_ifs
  · obtain ⟨reweighs, tabs, activeTab, ⟨config, attached, lastDisplay⟩, drag,
      found⟩ := dragging
    exact ⟨reweighs, tabs, activeTab, ⟨config, attached, lastDisplay⟩, drag,
      found⟩
  · exact dragging

/-- Bookkeeping keeps a drag. -/
theorem Dragging.sameCore
    (dragging : Dragging pressed tree position node now s)
    (core : SameCore s t)
    (host : SameHost s t) : Dragging pressed tree position node now t where
  reweighs := dragging.reweighs
  tabs := core.tabs.trans dragging.tabs
  activeTab := core.activeTab.trans dragging.activeTab
  host := dragging.host.trans host
  drag := by
    obtain ⟨tab, active, dragged⟩ := dragging.drag
    refine ⟨tab, ?_, core.pointerDrag.trans dragged⟩
    rw [activeTab?, core.tabs, core.activeTab]
    exact active
  found := dragging.found

/-- One move: the boundary follows the pointer and nothing else moves. -/
theorem Dragging.mouse
    {event : MouseEvent}
    (edges : TiledNode.EdgesAdmitted pressed.contentArea)
    (active : pressed.activeTree? = some tree)
    (distinct : tree.paneIds.Nodup)
    (found : tree.splitAt? pressed.contentArea position = some node)
    (dragging : Dragging pressed tree position node now s)
    (granted : s.Granted)
    (clear : s.MovesClear position event)
    (result : s.mouse event = some t) :
    ∃ next, Dragging pressed tree position node next t ∧
      next.AtPointer (pointerAlong node.axis event) := by
  have area := dragging.host.contentArea
  obtain ⟨tab, tabActive, dragged⟩ := dragging.drag
  obtain ⟨kind, shift, button⟩ := clear.held
  have current := dragging.activeTree? active
  have foundHere := dragging.found
  rw [← area] at edges foundHere
  obtain ⟨onwards, backwards⟩ := clear.clear _ now current foundHere
  have distinctHere : (tree.replaceAt now.tree position).paneIds.Nodup := by
    rw [dragging.reweighs.tree_eq, TiledNode.paneIds_reweigh found]
    exact distinct
  have movesOn : s.mouse event = s.updatePointerDrag event := by
    simp [SessionActor.mouse, dragged, kind, shift, button]
  rw [movesOn, updatePointerDrag] at result
  simp only [dragged, tabActive, PointerDrag.tabId, ne_eq, not_true_eq_false,
    if_false, Option.bind_eq_bind, Option.bind_eq_some_iff] at result
  obtain ⟨⟨u, boundary, last, changed⟩, follows, ends⟩ := result
  obtain ⟨next, reweighs, rfl, foundNext, rfl, rfl, reached⟩ :=
    @dragBoundary_of_clear { s with pointerDrag := none } u _ position now
      changed _ boundary last edges current distinctHere foundHere onwards
      backwards follows
  rw [TiledNode.replaceAt_replaceAt] at foundNext ends
  have whole : node.Reweighs next := dragging.reweighs.trans reweighs
  have arrived : next.AtPointer (pointerAlong node.axis event) := by
    rw [← dragging.reweighs.axis]
    exact reached
  have tabs : (s.withTree (tree.replaceAt next.tree position)).tabs =
      (pressed.withTree (tree.replaceAt next.tree position)).tabs := by
    have twice := withTree_withTree pressed (tree.replaceAt now.tree position)
      (tree.replaceAt next.tree position)
    rw [← twice]
    simp only [withTree, modifyActiveTab, modifyTab] at dragging ⊢
    rw [dragging.tabs, dragging.activeTab]
    rfl
  have moved := activeTab?_withTree tabActive (tree.replaceAt next.tree position)
  have after : Dragging pressed tree position node next
      { s.withTree (tree.replaceAt next.tree position) with
        pointerDrag := some (.tiledBoundary tab.id now.axis next.boundary
          next.boundary tree) } := by
    refine ⟨whole, tabs, dragging.activeTab, ?_, ⟨_, moved, ?_⟩, ?_⟩
    · obtain ⟨config, attached, lastDisplay⟩ := dragging.host
      exact ⟨config, attached, lastDisplay⟩
    · rw [reweighs.axis]
    · rw [← area]
      exact foundNext
  refine ⟨next, ?_, arrived⟩
  split_ifs at ends
  · have start : Granted
        { s.withTree (tree.replaceAt next.tree position) with
          pointerDrag := some (.tiledBoundary tab.id now.axis next.boundary
            next.boundary tree) } := granted
    obtain ⟨core, host⟩ := Granted.relayout start ends
    exact after.sameCore core host
  · rw [Option.some.injEq] at ends
    exact ends ▸ after

/-- One step of the session. -/
theorem Dragging.step
    {pressed before after : SessionActor}
    {tree : TiledNode}
    {position : Position}
    {node now : PlacedSplit}
    {id : Nat}
    {environment : Environment}
    {event : MouseEvent}
    (edges : TiledNode.EdgesAdmitted pressed.contentArea)
    (active : pressed.activeTree? = some tree)
    (distinct : tree.paneIds.Nodup)
    (found : tree.splitAt? pressed.contentArea position = some node)
    (client : pressed.clientIs id = true)
    (dragging : Dragging pressed tree position node now before)
    (granted : Granted { before with environment })
    (clear : before.MovesClear position event)
    (stepped : sessionStep before (environment, .client id (.mouse event))
      after) :
    ∃ next, Dragging pressed tree position node next after ∧
      next.AtPointer (pointerAlong node.axis event) := by
  obtain ⟨_, stepped⟩ := stepped
  obtain ⟨t, handled, rfl⟩ := Option.map_eq_some_iff.mp stepped
  have here : SessionActor.clientIs { before with environment } id = true :=
    (dragging.host.clientIs id).trans client
  have started : Dragging pressed tree position node now
      { before with environment } := by
    obtain ⟨reweighs, tabs, activeTab, ⟨config, attached, lastDisplay⟩, drag,
      found⟩ := dragging
    exact ⟨reweighs, tabs, activeTab, ⟨config, attached, lastDisplay⟩, drag,
      found⟩
  have clearHere :
      SessionActor.MovesClear { before with environment } position event :=
    ⟨clear.held, clear.clear⟩
  simp only [handleEvent, handleClient, here, if_true] at handled
  obtain ⟨next, dragged, reached⟩ := started.mouse edges active distinct found
    granted clearHere handled
  exact ⟨next, dragged.finishEvent, reached⟩

/-- Every run of clear moves. -/
theorem Dragging.run
    {id : Nat}
    (edges : TiledNode.EdgesAdmitted pressed.contentArea)
    (active : pressed.activeTree? = some tree)
    (distinct : tree.paneIds.Nodup)
    (found : tree.splitAt? pressed.contentArea position = some node)
    (client : pressed.clientIs id = true)
    (start : Dragging pressed tree position node node pressed)
    (reachable : (sessionMachine.startingAt pressed).Reachable
      (Guided id position) s) :
    ∃ now, Dragging pressed tree position node now s := by
  refine @Machine.Reachable.invariant _ _ _ _
    (fun s => ∃ now, Dragging pressed tree position node now s) _ reachable
    ?_ ?_
  · rintro _ rfl
    exact ⟨node, start⟩
  · rintro before ⟨environment, event⟩ after ⟨now, dragging⟩
      ⟨granted, mouse, same, clear⟩ stepped
    cases same
    obtain ⟨next, dragged, _⟩ := dragging.step edges active distinct found
      client granted clear stepped
    exact ⟨next, dragged⟩

/-- What a tiled border drag may do: give the pressed split other weights, with
its boundary at the pointer or at a limit. -/
structure MovesPressedOnly
    (pressed : SessionActor)
    (tree : TiledNode)
    (position : Position)
    (node : PlacedSplit)
    (pointer : Nat)
    (after : SessionActor) : Prop where
  weights : ∃ now : PlacedSplit, node.Reweighs now ∧
    after.tabs = pressed.tabs.modify pressed.activeTab (fun tab =>
      { tab with tree := some (tree.replaceAt now.tree position) }) ∧
    (tree.replaceAt now.tree position).splitAt? after.contentArea position =
      some now ∧
    now.AtPointer pointer
  activeTab : after.activeTab = pressed.activeTab
  contentArea : after.contentArea = pressed.contentArea

/-- A press that takes hold of a boundary leaves the tree, and after every
further move of a run in which nothing competes with the pressed split only its
weights have changed and its boundary is at the pointer. -/
theorem drag_moves_pressed_only
    {s u pressed before after : SessionActor}
    {press move : MouseEvent}
    {tab : Tab}
    {tree : TiledNode}
    {position : Position}
    {node : PlacedSplit}
    {id : Nat}
    {environment : Environment}
    (client : s.clientIs id = true)
    (host : HostArea s.contentArea)
    (distinct : tree.paneIds.Nodup)
    (granted : s.Granted)
    (cancelled : s.cancelPointerDrag true = some u)
    (holds : u.TakesHold press tab tree position node)
    (pressing : s.handleEvent (.client id (.mouse press)) = some pressed)
    (run : (sessionMachine.startingAt pressed).Reachable (Guided id position)
      before)
    (guided : Guided id position before (environment,
      .client id (.mouse move)))
    (moved : sessionStep before (environment, .client id (.mouse move))
      after) :
    pressed.activeTree? = some tree ∧
      MovesPressedOnly pressed tree position node
        (pointerAlong node.axis move) after := by
  obtain ⟨sameHost, uGranted⟩ := granted.sameHost_cancelPointerDrag cancelled
  have pressedOn : u.mousePress press = some pressed := by
    have kind := holds.left.1
    simp only [handleEvent, handleClient, client, if_true, SessionActor.mouse,
      kind, reduceCtorEq, false_and, if_false, cancelled,
      Option.bind_eq_bind, Option.bind_some] at pressing
    split_ifs at pressing with drags
    · exact pressing
    · have idle : s.cancelPointerDrag true = some s := by
        rw [Bool.not_eq_true, Option.isSome_eq_false_iff,
          Option.isNone_iff_eq_none] at drags
        simp [cancelPointerDrag, cancelPointerDragWith, drags]
      rw [idle, Option.some.injEq] at cancelled
      exact cancelled ▸ pressing
  obtain ⟨active, pressedHost, now, nowActive, dragged⟩ :=
    holds.mousePress uGranted pressedOn
  have area := pressedHost.contentArea
  have edges : TiledNode.EdgesAdmitted pressed.contentArea := by
    rw [area, sameHost.contentArea]
    exact host.edgesAdmitted
  have found : tree.splitAt? pressed.contentArea position = some node := by
    rw [area]
    exact holds.found
  have attached : pressed.clientIs id = true :=
    ((sameHost.trans pressedHost).clientIs id).trans client
  have start : Dragging pressed tree position node node pressed := by
    have same := TiledNode.replaceAt_tree found
    refine ⟨.refl node, ?_, rfl, .refl pressed, ⟨now, nowActive, dragged⟩, ?_⟩
    · rw [same, withTree_self active]
    · rw [same]
      exact found
  obtain ⟨here, dragging⟩ :=
    Dragging.run edges active distinct found attached start run
  obtain ⟨grantedHere, mouse, same, clear⟩ := guided
  cases same
  obtain ⟨next, after, reached⟩ := dragging.step edges active distinct found
    attached grantedHere clear moved
  refine ⟨active, ⟨next, after.reweighs, after.tabs, ?_, reached⟩,
    after.activeTab, after.host.contentArea⟩
  rw [after.host.contentArea]
  exact after.found

/-- A client on a host of 80 by 24 cells splits its pane. -/
def splitOnce : List (Environment × ActorEvent) :=
  [({}, .client 1 (.attach false ⟨80, 24, 0, 0⟩ false)),
    ({}, .client 1 (.action (.split .vertical)))]

/-- The state after a run that returns. -/
def stateAfter (events : List (Environment × ActorEvent)) : SessionActor :=
  (runEvents plainStart events).getD plainStart

/-- The border between the two panes. -/
def middleBorder : PlacedSplit :=
  ⟨.vertical, .leaf 1, .leaf 2, 1, 1, ⟨0, 0, 80, 23⟩, 40⟩

/-- The first pane leads the border to the right, and the split can move. -/
theorem clear_middleBorder :
    TiledNode.Clear middleBorder.tree ⟨0, 0, 80, 23⟩ middleBorder true := by
  intro pane leads
  obtain ⟨geometry, rect, placed, found, touches, least⟩ := leads
  cases placed
  refine ⟨fun weights _ => ?_, fun stuck => ?_⟩
  · have first := least 1 ⟨0, 0, 40, 23⟩ rfl rfl
    have listed := @TiledNode.mem_of_find?_geometry
      [(1, ⟨0, 0, 40, 23⟩), (2, ⟨40, 0, 40, 23⟩)] pane rect found
    rcases List.mem_pair.mp listed with same | same
    · cases same
      exact List.mem_singleton_self _
    · cases same
      exact absurd touches (by decide)
  · cases stuck

/-- A press in the first column of the second pane. -/
def pressMiddle : MouseEvent := ⟨0, 40, 5, .press, false⟩

/-- The pointer goes one column to the right. -/
def moveRight : MouseEvent := ⟨0, 41, 6, .move, false⟩

theorem drag_moves_pressed_only_splitOnce :
    ∃ pressed after,
      (stateAfter splitOnce).handleEvent (.client 1 (.mouse pressMiddle)) =
          some pressed ∧
        sessionStep pressed ({}, .client 1 (.mouse moveRight)) after ∧
        pressed.activeTree? = some middleBorder.tree ∧
        MovesPressedOnly pressed middleBorder.tree [] middleBorder 41 after := by
  have facts : ((stateAfter splitOnce).handleEvent
      (.client 1 (.mouse pressMiddle))).any fun pressed =>
        decide (pressed.tabs ≠ [] ∧
          pressed.activeTree? = some middleBorder.tree ∧
          pressed.contentArea = ⟨0, 0, 80, 23⟩) &&
        ((({ pressed with environment := {} } : SessionActor).handleEvent
          (.client 1 (.mouse moveRight))).map finishEvent).isSome := by
    decide +kernel
  obtain ⟨pressed, pressing, holds⟩ := (Option.any_eq_true ..).mp facts
  obtain ⟨state, moves⟩ := Bool.and_eq_true_iff.mp holds
  obtain ⟨tabs, active, area⟩ := of_decide_eq_true state
  obtain ⟨after, moved⟩ := Option.isSome_iff_exists.mp moves
  have stepped : sessionStep pressed ({}, .client 1 (.mouse moveRight)) after :=
    ⟨tabs, moved⟩
  have guided : Guided 1 [] pressed ({}, .client 1 (.mouse moveRight)) := by
    refine ⟨fun answer remaining => (List.not_mem_nil remaining).elim,
      moveRight, rfl, ⟨rfl, rfl, rfl⟩, fun tree now found here => ?_⟩
    rw [active, Option.some.injEq] at found
    subst found
    rw [area] at here ⊢
    cases here
    exact ⟨⟨clear_middleBorder, fun _ _ => trivial⟩, trivial⟩
  refine ⟨pressed, after, pressing, stepped, ?_⟩
  have projections : (stateAfter splitOnce).activeTab?.any fun tab =>
      decide (tab.tree = some middleBorder.tree) &&
        (tab.visibleProjections (stateAfter splitOnce).contentArea).any
          fun projections => (projections.reverse.find? fun projection =>
            projection.outer.contains 40 5).any fun projection =>
              decide (projection.outer = ⟨40, 0, 40, 23⟩ ∧
                projection.layer = .tiled) := by
    decide +kernel
  obtain ⟨tab, tabActive, shown⟩ := (Option.any_eq_true ..).mp projections
  obtain ⟨tiled, painted⟩ := Bool.and_eq_true_iff.mp shown
  obtain ⟨listed, listedEq, hit⟩ := (Option.any_eq_true ..).mp painted
  obtain ⟨projection, topmost, framed⟩ := (Option.any_eq_true ..).mp hit
  obtain ⟨outer, layer⟩ := of_decide_eq_true framed
  have takes : (stateAfter splitOnce).TakesHold pressMiddle tab
      middleBorder.tree [] middleBorder := by
    refine ⟨tabActive, of_decide_eq_true tiled, by decide +kernel, ⟨rfl, rfl⟩,
      projection, ⟨listed, listedEq, topmost⟩, layer, rfl, ?_⟩
    rw [outer]
    exact .inl rfl
  exact drag_moves_pressed_only (by decide +kernel)
    ⟨⟨80, 24, 0, 0⟩, true, by decide +kernel⟩ (by decide) (by decide +kernel)
    (by decide +kernel) takes pressing (.initial rfl) guided stepped

/-- A client on a host of 80 by 24 cells makes four quarters and presses the
border between the lower two. -/
def pressLower : List (Environment × ActorEvent) :=
  [({}, .client 1 (.attach false ⟨80, 24, 0, 0⟩ false)),
    ({}, .client 1 (.action (.split .horizontal))),
    ({}, .client 1 (.action (.split .vertical))),
    ({}, .client 1 (.action (.focus .up))),
    ({}, .client 1 (.action (.split .vertical))),
    ({}, .client 1 (.mouse ⟨0, 40, 15, .press, false⟩))]

/-- Moving the pointer to column 45 moves the border between the upper two
instead: the first pane, with the lowest ID, touches the same column. -/
theorem upperBorder_moves_instead :
    ∃ pressed after before lower upper,
      sessionMachine.Reachable (fun _ _ => True) pressed ∧
        sessionStep pressed ({}, .client 1 (.mouse ⟨0, 45, 15, .move, false⟩))
          after ∧
        pressed.activeTree? = some before ∧
        (before.splitAt? pressed.contentArea [.second] = some lower ∧
          lower.boundary = 40) ∧
        after.activeTree?.bind (fun tree =>
          tree.splitAt? after.contentArea [.second]) = some lower ∧
        after.activeTree?.bind (fun tree =>
          tree.splitAt? after.contentArea [.first]) = some upper ∧
        upper.boundary = 45 := by
  have facts : (runEvents plainStart pressLower).any fun pressed =>
      decide (pressed.tabs ≠ []) && pressed.activeTree?.any fun before =>
        (before.splitAt? pressed.contentArea [.second]).any fun lower =>
          decide (lower.boundary = 40) &&
          ((({ pressed with environment := {} } : SessionActor).handleEvent
            (.client 1 (.mouse ⟨0, 45, 15, .move, false⟩))).map
              finishEvent).any fun after =>
            decide ((after.activeTree?.bind fun tree =>
              tree.splitAt? after.contentArea [.second]) = some lower) &&
            (after.activeTree?.bind fun tree =>
              tree.splitAt? after.contentArea [.first]).any fun upper =>
                decide (upper.boundary = 45) := by
    decide +kernel
  obtain ⟨pressed, result, holds⟩ := (Option.any_eq_true ..).mp facts
  obtain ⟨tabs, holds⟩ := Bool.and_eq_true_iff.mp holds
  obtain ⟨before, active, holds⟩ := (Option.any_eq_true ..).mp holds
  obtain ⟨lower, found, holds⟩ := (Option.any_eq_true ..).mp holds
  obtain ⟨line, holds⟩ := Bool.and_eq_true_iff.mp holds
  obtain ⟨after, moved, holds⟩ := (Option.any_eq_true ..).mp holds
  obtain ⟨same, holds⟩ := Bool.and_eq_true_iff.mp holds
  obtain ⟨upper, foundUpper, upperLine⟩ := (Option.any_eq_true ..).mp holds
  exact ⟨pressed, after, before, lower, upper,
    reachable_runEvents (.initial initial_plainStart) result,
    ⟨of_decide_eq_true tabs, moved⟩, active,
    ⟨found, of_decide_eq_true line⟩, of_decide_eq_true same, foundUpper,
    of_decide_eq_true upperLine⟩

end SessionActor

end Session
end Vvmux
