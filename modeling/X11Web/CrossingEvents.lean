import X11Web.AncestorPaths
import X11Web.HitTesting

namespace X11Web.CrossingEvents

open List Option

open HashMaps LinkedForest RootedForest Windows WindowTree
  X11Web.Descents X11Web.AncestorPaths X11Web.HitTesting

def enterWindow : Nat := 2 ^ 4
def leaveWindow : Nat := 2 ^ 5
def keymapState : Nat := 2 ^ 14

namespace Detail

def ancestor : Nat := 0
def virtual : Nat := 1
def inferior : Nat := 2
def nonlinear : Nat := 3
def nonlinearVirtual : Nat := 4

end Detail

structure CrossingEvent where
  enter : Bool
  detail : Nat
  mode : Nat
  sequence : Nat
  time : Nat
  root : XId
  event : XId
  child : XId
  rootX : Int
  rootY : Int
  eventX : Int
  eventY : Int
  sameScreenFocus : Nat
deriving DecidableEq

inductive CoreEvent
  | crossing (e : CrossingEvent)
  | keymapNotify (keys : Bytes)
deriving DecidableEq

/-- What the crossings read of a connection besides its windows. -/
structure PointerState extends ClientState where
  lastEnteredWindow : XId
  sequence : Nat
  timestamp : Nat
  pressedKeys : Bytes

def ancestorPathLoop (m : HashMap XId WindowState) (root : XId) : Nat → XId → List XId
  | 0, _ => []
  | n + 1, cur =>
    if cur = root ∨ cur = 0 then []
    else
      match m.lookup cur with
      | none => []
      | some w =>
        if w.parent = 0 ∨ w.parent = cur then []
        else w.parent :: ancestorPathLoop m root n w.parent

def ancestorPath (m : HashMap XId WindowState) (window root : XId) : List XId :=
  window :: ancestorPathLoop m root maxTreeDepth window

def windowOffsetLoop (m : HashMap XId WindowState) (root : XId) : Nat → XId → Int × Int
  | 0, _ => (0, 0)
  | n + 1, cur =>
    if cur = root ∨ cur = 0 then (0, 0)
    else
      match m.lookup cur with
      | none => (0, 0)
      | some w =>
        let (ox, oy) := windowOffsetLoop m root n w.parent
        (w.x + ox, w.y + oy)

def windowLocalCoords (m : HashMap XId WindowState) (window root : XId) (absX absY : Int) :
    Int × Int :=
  let (ox, oy) := windowOffsetLoop m root maxTreeDepth window
  (asI16 (absX - ox), asI16 (absY - oy))

/-- The child of the window under the pointer, or 0. Its far edges wrap, as in a release build. -/
def childUnder (m : HashMap XId WindowState) (window : XId) (x y : Int) : XId :=
  match m.lookup window with
  | none => 0
  | some win =>
    (win.childrenOrder.reverse.find? (fun id => (m.lookup id).any (fun c =>
      c.mapped && spans c.x c.width x && spans c.y c.height y))).getD 0

def focusAboveLoop (m : HashMap XId WindowState) (root focus : XId) : Nat → XId → Bool
  | 0, _ => false
  | n + 1, cur =>
    if cur = focus then true
    else if cur = 0 ∨ cur = root then false
    else
      match m.lookup cur with
      | none => false
      | some w => if w.parent ≠ cur then focusAboveLoop m root focus n w.parent else false

def hasFocus (m : HashMap XId WindowState) (root focus window : XId) : Bool :=
  if focus = 1 ∨ focus = root then true
  else if focus = 0 then false
  else focusAboveLoop m root focus maxTreeDepth window

def makeCrossingEvent (s : PointerState) (enter : Bool) (detail mode : Nat) (window : XId)
    (absX absY : Int) : CrossingEvent :=
  let (evX, evY) := windowLocalCoords s.windows window rootWindow absX absY
  { enter := enter
    detail := detail
    mode := mode
    sequence := s.sequence
    time := s.timestamp
    root := rootWindow
    event := window
    child := childUnder s.windows window evX evY
    rootX := absX
    rootY := absY
    eventX := evX
    eventY := evY
    sameScreenFocus := 2 + if hasFocus s.windows rootWindow s.focusWindow window then 1 else 0 }

def emitCrossing (s : PointerState) (mode : Nat) (x y : Int) (enter : Bool) (detail : Nat)
    (window : XId) : List CoreEvent :=
  if windowSelects s.toClientState window (if enter then enterWindow else leaveWindow) then
    [.crossing (makeCrossingEvent s enter detail mode window x y)]
  else []

/-- The part of a path from its second window up to the given one, which is not
included. -/
def intermediates (path : List XId) (window : XId) : List XId :=
  match path.findIdx? (· == window) with
  | some pos => (path.take pos).drop 1
  | none => []

/-- The crossings of a pointer that leaves `oldWindow` for `newWindow`. -/
def crossings (s : PointerState) (mode : Nat) (x y : Int) (oldWindow newWindow : XId) :
    List CoreEvent :=
  let oldPath := ancestorPath s.windows oldWindow rootWindow
  let newPath := ancestorPath s.windows newWindow rootWindow
  let leave := emitCrossing s mode x y false
  let enter := emitCrossing s mode x y true
  if oldWindow ∈ newPath then
    leave Detail.inferior oldWindow ++
      (intermediates newPath oldWindow).reverse.flatMap (enter Detail.virtual) ++
      enter Detail.ancestor newWindow
  else if newWindow ∈ oldPath then
    leave Detail.ancestor oldWindow ++
      (intermediates oldPath newWindow).flatMap (leave Detail.virtual) ++
      enter Detail.inferior newWindow
  else
    let lca := (newPath.find? (fun w => decide (w ∈ oldPath))).getD rootWindow
    leave Detail.nonlinear oldWindow ++
      (intermediates oldPath lca).flatMap (leave Detail.nonlinearVirtual) ++
      (intermediates newPath lca).reverse.flatMap (enter Detail.nonlinearVirtual) ++
      enter Detail.nonlinear newWindow

def keymapNotify (s : PointerState) (window : XId) : List CoreEvent :=
  if windowSelects s.toClientState window keymapState then
    [.keymapNotify ((s.pressedKeys.take 32).drop 1)]
  else []

/-- The core events of a crossing; the XI2 events that follow them are left out. -/
def buildCrossingEventsWithMode (newWindow : XId) (x y : Int) (mode : Nat) (s : PointerState) :
    PointerState × List CoreEvent :=
  if s.lastEnteredWindow = newWindow then (s, [])
  else
    ({ s with lastEnteredWindow := newWindow },
      crossings s mode x y s.lastEnteredWindow newWindow ++ keymapNotify s newWindow)

variable {m : HashMap XId WindowState} {root w v : XId}

/-- Every window climbs to the root in at most as many steps as the walks take. -/
structure Shallow (m : HashMap XId WindowState) : Prop where
  acyclic : NoCycle (links m)
  climbs : ∀ w, w ∈ m → ∃ k ≤ maxTreeDepth, ancestor (links m) k w = some rootWindow
  absent : 0 ∉ m

theorem ancestorPathLoop_pathTo (hacyc : NoCycle (links m)) (h0 : 0 ∉ m) (hroot : root ≠ 0)
    {n k : Nat} (hk : k ≤ n) (h : ancestor (links m) k w = some root) :
    PathTo (links m) w (w :: ancestorPathLoop m root n w) root := by
  induction n generalizing w k with
  | zero =>
    obtain rfl := Nat.le_zero.mp hk
    obtain rfl := some.inj h
    exact .here w
  | succ n ih =>
    by_cases hw : w = root
    · subst hw
      simpa [ancestorPathLoop] using PathTo.here w
    · cases k with
      | zero => exact absurd (some.inj h) hw
      | succ k =>
        obtain ⟨p, hp, hk'⟩ := ancestor_succ.mp h
        have hself : p ≠ w := by
          rintro rfl
          exact hacyc p 0 (by rw [← parentOf_eq_ancestor, hp])
        rw [parentOf_links, map_eq_some_iff] at hp
        obtain ⟨win, hwin, rfl⟩ := hp
        have hw0 : w ≠ 0 := by
          rintro rfl
          exact h0 (Finmap.lookup_isSome.mp (by rw [hwin, isSome_some]))
        have hp0 : win.parent ≠ 0 := by
          intro hzero
          rw [hzero] at hk'
          cases k with
          | zero => exact hroot (some.inj hk').symm
          | succ k => exact h0 ((links_isSome m 0).mp (ancestor_present hk'))
        have hloop : ancestorPathLoop m root (n + 1) w =
            win.parent :: ancestorPathLoop m root n win.parent := by
          simp [ancestorPathLoop, hwin, hw, hw0, hp0, hself]
        rw [hloop]
        exact .up (by rw [parentOf_links, hwin, map_some]) (ih (Nat.le_of_succ_le_succ hk) hk')

theorem Shallow.pathTo (h : Shallow m) (hw : w ∈ m) :
    PathTo (links m) w (ancestorPath m w rootWindow) rootWindow := by
  obtain ⟨k, hk, hclimb⟩ := h.climbs w hw
  exact ancestorPathLoop_pathTo h.acyclic h.absent (by decide) hk hclimb

theorem Shallow.mem_path_iff (h : Shallow m) (hw : w ∈ m) (hv : v ∈ m) (hne : v ≠ w) :
    v ∈ ancestorPath m w rootWindow ↔ ProperAncestor (links m) v w := by
  have hpath := h.pathTo hw
  constructor
  · intro hmem
    obtain ⟨k, hk⟩ := hpath.ancestor_of_mem hmem
    cases k with
    | zero => exact absurd (some.inj hk).symm hne
    | succ k => exact ⟨k, hk⟩
  · rintro ⟨k, hk⟩
    obtain hmem | ⟨j, hj⟩ := hpath.mem_or_above hk
    · exact hmem
    · -- an ancestor of the root in the map would climb back to the root
      obtain ⟨i, -, hi⟩ := h.climbs v hv
      refine absurd ?_ (h.acyclic rootWindow (j + i))
      rw [Nat.add_right_comm, ancestor_add _ hj, hi]

theorem intermediates_append {below above : List XId} (h : v ∉ below) :
    intermediates (below ++ v :: above) v = below.drop 1 := by
  have hidx : (below ++ v :: above).findIdx? (· == v) = some below.length := by
    rw [List.findIdx?_append, List.findIdx?_eq_none_iff.mpr]
    · simp [List.findIdx?_cons]
    · intro d hd
      simpa using ne_of_mem_of_not_mem hd h
  rw [intermediates, hidx]
  simp

theorem intermediates_pathTo {below above : List XId} {b : XId}
    (h : PathTo (links m) w (below ++ v :: above) b) (hv : v ∉ below) (hne : v ≠ w) :
    below = w :: intermediates (below ++ v :: above) v ∧
      PathTo (links m) w (w :: intermediates (below ++ v :: above) v ++ [v]) v := by
  rw [intermediates_append hv]
  cases below with
  | nil => exact absurd h.head_eq hne
  | cons d below =>
    obtain rfl := h.head_eq
    exact ⟨rfl, h.take⟩

section Plan

inductive Kinship
  | inward | outward | nonlinear
deriving DecidableEq

/-- How the window that is left stands to the window that is entered. -/
def Kinship.Holds (t : Links XId) (oldWindow newWindow : XId) : Kinship → Prop
  | .inward => ProperAncestor t oldWindow newWindow
  | .outward => ProperAncestor t newWindow oldWindow
  | .nonlinear => ¬ ProperAncestor t oldWindow newWindow ∧ ¬ ProperAncestor t newWindow oldWindow

def Kinship.leaveDetail : Kinship → Nat
  | .inward => Detail.inferior
  | .outward => Detail.ancestor
  | .nonlinear => Detail.nonlinear

def Kinship.virtualDetail : Kinship → Nat
  | .inward => Detail.virtual
  | .outward => Detail.virtual
  | .nonlinear => Detail.nonlinearVirtual

def Kinship.enterDetail : Kinship → Nat
  | .inward => Detail.ancestor
  | .outward => Detail.inferior
  | .nonlinear => Detail.nonlinear

/-- A crossing event by what it says: enter or leave, the detail and the window. -/
abbrev Crossing := Bool × Nat × XId

/-- Leave the old window and the windows above it one after the other, then
enter the windows above the new one and the new one itself. -/
def plan (kinship : Kinship) (oldWindow newWindow : XId) (up down : List XId) : List Crossing :=
  (false, kinship.leaveDetail, oldWindow) :: up.map (fun w => (false, kinship.virtualDetail, w)) ++
    down.reverse.map (fun w => (true, kinship.virtualDetail, w)) ++
    [(true, kinship.enterDetail, newWindow)]

def selected (s : PointerState) (c : Crossing) : Bool :=
  windowSelects s.toClientState c.2.2 (if c.1 then enterWindow else leaveWindow)

def CoreEvent.crossing? : CoreEvent → Option Crossing
  | .crossing e => some (e.enter, e.detail, e.event)
  | .keymapNotify _ => none

/-- The windows between the two ends of a move and their lowest common ancestor. -/
structure Route (t : Links XId) (oldWindow newWindow lca : XId) (up down : List XId) : Prop where
  isLca : IsLca t oldWindow newWindow lca
  leaving : Inner t oldWindow up lca
  entering : Inner t newWindow down lca
  nodup : (oldWindow :: up ++ down.reverse ++ [newWindow]).Nodup

end Plan

theorem crossing?_emitCrossing (s : PointerState) (mode : Nat) (x y : Int) (enter : Bool)
    (detail : Nat) (w : XId) :
    (emitCrossing s mode x y enter detail w).filterMap CoreEvent.crossing? =
      [(enter, detail, w)].filter (selected s) := by
  have hseld : selected s (enter, detail, w) =
      windowSelects s.toClientState w (if enter then enterWindow else leaveWindow) := rfl
  rw [emitCrossing, filter_singleton, hseld]
  cases windowSelects s.toClientState w (if enter then enterWindow else leaveWindow) with
  | false => rfl
  | true => rfl

theorem crossing?_flatMap (s : PointerState) (mode : Nat) (x y : Int) (enter : Bool) (detail : Nat)
    (ws : List XId) :
    (ws.flatMap (emitCrossing s mode x y enter detail)).filterMap CoreEvent.crossing? =
      (ws.map (fun w => (enter, detail, w))).filter (selected s) := by
  induction ws with
  | nil => rfl
  | cons w ws ih =>
    rw [flatMap_cons, filterMap_append, ih, crossing?_emitCrossing, ← filter_append]
    rfl

theorem crossing?_keymapNotify (s : PointerState) (w : XId) :
    (keymapNotify s w).filterMap CoreEvent.crossing? = [] := by
  rw [keymapNotify]
  split
  · rfl
  · rfl

/-- What the events of a move say, if its kinship and its route are these. -/
def Follows (s : PointerState) (events : List CoreEvent) (oldWindow newWindow : XId) : Prop :=
  ∃ kinship lca up down, kinship.Holds (links s.windows) oldWindow newWindow ∧
    Route (links s.windows) oldWindow newWindow lca up down ∧
    events.filterMap CoreEvent.crossing? =
      (plan kinship oldWindow newWindow up down).filter (selected s)

variable {s : PointerState} {mode : Nat} {x y : Int} {oldWindow newWindow : XId}

theorem crossings_inward (h : Shallow s.windows) (hold : oldWindow ∈ s.windows)
    (hnew : newWindow ∈ s.windows) (hne : oldWindow ≠ newWindow)
    (hmem : oldWindow ∈ ancestorPath s.windows newWindow rootWindow) :
    Follows s (crossings s mode x y oldWindow newWindow) oldWindow newWindow := by
  have hpath := h.pathTo hnew
  obtain ⟨below, above, heq, hnotMem⟩ := eq_append_cons_of_mem hmem
  rw [heq] at hpath
  obtain ⟨-, hinner⟩ := intermediates_pathTo hpath hnotMem hne
  rw [← heq] at hinner
  set down := intermediates (ancestorPath s.windows newWindow rootWindow) oldWindow with hdown
  refine ⟨.inward, oldWindow, [], down, (h.mem_path_iff hnew hold hne).mp hmem,
    ⟨.of_above hinner.climbs, .inl ⟨rfl, rfl⟩, .inr hinner, ?_⟩, ?_⟩
  · rw [← nodup_reverse]
    simpa using hinner.nodup h.acyclic
  · rw [crossings, if_pos hmem, ← hdown, filterMap_append, filterMap_append,
      crossing?_emitCrossing, crossing?_emitCrossing, crossing?_flatMap, ← filter_append,
      ← filter_append]
    rfl

theorem crossings_outward (h : Shallow s.windows) (hold : oldWindow ∈ s.windows)
    (hnew : newWindow ∈ s.windows) (hne : oldWindow ≠ newWindow)
    (hnot : oldWindow ∉ ancestorPath s.windows newWindow rootWindow)
    (hmem : newWindow ∈ ancestorPath s.windows oldWindow rootWindow) :
    Follows s (crossings s mode x y oldWindow newWindow) oldWindow newWindow := by
  have hpath := h.pathTo hold
  obtain ⟨below, above, heq, hnotMem⟩ := eq_append_cons_of_mem hmem
  rw [heq] at hpath
  obtain ⟨-, hinner⟩ := intermediates_pathTo hpath hnotMem hne.symm
  rw [← heq] at hinner
  set up := intermediates (ancestorPath s.windows oldWindow rootWindow) newWindow with hup
  refine ⟨.outward, newWindow, up, [], (h.mem_path_iff hold hnew hne.symm).mp hmem,
    ⟨(IsLca.of_above hinner.climbs).symm, .inr hinner, .inl ⟨rfl, rfl⟩, ?_⟩, ?_⟩
  · simpa using hinner.nodup h.acyclic
  · rw [crossings, if_neg hnot, if_pos hmem, ← hup, filterMap_append, filterMap_append,
      crossing?_emitCrossing, crossing?_emitCrossing, crossing?_flatMap, ← filter_append,
      ← filter_append]
    simp [plan, Kinship.leaveDetail, Kinship.virtualDetail, Kinship.enterDetail]

theorem crossings_nonlinear (h : Shallow s.windows) (hold : oldWindow ∈ s.windows)
    (hnew : newWindow ∈ s.windows) (hne : oldWindow ≠ newWindow)
    (hnot : oldWindow ∉ ancestorPath s.windows newWindow rootWindow)
    (hnot' : newWindow ∉ ancestorPath s.windows oldWindow rootWindow) :
    Follows s (crossings s mode x y oldWindow newWindow) oldWindow newWindow := by
  have hpath := h.pathTo hold
  have hpath' := h.pathTo hnew
  set oldPath := ancestorPath s.windows oldWindow rootWindow with holdPath
  set newPath := ancestorPath s.windows newWindow rootWindow with hnewPath
  obtain ⟨lca, hfind⟩ : ∃ lca, newPath.find? (fun w => decide (w ∈ oldPath)) = some lca := by
    rw [← isSome_iff_exists, List.find?_isSome]
    exact ⟨rootWindow, hpath'.end_mem, decide_eq_true hpath.end_mem⟩
  obtain ⟨hlca, below', above', heq', hbel'⟩ := List.find?_eq_some_iff_append.mp hfind
  have hlca : lca ∈ oldPath := of_decide_eq_true hlca
  have hfree : ∀ d ∈ below', d ∉ oldPath := fun d hd => by simpa using hbel' d hd
  have hlcaOld : lca ≠ oldWindow := by
    rintro rfl
    exact hnot (mem_of_find?_eq_some hfind)
  have hlcaNew : lca ≠ newWindow := by
    rintro rfl
    exact hnot' hlca
  -- the two slices below the common ancestor
  obtain ⟨below, above, heq, hnotMem⟩ := eq_append_cons_of_mem hlca
  rw [heq] at hpath
  rw [heq'] at hpath'
  obtain ⟨hbel, hleaving⟩ := intermediates_pathTo hpath hnotMem hlcaOld
  obtain ⟨hbelNew, hentering⟩ := intermediates_pathTo hpath' (fun hm => hfree lca hm hlca) hlcaNew
  have hisLca := IsLca.of_first h.acyclic hpath hpath'.take (by simp)
    (fun d hd => by rw [← heq]; exact hfree d hd)
  rw [← heq] at hbel hleaving
  rw [← heq'] at hbelNew hentering
  set up := intermediates oldPath lca with hup
  set down := intermediates newPath lca with hdown
  have hnd : (oldWindow :: up ++ down.reverse ++ [newWindow]).Nodup := by
    have hreverse : down.reverse ++ [newWindow] = (newWindow :: down).reverse := by simp
    rw [append_assoc, hreverse, nodup_append, nodup_reverse]
    refine ⟨((hleaving.nodup h.acyclic).sublist (sublist_append_left _ [lca])),
      ((hentering.nodup h.acyclic).sublist (sublist_append_left _ [lca])), ?_⟩
    intro d hd e he hde
    rw [mem_reverse, ← hbelNew] at he
    refine hfree e he ?_
    rw [← hde, heq]
    exact mem_append_left _ (by rwa [hbel])
  refine ⟨.nonlinear, lca, up, down, ⟨?_, ?_⟩, ⟨hisLca, .inr hleaving, .inr hentering, hnd⟩, ?_⟩
  · rwa [← h.mem_path_iff hnew hold hne]
  · rwa [← h.mem_path_iff hold hnew hne.symm]
  · rw [crossings, if_neg hnot, if_neg hnot', ← holdPath, ← hnewPath, hfind, getD_some]
    dsimp only
    rw [← hup, ← hdown, filterMap_append, filterMap_append, filterMap_append,
      crossing?_emitCrossing, crossing?_emitCrossing, crossing?_flatMap, crossing?_flatMap,
      ← filter_append, ← filter_append, ← filter_append]
    rfl

theorem crossings_follows (h : Shallow s.windows) (hold : oldWindow ∈ s.windows) (hnew : newWindow ∈ s.windows)
    (hne : oldWindow ≠ newWindow) : Follows s (crossings s mode x y oldWindow newWindow) oldWindow newWindow := by
  by_cases hmem : oldWindow ∈ ancestorPath s.windows newWindow rootWindow
  · exact crossings_inward h hold hnew hne hmem
  · by_cases hmem' : newWindow ∈ ancestorPath s.windows oldWindow rootWindow
    · exact crossings_outward h hold hnew hne hmem hmem'
    · exact crossings_nonlinear h hold hnew hne hmem hmem'

theorem exists_route {m : HashMap XId WindowState} (h : Shallow m) (hold : oldWindow ∈ m) (hnew : newWindow ∈ m)
    (hne : oldWindow ≠ newWindow) :
    ∃ kinship : Kinship, ∃ lca up down, kinship.Holds (links m) oldWindow newWindow ∧
      Route (links m) oldWindow newWindow lca up down := by
  let s : PointerState :=
    { Links.loneClient with
      windows := m, lastEnteredWindow := oldWindow, sequence := 0, timestamp := 0, pressedKeys := [] }
  have hs : s.windows = m := rfl
  obtain ⟨kinship, lca, up, down, hkin, hrt, -⟩ :=
    @crossings_follows s 0 0 0 oldWindow newWindow (hs ▸ h) hold hnew hne
  exact ⟨kinship, lca, up, down, hkin, hrt⟩

/-- A pointer that moves from one window of the tree to another leaves and
enters the windows on the way as the protocol says, each of them once, and the
new window is remembered. -/
theorem buildCrossingEvents_route (s : PointerState) (newWindow : XId) (x y : Int) (mode : Nat)
    (h : Shallow s.windows) (hold : s.lastEnteredWindow ∈ s.windows)
    (hnew : newWindow ∈ s.windows) (hne : s.lastEnteredWindow ≠ newWindow) :
    Follows s (buildCrossingEventsWithMode newWindow x y mode s).2 s.lastEnteredWindow newWindow ∧
      (buildCrossingEventsWithMode newWindow x y mode s).1.lastEnteredWindow = newWindow := by
  have hfols : Follows s (crossings s mode x y s.lastEnteredWindow newWindow) s.lastEnteredWindow newWindow :=
    crossings_follows h hold hnew hne
  rw [buildCrossingEventsWithMode, if_neg hne]
  refine ⟨?_, rfl⟩
  obtain ⟨kinship, lca, up, down, hkinship, hrt, hevs⟩ := hfols
  refine ⟨kinship, lca, up, down, hkinship, hrt, ?_⟩
  rw [filterMap_append, crossing?_keymapNotify, append_nil, hevs]

section Cousins

def watcher (id parent : XId) (children : List XId) : WindowState :=
  { serverWindow id ∅ with
    parent := parent, childrenOrder := children, mapped := true, winClass := inputOutput,
    eventMask := enterWindow + leaveWindow }

def cousins : HashMap XId WindowState :=
  ((((∅ : HashMap XId WindowState).insert rootWindow (watcher rootWindow 0 [1, 3])).insert 1
    (watcher 1 rootWindow [2])).insert 2 (watcher 2 1 [])).insert 3 (watcher 3 rootWindow [])

theorem cousins_mem {w : XId} (h : w ∈ cousins) : w = 3 ∨ w = 2 ∨ w = 1 ∨ w = rootWindow := by
  simpa [cousins, Finmap.mem_insert, Finmap.notMem_empty] using h

theorem cousins_shallow : Shallow cousins := by
  refine ⟨?_, ?_, by decide⟩
  · apply noCycle_of_rank (fun w => if w = 2 then 3 else if w = 1 ∨ w = 3 then 2 else
      if w = rootWindow then 1 else 0)
    intro w p h
    rw [parentOf_links, map_eq_some_iff] at h
    obtain ⟨win, hwin, rfl⟩ := h
    have hmem : w ∈ cousins := Finmap.lookup_isSome.mp (by rw [hwin, isSome_some])
    obtain rfl | rfl | rfl | rfl := cousins_mem hmem <;> obtain rfl := some.inj hwin <;> decide
  · intro w hw
    obtain rfl | rfl | rfl | rfl := cousins_mem hw
    · exact ⟨1, by decide, rfl⟩
    · exact ⟨2, by decide, rfl⟩
    · exact ⟨1, by decide, rfl⟩
    · exact ⟨0, by decide, rfl⟩

def inCousin : PointerState :=
  { Links.loneClient with
    windows := cousins, lastEnteredWindow := 2, sequence := 0, timestamp := 0, pressedKeys := [] }

theorem buildCrossingEvents_route_cousin :
    Follows inCousin (buildCrossingEventsWithMode 3 10 10 0 inCousin).2 2 3 ∧
      (buildCrossingEventsWithMode 3 10 10 0 inCousin).1.lastEnteredWindow = 3 :=
  buildCrossingEvents_route inCousin 3 10 10 0 cousins_shallow (by decide) (by decide) (by decide)

example : (buildCrossingEventsWithMode 3 10 10 0 inCousin).2.filterMap CoreEvent.crossing? =
    [(false, Detail.nonlinear, 2), (false, Detail.nonlinearVirtual, 1), (true, Detail.nonlinear, 3)] := by
  decide +kernel

end Cousins

end X11Web.CrossingEvents
