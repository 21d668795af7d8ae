import X11Web.HitTesting
import X11Web.Pixels
import X11Web.SyncExtension

namespace X11Web.ConfigureWindow

open List Option

open HashMaps LinkedForest Windows WindowTree Ewmh
  X11Web.Stacking X11Web.MapReparent X11Web.Pixels X11Web.SyncExtension
open CreateDestroy (CreateWindowRequest createWindowError createWindow newWindow)
open Configure (ConfigureWindowRequest applyGeometry winGravityDelta)

def exposure : Nat := 2 ^ 15
def structureNotify : Nat := 2 ^ 17
def substructureNotify : Nat := 2 ^ 19
def wmProtocols : Atom := 69
def netWmSyncRequest : Atom := 140

/-- The events of ConfigureWindow, without their sequence numbers. -/
inductive ConfigureEvent
  | configureRequest (stackMode : Nat) (parent window sibling : XId) (x y : Int)
      (width height borderWidth valueMask : Nat)
  | resizeRequest (window : XId) (width height : Nat)
  | syncRequest (window : XId) (time : Nat) (value : UInt64)
  | unmapNotify (event window : XId)
  | gravityNotify (event window : XId) (x y : Int)
  | mapNotify (event window : XId)
  | configureNotify (event window aboveSibling : XId) (x y : Int)
      (width height borderWidth : Nat) (overrideRedirect : Bool)
  | expose (window : XId) (width height count : Nat)
deriving DecidableEq

inductive FrontendUpdate
  | windowConfigured (windowId : Uuid) (x y : Int) (width height borderWidth borderPixel : Nat)
  | windowRaised (windowId : Uuid)
deriving DecidableEq

inductive Recipient
  | windowManager
  | subscribers (window : XId) (mask : Nat)
deriving DecidableEq

abbrev Broadcasts := List (Recipient × ConfigureEvent)

/-- The fields of a window record that only this handler needs. -/
structure WindowExtras where
  framebuffer : Framebuffer
  borderPixel : Nat
  syncRequestCounter : Option XId
  syncRequestValue : UInt64
deriving DecidableEq

structure ConfigureState extends ClientState where
  extras : HashMap XId WindowExtras
  counters : HashMap XId SyncCounter
  pendingEvents : List ConfigureEvent
  frontend : List (Option ClientId × FrontendUpdate)
  timestamp : Nat

/-- The server's own windows: the root with the pixels of the screen, the others
without pixels. -/
def initialExtras : HashMap XId WindowExtras :=
  let child := fun id (m : HashMap XId WindowExtras) => m.insert id ⟨Framebuffer.new 0 0, 0, none, 0⟩
  child ximWindow (child systemTrayWindow (child xsettingsWindow (child wmCheckWindow
    (Finmap.singleton rootWindow ⟨Framebuffer.new 1024 768, 0, none, 0⟩))))

def acceptState (counters : HashMap XId SyncCounter) (timestamp : Nat) (s : ClientState) :
    ConfigureState where
  toClientState := s
  extras := initialExtras
  counters := counters
  pendingEvents := []
  frontend := []
  timestamp := timestamp

def newExtras (borderPixel : Nat) (win : WindowState) : WindowExtras :=
  if win.winClass = inputOnly then ⟨Framebuffer.new 0 0, 0, none, 0⟩
  else ⟨Framebuffer.new win.width win.height, borderPixel, none, 0⟩

def handleCreateWindow (borderPixel : Nat) (req : CreateWindowRequest) (s : ConfigureState) :
    ConfigureState × Response :=
  match createWindowError s.toClientState req with
  | some r => (s, r)
  | none =>
    ({ s with
        toClientState := createWindow req s.toClientState
        extras := s.extras.insert req.wid
          (newExtras borderPixel (newWindow s.toClientState req)) }, .ok)

/-- The orders in which the request iterates over the windows and the routes. -/
structure Iteration where
  windows : List XId
  routes : List Uuid

/-- A 16-bit difference; a build with overflow checks stops where it does not fit. -/
def subI16 (checked : Bool) (a b : Int) : Option Int :=
  if -2 ^ 15 ≤ a - b ∧ a - b < 2 ^ 15 then some (a - b)
  else if checked then none else some (asI16 (a - b))

def subUsize (checked : Bool) (a b : Nat) : Option Nat :=
  if b ≤ a then some (a - b) else if checked then none else some (a + 2 ^ 64 - b)

def windowSupportsProtocol (s : ClientState) (w : XId) (protocol : Atom) : Bool :=
  ((s.windows.lookup w).bind (fun win => win.properties.lookup wmProtocols)).any
    (fun pv => pv.format == 32 && (leWords pv.data).contains protocol)

def syncCounter (s : ConfigureState) (w : XId) : Option XId :=
  (s.extras.lookup w).bind (·.syncRequestCounter)

def setSyncRequestValue (w : XId) (value : UInt64) (s : ConfigureState) : ConfigureState :=
  { s with extras := modify w (fun e => { e with syncRequestValue := value }) s.extras }

def nextSyncValue (s : ConfigureState) (w : XId) : UInt64 :=
  (s.extras.lookup w).elim 1 (fun e => e.syncRequestValue + 1)

def pushEvent (event : ConfigureEvent) (s : ConfigureState) : ConfigureState :=
  { s with pendingEvents := s.pendingEvents ++ [event] }

/-- The protocol message of a resize, with the counter set to its value. -/
def requestSync (w : XId) (s : ConfigureState) : ConfigureState :=
  match syncCounter s w with
  | none => s
  | some counterId =>
    if windowSupportsProtocol s.toClientState w netWmSyncRequest then
      let value := nextSyncValue s w
      let s' := setSyncRequestValue w value s
      { s' with
        counters := modify counterId (fun c => { c with
          value := ⟨(value >>> 32).toUInt32.toInt32, value.toUInt32⟩ }) s'.counters
        pendingEvents := s'.pendingEvents ++ [.syncRequest w s.timestamp value] }
    else s

/-- The same message once more before the ConfigureNotify, without the test of the
protocol and without the counter. Here a build with overflow checks stops at the last
value. -/
def repeatSync (checked : Bool) (w : XId) (s : ConfigureState) :
    Option (ConfigureState × Broadcasts) :=
  match syncCounter s w with
  | none => some (s, [])
  | some _ =>
    let value := nextSyncValue s w
    if checked && value == 0 then none
    else
      let event := .syncRequest w s.timestamp value
      some (pushEvent event (setSyncRequestValue w value s),
        [(.subscribers w structureNotify, event)])

/-- The UUID of the connection, or else one of the router. -/
def resolvedUuid (it : Iteration) (s : ClientState) (w : XId) : Option Uuid :=
  (s.x11ToUuid.lookup w).or
    (it.routes.find? (fun u => (s.shared.windowRoutes.lookup u).any (·.x11WindowId == w)))

def fitFramebuffer (gravity : UInt8) (win : WindowState) (e : WindowExtras) : WindowExtras :=
  if win.width ≠ e.framebuffer.width ∨ win.height ≠ e.framebuffer.height then
    { e with framebuffer := e.framebuffer.resizeWithGravity win.width win.height gravity }
  else e

def resizeFramebuffer (w : XId) (win : WindowState) (s : ConfigureState) : ConfigureState :=
  let gravity := UInt8.ofNat ((s.bitGravity.lookup w).getD 0)
  { s with extras := modify w (fitFramebuffer gravity win) s.extras }

def reportConfigured (it : Iteration) (w : XId) (win : WindowState) (s : ConfigureState) :
    ConfigureState :=
  match resolvedUuid it s.toClientState w with
  | none => s
  | some uuid =>
    { s with frontend := s.frontend ++ [(win.ownerClientId, .windowConfigured uuid win.x win.y
        win.width win.height win.borderWidth ((s.extras.lookup w).elim 0 (·.borderPixel)))] }

def editWindow (w : XId) (f : WindowState → WindowState) (s : ConfigureState) : ConfigureState :=
  { s with toClientState := updateWindow w f s.toClientState }

structure GravityLoop where
  state : ConfigureState
  unmapped : List XId
  broadcasts : Broadcasts

/-- One child of a resized window: it moves by its gravity, or is unmapped to be
mapped again later. -/
def applyGravity (wid : XId) (dw dh : Int) (acc : GravityLoop) (child : XId) : GravityLoop :=
  let s := acc.state
  let gravity := (s.winGravity.lookup child).getD 1
  if gravity = 0 then
    if (s.windows.lookup child).any (·.mapped) then
      { state := pushEvent (.unmapNotify child child)
          (editWindow child (fun c => { c with mapped := false }) s)
        unmapped := acc.unmapped ++ [child]
        broadcasts := acc.broadcasts ++
          [(.subscribers child structureNotify, .unmapNotify child child),
            (.subscribers wid substructureNotify, .unmapNotify wid child)] }
    else acc
  else
    let (dx, dy) := winGravityDelta gravity dw dh
    if dx = 0 ∧ dy = 0 then acc
    else
      match s.windows.lookup child with
      | none => acc
      | some c =>
        let x := saturatingAddI16 c.x dx
        let y := saturatingAddI16 c.y dy
        { acc with
          state := pushEvent (.gravityNotify child wid x y)
            (editWindow child (fun c => { c with
              x := saturatingAddI16 c.x dx, y := saturatingAddI16 c.y dy }) s)
          broadcasts := acc.broadcasts ++
            [(.subscribers child structureNotify, .gravityNotify child wid x y),
              (.subscribers wid substructureNotify, .gravityNotify wid wid x y)] }

def remapChild (wid : XId) (acc : ConfigureState × Broadcasts) (child : XId) :
    ConfigureState × Broadcasts :=
  (pushEvent (.mapNotify child child) (editWindow child (fun c => { c with mapped := true }) acc.1),
    acc.2 ++ [(.subscribers child structureNotify, .mapNotify child child),
      (.subscribers wid substructureNotify, .mapNotify wid child)])

def resizeChildren (wid : XId) (children : List XId) (dw dh : Int) (s : ConfigureState) :
    ConfigureState × Broadcasts :=
  if dw = 0 ∧ dh = 0 then (s, [])
  else
    let moved := children.foldl (applyGravity wid dw dh) ⟨s, [], []⟩
    moved.unmapped.foldl (remapChild wid) (moved.state, moved.broadcasts)

/-- The stacking change raises the window, so that the frontend hears of it. -/
def raises (mode : Nat) (w parentId sibling : XId) (s : ClientState) : Bool :=
  if mode = 0 then true
  else if mode = 2 ∨ mode = 4 then
    let cs := ((s.windows.lookup parentId).map (·.childrenOrder)).getD []
    match s.windows.lookup w, cs.findIdx? (· == w) with
    | some win, some winIdx => occludedByAbove s cs winIdx (outerRect win) sibling
    | _, _ => false
  else false

def reportRaised (w : XId) (s : ConfigureState) : ConfigureState :=
  match s.x11ToUuid.lookup w with
  | none => s
  | some uuid => { s with frontend := s.frontend ++ [(some s.clientId, .windowRaised uuid)] }

/-- The sibling of a request that names a stack mode is not a child of the same
parent. -/
def badSibling (s : ClientState) (parentId sibling : XId) : Bool :=
  sibling != 0 && !(s.windows.lookup sibling).any (fun w => w.parent == parentId)

def stackWindow (mode : Nat) (w parentId sibling : XId) (s : ConfigureState) : ConfigureState :=
  let s' := { s with toClientState := applyStackMode mode w parentId sibling s.toClientState }
  if raises mode w parentId sibling s.toClientState then reportRaised w s' else s'

/-- The window below this one in the stack, or 0. -/
def aboveSiblingOf (s : ClientState) (parentId w : XId) : XId :=
  match s.windows.lookup parentId with
  | none => 0
  | some parent =>
    match parent.childrenOrder.findIdx? (· == w) with
    | some (pos + 1) => parent.childrenOrder.getD pos 0
    | _ => 0

def deliverEvent (w : XId) (mask : Nat) (event : ConfigureEvent) (s : ConfigureState) :
    ConfigureState × Broadcasts :=
  (if windowSelects s.toClientState w mask then pushEvent event s else s,
    [(.subscribers w mask, event)])

/-- The mapped windows below `wid` that select Exposure, as the map lists them. -/
def exposedDescendants (order : List XId) (m : HashMap XId WindowState) (wid : XId) :
    List WindowState :=
  (order.filterMap m.lookup).filter (fun w =>
    w.mapped && w.id != wid && isDescendantOf m w.id wid && w.eventMask &&& exposure != 0)

/-- The loop over the descendants from the index `i` on. -/
def exposeBelow (checked : Bool) (total base : Nat) : Nat → List WindowState →
    Option (List ConfigureEvent)
  | _, [] => some []
  | i, w :: ws =>
    (subUsize checked total base).bind fun n => (subUsize checked n 1).bind fun n =>
      (subUsize checked n i).bind fun remaining =>
        (exposeBelow checked total base (i + 1) ws).map
          (ConfigureEvent.expose w.id w.width w.height (remaining % 2 ^ 16) :: ·)

/-- The Expose events of a resize for the connection itself, and the one for the
others. -/
def exposeEvents (checked : Bool) (it : Iteration) (s : ClientState) (wid : XId)
    (width height : Nat) : Option (List ConfigureEvent × Broadcasts) :=
  let descendants := exposedDescendants it.windows s.windows wid
  let selfSelected := windowSelects s wid exposure
  let base := if selfSelected then 1 else 0
  let total := base + descendants.length
  (subUsize checked total 1).bind fun count =>
    let expose := ConfigureEvent.expose wid width height (count % 2 ^ 16)
    (exposeBelow checked total base 0 descendants).map fun below =>
      ((if selfSelected then [expose] else []) ++ below, [(.subscribers wid exposure, expose)])

structure Outcome where
  state : ConfigureState
  response : Response
  returned : Option ConfigureEvent
  broadcasts : Broadcasts

def valueMask (req : ConfigureWindowRequest) : Nat :=
  (if req.x.isSome then 1 else 0) + (if req.y.isSome then 2 else 0) +
    (if req.width.isSome then 4 else 0) + (if req.height.isSome then 8 else 0) +
    (if req.borderWidth.isSome then 16 else 0) + (if req.sibling.isSome then 32 else 0) +
    (if req.stackMode.isSome then 64 else 0)

def configureRequestEvent (req : ConfigureWindowRequest) (win : WindowState) : ConfigureEvent :=
  .configureRequest (req.stackMode.getD 0 % 2 ^ 8) win.parent req.window (req.sibling.getD 0)
    (req.x.elim win.x asI16) (req.y.elim win.y asI16) (req.width.elim win.width (fun v => asU16 v))
    (req.height.elim win.height (fun v => asU16 v))
    (req.borderWidth.elim win.borderWidth (fun v => asU16 v)) (valueMask req)

def resizeRedirected (s : ClientState) (req : ConfigureWindowRequest) : Bool :=
  hasMaskSubscriber s.shared req.window resizeRedirect s.clientId &&
    (req.width.isSome || req.height.isSome)

def resizeRequests (s : ClientState) (req : ConfigureWindowRequest) : Broadcasts :=
  if resizeRedirected s req then
    let win := s.windows.lookup req.window
    [(.subscribers req.window resizeRedirect, .resizeRequest req.window
      (req.width.elim (win.elim 1 (·.width)) (fun v => asU16 v))
      (req.height.elim (win.elim 1 (·.height)) (fun v => asU16 v)))]
  else []

def appliedWidth (s : ClientState) (req : ConfigureWindowRequest) : Option Nat :=
  if resizeRedirected s req then none else req.width

def appliedHeight (s : ClientState) (req : ConfigureWindowRequest) : Option Nat :=
  if resizeRedirected s req then none else req.height

def movesOrResizes (s : ClientState) (req : ConfigureWindowRequest) : Bool :=
  req.x.isSome || req.y.isSome || (appliedWidth s req).isSome || (appliedHeight s req).isSome

/-- What follows the change of the fields: the pixels, the frontend and the shared
registry. -/
def publishChange (it : Iteration) (w : XId) (new : WindowState) (s : ConfigureState) :
    ConfigureState :=
  let reported := reportConfigured it w new (resizeFramebuffer w new s)
  { reported with toClientState := markWindowSharedDirty w reported.toClientState }

def applyChange (checked : Bool) (it : Iteration) (w : XId) (old new : WindowState)
    (s : ConfigureState) : Option (ConfigureState × Broadcasts) :=
  (subI16 checked (asI16 new.width) (asI16 old.width)).bind fun dw =>
    (subI16 checked (asI16 new.height) (asI16 old.height)).map fun dh =>
      resizeChildren w old.childrenOrder dw dh (publishChange it w new s)

/-- Where a request stands after the stacking: it is answered, or its changes are
still to be announced. -/
inductive Stage
  | answered (outcome : Outcome)
  | announcing (state : ConfigureState) (broadcasts : Broadcasts)

def restackStage (req : ConfigureWindowRequest) (parentId : XId) (changed : Bool)
    (s : ConfigureState) (broadcasts : Broadcasts) : Stage :=
  match req.stackMode with
  | some mode =>
    let sibling := req.sibling.getD 0
    if badSibling s.toClientState parentId sibling then
      .answered ⟨s, .error .match_ 0 12, none, broadcasts⟩
    else .announcing (stackWindow mode req.window parentId sibling s) broadcasts
  | none => if changed then .announcing s broadcasts else .answered ⟨s, .ok, none, broadcasts⟩

/-- The window after the field changes, and the error that stopped them. -/
def geometryOf (s : ClientState) (req : ConfigureWindowRequest) (win : WindowState) :
    WindowState × Option Response :=
  applyGeometry req (appliedWidth s req) (appliedHeight s req) (getSizeHints s req.window) win

def editGeometry (req : ConfigureWindowRequest) (s : ConfigureState) : ConfigureState :=
  let resizing := (appliedWidth s.toClientState req).isSome ||
    (appliedHeight s.toClientState req).isSome
  editWindow req.window (fun w => (geometryOf s.toClientState req w).1)
    (if resizing then requestSync req.window s else s)

def configureStage (checked : Bool) (it : Iteration) (req : ConfigureWindowRequest)
    (win : WindowState) (s : ConfigureState) : Option Stage :=
  let redirects := resizeRequests s.toClientState req
  let edited := editGeometry req s
  match (geometryOf s.toClientState req win).2 with
  | some r => some (.answered ⟨edited, r, none, redirects⟩)
  | none =>
    if movesOrResizes s.toClientState req then
      (applyChange checked it req.window win (geometryOf s.toClientState req win).1 edited).map
        fun r => restackStage req win.parent true r.1 (redirects ++ r.2)
    else some (restackStage req win.parent false edited redirects)

def configureNotifyFor (event w sibling : XId) (win : WindowState) : ConfigureEvent :=
  .configureNotify event w sibling win.x win.y win.width win.height win.borderWidth
    win.overrideRedirect

/-- The ConfigureNotify events to the parent and to the window itself. -/
def notifyConfigured (checked : Bool) (w sibling : XId) (resized : Bool) (win : WindowState)
    (s : ConfigureState) : Option (ConfigureState × Broadcasts) :=
  (if resized then repeatSync checked w s else some (s, [])).map fun synced =>
    let outer := deliverEvent win.parent substructureNotify
      (configureNotifyFor win.parent w sibling win) synced.1
    let inner := deliverEvent w structureNotify (configureNotifyFor w w sibling win) outer.1
    (inner.1, synced.2 ++ outer.2 ++ inner.2)

/-- The notifications and, after a resize, the Expose events. The Present
notification and the visibility of the siblings, which come last, are left out. -/
def announce (checked : Bool) (it : Iteration) (w : XId) (old : WindowState) (s : ConfigureState)
    (broadcasts : Broadcasts) : Option Outcome :=
  match s.windows.lookup w with
  | none => some ⟨s, .ok, none, broadcasts⟩
  | some win =>
    let sibling := aboveSiblingOf s.toClientState win.parent w
    let resized := win.width != old.width || win.height != old.height
    let returned := some (configureNotifyFor w w sibling win)
    (notifyConfigured checked w sibling resized win s).bind fun notified =>
      let sent := broadcasts ++ notified.2
      if resized then
        (exposeEvents checked it notified.1.toClientState w win.width win.height).map
          fun exposed => ⟨{ notified.1 with
            pendingEvents := notified.1.pendingEvents ++ exposed.1 }, .ok, returned,
            sent ++ exposed.2⟩
      else some ⟨notified.1, .ok, returned, sent⟩

def Stage.finish (checked : Bool) (it : Iteration) (w : XId) (old : WindowState) :
    Stage → Option Outcome
  | .answered outcome => some outcome
  | .announcing s broadcasts => announce checked it w old s broadcasts

/-- ConfigureWindow; `none` where a build with overflow checks stops. -/
def handleConfigureWindow (checked : Bool) (it : Iteration) (req : ConfigureWindowRequest)
    (s : ConfigureState) : Option Outcome :=
  match s.windows.lookup req.window with
  | none =>
    if req.window ≠ rootWindow then some ⟨s, .error .window req.window 12, none, []⟩
    else some ⟨s, .ok, none, resizeRequests s.toClientState req⟩
  | some win =>
    if substructureRedirected s.toClientState win then
      let event := configureRequestEvent req win
      some ⟨s, .ok, none, (if s.shared.wmClientId.isSome then [(.windowManager, event)] else []) ++
        [(.subscribers win.parent substructureRedirect, event)]⟩
    else
      (configureStage checked it req win s).bind (Stage.finish checked it req.window win)

section ClientPart

variable {s : ConfigureState} {w : XId}

@[simp] theorem requestSync_toClientState (w : XId) (s : ConfigureState) :
    (requestSync w s).toClientState = s.toClientState := by
  rw [requestSync]
  split
  · rfl
  · split
    · rfl
    · rfl

theorem repeatSync_client {checked : Bool} {r : ConfigureState × Broadcasts}
    (h : repeatSync checked w s = some r) : r.1.toClientState = s.toClientState := by
  rw [repeatSync] at h
  split at h
  · cases h
    rfl
  · dsimp only at h
    split at h
    · cases h
    · cases h
      rfl

@[simp] theorem reportConfigured_toClientState (it : Iteration) (w : XId) (win : WindowState)
    (s : ConfigureState) : (reportConfigured it w win s).toClientState = s.toClientState := by
  rw [reportConfigured]
  split
  · rfl
  · rfl

@[simp] theorem publishChange_toClientState (it : Iteration) (w : XId) (new : WindowState)
    (s : ConfigureState) : (publishChange it w new s).toClientState =
      markWindowSharedDirty w s.toClientState := by
  rw [publishChange]
  dsimp only
  rw [reportConfigured_toClientState]
  rfl

@[simp] theorem reportRaised_toClientState (w : XId) (s : ConfigureState) :
    (reportRaised w s).toClientState = s.toClientState := by
  rw [reportRaised]
  split
  · rfl
  · rfl

@[simp] theorem deliverEvent_toClientState (w : XId) (mask : Nat) (event : ConfigureEvent)
    (s : ConfigureState) : (deliverEvent w mask event s).1.toClientState = s.toClientState := by
  rw [deliverEvent]
  split
  · rfl
  · rfl

@[simp] theorem stackWindow_toClientState (mode : Nat) (w parentId sibling : XId)
    (s : ConfigureState) : (stackWindow mode w parentId sibling s).toClientState =
      applyStackMode mode w parentId sibling s.toClientState := by
  rw [stackWindow]
  dsimp only
  split
  · rw [reportRaised_toClientState]
  · rfl

theorem updateWindow_of_absent {s : ClientState} (h : s.windows.lookup w = none)
    (f : WindowState → WindowState) : updateWindow w f s = s := by
  rw [updateWindow, HashMaps.modify, h]

variable (wid : XId)

theorem applyGravity_client (dw dh : Int) (acc : GravityLoop) (child : XId) :
    ((applyGravity wid dw dh acc child).state.toClientState,
      (applyGravity wid dw dh acc child).unmapped) =
      Configure.applyGravity dw dh (acc.state.toClientState, acc.unmapped) child := by
  rw [applyGravity, Configure.applyGravity]
  dsimp only
  split
  · split
    · rfl
    · rfl
  · split
    · rfl
    · cases h : acc.state.windows.lookup child with
      | none => rw [updateWindow_of_absent h]
      | some c => rfl

theorem foldl_applyGravity_client (dw dh : Int) (children : List XId) (acc : GravityLoop) :
    ((children.foldl (applyGravity wid dw dh) acc).state.toClientState,
      (children.foldl (applyGravity wid dw dh) acc).unmapped) =
      children.foldl (Configure.applyGravity dw dh) (acc.state.toClientState, acc.unmapped) := by
  induction children generalizing acc with
  | nil => rfl
  | cons child children ih =>
    rw [foldl_cons, foldl_cons, ih, applyGravity_client]

theorem foldl_remapChild_client (children : List XId) (acc : ConfigureState × Broadcasts) :
    (children.foldl (remapChild wid) acc).1.toClientState =
      children.foldl (fun s c => updateWindow c (fun c => { c with mapped := true }) s)
        acc.1.toClientState := by
  induction children generalizing acc with
  | nil => rfl
  | cons child children ih =>
    rw [foldl_cons, foldl_cons, ih]
    rfl

theorem resizeChildren_client (children : List XId) (dw dh : Int) (s : ConfigureState) :
    (resizeChildren wid children dw dh s).1.toClientState =
      Configure.resizeChildren children dw dh s.toClientState := by
  rw [resizeChildren, Configure.resizeChildren]
  split
  · rfl
  · have h := foldl_applyGravity_client wid dw dh children ⟨s, [], []⟩
    dsimp only at h ⊢
    rw [foldl_remapChild_client, ← h]

/-- A projection of the window records that moving and mapping leave alone is the same
after the children followed. -/
theorem resizeChildren_map {P : Type} (g : WindowState → P)
    (hmove : ∀ c x y, g { c with x := x, y := y } = g c)
    (hmap : ∀ c b, g { c with mapped := b } = g c) (children : List XId) (dw dh : Int)
    (s : ClientState) (v : XId) :
    ((Configure.resizeChildren children dw dh s).windows.lookup v).map g =
      (s.windows.lookup v).map g := by
  have hstep : ∀ (acc : ClientState × List XId) (child : XId),
      ((Configure.applyGravity dw dh acc child).1.windows.lookup v).map g =
        (acc.1.windows.lookup v).map g := by
    intro acc child
    rw [Configure.applyGravity]
    dsimp only
    split
    · split
      · exact lookup_modify_map g child v _ _ (fun c => hmap c false)
      · rfl
    · split
      · rfl
      · exact lookup_modify_map g child v _ _ (fun c => hmove c _ _)
  have hmvd : ∀ acc : ClientState × List XId,
      ((children.foldl (Configure.applyGravity dw dh) acc).1.windows.lookup v).map g =
        (acc.1.windows.lookup v).map g := by
    induction children with
    | nil => exact fun acc => rfl
    | cons child children ih =>
      intro acc
      rw [foldl_cons, ih, hstep]
  have hremapped : ∀ (unmapped : List XId) (s : ClientState),
      ((unmapped.foldl (fun s c => updateWindow c (fun c => { c with mapped := true }) s)
        s).windows.lookup v).map g = (s.windows.lookup v).map g := by
    intro unmapped
    induction unmapped with
    | nil => exact fun s => rfl
    | cons child unmapped ih =>
      intro s
      rw [foldl_cons, ih]
      exact lookup_modify_map g child v _ _ (fun c => hmap c true)
  rw [Configure.resizeChildren]
  split
  · rfl
  · dsimp only
    rw [hremapped, hmvd]

end ClientPart

theorem subI16_unchecked (a b : Int) : subI16 false a b = some (asI16 (a - b)) := by
  rw [subI16]
  split
  · next h =>
    rw [HitTesting.asI16_of_isI16 h]
  · rfl

theorem subI16_self (checked : Bool) (a : Int) : subI16 checked a a = some 0 := by
  rw [subI16, if_pos (by rw [sub_self]; decide), sub_self]

theorem subUsize_unchecked (a b : Nat) :
    subUsize false a b = some (if b ≤ a then a - b else a + 2 ^ 64 - b) := by
  rw [subUsize]
  split
  · rfl
  · rfl

theorem exposeBelow_unchecked (total base i : Nat) (ws : List WindowState) :
    ∃ events, exposeBelow false total base i ws = some events := by
  induction ws generalizing i with
  | nil => exact ⟨[], rfl⟩
  | cons w ws ih =>
    obtain ⟨events, hevs⟩ := ih (i + 1)
    rw [exposeBelow]
    simp only [subUsize_unchecked, bind_some, hevs, map_some]
    exact ⟨_, rfl⟩

theorem exposeEvents_unchecked (it : Iteration) (s : ClientState) (wid : XId)
    (width height : Nat) : ∃ r, exposeEvents false it s wid width height = some r := by
  rw [exposeEvents]
  simp only [subUsize_unchecked, bind_some]
  obtain ⟨below, hbel⟩ := exposeBelow_unchecked
    ((if windowSelects s wid exposure then 1 else 0) +
      (exposedDescendants it.windows s.windows wid).length)
    (if windowSelects s wid exposure then 1 else 0) 0
    (exposedDescendants it.windows s.windows wid)
  rw [hbel]
  exact ⟨_, rfl⟩

section Refinement

variable {it : Iteration} {req : ConfigureWindowRequest} {s : ConfigureState}

theorem notifyConfigured_client {checked : Bool} {w sibling : XId} {resized : Bool}
    {win : WindowState} {r : ConfigureState × Broadcasts}
    (h : notifyConfigured checked w sibling resized win s = some r) :
    r.1.toClientState = s.toClientState := by
  obtain ⟨synced, hsynced, rfl⟩ := map_eq_some_iff.mp h
  rw [deliverEvent_toClientState, deliverEvent_toClientState]
  split at hsynced
  · exact repeatSync_client hsynced
  · cases hsynced
    rfl

theorem notifyConfigured_unchecked (w sibling : XId) (resized : Bool) (win : WindowState)
    (s : ConfigureState) : ∃ r, notifyConfigured false w sibling resized win s = some r := by
  have hrepeat : ∃ synced, repeatSync false w s = some synced := by
    rw [repeatSync]
    split
    · exact ⟨_, rfl⟩
    · exact ⟨_, rfl⟩
  obtain ⟨synced, hsynced⟩ := hrepeat
  rw [notifyConfigured]
  cases resized with
  | false => exact ⟨_, rfl⟩
  | true =>
    rw [hsynced]
    exact ⟨_, rfl⟩

theorem announce_eq_some {checked : Bool} {w : XId} {old win : WindowState}
    {broadcasts : Broadcasts} {outcome : Outcome} (hwin : s.windows.lookup w = some win)
    (h : announce checked it w old s broadcasts = some outcome) :
    ∃ notified : ConfigureState × Broadcasts, notified.1.toClientState = s.toClientState ∧
      outcome.response = .ok ∧
      (win.width = old.width ∧ win.height = old.height ∧ outcome.state = notified.1 ∨
        (win.width ≠ old.width ∨ win.height ≠ old.height) ∧ ∃ exposed,
          exposeEvents checked it s.toClientState w win.width win.height = some exposed ∧
          outcome.state = { notified.1 with
            pendingEvents := notified.1.pendingEvents ++ exposed.1 }) := by
  rw [announce, hwin] at h
  dsimp only at h
  obtain ⟨notified, hnotified, h⟩ := bind_eq_some_iff.mp h
  have hcl := notifyConfigured_client hnotified
  split at h
  · next hrszd =>
    obtain ⟨exposed, hexpd, rfl⟩ := map_eq_some_iff.mp h
    rw [hcl] at hexpd
    refine ⟨notified, hcl, rfl, .inr ⟨?_, exposed, hexpd, rfl⟩⟩
    simpa using hrszd
  · next hrszd =>
    cases h
    refine ⟨notified, hcl, rfl, .inl ?_⟩
    simpa using hrszd

theorem announce_client {checked : Bool} {w : XId} {old : WindowState} {broadcasts : Broadcasts}
    {outcome : Outcome} (h : announce checked it w old s broadcasts = some outcome) :
    outcome.state.toClientState = s.toClientState ∧ outcome.response = .ok := by
  cases hwin : s.windows.lookup w with
  | none =>
    rw [announce, hwin] at h
    cases h
    exact ⟨rfl, rfl⟩
  | some win =>
    obtain ⟨notified, hcl, hresp, hst⟩ := announce_eq_some hwin h
    obtain ⟨-, -, hst⟩ | ⟨-, exposed, -, hst⟩ := hst
    · exact ⟨hst ▸ hcl, hresp⟩
    · exact ⟨hst ▸ hcl, hresp⟩

theorem announce_unchecked (it : Iteration) (w : XId) (old : WindowState) (s : ConfigureState)
    (broadcasts : Broadcasts) : ∃ outcome, announce false it w old s broadcasts = some outcome := by
  rw [announce]
  split
  · exact ⟨_, rfl⟩
  · next win hwin =>
    dsimp only
    obtain ⟨notified, hnotified⟩ := notifyConfigured_unchecked w
      (aboveSiblingOf s.toClientState win.parent w)
      (win.width != old.width || win.height != old.height) win s
    rw [hnotified, bind_some]
    split
    · obtain ⟨exposed, hexpd⟩ :=
        exposeEvents_unchecked it notified.1.toClientState w win.width win.height
      rw [hexpd]
      exact ⟨_, rfl⟩
    · exact ⟨_, rfl⟩

theorem applyChange_eq_some_iff {checked : Bool} {w : XId} {old new : WindowState}
    {r : ConfigureState × Broadcasts} : applyChange checked it w old new s = some r ↔
      ∃ dw dh, subI16 checked (asI16 new.width) (asI16 old.width) = some dw ∧
        subI16 checked (asI16 new.height) (asI16 old.height) = some dh ∧
        resizeChildren w old.childrenOrder dw dh (publishChange it w new s) = r := by
  simp only [applyChange, bind_eq_some_iff, map_eq_some_iff, exists_and_left]

theorem applyChange_unchecked (it : Iteration) (w : XId) (old new : WindowState)
    (s : ConfigureState) : ∃ r, applyChange false it w old new s = some r ∧
      r.1.toClientState = Configure.resizeChildren old.childrenOrder
        (asI16 (asI16 new.width - asI16 old.width)) (asI16 (asI16 new.height - asI16 old.height))
        (markWindowSharedDirty w s.toClientState) := by
  rw [applyChange]
  simp only [subI16_unchecked, bind_some, map_some]
  refine ⟨_, rfl, ?_⟩
  rw [resizeChildren_client, publishChange_toClientState]

def Stage.Refines (stage : Stage) (r : ClientState × Response) : Prop :=
  match stage with
  | .answered outcome => (outcome.state.toClientState, outcome.response) = r
  | .announcing s _ => (s.toClientState, Response.ok) = r

theorem restackStage_refines (req : ConfigureWindowRequest) (win : WindowState) (changed : Bool)
    (s : ConfigureState) (broadcasts : Broadcasts) :
    (restackStage req win.parent changed s broadcasts).Refines
      (Configure.stackWindow req win s.toClientState) := by
  rw [restackStage, Configure.stackWindow]
  cases req.stackMode with
  | none =>
    cases changed with
    | false => rfl
    | true => rfl
  | some mode =>
    have hbad : badSibling s.toClientState win.parent (req.sibling.getD 0) = true ↔
        req.sibling.getD 0 ≠ 0 ∧ ¬ (s.windows.lookup (req.sibling.getD 0)).any
          (fun w => w.parent == win.parent) := by
      rw [badSibling]
      simp
    dsimp only
    by_cases h : badSibling s.toClientState win.parent (req.sibling.getD 0) = true
    · rw [if_pos h, if_pos (hbad.mp h)]
      rfl
    · rw [if_neg h, if_neg (fun hn => h (hbad.mpr hn))]
      exact congrArg (·, Response.ok) (stackWindow_toClientState mode _ _ _ s)

@[simp] theorem editGeometry_toClientState (req : ConfigureWindowRequest) (s : ConfigureState) :
    (editGeometry req s).toClientState = updateWindow req.window
      (fun w => (geometryOf s.toClientState req w).1) s.toClientState := by
  have hsynced : ∀ b : Bool, (if b then requestSync req.window s else s).toClientState =
      s.toClientState := by
    intro b
    cases b with
    | false => rfl
    | true => exact requestSync_toClientState req.window s
  rw [editGeometry, editWindow]
  dsimp only
  rw [hsynced]

theorem configureStage_refines (it : Iteration) (req : ConfigureWindowRequest) (win : WindowState)
    (s : ConfigureState) : ∃ stage, configureStage false it req win s = some stage ∧
      stage.Refines (Configure.configureWindow req (appliedWidth s.toClientState req)
        (appliedHeight s.toClientState req) win s.toClientState) := by
  rw [configureStage, Configure.configureWindow]
  dsimp only
  rw [← geometryOf, ← movesOrResizes]
  cases (geometryOf s.toClientState req win).2 with
  | some r => exact ⟨_, rfl, congrArg (·, r) (editGeometry_toClientState req s)⟩
  | none =>
    dsimp only
    split
    · obtain ⟨r, hr, hcl⟩ := applyChange_unchecked it req.window win
        (geometryOf s.toClientState req win).1 (editGeometry req s)
      rw [hr]
      refine ⟨_, rfl, ?_⟩
      have h := restackStage_refines req win true r.1 (resizeRequests s.toClientState req ++ r.2)
      rw [hcl, editGeometry_toClientState] at h
      exact h
    · refine ⟨_, rfl, ?_⟩
      have h := restackStage_refines req win false (editGeometry req s)
        (resizeRequests s.toClientState req)
      rw [editGeometry_toClientState] at h
      exact h

theorem resizeApplied_eq (s : ClientState) (req : ConfigureWindowRequest) {size : Option Nat}
    (h : size.isSome → (req.width.isSome || req.height.isSome) = true) :
    (if resizeRedirected s req then none else size) =
      if hasMaskSubscriber s.shared req.window resizeRedirect s.clientId then none else size := by
  cases size with
  | none => rw [ite_self, ite_self]
  | some v => rw [resizeRedirected, h rfl, Bool.and_true]

theorem appliedWidth_eq (s : ClientState) (req : ConfigureWindowRequest) :
    appliedWidth s req =
      if hasMaskSubscriber s.shared req.window resizeRedirect s.clientId then none
      else req.width :=
  resizeApplied_eq s req fun h => by rw [h, Bool.true_or]

theorem appliedHeight_eq (s : ClientState) (req : ConfigureWindowRequest) :
    appliedHeight s req =
      if hasMaskSubscriber s.shared req.window resizeRedirect s.clientId then none
      else req.height :=
  resizeApplied_eq s req fun h => by rw [h, Bool.or_true]

/-- Without overflow checks the handler always ends, and on the window records it is
the handler without events. -/
theorem handleConfigureWindow_refines (it : Iteration) (req : ConfigureWindowRequest)
    (s : ConfigureState) : ∃ outcome, handleConfigureWindow false it req s = some outcome ∧
      (outcome.state.toClientState, outcome.response) =
        Configure.handleConfigureWindow req s.toClientState := by
  rw [handleConfigureWindow, Configure.handleConfigureWindow]
  cases hwin : s.windows.lookup req.window with
  | none =>
    dsimp only
    split
    · exact ⟨_, rfl, rfl⟩
    · exact ⟨_, rfl, rfl⟩
  | some win =>
    dsimp only
    split
    · exact ⟨_, rfl, rfl⟩
    · obtain ⟨stage, hstage, hrefines⟩ := configureStage_refines it req win s
      rw [hstage, bind_some]
      have hplain : Configure.configureWindow req (appliedWidth s.toClientState req)
          (appliedHeight s.toClientState req) win s.toClientState =
          if hasMaskSubscriber s.shared req.window resizeRedirect s.clientId then
            Configure.configureWindow req none none win s.toClientState
          else Configure.configureWindow req req.width req.height win s.toClientState := by
        rw [appliedWidth_eq, appliedHeight_eq]
        split
        · rfl
        · rfl
      rw [← hplain]
      cases stage with
      | answered outcome => exact ⟨outcome, rfl, hrefines⟩
      | announcing s' broadcasts =>
        obtain ⟨outcome, houtcome⟩ := announce_unchecked it req.window win s' broadcasts
        obtain ⟨hcl, hresp⟩ := announce_client houtcome
        refine ⟨outcome, houtcome, ?_⟩
        rw [hcl, hresp]
        exact hrefines

end Refinement

section Stages

variable {checked : Bool} {it : Iteration} {req : ConfigureWindowRequest} {s : ConfigureState}
  {win : WindowState} {r : ConfigureState × Broadcasts}

theorem lookup_editGeometry (hwin : s.windows.lookup req.window = some win) :
    (editGeometry req s).windows.lookup req.window =
      some (geometryOf s.toClientState req win).1 := by
  rw [editGeometry_toClientState, updateWindow, lookup_modify_self, hwin]
  rfl

theorem editGeometry_sameTree (req : ConfigureWindowRequest) (s : ConfigureState) :
    SameTree s.toClientState (editGeometry req s).toClientState := by
  rw [editGeometry_toClientState]
  exact (SameTree.refl _).updateWindow _ _ (fun w => Configure.outline_applyGeometry req _ _ _ w)

theorem applyChange_sameTree {w : XId} {old new : WindowState} {t : ConfigureState}
    (h : applyChange checked it w old new t = some r) :
    SameTree t.toClientState r.1.toClientState := by
  obtain ⟨dw, dh, -, -, rfl⟩ := applyChange_eq_some_iff.mp h
  rw [resizeChildren_client, publishChange_toClientState]
  exact ((SameTree.refl _).markWindowSharedDirty w).trans (Configure.resizeChildren_sameTree _ _ _ _)

theorem configureStage_error {error : Response}
    (h : (geometryOf s.toClientState req win).2 = some error) :
    configureStage checked it req win s = some (.answered ⟨editGeometry req s, error, none,
      resizeRequests s.toClientState req⟩) := by
  rw [configureStage, h]

theorem configureStage_passed (h : (geometryOf s.toClientState req win).2 = none) {stage : Stage}
    (hstage : configureStage checked it req win s = some stage) :
    ∃ t broadcasts, stage = restackStage req win.parent (movesOrResizes s.toClientState req) t
        broadcasts ∧
      SameTree s.toClientState t.toClientState ∧
      (movesOrResizes s.toClientState req = false ∧ t = editGeometry req s ∨
        movesOrResizes s.toClientState req = true ∧ ∃ sent,
          applyChange checked it req.window win (geometryOf s.toClientState req win).1
            (editGeometry req s) = some (t, sent)) := by
  rw [configureStage, h] at hstage
  dsimp only at hstage
  split at hstage
  · next hchgd =>
    obtain ⟨r, hr, rfl⟩ := map_eq_some_iff.mp hstage
    exact ⟨r.1, _, by rw [hchgd], (editGeometry_sameTree req s).trans (applyChange_sameTree hr),
      .inr ⟨hchgd, r.2, hr⟩⟩
  · next hchgd =>
    cases hstage
    rw [Bool.not_eq_true] at hchgd
    exact ⟨_, _, by rw [hchgd], editGeometry_sameTree req s, .inl ⟨hchgd, rfl⟩⟩

theorem geometryOf_error {s : ClientState} {error : Response}
    (h : (geometryOf s req win).2 = some error) :
    error ≠ .ok := by
  rintro rfl
  rw [geometryOf, applyGeometry] at h
  dsimp only at h
  split at h
  · cases h
  · split at h
    · cases h
    · split at h
      · cases h
      · cases h

theorem keeps_of_not_movesOrResizes {s : ClientState} (h : movesOrResizes s req = false) :
    appliedWidth s req = none ∧ appliedHeight s req = none := by
  simp only [movesOrResizes, Bool.or_eq_false_iff, isSome_eq_false_iff,
    isNone_iff_eq_none] at h
  exact ⟨h.1.2, h.2⟩

theorem geometryOf_size {s : ClientState} (win : WindowState) (hwd : appliedWidth s req = none)
    (hht : appliedHeight s req = none) :
    (geometryOf s req win).1.width = win.width ∧ (geometryOf s req win).1.height = win.height := by
  have hnone : (none : Option Nat) ≠ some 0 := by simp
  rw [geometryOf, applyGeometry, hwd, hht, if_neg hnone, if_neg hnone]
  by_cases hmode : req.stackMode.getD 0 > 4
  · rw [if_pos hmode]
    exact ⟨rfl, rfl⟩
  · rw [if_neg hmode]
    exact ⟨rfl, rfl⟩

theorem geometryOf_fields (s : ClientState) (req : ConfigureWindowRequest) (win : WindowState) :
    ∃ x y width height borderWidth, (geometryOf s req win).1 = { win with
      x := x, y := y, width := width, height := height, borderWidth := borderWidth } := by
  rw [geometryOf, applyGeometry]
  dsimp only
  split
  · exact ⟨_, _, _, _, _, rfl⟩
  · split
    · exact ⟨_, _, _, _, _, rfl⟩
    · split
      · exact ⟨_, _, _, _, _, rfl⟩
      · exact ⟨_, _, _, _, _, rfl⟩

theorem applyStackMode_map {P : Type} (g : WindowState → P)
    (hord : ∀ p cs, g { p with childrenOrder := cs } = g p) (mode : Nat)
    (w parentId sibling : XId) (s : ClientState) (v : XId) :
    ((applyStackMode mode w parentId sibling s).windows.lookup v).map g =
      (s.windows.lookup v).map g := by
  have hch : ∀ pos, ((restackChild parentId w pos s).windows.lookup v).map g =
      (s.windows.lookup v).map g := by
    intro pos
    exact lookup_modify_map g parentId v _ _ (fun p => hord p _)
  have hocclusion : ∀ occluded occludes,
      ((restackByOcclusion mode w parentId occluded occludes s).windows.lookup v).map g =
        (s.windows.lookup v).map g := by
    intro occluded occludes
    rw [restackByOcclusion]
    split
    · split
      · exact hch _
      · rfl
    · split
      · split
        · exact hch _
        · rfl
      · split
        · exact hch _
        · split
          · exact hch _
          · rfl
  rw [applyStackMode]
  split
  · split
    · exact hch _
    · exact hch _
  · split
    · split
      · exact hch _
      · exact hch _
    · dsimp only
      split
      · exact hocclusion _ _
      · rfl

/-- A projection of the window records that neither geometry nor stacking nor the
children's moves touch is the same once the changes are announced. -/
theorem announcing_map {P : Type} (g : WindowState → P)
    (hgeometry : ∀ win x y width height borderWidth, g { win with
      x := x, y := y, width := width, height := height, borderWidth := borderWidth } = g win)
    (hord : ∀ p cs, g { p with childrenOrder := cs } = g p)
    (hchs : ∀ children dw dh s v,
      ((Configure.resizeChildren children dw dh s).windows.lookup v).map g =
        (s.windows.lookup v).map g)
    {s' : ConfigureState} {broadcasts : Broadcasts}
    (h : configureStage checked it req win s = some (.announcing s' broadcasts)) (v : XId) :
    (s'.windows.lookup v).map g = (s.windows.lookup v).map g := by
  have hedited : ((editGeometry req s).windows.lookup v).map g = (s.windows.lookup v).map g := by
    rw [editGeometry_toClientState]
    apply lookup_modify_map
    intro win
    obtain ⟨x, y, width, height, borderWidth, heq⟩ := geometryOf_fields s.toClientState req win
    rw [heq, hgeometry]
  have hrestack : ∀ changed t sent, restackStage req win.parent changed t sent =
      .announcing s' broadcasts → (s'.windows.lookup v).map g = (t.windows.lookup v).map g := by
    intro changed t sent hstage
    rw [restackStage] at hstage
    split at hstage
    · dsimp only at hstage
      split at hstage
      · cases hstage
      · cases hstage
        rw [stackWindow_toClientState, applyStackMode_map g hord]
    · split at hstage
      · cases hstage
        rfl
      · cases hstage
  cases hgeo : (geometryOf s.toClientState req win).2 with
  | some error =>
    rw [configureStage_error hgeo] at h
    cases h
  | none =>
    obtain ⟨t, sent, hstage, -, ⟨-, rfl⟩ | ⟨-, sent', happly⟩⟩ :=
      configureStage_passed hgeo h
    · rw [hrestack _ _ _ hstage.symm, hedited]
    · obtain ⟨dw, dh, -, -, hr⟩ := applyChange_eq_some_iff.mp happly
      rw [hrestack _ _ _ hstage.symm, ← hedited]
      have ht : t = (resizeChildren req.window win.childrenOrder dw dh (publishChange it req.window
          (geometryOf s.toClientState req win).1 (editGeometry req s))).1 := by rw [hr]
      rw [ht, resizeChildren_client, hchs, publishChange_toClientState]
      rfl

end Stages

end X11Web.ConfigureWindow
