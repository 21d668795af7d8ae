import X11Web.Protocol
import X11Web.WaylandPixels

namespace X11Web.WaylandWindows

open Protocol (WindowWmState)
open WaylandPixels

abbrev ObjectId := Nat

/-- A window's UUID, numbered in the order they are minted. -/
abbrev Uuid := Nat

inductive WindowKind
  | toplevel
  | popup
deriving DecidableEq

/-- `(is_top_level, override_redirect)` -/
def WindowKind.flags : WindowKind → Bool × Bool
  | .toplevel => (true, false)
  | .popup => (false, true)

inductive DisplayUpdate
  | windowCreated (windowId : Uuid) (x y width height : Int) (isTopLevel overrideRedirect : Bool)
  | windowMapped (windowId : Uuid) (isTopLevel overrideRedirect : Bool)
  | windowUnmapped (windowId : Uuid)
  | windowDestroyed (windowId : Uuid)
  | windowConfigured (windowId : Uuid) (x y width height : Int)
  | titleChanged (windowId : Uuid) (title : String)
  | windowStateChanged (windowId : Uuid) (state : WindowWmState)
  | windowRaised (windowId : Uuid)
  | windowFocused (windowId : Option Uuid)
  | putImage (windowId : Uuid) (x y width height : Int) (data : Image)

def DisplayUpdate.windowId : DisplayUpdate → Option Uuid
  | .windowCreated u .. | .windowMapped u .. | .windowUnmapped u | .windowDestroyed u | .windowConfigured u ..
  | .titleChanged u _ | .windowStateChanged u _ | .windowRaised u | .putImage u .. => some u
  | .windowFocused u => u

def DisplayUpdate.isPutImage : DisplayUpdate → Bool
  | .putImage .. => true
  | _ => false

structure WindowEntry where
  uuid : Uuid
  clientId : String
  kind : WindowKind
  x : Int
  y : Int
  width : Int
  height : Int
  created : Bool
  mapped : Bool
  title : String
  fb : Image
  damage : DamageAccumulator
  dirty : Bool
  pendingUnmap : Bool
  wmState : WindowWmState

structure SurfaceBuffer where
  rgba : Image
  width : Int
  height : Int
  damage : DamageAccumulator

/-- A surface of a window's tree, its place relative to its parent, and the subsurfaces below and above it. -/
inductive SurfaceTree
  | node (id : ObjectId) (dx dy : Int) (below above : List SurfaceTree)

mutual

/-- The surfaces from the lowest to the uppermost, each with its offset. -/
def SurfaceTree.visit (ox oy : Int) : SurfaceTree → List (ObjectId × Int × Int)
  | .node id dx dy below above =>
    SurfaceTree.visitAll (i32 (ox + dx)) (i32 (oy + dy)) below ++ [(id, i32 (ox + dx), i32 (oy + dy))] ++
      SurfaceTree.visitAll (i32 (ox + dx)) (i32 (oy + dy)) above

def SurfaceTree.visitAll (ox oy : Int) : List SurfaceTree → List (ObjectId × Int × Int)
  | [] => []
  | t :: ts => SurfaceTree.visit ox oy t ++ SurfaceTree.visitAll ox oy ts

end

structure WindowRouter where
  live : Uuid → Bool
  consuming : Bool
  pending : Uuid → Option Nat

namespace WindowRouter

def maxFramesInFlight : Nat := 2

def new : WindowRouter := ⟨fun _ => false, false, fun _ => none⟩

def setConsuming (on : Bool) (r : WindowRouter) : WindowRouter := { r with consuming := on }

def frameShipped (u : Uuid) (r : WindowRouter) : WindowRouter :=
  { r with pending := Function.update r.pending u ((r.pending u).map (· - 1)) }

def track (u : Uuid) (r : WindowRouter) : WindowRouter := { r with live := Function.update r.live u true }

def untrack (u : Uuid) (r : WindowRouter) : WindowRouter :=
  { r with live := Function.update r.live u false, pending := Function.update r.pending u none }

def mayEmit (r : WindowRouter) (u : Uuid) : Bool := (r.pending u).getD 0 < maxFramesInFlight

def frameEmitted (u : Uuid) (r : WindowRouter) : WindowRouter :=
  { r with pending := Function.update r.pending u (some ((r.pending u).getD 0 + 1)) }

def clearPending (r : WindowRouter) : WindowRouter := { r with pending := fun _ => none }

end WindowRouter

structure State where
  toplevels : List ObjectId
  popups : List ObjectId
  trees : ObjectId → SurfaceTree
  geometry : ObjectId → Option Rect
  labels : ObjectId → Option String
  surfaces : ObjectId → Option SurfaceBuffer
  entries : ObjectId → Option WindowEntry
  focused : Option ObjectId
  router : WindowRouter
  streaming : Bool
  /-- Every update that went into the channel, in order. -/
  sent : List (String × DisplayUpdate)
  minted : Nat

namespace State

def new : State where
  toplevels := []
  popups := []
  trees := fun id => .node id 0 0 [] []
  geometry := fun _ => none
  labels := fun _ => none
  surfaces := fun _ => none
  entries := fun _ => none
  focused := none
  router := .new
  streaming := false
  sent := []
  minted := 0

def send (s : State) (clientId : String) (update : DisplayUpdate) : State :=
  { s with sent := s.sent ++ [(clientId, update)] }

def setEntry (s : State) (id : ObjectId) (entry : WindowEntry) : State :=
  { s with entries := Function.update s.entries id (some entry) }

def roots (s : State) : List ObjectId := s.toplevels ++ s.popups

def idForUuid (s : State) (u : Uuid) : Option ObjectId :=
  s.roots.find? fun id => (s.entries id).any fun e => e.uuid == u

end State

section Registry

def WindowEntry.new (uuid : Uuid) (clientId : String) (kind : WindowKind) (x y : Int) : WindowEntry where
  uuid := uuid
  clientId := clientId
  kind := kind
  x := x
  y := y
  width := 0
  height := 0
  created := false
  mapped := false
  title := ""
  fb := fun _ _ => opaqueBlack
  damage := .new
  dirty := false
  pendingUnmap := false
  wmState := .normal

def register (s : State) (root : ObjectId) (clientId : String) (kind : WindowKind) (x y : Int) : State :=
  { s with
    entries := Function.update s.entries root (some (.new s.minted clientId kind x y))
    minted := s.minted + 1 }

def newToplevel (s : State) (id : ObjectId) (clientId : String) : State :=
  register { s with toplevels := s.toplevels ++ [id] } id clientId .toplevel 0 0

def newPopup (s : State) (id : ObjectId) (clientId : String) (x y : Int) : State :=
  register { s with popups := s.popups ++ [id] } id clientId .popup x y

def repositionRequest (s : State) (id : ObjectId) (x y : Int) : State :=
  match s.entries id with
  | none => s
  | some entry => s.setEntry id { entry with x := x, y := y }

end Registry

section Commits

inductive BufferAssignment
  | newBuffer (rgba : Image) (width height : Int)
  | unreadable
  | removed

structure CommitOutcome where
  removed : Bool
  resized : Bool

/-- The image of a readable buffer replaces the surface's, and new dimensions damage all of it. -/
def attachBuffer (old : Option SurfaceBuffer) (rgba : Image) (width height : Int) : SurfaceBuffer :=
  let damage := (old.map (·.damage)).getD .new
  let resized := old.map (fun b => (b.width, b.height)) != some (width, height)
  { rgba, width, height, damage := if resized then damage.markFull else damage }

def commitBuffer (old : Option SurfaceBuffer) (buffer : Option BufferAssignment) (damage : List Rect) :
    Option SurfaceBuffer × CommitOutcome :=
  let (attached, outcome) : Option SurfaceBuffer × CommitOutcome := match buffer with
    | some (.newBuffer rgba width height) =>
      (some (attachBuffer old rgba width height),
        ⟨false, old.map (fun b => (b.width, b.height)) != some (width, height)⟩)
    | some .removed => (none, ⟨true, false⟩)
    | some .unreadable | none => (old, ⟨false, false⟩)
  (attached.map fun b => { b with damage := damage.foldl DamageAccumulator.add b.damage }, outcome)

def rootSurface (s : State) (id : ObjectId) : ObjectId :=
  (s.roots.find? fun root => ((s.trees root).visit 0 0).any fun v => v.1 == id).getD id

/-- A commit on a surface: what its window's tree and geometry are from then on, and what it does to the
surface's buffer. -/
def commit (s : State) (id : ObjectId) (buffer : Option BufferAssignment) (damage : List Rect)
    (tree : SurfaceTree) (geometry : Option Rect) : State :=
  let root := rootSurface s id
  let (surface, outcome) := commitBuffer (s.surfaces id) buffer damage
  let s := { s with
    trees := Function.update s.trees root tree
    geometry := Function.update s.geometry root geometry
    surfaces := Function.update s.surfaces id surface }
  match s.entries root with
  | none => s
  | some entry => s.setEntry root { entry with
      dirty := true
      pendingUnmap := entry.pendingUnmap || (outcome.removed && root == id)
      damage := if outcome.resized && root == id then entry.damage.markFull else entry.damage }

end Commits

section Focus

def applyFocus (s : State) (id : Option ObjectId) : State :=
  if s.focused = id then s
  else
    let s := { s with focused := id }
    match id.bind s.entries with
    | some entry =>
      (s.send entry.clientId (.windowRaised entry.uuid)).send entry.clientId (.windowFocused (some entry.uuid))
    | none => s.send "" (.windowFocused none)

/-- A press of a button or a key focuses the window it is for, unless that is a popup. -/
def focusWindow (s : State) (id : ObjectId) : State :=
  match s.entries id with
  | none => s
  | some entry => if entry.kind ≠ .toplevel ∨ s.focused = some id then s else applyFocus s (some id)

end Focus

section States

def emitMinimized (s : State) (id : ObjectId) : State :=
  match s.entries id with
  | none => s
  | some entry => if entry.mapped then s.send entry.clientId (.windowUnmapped entry.uuid) else s

def emitRestored (s : State) (id : ObjectId) : State :=
  match s.entries id with
  | none => s
  | some entry =>
    if entry.mapped then
      (s.setEntry id { entry with damage := entry.damage.markFull }).send entry.clientId
        (.windowMapped entry.uuid entry.kind.flags.1 entry.kind.flags.2)
    else s

def emitState (s : State) (id : ObjectId) (wmState : WindowWmState) : State :=
  match s.entries id with
  | none => s
  | some entry =>
    if entry.wmState = wmState then s
    else (s.setEntry id { entry with wmState := wmState }).send entry.clientId
      (.windowStateChanged entry.uuid wmState)

inductive ClientRequest
  | maximize
  | unmaximize
  | fullscreen
  | unfullscreen
  | minimize
deriving DecidableEq

def ClientRequest.state : ClientRequest → WindowWmState
  | .maximize => .maximized
  | .unmaximize | .unfullscreen => .normal
  | .fullscreen => .fullscreen
  | .minimize => .minimized

def manage (s : State) (id : ObjectId) (action : WindowWmState) : State :=
  if id ∈ s.toplevels then
    match action with
    | .close => s
    | .normal =>
      let restored := if (s.entries id).any fun e => e.wmState == .minimized then emitRestored s id else s
      emitState restored id .normal
    | .minimized => emitState (emitMinimized s id) id .minimized
    | .maximized => emitState s id .maximized
    | .fullscreen => emitState s id .fullscreen
  else s

def refreshLabel (s : State) (id : ObjectId) (label : Option String) : State :=
  let s := { s with labels := Function.update s.labels id label }
  match s.entries id with
  | none => s
  | some entry =>
    let title := label.getD ""
    if entry.title = title then s
    else
      let s := s.setEntry id { entry with title := title }
      if entry.created then s.send entry.clientId (.titleChanged entry.uuid title) else s

end States

section Destruction

/-- Tear a window down. Where it had the focus, another mapped toplevel gets it. -/
def destroy (s : State) (id : ObjectId) : State :=
  match s.entries id with
  | none => s
  | some entry =>
    let s := { s with
      entries := Function.update s.entries id none
      router := s.router.untrack entry.uuid
      surfaces := Function.update s.surfaces id none }
    let s := if entry.mapped then s.send entry.clientId (.windowUnmapped entry.uuid) else s
    let s := if entry.created then s.send entry.clientId (.windowDestroyed entry.uuid) else s
    if s.focused = some id then
      applyFocus s (s.toplevels.find? fun i => (s.entries i).any fun e => e.mapped)
    else s

/-- A surface goes away, and with it its place in the tree and its window. -/
def destroyedSurface (s : State) (id : ObjectId) (tree : SurfaceTree) : State :=
  destroy { s with
    surfaces := Function.update s.surfaces id none
    trees := Function.update s.trees (rootSurface s id) tree } id

def destroyedSubsurface (s : State) (id : ObjectId) (tree : SurfaceTree) : State :=
  { s with trees := Function.update s.trees (rootSurface s id) tree }

end Destruction

section Tick

/-- The part of the root surface that is the window: the client's geometry, or else all of it. -/
def windowRect (s : State) (id : ObjectId) (rootW rootH : Int) : Rect :=
  ((s.geometry id).bind fun g => g.clip rootW rootH).getD ⟨0, 0, rootW, rootH⟩

def clampU16 (n : Int) : Int := max 1 (min n 65535)

def asI16 (n : Int) : Int := Int.bmod n 65536

def asU16 (n : Int) : Int := n % 65536

/-- The consuming flag is read once. Where it has changed since the last tick, the credits are forgotten,
and a session that begins gets complete frames. -/
def observe (s : State) : State :=
  if s.router.consuming = s.streaming then s
  else
    let s := { s with streaming := s.router.consuming, router := s.router.clearPending }
    if s.streaming then
      { s with entries := fun id => (s.entries id).map fun e => { e with damage := e.damage.markFull } }
    else s

def WindowEntry.fit (entry : WindowEntry) (w h : Int) : WindowEntry :=
  if entry.width = w ∧ entry.height = h then entry
  else { entry with width := w, height := h, fb := fun _ _ => opaqueBlack, damage := entry.damage.markFull }

def emitMap (s : State) (entry : WindowEntry) : State :=
  let (isTopLevel, overrideRedirect) := entry.kind.flags
  let s := s.send entry.clientId
    (.windowCreated entry.uuid entry.x entry.y entry.width entry.height isTopLevel overrideRedirect)
  let s := s.send entry.clientId (.windowMapped entry.uuid isTopLevel overrideRedirect)
  if entry.title = "" then s else s.send entry.clientId (.titleChanged entry.uuid entry.title)

/-- A NULL buffer on the root. The size goes with the framebuffer, or else a window that comes back at
the same size would not get a new one. -/
def unmapWindow (s : State) (id : ObjectId) (entry : WindowEntry) : State :=
  if entry.mapped then
    let entry := { entry with
      pendingUnmap := false, mapped := false, damage := .new, fb := fun _ _ => opaqueBlack, width := 0, height := 0 }
    (s.setEntry id entry).send entry.clientId (.windowUnmapped entry.uuid)
  else s.setEntry id { entry with pendingUnmap := false }

def createWindow (s : State) (id : ObjectId) (entry : WindowEntry) (w h : Int) : State :=
  let entry := { entry.fit w h with created := true, mapped := true, title := (s.labels id).getD "" }
  let s := emitMap (s.setEntry id entry) entry
  let s := { s with router := s.router.track entry.uuid }
  -- A popup would take the keyboard from the application that opened it.
  if entry.kind = .toplevel then applyFocus s (some id) else s

def updateWindow (s : State) (id : ObjectId) (entry : WindowEntry) (w h : Int) : State :=
  let (isTopLevel, overrideRedirect) := entry.kind.flags
  let fitted := entry.fit w h
  let s := if entry.mapped then s.setEntry id fitted
    else (s.setEntry id { fitted with mapped := true, damage := fitted.damage.markFull }).send
      entry.clientId (.windowMapped entry.uuid isTopLevel overrideRedirect)
  if entry.width ≠ w ∨ entry.height ≠ h then
    s.send entry.clientId (.windowConfigured entry.uuid entry.x entry.y w h)
  else s

def paintedSize (geo : Rect) : Int × Int := (clampU16 geo.w, clampU16 geo.h)

/-- The tick's first part for one window: unmap it, or announce what is new about it. Comes back with
the window's rectangle where there is something to paint, and whether the window is just created. -/
def announce (s : State) (id : ObjectId) : State × Option (Rect × Bool) :=
  match s.entries id with
  | none => (s, none)
  | some entry =>
    if entry.pendingUnmap then (unmapWindow s id entry, none)
    else match s.surfaces id with
      | none => (s, none)
      | some rootBuf =>
        let geo := windowRect s id rootBuf.width rootBuf.height
        let (w, h) := paintedSize geo
        if entry.created then (updateWindow s id entry w h, some (geo, false))
        else (createWindow s id entry w h, some (geo, true))

/-- What compositing works on: the surfaces' buffers, the window's damage and its framebuffer. -/
abbrev Canvas := (ObjectId → Option SurfaceBuffer) × DamageAccumulator × Image

/-- One surface of the tree: its damage goes to the window's, its pixels to the framebuffer. The root is
copied, as it is the window's background. -/
def compositeSurface (root : ObjectId) (geo : Rect) (w h : Int) (canvas : Canvas) (v : ObjectId × Int × Int) :
    Canvas :=
  match canvas.1 v.1 with
  | none => canvas
  | some sb =>
    let px := i32 (v.2.1 - geo.x)
    let py := i32 (v.2.2 - geo.y)
    let damage := match sb.damage.take sb.width sb.height with
      | some d => canvas.2.1.add (d.translate px py)
      | none => canvas.2.1
    let fb := if v.1 = root then blitCopy canvas.2.2 w h sb.rgba sb.width sb.height px py
      else blitOver canvas.2.2 w h sb.rgba sb.width sb.height px py
    (Function.update canvas.1 v.1 (some { sb with damage := .new }), damage, fb)

def emitImage (s : State) (entry : WindowEntry) (fb : Image) (rect : Rect) : State :=
  { s with router := s.router.frameEmitted entry.uuid }.send entry.clientId
    (.putImage entry.uuid (asI16 rect.x) (asI16 rect.y) (asU16 rect.w) (asU16 rect.h)
      (forceOpaque (cropRgba fb rect)))

/-- The tick's second part: composite the window's tree and send what is damaged as one image. Without a
session nothing is sent. -/
def compositeAndEmit (consuming : Bool) (s : State) (id : ObjectId) (geo : Rect) : State :=
  match s.entries id with
  | none => s
  | some entry =>
    if !entry.dirty && !entry.damage.isDirty then s
    else
      let (surfaces, damage, fb) := ((s.trees id).visit 0 0).foldl
        (compositeSurface id geo entry.width entry.height) (s.surfaces, entry.damage, entry.fb)
      let s := { s with surfaces := surfaces }.setEntry id { entry with dirty := false, damage := .new, fb := fb }
      match damage.take entry.width entry.height with
      | none => s
      | some rect => if consuming then emitImage s entry fb rect else s

/-- A window that is out of credit is not painted, unless it has just been created. -/
def stalls (consuming : Bool) (s : State) (id : ObjectId) : Bool :=
  consuming && (s.entries id).any fun e => !s.router.mayEmit e.uuid

def tickWindow (consuming : Bool) (s : State) (id : ObjectId) : State :=
  match announce s id with
  | (s, none) => s
  | (s, some (geo, created)) => if !created && stalls consuming s id then s else compositeAndEmit consuming s id geo

def tick (s : State) : State :=
  let s := observe s
  s.roots.foldl (tickWindow s.streaming) s

end Tick

section Steps

inductive Action
  | newToplevel (id : ObjectId) (clientId : String)
  | newPopup (id : ObjectId) (clientId : String) (x y : Int)
  | repositionRequest (id : ObjectId) (x y : Int)
  | commit (id : ObjectId) (buffer : Option BufferAssignment) (damage : List Rect) (tree : SurfaceTree)
      (geometry : Option Rect)
  | destroyedSurface (id : ObjectId) (tree : SurfaceTree)
  | destroyedSubsurface (id : ObjectId) (tree : SurfaceTree)
  | destroyed (id : ObjectId)
  | request (id : ObjectId) (request : ClientRequest)
  | label (id : ObjectId) (label : Option String)
  | manage (u : Uuid) (action : WindowWmState)
  | focus (u : Uuid)
  | tick

/-- The frontend reaches a window only while it is tracked. -/
def addressed (s : State) (u : Uuid) (f : ObjectId → State) : State :=
  if s.router.live u then
    match s.idForUuid u with
    | some id => f id
    | none => s
  else s

/-- A surface that has a window cannot be given another one. -/
def step (s : State) : Action → State
  | .newToplevel id clientId => if (s.entries id).isSome then s else newToplevel s id clientId
  | .newPopup id clientId x y => if (s.entries id).isSome then s else newPopup s id clientId x y
  | .repositionRequest id x y => repositionRequest s id x y
  | .commit id buffer damage tree geometry => commit s id buffer damage tree geometry
  | .destroyedSurface id tree => destroyedSurface s id tree
  | .destroyedSubsurface id tree => destroyedSubsurface s id tree
  | .destroyed id => destroy s id
  | .request id request => emitState s id request.state
  | .label id label => refreshLabel s id label
  | .manage u action => addressed s u fun id => manage s id action
  | .focus u => addressed s u fun id => focusWindow s id
  | .tick => tick s

end Steps

end X11Web.WaylandWindows
