import X11Web.BridgeHelpers

namespace X11Web.BrowserBridge

open Protocol Metered BridgeHelpers

inductive Shape
  | shared (shape : BridgeHelpers.Shape)
  | frontendMsg
  | openWorkspace
  | spawnProcess
  | killProcess
  | inputEventCmd
  | resizeWindowCmd
  | rtcSdp
  | rtcIceCandidate
  | backendMsg
  | sidecarListMsg
  | sidecarInfo
  | workspaceMsg
  | workspace
  | commandResult
  | processListMsg
  | processInfo
  | windowUpdateMsg
  | windowUpdate
  | titleChanged
  | stateChanged
  | focused
  | menuStructure
  | windowListMsg
  | windowDescriptor
  | bell
deriving DecidableEq

/-- What the schema compiler and the builder's allocator decide: how many words a struct takes, and how
many landing pads a message needs. -/
structure Layout where
  sizes : Shape → Nat
  padsFrontend : FrontendToBackend → String → Nat
  padsBackend : BackendToFrontend → String → Nat

def Layout.shared (layout : Layout) : Sizes := fun shape => layout.sizes (.shared shape)

namespace Wire

structure RtcIceCandidate where
  candidate : Text
  sdpMid : Text
  sdpMlineIndexHas : Bool
  sdpMlineIndex : UInt16

inductive FrontendPayload
  | unknown
  | openWorkspace (id : Text)
  | spawnProcess (requestId sidecarId workspaceId command : Text) (args : List Text)
  | killProcess (requestId sidecarId : Text) (pid : UInt32)
  | inputEvent (sidecarId windowId : Text) (event : BridgeHelpers.Wire.InputEvent)
  | resizeWindow (sidecarId windowId : Text) (width height : UInt16)
  | rtcOffer (sdp : Text)
  | rtcIceCandidate (candidate : RtcIceCandidate)

structure FrontendMsg where
  traceparent : Text
  payload : FrontendPayload

structure SidecarInfo where
  id : Text
  name : Text

structure Workspace where
  id : Text
  name : Text

structure ProcessInfo where
  pid : UInt32
  clientId : Text
  command : Text

structure WindowDescriptor where
  windowId : Text
  sidecarId : Text
  pid : UInt32
  command : Text
  x : Float64Bits
  y : Float64Bits
  width : UInt16
  height : UInt16
  borderWidth : UInt16
  borderPixel : UInt32
  overrideRedirect : Bool
  resizable : Bool

inductive WindowUpdate
  | unknown
  | titleChanged (windowId title : Text)
  | stateChanged (windowId : Text) (state : BridgeHelpers.Ordinal)
  | focused (windowId : Text)
  | menuStructure (windowId : Text) (items : List BridgeHelpers.Wire.MenuItem)

inductive BackendPayload
  | unknown
  | sidecarList (sidecars : List SidecarInfo)
  | workspace (workspace : Workspace)
  | commandResult (requestId : Text) (success : Bool) (message : Text)
  | processList (sidecarId : Text) (processes : List ProcessInfo)
  | windowUpdate (update : WindowUpdate)
  | windowList (windows : List WindowDescriptor)
  | bell (percent : UInt8)
  | rtcAnswer (sdp : Text)
  | rtcIceCandidate (candidate : RtcIceCandidate)

structure BackendMsg where
  traceparent : Text
  payload : BackendPayload

end Wire

section IceCandidates

/-- An index that is not there leaves both of its fields as they were. -/
def writeIceCandidate (candidate : String) (sdpMid : Option String) (sdpMlineIndex : Option UInt16) :
    Wire.RtcIceCandidate where
  candidate := setText candidate
  sdpMid := setTextIfSome sdpMid
  sdpMlineIndexHas := sdpMlineIndex.isSome
  sdpMlineIndex := sdpMlineIndex.getD 0

def readIceCandidate {α : Type} (make : String → Option String → Option UInt16 → α) (r : Wire.RtcIceCandidate) :
    Reading α := do
  let candidate ← getText r.candidate
  let sdpMid ← getTextIfSet r.sdpMid
  return make candidate sdpMid (if r.sdpMlineIndexHas then some r.sdpMlineIndex else none)

def iceCandidateLoad (candidate : String) (sdpMid : Option String) : Load :=
  textLoad candidate + textIfSomeLoad sdpMid

theorem reads_iceCandidate {α : Type} (make : String → Option String → Option UInt16 → α) (candidate : String)
    (sdpMid : Option String) (sdpMlineIndex : Option UInt16) :
    Reads (readIceCandidate make (writeIceCandidate candidate sdpMid sdpMlineIndex))
      (iceCandidateLoad candidate sdpMid) (make candidate sdpMid sdpMlineIndex) := by
  have h := (reads_text candidate).bind (f := fun candidate => do
    return make candidate (← getTextIfSet (setTextIfSome sdpMid)) sdpMlineIndex) (reads_textIfSome sdpMid).map
  cases sdpMlineIndex <;> exact h

end IceCandidates

section Frontend

def writeFrontendPayload : FrontendToBackend → Wire.FrontendPayload
  | .openWorkspace id => .openWorkspace (setTextIfSome id)
  | .spawnProcess requestId sidecarId workspaceId command args =>
    .spawnProcess (setText requestId) (setText sidecarId) (setText workspaceId) (setText command) (setTexts args)
  | .killProcess requestId sidecarId pid => .killProcess (setText requestId) (setText sidecarId) pid
  | .inputEvent sidecarId windowId event =>
    .inputEvent (setText sidecarId) (setText windowId) (writeInputEvent event)
  | .resizeWindow sidecarId windowId width height =>
    .resizeWindow (setText sidecarId) (setText windowId) width height
  | .rtcOffer sdp => .rtcOffer (setText sdp)
  | .rtcIceCandidate candidate sdpMid sdpMlineIndex =>
    .rtcIceCandidate (writeIceCandidate candidate sdpMid sdpMlineIndex)

variable (layout : Layout)

def encodeFrontendMsg (msg : FrontendToBackend) (traceparent : String) : Encoded Wire.FrontendMsg where
  pads := layout.padsFrontend msg traceparent
  root := ⟨setText traceparent, writeFrontendPayload msg⟩

def readFrontendPayload : Wire.FrontendPayload → Reading FrontendToBackend
  | .unknown => fail
  | .openWorkspace id => follow (layout.sizes .openWorkspace) do return .openWorkspace (← getTextIfSet id)
  | .spawnProcess requestId sidecarId workspaceId command args => follow (layout.sizes .spawnProcess) do
    let args ← getTexts args
    let requestId ← getText requestId
    let sidecarId ← getText sidecarId
    let workspaceId ← getText workspaceId
    let command ← getText command
    return .spawnProcess requestId sidecarId workspaceId command args
  | .killProcess requestId sidecarId pid => follow (layout.sizes .killProcess) do
    let requestId ← getText requestId
    let sidecarId ← getText sidecarId
    return .killProcess requestId sidecarId pid
  | .inputEvent sidecarId windowId event => follow (layout.sizes .inputEventCmd) do
    let sidecarId ← getText sidecarId
    let windowId ← getText windowId
    let event ← getInputEvent layout.shared event
    return .inputEvent sidecarId windowId event
  | .resizeWindow sidecarId windowId width height => follow (layout.sizes .resizeWindowCmd) do
    let sidecarId ← getText sidecarId
    let windowId ← getText windowId
    return .resizeWindow sidecarId windowId width height
  | .rtcOffer sdp => follow (layout.sizes .rtcSdp) do return .rtcOffer (← getText sdp)
  | .rtcIceCandidate candidate => follow (layout.sizes .rtcIceCandidate) (readIceCandidate .rtcIceCandidate candidate)

def readFrontendMsg (root : Wire.FrontendMsg) : Reading (FrontendToBackend × String) := do
  let traceparent ← getText root.traceparent
  let msg ← readFrontendPayload layout root.payload
  return (msg, traceparent)

def decodeFrontendMsg (message : Encoded Wire.FrontendMsg) : Option (FrontendToBackend × String) :=
  readRoot (layout.sizes .frontendMsg) (readFrontendMsg layout) message

def frontendPayloadLoad : FrontendToBackend → Load
  | .openWorkspace id => Load.follow (layout.sizes .openWorkspace) (textIfSomeLoad id)
  | .spawnProcess requestId sidecarId workspaceId command args => Load.follow (layout.sizes .spawnProcess)
    (textsLoad args + (textLoad requestId + (textLoad sidecarId + (textLoad workspaceId + textLoad command))))
  | .killProcess requestId sidecarId _ =>
    Load.follow (layout.sizes .killProcess) (textLoad requestId + textLoad sidecarId)
  | .inputEvent sidecarId windowId event => Load.follow (layout.sizes .inputEventCmd)
    (textLoad sidecarId + (textLoad windowId + eventLoad layout.shared event))
  | .resizeWindow sidecarId windowId _ _ =>
    Load.follow (layout.sizes .resizeWindowCmd) (textLoad sidecarId + textLoad windowId)
  | .rtcOffer sdp => Load.follow (layout.sizes .rtcSdp) (textLoad sdp)
  | .rtcIceCandidate candidate sdpMid _ =>
    Load.follow (layout.sizes .rtcIceCandidate) (iceCandidateLoad candidate sdpMid)

theorem reads_frontendPayload (msg : FrontendToBackend) :
    Reads (readFrontendPayload layout (writeFrontendPayload msg)) (frontendPayloadLoad layout msg) msg := by
  cases msg with
  | openWorkspace id => exact (reads_textIfSome id).map.follow _
  | spawnProcess requestId sidecarId workspaceId command args =>
    exact ((reads_texts args).bind <| (reads_text requestId).bind <| (reads_text sidecarId).bind <|
      (reads_text workspaceId).bind (reads_text command).map).follow _
  | killProcess requestId sidecarId pid =>
    exact ((reads_text requestId).bind (reads_text sidecarId).map).follow _
  | inputEvent sidecarId windowId event =>
    exact ((reads_text sidecarId).bind <| (reads_text windowId).bind (reads_event layout.shared event).map).follow _
  | resizeWindow sidecarId windowId width height =>
    exact ((reads_text sidecarId).bind (reads_text windowId).map).follow _
  | rtcOffer sdp => exact (reads_text sdp).map.follow _
  | rtcIceCandidate candidate sdpMid sdpMlineIndex => exact (reads_iceCandidate _ candidate sdpMid _).follow _

end Frontend

section Backend

def writeSidecarInfo (s : SidecarInfo) : Wire.SidecarInfo := ⟨setText s.id, setText s.name⟩

def readSidecarInfo (e : Wire.SidecarInfo) : Reading SidecarInfo := do
  let id ← getText e.id
  let name ← getText e.name
  return { id, name }

def writeWorkspace (w : Workspace) : Wire.Workspace := ⟨setText w.id, setText w.name⟩

def readWorkspace (w : Wire.Workspace) : Reading Workspace := do
  let id ← getText w.id
  let name ← getText w.name
  return { id, name }

def writeProcessInfo (pi : ProcessInfo) : Wire.ProcessInfo := ⟨pi.pid, setText pi.clientId, setText pi.command⟩

def readProcessInfo (e : Wire.ProcessInfo) : Reading ProcessInfo := do
  let clientId ← getText e.clientId
  let command ← getText e.command
  return { pid := e.pid, clientId, command }

def writeWindowDescriptor (w : WindowDescriptor) : Wire.WindowDescriptor where
  windowId := setText w.windowId
  sidecarId := setText w.sidecarId
  pid := w.pid
  command := setText w.command
  x := w.x
  y := w.y
  width := w.width
  height := w.height
  borderWidth := w.borderWidth
  borderPixel := w.borderPixel
  overrideRedirect := w.overrideRedirect
  resizable := w.resizable

def readWindowDescriptor (r : Wire.WindowDescriptor) : Reading WindowDescriptor := do
  let windowId ← getText r.windowId
  let sidecarId ← getText r.sidecarId
  let command ← getText r.command
  return {
    windowId, sidecarId, command, pid := r.pid, x := r.x, y := r.y, width := r.width, height := r.height,
    borderWidth := r.borderWidth, borderPixel := r.borderPixel, overrideRedirect := r.overrideRedirect,
    resizable := r.resizable }

def writeWindowUpdate : WindowUpdate → Wire.WindowUpdate
  | .titleChanged windowId title => .titleChanged (setText windowId) (setText title)
  | .stateChanged windowId state => .stateChanged (setText windowId) (writeWmState state)
  | .focused windowId => .focused (setTextIfSome windowId)
  | .menuStructure windowId menu => .menuStructure (setText windowId) (writeMenuItems menu)

def writeBackendPayload : BackendToFrontend → Wire.BackendPayload
  | .sidecarList sidecars => .sidecarList (sidecars.map writeSidecarInfo)
  | .workspace workspace => .workspace (writeWorkspace workspace)
  | .commandResult requestId success message => .commandResult (setText requestId) success (setText message)
  | .processList sidecarId processes => .processList (setText sidecarId) (processes.map writeProcessInfo)
  | .windowUpdate update => .windowUpdate (writeWindowUpdate update)
  | .windowList windows => .windowList (windows.map writeWindowDescriptor)
  | .bell percent => .bell percent
  | .rtcAnswer sdp => .rtcAnswer (setText sdp)
  | .rtcIceCandidate candidate sdpMid sdpMlineIndex =>
    .rtcIceCandidate (writeIceCandidate candidate sdpMid sdpMlineIndex)

variable (layout : Layout)

def encodeBackendMsg (msg : BackendToFrontend) (traceparent : String) : Encoded Wire.BackendMsg where
  pads := layout.padsBackend msg traceparent
  root := ⟨setText traceparent, writeBackendPayload msg⟩

def readWindowUpdate : Wire.WindowUpdate → Reading WindowUpdate
  | .unknown => fail
  | .titleChanged windowId title => follow (layout.sizes .titleChanged) do
    let windowId ← getText windowId
    let title ← getText title
    return .titleChanged windowId title
  | .stateChanged windowId state => follow (layout.sizes .stateChanged) do
    let windowId ← getText windowId
    let state ← readWmState state
    return .stateChanged windowId state
  | .focused windowId => follow (layout.sizes .focused) do return .focused (← getTextIfSet windowId)
  | .menuStructure windowId items => follow (layout.sizes .menuStructure) do
    let windowId ← getText windowId
    let menu ← getMenu layout.shared items
    return .menuStructure windowId menu

def readBackendPayload : Wire.BackendPayload → Reading BackendToFrontend
  | .unknown => fail
  | .sidecarList sidecars => follow (layout.sizes .sidecarListMsg) do
    return .sidecarList (← getStructs (layout.sizes .sidecarInfo) readSidecarInfo sidecars)
  | .workspace workspace => follow (layout.sizes .workspaceMsg) do
    return .workspace (← follow (layout.sizes .workspace) (readWorkspace workspace))
  | .commandResult requestId success message => follow (layout.sizes .commandResult) do
    let requestId ← getText requestId
    let message ← getText message
    return .commandResult requestId success message
  | .processList sidecarId processes => follow (layout.sizes .processListMsg) do
    let processes ← getStructs (layout.sizes .processInfo) readProcessInfo processes
    let sidecarId ← getText sidecarId
    return .processList sidecarId processes
  | .windowUpdate update => follow (layout.sizes .windowUpdateMsg) do
    return .windowUpdate (← follow (layout.sizes .windowUpdate) (readWindowUpdate layout update))
  | .windowList windows => follow (layout.sizes .windowListMsg) do
    return .windowList (← getStructs (layout.sizes .windowDescriptor) readWindowDescriptor windows)
  | .bell percent => follow (layout.sizes .bell) (return .bell percent)
  | .rtcAnswer sdp => follow (layout.sizes .rtcSdp) do return .rtcAnswer (← getText sdp)
  | .rtcIceCandidate candidate => follow (layout.sizes .rtcIceCandidate) (readIceCandidate .rtcIceCandidate candidate)

def readBackendMsg (root : Wire.BackendMsg) : Reading (BackendToFrontend × String) := do
  let traceparent ← getText root.traceparent
  let msg ← readBackendPayload layout root.payload
  return (msg, traceparent)

def decodeBackendMsg (message : Encoded Wire.BackendMsg) : Option (BackendToFrontend × String) :=
  readRoot (layout.sizes .backendMsg) (readBackendMsg layout) message

def windowDescriptorLoad (w : WindowDescriptor) : Load :=
  textLoad w.windowId + (textLoad w.sidecarId + textLoad w.command)

def windowUpdateLoad : WindowUpdate → Load
  | .titleChanged windowId title =>
    Load.follow (layout.sizes .titleChanged) (textLoad windowId + textLoad title)
  | .stateChanged windowId _ => Load.follow (layout.sizes .stateChanged) (textLoad windowId)
  | .focused windowId => Load.follow (layout.sizes .focused) (textIfSomeLoad windowId)
  | .menuStructure windowId menu =>
    Load.follow (layout.sizes .menuStructure) (textLoad windowId + menuLoad layout.shared menu)

def backendPayloadLoad : BackendToFrontend → Load
  | .sidecarList sidecars => Load.follow (layout.sizes .sidecarListMsg)
    (structsLoad (layout.sizes .sidecarInfo) (fun s => textLoad s.id + textLoad s.name) sidecars)
  | .workspace w => Load.follow (layout.sizes .workspaceMsg)
    (Load.follow (layout.sizes .workspace) (textLoad w.id + textLoad w.name))
  | .commandResult requestId _ message =>
    Load.follow (layout.sizes .commandResult) (textLoad requestId + textLoad message)
  | .processList sidecarId processes => Load.follow (layout.sizes .processListMsg)
    (structsLoad (layout.sizes .processInfo) (fun p => textLoad p.clientId + textLoad p.command) processes +
      textLoad sidecarId)
  | .windowUpdate update => Load.follow (layout.sizes .windowUpdateMsg)
    (Load.follow (layout.sizes .windowUpdate) (windowUpdateLoad layout update))
  | .windowList windows => Load.follow (layout.sizes .windowListMsg)
    (structsLoad (layout.sizes .windowDescriptor) windowDescriptorLoad windows)
  | .bell _ => Load.follow (layout.sizes .bell) 0
  | .rtcAnswer sdp => Load.follow (layout.sizes .rtcSdp) (textLoad sdp)
  | .rtcIceCandidate candidate sdpMid _ =>
    Load.follow (layout.sizes .rtcIceCandidate) (iceCandidateLoad candidate sdpMid)

theorem reads_sidecarInfo (s : SidecarInfo) :
    Reads (readSidecarInfo (writeSidecarInfo s)) (textLoad s.id + textLoad s.name) s :=
  (reads_text s.id).bind (reads_text s.name).map

theorem reads_workspace (w : Workspace) :
    Reads (readWorkspace (writeWorkspace w)) (textLoad w.id + textLoad w.name) w :=
  (reads_text w.id).bind (reads_text w.name).map

theorem reads_processInfo (p : ProcessInfo) :
    Reads (readProcessInfo (writeProcessInfo p)) (textLoad p.clientId + textLoad p.command) p :=
  (reads_text p.clientId).bind (reads_text p.command).map

theorem reads_windowDescriptor (w : WindowDescriptor) :
    Reads (readWindowDescriptor (writeWindowDescriptor w)) (windowDescriptorLoad w) w :=
  (reads_text w.windowId).bind <| (reads_text w.sidecarId).bind (reads_text w.command).map

theorem reads_windowUpdate (update : WindowUpdate) :
    Reads (readWindowUpdate layout (writeWindowUpdate update)) (windowUpdateLoad layout update) update := by
  cases update with
  | titleChanged windowId title => exact ((reads_text windowId).bind (reads_text title).map).follow _
  | stateChanged windowId state =>
    refine Reads.congr (((reads_text windowId).bind (reads_wmState state).map).follow _) ?_
    rw [add_zero, windowUpdateLoad]
  | focused windowId => exact (reads_textIfSome windowId).map.follow _
  | menuStructure windowId menu =>
    exact ((reads_text windowId).bind (reads_menu layout.shared menu).map).follow _

theorem reads_backendPayload (msg : BackendToFrontend) :
    Reads (readBackendPayload layout (writeBackendPayload msg)) (backendPayloadLoad layout msg) msg := by
  cases msg with
  | sidecarList sidecars => exact (reads_structs _ sidecars reads_sidecarInfo).map.follow _
  | workspace workspace => exact ((reads_workspace workspace).follow _).map.follow _
  | commandResult requestId success message =>
    exact ((reads_text requestId).bind (reads_text message).map).follow _
  | processList sidecarId processes =>
    exact ((reads_structs _ processes reads_processInfo).bind (reads_text sidecarId).map).follow _
  | windowUpdate update => exact ((reads_windowUpdate layout update).follow _).map.follow _
  | windowList windows => exact (reads_structs _ windows reads_windowDescriptor).map.follow _
  | bell percent => exact (reads_pure _).follow _
  | rtcAnswer sdp => exact (reads_text sdp).map.follow _
  | rtcIceCandidate candidate sdpMid sdpMlineIndex => exact (reads_iceCandidate _ candidate sdpMid _).follow _

end Backend

section RoundTrip

variable (layout : Layout)

/-- What a message and its trace context take, from the root pointer on. -/
def frontendLoad (msg : FrontendToBackend) (traceparent : String) : Load :=
  rootLoad (layout.sizes .frontendMsg) (layout.padsFrontend msg traceparent)
    (textLoad traceparent + frontendPayloadLoad layout msg)

def backendLoad (msg : BackendToFrontend) (traceparent : String) : Load :=
  rootLoad (layout.sizes .backendMsg) (layout.padsBackend msg traceparent)
    (textLoad traceparent + backendPayloadLoad layout msg)

def FrontendRoundTrips (msg : FrontendToBackend) (traceparent : String) : Prop :=
  decodeFrontendMsg layout (encodeFrontendMsg layout msg traceparent) = some (msg, traceparent)

def BackendRoundTrips (msg : BackendToFrontend) (traceparent : String) : Prop :=
  decodeBackendMsg layout (encodeBackendMsg layout msg traceparent) = some (msg, traceparent)

theorem frontendRoundTrips_iff_fits (msg : FrontendToBackend) (traceparent : String) :
    FrontendRoundTrips layout msg traceparent ↔
      (frontendLoad layout msg traceparent).Fits nestingLimit traversalLimit := by
  have h := (reads_text traceparent).bind
    (f := fun v => do return (← readFrontendPayload layout (writeFrontendPayload msg), v))
    (reads_frontendPayload layout msg).map
  exact readRoot_eq_some_iff (encodeFrontendMsg layout msg traceparent) _ h.delivers

theorem backendRoundTrips_iff_fits (msg : BackendToFrontend) (traceparent : String) :
    BackendRoundTrips layout msg traceparent ↔
      (backendLoad layout msg traceparent).Fits nestingLimit traversalLimit := by
  have h := (reads_text traceparent).bind
    (f := fun v => do return (← readBackendPayload layout (writeBackendPayload msg), v))
    (reads_backendPayload layout msg).map
  exact readRoot_eq_some_iff (encodeBackendMsg layout msg traceparent) _ h.delivers

/-- A message comes through exactly where what it takes is within the reader's limits.
The encoders do not look at them. -/
theorem browserRoundTrips_iff :
    (∀ msg traceparent, FrontendRoundTrips layout msg traceparent ↔
      (frontendLoad layout msg traceparent).Fits nestingLimit traversalLimit) ∧
    ∀ msg traceparent, BackendRoundTrips layout msg traceparent ↔
      (backendLoad layout msg traceparent).Fits nestingLimit traversalLimit :=
  ⟨frontendRoundTrips_iff_fits layout, backendRoundTrips_iff_fits layout⟩

/-- Thirty menus within one another are too many for the browser's wire as well. -/
theorem not_browserRoundTrips_nestedMenu :
    ¬∃ layout : Layout, (∀ msg traceparent, FrontendRoundTrips layout msg traceparent) ∧
      ∀ msg traceparent, BackendRoundTrips layout msg traceparent := by
  rintro ⟨layout, -, hbe⟩
  have hfits := (backendRoundTrips_iff_fits layout _ _).mp
    (hbe (.windowUpdate (.menuStructure "window" (nestedMenu 30))) "")
  refine not_fits_root_of_le ?_ hfits
  have hmenu := le_depth_nestedMenu layout.shared 30
  simp only [backendPayloadLoad, windowUpdateLoad, menuLoad, Load.add_depth, Load.follow, nestingLimit]
  omega

end RoundTrip

end X11Web.BrowserBridge
