import X11Web.BridgeHelpers

namespace X11Web.SidecarBridge

open Protocol Metered BridgeHelpers

inductive Shape
  | shared (shape : BridgeHelpers.Shape)
  | fromSidecar
  | processConnected
  | processExited
  | processSpawnedReply
  | processKilledReply
  | processListReply
  | processInfo
  | errorReply
  | displayUpdate
  | displayPayload
  | windowCreated
  | windowDestroyed
  | windowMapped
  | windowUnmapped
  | windowConfigured
  | titleChanged
  | putImage
  | windowThumbnail
  | windowFocused
  | windowRaised
  | windowStateChanged
  | bell
  | menuStructure
  | toSidecar
  | windowCaptureReq
  | inputEventEnvelope
  | resizeWindow
  | spawnProcess
  | killProcess
  | listProcessesReq
deriving DecidableEq

/-- What the schema compiler and the builder's allocator decide: how many words a struct takes, and how
many landing pads a message needs. -/
structure Layout where
  sizes : Shape → Nat
  padsFromSidecar : SidecarToBackend → String → Nat
  padsToSidecar : BackendToSidecar → String → Nat

def Layout.shared (layout : Layout) : Sizes := fun shape => layout.sizes (.shared shape)

namespace Wire

inductive DisplayPayload
  | unknown
  | windowCreated (windowId : Text) (x y : Int16) (width height : UInt16)
      (isTopLevel overrideRedirect : Bool) (borderWidth : UInt16) (borderPixel : UInt32) (resizable : Bool)
  | windowDestroyed (windowId : Text)
  | windowMapped (windowId : Text) (isTopLevel overrideRedirect : Bool)
  | windowUnmapped (windowId : Text)
  | windowConfigured (windowId : Text) (x y : Int16) (width height borderWidth : UInt16)
      (borderPixel : UInt32) (resizable : Bool)
  | titleChanged (windowId title : Text)
  | putImage (windowId : Text) (x y : Int16) (width height : UInt16) (encoding : BridgeHelpers.Ordinal) (data : Bytes)
  | reservedCursor7
  | reservedCursor8
  | reservedCursor9
  | windowFocused (windowId : Text)
  | windowRaised (windowId : Text)
  | windowStateChanged (windowId : Text) (state : BridgeHelpers.Ordinal)
  | bell (percent : UInt8)
  | menuStructure (windowId : Text) (menu : List BridgeHelpers.Wire.MenuItem)
  | windowThumbnail (windowId : Text) (width height : UInt16) (data : Bytes)

structure ProcessInfo where
  pid : UInt32
  command : Text

inductive ExitStatus
  | unknown
  | code (code : Int32)
  | killedBySignal

inductive FromSidecarUnion
  | unknown
  | heartbeat
  | processConnected (pid : UInt32) (clientId command : Text)
  | processExited (pid : UInt32) (exitStatus : ExitStatus)
  | display (clientId : Text) (payload : DisplayPayload)
  | processSpawned (requestId : Text) (pid : UInt32)
  | processKilled (requestId : Text) (pid : UInt32)
  | processList (requestId : Text) (processes : List ProcessInfo)
  | errorReply (requestId message : Text)

structure FromSidecar where
  traceparent : Text
  union : FromSidecarUnion

inductive ToSidecarUnion
  | unknown
  | inputEvent (windowId : Text) (event : BridgeHelpers.Wire.InputEvent)
  | resizeWindow (windowId : Text) (width height : UInt16)
  | spawnProcess (requestId command : Text) (args : List Text)
  | killProcess (requestId : Text) (pid : UInt32)
  | listProcesses (requestId : Text)
  | startWindowCapture (windowId : Text)
  | stopWindowCapture (windowId : Text)

structure ToSidecar where
  traceparent : Text
  union : ToSidecarUnion

end Wire

def setTraceparent (traceparent : String) : Text := if traceparent = "" then none else some traceparent

/-- A trace context that cannot be read is taken for none. -/
def getTraceparent (traceparent : Text) : Reading String := orElse (getText traceparent) ""

def traceparentLoad (traceparent : String) : Load := if traceparent = "" then 0 else textLoad traceparent

section FromSidecar

/-- `ImageEncoding::RawRgba`. The reader does not look at it. -/
def rawRgba : BridgeHelpers.Ordinal := 0

def writeDisplayPayload : DisplayUpdate → Wire.DisplayPayload
  | .windowCreated windowId x y width height isTopLevel overrideRedirect borderWidth borderPixel resizable =>
    .windowCreated (setText windowId) x y width height isTopLevel overrideRedirect borderWidth borderPixel resizable
  | .windowDestroyed windowId => .windowDestroyed (setText windowId)
  | .windowMapped windowId isTopLevel overrideRedirect =>
    .windowMapped (setText windowId) isTopLevel overrideRedirect
  | .windowUnmapped windowId => .windowUnmapped (setText windowId)
  | .windowConfigured windowId x y width height borderWidth borderPixel resizable =>
    .windowConfigured (setText windowId) x y width height borderWidth borderPixel resizable
  | .titleChanged windowId title => .titleChanged (setText windowId) (setText title)
  | .putImage windowId x y width height data => .putImage (setText windowId) x y width height rawRgba data
  | .windowFocused windowId => .windowFocused (setTextIfSome windowId)
  | .windowRaised windowId => .windowRaised (setText windowId)
  | .windowStateChanged windowId state => .windowStateChanged (setText windowId) (writeWmState state)
  | .bell percent => .bell percent
  | .menuStructure windowId menu => .menuStructure (setText windowId) (writeMenuItems menu)
  | .windowThumbnail windowId width height data => .windowThumbnail (setText windowId) width height data

def writeProcessInfo (p : SpawnedProcessInfo) : Wire.ProcessInfo := ⟨p.pid, setText p.command⟩

def writeExitStatus : Option Int32 → Wire.ExitStatus
  | some code => .code code
  | none => .killedBySignal

def writeFromSidecar : SidecarToBackend → Wire.FromSidecarUnion
  | .heartbeat => .heartbeat
  | .processConnected pid clientId command => .processConnected pid (setText clientId) (setText command)
  | .processExited pid exitCode => .processExited pid (writeExitStatus exitCode)
  | .processSpawned requestId pid => .processSpawned (setText requestId) pid
  | .processKilled requestId pid => .processKilled (setText requestId) pid
  | .processList requestId processes => .processList (setText requestId) (processes.map writeProcessInfo)
  | .error requestId message => .errorReply (setTextIfSome requestId) (setText message)
  | .displayUpdate clientId update => .display (setText clientId) (writeDisplayPayload update)

variable (layout : Layout)

/-- Every update is written, so the builder is always returned. -/
def buildFromSidecar (msg : SidecarToBackend) (traceparent : String) : Option (Encoded Wire.FromSidecar) :=
  some {
    pads := layout.padsFromSidecar msg traceparent
    root := ⟨setTraceparent traceparent, writeFromSidecar msg⟩ }

def readDisplayPayload : Wire.DisplayPayload → Reading DisplayUpdate
  | .unknown => fail
  | .windowCreated windowId x y width height isTopLevel overrideRedirect borderWidth borderPixel resizable =>
    follow (layout.sizes .windowCreated) do
      return .windowCreated (← getText windowId) x y width height isTopLevel overrideRedirect
        borderWidth borderPixel resizable
  | .windowDestroyed windowId => follow (layout.sizes .windowDestroyed) do
    return .windowDestroyed (← getText windowId)
  | .windowMapped windowId isTopLevel overrideRedirect => follow (layout.sizes .windowMapped) do
    return .windowMapped (← getText windowId) isTopLevel overrideRedirect
  | .windowUnmapped windowId => follow (layout.sizes .windowUnmapped) do
    return .windowUnmapped (← getText windowId)
  | .windowConfigured windowId x y width height borderWidth borderPixel resizable =>
    follow (layout.sizes .windowConfigured) do
      return .windowConfigured (← getText windowId) x y width height borderWidth borderPixel resizable
  | .titleChanged windowId title => follow (layout.sizes .titleChanged) do
    let windowId ← getText windowId
    let title ← getText title
    return .titleChanged windowId title
  | .putImage windowId x y width height _ data => follow (layout.sizes .putImage) do
    let windowId ← getText windowId
    let data ← getData data
    return .putImage windowId x y width height data
  | .reservedCursor7 | .reservedCursor8 | .reservedCursor9 => fail
  | .windowFocused windowId => follow (layout.sizes .windowFocused) do
    return .windowFocused (← getTextIfSet windowId)
  | .windowRaised windowId => follow (layout.sizes .windowRaised) do
    return .windowRaised (← getText windowId)
  | .windowStateChanged windowId state => follow (layout.sizes .windowStateChanged) do
    let windowId ← getText windowId
    let state ← readWmState state
    return .windowStateChanged windowId state
  | .bell percent => follow (layout.sizes .bell) (return .bell percent)
  | .menuStructure windowId menu => follow (layout.sizes .menuStructure) do
    let menu ← getMenu layout.shared menu
    let windowId ← getText windowId
    return .menuStructure windowId menu
  | .windowThumbnail windowId width height data => follow (layout.sizes .windowThumbnail) do
    let windowId ← getText windowId
    let data ← getData data
    return .windowThumbnail windowId width height data

def readProcessInfo (entry : Wire.ProcessInfo) : Reading SpawnedProcessInfo := do
  return ⟨entry.pid, ← getText entry.command⟩

def readExitStatus : Wire.ExitStatus → Reading (Option Int32)
  | .unknown => fail
  | .code c => return some c
  | .killedBySignal => return none

def readFromSidecarUnion : Wire.FromSidecarUnion → Reading SidecarToBackend
  | .unknown => fail
  | .heartbeat => return .heartbeat
  | .processConnected pid clientId command => follow (layout.sizes .processConnected) do
    let clientId ← getText clientId
    let command ← getText command
    return .processConnected pid clientId command
  | .processExited pid exitStatus => follow (layout.sizes .processExited) do
    return .processExited pid (← readExitStatus exitStatus)
  | .display clientId payload => follow (layout.sizes .displayUpdate) do
    let clientId ← getText clientId
    let update ← follow (layout.sizes .displayPayload) (readDisplayPayload layout payload)
    return .displayUpdate clientId update
  | .processSpawned requestId pid => follow (layout.sizes .processSpawnedReply) do
    return .processSpawned (← getText requestId) pid
  | .processKilled requestId pid => follow (layout.sizes .processKilledReply) do
    return .processKilled (← getText requestId) pid
  | .processList requestId processes => follow (layout.sizes .processListReply) do
    let processes ← getStructs (layout.sizes .processInfo) readProcessInfo processes
    let requestId ← getText requestId
    return .processList requestId processes
  | .errorReply requestId message => follow (layout.sizes .errorReply) do
    let requestId ← getTextIfSet requestId
    let message ← getText message
    return .error requestId message

def readFromSidecar (reader : Wire.FromSidecar) : Reading (SidecarToBackend × String) := do
  let traceparent ← getTraceparent reader.traceparent
  let msg ← readFromSidecarUnion layout reader.union
  return (msg, traceparent)

def displayPayloadLoad : DisplayUpdate → Load
  | .windowCreated windowId .. => Load.follow (layout.sizes .windowCreated) (textLoad windowId)
  | .windowDestroyed windowId => Load.follow (layout.sizes .windowDestroyed) (textLoad windowId)
  | .windowMapped windowId .. => Load.follow (layout.sizes .windowMapped) (textLoad windowId)
  | .windowUnmapped windowId => Load.follow (layout.sizes .windowUnmapped) (textLoad windowId)
  | .windowConfigured windowId .. => Load.follow (layout.sizes .windowConfigured) (textLoad windowId)
  | .titleChanged windowId title =>
    Load.follow (layout.sizes .titleChanged) (textLoad windowId + textLoad title)
  | .putImage windowId _ _ _ _ data =>
    Load.follow (layout.sizes .putImage) (textLoad windowId + dataLoad data)
  | .windowFocused windowId => Load.follow (layout.sizes .windowFocused) (textIfSomeLoad windowId)
  | .windowRaised windowId => Load.follow (layout.sizes .windowRaised) (textLoad windowId)
  | .windowStateChanged windowId _ => Load.follow (layout.sizes .windowStateChanged) (textLoad windowId)
  | .bell _ => Load.follow (layout.sizes .bell) 0
  | .menuStructure windowId menu =>
    Load.follow (layout.sizes .menuStructure) (menuLoad layout.shared menu + textLoad windowId)
  | .windowThumbnail windowId _ _ data =>
    Load.follow (layout.sizes .windowThumbnail) (textLoad windowId + dataLoad data)

def fromSidecarUnionLoad : SidecarToBackend → Load
  | .heartbeat => 0
  | .processConnected _ clientId command =>
    Load.follow (layout.sizes .processConnected) (textLoad clientId + textLoad command)
  | .processExited _ _ => Load.follow (layout.sizes .processExited) 0
  | .displayUpdate clientId update => Load.follow (layout.sizes .displayUpdate)
    (textLoad clientId + Load.follow (layout.sizes .displayPayload) (displayPayloadLoad layout update))
  | .processSpawned requestId _ => Load.follow (layout.sizes .processSpawnedReply) (textLoad requestId)
  | .processKilled requestId _ => Load.follow (layout.sizes .processKilledReply) (textLoad requestId)
  | .processList requestId processes => Load.follow (layout.sizes .processListReply)
    (structsLoad (layout.sizes .processInfo) (fun p => textLoad p.command) processes + textLoad requestId)
  | .error requestId message =>
    Load.follow (layout.sizes .errorReply) (textIfSomeLoad requestId + textLoad message)

theorem reads_displayPayload (update : DisplayUpdate) :
    Reads (readDisplayPayload layout (writeDisplayPayload update)) (displayPayloadLoad layout update) update := by
  cases update with
  | windowCreated windowId | windowDestroyed windowId | windowMapped windowId | windowUnmapped windowId
  | windowConfigured windowId | windowRaised windowId => exact (reads_text windowId).map.follow _
  | titleChanged windowId title => exact ((reads_text windowId).bind (reads_text title).map).follow _
  | putImage windowId _ _ _ _ data | windowThumbnail windowId _ _ data =>
    exact ((reads_text windowId).bind (reads_data data).map).follow _
  | windowFocused windowId => exact (reads_textIfSome windowId).map.follow _
  | windowStateChanged windowId state =>
    refine Reads.congr (((reads_text windowId).bind (reads_wmState state).map).follow _) ?_
    rw [add_zero, displayPayloadLoad]
  | bell percent => exact (reads_pure _).follow _
  | menuStructure windowId menu =>
    exact ((reads_menu layout.shared menu).bind (reads_text windowId).map).follow _

theorem reads_exitStatus (exitCode : Option Int32) :
    Reads (readExitStatus (writeExitStatus exitCode)) 0 exitCode := by
  cases exitCode <;> exact reads_pure _

theorem reads_processInfo (p : SpawnedProcessInfo) :
    Reads (readProcessInfo (writeProcessInfo p)) (textLoad p.command) p :=
  (reads_text p.command).map

theorem reads_fromSidecarUnion (msg : SidecarToBackend) :
    Reads (readFromSidecarUnion layout (writeFromSidecar msg)) (fromSidecarUnionLoad layout msg) msg := by
  cases msg with
  | heartbeat => exact reads_pure _
  | processConnected pid clientId command =>
    exact ((reads_text clientId).bind (reads_text command).map).follow _
  | processExited pid exitCode => exact (reads_exitStatus exitCode).map.follow _
  | displayUpdate clientId update =>
    exact ((reads_text clientId).bind ((reads_displayPayload layout update).follow _).map).follow _
  | processSpawned requestId pid | processKilled requestId pid => exact (reads_text requestId).map.follow _
  | processList requestId processes =>
    exact ((reads_structs _ processes reads_processInfo).bind (reads_text requestId).map).follow _
  | error requestId message =>
    exact ((reads_textIfSome requestId).bind (reads_text message).map).follow _

end FromSidecar

section ToSidecar

def writeToSidecar : BackendToSidecar → Wire.ToSidecarUnion
  | .inputEvent windowId event => .inputEvent (setText windowId) (writeInputEvent event)
  | .resizeWindow windowId width height => .resizeWindow (setText windowId) width height
  | .spawnProcess requestId command args =>
    .spawnProcess (setText requestId) (setText command) (setTexts args)
  | .killProcess requestId pid => .killProcess (setText requestId) pid
  | .listProcesses requestId => .listProcesses (setText requestId)
  | .startWindowCapture windowId => .startWindowCapture (setText windowId)
  | .stopWindowCapture windowId => .stopWindowCapture (setText windowId)

variable (layout : Layout)

def buildToSidecar (msg : BackendToSidecar) (traceparent : String) : Option (Encoded Wire.ToSidecar) :=
  some {
    pads := layout.padsToSidecar msg traceparent
    root := ⟨setTraceparent traceparent, writeToSidecar msg⟩ }

def readToSidecarUnion : Wire.ToSidecarUnion → Reading BackendToSidecar
  | .unknown => fail
  | .inputEvent windowId event => follow (layout.sizes .inputEventEnvelope) do
    let windowId ← getText windowId
    let event ← getInputEvent layout.shared event
    return .inputEvent windowId event
  | .resizeWindow windowId width height => follow (layout.sizes .resizeWindow) do
    return .resizeWindow (← getText windowId) width height
  | .spawnProcess requestId command args => follow (layout.sizes .spawnProcess) do
    let args ← getTexts args
    let requestId ← getText requestId
    let command ← getText command
    return .spawnProcess requestId command args
  | .killProcess requestId pid => follow (layout.sizes .killProcess) do
    return .killProcess (← getText requestId) pid
  | .listProcesses requestId => follow (layout.sizes .listProcessesReq) do
    return .listProcesses (← getText requestId)
  | .startWindowCapture windowId => follow (layout.sizes .windowCaptureReq) do
    return .startWindowCapture (← getText windowId)
  | .stopWindowCapture windowId => follow (layout.sizes .windowCaptureReq) do
    return .stopWindowCapture (← getText windowId)

def readToSidecar (reader : Wire.ToSidecar) : Reading (BackendToSidecar × String) := do
  let traceparent ← getTraceparent reader.traceparent
  let msg ← readToSidecarUnion layout reader.union
  return (msg, traceparent)

def toSidecarUnionLoad : BackendToSidecar → Load
  | .inputEvent windowId event => Load.follow (layout.sizes .inputEventEnvelope)
    (textLoad windowId + eventLoad layout.shared event)
  | .resizeWindow windowId _ _ => Load.follow (layout.sizes .resizeWindow) (textLoad windowId)
  | .spawnProcess requestId command args => Load.follow (layout.sizes .spawnProcess)
    (textsLoad args + (textLoad requestId + textLoad command))
  | .killProcess requestId _ => Load.follow (layout.sizes .killProcess) (textLoad requestId)
  | .listProcesses requestId => Load.follow (layout.sizes .listProcessesReq) (textLoad requestId)
  | .startWindowCapture windowId | .stopWindowCapture windowId =>
    Load.follow (layout.sizes .windowCaptureReq) (textLoad windowId)

theorem reads_toSidecarUnion (msg : BackendToSidecar) :
    Reads (readToSidecarUnion layout (writeToSidecar msg)) (toSidecarUnionLoad layout msg) msg := by
  cases msg with
  | inputEvent windowId event =>
    exact ((reads_text windowId).bind (reads_event layout.shared event).map).follow _
  | spawnProcess requestId command args =>
    exact ((reads_texts args).bind ((reads_text requestId).bind (reads_text command).map)).follow _
  | resizeWindow windowId | startWindowCapture windowId | stopWindowCapture windowId =>
    exact (reads_text windowId).map.follow _
  | killProcess requestId | listProcesses requestId => exact (reads_text requestId).map.follow _

end ToSidecar

section RoundTrip

variable (layout : Layout)

/-- What a message and its trace context take, from the root pointer on. -/
def fromSidecarLoad (msg : SidecarToBackend) (traceparent : String) : Load :=
  rootLoad (layout.sizes .fromSidecar) (layout.padsFromSidecar msg traceparent)
    (traceparentLoad traceparent + fromSidecarUnionLoad layout msg)

def toSidecarLoad (msg : BackendToSidecar) (traceparent : String) : Load :=
  rootLoad (layout.sizes .toSidecar) (layout.padsToSidecar msg traceparent)
    (traceparentLoad traceparent + toSidecarUnionLoad layout msg)

def FromSidecarRoundTrips (msg : SidecarToBackend) (traceparent : String) : Prop :=
  (buildFromSidecar layout msg traceparent).bind (readRoot (layout.sizes .fromSidecar) (readFromSidecar layout)) =
    some (msg, traceparent)

def ToSidecarRoundTrips (msg : BackendToSidecar) (traceparent : String) : Prop :=
  (buildToSidecar layout msg traceparent).bind (readRoot (layout.sizes .toSidecar) (readToSidecar layout)) =
    some (msg, traceparent)

theorem delivers_traced {β : Type} {y : Reading β} {l : Load} {b : β} (traceparent : String) (hy : Reads y l b) :
    Delivers (do let v ← getTraceparent (setTraceparent traceparent); let b ← y; return (b, v))
      (traceparentLoad traceparent + l) (b, traceparent) := by
  by_cases h : traceparent = ""
  · have hget : Reads (getTraceparent (setTraceparent traceparent)) (traceparentLoad traceparent) traceparent := by
      rw [h]
      exact reads_pure ""
    exact (hget.bind (f := fun v => do return (← y, v)) hy.map).delivers
  · rw [setTraceparent, traceparentLoad, if_neg h, if_neg h]
    exact (reads_text traceparent).orElse_delivers (Ne.symm h) hy

theorem fromSidecarRoundTrips_iff_fits (msg : SidecarToBackend) (traceparent : String) :
    FromSidecarRoundTrips layout msg traceparent ↔
      (fromSidecarLoad layout msg traceparent).Fits nestingLimit traversalLimit :=
  readRoot_eq_some_iff _ _ (delivers_traced traceparent (reads_fromSidecarUnion layout msg))

theorem toSidecarRoundTrips_iff_fits (msg : BackendToSidecar) (traceparent : String) :
    ToSidecarRoundTrips layout msg traceparent ↔
      (toSidecarLoad layout msg traceparent).Fits nestingLimit traversalLimit :=
  readRoot_eq_some_iff _ _ (delivers_traced traceparent (reads_toSidecarUnion layout msg))

/-- A message comes through exactly where what it takes is within the reader's limits.
The builders do not look at them. -/
theorem sidecarRoundTrips_iff :
    (∀ msg traceparent, FromSidecarRoundTrips layout msg traceparent ↔
      (fromSidecarLoad layout msg traceparent).Fits nestingLimit traversalLimit) ∧
    ∀ msg traceparent, ToSidecarRoundTrips layout msg traceparent ↔
      (toSidecarLoad layout msg traceparent).Fits nestingLimit traversalLimit :=
  ⟨fromSidecarRoundTrips_iff_fits layout, toSidecarRoundTrips_iff_fits layout⟩

/-- Thirty menus within one another are too many, whatever the layout. -/
theorem not_sidecarRoundTrips_nestedMenu :
    ¬∃ layout : Layout, (∀ msg traceparent, FromSidecarRoundTrips layout msg traceparent) ∧
      ∀ msg traceparent, ToSidecarRoundTrips layout msg traceparent := by
  rintro ⟨layout, hfrom, -⟩
  have hfits := (fromSidecarRoundTrips_iff_fits layout _ _).mp
    (hfrom (.displayUpdate "client" (.menuStructure "window" (nestedMenu 30))) "")
  refine not_fits_root_of_le ?_ hfits
  have hmenu := le_depth_nestedMenu layout.shared 30
  simp only [fromSidecarUnionLoad, displayPayloadLoad, menuLoad, Load.add_depth, Load.follow, nestingLimit]
  omega

end RoundTrip

end X11Web.SidecarBridge
