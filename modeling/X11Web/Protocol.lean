import Mathlib.Data.List.Basic

namespace X11Web.Protocol

abbrev Bytes := List UInt8

abbrev Float32Bits := UInt32
abbrev Float64Bits := UInt64

inductive MenuItemKind
  | normal
  | submenu
  | separator
  | checkbox
  | radio
deriving DecidableEq

inductive MenuActionTarget
  | string (v : String)
  | bool (v : Bool)
  | int32 (v : Int32)
  | uInt32 (v : UInt32)
  | int64 (v : Int64)
  | float64 (v : Float64Bits)
deriving DecidableEq

structure MenuAction where
  name : String
  target : Option MenuActionTarget
deriving DecidableEq

structure MenuItem where
  id : String
  label : Option String
  kind : MenuItemKind
  enabled : Bool
  visible : Bool
  checked : Option Bool
  accelerator : Option String
  icon : Option String
  action : Option MenuAction
  children : List MenuItem

inductive WindowWmState
  | normal
  | minimized
  | maximized
  | fullscreen
  | close
deriving DecidableEq

inductive GesturePhase
  | begin
  | update
  | done
deriving DecidableEq

inductive DndEventKind
  | enter (mimeTypes : List String)
  | position (x y : Int16)
  | drop (mimeType : String) (data : Bytes)
  | leave
deriving DecidableEq

inductive InputEvent
  | keyPress (keycode : UInt32) (state : UInt16)
  | keyRelease (keycode : UInt32) (state : UInt16)
  | buttonPress (button : UInt8) (x y : Int16) (state : UInt16)
  | buttonRelease (button : UInt8) (x y : Int16) (state : UInt16)
  | motionNotify (x y : Int16) (state : UInt16)
  | menuActivate (action : MenuAction)
  | windowManage (action : WindowWmState)
  | dndBridge (event : DndEventKind)
  | touchBegin (touchId : UInt32) (x y : Int16) (state : UInt16)
  | touchUpdate (touchId : UInt32) (x y : Int16) (state : UInt16)
  | touchEnd (touchId : UInt32) (x y : Int16) (state : UInt16)
  | gestureSwipe (phase : GesturePhase) (fingers : UInt8) (dx dy : Float32Bits)
  | gesturePinch (phase : GesturePhase) (fingers : UInt8) (dx dy scale rotation : Float32Bits)
  | compositionEvent (phase text : String)
deriving DecidableEq

inductive DisplayUpdate
  | windowCreated (windowId : String) (x y : Int16) (width height : UInt16)
      (isTopLevel overrideRedirect : Bool) (borderWidth : UInt16) (borderPixel : UInt32) (resizable : Bool)
  | windowDestroyed (windowId : String)
  | windowMapped (windowId : String) (isTopLevel overrideRedirect : Bool)
  | windowUnmapped (windowId : String)
  | windowConfigured (windowId : String) (x y : Int16) (width height borderWidth : UInt16)
      (borderPixel : UInt32) (resizable : Bool)
  | putImage (windowId : String) (x y : Int16) (width height : UInt16) (data : Bytes)
  | titleChanged (windowId title : String)
  | windowStateChanged (windowId : String) (state : WindowWmState)
  | windowRaised (windowId : String)
  | bell (percent : UInt8)
  | windowFocused (windowId : Option String)
  | menuStructure (windowId : String) (menu : List MenuItem)
  | windowThumbnail (windowId : String) (width height : UInt16) (data : Bytes)

inductive WindowUpdate
  | titleChanged (windowId title : String)
  | stateChanged (windowId : String) (state : WindowWmState)
  | focused (windowId : Option String)
  | menuStructure (windowId : String) (menu : List MenuItem)

structure SidecarInfo where
  id : String
  name : String
deriving DecidableEq

structure Workspace where
  id : String
  name : String
deriving DecidableEq

structure ProcessInfo where
  pid : UInt32
  clientId : String
  command : String
deriving DecidableEq

structure WindowDescriptor where
  windowId : String
  sidecarId : String
  pid : UInt32
  command : String
  x : Float64Bits
  y : Float64Bits
  width : UInt16
  height : UInt16
  borderWidth : UInt16
  borderPixel : UInt32
  overrideRedirect : Bool
  resizable : Bool
deriving DecidableEq

inductive BackendToFrontend
  | sidecarList (sidecars : List SidecarInfo)
  | workspace (workspace : Workspace)
  | commandResult (requestId : String) (success : Bool) (message : String)
  | processList (sidecarId : String) (processes : List ProcessInfo)
  | windowUpdate (update : WindowUpdate)
  | windowList (windows : List WindowDescriptor)
  | bell (percent : UInt8)
  | rtcAnswer (sdp : String)
  | rtcIceCandidate (candidate : String) (sdpMid : Option String) (sdpMlineIndex : Option UInt16)

inductive FrontendToBackend
  | openWorkspace (id : Option String)
  | spawnProcess (requestId sidecarId workspaceId command : String) (args : List String)
  | killProcess (requestId sidecarId : String) (pid : UInt32)
  | inputEvent (sidecarId windowId : String) (event : InputEvent)
  | resizeWindow (sidecarId windowId : String) (width height : UInt16)
  | rtcOffer (sdp : String)
  | rtcIceCandidate (candidate : String) (sdpMid : Option String) (sdpMlineIndex : Option UInt16)

structure SpawnedProcessInfo where
  pid : UInt32
  command : String
deriving DecidableEq

inductive BackendToSidecar
  | spawnProcess (requestId command : String) (args : List String)
  | killProcess (requestId : String) (pid : UInt32)
  | listProcesses (requestId : String)
  | inputEvent (windowId : String) (event : InputEvent)
  | resizeWindow (windowId : String) (width height : UInt16)
  | startWindowCapture (windowId : String)
  | stopWindowCapture (windowId : String)

inductive SidecarToBackend
  | heartbeat
  | processSpawned (requestId : String) (pid : UInt32)
  | processKilled (requestId : String) (pid : UInt32)
  | processExited (pid : UInt32) (exitCode : Option Int32)
  | processList (requestId : String) (processes : List SpawnedProcessInfo)
  | processConnected (pid : UInt32) (clientId command : String)
  | displayUpdate (clientId : String) (update : DisplayUpdate)
  | error (requestId : Option String) (message : String)

end X11Web.Protocol
