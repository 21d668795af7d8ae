import X11Web.WindowTree

namespace X11Web.Grabs

open HashMaps Windows WindowTree

inductive Device
  | pointer
  | keyboard
deriving DecidableEq

/-- The freeze state of one device: whether its events are held back, whether
they are to be again after the next one, and those held back so far. -/
structure Freeze where
  frozen : Bool := false
  syncPending : Bool := false
  events : List Bytes := []
deriving DecidableEq

structure ActivePointerGrab where
  grabWindow : XId
  eventMask : Nat
  pointerMode : Nat
  keyboardMode : Nat
  confineTo : XId
  cursor : XId
  ownerEvents : Bool
  confineBounds : Option (Int × Int × Int × Int)
deriving DecidableEq

structure ActiveKeyboardGrab where
  grabWindow : XId
  pointerMode : Nat
  keyboardMode : Nat
  ownerEvents : Bool
deriving DecidableEq

/-- What passive button and key grabs have in common; `detail` is the button or
the key, 0 for any. -/
structure PassiveGrab where
  grabWindow : XId
  detail : Nat
  modifiers : Nat
  pointerMode : Nat
  keyboardMode : Nat
  ownerEvents : Bool
deriving DecidableEq

structure PassiveButtonGrab extends PassiveGrab where
  eventMask : Nat
  confineTo : XId
  cursor : XId
deriving DecidableEq

/-- The grabs of a connection, but for the count of its server grabs. -/
structure GrabState where
  pointerGrab : Option ActivePointerGrab := none
  keyboardGrab : Option ActiveKeyboardGrab := none
  buttonGrabs : List PassiveButtonGrab := []
  keyGrabs : List PassiveGrab := []
  pointer : Freeze := {}
  keyboard : Freeze := {}
deriving DecidableEq

def GrabState.freeze (g : GrabState) : Device → Freeze
  | .pointer => g.pointer
  | .keyboard => g.keyboard

/-- Device events in the order in which they go to `pending_events` or to the
client. -/
abbrev Released := List (Device × Bytes)

def ofDevice (dev : Device) (events : Released) : List Bytes :=
  (events.filter (fun e => decide (e.1 = dev))).map Prod.snd

inductive GrabStatus
  | success | alreadyGrabbed | invalidTime | notViewable | frozen
deriving DecidableEq

inductive GrabResponse
  | reply (status : GrabStatus)
  | error (code : XError) (badValue : Nat) (majorOpcode : Nat)
deriving DecidableEq

def anyModifier : Nat := 2 ^ 15
def timestampWrapThreshold : Nat := 2 ^ 31
def buttonStateMaskAll : Nat := 0x1F00
def maxFrozenEvents : Nat := 4096

def isViewable (m : HashMap XId WindowState) : Nat → XId → Bool
  | 0, _ => false
  | n + 1, cur =>
    if cur = rootWindow then true
    else match m.lookup cur with
      | none => false
      | some w => if w.mapped then isViewable m n w.parent else false

def absOrigin (m : HashMap XId WindowState) : Nat → XId → Int → Int → Int × Int
  | 0, _, x, y => (x, y)
  | n + 1, cur, x, y =>
    if cur = rootWindow ∨ cur = 0 then (x, y)
    else match m.lookup cur with
      | none => (x, y)
      | some p => absOrigin m n p.parent (asI16 (x + p.x)) (asI16 (y + p.y))

def windowAbsBounds (m : HashMap XId WindowState) (wid : XId) : Option (Int × Int × Int × Int) :=
  (m.lookup wid).map fun w =>
    let (x, y) := absOrigin m maxTreeDepth w.parent w.x w.y
    (x, y, saturatingAddI16 x (asI16 w.width), saturatingAddI16 y (asI16 w.height))

def confineBounds (s : ClientState) (confineTo : XId) : Option (Int × Int × Int × Int) :=
  if confineTo = 0 then none
  else if confineTo = rootWindow then some (0, 0, asI16 s.screenWidth, asI16 s.screenHeight)
  else windowAbsBounds s.windows confineTo

/-- A time other than CurrentTime that is neither past nor present. -/
def isInvalidTime (now time : Nat) : Bool :=
  let delta := (now + 2 ^ 32 - time) % 2 ^ 32
  time != 0 && !(decide (0 < delta) && decide (delta < timestampWrapThreshold)) && time != now

/-- Why a grab of a device is refused, in the order of the checks. -/
def grabRefusal (s : ClientState) (now : Nat) (window time : Nat) (frozen held : Bool) :
    Option GrabStatus :=
  if frozen && !held then some .frozen
  else if window ≠ rootWindow ∧ isViewable s.windows maxTreeDepth window = false then
    some .notViewable
  else if isInvalidTime now time then some .invalidTime
  else none

def windowMissing (s : ClientState) (w : XId) : Bool := decide (w ∉ s.windows ∧ w ≠ rootWindow)

def cursorMissing (s : ClientState) (cursor : XId) : Bool := decide (cursor ≠ 0 ∧ cursor ∉ s.cursors)

/-- The mode Synchronous is 0, and it alone freezes. -/
def Freeze.hold (mode : Nat) (f : Freeze) : Freeze :=
  if mode = 0 then { f with frozen := true } else f

/-- The grab of the device itself sets the flag both ways. -/
def Freeze.setTo (mode : Nat) (f : Freeze) : Freeze := { f with frozen := decide (mode = 0) }

def Freeze.thaw (f : Freeze) : Freeze := { f with frozen := false, events := [] }

def Freeze.release (dev : Device) (f : Freeze) : Released := f.events.map (fun e => (dev, e))

structure GrabPointerRequest where
  ownerEvents : Bool
  grabWindow : XId
  eventMask : Nat
  pointerMode : Nat
  keyboardMode : Nat
  confineTo : XId
  cursor : XId
  time : Nat
deriving DecidableEq

def handleGrabPointer (s : ClientState) (now : Nat) (req : GrabPointerRequest) (g : GrabState) :
    GrabState × GrabResponse :=
  if windowMissing s req.grabWindow then (g, .error .window req.grabWindow 26)
  else if cursorMissing s req.cursor then (g, .error .cursor req.cursor 26)
  else match grabRefusal s now req.grabWindow req.time g.pointer.frozen g.pointerGrab.isSome with
    | some status => (g, .reply status)
    | none =>
      ({ g with
          pointer := g.pointer.setTo req.pointerMode
          keyboard := g.keyboard.hold req.keyboardMode
          pointerGrab := some ⟨req.grabWindow, req.eventMask, req.pointerMode, req.keyboardMode,
            req.confineTo, req.cursor, req.ownerEvents, confineBounds s req.confineTo⟩ },
        .reply .success)

/-- The pending re-freeze of the pointer is left as it is, and so is the
keyboard. -/
def handleUngrabPointer (g : GrabState) : GrabState × Released :=
  match g.pointerGrab with
  | none => (g, [])
  | some _ => ({ g with pointer := g.pointer.thaw, pointerGrab := none }, g.pointer.release .pointer)

structure GrabButtonRequest where
  ownerEvents : Bool
  grabWindow : XId
  eventMask : Nat
  pointerMode : Nat
  keyboardMode : Nat
  confineTo : XId
  cursor : XId
  button : Nat
  modifiers : Nat
deriving DecidableEq

def PassiveGrab.same (window detail modifiers : Nat) (g : PassiveGrab) : Bool :=
  g.grabWindow == window && g.detail == detail && g.modifiers == modifiers

/-- The passive grabs that Ungrab leaves: any detail with any modifier takes
all of the window's. -/
def PassiveGrab.survives (window detail modifiers : Nat) (g : PassiveGrab) : Bool :=
  if detail = 0 ∧ modifiers = anyModifier then g.grabWindow != window
  else !g.same window detail modifiers

def handleGrabButton (s : ClientState) (req : GrabButtonRequest) (g : GrabState) :
    GrabState × Response :=
  if windowMissing s req.grabWindow then (g, .error .window req.grabWindow 28)
  else if cursorMissing s req.cursor then (g, .error .cursor req.cursor 28)
  else
    ({ g with
        buttonGrabs := ⟨⟨req.grabWindow, req.button, req.modifiers, req.pointerMode,
          req.keyboardMode, req.ownerEvents⟩, req.eventMask, req.confineTo, req.cursor⟩ ::
          g.buttonGrabs.filter (fun b => !b.same req.grabWindow req.button req.modifiers) }, .ok)

def handleUngrabButton (window button modifiers : Nat) (g : GrabState) : GrabState :=
  { g with buttonGrabs := g.buttonGrabs.filter (fun b => b.survives window button modifiers) }

def handleChangeActivePointerGrab (s : ClientState) (cursor eventMask : Nat) (g : GrabState) :
    GrabState × Response :=
  if cursorMissing s cursor then (g, .error .cursor cursor 30)
  else ({ g with pointerGrab := g.pointerGrab.map fun grab =>
      { grab with cursor := cursor, eventMask := eventMask } }, .ok)

structure GrabKeyboardRequest where
  ownerEvents : Bool
  grabWindow : XId
  time : Nat
  pointerMode : Nat
  keyboardMode : Nat
deriving DecidableEq

def handleGrabKeyboard (s : ClientState) (now : Nat) (req : GrabKeyboardRequest) (g : GrabState) :
    GrabState × GrabResponse :=
  if windowMissing s req.grabWindow then (g, .error .window req.grabWindow 31)
  else match grabRefusal s now req.grabWindow req.time g.keyboard.frozen g.keyboardGrab.isSome with
    | some status => (g, .reply status)
    | none =>
      ({ g with
          keyboard := g.keyboard.setTo req.keyboardMode
          pointer := g.pointer.hold req.pointerMode
          keyboardGrab := some ⟨req.grabWindow, req.pointerMode, req.keyboardMode,
            req.ownerEvents⟩ }, .reply .success)

def thawPointer (sync : Bool) (g : GrabState) : GrabState × Released :=
  ({ g with pointer := { g.pointer.thaw with syncPending := sync } }, g.pointer.release .pointer)

def thawKeyboard (sync : Bool) (g : GrabState) : GrabState × Released :=
  ({ g with keyboard := { g.keyboard.thaw with syncPending := sync } },
    g.keyboard.release .keyboard)

/-- A pointer that the keyboard grab itself has frozen is thawed with it. -/
def handleUngrabKeyboard (g : GrabState) : GrabState × Released :=
  match g.keyboardGrab with
  | none => (g, [])
  | some grab =>
    let (g₁, released) := thawKeyboard false { g with keyboardGrab := none }
    if grab.pointerMode = 0 ∧ g.pointerGrab = none then
      let (g₂, released') := thawPointer false g₁
      (g₂, released ++ released')
    else (g₁, released)

def handleGrabKey (s : ClientState) (req : PassiveGrab) (g : GrabState) : GrabState × Response :=
  if windowMissing s req.grabWindow then (g, .error .window req.grabWindow 33)
  else ({ g with keyGrabs := req ::
      g.keyGrabs.filter (fun k => !k.same req.grabWindow req.detail req.modifiers) }, .ok)

def handleUngrabKey (window key modifiers : Nat) (g : GrabState) : GrabState :=
  { g with keyGrabs := g.keyGrabs.filter (fun k => k.survives window key modifiers) }

def thawBoth (sync : Bool) (g : GrabState) : GrabState × Released :=
  let (g₁, released) := thawPointer sync g
  let (g₂, released') := thawKeyboard sync g₁
  (g₂, released ++ released')

/-- Async is 0, 3 and 6, Sync 1, 4 and 7; Replay, 2 and 5, also ends the grab of
the device. -/
def handleAllowEvents (mode : Nat) (g : GrabState) : GrabState × Released :=
  match mode with
  | 0 => thawPointer false g
  | 1 => thawPointer true g
  | 2 => thawPointer false { g with pointerGrab := none }
  | 3 => thawKeyboard false g
  | 4 => thawKeyboard true g
  | 5 => thawKeyboard false { g with keyboardGrab := none }
  | 6 => thawBoth false g
  | 7 => thawBoth true g
  | _ => (g, [])

def PassiveGrab.matches (window detail modifiers : Nat) (g : PassiveGrab) : Bool :=
  g.grabWindow == window && (g.detail == 0 || g.detail == detail) &&
    (g.modifiers == anyModifier || g.modifiers == modifiers)

/-- The first matching grab on the way up from the window. -/
def findGrab {α : Type} (passive : α → PassiveGrab) (grabs : List α)
    (m : HashMap XId WindowState) (detail modifiers : Nat) : Nat → XId → Option α
  | 0, _ => none
  | n + 1, current =>
    match grabs.find? (fun g => (passive g).matches current detail modifiers) with
    | some g => some g
    | none =>
      match m.lookup current with
      | none => none
      | some w =>
        if w.parent ≠ 0 ∧ w.parent ≠ current then
          findGrab passive grabs m detail modifiers n w.parent
        else none

def checkPassiveButtonGrab (s : ClientState) (button modifiers : Nat) (window : XId)
    (g : GrabState) : GrabState × Bool :=
  match findGrab (·.toPassiveGrab) g.buttonGrabs s.windows button modifiers maxTreeDepth window with
  | none => (g, false)
  | some grab =>
    ({ g with
        pointer := g.pointer.hold grab.pointerMode
        keyboard := g.keyboard.hold grab.keyboardMode
        pointerGrab := some ⟨grab.grabWindow, grab.eventMask, grab.pointerMode, grab.keyboardMode,
          grab.confineTo, grab.cursor, grab.ownerEvents, confineBounds s grab.confineTo⟩ }, true)

def checkPassiveKeyGrab (s : ClientState) (keycode modifiers : Nat) (window : XId)
    (g : GrabState) : GrabState × Bool :=
  match findGrab id g.keyGrabs s.windows keycode modifiers maxTreeDepth window with
  | none => (g, false)
  | some grab =>
    ({ g with
        keyboard := g.keyboard.hold grab.keyboardMode
        pointer := g.pointer.hold grab.pointerMode
        keyboardGrab := some ⟨grab.grabWindow, grab.pointerMode, grab.keyboardMode,
          grab.ownerEvents⟩ }, true)

/-- The last button released ends the pointer grab; the keyboard is left as it
is. -/
def checkButtonReleaseUngrab (buttonMask : Nat) (g : GrabState) : GrabState × Released :=
  match g.pointerGrab with
  | none => (g, [])
  | some _ =>
    if buttonMask &&& buttonStateMaskAll = 0 then thawPointer false { g with pointerGrab := none }
    else (g, [])

/-- Whether the event is held back. The queue is bounded, and its oldest event
makes room; an event let through after a Sync thaw freezes the device again. -/
def Freeze.check (event : Bytes) (f : Freeze) : Freeze × Bool :=
  if f.frozen then
    let kept := if maxFrozenEvents ≤ f.events.length then f.events.tail else f.events
    ({ f with events := kept ++ [event] }, true)
  else if f.syncPending then ({ f with syncPending := false, frozen := true }, false)
  else (f, false)

def checkPointerSyncFreeze (event : Bytes) (g : GrabState) : GrabState × Bool :=
  ({ g with pointer := (g.pointer.check event).1 }, (g.pointer.check event).2)

def checkKeyboardSyncFreeze (event : Bytes) (g : GrabState) : GrabState × Bool :=
  ({ g with keyboard := (g.keyboard.check event).1 }, (g.keyboard.check event).2)

/-- What a connection does with its grabs. The rest of the client's state may be
any at each step. -/
inductive GrabAction
  | grabPointer (s : ClientState) (now : Nat) (req : GrabPointerRequest)
  | ungrabPointer
  | grabButton (s : ClientState) (req : GrabButtonRequest)
  | ungrabButton (window button modifiers : Nat)
  | changeActivePointerGrab (s : ClientState) (cursor eventMask : Nat)
  | grabKeyboard (s : ClientState) (now : Nat) (req : GrabKeyboardRequest)
  | ungrabKeyboard
  | grabKey (s : ClientState) (req : PassiveGrab)
  | ungrabKey (window key modifiers : Nat)
  | allowEvents (mode : Nat)
  | buttonPress (s : ClientState) (button modifiers : Nat) (window : XId)
  | keyPress (s : ClientState) (keycode modifiers : Nat) (window : XId)
  | buttonRelease (buttonMask : Nat)
  | event (dev : Device) (event : Bytes)

/-- The state after the action and the device events that it lets out. -/
def act (g : GrabState) : GrabAction → GrabState × Released
  | .grabPointer s now req => ((handleGrabPointer s now req g).1, [])
  | .ungrabPointer => handleUngrabPointer g
  | .grabButton s req => ((handleGrabButton s req g).1, [])
  | .ungrabButton window button modifiers => (handleUngrabButton window button modifiers g, [])
  | .changeActivePointerGrab s cursor eventMask =>
    ((handleChangeActivePointerGrab s cursor eventMask g).1, [])
  | .grabKeyboard s now req => ((handleGrabKeyboard s now req g).1, [])
  | .ungrabKeyboard => handleUngrabKeyboard g
  | .grabKey s req => ((handleGrabKey s req g).1, [])
  | .ungrabKey window key modifiers => (handleUngrabKey window key modifiers g, [])
  | .allowEvents mode => handleAllowEvents mode g
  | .buttonPress s button modifiers window => ((checkPassiveButtonGrab s button modifiers window g).1, [])
  | .keyPress s keycode modifiers window => ((checkPassiveKeyGrab s keycode modifiers window g).1, [])
  | .buttonRelease buttonMask => checkButtonReleaseUngrab buttonMask g
  | .event .pointer e =>
    let (g', queued) := checkPointerSyncFreeze e g
    (g', if queued then [] else [(.pointer, e)])
  | .event .keyboard e =>
    let (g', queued) := checkKeyboardSyncFreeze e g
    (g', if queued then [] else [(.keyboard, e)])

end X11Web.Grabs
