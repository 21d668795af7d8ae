import X11Web.CreateDestroy
import X11Web.SyncWindows

namespace X11Web.Attributes

open HashMaps Windows WindowTree CreateDestroy SyncWindows

/-- The request's value list is kept as far as a check or a stored field reads it. -/
structure ChangeWindowAttributesRequest where
  window : XId
  bitGravity : Option Nat := none
  winGravity : Option Nat := none
  backingStore : Option Nat := none
  overrideRedirect : Option Nat := none
  eventMask : Option Nat := none
  cursor : Option XId := none

/-- A window that only the shared registry has is copied into the client's own
map first; `none` if nobody has it. -/
def pullWindowFor (w : XId) (s : ClientState) : Option ClientState :=
  if w ∈ s.windows then some s
  else (s.shared.windows.lookup w).map (fun win => { s with windows := s.windows.insert w win })

def changeAttributesError (s : ClientState) (req : ChangeWindowAttributesRequest) :
    Option Response :=
  if req.bitGravity.getD 0 > 10 then some (.error .value (req.bitGravity.getD 0) 2)
  else if req.winGravity.getD 0 > 10 then some (.error .value (req.winGravity.getD 0) 2)
  else if req.backingStore.getD 0 > 2 then some (.error .value (req.backingStore.getD 0) 2)
  else if req.eventMask.any (fun mask => checkRedirectConflict s.shared req.window mask s.clientId)
  then some (.error .access 0 2)
  else if req.cursor.getD 0 ≠ 0 ∧ req.cursor.getD 0 ∉ s.cursors then
    some (.error .cursor (req.cursor.getD 0) 2)
  else none

/-- SubstructureRedirect on the root makes the client the window manager. -/
def registerWm (w : XId) (mask : Nat) (s : ClientState) : ClientState :=
  if w = rootWindow ∧ mask &&& substructureRedirect ≠ 0 then
    { s with shared := { s.shared with wmClientId := some s.clientId } }
  else s

def setEventMask (mask : Nat) (win : WindowState) : WindowState := { win with eventMask := mask }

def selectEvents (w : XId) (mask : Nat) (s : ClientState) : ClientState :=
  let s' := registerWm w mask (updateWindow w (setEventMask mask) s)
  { s' with shared := subscribe w s'.clientId mask s'.shared }

def setOverrideRedirect (v : Option Nat) (win : WindowState) : WindowState :=
  { win with overrideRedirect := (v.map (fun v => v != 0)).getD win.overrideRedirect }

def storeAttributes (req : ChangeWindowAttributesRequest) (s : ClientState) : ClientState :=
  updateWindow req.window (setOverrideRedirect req.overrideRedirect) { s with
    bitGravity := req.bitGravity.elim s.bitGravity (s.bitGravity.insert req.window)
    winGravity := req.winGravity.elim s.winGravity (s.winGravity.insert req.window) }

def changeAttributes (req : ChangeWindowAttributesRequest) (s : ClientState) : ClientState :=
  let stored := storeAttributes req s
  markWindowSharedDirty req.window
    (req.eventMask.elim stored (fun mask => selectEvents req.window mask stored))

/-- ChangeWindowAttributes. The copy taken from the shared registry stays also
where a check fails. -/
def handleChangeWindowAttributes (req : ChangeWindowAttributesRequest) (s : ClientState) :
    ClientState × Response :=
  match pullWindowFor req.window s with
  | none => (s, .error .window req.window 2)
  | some s' =>
    match changeAttributesError s' req with
    | some r => (s', r)
    | none => (changeAttributes req s', .ok)

structure Session where
  shared : Shared
  connections : ClientId → Option Connection

def Session.view (t : Session) (conn : Connection) : ClientState := { conn with shared := t.shared }

def Session.put (t : Session) (client : ClientId) (s : ClientState) : Session :=
  ⟨s.shared, Function.update t.connections client (some s.toConnection)⟩

def Session.start (props : XId → HashMap Atom PropertyValue)
    (selections : HashMap Atom SelectionOwner) : Session :=
  ⟨initialShared props selections, fun _ => none⟩

/-- The mask that a request selects on a window, if it is accepted. -/
def createSelection (s : ClientState) (req : CreateWindowRequest) : Option (XId × Nat) :=
  if createWindowError s req = none ∧ req.eventMask.getD 0 ≠ 0 then
    some (req.wid, req.eventMask.getD 0)
  else none

def changeSelection (s : ClientState) (req : ChangeWindowAttributesRequest) : Option (XId × Nat) :=
  (pullWindowFor req.window s).bind (fun s' =>
    if changeAttributesError s' req = none then req.eventMask.map (fun mask => (req.window, mask))
    else none)

variable {s s' : ClientState} {w : XId} {mask : Nat}

theorem Session.put_connections (t : Session) (client : ClientId) (s : ClientState) :
    (t.put client s).connections client = some s.toConnection :=
  Function.update_self _ _ _

theorem pullWindowFor_some (h : pullWindowFor w s = some s') :
    (w ∈ s.windows ∧ s' = s) ∨
      ∃ win, w ∉ s.windows ∧ s.shared.windows.lookup w = some win ∧
        s' = { s with windows := s.windows.insert w win } := by
  rw [pullWindowFor] at h
  split at h
  · next hw => exact .inl ⟨hw, (Option.some.inj h).symm⟩
  · next hw =>
    obtain ⟨win, hwin, rfl⟩ := Option.map_eq_some_iff.mp h
    exact .inr ⟨win, hw, hwin, rfl⟩

theorem pullWindowFor_fields (h : pullWindowFor w s = some s') :
    s'.clientId = s.clientId ∧ s'.shared = s.shared := by
  obtain ⟨-, rfl⟩ | ⟨win, -, -, rfl⟩ := pullWindowFor_some h
  · exact ⟨rfl, rfl⟩
  · exact ⟨rfl, rfl⟩

theorem registerWm_shared (w : XId) (mask : Nat) (s : ClientState) :
    (registerWm w mask s).clientId = s.clientId ∧ (registerWm w mask s).windows = s.windows ∧
      (registerWm w mask s).shared = { s.shared with
        wmClientId := if w = rootWindow ∧ mask &&& substructureRedirect ≠ 0 then some s.clientId
          else s.shared.wmClientId } := by
  rw [registerWm]
  split <;> exact ⟨rfl, rfl, rfl⟩

theorem selectEvents_fields (w : XId) (mask : Nat) (s : ClientState) :
    (selectEvents w mask s).clientId = s.clientId ∧
      (selectEvents w mask s).windows = modify w (setEventMask mask) s.windows ∧
      (selectEvents w mask s).shared = subscribe w s.clientId mask { s.shared with
        wmClientId := if w = rootWindow ∧ mask &&& substructureRedirect ≠ 0 then some s.clientId
          else s.shared.wmClientId } := by
  obtain ⟨hid, hwins, hshd⟩ := registerWm_shared w mask (updateWindow w (setEventMask mask) s)
  refine ⟨hid, hwins, ?_⟩
  simp only [selectEvents, hid, hshd]
  rfl

end X11Web.Attributes
