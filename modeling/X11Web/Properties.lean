import X11Web.Stacking

namespace X11Web.Properties

open HashMaps Windows Ewmh Stacking

abbrev AtomNames := Atom → Option String

inductive PropMode
  | replace
  | prepend
  | append
  | unknown (mode : Nat)
deriving DecidableEq

/-- The request after parsing, which cuts `data` to the length and format given. -/
structure ChangePropertyRequest where
  mode : PropMode
  window : XId
  property : Atom
  propType : Atom
  format : Nat
  data : Bytes
deriving DecidableEq

structure GetPropertyRequest where
  delete : Bool
  window : XId
  property : Atom
  longOffset : Nat
  longLength : Nat
deriving DecidableEq

structure GetPropertyReply where
  propType : Atom
  format : Nat
  bytesAfter : Nat
  valueLen : Nat
  value : Bytes
deriving DecidableEq

inductive GetPropertyResponse
  | error (code : XError) (badValue : Nat)
  | reply (reply : GetPropertyReply)
deriving DecidableEq

variable {atoms : AtomNames} {s s' : ClientState} {w : XId} {a : Atom}

def unknownAtom (atoms : AtomNames) (a : Atom) : Bool := a != 0 && (atoms a).isNone

def ChangePropertyRequest.newValue (req : ChangePropertyRequest) : PropertyValue :=
  ⟨req.propType, req.format, req.data⟩

/-- What the request makes of the value it finds: a value of another type or
format is replaced in every mode. -/
def ChangePropertyRequest.combine (req : ChangePropertyRequest) :
    Option PropertyValue → PropertyValue
  | none => req.newValue
  | some old =>
    if old.propType = req.propType ∧ old.format = req.format then
      match req.mode with
      | .prepend => { old with data := req.data ++ old.data }
      | .append => { old with data := old.data ++ req.data }
      | _ => req.newValue
    else req.newValue

def cachedProperty (s : ClientState) (w : XId) (a : Atom) : Option PropertyValue :=
  (s.windows.lookup w).bind (fun win => win.properties.lookup a)

def sharedProperty (sh : Shared) (w : XId) (a : Atom) : Option PropertyValue :=
  (sh.windows.lookup w).bind (fun win => win.properties.lookup a)

/-- Store the value in the local window and copy it from there to the shared one. -/
def storeProperty (req : ChangePropertyRequest) (s : ClientState) : ClientState :=
  let value := req.combine (cachedProperty s req.window req.property)
  updateSharedWindow req.window (insertProperty req.property value)
    (updateWindow req.window (insertProperty req.property value) s)

def isNamed (atoms : AtomNames) (req : ChangePropertyRequest) (a : Atom) (name : String) : Bool :=
  req.property == a || atoms req.property == some name

def setTransientFor (parent : XId) (win : WindowState) : WindowState :=
  { win with transientFor := if parent ≠ 0 then some parent else none }

def noteTransientFor (atoms : AtomNames) (req : ChangePropertyRequest) (s : ClientState) :
    ClientState :=
  if isNamed atoms req Predef.wmTransientFor "WM_TRANSIENT_FOR" ∧ req.format = 32 ∧
      4 ≤ req.data.length then
    updateWindow req.window (setTransientFor (readU32 s.msbFirst req.data 0)) s
  else s

def windowTypeOf : Atom → Option WindowType
  | 80 => some .normal
  | 81 => some .dialog
  | 82 => some .toolbar
  | 83 => some .menu
  | 84 => some .utility
  | 85 => some .splash
  | 86 => some .dock
  | 87 => some .desktop
  | 88 => some .dropdownMenu
  | 89 => some .popupMenu
  | 90 => some .tooltip
  | 91 => some .notification
  | _ => none

def fromAtomIds (ids : List Atom) : WindowType := (ids.findSome? windowTypeOf).getD .normal

def wordsOf (msb : Bool) (data : Bytes) : List Nat :=
  (List.range (data.length / 4)).map (fun i => readU32 msb data (4 * i))

def setWindowType (t : WindowType) (win : WindowState) : WindowState := { win with windowType := t }

def noteWindowType (atoms : AtomNames) (req : ChangePropertyRequest) (s : ClientState) :
    ClientState :=
  if isNamed atoms req Predef.netWmWindowType "_NET_WM_WINDOW_TYPE" ∧ req.format = 32 ∧
      4 ≤ req.data.length then
    let s' := updateWindow req.window
      (setWindowType (fromAtomIds (wordsOf s.msbFirst req.data))) s
    match s'.windows.lookup req.window with
    | none => s'
    | some win => restackByWindowType req.window win.parent s'
  else s

def setStrut (strut : Strut) (win : WindowState) : WindowState := { win with strut := some strut }

def noteStrut (atoms : AtomNames) (req : ChangePropertyRequest) (s : ClientState) : ClientState :=
  if (isNamed atoms req Predef.netWmStrut "_NET_WM_STRUT" ∨
      isNamed atoms req Predef.netWmStrutPartial "_NET_WM_STRUT_PARTIAL") ∧ req.format = 32 ∧
      16 ≤ req.data.length then
    let word := readU32 s.msbFirst req.data
    recalculateWorkarea
      (updateWindow req.window (setStrut ⟨word 0, word 4, word 8, word 12⟩) s)
  else s

def setHints (msb : Bool) (data : Bytes) (win : WindowState) : WindowState :=
  let has := fun bit => (readU32 msb data 0).testBit bit
  { win with
    wmHintsInput := if has 0 ∧ 8 ≤ data.length then some (readU32 msb data 4 != 0)
      else win.wmHintsInput
    wmHintsInitialState := if has 1 ∧ 12 ≤ data.length then some (readU32 msb data 8)
      else win.wmHintsInitialState }

def noteHints (atoms : AtomNames) (req : ChangePropertyRequest) (s : ClientState) : ClientState :=
  if isNamed atoms req Predef.wmHints "WM_HINTS" ∧ req.format = 32 ∧ 4 ≤ req.data.length then
    updateWindow req.window (setHints s.msbFirst req.data) s
  else s

def changePropertyError (atoms : AtomNames) (req : ChangePropertyRequest) (s : ClientState) :
    Option (XError × Nat) :=
  if unknownAtom atoms req.property then some (.atom, req.property)
  else if unknownAtom atoms req.propType then some (.atom, req.propType)
  else if req.format ≠ 8 ∧ req.format ≠ 16 ∧ req.format ≠ 32 then some (.value, req.format)
  else if req.window ∉ s.windows then some (.window, req.window)
  else none

def handleChangeProperty (atoms : AtomNames) (req : ChangePropertyRequest) (s : ClientState) :
    ClientState × Response :=
  match changePropertyError atoms req s with
  | some (code, badValue) => (s, .error code badValue 18)
  | none =>
    (noteHints atoms req (noteStrut atoms req (noteWindowType atoms req
      (noteTransientFor atoms req (storeProperty req s)))), .ok)

def removeProperty (a : Atom) (win : WindowState) : WindowState :=
  { win with properties := win.properties.erase a }

def removeBoth (w : XId) (a : Atom) (s : ClientState) : ClientState :=
  updateSharedWindow w (removeProperty a) (updateWindow w (removeProperty a) s)

/-- The requestor has taken the last chunk: put the next one, or an empty one at
the end, into the local window. -/
def advanceIncrTransfer (w : XId) (a : Atom) (s : ClientState) : ClientState :=
  match s.incrTransfers.findIdx? (fun t => t.requestor == w && t.property == a) with
  | none => s
  | some idx =>
    match s.incrTransfers[idx]? with
    | none => s
    | some t =>
      let remaining := t.data.length - t.offset
      if remaining = 0 then
        { updateWindow w (insertProperty a ⟨t.target, 8, []⟩) s with
          incrTransfers := s.incrTransfers.eraseIdx idx }
      else
        let size := min remaining t.chunkSize
        { updateWindow w (insertProperty a ⟨t.target, 8, (t.data.drop t.offset).take size⟩) s with
          incrTransfers := s.incrTransfers.set idx { t with offset := t.offset + size } }

def windowExists (s : ClientState) (w : XId) : Bool :=
  decide (w ∈ s.windows) || decide (w ∈ s.shared.windows)

def handleDeleteProperty (atoms : AtomNames) (w : XId) (a : Atom) (s : ClientState) :
    ClientState × Response :=
  if windowExists s w = false then (s, .error .window w 19)
  else if unknownAtom atoms a then (s, .error .atom a 19)
  else (advanceIncrTransfer w a (removeBoth w a s), .ok)

def unitsOf (format bytes : Nat) : Nat :=
  if format = 16 then bytes / 2 else if format = 32 then bytes / 4 else bytes

/-- The part of the value that the request asks for; the empty reply where there
is no value. -/
def GetPropertyRequest.replyFor (req : GetPropertyRequest) : Option PropertyValue → GetPropertyReply
  | none => ⟨0, 0, 0, 0, []⟩
  | some value =>
    let available := value.data.length - req.longOffset * 4
    let size := min available (req.longLength * 4)
    let data := (value.data.drop (req.longOffset * 4)).take size
    ⟨value.propType, value.format, (available - size) % 2 ^ 32,
      unitsOf value.format data.length % 2 ^ 32, data⟩

def GetPropertyRequest.deletes (req : GetPropertyRequest) : Option PropertyValue → Bool
  | none => false
  | some value => req.delete && value.data.length - req.longOffset * 4 ≤ req.longLength * 4

def foundProperty (s : ClientState) (w : XId) (a : Atom) : Option PropertyValue :=
  (cachedProperty s w a).orElse (fun _ => sharedProperty s.shared w a)

def handleGetProperty (atoms : AtomNames) (req : GetPropertyRequest) (s : ClientState) :
    ClientState × GetPropertyResponse :=
  if unknownAtom atoms req.property then (s, .error .atom req.property)
  else if windowExists s req.window = false then (s, .error .window req.window)
  else
    let found := foundProperty s req.window req.property
    (if req.deletes found then
      advanceIncrTransfer req.window req.property (removeBoth req.window req.property s)
    else s, .reply (req.replyFor found))

/-- Nothing has left the connection and nothing is marked to leave it. -/
structure LocalOnly (s s' : ClientState) : Prop where
  shared : s'.shared = s.shared
  dirty : s'.sharedDirtyWindows = s.sharedDirtyWindows
  clientId : s'.clientId = s.clientId

theorem LocalOnly.refl (s : ClientState) : LocalOnly s s := ⟨rfl, rfl, rfl⟩

variable (req : ChangePropertyRequest)

theorem noteTransientFor_localOnly (s : ClientState) : LocalOnly s (noteTransientFor atoms req s) := by
  rw [noteTransientFor]
  split
  · exact ⟨rfl, rfl, rfl⟩
  · exact .refl s

theorem noteWindowType_localOnly (s : ClientState) : LocalOnly s (noteWindowType atoms req s) := by
  rw [noteWindowType]
  split
  · dsimp only
    split
    · exact ⟨rfl, rfl, rfl⟩
    · exact ⟨rfl, rfl, rfl⟩
  · exact .refl s

theorem noteStrut_localOnly (s : ClientState) : LocalOnly s (noteStrut atoms req s) := by
  rw [noteStrut]
  split
  · exact ⟨rfl, rfl, rfl⟩
  · exact .refl s

theorem noteHints_localOnly (s : ClientState) : LocalOnly s (noteHints atoms req s) := by
  rw [noteHints]
  split
  · exact ⟨rfl, rfl, rfl⟩
  · exact .refl s

theorem advanceIncrTransfer_localOnly (w : XId) (a : Atom) (s : ClientState) :
    LocalOnly s (advanceIncrTransfer w a s) := by
  rw [advanceIncrTransfer]
  split
  · exact .refl s
  · split
    · exact .refl s
    · dsimp only
      split
      · exact ⟨rfl, rfl, rfl⟩
      · exact ⟨rfl, rfl, rfl⟩

/-- What a property request does to the shared registry: nothing but to the
properties of its window. -/
structure Publishes (w : XId) (f : WindowState → WindowState) (s s' : ClientState) : Prop where
  shared : s'.shared = { s.shared with windows := modify w f s.shared.windows }
  dirty : s'.sharedDirtyWindows = s.sharedDirtyWindows
  clientId : s'.clientId = s.clientId

theorem Publishes.trans {s'' : ClientState} {f : WindowState → WindowState}
    (h : Publishes w f s s') (h' : LocalOnly s' s'') : Publishes w f s s'' :=
  ⟨h'.shared.trans h.shared, h'.dirty.trans h.dirty, h'.clientId.trans h.clientId⟩

theorem storeProperty_publishes (s : ClientState) : Publishes req.window
      (insertProperty req.property (req.combine (cachedProperty s req.window req.property))) s
      (storeProperty req s) := ⟨rfl, rfl, rfl⟩

theorem removeBoth_publishes (w : XId) (a : Atom) (s : ClientState) :
    Publishes w (removeProperty a) s (removeBoth w a s) := ⟨rfl, rfl, rfl⟩

theorem handleChangeProperty_publishes (h : changePropertyError atoms req s = none) :
    Publishes req.window
      (insertProperty req.property (req.combine (cachedProperty s req.window req.property))) s
      (handleChangeProperty atoms req s).1 := by
  simp only [handleChangeProperty, h]
  exact ((((storeProperty_publishes req s).trans (noteTransientFor_localOnly req _)).trans
    (noteWindowType_localOnly req _)).trans (noteStrut_localOnly req _)).trans
    (noteHints_localOnly req _)

theorem handleChangeProperty_failed
    (h : changePropertyError atoms req s ≠ none) : (handleChangeProperty atoms req s).1 = s := by
  obtain ⟨⟨code, badValue⟩, herr⟩ := Option.ne_none_iff_exists'.mp h
  simp only [handleChangeProperty, herr]

theorem changePropertyError_known (h : changePropertyError atoms req s = none) :
    unknownAtom atoms req.property = false ∧ req.window ∈ s.windows := by
  simp only [changePropertyError] at h
  repeat' split at h
  all_goals simp_all

end X11Web.Properties
