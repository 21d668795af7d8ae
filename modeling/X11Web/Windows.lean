import X11Web.HashMaps
import X11Web.LinkedForest

namespace X11Web.Windows

open HashMaps LinkedForest List Function

abbrev XId := Nat
abbrev Atom := Nat
abbrev ClientId := Nat
abbrev Uuid := Nat
abbrev Bytes := List UInt8

structure PropertyValue where
  propType : Atom
  format : Nat
  data : Bytes
deriving DecidableEq

inductive WindowType
  | desktop | dock | toolbar | menu | utility | splash | dialog
  | dropdownMenu | popupMenu | tooltip | notification | normal
deriving DecidableEq

def WindowType.stackingLayer : WindowType → Nat
  | .desktop => 0
  | .normal | .dialog | .splash | .utility | .toolbar => 2
  | .dock => 3
  | .menu | .dropdownMenu | .popupMenu | .tooltip | .notification => 4

structure Strut where
  left : Nat
  right : Nat
  top : Nat
  bottom : Nat
deriving DecidableEq

/-- The window record, without the pixels and the attributes that only drawing
reads. The owner is `none` where the code stores the empty string. -/
structure WindowState where
  id : XId
  parent : XId
  x : Int
  y : Int
  width : Nat
  height : Nat
  borderWidth : Nat
  visual : Nat
  depth : Nat
  winClass : Nat
  mapped : Bool
  eventMask : Nat
  overrideRedirect : Bool
  redirected : Bool
  properties : HashMap Atom PropertyValue
  ownerClientId : Option ClientId
  childrenOrder : List XId
  retainedTemporary : Bool
  wmHintsInitialState : Option Nat
  transientFor : Option XId
  windowType : WindowType
  strut : Option Strut
  wmHintsInput : Option Bool
deriving DecidableEq

def rootWindow : XId := 0x62
def wmCheckWindow : XId := 0x64
def xsettingsWindow : XId := 0x12
def systemTrayWindow : XId := 0x16
def ximWindow : XId := 0x13
def clipboardManagerWindow : XId := 0x14

def rootVisual : Nat := 0x21
def inputOutput : Nat := 1
def inputOnly : Nat := 2
def maxWindows : Nat := 4096
def resourceIdMask : Nat := 2 ^ 22 - 1
def resizeRedirect : Nat := 2 ^ 18
def substructureRedirect : Nat := 2 ^ 20

namespace Predef

def atom : Atom := 4
def cardinal : Atom := 6
def string : Atom := 31
def window : Atom := 33
def wmHints : Atom := 35
def wmClientMachine : Atom := 36
def wmNormalHints : Atom := 40
def wmTransientFor : Atom := 68
def wmState : Atom := 72
def netWmWindowType : Atom := 79
def netWmState : Atom := 92
def netWmStateAbove : Atom := 102
def netWmStateBelow : Atom := 103
def netWmAllowedActions : Atom := 106
def netActiveWindow : Atom := 117
def netClientList : Atom := 118
def netClientListStacking : Atom := 119
def netWorkarea : Atom := 123
def netFrameExtents : Atom := 126
def netWmPid : Atom := 127
def netWmStrut : Atom := 129
def netWmStrutPartial : Atom := 130
def clipboard : Atom := 134

end Predef

def depthForVisual (visual : Nat) : Nat :=
  if visual = 0x40 then 32
  else if visual = 0x21 ∨ visual = 0x22 then 24
  else if visual = 0x24 then 16
  else if visual = 0x23 ∨ visual = 0x26 ∨ visual = 0x27 then 8
  else if visual = 0x25 then 4
  else if visual = 0 then 0
  else 24

def toLeBytes32 (n : Nat) : Bytes :=
  [UInt8.ofNat n, UInt8.ofNat (n / 2 ^ 8), UInt8.ofNat (n / 2 ^ 16), UInt8.ofNat (n / 2 ^ 24)]

def alignTo4 (n : Nat) : Nat := (n + 3) / 4 * 4

def readU16 (msb : Bool) (b : Bytes) (i : Nat) : Nat :=
  let x := (b.getD i 0).toNat
  let y := (b.getD (i + 1) 0).toNat
  if msb then x * 256 + y else y * 256 + x

def readU32 (msb : Bool) (b : Bytes) (i : Nat) : Nat :=
  if msb then readU16 true b i * 65536 + readU16 true b (i + 2)
  else readU16 false b (i + 2) * 65536 + readU16 false b i

/-- The little-endian words of a property, an incomplete last one dropped. -/
def leWords : Bytes → List Nat
  | a :: b :: c :: d :: rest =>
    (a.toNat + b.toNat * 2 ^ 8 + c.toNat * 2 ^ 16 + d.toNat * 2 ^ 24) :: leWords rest
  | _ => []

def asU16 (n : Int) : Nat := (n % 2 ^ 16).toNat
def asI16 (n : Int) : Int := Int.bmod n (2 ^ 16)
def saturatingAddI16 (a b : Int) : Int := max (-2 ^ 15) (min (2 ^ 15 - 1) (a + b))

structure EventSubscription where
  clientId : ClientId
  eventMask : Nat
deriving DecidableEq

structure WindowRoute where
  owner : ClientId
  x11WindowId : XId
deriving DecidableEq

structure WindowEntry where
  uuid : Uuid
  clientId : ClientId
deriving DecidableEq

inductive DisplayUpdate
  | windowCreated (windowId : Uuid)
  | windowDestroyed (windowId : Uuid)
deriving DecidableEq

/-- The channel of a selection: the owner's connection, or a dummy of the
server's whose receiver is dropped. -/
inductive SelectionTx
  | connection (client : ClientId)
  | dummy
deriving DecidableEq

structure SelectionOwner where
  window : XId
  tx : SelectionTx
  timestamp : Nat
deriving DecidableEq

structure RecordEntry where
  recordingClient : ClientId
  contextId : XId
deriving DecidableEq

/-- The registries that all connections share. A channel is named by the client
at its receiving end; fresh UUIDs come from a counter. -/
structure Shared where
  windows : HashMap XId WindowState
  focus : XId
  wmClientId : Option ClientId
  subscriptions : HashMap XId (List EventSubscription)
  allClients : List ClientId
  eventRoutes : HashMap XId ClientId
  windowRoutes : HashMap Uuid WindowRoute
  windowIndex : HashMap XId WindowEntry
  selections : HashMap Atom SelectionOwner
  clipboardPersistent : Bool
  serverGrab : Option ClientId
  recordContexts : HashMap XId RecordEntry
  updates : List (ClientId × DisplayUpdate)
  nextUuid : Uuid

/-- A selection transfer that the server hands out chunk by chunk. -/
structure IncrTransfer where
  requestor : XId
  property : Atom
  target : Atom
  data : Bytes
  offset : Nat
  chunkSize : Nat
deriving DecidableEq

structure Connection where
  clientId : ClientId
  msbFirst : Bool
  peerPid : Nat
  resourceIdBase : Nat
  hostname : Bytes
  screenWidth : Nat
  screenHeight : Nat
  windows : HashMap XId WindowState
  sharedDirtyWindows : List XId
  focusWindow : XId
  focusRevertTo : Nat
  x11ToUuid : HashMap XId Uuid
  bitGravity : HashMap XId Nat
  winGravity : HashMap XId Nat
  cursors : Finset XId
  freedXids : List XId
  saveSet : List XId
  closeDownMode : Nat
  serverGrabCount : Nat
  incrTransfers : List IncrTransfer

structure ClientState extends Connection where
  shared : Shared

inductive XError
  | value | window | atom | cursor | access | match_ | alloc | idChoice | length
deriving DecidableEq

inductive Response
  | ok
  | error (code : XError) (badValue : Nat) (majorOpcode : Nat)
deriving DecidableEq

def updateWindow (w : XId) (f : WindowState → WindowState) (s : ClientState) : ClientState :=
  { s with windows := modify w f s.windows }

def updateSharedWindow (w : XId) (f : WindowState → WindowState) (s : ClientState) : ClientState :=
  { s with shared := { s.shared with windows := modify w f s.shared.windows } }

def insertProperty (a : Atom) (v : PropertyValue) (w : WindowState) : WindowState :=
  { w with properties := w.properties.insert a v }

def pushChild (w : XId) (p : WindowState) : WindowState :=
  { p with childrenOrder := p.childrenOrder ++ [w] }

def unlistChild (w : XId) (p : WindowState) : WindowState :=
  { p with childrenOrder := p.childrenOrder.filter (fun c => decide (c ≠ w)) }

def placeUnder (p : XId) (x y : Int) (win : WindowState) : WindowState :=
  { win with parent := p, x := x, y := y }

def markWindowSharedDirty (w : XId) (s : ClientState) : ClientState :=
  { s with sharedDirtyWindows := s.sharedDirtyWindows.insert w }

def validateResourceId (s : ClientState) (id : XId) : Bool :=
  id - id % (resourceIdMask + 1) == s.resourceIdBase

def canCreateWindow (s : ClientState) : Bool := s.windows.keys.card < maxWindows

def windowSelects (s : ClientState) (w : XId) (mask : Nat) : Bool :=
  (s.windows.lookup w).any (fun win => win.eventMask &&& mask != 0)

def recycleXid (id : XId) (s : ClientState) : ClientState :=
  if validateResourceId s id then { s with freedXids := s.freedXids ++ [id] } else s

/-- Another client than `client` selected one of the bits on the window. -/
def hasMaskSubscriber (sh : Shared) (w : XId) (mask : Nat) (client : ClientId) : Bool :=
  ((sh.subscriptions.lookup w).getD []).any
    (fun sub => sub.clientId != client && sub.eventMask &&& mask != 0)

def checkRedirectConflict (sh : Shared) (w : XId) (newMask : Nat) (client : ClientId) : Bool :=
  let requested := newMask &&& (substructureRedirect ||| resizeRedirect)
  requested != 0 && hasMaskSubscriber sh w requested client

def subscribe (w : XId) (client : ClientId) (mask : Nat) (sh : Shared) : Shared :=
  let list := (sh.subscriptions.lookup w).getD []
  let list' :=
    if list.any (fun sub => sub.clientId == client) then
      list.map (fun sub => if sub.clientId = client then { sub with eventMask := mask } else sub)
    else if mask ≠ 0 then list ++ [⟨client, mask⟩]
    else list
  { sh with subscriptions := sh.subscriptions.insert w list' }

def sendUpdate (u : DisplayUpdate) (s : ClientState) : ClientState :=
  { s with shared := { s.shared with updates := s.shared.updates ++ [(s.clientId, u)] } }

def getOrCreateWindowUuid (w : XId) (s : ClientState) : ClientState × Uuid :=
  match s.x11ToUuid.lookup w with
  | some uuid => (s, uuid)
  | none =>
    let uuid := s.shared.nextUuid
    ({ s with
        x11ToUuid := s.x11ToUuid.insert w uuid
        shared := { s.shared with
          nextUuid := uuid + 1
          windowRoutes := s.shared.windowRoutes.insert uuid ⟨s.clientId, w⟩
          eventRoutes := s.shared.eventRoutes.insert w s.clientId
          windowIndex := s.shared.windowIndex.insert w ⟨uuid, s.clientId⟩ } }, uuid)

def uuidKnown (s : ClientState) (w : XId) : Bool :=
  (s.x11ToUuid.lookup w).isSome || s.shared.windowRoutes.any (fun _ r => r.x11WindowId == w)

/-- The record of a window that the server itself puts under the root. -/
def serverWindow (id : XId) (props : HashMap Atom PropertyValue) : WindowState where
  id := id
  parent := rootWindow
  x := -1
  y := -1
  width := 1
  height := 1
  borderWidth := 0
  visual := rootVisual
  depth := 0
  winClass := inputOnly
  mapped := false
  eventMask := 0
  overrideRedirect := true
  redirected := false
  properties := props
  ownerClientId := none
  childrenOrder := []
  retainedTemporary := false
  wmHintsInitialState := none
  transientFor := none
  windowType := .normal
  strut := none
  wmHintsInput := none

def rootRecord (props : HashMap Atom PropertyValue) : WindowState :=
  { serverWindow rootWindow props with
    parent := 0
    x := 0
    y := 0
    width := 1024
    height := 768
    depth := 24
    winClass := inputOutput
    mapped := true
    overrideRedirect := false
    childrenOrder := [wmCheckWindow, xsettingsWindow, systemTrayWindow, ximWindow] }

/-- The registry before the first client; `props` gives the properties that the
server stores on its own windows. -/
def initialWindows (props : XId → HashMap Atom PropertyValue) : HashMap XId WindowState :=
  let child := fun id (m : HashMap XId WindowState) => m.insert id (serverWindow id (props id))
  child ximWindow (child systemTrayWindow (child xsettingsWindow (child wmCheckWindow
    (Finmap.singleton rootWindow (rootRecord (props rootWindow))))))

def initialShared (props : XId → HashMap Atom PropertyValue)
    (selections : HashMap Atom SelectionOwner) : Shared where
  windows := initialWindows props
  focus := rootWindow
  wmClientId := none
  subscriptions := ∅
  allClients := []
  eventRoutes := ∅
  windowRoutes := ∅
  windowIndex := ∅
  selections := selections
  clipboardPersistent := false
  serverGrab := none
  recordContexts := ∅
  updates := []
  nextUuid := 0

/-- A connection as it enters its request loop: it starts from a copy of the
shared windows. -/
def acceptClient (me : ClientId) (msb : Bool) (pid connIndex : Nat) (hostname : Bytes)
    (sh : Shared) : ClientState where
  clientId := me
  msbFirst := msb
  peerPid := pid
  resourceIdBase := (connIndex + 1) * 2 ^ 22 % 2 ^ 32
  hostname := hostname
  screenWidth := 1024
  screenHeight := 768
  windows := sh.windows
  sharedDirtyWindows := []
  focusWindow := sh.focus
  focusRevertTo := 1
  x11ToUuid := ∅
  bitGravity := ∅
  winGravity := ∅
  cursors := ∅
  freedXids := []
  saveSet := []
  closeDownMode := 0
  serverGrabCount := 0
  incrTransfers := []
  shared := { sh with allClients := sh.allClients ++ [me] }

/-- The two-way links of a window map, as the forest library sees them. -/
def links (m : HashMap XId WindowState) : Links XId := fun w =>
  (m.lookup w).map (fun win => ⟨win.parent, win.childrenOrder⟩)

theorem readU16_lt (msb : Bool) (b : Bytes) (i : Nat) : readU16 msb b i < 65536 := by
  have hx := UInt8.toNat_lt (b.getD i 0)
  have hy := UInt8.toNat_lt (b.getD (i + 1) 0)
  rw [readU16]
  split
  · omega
  · omega

theorem readU32_lt (msb : Bool) (b : Bytes) (i : Nat) : readU32 msb b i < 4294967296 := by
  rw [readU32]
  split
  · have hx := readU16_lt true b i
    have hy := readU16_lt true b (i + 2)
    omega
  · have hx := readU16_lt false b i
    have hy := readU16_lt false b (i + 2)
    omega

theorem leWords_lt (b : Bytes) : ∀ a ∈ leWords b, a < 4294967296 := by
  fun_induction leWords b with
  | case1 x y z t rest ih =>
    intro a ha
    have hx := UInt8.toNat_lt x
    have hy := UInt8.toNat_lt y
    have hz := UInt8.toNat_lt z
    have ht := UInt8.toNat_lt t
    rcases mem_cons.mp ha with rfl | ha
    · omega
    · exact ih a ha
  | case2 => simp

theorem leWords_flatMap {words : List Nat} (h : ∀ a ∈ words, a < 4294967296) :
    leWords (words.flatMap toLeBytes32) = words := by
  induction words with
  | nil => rfl
  | cons a words ih =>
    have ha := h a mem_cons_self
    rw [flatMap_cons, toLeBytes32]
    simp only [cons_append, nil_append, leWords, UInt8.toNat_ofNat', Nat.reducePow]
    rw [ih (fun b hb => h b (mem_cons_of_mem a hb))]
    congr 1
    omega

variable (m : HashMap XId WindowState) (w : XId)

theorem links_insert (win : WindowState) :
    links (m.insert w win) = update (links m) w (some ⟨win.parent, win.childrenOrder⟩) := by
  funext v
  rw [links, lookup_insert_eq, update_apply]
  split <;> rfl

theorem links_erase : links (m.erase w) = update (links m) w none := by
  funext v
  rw [links, lookup_erase_eq, update_apply]
  split <;> rfl

theorem links_eraseAll (ks : List XId) (m : HashMap XId WindowState) :
    links (eraseAll ks m) = fun v => if v ∈ ks then none else links m v := by
  funext v
  rw [links, lookup_eraseAll]
  split <;> rfl

theorem links_modify (f : WindowState → WindowState) (g : Node XId → Node XId)
    (h : ∀ win, (⟨(f win).parent, (f win).childrenOrder⟩ : Node XId) =
      g ⟨win.parent, win.childrenOrder⟩) :
    links (modify w f m) = edit w g (links m) := by
  funext v
  rw [links, lookup_modify, edit_apply]
  split
  · cases hw : m.lookup w <;> simp [links, hw, h]
  · rfl

theorem links_pushChild (p w : XId) : links (modify p (pushChild w) m) = edit p (addChild w) (links m) :=
  links_modify m p (pushChild w) (addChild w) (fun _ => rfl)

theorem links_unlistChild (p w : XId) : links (modify p (unlistChild w) m) = edit p (dropChild w) (links m) :=
  links_modify m p (unlistChild w) (dropChild w) (fun _ => rfl)

theorem links_placeUnder (w p : XId) (x y : Int) :
    links (modify w (placeUnder p x y) m) = edit w (setParent p) (links m) :=
  links_modify m w (placeUnder p x y) (setParent p) (fun _ => rfl)

theorem owner_modify (k v : XId) (f : WindowState → WindowState)
    (h : ∀ win, (f win).ownerClientId = win.ownerClientId) :
    ((modify k f m).lookup v).map (·.ownerClientId) = (m.lookup v).map (·.ownerClientId) :=
  lookup_modify_map (·.ownerClientId) k v f m h

theorem links_isSome : (links m w).isSome ↔ w ∈ m := by
  rw [links, Option.isSome_map, Finmap.lookup_isSome]

theorem links_eq_none : links m w = none ↔ w ∉ m := by
  rw [← links_isSome, Option.not_isSome_iff_eq_none]

theorem parentOf_links : parentOf (links m) w = (m.lookup w).map (·.parent) := by
  simp [parentOf, links, comp_def]

theorem childrenIn_links : childrenIn (links m) w = (m.lookup w).elim [] (·.childrenOrder) := by
  cases h : m.lookup w <;> simp [childrenIn, links, h]

end X11Web.Windows
