import X11Web.Pixels
import X11Web.Runs

namespace X11Web.WindowGeometry

open HashMaps Runs Windows Pixels List Option Finmap

structure Geometry where
  x : Int
  y : Int
  width : Nat
  height : Nat
deriving DecidableEq

structure DrawnWindow extends WindowState where
  borderPixel : Nat
  modal : Bool
  savedGeometry : Option Geometry
  framebuffer : Framebuffer

def DrawnWindow.geometry (win : DrawnWindow) : Geometry := ⟨win.x, win.y, win.width, win.height⟩

inductive WindowWmState
  | normal
  | minimized
  | maximized
  | fullscreen
deriving DecidableEq

inductive GeometryUpdate
  | windowConfigured (windowId : Uuid) (g : Geometry) (borderWidth borderPixel : Nat)
  | windowStateChanged (windowId : Uuid) (state : WindowWmState)
deriving DecidableEq

/-- What a connection has of its windows' geometry, with the updates sent to the
frontend. -/
structure GeometryState where
  msbFirst : Bool
  screenWidth : Nat
  screenHeight : Nat
  windows : HashMap XId DrawnWindow
  x11ToUuid : HashMap XId Uuid
  updates : List GeometryUpdate

structure HintAtoms where
  netWmState : Atom
  fullscreen : Atom
  maximizedVert : Atom
  maximizedHorz : Atom
  hidden : Atom
  modal : Atom
  above : Atom

def editWindow (w : XId) (f : DrawnWindow → DrawnWindow) (s : GeometryState) : GeometryState :=
  { s with windows := modify w f s.windows }

def setProperty (a : Atom) (v : PropertyValue) (win : DrawnWindow) : DrawnWindow :=
  { win with properties := win.properties.insert a v }

/-- Send WindowConfigured, if the window has an identifier for the frontend. -/
def reportGeometry (w : XId) (g : Geometry) (s : GeometryState) : GeometryState :=
  match s.x11ToUuid.lookup w with
  | none => s
  | some uuid =>
    let win := s.windows.lookup w
    { s with updates := s.updates ++
        [.windowConfigured uuid g (win.elim 0 (·.borderWidth)) (win.elim 0 (·.borderPixel))] }

def reportWmState (w : XId) (state : WindowWmState) (s : GeometryState) : GeometryState :=
  match s.x11ToUuid.lookup w with
  | none => s
  | some uuid => { s with updates := s.updates ++ [.windowStateChanged uuid state] }

def changeAtoms (action : Nat) (changes current : List Atom) : List Atom :=
  changes.foldl (fun current a =>
    match action with
    | 0 => current.filter (fun b => b != a)
    | 1 => if current.contains a then current else current ++ [a]
    | 2 => if current.contains a then current.filter (fun b => b != a) else current ++ [a]
    | _ => current) current

def stateProperty (atoms : List Atom) : PropertyValue :=
  ⟨Predef.atom, 32, atoms.flatMap toLeBytes32⟩

def moveTo (g : Geometry) (win : DrawnWindow) : DrawnWindow :=
  { win with
    x := g.x
    y := g.y
    width := g.width
    height := g.height
    framebuffer := win.framebuffer.resizeWithGravity g.width g.height 0 }

def screenGeometry (s : GeometryState) : Geometry := ⟨0, 0, s.screenWidth, s.screenHeight⟩

def fillScreen (w : XId) (s : GeometryState) : GeometryState :=
  reportGeometry w (screenGeometry s) (editWindow w (fun win =>
    moveTo (screenGeometry s) { win with savedGeometry := some win.geometry }) s)

def restoreGeometry (w : XId) (s : GeometryState) : GeometryState :=
  match (s.windows.lookup w).bind (·.savedGeometry) with
  | none => s
  | some g =>
    reportGeometry w g (editWindow w (fun win => moveTo g { win with savedGeometry := none }) s)

def raiseWindow (w : XId) (root : DrawnWindow) : DrawnWindow :=
  if root.childrenOrder.contains w then
    { root with childrenOrder := root.childrenOrder.filter (fun c => c != w) ++ [w] }
  else root

def noteModal (atoms : HintAtoms) (w : XId) (current : List Atom) (s : GeometryState) : GeometryState :=
  match s.x11ToUuid.lookup w with
  | none => s
  | some _ =>
    let s := editWindow w (fun win => { win with modal := current.contains atoms.modal }) s
    if current.contains atoms.modal || current.contains atoms.above then
      editWindow rootWindow (raiseWindow w) s
    else s

def wmStateOf (atoms : HintAtoms) (current : List Atom) : WindowWmState :=
  if current.contains atoms.fullscreen then .fullscreen
  else if current.contains atoms.maximizedVert || current.contains atoms.maximizedHorz then .maximized
  else if current.contains atoms.hidden then .minimized
  else .normal

def messageWindow (s : GeometryState) (event : Bytes) : XId := readU32 s.msbFirst event 4

/-- The atoms of `_NET_WM_STATE` after the message. -/
def newAtoms (atoms : HintAtoms) (event : Bytes) (s : GeometryState) : List Atom :=
  let prop1 := readU32 s.msbFirst event 16
  let prop2 := readU32 s.msbFirst event 20
  let current := (((s.windows.lookup (messageWindow s event)).bind
    (fun win => win.properties.lookup atoms.netWmState)).map (fun pv => leWords pv.data)).getD []
  changeAtoms (readU32 s.msbFirst event 12) (if prop2 ≠ 0 then [prop1, prop2] else [prop1]) current

def needsResize (atoms : HintAtoms) (current : List Atom) : Bool :=
  current.contains atoms.fullscreen ||
    (current.contains atoms.maximizedVert || current.contains atoms.maximizedHorz)

def hadSaved (w : XId) (s : GeometryState) : Bool :=
  (s.windows.lookup w).any (fun win => win.savedGeometry.isSome)

/-- Fill the screen on becoming fullscreen or maximized, and go back on ceasing to
be either. -/
def resizeForState (atoms : HintAtoms) (w : XId) (current : List Atom) (s : GeometryState) :
    GeometryState :=
  if needsResize atoms current && !hadSaved w s then fillScreen w s
  else if !needsResize atoms current && hadSaved w s then restoreGeometry w s
  else s

/-- A client message `_NET_WM_STATE` to the root window. -/
def handleNetWmState (atoms : HintAtoms) (event : Bytes) (s : GeometryState) : GeometryState :=
  let w := messageWindow s event
  let current := newAtoms atoms event s
  noteModal atoms w current (reportWmState w (wmStateOf atoms current)
    (resizeForState atoms w current
      (editWindow w (setProperty atoms.netWmState (stateProperty current)) s)))

/-- The geometry that `_NET_MOVERESIZE_WINDOW` names, cut to 16 bits. -/
def messageGeometry (s : GeometryState) (event : Bytes) : Geometry where
  x := asI16 (readU32 s.msbFirst event 16)
  y := asI16 (readU32 s.msbFirst event 20)
  width := asU16 (readU32 s.msbFirst event 24)
  height := asU16 (readU32 s.msbFirst event 28)

/-- Take the fields that the flags name. The pixels keep their size. -/
def setFields (flags : Nat) (g : Geometry) (win : DrawnWindow) : DrawnWindow :=
  { win with
    x := if flags.testBit 8 then g.x else win.x
    y := if flags.testBit 9 then g.y else win.y
    width := if flags.testBit 10 then g.width else win.width
    height := if flags.testBit 11 then g.height else win.height }

/-- A client message `_NET_MOVERESIZE_WINDOW` to the root window. -/
def handleNetMoveresizeWindow (event : Bytes) (s : GeometryState) : GeometryState :=
  let w := messageWindow s event
  let g := messageGeometry s event
  reportGeometry w g (editWindow w (setFields (readU32 s.msbFirst event 12) g) s)

def dropAtom (a : Atom) (pv : PropertyValue) : PropertyValue :=
  { pv with data := ((leWords pv.data).filter (fun b => b != a)).flatMap toLeBytes32 }

def unhide (atoms : HintAtoms) (win : DrawnWindow) : DrawnWindow :=
  { win with properties := modify atoms.netWmState (dropAtom atoms.hidden) win.properties }

/-- A client message `WM_CHANGE_STATE` to the root window. -/
def handleWmChangeState (atoms : HintAtoms) (event : Bytes) (s : GeometryState) : GeometryState :=
  let w := messageWindow s event
  match readU32 s.msbFirst event 12 with
  | 3 => reportWmState w .minimized
      (editWindow w (setProperty atoms.netWmState (stateProperty [atoms.hidden])) s)
  | 1 => reportWmState w .normal (editWindow w (unhide atoms) s)
  | _ => s

def setSize (width height : Nat) (win : DrawnWindow) : DrawnWindow :=
  { win with width := width, height := height, framebuffer := Framebuffer.new width height }

/-- A resize from the frontend, for the window found under the identifier. -/
def resizeWindow (w : XId) (uuid : Uuid) (width height : Nat) (s : GeometryState) : GeometryState :=
  let s := editWindow w (setSize width height) s
  match s.windows.lookup w with
  | none => s
  | some win =>
    { s with updates := s.updates ++
        [.windowConfigured uuid win.geometry win.borderWidth win.borderPixel] }

inductive GeometryAction
  | netWmState (event : Bytes)
  | netMoveresizeWindow (event : Bytes)
  | wmChangeState (event : Bytes)
  | resize (w : XId) (width height : UInt16)

def geometryStep (atoms : HintAtoms) (s : GeometryState) : GeometryAction → GeometryState
  | .netWmState event => handleNetWmState atoms event s
  | .netMoveresizeWindow event => handleNetMoveresizeWindow event s
  | .wmChangeState event => handleWmChangeState atoms event s
  | .resize w width height =>
    match s.x11ToUuid.lookup w with
    | none => s
    | some uuid => resizeWindow w uuid width.toNat height.toNat s

def configuredGeometry (uuid : Uuid) : GeometryUpdate → Option Geometry
  | .windowConfigured windowId g _ _ => if windowId = uuid then some g else none
  | .windowStateChanged _ _ => none

def reported (uuid : Uuid) (s : GeometryState) : Option Geometry :=
  (s.updates.filterMap (configuredGeometry uuid)).getLast?

/-- Server, framebuffer and frontend agree on the window. -/
structure Agrees (w : XId) (uuid : Uuid) (s : GeometryState) : Prop where
  there : w ∈ s.windows
  framebuffer : ∀ win, s.windows.lookup w = some win →
    win.framebuffer.width = win.width ∧ win.framebuffer.height = win.height
  positive : ∀ win, s.windows.lookup w = some win → 0 < win.width ∧ 0 < win.height
  reported : ∀ win, s.windows.lookup w = some win → ∀ g, reported uuid s = some g → g = win.geometry

def Identifies (uuid : Uuid) (w : XId) (s : GeometryState) : Prop :=
  ∀ v, s.x11ToUuid.lookup v = some uuid ↔ v = w

structure Standing where
  geometry : Geometry
  pixels : Nat × Nat
  saved : Option Geometry
deriving DecidableEq

def DrawnWindow.standing (win : DrawnWindow) : Standing :=
  ⟨win.geometry, (win.framebuffer.width, win.framebuffer.height), win.savedGeometry⟩

def standing (w : XId) (s : GeometryState) : Option Standing :=
  (s.windows.lookup w).map DrawnWindow.standing

def Standing.Sound (st : Standing) (sent : Option Geometry) : Prop :=
  st.pixels = (st.geometry.width, st.geometry.height) ∧
    (0 < st.geometry.width ∧ 0 < st.geometry.height) ∧ ∀ g, sent = some g → g = st.geometry

variable {atoms : HintAtoms} {s s' : GeometryState} {w v : XId} {uuid : Uuid} {st : Standing}

theorem agrees_iff :
    Agrees w uuid s ↔ ∃ st, standing w s = some st ∧ st.Sound (reported uuid s) := by
  constructor
  · rintro ⟨hthere, hpx, hpositive, hrepd⟩
    obtain ⟨win, hwin⟩ := mem_iff.mp hthere
    refine ⟨win.standing, by simp [standing, hwin], ?_, hpositive win hwin, hrepd win hwin⟩
    obtain ⟨hwd, hht⟩ := hpx win hwin
    simp [DrawnWindow.standing, DrawnWindow.geometry, hwd, hht]
  · rintro ⟨st, hst, hpx, hpositive, hrepd⟩
    obtain ⟨win, hwin, rfl⟩ := map_eq_some_iff.mp hst
    have hsame : ∀ win', s.windows.lookup w = some win' → win' = win := by
      intro win' hwin'
      exact some.inj (hwin'.symm.trans hwin)
    refine ⟨mem_iff.mpr ⟨win, hwin⟩, fun win' h => ?_, fun win' h => ?_, fun win' h => ?_⟩
    · rw [hsame win' h]
      exact Prod.mk.inj hpx
    · rw [hsame win' h]
      exact hpositive
    · rw [hsame win' h]
      exact hrepd

theorem standing_editWindow (f : DrawnWindow → DrawnWindow) (s : GeometryState) :
    standing w (editWindow v f s) =
      if w = v then (s.windows.lookup v).map (fun win => (f win).standing) else standing w s := by
  rw [standing, editWindow, lookup_modify]
  by_cases h : w = v
  · simp [h, Function.comp_def]
  · simp [h, standing]

theorem standing_editWindow_same {f : DrawnWindow → DrawnWindow} (hf : ∀ win, (f win).standing = win.standing)
    (s : GeometryState) : standing w (editWindow v f s) = standing w s := by
  rw [standing_editWindow]
  split
  · next h =>
    subst v
    exact congrArg (fun f => Option.map f (s.windows.lookup w)) (funext hf)
  · rfl

theorem reportGeometry_tables (v : XId) (g : Geometry) (s : GeometryState) :
    (reportGeometry v g s).windows = s.windows ∧ (reportGeometry v g s).x11ToUuid = s.x11ToUuid ∧
      (reportGeometry v g s).screenWidth = s.screenWidth ∧
      (reportGeometry v g s).screenHeight = s.screenHeight := by
  rw [reportGeometry]
  cases s.x11ToUuid.lookup v <;> exact ⟨rfl, rfl, rfl, rfl⟩

theorem reported_reportGeometry (hown : Identifies uuid w s) (g : Geometry) :
    reported uuid (reportGeometry v g s) = if v = w then some g else reported uuid s := by
  rw [reportGeometry]
  cases hv : s.x11ToUuid.lookup v with
  | none =>
    have hne : v ≠ w := by
      rintro rfl
      rw [(hown v).mpr rfl] at hv
      cases hv
    simp [hne]
  | some uuid' =>
    by_cases hvw : v = w
    · rw [(hown v).mpr hvw] at hv
      cases hv
      simp [reported, configuredGeometry, filterMap_append, hvw]
    · have hne : uuid' ≠ uuid := by
        rintro rfl
        exact hvw ((hown v).mp hv)
      simp [reported, configuredGeometry, filterMap_append, hvw, hne]

theorem reported_reportWmState (uuid : Uuid) (v : XId) (state : WindowWmState) (s : GeometryState) :
    reported uuid (reportWmState v state s) = reported uuid s := by
  rw [reportWmState]
  cases s.x11ToUuid.lookup v with
  | none => rfl
  | some uuid' => simp [reported, configuredGeometry, filterMap_append]

theorem reportWmState_windows (v : XId) (state : WindowWmState) (s : GeometryState) :
    (reportWmState v state s).windows = s.windows := by
  rw [reportWmState]
  cases s.x11ToUuid.lookup v <;> rfl

theorem standing_noteModal (v : XId) (current : List Atom) (s : GeometryState) :
    standing w (noteModal atoms v current s) = standing w s := by
  rw [noteModal]
  cases s.x11ToUuid.lookup v with
  | none => rfl
  | some _ =>
    have hmodal : standing w (editWindow v (fun win =>
        { win with modal := current.contains atoms.modal }) s) = standing w s := by
      apply standing_editWindow_same
      intro win
      rfl
    dsimp only
    split
    · refine (standing_editWindow_same (fun win => ?_) _).trans hmodal
      rw [raiseWindow]
      split <;> rfl
    · exact hmodal

theorem reported_noteModal (v : XId) (current : List Atom) (s : GeometryState) :
    reported uuid (noteModal atoms v current s) = reported uuid s := by
  rw [noteModal]
  cases s.x11ToUuid.lookup v with
  | none => rfl
  | some _ =>
    dsimp only
    split <;> rfl

theorem markDirty_size (fb : Framebuffer) (x y : Int) (w h : Nat) :
    (fb.markDirty x y w h).width = fb.width ∧ (fb.markDirty x y w h).height = fb.height := by
  simp only [Framebuffer.markDirty]
  split <;> exact ⟨rfl, rfl⟩

theorem resizeWithGravity_size (fb : Framebuffer) {width height : Nat} (hw : 0 < width) (hh : 0 < height)
    (gravity : UInt8) : (fb.resizeWithGravity width height gravity).width = width ∧
      (fb.resizeWithGravity width height gravity).height = height := by
  have hzero : ¬ (width = 0 ∨ height = 0) := by omega
  simp only [Framebuffer.resizeWithGravity, if_neg hzero]
  split
  · next hsame => exact ⟨hsame.1.symm, hsame.2.symm⟩
  · split <;> exact markDirty_size _ _ _ _ _

variable {g : Geometry}

theorem standing_moveTo (hg : 0 < g.width ∧ 0 < g.height) (win : DrawnWindow) :
    (moveTo g win).standing = ⟨g, (g.width, g.height), win.savedGeometry⟩ := by
  obtain ⟨hwd, hht⟩ := resizeWithGravity_size win.framebuffer hg.1 hg.2 0
  simp [DrawnWindow.standing, DrawnWindow.geometry, moveTo, hwd, hht]

/-- What the messages of a run rely on, besides the agreement. -/
structure Prepared (w : XId) (uuid : Uuid) (s : GeometryState) : Prop where
  identifies : Identifies uuid w s
  screen : 0 < s.screenWidth ∧ 0 < s.screenHeight
  saved : ∀ win, s.windows.lookup w = some win → ∀ g, win.savedGeometry = some g →
    0 < g.width ∧ 0 < g.height

theorem Identifies.editWindow (h : Identifies uuid w s) (v : XId) (f : DrawnWindow → DrawnWindow) :
    Identifies uuid w (editWindow v f s) := h

theorem fillScreen_sound (h : Prepared w uuid s) (hst : standing w s = some st) :
    standing w (fillScreen w s) =
        some ⟨screenGeometry s, (s.screenWidth, s.screenHeight), some st.geometry⟩ ∧
      reported uuid (fillScreen w s) = some (screenGeometry s) := by
  obtain ⟨win, hwin, rfl⟩ := map_eq_some_iff.mp hst
  constructor
  · rw [fillScreen, standing, (reportGeometry_tables _ _ _).1]
    change standing w (editWindow w _ s) = _
    rw [standing_editWindow, if_pos rfl, hwin, map_some, standing_moveTo h.screen]
    rfl
  · rw [fillScreen]
    exact (reported_reportGeometry (h.identifies.editWindow w _) _).trans (if_pos rfl)

theorem restoreGeometry_sound (h : Prepared w uuid s) (hst : standing w s = some st)
    (hsaved : st.saved = some g) :
    standing w (restoreGeometry w s) = some ⟨g, (g.width, g.height), none⟩ ∧
      reported uuid (restoreGeometry w s) = some g := by
  obtain ⟨win, hwin, rfl⟩ := map_eq_some_iff.mp hst
  have hlook : (s.windows.lookup w).bind (·.savedGeometry) = some g := by
    rw [hwin]
    exact hsaved
  rw [restoreGeometry, hlook]
  constructor
  · rw [standing, (reportGeometry_tables _ _ _).1]
    change standing w (editWindow w _ s) = _
    rw [standing_editWindow, if_pos rfl, hwin, map_some, standing_moveTo (h.saved win hwin g hsaved)]
  · exact (reported_reportGeometry (h.identifies.editWindow w _) g).trans (if_pos rfl)

structure SameTables (s s' : GeometryState) : Prop where
  x11ToUuid : s'.x11ToUuid = s.x11ToUuid
  screen : s'.screenWidth = s.screenWidth ∧ s'.screenHeight = s.screenHeight

theorem SameTables.trans {s'' : GeometryState} (h : SameTables s s') (h' : SameTables s' s'') :
    SameTables s s'' :=
  ⟨h'.x11ToUuid.trans h.x11ToUuid, h'.screen.1.trans h.screen.1, h'.screen.2.trans h.screen.2⟩

theorem editWindow_tables (v : XId) (f : DrawnWindow → DrawnWindow) (s : GeometryState) :
    SameTables s (editWindow v f s) := ⟨rfl, rfl, rfl⟩

theorem reportGeometry_sameTables (v : XId) (g : Geometry) (s : GeometryState) :
    SameTables s (reportGeometry v g s) :=
  ⟨(reportGeometry_tables v g s).2.1, (reportGeometry_tables v g s).2.2⟩

theorem reportWmState_tables (v : XId) (state : WindowWmState) (s : GeometryState) :
    SameTables s (reportWmState v state s) := by
  rw [reportWmState]
  cases s.x11ToUuid.lookup v <;> exact ⟨rfl, rfl, rfl⟩

theorem noteModal_tables (v : XId) (current : List Atom) (s : GeometryState) :
    SameTables s (noteModal atoms v current s) := by
  rw [noteModal]
  cases s.x11ToUuid.lookup v with
  | none => exact ⟨rfl, rfl, rfl⟩
  | some _ =>
    dsimp only
    split <;> exact ⟨rfl, rfl, rfl⟩

theorem fillScreen_tables (v : XId) (s : GeometryState) : SameTables s (fillScreen v s) :=
  (editWindow_tables v _ s).trans (reportGeometry_sameTables v _ _)

theorem restoreGeometry_tables (v : XId) (s : GeometryState) : SameTables s (restoreGeometry v s) := by
  rw [restoreGeometry]
  cases (s.windows.lookup v).bind (·.savedGeometry) with
  | none => exact ⟨rfl, rfl, rfl⟩
  | some g => exact (editWindow_tables v _ s).trans (reportGeometry_sameTables v g _)

theorem resizeForState_tables (v : XId) (current : List Atom) (s : GeometryState) :
    SameTables s (resizeForState atoms v current s) := by
  rw [resizeForState]
  split
  · exact fillScreen_tables v s
  · split
    · exact restoreGeometry_tables v s
    · exact ⟨rfl, rfl, rfl⟩

theorem geometryStep_tables (atoms : HintAtoms) (a : GeometryAction) (s : GeometryState) :
    SameTables s (geometryStep atoms s a) := by
  cases a with
  | netWmState event =>
    exact (((editWindow_tables _ _ s).trans (resizeForState_tables _ _ _)).trans
      (reportWmState_tables _ _ _)).trans (noteModal_tables _ _ _)
  | netMoveresizeWindow event =>
    exact (editWindow_tables _ _ s).trans (reportGeometry_sameTables _ _ _)
  | wmChangeState event =>
    simp only [geometryStep, handleWmChangeState]
    split
    · exact (editWindow_tables _ _ s).trans (reportWmState_tables _ _ _)
    · exact (editWindow_tables _ _ s).trans (reportWmState_tables _ _ _)
    · exact ⟨rfl, rfl, rfl⟩
  | resize v width height =>
    simp only [geometryStep]
    cases s.x11ToUuid.lookup v with
    | none => exact ⟨rfl, rfl, rfl⟩
    | some uuid =>
      simp only [resizeWindow]
      split <;> exact ⟨rfl, rfl, rfl⟩

def Untouched (w : XId) (uuid : Uuid) (s s' : GeometryState) : Prop :=
  standing w s' = standing w s ∧ reported uuid s' = reported uuid s

theorem Untouched.trans {s'' : GeometryState} (h : Untouched w uuid s s') (h' : Untouched w uuid s' s'') :
    Untouched w uuid s s'' :=
  ⟨h'.1.trans h.1, h'.2.trans h.2⟩

theorem untouched_editWindow (hne : w ≠ v) (f : DrawnWindow → DrawnWindow) (s : GeometryState) :
    Untouched w uuid s (editWindow v f s) :=
  ⟨(standing_editWindow f s).trans (if_neg hne), rfl⟩

theorem untouched_editWindow_same {f : DrawnWindow → DrawnWindow}
    (hf : ∀ win, (f win).standing = win.standing) (v : XId) (s : GeometryState) :
    Untouched w uuid s (editWindow v f s) :=
  ⟨standing_editWindow_same hf s, rfl⟩

theorem untouched_reportWmState (v : XId) (state : WindowWmState) (s : GeometryState) :
    Untouched w uuid s (reportWmState v state s) :=
  ⟨by rw [standing, standing, reportWmState_windows], reported_reportWmState uuid v state s⟩

theorem untouched_noteModal (v : XId) (current : List Atom) (s : GeometryState) :
    Untouched w uuid s (noteModal atoms v current s) :=
  ⟨standing_noteModal v current s, reported_noteModal v current s⟩

theorem untouched_reportGeometry (hown : Identifies uuid w s) (hne : w ≠ v) (g : Geometry) :
    Untouched w uuid s (reportGeometry v g s) := by
  refine ⟨by rw [standing, standing, (reportGeometry_tables v g s).1], ?_⟩
  rw [reported_reportGeometry hown, if_neg hne.symm]

theorem untouched_resizeForState (hown : Identifies uuid w s) (hne : w ≠ v) (current : List Atom) :
    Untouched w uuid s (resizeForState atoms v current s) := by
  rw [resizeForState]
  split
  · exact (untouched_editWindow hne _ s).trans (untouched_reportGeometry (hown.editWindow v _) hne _)
  · split
    · rw [restoreGeometry]
      cases (s.windows.lookup v).bind (·.savedGeometry) with
      | none => exact ⟨rfl, rfl⟩
      | some g =>
        exact (untouched_editWindow hne _ s).trans
          (untouched_reportGeometry (hown.editWindow v _) hne g)
    · exact ⟨rfl, rfl⟩

theorem standing_resizeWindow (w v : XId) (uuid : Uuid) (width height : Nat) (s : GeometryState) :
    standing w (resizeWindow v uuid width height s) = standing w (editWindow v (setSize width height) s) := by
  simp only [resizeWindow]
  split <;> rfl

theorem reported_resizeWindow_of_ne {uuid' : Uuid} (hne : uuid' ≠ uuid) (v : XId) (width height : Nat)
    (s : GeometryState) : reported uuid (resizeWindow v uuid' width height s) = reported uuid s := by
  simp only [resizeWindow]
  split
  · rfl
  · simp [reported, editWindow, filterMap_append, configuredGeometry, hne]

theorem reported_resizeWindow {win : DrawnWindow} (hwin : s.windows.lookup w = some win) (uuid : Uuid)
    (width height : Nat) :
    reported uuid (resizeWindow w uuid width height s) = some (setSize width height win).geometry := by
  have hlook : (editWindow w (setSize width height) s).windows.lookup w =
      some (setSize width height win) := by
    simp [editWindow, hwin]
  simp only [resizeWindow, hlook]
  simp [reported, filterMap_append, configuredGeometry]

def GeometryAction.window (s : GeometryState) : GeometryAction → XId
  | .netWmState event | .netMoveresizeWindow event | .wmChangeState event => messageWindow s event
  | .resize w _ _ => w

theorem untouched_step (hown : Identifies uuid w s) {a : GeometryAction} (hne : w ≠ a.window s) :
    Untouched w uuid s (geometryStep atoms s a) := by
  cases a with
  | netWmState event =>
    exact (((untouched_editWindow hne _ s).trans
      (untouched_resizeForState (hown.editWindow _ _) hne _)).trans
      (untouched_reportWmState _ _ _)).trans (untouched_noteModal _ _ _)
  | netMoveresizeWindow event =>
    exact (untouched_editWindow hne _ s).trans (untouched_reportGeometry (hown.editWindow _ _) hne _)
  | wmChangeState event =>
    simp only [geometryStep, handleWmChangeState]
    split
    · exact (untouched_editWindow hne _ s).trans (untouched_reportWmState _ _ _)
    · exact (untouched_editWindow hne _ s).trans (untouched_reportWmState _ _ _)
    · exact ⟨rfl, rfl⟩
  | resize v width height =>
    simp only [geometryStep]
    cases hv : s.x11ToUuid.lookup v with
    | none => exact ⟨rfl, rfl⟩
    | some uuid' =>
      have huuid : uuid' ≠ uuid := by
        rintro rfl
        exact hne ((hown v).mp hv).symm
      refine ⟨?_, reported_resizeWindow_of_ne huuid _ _ _ _⟩
      exact (standing_resizeWindow _ _ _ _ _ _).trans ((standing_editWindow _ s).trans (if_neg hne))

/-- What an action on the window must come with, lest the three go apart. -/
def Keeps (w : XId) (s : GeometryState) : GeometryAction → Prop
  | .netWmState _ => True
  | .netMoveresizeWindow event => messageWindow s event = w → ∀ win, s.windows.lookup w = some win →
      (messageGeometry s event).width = win.width ∧ (messageGeometry s event).height = win.height ∧
      ((readU32 s.msbFirst event 12).testBit 8 = true ∨ (messageGeometry s event).x = win.x) ∧
      ((readU32 s.msbFirst event 12).testBit 9 = true ∨ (messageGeometry s event).y = win.y)
  | .wmChangeState _ => True
  | .resize v width height => v = w → width ≠ 0 ∧ height ≠ 0

theorem Standing.Sound.of_eq {sent : Option Geometry} {saved : Option Geometry}
    (hg : 0 < g.width ∧ 0 < g.height) (hsent : sent = some g) :
    (Standing.mk g (g.width, g.height) saved).Sound sent := by
  refine ⟨rfl, hg, fun g' hg' => ?_⟩
  rw [hsent] at hg'
  exact (some.inj hg').symm

theorem resizeForState_agrees (hprep : Prepared w uuid s) (h : Agrees w uuid s) (current : List Atom) :
    Agrees w uuid (resizeForState atoms w current s) := by
  obtain ⟨st, hst, hsound⟩ := agrees_iff.mp h
  rw [resizeForState]
  split
  · obtain ⟨hstanding, hrepd⟩ := fillScreen_sound hprep hst
    exact agrees_iff.mpr ⟨_, hstanding, .of_eq hprep.screen hrepd⟩
  · split
    · next hrestore =>
      obtain ⟨win, hwin, rfl⟩ := map_eq_some_iff.mp hst
      have hsome : win.savedGeometry.isSome = true := by
        simpa [hadSaved, hwin] using (Bool.and_eq_true_iff.mp hrestore).2
      obtain ⟨g, hg⟩ := isSome_iff_exists.mp hsome
      obtain ⟨hstanding, hrepd⟩ := restoreGeometry_sound hprep hst hg
      exact agrees_iff.mpr ⟨_, hstanding, .of_eq (hprep.saved win hwin g hg) hrepd⟩
    · exact h

theorem Agrees.of_untouched (h : Agrees w uuid s) (hsame : Untouched w uuid s s') : Agrees w uuid s' := by
  rw [agrees_iff] at h ⊢
  rw [hsame.1, hsame.2]
  exact h

theorem lookup_editWindow (f : DrawnWindow → DrawnWindow) (s : GeometryState) :
    (editWindow w f s).windows.lookup w = (s.windows.lookup w).map f := by
  simp [editWindow]

theorem standing_handleNetMoveresizeWindow (event : Bytes) (s : GeometryState) :
    standing w (handleNetMoveresizeWindow event s) = standing w (editWindow (messageWindow s event)
      (setFields (readU32 s.msbFirst event 12) (messageGeometry s event)) s) := by
  simp only [handleNetMoveresizeWindow, standing, (reportGeometry_tables _ _ _).1]

theorem reported_handleNetMoveresizeWindow (hown : Identifies uuid w s) {event : Bytes}
    (hwindow : messageWindow s event = w) :
    X11Web.WindowGeometry.reported uuid (handleNetMoveresizeWindow event s) =
      some (messageGeometry s event) :=
  (reported_reportGeometry (hown.editWindow _ _) _).trans (if_pos hwindow)

theorem Agrees.netMoveresizeWindow_iff (h : Agrees w uuid s) (hprep : Prepared w uuid s) {event : Bytes}
    (hwindow : messageWindow s event = w) :
    Agrees w uuid (handleNetMoveresizeWindow event s) ↔ Keeps w s (.netMoveresizeWindow event) := by
  obtain ⟨win, hwin⟩ := mem_iff.mp h.there
  obtain ⟨hwd, hht⟩ := h.framebuffer win hwin
  obtain ⟨hposw, hposh⟩ := h.positive win hwin
  rw [agrees_iff, standing_handleNetMoveresizeWindow, hwindow, standing, lookup_editWindow, hwin,
    reported_handleNetMoveresizeWindow hprep.identifies hwindow]
  simp only [map_some, some.injEq, exists_eq_left', Keeps, hwindow, hwin, forall_const, forall_eq']
  generalize messageGeometry s event = g
  generalize readU32 s.msbFirst event 12 = flags
  simp only [Standing.Sound, DrawnWindow.standing, DrawnWindow.geometry, setFields, hwd, hht,
    Prod.mk.injEq, forall_eq', some.injEq]
  constructor
  · rintro ⟨⟨hw, hh⟩, -, hsame⟩
    rw [hsame]
    refine ⟨hw.symm, hh.symm, ?_, ?_⟩
    · cases hflag : flags.testBit 8 <;> simp
    · cases hflag : flags.testBit 9 <;> simp
  · rintro ⟨hw, hh, hx, hy⟩
    have hx' : (if flags.testBit 8 = true then g.x else win.x) = g.x := by
      rcases hx with hx | hx
      · exact if_pos hx
      · rw [hx, ite_self]
    have hy' : (if flags.testBit 9 = true then g.y else win.y) = g.y := by
      rcases hy with hy | hy
      · exact if_pos hy
      · rw [hy, ite_self]
    simp only [hw, hh, ite_self, hx', hy', and_self, true_and]
    refine ⟨⟨hposw, hposh⟩, ?_⟩
    cases g
    cases hw
    cases hh
    rfl

theorem Agrees.resize_iff (h : Agrees w uuid s) (width height : UInt16) :
    Agrees w uuid (resizeWindow w uuid width.toNat height.toNat s) ↔ width ≠ 0 ∧ height ≠ 0 := by
  obtain ⟨win, hwin⟩ := mem_iff.mp h.there
  rw [agrees_iff, standing_resizeWindow, reported_resizeWindow hwin, standing, lookup_editWindow, hwin]
  have hpos : ∀ n : UInt16, 0 < n.toNat ↔ n ≠ 0 := by
    intro n
    rw [Nat.pos_iff_ne_zero, ne_eq, ne_eq, ← UInt16.toNat_inj]
    rfl
  rw [← hpos, ← hpos]
  simp [Standing.Sound, DrawnWindow.standing, DrawnWindow.geometry, setSize, Framebuffer.new]

theorem standing_of_lookup {win : DrawnWindow} (hwin : s.windows.lookup w = some win) :
    standing w s = some win.standing :=
  congrArg (Option.map DrawnWindow.standing) hwin

theorem Prepared.of_saved (h : Prepared w uuid s) (htables : SameTables s s')
    (hsaved : ∀ st, standing w s' = some st → ∀ g, st.saved = some g → 0 < g.width ∧ 0 < g.height) :
    Prepared w uuid s' := by
  refine ⟨fun v => ?_, ?_, fun win hwin => hsaved _ (standing_of_lookup hwin)⟩
  · rw [htables.x11ToUuid]
    exact h.identifies v
  · rw [htables.screen.1, htables.screen.2]
    exact h.screen

theorem Prepared.saved_standing (h : Prepared w uuid s) (hst : standing w s = some st)
    (hg : st.saved = some g) : 0 < g.width ∧ 0 < g.height := by
  obtain ⟨win, hwin, rfl⟩ := map_eq_some_iff.mp hst
  exact h.saved win hwin g hg

theorem Prepared.of_untouched (h : Prepared w uuid s) (htables : SameTables s s')
    (hsame : Untouched w uuid s s') : Prepared w uuid s' := by
  refine h.of_saved htables fun st hst g => ?_
  rw [hsame.1] at hst
  exact h.saved_standing hst

theorem resizeForState_saved (hprep : Prepared w uuid s) (h : Agrees w uuid s) (current : List Atom)
    (hst : standing w (resizeForState atoms w current s) = some st)
    (hg : st.saved = some g) : 0 < g.width ∧ 0 < g.height := by
  obtain ⟨st₀, hst₀, -, hpositive, -⟩ := agrees_iff.mp h
  rw [resizeForState] at hst
  split at hst
  · rw [(fillScreen_sound hprep hst₀).1] at hst
    cases hst
    cases hg
    exact hpositive
  · split at hst
    · rw [restoreGeometry] at hst
      cases hsaved : (s.windows.lookup w).bind (·.savedGeometry) with
      | none =>
        rw [hsaved] at hst
        exact hprep.saved_standing hst hg
      | some g' =>
        obtain ⟨win, hwin, hsome⟩ := bind_eq_some_iff.mp hsaved
        have hst₁ : st₀ = win.standing := by
          rw [standing_of_lookup hwin] at hst₀
          exact (some.inj hst₀).symm
        have hback := (restoreGeometry_sound hprep hst₀ (g := g') (hst₁ ▸ hsome)).1
        rw [restoreGeometry] at hback
        rw [hback] at hst
        cases hst
        cases hg
    · exact hprep.saved_standing hst hg

theorem untouched_setProperty (v : XId) (a : Atom) (pv : PropertyValue) (s : GeometryState) :
    Untouched w uuid s (editWindow v (setProperty a pv) s) := by
  apply untouched_editWindow_same
  intro win
  rfl

theorem untouched_unhide (v : XId) (s : GeometryState) :
    Untouched w uuid s (editWindow v (unhide atoms) s) := by
  apply untouched_editWindow_same
  intro win
  rfl

theorem untouched_handleWmChangeState (atoms : HintAtoms) (event : Bytes) (s : GeometryState) :
    Untouched w uuid s (handleWmChangeState atoms event s) := by
  simp only [handleWmChangeState]
  split
  · exact (untouched_setProperty _ _ _ s).trans (untouched_reportWmState _ _ _)
  · exact (untouched_unhide _ s).trans (untouched_reportWmState _ _ _)
  · exact ⟨rfl, rfl⟩

/-- The window under its new `_NET_WM_STATE`, before its size follows. -/
def withState (atoms : HintAtoms) (event : Bytes) (s : GeometryState) : GeometryState :=
  editWindow (messageWindow s event) (setProperty atoms.netWmState (stateProperty (newAtoms atoms event s))) s

theorem untouched_withState (atoms : HintAtoms) (event : Bytes) (s : GeometryState) :
    Untouched w uuid s (withState atoms event s) :=
  untouched_setProperty _ _ _ s

theorem untouched_handleNetWmState (w : XId) (atoms : HintAtoms) (event : Bytes) (s : GeometryState) :
    Untouched w uuid (resizeForState atoms (messageWindow s event) (newAtoms atoms event s)
      (withState atoms event s)) (handleNetWmState atoms event s) :=
  (untouched_reportWmState _ _ _).trans (untouched_noteModal _ _ _)

theorem Agrees.step_iff (h : Agrees w uuid s) (hprep : Prepared w uuid s) (a : GeometryAction) :
    Agrees w uuid (geometryStep atoms s a) ↔ Keeps w s a := by
  by_cases hne : w ≠ a.window s
  · have hkps : Keeps w s a := by
      cases a with
      | netWmState event => trivial
      | netMoveresizeWindow event => exact fun heq => absurd heq.symm hne
      | wmChangeState event => trivial
      | resize v width height => exact fun heq => absurd heq.symm hne
    exact iff_of_true (h.of_untouched (untouched_step hprep.identifies hne)) hkps
  · rw [not_not] at hne
    cases a with
    | netWmState event =>
      refine iff_of_true ?_ trivial
      obtain rfl : w = messageWindow s event := hne
      have hstate : Untouched (messageWindow s event) uuid s (withState atoms event s) :=
        untouched_withState atoms event s
      have hprepared := hprep.of_untouched (editWindow_tables _ _ s) hstate
      exact (resizeForState_agrees hprepared (h.of_untouched hstate) _).of_untouched
        (untouched_handleNetWmState _ atoms event s)
    | netMoveresizeWindow event => exact h.netMoveresizeWindow_iff hprep hne.symm
    | wmChangeState event => exact iff_of_true (h.of_untouched (untouched_handleWmChangeState atoms event s)) trivial
    | resize v width height =>
      obtain rfl : w = v := hne
      have hw : s.x11ToUuid.lookup w = some uuid := (hprep.identifies w).mpr rfl
      simp only [geometryStep, hw, Keeps, forall_const]
      exact h.resize_iff width height

theorem Prepared.step (hprep : Prepared w uuid s) (h : Agrees w uuid s) (a : GeometryAction) :
    Prepared w uuid (geometryStep atoms s a) := by
  refine hprep.of_saved (geometryStep_tables atoms a s) fun st hst g hg => ?_
  by_cases hne : w ≠ a.window s
  · rw [(untouched_step hprep.identifies hne).1] at hst
    exact hprep.saved_standing hst hg
  · rw [not_not] at hne
    obtain ⟨win, hwin⟩ := mem_iff.mp h.there
    cases a with
    | netWmState event =>
      obtain rfl : w = messageWindow s event := hne
      have hstate : Untouched (messageWindow s event) uuid s (withState atoms event s) :=
        untouched_withState atoms event s
      have hprepared := hprep.of_untouched (editWindow_tables _ _ s) hstate
      have hlast : Untouched _ uuid _ _ := untouched_handleNetWmState (messageWindow s event) atoms event s
      exact resizeForState_saved hprepared (h.of_untouched hstate) _ (hlast.1.symm.trans hst) hg
    | netMoveresizeWindow event =>
      obtain rfl : w = messageWindow s event := hne
      rw [geometryStep, standing_handleNetMoveresizeWindow, standing, lookup_editWindow, hwin] at hst
      cases hst
      exact hprep.saved win hwin g hg
    | wmChangeState event =>
      have hsame : Untouched w uuid s _ := untouched_handleWmChangeState atoms event s
      exact hprep.saved_standing (hsame.1.symm.trans hst) hg
    | resize v width height =>
      obtain rfl : w = v := hne
      have hw : s.x11ToUuid.lookup w = some uuid := (hprep.identifies w).mpr rfl
      simp only [geometryStep, hw, standing_resizeWindow] at hst
      rw [standing, lookup_editWindow, hwin] at hst
      cases hst
      exact hprep.saved win hwin g hg

theorem geometry_agrees_iff (h : Agrees w uuid s) (hprep : Prepared w uuid s) (as : List GeometryAction) :
    (∀ bs, bs <+: as → Agrees w uuid (bs.foldl (geometryStep atoms) s)) ↔
      ∀ bs a, bs ++ [a] <+: as → Keeps w (bs.foldl (geometryStep atoms) s) a :=
  foldl_stays_iff (fun _ a hprep h => hprep.step h a) (fun _ a hprep h => h.step_iff hprep a) hprep h as

def smallWindow : DrawnWindow where
  id := 7
  parent := rootWindow
  x := 3
  y := 4
  width := 2
  height := 1
  borderWidth := 0
  visual := rootVisual
  depth := 24
  winClass := inputOutput
  mapped := true
  eventMask := 0
  overrideRedirect := false
  redirected := false
  properties := ∅
  ownerClientId := none
  childrenOrder := []
  retainedTemporary := false
  wmHintsInitialState := none
  transientFor := none
  windowType := .normal
  strut := none
  wmHintsInput := none
  borderPixel := 0
  modal := false
  savedGeometry := none
  framebuffer := Framebuffer.new 2 1

def smallScreen : GeometryState where
  msbFirst := false
  screenWidth := 4
  screenHeight := 3
  windows := (∅ : HashMap XId DrawnWindow).insert 7 smallWindow
  x11ToUuid := (∅ : HashMap XId Uuid).insert 7 0
  updates := []

theorem smallScreen_prepared : Prepared 7 0 smallScreen := by
  refine ⟨fun v => ?_, by decide, fun win hwin g hg => ?_⟩
  · rw [smallScreen, lookup_insert_eq]
    by_cases hv : v = 7 <;> simp [hv]
  · cases (lookup_insert (∅ : HashMap XId DrawnWindow)).symm.trans hwin
    cases hg

theorem smallScreen_agrees : Agrees 7 0 smallScreen :=
  agrees_iff.mpr ⟨smallWindow.standing, standing_of_lookup (lookup_insert _), rfl, by decide,
    fun _ h => nomatch h⟩

def hintAtoms : HintAtoms where
  netWmState := 92
  fullscreen := 101
  maximizedVert := 99
  maximizedHorz := 100
  hidden := 98
  modal := 97
  above := 102

/-- A client message to the root window about a window, with its data. -/
def clientMessage (w : XId) (data : List Nat) : Bytes :=
  [33, 32, 0, 0] ++ toLeBytes32 w ++ toLeBytes32 0 ++ data.flatMap toLeBytes32

theorem geometry_agrees_fullscreen :
    Agrees 7 0 ([.netWmState (clientMessage 7 [1, 101, 0, 0, 0]), .resize 7 5 6,
      .netWmState (clientMessage 7 [0, 101, 0, 0, 0])].foldl (geometryStep hintAtoms) smallScreen) := by
  refine (geometry_agrees_iff smallScreen_agrees smallScreen_prepared _).mpr (fun bs a hbs => ?_) _
    (prefix_refl _)
  have ha := hbs.subset (mem_append_right bs (mem_singleton_self a))
  simp only [mem_cons, not_mem_nil, or_false] at ha
  rcases ha with rfl | rfl | rfl
  · trivial
  · exact fun _ => by decide
  · trivial

def growMessage : Bytes := clientMessage 7 [0xF00, 3, 4, 4, 3]

theorem moveresize_disagrees :
    Prepared 7 0 smallScreen ∧ Agrees 7 0 smallScreen ∧
      ¬ Agrees 7 0 (geometryStep hintAtoms smallScreen (.netMoveresizeWindow growMessage)) := by
  refine ⟨smallScreen_prepared, smallScreen_agrees, fun haft => ?_⟩
  have hkps := (smallScreen_agrees.step_iff smallScreen_prepared _).mp haft
  have hsize := hkps (by decide) smallWindow (lookup_insert _)
  exact absurd hsize.1 (by decide)

end X11Web.WindowGeometry
