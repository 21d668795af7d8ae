import X11Web.Links
import X11Web.Properties

namespace X11Web.WorkArea

open List Option Function Finmap

open HashMaps Windows WindowTree Ewmh Stacking Properties
  X11Web.CreateDestroy X11Web.LinkedForest X11Web.Runs

def netDesktopGeometry : Atom := 124

def cardinals (words : List Nat) : PropertyValue := ⟨Predef.cardinal, 32, words.flatMap toLeBytes32⟩

def sizeRoot (width height : Nat) (root : WindowState) : WindowState :=
  { root with width := width, height := height }

/-- The screen takes another size, and the root window and its properties with it. -/
def applyScreenResize (newW newH : Nat) (s : ClientState) : ClientState :=
  let resized := { s with screenWidth := newW, screenHeight := newH }
  let sized := updateSharedWindow rootWindow (sizeRoot newW newH)
    (updateWindow rootWindow (sizeRoot newW newH) resized)
  updateWindow rootWindow (fun root =>
    insertProperty Predef.netWorkarea (cardinals [0, 0, newW, newH])
      (insertProperty netDesktopGeometry (cardinals [newW, newH]) root)) sized

/-- The size that the frontend reports, if it is another one. -/
def screenSizeChanged (newW newH : UInt16) (s : ClientState) : ClientState :=
  if newW.toNat > 0 ∧ newH.toNat > 0 ∧ (newW.toNat ≠ s.screenWidth ∨ newH.toNat ≠ s.screenHeight) then
    applyScreenResize newW.toNat newH.toNat s
  else s

inductive StrutProperty
  | netWmStrut
  | netWmStrutPartial
deriving DecidableEq

def StrutProperty.atom : StrutProperty → Atom
  | .netWmStrut => Predef.netWmStrut
  | .netWmStrutPartial => Predef.netWmStrutPartial

structure StrutRequest where
  mode : PropMode
  window : XId
  property : StrutProperty
  propType : Atom
  data : Bytes
  words : 16 ≤ data.length

def StrutRequest.request (req : StrutRequest) : ChangePropertyRequest where
  mode := req.mode
  window := req.window
  property := req.property.atom
  propType := req.propType
  format := 32
  data := req.data

def StrutRequest.strut (msb : Bool) (req : StrutRequest) : Strut :=
  ⟨readU32 msb req.data 0, readU32 msb req.data 4, readU32 msb req.data 8, readU32 msb req.data 12⟩

/-- A connection, with the struts that its windows were given and whose property they
still have, the latest first. -/
structure Desk where
  client : ClientState
  given : XId → List (StrutProperty × Strut)

inductive DeskAction
  | changeStrut (req : StrutRequest)
  | deleteStrut (w : XId) (property : StrutProperty)
  | destroyWindow (fuel : Nat) (w : XId)
  | screenResize (newW newH : UInt16)

def withdraw (w : XId) (p : StrutProperty) (given : XId → List (StrutProperty × Strut)) :
    XId → List (StrutProperty × Strut) :=
  update given w ((given w).filter (fun g => g.1 != p))

def give (w : XId) (p : StrutProperty) (strut : Strut) (given : XId → List (StrutProperty × Strut)) :
    XId → List (StrutProperty × Strut) :=
  update given w ((p, strut) :: (given w).filter (fun g => g.1 != p))

def inForce (given : XId → List (StrutProperty × Strut)) (w : XId) : Option Strut :=
  (given w).head?.map (·.2)

def deskStep (atoms : AtomNames) (d : Desk) : DeskAction → Option Desk
  | .changeStrut req =>
    match handleChangeProperty atoms req.request d.client with
    | (s, .ok) => some ⟨s, give req.window req.property (req.strut d.client.msbFirst) d.given⟩
    | (s, .error _ _ _) => some ⟨s, d.given⟩
  | .deleteStrut w p =>
    match handleDeleteProperty atoms w p.atom d.client with
    | (s, .ok) => some ⟨s, withdraw w p d.given⟩
    | (s, .error _ _ _) => some ⟨s, d.given⟩
  | .destroyWindow fuel w =>
    (handleDestroyWindow fuel w d.client).map fun after =>
      ⟨after.1, fun v => if v ∈ after.1.windows then d.given v else []⟩
  | .screenResize newW newH => some ⟨screenSizeChanged newW newH d.client, d.given⟩

def reach (edge : Strut → Nat) (struts : XId → Option Strut) (ws : Finset XId) : Nat :=
  ws.sup (fun w => (struts w).elim 0 edge)

def workArea (width height : Nat) (struts : XId → Option Strut) (ws : Finset XId) : List Int :=
  let left := reach (·.left) struts ws
  let right := reach (·.right) struts ws
  let top := reach (·.top) struts ws
  let bottom := reach (·.bottom) struts ws
  [(left : Int), (top : Int), max 0 ((width : Int) - left - right), max 0 ((height : Int) - top - bottom)]

def noted (s : ClientState) (w : XId) : Option Strut := (s.windows.lookup w).bind (·.strut)

/-- The sums over opposite edges fit the 32 bits that they are computed in. -/
def Fits (struts : XId → Option Strut) (ws : Finset XId) : Prop :=
  reach (·.left) struts ws + reach (·.right) struts ws < 4294967296 ∧
    reach (·.top) struts ws + reach (·.bottom) struts ws < 4294967296

def readArea (pv : PropertyValue) : Option (List Int) :=
  if pv.propType = Predef.cardinal ∧ pv.format = 32 then some ((leWords pv.data).map (fun n : Nat => (n : Int))) else none

def rootArea (s : ClientState) : Option (List Int) :=
  (cachedProperty s rootWindow Predef.netWorkarea).bind readArea

/-- The work area on the root window is what the struts of the windows leave. -/
def Desk.Current (d : Desk) : Prop :=
  rootArea d.client =
    some (workArea d.client.screenWidth d.client.screenHeight (inForce d.given) d.client.windows.keys)

def recalculates (atoms : AtomNames) (d : Desk) : DeskAction → Prop
  | .changeStrut req => changePropertyError atoms req.request d.client = none
  | .deleteStrut _ _ => False
  | .destroyWindow _ w => (noted d.client w).isSome
  | .screenResize _ _ => False

/-- The step leaves the work area current and computes no sum that overflows. -/
def Exact (atoms : AtomNames) (d : Desk) (a : DeskAction) : Prop :=
  ∀ d', deskStep atoms d a = some d' →
    d'.Current ∧ (recalculates atoms d a → Fits (noted d'.client) d'.client.windows.keys)

def taken (fuel : Nat) (w : XId) (s : ClientState) : Option (List XId) :=
  collect (childrenOf s.windows) fuel (childrenOf s.windows w).reverse []

/-- What is noted adds up without an overflow, and what is noted for windows that no longer
have a strut makes no difference. -/
def Settles (width height : Nat) (noted given : XId → Option Strut) (ws : Finset XId) : Prop :=
  Fits noted ws ∧ workArea width height noted ws = workArea width height given ws

/-- Nothing changes that is not computed afresh from the struts there are. -/
def Allowed (atoms : AtomNames) (d : Desk) : DeskAction → Prop
  | .changeStrut req => changePropertyError atoms req.request d.client = none →
      Settles d.client.screenWidth d.client.screenHeight
        (update (noted d.client) req.window (some (req.strut d.client.msbFirst)))
        (update (inForce d.given) req.window (some (req.strut d.client.msbFirst))) d.client.windows.keys
  | .deleteStrut w p => windowExists d.client w = true → unknownAtom atoms p.atom = false →
      workArea d.client.screenWidth d.client.screenHeight (inForce (withdraw w p d.given)) d.client.windows.keys =
        workArea d.client.screenWidth d.client.screenHeight (inForce d.given) d.client.windows.keys
  | .destroyWindow fuel w => w ∈ d.client.windows → ∀ ds, taken fuel w d.client = some ds →
      rootWindow ∉ w :: ds ∧
      let left := d.client.windows.keys \ (w :: ds).toFinset
      if (noted d.client w).isSome then
        Settles d.client.screenWidth d.client.screenHeight (noted d.client) (inForce d.given) left
      else
        workArea d.client.screenWidth d.client.screenHeight (inForce d.given) left =
          workArea d.client.screenWidth d.client.screenHeight (inForce d.given) d.client.windows.keys
  | .screenResize newW newH =>
      newW.toNat > 0 ∧ newH.toNat > 0 ∧ (newW.toNat ≠ d.client.screenWidth ∨ newH.toNat ≠ d.client.screenHeight) →
        workArea newW.toNat newH.toNat (inForce d.given) d.client.windows.keys =
          [0, 0, (newW.toNat : Int), (newH.toNat : Int)]

/-- The work area is the whole screen, and no window has a strut. -/
structure Clear (s : ClientState) : Prop where
  area : rootArea s = some [0, 0, (s.screenWidth : Int), (s.screenHeight : Int)]
  noted : ∀ w, noted s w = none
  screen : s.screenWidth < 65536 ∧ s.screenHeight < 65536

def deskOf (win : WindowState) : Option Strut × Option PropertyValue :=
  (win.strut, win.properties.lookup Predef.netWorkarea)

/-- The work area and the struts are the same in both states. -/
structure SameDesk (s s' : ClientState) : Prop where
  windows : ∀ v, (s'.windows.lookup v).map deskOf = (s.windows.lookup v).map deskOf
  screen : s'.screenWidth = s.screenWidth ∧ s'.screenHeight = s.screenHeight
  msbFirst : s'.msbFirst = s.msbFirst

variable {atoms : AtomNames} {s s' s'' : ClientState} {d d' : Desk} {w v : XId}

theorem SameDesk.refl (s : ClientState) : SameDesk s s := ⟨fun _ => rfl, ⟨rfl, rfl⟩, rfl⟩

theorem SameDesk.trans (h : SameDesk s s') (h' : SameDesk s' s'') : SameDesk s s'' :=
  ⟨fun v => (h'.windows v).trans (h.windows v),
    ⟨h'.screen.1.trans h.screen.1, h'.screen.2.trans h.screen.2⟩, h'.msbFirst.trans h.msbFirst⟩

variable {f : WindowState → WindowState}

theorem SameDesk.updateWindow (w : XId) (hf : ∀ win, deskOf (f win) = deskOf win)
    (s : ClientState) : SameDesk s (Windows.updateWindow w f s) :=
  ⟨fun v => lookup_modify_map deskOf w v f s.windows hf, ⟨rfl, rfl⟩, rfl⟩

theorem deskOf_insertProperty {a : Atom} (ha : a ≠ Predef.netWorkarea) (pv : PropertyValue) (win : WindowState) :
    deskOf (insertProperty a pv win) = deskOf win := by
  rw [deskOf, insertProperty, lookup_insert_of_ne win.properties ha.symm]
  rfl

theorem deskOf_removeProperty {a : Atom} (ha : a ≠ Predef.netWorkarea) (win : WindowState) :
    deskOf (removeProperty a win) = deskOf win := by
  rw [deskOf, removeProperty, lookup_erase_ne ha.symm]
  rfl

theorem StrutProperty.atom_ne (p : StrutProperty) : p.atom ≠ Predef.netWorkarea := by
  cases p <;> decide

theorem SameDesk.noted (h : SameDesk s s') : noted s' = noted s := by
  funext w
  have hw := congrArg (fun o => o.bind (fun e : Option Strut × Option PropertyValue => e.1)) (h.windows w)
  simp only [bind_map] at hw
  exact hw

theorem SameDesk.rootArea (h : SameDesk s s') : rootArea s' = rootArea s := by
  have hroot := congrArg (fun o => o.bind (fun e : Option Strut × Option PropertyValue => e.2)) (h.windows rootWindow)
  simp only [bind_map] at hroot
  exact congrArg (fun o => o.bind readArea) hroot

theorem SameDesk.mem_iff (h : SameDesk s s') (v : XId) : v ∈ s'.windows ↔ v ∈ s.windows := by
  have hv := congrArg Option.isSome (h.windows v)
  rw [isSome_map, isSome_map] at hv
  rw [← lookup_isSome, ← lookup_isSome, hv]

theorem SameDesk.keys (h : SameDesk s s') : s'.windows.keys = s.windows.keys := by
  ext v
  rw [Finmap.mem_keys, Finmap.mem_keys]
  exact h.mem_iff v

theorem storeProperty_sameDesk {req : ChangePropertyRequest} (h : req.property ≠ Predef.netWorkarea)
    (s : ClientState) : SameDesk s (storeProperty req s) :=
  ⟨fun v => lookup_modify_map deskOf req.window v _ s.windows (deskOf_insertProperty h _), ⟨rfl, rfl⟩, rfl⟩

variable (req : ChangePropertyRequest)

theorem noteTransientFor_sameDesk (s : ClientState) : SameDesk s (noteTransientFor atoms req s) := by
  rw [noteTransientFor]
  split
  · apply SameDesk.updateWindow
    intro win
    rfl
  · exact .refl s

theorem noteWindowType_sameDesk (s : ClientState) : SameDesk s (noteWindowType atoms req s) := by
  rw [noteWindowType]
  split
  · have htype : SameDesk s (Windows.updateWindow req.window
        (setWindowType (fromAtomIds (wordsOf s.msbFirst req.data))) s) := by
      apply SameDesk.updateWindow
      intro win
      rfl
    dsimp only
    split
    · exact htype
    · refine htype.trans ?_
      apply SameDesk.updateWindow
      intro win
      rfl
  · exact .refl s

theorem noteHints_sameDesk (s : ClientState) : SameDesk s (noteHints atoms req s) := by
  rw [noteHints]
  split
  · apply SameDesk.updateWindow
    intro win
    rfl
  · exact .refl s

theorem advanceIncrTransfer_sameDesk {a : Atom} (ha : a ≠ Predef.netWorkarea) (w : XId) (s : ClientState) :
    SameDesk s (advanceIncrTransfer w a s) := by
  rw [advanceIncrTransfer]
  split
  · exact .refl s
  · split
    · exact .refl s
    · dsimp only
      split
      · exact ⟨fun v => lookup_modify_map deskOf w v _ s.windows (deskOf_insertProperty ha _), ⟨rfl, rfl⟩, rfl⟩
      · exact ⟨fun v => lookup_modify_map deskOf w v _ s.windows (deskOf_insertProperty ha _), ⟨rfl, rfl⟩, rfl⟩

theorem updateNetClientList_sameDesk (s : ClientState) : SameDesk s (updateNetClientList s) := by
  refine ⟨fun v => lookup_modify_map deskOf rootWindow v _ s.windows fun win => ?_, ⟨rfl, rfl⟩, rfl⟩
  rw [deskOf_insertProperty (by decide), deskOf_insertProperty (by decide)]

theorem setFocusWindow_sameDesk (newFocus : XId) (s : ClientState) :
    SameDesk s (setFocusWindow newFocus s) := by
  have hfoc : SameDesk s
      { s with focusWindow := newFocus, shared := { s.shared with focus := newFocus } } :=
    ⟨fun _ => rfl, ⟨rfl, rfl⟩, rfl⟩
  rw [setFocusWindow]
  split
  · refine (hfoc.trans (.updateWindow rootWindow (fun win => ?_) _)).trans (updateNetClientList_sameDesk _)
    exact deskOf_insertProperty (by decide) _ win
  · exact hfoc

theorem revertFocusFrom_sameDesk (w : XId) (s : ClientState) : SameDesk s (revertFocusFrom w s) := by
  rw [revertFocusFrom]
  split
  · exact .refl s
  · exact setFocusWindow_sameDesk _ s

theorem foldl_revertFocusFrom_sameDesk (ds : List XId) (s : ClientState) :
    SameDesk s (ds.foldl (fun s d => revertFocusFrom d s) s) := by
  induction ds generalizing s with
  | nil => exact .refl s
  | cons d ds ih => exact (revertFocusFrom_sameDesk d s).trans (ih _)

def Bounded (struts : XId → Option Strut) : Prop :=
  ∀ w strut, struts w = some strut →
    strut.left < 4294967296 ∧ strut.right < 4294967296 ∧ strut.top < 4294967296 ∧ strut.bottom < 4294967296

variable {struts struts' : XId → Option Strut} {ws : Finset XId}

theorem reach_lt {edge : Strut → Nat} (h : ∀ w strut, struts w = some strut → edge strut < 4294967296)
    (ws : Finset XId) : reach edge struts ws < 4294967296 := by
  rw [reach, Finset.sup_lt_iff (Nat.zero_lt_succ _)]
  intro w _
  cases hw : struts w with
  | none => exact Nat.zero_lt_succ _
  | some strut => exact h w strut hw

theorem reach_congr (edge : Strut → Nat) (h : ∀ w ∈ ws, struts w = struts' w) :
    reach edge struts ws = reach edge struts' ws := by
  apply Finset.sup_congr rfl
  intro w hw
  rw [h w hw]

theorem workArea_congr (width height : Nat) (h : ∀ w ∈ ws, struts w = struts' w) :
    workArea width height struts ws = workArea width height struts' ws := by
  simp only [workArea, reach_congr _ h]

theorem Fits.congr (h : ∀ w ∈ ws, struts w = struts' w) : Fits struts ws ↔ Fits struts' ws := by
  simp only [Fits, reach_congr _ h]

theorem readArea_cardinals {words : List Nat} (h : ∀ n ∈ words, n < 4294967296) :
    readArea (cardinals words) = some (words.map (fun n : Nat => (n : Int))) := by
  rw [readArea, if_pos ⟨rfl, rfl⟩, cardinals, leWords_flatMap h]

theorem rootArea_updateWindow (hroot : rootWindow ∈ s.windows)
    {pv : PropertyValue} (hf : ∀ win, (f win).properties.lookup Predef.netWorkarea = some pv) :
    rootArea (updateWindow rootWindow f s) = readArea pv := by
  obtain ⟨win, hwin⟩ := mem_iff.mp hroot
  rw [rootArea, cachedProperty, updateWindow, lookup_modify_self, hwin, map_some, bind_some, hf,
    bind_some]

theorem root_of_area {area : List Int} (h : rootArea s = some area) : rootWindow ∈ s.windows := by
  obtain ⟨pv, hpv, -⟩ := bind_eq_some_iff.mp h
  obtain ⟨win, hwin, -⟩ := bind_eq_some_iff.mp hpv
  exact mem_iff.mpr ⟨win, hwin⟩

theorem noted_updateWindow (hf : ∀ win, (f win).strut = win.strut) (s : ClientState) :
    noted (updateWindow w f s) = noted s := by
  funext v
  have hv := lookup_modify_map (fun win : WindowState => win.strut) w v f s.windows hf
  have hjoin := congrArg (fun o => o.bind id) hv
  simp only [bind_map] at hjoin
  exact hjoin

theorem keys_updateWindow (f : WindowState → WindowState) (s : ClientState) :
    (updateWindow w f s).windows.keys = s.windows.keys := by
  ext v
  rw [Finmap.mem_keys, Finmap.mem_keys]
  exact mem_modify w v f s.windows

theorem recalculateWorkarea_noted (s : ClientState) : noted (recalculateWorkarea s) = noted s := by
  apply noted_updateWindow
  intro win
  rfl

theorem recalculateWorkarea_keys (s : ClientState) :
    (recalculateWorkarea s).windows.keys = s.windows.keys :=
  keys_updateWindow _ s

theorem rootArea_recalculateWorkarea (hroot : rootWindow ∈ s.windows) (hbdd : Bounded (noted s))
    (hscr : s.screenWidth < 65536 ∧ s.screenHeight < 65536) (hfits : Fits (noted s) s.windows.keys) :
    rootArea (recalculateWorkarea s) =
      some (workArea s.screenWidth s.screenHeight (noted s) s.windows.keys) := by
  have hleft := reach_lt (fun w strut h => (hbdd w strut h).1) s.windows.keys
  have htop := reach_lt (fun w strut h => (hbdd w strut h).2.2.1) s.windows.keys
  have hmax : ∀ edge, maxStrut edge s.windows = reach edge (noted s) s.windows.keys := fun _ => rfl
  rw [recalculateWorkarea, rootArea_updateWindow hroot (fun win => lookup_insert _)]
  simp only [hmax]
  refine (readArea_cardinals fun n hn => ?_).trans ?_
  · simp only [mem_cons, not_mem_nil, or_false] at hn
    rcases hn with rfl | rfl | rfl | rfl
    · exact hleft
    · exact htop
    · omega
    · omega
  · obtain ⟨hwd, hht⟩ := hfits
    rw [workArea]
    simp only [map_cons, map_nil, Nat.reducePow, Nat.mod_eq_of_lt hwd, Nat.mod_eq_of_lt hht,
      some.injEq, List.cons.injEq, and_true, true_and]
    constructor
    · omega
    · omega

theorem Settles.congr {width height : Nat} {given given' : XId → Option Strut} (h : ∀ w ∈ ws, struts w = struts' w)
    (hgiven : ∀ w ∈ ws, given w = given' w) :
    Settles width height struts given ws ↔ Settles width height struts' given' ws := by
  rw [Settles, Settles, Fits.congr h, workArea_congr width height h, workArea_congr width height hgiven]

theorem recalculated_iff {b : ClientState} (given : XId → List (StrutProperty × Strut))
    (hroot : rootWindow ∈ b.windows) (hbdd : Bounded (noted b))
    (hscr : b.screenWidth < 65536 ∧ b.screenHeight < 65536) (hsame : SameDesk (recalculateWorkarea b) s') :
    (Desk.Current ⟨s', given⟩ ∧ Fits (noted s') s'.windows.keys) ↔
      Settles b.screenWidth b.screenHeight (noted b) (inForce given) b.windows.keys := by
  have hkeys := hsame.keys.trans (recalculateWorkarea_keys b)
  have hntd := hsame.noted.trans (recalculateWorkarea_noted b)
  have hwd : s'.screenWidth = b.screenWidth := hsame.screen.1
  have hht : s'.screenHeight = b.screenHeight := hsame.screen.2
  rw [Desk.Current, hsame.rootArea, hkeys, hntd, hwd, hht, Settles, and_comm]
  refine and_congr_right fun hfits => ?_
  rw [rootArea_recalculateWorkarea hroot hbdd hscr hfits, some.injEq]

theorem inForce_give (p : StrutProperty) (strut : Strut) (given : XId → List (StrutProperty × Strut)) :
    inForce (give w p strut given) = update (inForce given) w (some strut) := by
  funext v
  by_cases h : v = w
  · subst v
    simp [inForce, give]
  · simp [inForce, give, h]

theorem isNamed_strut (atoms : AtomNames) (req : StrutRequest) :
    (isNamed atoms req.request Predef.netWmStrut "_NET_WM_STRUT" = true ∨
      isNamed atoms req.request Predef.netWmStrutPartial "_NET_WM_STRUT_PARTIAL" = true) ∧
      req.request.format = 32 ∧ 16 ≤ req.request.data.length := by
  refine ⟨?_, rfl, req.words⟩
  cases hp : req.property with
  | netWmStrut => exact .inl (by simp [isNamed, StrutRequest.request, StrutProperty.atom, hp])
  | netWmStrutPartial => exact .inr (by simp [isNamed, StrutRequest.request, StrutProperty.atom, hp])

theorem changeStrut_recalculates (req : StrutRequest) (h : changePropertyError atoms req.request s = none) :
    ∃ b, noted b = update (noted s) req.window (some (req.strut s.msbFirst)) ∧
      b.windows.keys = s.windows.keys ∧ b.screenWidth = s.screenWidth ∧ b.screenHeight = s.screenHeight ∧
      SameDesk (recalculateWorkarea b) (handleChangeProperty atoms req.request s).1 := by
  set r := noteWindowType atoms req.request (noteTransientFor atoms req.request (storeProperty req.request s)) with hr
  have hsame : SameDesk s r :=
    ((storeProperty_sameDesk req.property.atom_ne s).trans (noteTransientFor_sameDesk req.request _)).trans
      (noteWindowType_sameDesk req.request _)
  have hwindow : req.window ∈ r.windows := (hsame.mem_iff req.window).mpr (changePropertyError_known _ h).2
  refine ⟨updateWindow req.window (setStrut (req.strut r.msbFirst)) r, ?_, ?_, hsame.screen.1, hsame.screen.2, ?_⟩
  · rw [← hsame.noted, ← hsame.msbFirst]
    funext v
    rw [noted, updateWindow, lookup_modify, update_apply]
    obtain ⟨win, hwin⟩ := mem_iff.mp hwindow
    by_cases hv : v = req.window
    · rw [if_pos hv, if_pos hv, hwin]
      rfl
    · rw [if_neg hv, if_neg hv]
      rfl
  · rw [keys_updateWindow, hsame.keys]
  · simp only [handleChangeProperty, h, ← hr]
    rw [noteStrut, if_pos (isNamed_strut atoms req)]
    exact noteHints_sameDesk req.request _

theorem StrutRequest.strut_bounded (msb : Bool) (req : StrutRequest) :
    (req.strut msb).left < 4294967296 ∧ (req.strut msb).right < 4294967296 ∧
      (req.strut msb).top < 4294967296 ∧ (req.strut msb).bottom < 4294967296 :=
  ⟨readU32_lt _ _ _, readU32_lt _ _ _, readU32_lt _ _ _, readU32_lt _ _ _⟩

theorem Bounded.update (h : Bounded struts) {strut : Strut}
    (hstrut : strut.left < 4294967296 ∧ strut.right < 4294967296 ∧ strut.top < 4294967296 ∧
      strut.bottom < 4294967296) (w : XId) : Bounded (update struts w (some strut)) := by
  intro v strut' hv
  rw [update_apply] at hv
  split at hv
  · cases hv
    exact hstrut
  · exact h v strut' hv

structure Sound (d : Desk) : Prop where
  current : d.Current
  bounded : Bounded (noted d.client)
  screen : d.client.screenWidth < 65536 ∧ d.client.screenHeight < 65536

theorem Sound.root (h : Sound d) : rootWindow ∈ d.client.windows := root_of_area h.current

theorem Sound.changeStrut_iff (h : Sound d) (req : StrutRequest) :
    Exact atoms d (.changeStrut req) ↔ Allowed atoms d (.changeStrut req) := by
  rw [Exact, Allowed, deskStep, recalculates]
  cases herr : changePropertyError atoms req.request d.client with
  | some error =>
    simp only [handleChangeProperty, herr, some.injEq, forall_eq', reduceCtorEq, false_imp_iff, and_true,
      iff_true]
    exact h.current
  | none =>
    obtain ⟨b, hntd, hkeys, hwd, hht, hsame⟩ := changeStrut_recalculates req herr
    have hroot : rootWindow ∈ b.windows := by
      rw [← Finmap.mem_keys, hkeys, Finmap.mem_keys]
      exact h.root
    have hbdd : Bounded (noted b) := hntd ▸ h.bounded.update (req.strut_bounded _) req.window
    have hscr : b.screenWidth < 65536 ∧ b.screenHeight < 65536 := by
      rw [hwd, hht]
      exact h.screen
    have hiff := recalculated_iff (give req.window req.property (req.strut d.client.msbFirst) d.given)
      hroot hbdd hscr hsame
    rw [hntd, hkeys, hwd, hht, inForce_give] at hiff
    have hok : (handleChangeProperty atoms req.request d.client).2 = .ok := by
      simp only [handleChangeProperty, herr]
    rw [← Prod.eta (handleChangeProperty atoms req.request d.client), hok]
    simpa only [some.injEq, forall_eq', forall_const] using hiff

theorem SameDesk.current_iff (h : SameDesk s s') {given : XId → List (StrutProperty × Strut)} :
    Desk.Current ⟨s', given⟩ ↔ WorkArea.rootArea s =
      some (workArea s.screenWidth s.screenHeight (inForce given) s.windows.keys) := by
  have hwd : s'.screenWidth = s.screenWidth := h.screen.1
  have hht : s'.screenHeight = s.screenHeight := h.screen.2
  rw [Desk.Current, h.rootArea, h.keys, hwd, hht]

theorem handleDeleteProperty_sameDesk (atoms : AtomNames) {a : Atom} (ha : a ≠ Predef.netWorkarea) (w : XId) (s : ClientState) :
    SameDesk s (handleDeleteProperty atoms w a s).1 := by
  have hrmd : SameDesk s (removeBoth w a s) :=
    ⟨fun v => lookup_modify_map deskOf w v _ s.windows (deskOf_removeProperty ha), ⟨rfl, rfl⟩, rfl⟩
  rw [handleDeleteProperty]
  split
  · exact .refl s
  · split
    · exact .refl s
    · exact hrmd.trans (advanceIncrTransfer_sameDesk ha w _)

theorem Sound.deleteStrut_iff (h : Sound d) (w : XId) (p : StrutProperty) :
    Exact atoms d (.deleteStrut w p) ↔ Allowed atoms d (.deleteStrut w p) := by
  have hsame := handleDeleteProperty_sameDesk atoms p.atom_ne w d.client
  have hcur := h.current
  rw [Desk.Current] at hcur
  rw [Exact, Allowed, deskStep, recalculates]
  cases hex : windowExists d.client w with
  | false =>
    simp only [handleDeleteProperty, hex, if_true, some.injEq, forall_eq', false_imp_iff, and_true,
      Bool.false_eq_true, iff_true]
    exact h.current
  | true =>
    cases hatom : unknownAtom atoms p.atom with
    | true =>
      simp only [handleDeleteProperty, hex, hatom, if_true, some.injEq, forall_eq', false_imp_iff, and_true,
        Bool.true_eq_false, if_false, imp_true_iff, iff_true]
      exact h.current
    | false =>
      have hok : (handleDeleteProperty atoms w p.atom d.client).2 = .ok := by
        simp [handleDeleteProperty, hex, hatom]
      rw [← Prod.eta (handleDeleteProperty atoms w p.atom d.client), hok]
      simp only [some.injEq, forall_eq', false_imp_iff, and_true, forall_const]
      rw [hsame.current_iff, hcur, some.injEq, eq_comm]

theorem applyScreenResize_noted (newW newH : Nat) (s : ClientState) :
    noted (applyScreenResize newW newH s) = noted s := by
  have hsized : noted (updateWindow rootWindow (sizeRoot newW newH)
      { s with screenWidth := newW, screenHeight := newH }) = noted s := by
    apply noted_updateWindow
    intro win
    rfl
  refine Eq.trans ?_ hsized
  apply noted_updateWindow
  intro win
  rfl

theorem applyScreenResize_keys (newW newH : Nat) (s : ClientState) :
    (applyScreenResize newW newH s).windows.keys = s.windows.keys :=
  (keys_updateWindow _ _).trans
    (keys_updateWindow (w := rootWindow) _ { s with screenWidth := newW, screenHeight := newH })

theorem rootArea_applyScreenResize (hroot : rootWindow ∈ s.windows) (newW newH : UInt16) :
    rootArea (applyScreenResize newW.toNat newH.toNat s) = some [0, 0, (newW.toNat : Int), (newH.toNat : Int)] := by
  have hwd := newW.toNat_lt
  have hht := newH.toNat_lt
  rw [applyScreenResize, rootArea_updateWindow _ (fun win => lookup_insert _)]
  · rw [readArea_cardinals]
    · rfl
    · intro n hn
      simp only [mem_cons, not_mem_nil, or_false] at hn
      omega
  · exact (mem_modify rootWindow rootWindow _ s.windows).mpr hroot

theorem Sound.screenResize_iff (h : Sound d) (newW newH : UInt16) :
    Exact atoms d (.screenResize newW newH) ↔ Allowed atoms d (.screenResize newW newH) := by
  rw [Exact, Allowed, deskStep, recalculates, screenSizeChanged]
  simp only [some.injEq, forall_eq', false_imp_iff, and_true]
  split
  · next hchgd =>
    rw [Desk.Current, rootArea_applyScreenResize h.root, applyScreenResize_keys, some.injEq, eq_comm]
    exact ⟨fun hsame _ => hsame, fun hsame => hsame hchgd⟩
  · next hkept => exact iff_of_true h.current fun hchgd => absurd hchgd hkept

theorem destroyOne_screen (s : ClientState) (w : XId) :
    (destroyOne s w).screenWidth = s.screenWidth ∧ (destroyOne s w).screenHeight = s.screenHeight := by
  rw [destroyOne, detachUuid, recycleXid]
  split <;> split <;> exact ⟨rfl, rfl⟩

theorem foldl_destroyOne_screen (ds : List XId) (s : ClientState) :
    (ds.foldl destroyOne s).screenWidth = s.screenWidth ∧
      (ds.foldl destroyOne s).screenHeight = s.screenHeight := by
  induction ds generalizing s with
  | nil => exact ⟨rfl, rfl⟩
  | cons d ds ih =>
    obtain ⟨hwd, hht⟩ := destroyOne_screen s d
    rw [foldl_cons, (ih _).1, (ih _).2, hwd, hht]
    exact ⟨rfl, rfl⟩

theorem taken_of_sameTree (h : SameTree s s') (fuel : Nat) (w : XId) : taken fuel w s' = taken fuel w s := by
  rw [taken, taken, childrenOf_eq, childrenOf_eq, h.links]

structure Cleared (ds : List XId) (s s' : ClientState) : Prop where
  windows : ∀ v, (s'.windows.lookup v).map deskOf = if v ∈ ds then none else (s.windows.lookup v).map deskOf
  screen : s'.screenWidth = s.screenWidth ∧ s'.screenHeight = s.screenHeight

theorem handleDestroyWindow_cleared {fuel : Nat} {win : WindowState} {r : Response}
    (hwin : s.windows.lookup w = some win) (h : handleDestroyWindow fuel w s = some (s', r)) :
    ∃ ds b, taken fuel w s = some ds ∧ Cleared (w :: ds) s b ∧
      s' = if win.strut.isSome then recalculateWorkarea b else b := by
  rw [handleDestroyWindow] at h
  simp only [hwin] at h
  have htkn := taken_of_sameTree (revertFocusFrom_sameTree w s) fuel w
  rw [taken] at htkn
  cases hcol : collect (childrenOf (revertFocusFrom w s).windows) fuel
      (childrenOf (revertFocusFrom w s).windows w).reverse [] with
  | none => simp [hcol] at h
  | some ds =>
    simp only [hcol, some.injEq, Prod.mk.injEq] at h
    set s₂ := ds.foldl (fun s d => revertFocusFrom d s) (revertFocusFrom w s) with hs₂
    set s₃ := ds.reverse.foldl destroyOne s₂ with hs₃
    set s₄ := updateWindow win.parent (unlistChild w) s₃ with hs₄
    have hbef : SameDesk s s₂ := (revertFocusFrom_sameDesk w s).trans (foldl_revertFocusFrom_sameDesk ds _)
    have hlist := updateNetClientList_sameDesk (destroyOne s₄ w)
    obtain ⟨hwidth₃, hheight₃⟩ := foldl_destroyOne_screen ds.reverse s₂
    obtain ⟨hwidth₅, hheight₅⟩ := destroyOne_screen s₄ w
    refine ⟨ds, updateNetClientList (destroyOne s₄ w), htkn ▸ hcol, ⟨fun v => ?_, ?_, ?_⟩, h.1.symm⟩
    · rw [hlist.windows, (destroyOne_fields s₄ w).1, lookup_erase_eq]
      by_cases hv : v = w
      · rw [if_pos hv, if_pos (hv ▸ mem_cons_self)]
        rfl
      · have hunlist := lookup_modify_map deskOf win.parent v (unlistChild w) s₃.windows (fun _ => rfl)
        rw [if_neg hv]
        refine hunlist.trans ?_
        rw [(foldl_destroyOne_fields ds.reverse s₂).1, lookup_eraseAll]
        simp only [mem_reverse, mem_cons, hv, false_or]
        split
        · rfl
        · exact hbef.windows v
    · exact hlist.screen.1.trans (hwidth₅.trans (hwidth₃.trans hbef.screen.1))
    · exact hlist.screen.2.trans (hheight₅.trans (hheight₃.trans hbef.screen.2))

section Cleared

variable {ds : List XId}

theorem Cleared.noted (h : Cleared ds s s') (v : XId) :
    noted s' v = if v ∈ ds then none else WorkArea.noted s v := by
  have hv := congrArg (fun o => o.bind (fun e : Option Strut × Option PropertyValue => e.1)) (h.windows v)
  simp only [bind_map] at hv
  refine hv.trans ?_
  split
  · rfl
  · exact bind_map

theorem Cleared.mem_iff (h : Cleared ds s s') (v : XId) : v ∈ s'.windows ↔ v ∈ s.windows ∧ v ∉ ds := by
  have hv := congrArg Option.isSome (h.windows v)
  rw [isSome_map] at hv
  rw [← lookup_isSome, ← lookup_isSome, hv]
  by_cases hmem : v ∈ ds
  · simp [hmem]
  · simp [hmem]

theorem Cleared.keys (h : Cleared ds s s') : s'.windows.keys = s.windows.keys \ ds.toFinset := by
  ext v
  rw [Finmap.mem_keys, h.mem_iff, Finset.mem_sdiff, Finmap.mem_keys, List.mem_toFinset]

theorem Cleared.rootArea (h : Cleared ds s s') (hroot : rootWindow ∉ ds) :
    rootArea s' = WorkArea.rootArea s := by
  have hv := h.windows rootWindow
  rw [if_neg hroot] at hv
  have harea := congrArg (fun o => o.bind (fun e : Option Strut × Option PropertyValue => e.2)) hv
  simp only [bind_map] at harea
  exact congrArg (fun o => o.bind readArea) harea

theorem Cleared.bounded (h : Cleared ds s s') (hbdd : Bounded (WorkArea.noted s)) : Bounded (WorkArea.noted s') := by
  intro v strut hv
  rw [h.noted] at hv
  split at hv
  · cases hv
  · exact hbdd v strut hv

end Cleared

theorem inForce_of_mem {given : XId → List (StrutProperty × Strut)} (hv : v ∈ s'.windows) :
    inForce (fun v => if v ∈ s'.windows then given v else []) v = inForce given v := by
  rw [inForce, if_pos hv, inForce]

theorem taken_eq_none {fuel : Nat} (hmem : w ∈ s.windows) (hdst : handleDestroyWindow fuel w s = none) :
    taken fuel w s = none := by
  obtain ⟨win, hwin⟩ := mem_iff.mp hmem
  have htkn := taken_of_sameTree (revertFocusFrom_sameTree w s) fuel w
  rw [taken] at htkn
  simp only [handleDestroyWindow, hwin] at hdst
  rw [← htkn]
  split at hdst
  · next hcol => exact hcol
  · cases hdst

theorem Cleared.not_current {ds : List XId} (h : Cleared ds s s') (hroot : rootWindow ∈ ds)
    (given : XId → List (StrutProperty × Strut)) (recalculated : Bool) :
    ¬ Desk.Current ⟨if recalculated then recalculateWorkarea s' else s', given⟩ := by
  intro hcur
  have hthere := root_of_area hcur
  have hgone : rootWindow ∉ s'.windows := fun hs' => ((h.mem_iff _).mp hs').2 hroot
  dsimp only at hthere
  split at hthere
  · exact hgone ((mem_modify rootWindow rootWindow _ s'.windows).mp hthere)
  · exact hgone hthere

theorem Cleared.recalculated_iff {ds : List XId} (h : Cleared ds d.client s') (hsound : Sound d)
    (hroot : rootWindow ∉ ds) :
    Desk.Current ⟨recalculateWorkarea s', fun v => if v ∈ (recalculateWorkarea s').windows then d.given v else []⟩ ∧
        Fits (WorkArea.noted (recalculateWorkarea s')) (recalculateWorkarea s').windows.keys ↔
      Settles s'.screenWidth s'.screenHeight (WorkArea.noted d.client) (inForce d.given) s'.windows.keys := by
  have hthere : rootWindow ∈ s'.windows := (h.mem_iff _).mpr ⟨hsound.root, hroot⟩
  have hntd : ∀ v ∈ s'.windows.keys, WorkArea.noted s' v = WorkArea.noted d.client v := by
    intro v hv
    rw [h.noted, if_neg ((h.mem_iff v).mp (Finmap.mem_keys.mp hv)).2]
  have hkept : ∀ v ∈ s'.windows.keys, inForce (fun v =>
      if v ∈ (recalculateWorkarea s').windows then d.given v else []) v = inForce d.given v := by
    intro v hv
    apply inForce_of_mem
    rw [← Finmap.mem_keys, recalculateWorkarea_keys]
    exact hv
  have hiff := WorkArea.recalculated_iff (fun v =>
    if v ∈ (recalculateWorkarea s').windows then d.given v else []) hthere (h.bounded hsound.bounded)
    (h.screen.1 ▸ h.screen.2 ▸ hsound.screen) (.refl _)
  rw [Settles.congr hntd hkept] at hiff
  exact hiff

theorem Cleared.current_iff {ds : List XId} (h : Cleared ds d.client s') (hcur : d.Current)
    (hroot : rootWindow ∉ ds) :
    Desk.Current ⟨s', fun v => if v ∈ s'.windows then d.given v else []⟩ ↔
      workArea s'.screenWidth s'.screenHeight (inForce d.given) s'.windows.keys =
        workArea s'.screenWidth s'.screenHeight (inForce d.given) d.client.windows.keys := by
  have hkept : ∀ v ∈ s'.windows.keys, inForce (fun v =>
      if v ∈ s'.windows then d.given v else []) v = inForce d.given v :=
    fun v hv => inForce_of_mem (Finmap.mem_keys.mp hv)
  rw [Desk.Current, ← h.screen.1, ← h.screen.2] at hcur
  rw [Desk.Current, h.rootArea hroot, hcur, workArea_congr _ _ hkept, some.injEq, eq_comm]

theorem Sound.destroyAbsent (h : Sound d) (hmem : w ∉ d.client.windows) (fuel : Nat) :
    Exact atoms d (.destroyWindow fuel w) := by
  have hwin : d.client.windows.lookup w = none := lookup_eq_none.mpr hmem
  have hkept : ∀ v ∈ d.client.windows.keys,
      inForce d.given v = inForce (fun v => if v ∈ d.client.windows then d.given v else []) v :=
    fun v hv => (inForce_of_mem (Finmap.mem_keys.mp hv)).symm
  simp only [Exact, deskStep, recalculates, handleDestroyWindow, hwin, map_some, some.injEq, forall_eq',
    noted, bind_none, isSome_none, Bool.false_eq_true, false_imp_iff, and_true]
  rw [Desk.Current, ← workArea_congr _ _ hkept]
  exact h.current

theorem Sound.destroyWindow_iff (h : Sound d) (fuel : Nat) (w : XId) :
    Exact atoms d (.destroyWindow fuel w) ↔ Allowed atoms d (.destroyWindow fuel w) := by
  by_cases hmem : w ∈ d.client.windows
  · obtain ⟨win, hwin⟩ := mem_iff.mp hmem
    have hstrut : noted d.client w = win.strut := by
      rw [noted, hwin]
      rfl
    rw [Exact, Allowed, deskStep, recalculates]
    cases hdst : handleDestroyWindow fuel w d.client with
    | none => simp [taken_eq_none hmem hdst]
    | some after =>
      obtain ⟨s', r⟩ := after
      obtain ⟨ds, b, htkn, hcleared, rfl⟩ := handleDestroyWindow_cleared hwin hdst
      simp only [map_some, some.injEq, forall_eq', hmem, htkn, forall_const, hstrut]
      by_cases hroot : rootWindow ∈ w :: ds
      · exact iff_of_false (fun hcur => hcleared.not_current hroot _ _ hcur.1) fun hallowed => hallowed.1 hroot
      · rw [← hcleared.keys, ← hcleared.screen.1, ← hcleared.screen.2]
        simp only [hroot, not_false_eq_true, true_and]
        cases win.strut.isSome with
        | true => simpa only [if_true, forall_const] using hcleared.recalculated_iff h hroot
        | false =>
          simpa only [Bool.false_eq_true, if_false, false_imp_iff, and_true] using
            hcleared.current_iff h.current hroot
  · exact iff_of_true (h.destroyAbsent hmem fuel) fun hthere => absurd hthere hmem

theorem Sound.step_iff (h : Sound d) (a : DeskAction) : Exact atoms d a ↔ Allowed atoms d a := by
  cases a with
  | changeStrut req => exact h.changeStrut_iff req
  | deleteStrut w p => exact h.deleteStrut_iff w p
  | destroyWindow fuel w => exact h.destroyWindow_iff fuel w
  | screenResize newW newH => exact h.screenResize_iff newW newH

/-- The struts noted are ones that requests can carry, and 16 bits hold the screen's size. -/
def SizesBounded (s : ClientState) : Prop :=
  Bounded (noted s) ∧ s.screenWidth < 65536 ∧ s.screenHeight < 65536

theorem SameDesk.sizesBounded (h : SameDesk s s') (hbdd : SizesBounded s) : SizesBounded s' := by
  rw [SizesBounded, h.noted, h.screen.1, h.screen.2]
  exact hbdd

theorem SizesBounded.recalculateWorkarea (h : SizesBounded s) : SizesBounded (recalculateWorkarea s) := by
  rw [SizesBounded, recalculateWorkarea_noted]
  exact h

theorem SizesBounded.changeStrut (h : SizesBounded s) (req : StrutRequest) :
    SizesBounded (handleChangeProperty atoms req.request s).1 := by
  cases herr : changePropertyError atoms req.request s with
  | some error =>
    rw [handleChangeProperty_failed _ (by simp [herr])]
    exact h
  | none =>
    obtain ⟨b, hntd, -, hwd, hht, hsame⟩ := changeStrut_recalculates req herr
    have hb : SizesBounded b := by
      rw [SizesBounded, hntd, hwd, hht]
      exact ⟨h.1.update (req.strut_bounded _) req.window, h.2⟩
    exact hsame.sizesBounded hb.recalculateWorkarea

theorem SizesBounded.destroyWindow (h : SizesBounded s) {fuel : Nat} {r : Response}
    (hdst : handleDestroyWindow fuel w s = some (s', r)) : SizesBounded s' := by
  cases hwin : s.windows.lookup w with
  | none =>
    simp only [handleDestroyWindow, hwin, some.injEq, Prod.mk.injEq] at hdst
    exact hdst.1 ▸ h
  | some win =>
    obtain ⟨ds, b, -, hcleared, rfl⟩ := handleDestroyWindow_cleared hwin hdst
    have hb : SizesBounded b :=
      ⟨hcleared.bounded h.1, hcleared.screen.1 ▸ h.2.1, hcleared.screen.2 ▸ h.2.2⟩
    split
    · exact hb.recalculateWorkarea
    · exact hb

theorem SizesBounded.screenSizeChanged (h : SizesBounded s) (newW newH : UInt16) :
    SizesBounded (screenSizeChanged newW newH s) := by
  rw [WorkArea.screenSizeChanged]
  split
  · rw [SizesBounded, applyScreenResize_noted]
    exact ⟨h.1, newW.toNat_lt, newH.toNat_lt⟩
  · exact h

theorem deskStep_changeStrut {req : StrutRequest} (hstep : deskStep atoms d (.changeStrut req) = some d') :
    d'.client = (handleChangeProperty atoms req.request d.client).1 := by
  rw [deskStep] at hstep
  split at hstep
  · next heq =>
    cases hstep
    rw [heq]
  · next heq =>
    cases hstep
    rw [heq]

theorem deskStep_deleteStrut {p : StrutProperty} (hstep : deskStep atoms d (.deleteStrut w p) = some d') :
    d'.client = (handleDeleteProperty atoms w p.atom d.client).1 := by
  rw [deskStep] at hstep
  split at hstep
  · next heq =>
    cases hstep
    rw [heq]
  · next heq =>
    cases hstep
    rw [heq]

theorem deskStep_sizesBounded (h : SizesBounded d.client) (a : DeskAction)
    (hstep : deskStep atoms d a = some d') : SizesBounded d'.client := by
  cases a with
  | changeStrut req =>
    rw [deskStep_changeStrut hstep]
    exact h.changeStrut req
  | deleteStrut w p =>
    rw [deskStep_deleteStrut hstep]
    exact (handleDeleteProperty_sameDesk atoms p.atom_ne w d.client).sizesBounded h
  | destroyWindow fuel w =>
    rw [deskStep] at hstep
    obtain ⟨⟨s', r⟩, hdst, rfl⟩ := map_eq_some_iff.mp hstep
    exact h.destroyWindow hdst
  | screenResize newW newH =>
    cases hstep
    exact h.screenSizeChanged newW newH

theorem Sound.step (h : Sound d) {a : DeskAction} (hexact : Exact atoms d a)
    (hstep : deskStep atoms d a = some d') : Sound d' := by
  obtain ⟨hbdd, hscr⟩ := deskStep_sizesBounded ⟨h.bounded, h.screen⟩ a hstep
  exact ⟨(hexact d' hstep).1, hbdd, hscr⟩

theorem workArea_none (width height : Nat) (h : ∀ w ∈ ws, struts w = none) :
    workArea width height struts ws = [0, 0, (width : Int), (height : Int)] := by
  have hrch : ∀ edge, reach edge struts ws = 0 := by
    intro edge
    apply Nat.le_zero.mp
    apply Finset.sup_le
    intro w hw
    rw [h w hw]
    exact Nat.le_refl 0
  simp [workArea, hrch]

theorem Clear.sound (h : Clear s) : Sound ⟨s, fun _ => []⟩ := by
  refine ⟨?_, fun w strut hw => ?_, h.screen⟩
  · have hnone : ∀ w ∈ s.windows.keys, inForce (fun _ => []) w = none := fun _ _ => rfl
    exact h.area.trans (congrArg some (workArea_none _ _ hnone).symm)
  · rw [h.noted] at hw
    cases hw

/-- One action after another; a DestroyWindow that does not come to its end leads nowhere. -/
def deskRun (atoms : AtomNames) (o : Option Desk) (a : DeskAction) : Option Desk :=
  o.bind (fun d => deskStep atoms d a)

/-- Every action leaves the work area current exactly if every one is allowed. -/
theorem workArea_current_iff (atoms : AtomNames) (h : Clear s) (as : List DeskAction) :
    (∀ bs a, bs ++ [a] <+: as → ∀ d, bs.foldl (deskRun atoms) (some ⟨s, fun _ => []⟩) = some d → Exact atoms d a) ↔
      ∀ bs a, bs ++ [a] <+: as → ∀ d, bs.foldl (deskRun atoms) (some ⟨s, fun _ => []⟩) = some d → Allowed atoms d a := by
  refine foldl_steps_iff (I := fun o : Option Desk => ∀ d, o = some d → Sound d)
    (Q := fun o a => ∀ d, o = some d → Exact atoms d a) (C := fun o a => ∀ d, o = some d → Allowed atoms d a)
    (fun o a hsound hexact d' hd' => ?_) (fun o a hsound => ?_) (fun d hd => ?_) as
  · obtain ⟨d, rfl, hstep⟩ := bind_eq_some_iff.mp hd'
    exact (hsound d rfl).step (hexact d rfl) hstep
  · exact forall_congr' fun d => forall_congr' fun hd => (hsound d hd).step_iff a
  · cases hd
    exact h.sound

instance (d : Desk) : Decidable d.Current :=
  inferInstanceAs (Decidable (_ = _))

instance (struts : XId → Option Strut) (ws : Finset XId) : Decidable (Fits struts ws) :=
  inferInstanceAs (Decidable (_ ∧ _))

instance (width height : Nat) (noted given : XId → Option Strut) (ws : Finset XId) :
    Decidable (Settles width height noted given ws) :=
  inferInstanceAs (Decidable (_ ∧ _))

def strutNames : AtomNames
  | 6 => some "CARDINAL"
  | 129 => some "_NET_WM_STRUT"
  | 130 => some "_NET_WM_STRUT_PARTIAL"
  | _ => none

/-- A client with one window, on a screen whose work area is all of it. -/
def panelClient : ClientState :=
  (handleCreateWindow (Links.createPlain 0x400001 rootWindow) (acceptClient 1 false 0 0 [] (initialShared
    (fun w => if w = rootWindow then Finmap.singleton Predef.netWorkarea (cardinals [0, 0, 1024, 768]) else ∅) ∅))).1

def panelStrut : StrutRequest where
  mode := .replace
  window := 0x400001
  property := .netWmStrut
  propType := Predef.cardinal
  data := [10, 0, 0, 0].flatMap toLeBytes32
  words := Nat.le_refl 16

theorem panelClient_clear : Clear panelClient := by
  refine ⟨by decide +kernel, fun w => ?_, by decide +kernel⟩
  by_cases hw : w ∈ panelClient.windows
  · have hall : ∀ w ∈ panelClient.windows.keys, noted panelClient w = none := by decide +kernel
    exact hall w (Finmap.mem_keys.mpr hw)
  · rw [noted, lookup_eq_none.mpr hw]
    rfl

def panelDesk : Desk where
  client := (handleChangeProperty strutNames panelStrut.request panelClient).1
  given := give 0x400001 .netWmStrut (panelStrut.strut false) (fun _ => [])

theorem deskStep_panelStrut :
    deskStep strutNames ⟨panelClient, fun _ => []⟩ (.changeStrut panelStrut) = some panelDesk := by
  have hok : (handleChangeProperty strutNames panelStrut.request panelClient).2 = .ok := by decide +kernel
  rw [deskStep, ← Prod.eta (handleChangeProperty strutNames panelStrut.request panelClient), hok]
  rfl

theorem workArea_current_panel :
    Clear panelClient ∧ ∀ bs a, bs ++ [a] <+: [.changeStrut panelStrut, .destroyWindow 5 0x400001] →
      ∀ d, bs.foldl (deskRun strutNames) (some ⟨panelClient, fun _ => []⟩) = some d → Exact strutNames d a := by
  refine ⟨panelClient_clear, (workArea_current_iff strutNames panelClient_clear _).mpr ?_⟩
  rw [forall_prefix_cons, forall_prefix_cons]
  refine ⟨?_, ?_, forall_prefix_nil⟩
  · rintro d ⟨⟩ -
    decide +kernel
  · intro d hd
    obtain rfl : panelDesk = d := some.inj (deskStep_panelStrut.symm.trans hd)
    intro _ ds hds
    obtain rfl : [] = ds := some.inj (Eq.trans (by decide +kernel) hds)
    refine ⟨by decide, ?_⟩
    rw [if_pos (by decide +kernel)]
    decide +kernel

theorem resize_ignores_struts :
    Clear panelClient ∧ ∃ d, [.changeStrut panelStrut, .screenResize 1920 1080].foldl (deskRun strutNames)
      (some ⟨panelClient, fun _ => []⟩) = some d ∧ ¬ d.Current := by
  refine ⟨panelClient_clear, ⟨screenSizeChanged 1920 1080 panelDesk.client, panelDesk.given⟩, ?_, by decide +kernel⟩
  rw [foldl_cons, deskRun, bind_some, deskStep_panelStrut]
  rfl

end X11Web.WorkArea
