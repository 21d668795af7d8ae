import X11Web.Copying
import X11Web.ImagePixels
import X11Web.Runs
import X11Web.SyncWindows
import Mathlib.Logic.Relation

namespace X11Web.Compositing

open HashMaps Windows WindowTree SyncWindows Runs List Option
open Overwrites Pixels DirtyMirror ImagePixels Copying

structure PaintedWindow extends WindowState where
  clipShape : Option (List ClipRect)
  boundingShape : Option (List ClipRect)
  framebuffer : Framebuffer

abbrev PaintedWindows := HashMap XId PaintedWindow

structure FlushState where
  clientId : ClientId
  windows : PaintedWindows
  x11ToUuid : HashMap XId Uuid
  updates : List (ClientId × Uuid × DirtyPixels)

def editFramebuffer (w : XId) (f : Framebuffer → Framebuffer) (ws : PaintedWindows) : PaintedWindows :=
  modify w (fun win => { win with framebuffer := f win.framebuffer }) ws

def clearDirty (fb : Framebuffer) : Framebuffer := { fb with dirty := none }

/-- A mapped, dirty window below a child of the root window. -/
def isDirtyChild (win : PaintedWindow) : Bool :=
  win.mapped && win.framebuffer.dirty.isSome && (win.parent != rootWindow && win.parent != 0) &&
    win.winClass == inputOutput

structure ChildWindow where
  id : XId
  width : UInt16
  height : UInt16
  redirected : Bool

def childWindow (win : PaintedWindow) : ChildWindow :=
  ⟨win.id, UInt16.ofNat win.width, UInt16.ofNat win.height, win.redirected⟩

def dirtyChildren (order : List XId) (ws : PaintedWindows) : List ChildWindow :=
  order.filterMap (fun k => ((ws.lookup k).filter isDirtyChild).map childWindow)

/-- Climb to the top-level window, adding up the offsets. -/
def climb (ws : PaintedWindows) : Nat → XId → Int → Int → XId × Int × Int
  | 0, target, x, y => (target, x, y)
  | n + 1, target, x, y =>
    match ws.lookup target with
    | some w =>
      if w.parent ≠ rootWindow ∧ w.parent ≠ 0 then climb ws n w.parent (x + w.x) (y + w.y)
      else (target, x, y)
    | none => (target, x, y)

def target (ws : PaintedWindows) (c : XId) : XId × Int × Int := climb ws maxTreeDepth c 0 0

/-- Put a window's pixels on the place that it climbs to. -/
def drawChild (c : ChildWindow) (place : XId × Int × Int) (ws : PaintedWindows) : PaintedWindows :=
  match ws.lookup c.id with
  | none => ws
  | some child =>
    let pixels := child.framebuffer.extractPixels 0 0 c.width c.height
    editFramebuffer place.1
      (·.putImage (Int16.ofInt place.2.1) (Int16.ofInt place.2.2) c.width c.height pixels) ws

def compositeChild (ws : PaintedWindows) (c : ChildWindow) : PaintedWindows :=
  if c.redirected then editFramebuffer c.id clearDirty ws
  else
    let place := target ws c.id
    if place.1 = c.id then ws else editFramebuffer c.id clearDirty (drawChild c place ws)

def compositeChildren (order : List XId) (ws : PaintedWindows) : PaintedWindows :=
  (dirtyChildren order ws).foldl compositeChild ws

def pointInShape (shape : List ClipRect) (x y : Int16) : Bool :=
  shape.any (fun r => r.x ≤ x ∧ x < r.x + r.width.toInt16 ∧ r.y ≤ y ∧ y < r.y + r.height.toInt16)

def effectiveRenderShape (win : PaintedWindow) : Option (List ClipRect) :=
  win.clipShape.or win.boundingShape

def maskShape (shape : List ClipRect) (p : DirtyPixels) : Bytes :=
  (List.range p.height.toInt16.toInt.toNat).foldl (fun pixels py =>
    (List.range p.width.toInt16.toInt.toNat).foldl (fun pixels px =>
      let offset := (py * p.width.toNat + px) * 4
      if pointInShape shape (p.x + Int16.ofNat px) (p.y + Int16.ofNat py) = false ∧
          offset + 4 ≤ pixels.length then
        overwrite pixels offset [0, 0, 0, 0]
      else pixels) pixels) p.pixels

def isDirtyTopLevel (win : PaintedWindow) : Bool :=
  win.mapped && win.framebuffer.dirty.isSome && win.parent == rootWindow && win.winClass == inputOutput

/-- Send a top-level window's dirty pixels to the frontend. -/
def flushTopLevel (s : FlushState) (w : XId) : FlushState :=
  match s.x11ToUuid.lookup w with
  | none => s
  | some uuid =>
    match s.windows.lookup w with
    | none => s
    | some win =>
      let ws := editFramebuffer w (fun fb => fb.takeDirtyPixels.2) s.windows
      match win.framebuffer.takeDirtyPixels.1 with
      | none => { s with windows := ws }
      | some p =>
        let pixels := (effectiveRenderShape win).elim p.pixels (fun shape => maskShape shape p)
        { s with
          windows := ws
          updates := s.updates ++ [(win.ownerClientId.getD s.clientId, uuid, { p with pixels := pixels })] }

def flushDirtyWindows (order : List XId) (s : FlushState) : FlushState :=
  let ws := compositeChildren order s.windows
  (order.filter (fun k => (ws.lookup k).any isDirtyTopLevel)).foldl flushTopLevel { s with windows := ws }

def shown (ws : PaintedWindows) (w : XId) (z : Nat × Nat) : Bytes :=
  (ws.lookup w).elim [] (fun win => copiedPixel win.framebuffer z.1 z.2)

/-- The point of a child that is put on a point of another window, at an offset. -/
def sourcePoint (child ancestor : PaintedWindow) (offset : Int × Int) (z : Nat × Nat) : Option (Nat × Nat) :=
  let x := Int16.ofInt offset.1
  let y := Int16.ofInt offset.2
  if (z.1 < ancestor.framebuffer.width ∧ z.2 < ancestor.framebuffer.height) ∧
      OnImage x y (UInt16.ofNat child.width) (UInt16.ofNat child.height) z.1 z.2 then
    some ((z.1 - x.toInt).toNat, (z.2 - y.toInt).toNat)
  else none

def compositing (ws : PaintedWindows) : Copier XId (Nat × Nat) where
  dest c := if (target ws c).1 = c then none else some (target ws c).1
  source c z := (ws.lookup c).bind (fun child => (ws.lookup (target ws c).1).bind (fun ancestor =>
    sourcePoint child ancestor (target ws c).2 z))

/-- The windows whose pixels are composited: mapped, dirty and not redirected. -/
def isComposited (win : PaintedWindow) : Bool := isDirtyChild win && !win.redirected

def composited (ws : PaintedWindows) : Set XId := {c | ∃ win, ws.lookup c = some win ∧ isComposited win = true}

/-- The composited window `c` overwrites the pixel `z` of `t` with its pixel `y`. -/
def Draws (ws : PaintedWindows) (t : XId) (z : Nat × Nat) (c : XId) (y : Nat × Nat) : Prop :=
  Covers (compositing ws) (composited ws) t z c y

/-- The colours that the composited windows may leave on a pixel: their own, and what
is composited onto them. -/
def MayShow (ws : PaintedWindows) (t : XId) (z : Nat × Nat) (colour : Bytes) : Prop :=
  Brings (compositing ws) (shown ws) (composited ws) t z colour

def InRect (win : PaintedWindow) (x y : Int) : Prop := (0 ≤ x ∧ x < win.width) ∧ (0 ≤ y ∧ y < win.height)

/-- A point of a window, in the window's own coordinates, is in the rectangles of its
ancestors up to `t`. -/
inductive InAncestors (ws : PaintedWindows) (t : XId) : XId → Int → Int → Prop
  | last {c : XId} {win top : PaintedWindow} {x y : Int} : ws.lookup c = some win → win.parent = t →
      ws.lookup t = some top → InRect top (x + win.x) (y + win.y) → InAncestors ws t c x y
  | up {c : XId} {win parent : PaintedWindow} {x y : Int} : ws.lookup c = some win →
      ws.lookup win.parent = some parent → InRect parent (x + win.x) (y + win.y) →
      InAncestors ws t win.parent (x + win.x) (y + win.y) → InAncestors ws t c x y

/-- The pixel `z` of `t` is in the rectangles of all ancestors of `c`. -/
def Inside (ws : PaintedWindows) (t : XId) (z : Nat × Nat) (c : XId) : Prop :=
  InAncestors ws t c (z.1 - (target ws c).2.1) (z.2 - (target ws c).2.2)

def ChildOf (ws : PaintedWindows) (c p : XId) : Prop := ∃ win, ws.lookup c = some win ∧ win.parent = p

/-- Stacking: a window is above its ancestors, and what is below a later sibling is
above what is below an earlier one. -/
inductive Above (ws : PaintedWindows) : XId → XId → Prop
  | descendant {c d : XId} : Relation.TransGen (ChildOf ws) c d → Above ws c d
  | sibling {c d a b p : XId} {win : PaintedWindow} : ws.lookup p = some win →
      Before b a win.childrenOrder → Relation.ReflTransGen (ChildOf ws) c a →
      Relation.ReflTransGen (ChildOf ws) d b → Above ws c d

def TopLevel (ws : PaintedWindows) (t : XId) : Prop :=
  ∃ win, ws.lookup t = some win ∧ win.mapped = true ∧ win.parent = rootWindow

/-- The pixels after a flush respect the stacking of the windows. -/
structure RespectsStacking (s : FlushState) : Prop where
  orderFree : ∀ order order', Enumerates order s.windows → Enumerates order' s.windows →
    ∀ t, TopLevel s.windows t → ∀ z,
      shown (flushDirtyWindows order s).windows t z = shown (flushDirtyWindows order' s).windows t z
  topmost : ∀ order, Enumerates order s.windows → ∀ t, TopLevel s.windows t → ∀ z c y,
    Draws s.windows t z c y → Inside s.windows t z c →
    (∀ d x, Draws s.windows t z d x → Inside s.windows t z d → ¬ Above s.windows d c) →
      shown (flushDirtyWindows order s).windows t z = shown s.windows c y
  clipped : ∀ order, Enumerates order s.windows → ∀ t, TopLevel s.windows t → ∀ z,
    (∀ c y, Draws s.windows t z c y → ¬ Inside s.windows t z c) →
      shown (flushDirtyWindows order s).windows t z = shown s.windows t z

/-- On every pixel all colours agree, and a window that reaches out of its ancestors
meets one that does not, or the colour that is there. -/
structure ColoursAgree (ws : PaintedWindows) : Prop where
  same : ∀ t, TopLevel ws t → ∀ z colour colour', MayShow ws t z colour → MayShow ws t z colour' →
    colour = colour'
  outside : ∀ t, TopLevel ws t → ∀ z c y, Draws ws t z c y → ¬ Inside ws t z c →
    (∃ d x, Draws ws t z d x ∧ Inside ws t z d) ∨ shown ws c y = shown ws t z

/-- Windows stand under their identifiers, and their pixels fill their rows. -/
structure WellKept (ws : PaintedWindows) : Prop where
  ids : ∀ w win, ws.lookup w = some win → win.id = w
  wellFormed : ∀ w win, ws.lookup w = some win → WellFormed win.framebuffer

def shell (win : PaintedWindow) : WindowState × Nat × Nat :=
  (win.toWindowState, win.framebuffer.width, win.framebuffer.height)

def SameShells (ws ws' : PaintedWindows) : Prop := ∀ w, (ws'.lookup w).map shell = (ws.lookup w).map shell

structure Desktop extends FlushState where
  kept : WellKept windows

variable {ws ws' ws'' : PaintedWindows} {w c t : XId} {win : PaintedWindow} {order : List XId}

theorem SameShells.refl (ws : PaintedWindows) : SameShells ws ws := fun _ => rfl

theorem SameShells.trans (h : SameShells ws ws') (h' : SameShells ws' ws'') : SameShells ws ws'' :=
  fun w => (h' w).trans (h w)

theorem SameShells.lookup (h : SameShells ws ws') (hwin : ws.lookup w = some win) :
    ∃ win', ws'.lookup w = some win' ∧ shell win' = shell win := by
  have hw := h w
  rw [hwin, map_some] at hw
  exact map_eq_some_iff.mp hw

theorem SameShells.lookup_none (h : SameShells ws ws') (hwin : ws.lookup w = none) : ws'.lookup w = none := by
  have hw := h w
  rw [hwin, map_none, map_eq_none_iff] at hw
  exact hw

theorem climb_congr (h : SameShells ws ws') (n : Nat) (c : XId) (x y : Int) :
    climb ws' n c x y = climb ws n c x y := by
  induction n generalizing c x y with
  | zero => rfl
  | succ n ih =>
    rw [climb, climb]
    cases hwin : ws.lookup c with
    | none => rw [h.lookup_none hwin]
    | some win =>
      obtain ⟨win', hwin', hshell⟩ := h.lookup hwin
      have hst : win'.toWindowState = win.toWindowState := congrArg Prod.fst hshell
      rw [hwin']
      simp only [hst, ih]

theorem sourcePoint_congr {child child' ancestor ancestor' : PaintedWindow} (hch : shell child' = shell child)
    (hanc : shell ancestor' = shell ancestor) :
    sourcePoint child' ancestor' = sourcePoint child ancestor := by
  have hst : child'.toWindowState = child.toWindowState := congrArg Prod.fst hch
  have hwd : ancestor'.framebuffer.width = ancestor.framebuffer.width :=
    congrArg (fun sh => sh.2.1) hanc
  have hht : ancestor'.framebuffer.height = ancestor.framebuffer.height :=
    congrArg (fun sh => sh.2.2) hanc
  funext offset z
  simp only [sourcePoint, hst, hwd, hht]

theorem compositing_congr (h : SameShells ws ws') : compositing ws' = compositing ws := by
  have htgt : ∀ c, target ws' c = target ws c := fun c => climb_congr h _ _ _ _
  rw [compositing, compositing]
  congr 1
  · funext c
    rw [htgt]
  · funext c z
    rw [htgt]
    cases hch : ws.lookup c with
    | none => rw [h.lookup_none hch, bind_none, bind_none]
    | some child =>
      obtain ⟨child', hch', hshell⟩ := h.lookup hch
      rw [hch']
      cases hanc : ws.lookup (target ws c).1 with
      | none =>
        rw [h.lookup_none hanc, bind_some, bind_some, bind_none, bind_none]
      | some ancestor =>
        obtain ⟨ancestor', hanc', hshell'⟩ := h.lookup hanc
        rw [hanc', bind_some, bind_some, bind_some, bind_some,
          sourcePoint_congr hshell hshell']

theorem lookup_editFramebuffer (w v : XId) (f : Framebuffer → Framebuffer) (ws : PaintedWindows) :
    (editFramebuffer w f ws).lookup v =
      if v = w then (ws.lookup w).map (fun win => { win with framebuffer := f win.framebuffer })
      else ws.lookup v :=
  lookup_modify ..

structure SameSize (fb fb' : Framebuffer) : Prop where
  wellFormed : WellFormed fb'
  width : fb'.width = fb.width
  height : fb'.height = fb.height

theorem clearDirty_sameSize {fb : Framebuffer} (h : WellFormed fb) : SameSize fb (clearDirty fb) :=
  ⟨⟨h.stride, h.length, fun _ hd => nomatch hd⟩, rfl, rfl⟩

theorem editFramebuffer_kept {f : Framebuffer → Framebuffer} (h : WellKept ws)
    (hf : ∀ win, ws.lookup w = some win → SameSize win.framebuffer (f win.framebuffer)) :
    WellKept (editFramebuffer w f ws) ∧ SameShells ws (editFramebuffer w f ws) := by
  refine ⟨⟨fun v win' hv => ?_, fun v win' hv => ?_⟩, fun v => ?_⟩
  · rw [lookup_editFramebuffer] at hv
    split at hv
    · next heq =>
      obtain ⟨win, hwin, rfl⟩ := map_eq_some_iff.mp hv
      exact (h.ids w win hwin).trans heq.symm
    · exact h.ids v win' hv
  · rw [lookup_editFramebuffer] at hv
    split at hv
    · obtain ⟨win, hwin, rfl⟩ := map_eq_some_iff.mp hv
      exact (hf win hwin).wellFormed
    · exact h.wellFormed v win' hv
  · rw [lookup_editFramebuffer]
    split
    · next heq =>
      subst v
      cases hwin : ws.lookup w with
      | none => rfl
      | some win =>
        have hsize := hf win hwin
        simp [shell, hsize.width, hsize.height]
    · rfl

theorem shown_editFramebuffer (w v : XId) (f : Framebuffer → Framebuffer) (ws : PaintedWindows) (z : Nat × Nat) :
    shown (editFramebuffer w f ws) v z =
      if v = w then (ws.lookup w).elim [] (fun win => copiedPixel (f win.framebuffer) z.1 z.2)
      else shown ws v z := by
  rw [shown, lookup_editFramebuffer]
  split
  · cases ws.lookup w <;> rfl
  · rfl

theorem shown_editFramebuffer_same {f : Framebuffer → Framebuffer}
    (hf : ∀ fb col row, copiedPixel (f fb) col row = copiedPixel fb col row) (w : XId) (ws : PaintedWindows) :
    shown (editFramebuffer w f ws) = shown ws := by
  funext v z
  rw [shown_editFramebuffer]
  split
  · next h =>
    rw [h, shown]
    simp only [hf]
  · rfl

theorem shown_clearDirty (w : XId) (ws : PaintedWindows) : shown (editFramebuffer w clearDirty ws) = shown ws := by
  apply shown_editFramebuffer_same
  intro fb col row
  rfl

theorem clearDirty_kept (h : WellKept ws) (w : XId) :
    WellKept (editFramebuffer w clearDirty ws) ∧ SameShells ws (editFramebuffer w clearDirty ws) :=
  editFramebuffer_kept h fun win hwin => clearDirty_sameSize (h.wellFormed w win hwin)

theorem putImage_sameSize {fb : Framebuffer} (h : WellFormed fb) (x y : Int16) (width height : UInt16)
    (image : Bytes) : SameSize fb (fb.putImage x y width height image) :=
  have hdrw := putImage_draws h x y width height image
  ⟨hdrw.wellFormed, hdrw.width, hdrw.height⟩

theorem copiedPixel_putImage {fb child : Framebuffer} (h : WellFormed fb) (hch : WellFormed child)
    (x y : Int16) (width height : UInt16) (z : Nat × Nat) :
    copiedPixel (fb.putImage x y width height (child.extractPixels 0 0 width height)) z.1 z.2 =
      if (z.1 < fb.width ∧ z.2 < fb.height) ∧ OnImage x y width height z.1 z.2 then
        copiedPixel child (z.1 - x.toInt).toNat (z.2 - y.toInt).toNat
      else copiedPixel fb z.1 z.2 := by
  have hsize := putImage_sameSize h x y width height (child.extractPixels 0 0 width height)
  by_cases hin : z.1 < fb.width ∧ z.2 < fb.height
  · rw [copiedPixel, hsize.width, hsize.height, if_pos hin,
      pixelAt_putImage h length_extractPixels.ge hin.1 hin.2]
    by_cases hon : OnImage x y width height z.1 z.2
    · have hx := hon.2.1
      have hy := hon.2.2
      rw [if_pos hon, if_pos ⟨hin, hon⟩]
      exact imagePixel_extractPixels hch (by omega) (by omega)
    · rw [if_neg hon, if_neg (fun h => hon h.2), copiedPixel, if_pos hin]
  · rw [if_neg (fun h => hin h.1), copiedPixel, hsize.width, hsize.height, if_neg hin, copiedPixel,
      if_neg hin]

theorem drawChild_kept (h : WellKept ws) (c : ChildWindow) (place : XId × Int × Int) :
    WellKept (drawChild c place ws) ∧ SameShells ws (drawChild c place ws) := by
  rw [drawChild]
  cases ws.lookup c.id with
  | none => exact ⟨h, .refl ws⟩
  | some child =>
    exact editFramebuffer_kept h fun win hwin => putImage_sameSize (h.wellFormed _ win hwin) _ _ _ _ _

theorem shown_drawChild (h : WellKept ws) (hwin : ws.lookup c = some win) (hne : (target ws c).1 ≠ c) :
    shown (drawChild (childWindow win) (target ws c) ws) = copy (compositing ws) (shown ws) c := by
  obtain rfl := h.ids c win hwin
  have hdest : (compositing ws).dest win.id = some (target ws win.id).1 := if_neg hne
  rw [drawChild, childWindow]
  dsimp only
  rw [hwin]
  funext v z
  rw [shown_editFramebuffer]
  by_cases hv : v = (target ws win.id).1
  · rw [if_pos hv, hv, copy_apply_of_dest hdest]
    cases hanc : ws.lookup (target ws win.id).1 with
    | none => simp [compositing, hwin, hanc, shown]
    | some ancestor =>
      rw [elim_some, copiedPixel_putImage (h.wellFormed _ ancestor hanc) (h.wellFormed _ win hwin)]
      simp only [compositing, hwin, hanc, bind_some, sourcePoint]
      split
      · rw [elim_some, shown, hwin, elim_some]
      · rw [elim_none, shown, hanc, elim_some]
  · rw [if_neg hv, copy_of_dest_ne (by rw [hdest]; exact fun h => hv (some.inj h).symm)]

theorem compositeChild_sound (h : WellKept ws) (hwin : ws.lookup c = some win) :
    (WellKept (compositeChild ws (childWindow win)) ∧
      SameShells ws (compositeChild ws (childWindow win))) ∧
    shown (compositeChild ws (childWindow win)) =
      if win.redirected then shown ws else copy (compositing ws) (shown ws) c := by
  have hid : (childWindow win).id = c := h.ids c win hwin
  have hred : (childWindow win).redirected = win.redirected := rfl
  rw [compositeChild, hid, hred]
  cases win.redirected with
  | true => exact ⟨clearDirty_kept h c, shown_clearDirty c ws⟩
  | false =>
    simp only [Bool.false_eq_true, if_false]
    by_cases hself : (target ws c).1 = c
    · have hdest : (compositing ws).dest c = none := if_pos hself
      rw [if_pos hself, copy, hdest]
      exact ⟨⟨h, .refl ws⟩, rfl⟩
    · rw [if_neg hself, shown_clearDirty, shown_drawChild h hwin hself]
      obtain ⟨hkept, hshl⟩ := drawChild_kept h (childWindow win) (target ws c)
      obtain ⟨hkept', hshl'⟩ := clearDirty_kept hkept c
      exact ⟨⟨hkept', hshl.trans hshl'⟩, rfl⟩

def compositeOrder (order : List XId) (ws : PaintedWindows) : List XId :=
  order.filter (fun c => (ws.lookup c).any isComposited)

theorem shown_compositeChildren (hws : WellKept ws') (hshl : SameShells ws ws')
    (order : List XId) :
    (WellKept ((dirtyChildren order ws).foldl compositeChild ws') ∧
      SameShells ws ((dirtyChildren order ws).foldl compositeChild ws')) ∧
    shown ((dirtyChildren order ws).foldl compositeChild ws') =
      copyAll (compositing ws) (shown ws') (compositeOrder order ws) := by
  induction order generalizing ws' with
  | nil => exact ⟨⟨hws, hshl⟩, rfl⟩
  | cons c order ih =>
    rw [dirtyChildren, compositeOrder, filterMap_cons]
    cases hwin : ws.lookup c with
    | none =>
      rw [filter_cons_of_neg (by simp [hwin])]
      exact ih hws hshl
    | some win =>
      by_cases hdirty : isDirtyChild win = true
      · obtain ⟨win', hwin', hshell⟩ := hshl.lookup hwin
        have hst : win'.toWindowState = win.toWindowState := congrArg Prod.fst hshell
        have hch : childWindow win = childWindow win' := by simp only [childWindow, hst]
        obtain ⟨⟨hkept, hsame⟩, hshown⟩ := compositeChild_sound hws hwin'
        obtain ⟨hrest, hcopies⟩ := ih hkept (hshl.trans hsame)
        simp only [filter_some, hdirty, if_true, map_some, foldl_cons, hch]
        refine ⟨hrest, hcopies.trans ?_⟩
        rw [hshown, compositing_congr hshl, hst]
        cases hred : win.redirected with
        | true =>
          rw [filter_cons_of_neg (by simp [hwin, isComposited, hred]), if_pos rfl]
          rfl
        | false =>
          rw [filter_cons_of_pos (by simp [hwin, isComposited, hred, hdirty])]
          rfl
      · have hnone : ((some win).filter isDirtyChild).map childWindow = none := by simp [hdirty]
        rw [hnone, filter_cons_of_neg (by simp [hwin, isComposited, hdirty])]
        exact ih hws hshl

theorem copiedPixel_takeDirtyPixels (fb : Framebuffer) (col row : Nat) :
    copiedPixel fb.takeDirtyPixels.2 col row = copiedPixel fb col row := by
  rw [Framebuffer.takeDirtyPixels]
  cases fb.dirty with
  | none => rfl
  | some d =>
    dsimp only
    split <;> rfl

theorem shown_flushTopLevel (s : FlushState) (w : XId) :
    shown (flushTopLevel s w).windows = shown s.windows := by
  have htkn := shown_editFramebuffer_same copiedPixel_takeDirtyPixels w s.windows
  rw [flushTopLevel]
  cases s.x11ToUuid.lookup w with
  | none => rfl
  | some uuid =>
    cases s.windows.lookup w with
    | none => rfl
    | some win =>
      dsimp only
      cases win.framebuffer.takeDirtyPixels.1 with
      | none => exact htkn
      | some p => exact htkn

theorem shown_flushDirtyWindows {s : FlushState} (h : WellKept s.windows) (order : List XId) :
    shown (flushDirtyWindows order s).windows =
      copyAll (compositing s.windows) (shown s.windows) (compositeOrder order s.windows) := by
  have hflush : ∀ (ids : List XId) (s : FlushState), shown (ids.foldl flushTopLevel s).windows = shown s.windows := by
    intro ids
    induction ids with
    | nil => exact fun _ => rfl
    | cons w ids ih => exact fun s => (ih (flushTopLevel s w)).trans (shown_flushTopLevel s w)
  exact (hflush _ _).trans (shown_compositeChildren h (.refl _) order).2

theorem dest_topLevel (h : TopLevel ws t) : (compositing ws).dest t = none := by
  obtain ⟨win, hwin, -, hpar⟩ := h
  have hstay : target ws t = (t, 0, 0) := by simp [target, maxTreeDepth, climb, hwin, hpar]
  simp [compositing, hstay]

theorem mem_composited_iff : c ∈ composited ws ↔ (ws.lookup c).any isComposited = true := by
  simp only [composited, Set.mem_ofPred_eq, Option.any_eq_true]

theorem mem_compositeOrder (hord : Enumerates order ws) (c : XId) :
    c ∈ compositeOrder order ws ↔ c ∈ composited ws := by
  rw [compositeOrder, mem_filter, mem_composited_iff, hord.2]
  refine and_iff_right_of_imp fun hany => ?_
  obtain ⟨win, hwin, -⟩ := Option.any_eq_true _ _ |>.mp hany
  exact Finmap.mem_iff.mpr ⟨win, hwin⟩

theorem compositeOrder_perm (hord : Enumerates order ws) {order' : List XId} (hord' : Enumerates order' ws) :
    (compositeOrder order' ws).Perm (compositeOrder order ws) :=
  (perm_ext_iff_of_nodup (hord'.1.filter _) (hord.1.filter _)).mpr fun c =>
    (mem_compositeOrder hord' c).trans (mem_compositeOrder hord c).symm

theorem exists_iteration (hord : Enumerates order ws) {l : List XId}
    (hl : l.Perm (compositeOrder order ws)) : ∃ order', Enumerates order' ws ∧ compositeOrder order' ws = l := by
  have hmem : ∀ c, c ∈ l ↔ c ∈ order ∧ (ws.lookup c).any isComposited = true := fun c =>
    hl.mem_iff.trans mem_filter
  let rest := order.filter (fun c => !(ws.lookup c).any isComposited)
  have hrest : ∀ c, c ∈ rest ↔ c ∈ order ∧ (ws.lookup c).any isComposited = false := by
    intro c
    simp only [rest, mem_filter, Bool.not_eq_true']
  refine ⟨l ++ rest, ⟨?_, fun c => ?_⟩, ?_⟩
  · refine nodup_append.mpr ⟨hl.nodup_iff.mpr (hord.1.filter _), hord.1.filter _, ?_⟩
    rintro c hc e he rfl
    exact Bool.false_ne_true (((hrest c).mp he).2.symm.trans ((hmem c).mp hc).2)
  · rw [mem_append, hmem, hrest, ← hord.2 c]
    cases (ws.lookup c).any isComposited <;> simp
  · have hkept : compositeOrder l ws = l := filter_eq_self.mpr fun c hc => ((hmem c).mp hc).2
    have hgone : compositeOrder rest ws = [] := by
      refine filter_eq_nil_iff.mpr fun c hc => ?_
      rw [((hrest c).mp hc).2]
      exact Bool.false_ne_true
    rw [compositeOrder, filter_append]
    exact (congrArg₂ _ hkept hgone).trans (append_nil l)

variable (d : Desktop)

theorem Desktop.shown_flush (order : List XId) : shown (flushDirtyWindows order d.toFlushState).windows =
      copyAll (compositing d.windows) (shown d.windows) (compositeOrder order d.windows) :=
  shown_flushDirtyWindows d.kept order

/-- The iteration order does not matter to a pixel exactly if all colours that it may
show are the same. -/
theorem Desktop.orderFree_iff (h : TopLevel d.windows t) (z : Nat × Nat) :
    (∀ order order', Enumerates order d.windows → Enumerates order' d.windows →
      shown (flushDirtyWindows order d.toFlushState).windows t z =
        shown (flushDirtyWindows order' d.toFlushState).windows t z) ↔
      ∀ colour colour', MayShow d.windows t z colour → MayShow d.windows t z colour' → colour = colour' := by
  obtain ⟨order₀, horder₀⟩ := exists_enumerates d.windows
  refine Iff.trans ?_ (copyAll_order_iff (dest_topLevel h) (horder₀.1.filter _) (mem_compositeOrder horder₀) z)
  simp only [d.shown_flush]
  constructor
  · intro hfree l₁ l₂ hl₁ hl₂
    obtain ⟨order₁, horder₁, rfl⟩ := exists_iteration horder₀ hl₁
    obtain ⟨order₂, horder₂, rfl⟩ := exists_iteration horder₀ hl₂
    exact hfree order₁ order₂ horder₁ horder₂
  · intro hfree order order' hord hord'
    exact hfree _ _ (compositeOrder_perm horder₀ hord) (compositeOrder_perm horder₀ hord')

theorem Desktop.flush_mayShow (hord : Enumerates order d.windows) {z y : Nat × Nat}
    (hdrw : Draws d.windows t z c y) :
    MayShow d.windows t z (shown (flushDirtyWindows order d.toFlushState).windows t z) := by
  rw [d.shown_flush]
  exact copyAll_brings (fun c => (mem_compositeOrder hord c).mp)
    ((mem_compositeOrder hord c).mpr hdrw.mem) hdrw

theorem Draws.mayShow {z y : Nat × Nat} (h : Draws ws t z c y) : MayShow ws t z (shown ws c y) :=
  ⟨c, y, h, .own c y⟩

theorem Desktop.flush_of_not_drawn (hord : Enumerates order d.windows) {z : Nat × Nat}
    (h : ∀ c y, ¬ Draws d.windows t z c y) :
    shown (flushDirtyWindows order d.toFlushState).windows t z = shown d.windows t z := by
  rw [d.shown_flush]
  exact copyAll_of_not_covered (fun c => (mem_compositeOrder hord c).mp) h

theorem flush_respectsStacking_iff (d : Desktop) :
    RespectsStacking d.toFlushState ↔ ColoursAgree d.windows := by
  constructor
  · intro h
    have hsame : ∀ t, TopLevel d.windows t → ∀ z colour colour', MayShow d.windows t z colour →
        MayShow d.windows t z colour' → colour = colour' := fun t ht z =>
      (d.orderFree_iff ht z).mp fun order order' hord hord' => h.orderFree order order' hord hord' t ht z
    refine ⟨hsame, fun t ht z c y hdrw hout => ?_⟩
    by_cases hins : ∃ e x, Draws d.windows t z e x ∧ Inside d.windows t z e
    · exact .inl hins
    · obtain ⟨order, hord⟩ := exists_enumerates d.windows
      have hclpd := h.clipped order hord t ht z fun e x he hin => hins ⟨e, x, he, hin⟩
      refine .inr ?_
      rw [← hclpd]
      exact hsame t ht z _ _ hdrw.mayShow (d.flush_mayShow hord hdrw)
  · intro h
    refine ⟨fun order order' hord hord' t ht z => ?_, fun order hord t ht z c y hdrw _ _ => ?_,
      fun order hord t ht z hout => ?_⟩
    · exact (d.orderFree_iff ht z).mpr (h.same t ht z) order order' hord hord'
    · exact h.same t ht z _ _ (d.flush_mayShow hord hdrw) hdrw.mayShow
    · by_cases hdrawn : ∃ c y, Draws d.windows t z c y
      · obtain ⟨c, y, hdrw⟩ := hdrawn
        have hcolour := h.same t ht z _ _ (d.flush_mayShow hord hdrw) hdrw.mayShow
        rcases h.outside t ht z c y hdrw (hout c y hdrw) with ⟨e, x, he, hin⟩ | hold
        · exact absurd hin (hout e x he)
        · exact hcolour.trans hold
      · exact d.flush_of_not_drawn hord fun c y hdrw => hdrawn ⟨c, y, hdrw⟩

theorem WellKept.insert (h : WellKept ws) (hid : win.id = w) (hfb : WellFormed win.framebuffer) :
    WellKept (ws.insert w win) := by
  refine ⟨fun v win' hv => ?_, fun v win' hv => ?_⟩
  · rw [lookup_insert_eq] at hv
    split at hv
    · next heq =>
      cases hv
      exact hid.trans heq.symm
    · exact h.ids v win' hv
  · rw [lookup_insert_eq] at hv
    split at hv
    · cases hv
      exact hfb
    · exact h.wellFormed v win' hv

theorem wellKept_empty : WellKept ∅ :=
  ⟨fun w _ h => (some_ne_none _ (h.symm.trans (Finmap.lookup_empty w))).elim,
    fun w _ h => (some_ne_none _ (h.symm.trans (Finmap.lookup_empty w))).elim⟩

def dotWindow (id parent : XId) (childrenOrder : List XId) (grey : UInt8) : PaintedWindow where
  id := id
  parent := parent
  x := 0
  y := 0
  width := 1
  height := 1
  borderWidth := 0
  visual := rootVisual
  depth := 24
  winClass := inputOutput
  mapped := true
  eventMask := 0
  overrideRedirect := false
  redirected := false
  properties := ∅
  ownerClientId := none
  childrenOrder := childrenOrder
  retainedTemporary := false
  wmHintsInitialState := none
  transientFor := none
  windowType := .normal
  strut := none
  wmHintsInput := none
  clipShape := none
  boundingShape := none
  framebuffer := ⟨[grey, grey, grey, 255], 1, 1, 4, some ⟨0, 0, 1, 1⟩⟩

theorem dotWindow_wellFormed (id parent : XId) (childrenOrder : List XId) (grey : UInt8) :
    WellFormed (dotWindow id parent childrenOrder grey).framebuffer := by
  refine ⟨rfl, rfl, fun d hd => ?_⟩
  cases hd
  simp [dotWindow]

theorem WellKept.insertDot (h : WellKept ws) (id parent : XId) (childrenOrder : List XId) (grey : UInt8) :
    WellKept (ws.insert id (dotWindow id parent childrenOrder grey)) :=
  h.insert rfl (dotWindow_wellFormed id parent childrenOrder grey)

/-- Two children of a top-level window, one over the other. -/
def twoSiblings : Desktop where
  clientId := 0
  windows := (((∅ : PaintedWindows).insert 3 (dotWindow 3 1 [] 200)).insert 2 (dotWindow 2 1 [] 100)).insert 1
    (dotWindow 1 rootWindow [2, 3] 0)
  x11ToUuid := ∅
  updates := []
  kept := ((wellKept_empty.insertDot 3 1 [] 200).insertDot 2 1 [] 100).insertDot 1 rootWindow [2, 3] 0

theorem siblings_depend_on_order : ¬ RespectsStacking twoSiblings.toFlushState := by
  intro h
  have htop : TopLevel twoSiblings.windows 1 :=
    ⟨dotWindow 1 rootWindow [2, 3] 0, Finmap.lookup_insert _, rfl, rfl⟩
  have hsame := h.orderFree [1, 2, 3] [1, 3, 2] (by decide +kernel) (by decide +kernel) 1 htop (0, 0)
  exact absurd hsame (by decide +kernel)

end X11Web.Compositing
