import X11Web.Windows
import X11Web.Layers

namespace X11Web.ClientRenderer

open Windows Layers List

abbrev WindowId := Uuid

structure Rgba where
  r : UInt8
  g : UInt8
  b : UInt8
  a : UInt8
deriving DecidableEq

def transparent : Rgba := ⟨0, 0, 0, 0⟩

def Rgba.isOpaque (c : Rgba) : Bool := c.a == 255

structure Bitmap where
  width : Nat
  height : Nat
  pixel : Nat → Nat → Rgba

/-- What the page takes from the browser: the image decoder, and the composition
that `drawImage` uses by default, under which an opaque pixel replaces what was
there. -/
structure Browser where
  createImageBitmap : Bytes → Option Bitmap
  sourceOver : Rgba → Rgba → Rgba
  opaque_over : ∀ c d, c.isOpaque = true → sourceOver c d = c

structure PutImage where
  windowId : WindowId
  x : Int
  y : Int
  width : Nat
  height : Nat
  data : Bytes
deriving DecidableEq

structure Thumbnail where
  windowId : WindowId
  width : Nat
  height : Nat
  data : Bytes
deriving DecidableEq

inductive Frame
  | putImage (u : PutImage)
  | thumbnail (t : Thumbnail)
deriving DecidableEq

def Frame.putImage? : Frame → Option PutImage
  | .putImage u => some u
  | .thumbnail _ => none

structure Renderer where
  width : Nat
  height : Nat
  backBuffer : Int × Int → Rgba

def Renderer.new (width height : Nat) : Renderer := ⟨width, height, fun _ => transparent⟩

variable (br : Browser)

/-- The pixels of an image at `(x, y)` that lie on a canvas of the given size. -/
def imageLayer (size : Nat × Nat) (x y : Int) (bitmap : Bitmap) : Layer (Int × Int) Rgba := fun z =>
  if 0 ≤ z.1 ∧ z.1 < size.1 ∧ 0 ≤ z.2 ∧ z.2 < size.2 ∧
      x ≤ z.1 ∧ z.1 < x + bitmap.width ∧ y ≤ z.2 ∧ z.2 < y + bitmap.height then
    some (bitmap.pixel (z.1 - x).toNat (z.2 - y).toNat)
  else none

def putLayer (size : Nat × Nat) (u : PutImage) : Layer (Int × Int) Rgba :=
  match br.createImageBitmap u.data with
  | some bitmap => imageLayer size u.x u.y bitmap
  | none => fun _ => none

def pushPutImage (u : PutImage) (r : Renderer) : Renderer :=
  { r with backBuffer := paint br.sourceOver r.backBuffer (putLayer br (r.width, r.height) u) }

abbrev Renderers := WindowId → Option Renderer

def freshSize (u : PutImage) : Nat × Nat :=
  (if u.width = 0 then 1 else u.width, if u.height = 0 then 1 else u.height)

def Renderer.ofSize (size : Nat × Nat) : Renderer := .new size.1 size.2

def routePutImage (u : PutImage) (renderers : Renderers) : Renderers :=
  Function.update renderers u.windowId
    (some (pushPutImage br u ((renderers u.windowId).getD (.ofSize (freshSize u)))))

def routeFrame (f : Frame) (renderers : Renderers) : Renderers :=
  match f with
  | .putImage u => routePutImage br u renderers
  | .thumbnail _ => renderers

def renderAll (us : List PutImage) (renderers : Renderers) : Renderers :=
  us.foldl (fun rs u => routePutImage br u rs) renderers

def ofWindow (w : WindowId) (us : List PutImage) : List PutImage :=
  us.filter (fun u => decide (u.windowId = w))

theorem ofWindow_append (w : WindowId) (us us' : List PutImage) :
    ofWindow w (us ++ us') = ofWindow w us ++ ofWindow w us' :=
  filter_append _ _

/-- The canvas that the images of a window start from: the one there is, or a
fresh one of the first image's size. -/
def ground (canvas : Option Renderer) (us : List PutImage) : Option Renderer :=
  canvas.or (us.head?.map (fun u => .ofSize (freshSize u)))

theorem foldl_pushPutImage (us : List PutImage) (r : Renderer) :
    us.foldl (fun r u => pushPutImage br u r) r =
      { r with backBuffer :=
          paintAll br.sourceOver r.backBuffer (us.map (putLayer br (r.width, r.height))) } := by
  induction us generalizing r with
  | nil => rfl
  | cons u us ih =>
    rw [foldl_cons, ih]
    rfl

theorem renderAll_apply (us : List PutImage) (renderers : Renderers) (w : WindowId) :
    renderAll br us renderers w =
      (ground (renderers w) (ofWindow w us)).map
        (fun r => (ofWindow w us).foldl (fun r u => pushPutImage br u r) r) := by
  induction us generalizing renderers with
  | nil => simp [renderAll, ofWindow, ground]
  | cons u us ih =>
    rw [renderAll, foldl_cons, ← renderAll, ih, routePutImage]
    by_cases h : u.windowId = w
    · subst h
      cases renderers u.windowId <;> simp [ofWindow, ground]
    · rw [Function.update_of_ne (Ne.symm h)]
      simp [ofWindow, h]

theorem renderAll_eq_some {us : List PutImage} {renderers : Renderers} {w : WindowId} {r : Renderer}
    (h : ground (renderers w) (ofWindow w us) = some r) :
    renderAll br us renderers w = some { r with
      backBuffer := paintAll br.sourceOver r.backBuffer
        ((ofWindow w us).map (putLayer br (r.width, r.height))) } := by
  rw [renderAll_apply, h, Option.map_some, foldl_pushPutImage]

def IsOpaque (u : PutImage) : Prop :=
  ∀ bitmap, br.createImageBitmap u.data = some bitmap →
    ∀ x y, x < bitmap.width → y < bitmap.height → (bitmap.pixel x y).isOpaque = true

theorem hides_of_isOpaque {c : Rgba} (h : c.isOpaque = true) : Hides br.sourceOver c :=
  fun d => br.opaque_over c d h

theorem isOpaque_of_putLayer {u : PutImage} {size : Nat × Nat} {z : Int × Int} {c : Rgba}
    (h : IsOpaque br u) (hc : putLayer br size u z = some c) : c.isOpaque = true := by
  rw [putLayer] at hc
  cases hdata : br.createImageBitmap u.data with
  | none => simp [hdata] at hc
  | some bitmap =>
    simp only [hdata, imageLayer] at hc
    split at hc
    · rename_i hins
      obtain rfl := Option.some.inj hc
      exact h bitmap hdata _ _ (by omega) (by omega)
    · cases hc

/-- The colours that the images of a window put on a point of its canvas. -/
def coatsAt (size : Nat × Nat) (w : WindowId) (us : List PutImage) (z : Int × Int) : List Rgba :=
  coats ((ofWindow w us).map (putLayer br size)) z

theorem coatsAt_append (size : Nat × Nat) (w : WindowId) (us us' : List PutImage) (z : Int × Int) :
    coatsAt br size w (us ++ us') z = coatsAt br size w us z ++ coatsAt br size w us' z := by
  simp only [coatsAt, ofWindow_append, map_append, coats_append]

theorem isOpaque_of_mem_coatsAt {size : Nat × Nat} {w : WindowId} {us : List PutImage}
    {z : Int × Int} {c : Rgba} (h : ∀ u ∈ us, IsOpaque br u) (hc : c ∈ coatsAt br size w us z) :
    c.isOpaque = true := by
  simp only [coatsAt, coats, mem_filterMap, mem_map, ofWindow, mem_filter] at hc
  obtain ⟨l, ⟨u, ⟨hu, -⟩, rfl⟩, hl⟩ := hc
  exact isOpaque_of_putLayer br (h u hu) hl

def redWebp : Bytes :=
  [82, 73, 70, 70, 24, 0, 0, 0, 87, 69, 66, 80, 86, 80, 56, 76, 12, 0, 0, 0, 47, 0, 0, 0, 16, 40, 64,
    255, 11, 208, 255, 0]

def red : Rgba := ⟨255, 0, 0, 255⟩

def redBrowser : Browser where
  createImageBitmap data := if data = redWebp then some ⟨1, 1, fun _ _ => red⟩ else none
  sourceOver c d := if c.isOpaque then c else d
  opaque_over c d h := by simp [h]

theorem isOpaque_red (u : PutImage) : IsOpaque redBrowser u := by
  intro bitmap hbm x y _ _
  simp only [redBrowser] at hbm
  split at hbm
  · obtain rfl := Option.some.inj hbm
    rfl
  · cases hbm

end X11Web.ClientRenderer
