import X11Web.BlitPixels
import X11Web.DrawRequests

namespace X11Web.Drawables

open HashMaps Windows Overwrites Pixels DirtyMirror Compositing Option
open DrawRequests (Pixmap)

/-- The windows and pixmaps that a client draws on, and what the shared memory behind a
pixmap holds. -/
structure DrawableStore where
  windows : PaintedWindows
  pixmaps : HashMap XId Pixmap
  segments : XId → Option Bytes

def resolveDrawable (ds : DrawableStore) (drawable : XId) : XId :=
  ((ds.pixmaps.lookup drawable).bind (·.aliasWindow)).getD drawable

def getFramebuffer (ds : DrawableStore) (drawable : XId) : Option Framebuffer :=
  let target := resolveDrawable ds drawable
  ((ds.windows.lookup target).map (·.framebuffer)).or ((ds.pixmaps.lookup target).map (·.framebuffer))

/-- Draw on the framebuffer of a drawable, as far as there is one. -/
def drawOn (drawable : XId) (f : Framebuffer → Framebuffer) (ds : DrawableStore) : DrawableStore :=
  let target := resolveDrawable ds drawable
  if target ∈ ds.windows then { ds with windows := editFramebuffer target f ds.windows }
  else
    { ds with pixmaps := modify target (fun pix => { pix with framebuffer := f pix.framebuffer }) ds.pixmaps }

def getDrawableSize (ds : DrawableStore) (drawable : XId) : Option (UInt16 × UInt16) :=
  ((ds.windows.lookup drawable).map fun win => (UInt16.ofNat win.width, UInt16.ofNat win.height)).or
    ((ds.pixmaps.lookup drawable).map fun pix => (pix.width, pix.height))

/-- Bring the pixels of a pixmap in shared memory up to date. -/
def syncShmPixmap (drawable : XId) (ds : DrawableStore) : DrawableStore :=
  let target := resolveDrawable ds drawable
  match ds.segments target with
  | none => ds
  | some bytes =>
    { ds with
      pixmaps := modify target (fun pix =>
        let data := pix.framebuffer.data
        { pix with framebuffer := { pix.framebuffer with data := overwrite data 0 (bytes.take data.length) } })
        ds.pixmaps }

/-- The framebuffers are those of the constructor and the resizes. -/
structure AllWellFormed (ds : DrawableStore) : Prop where
  windows : ∀ w win, ds.windows.lookup w = some win → WellFormed win.framebuffer
  pixmaps : ∀ p pix, ds.pixmaps.lookup p = some pix → WellFormed pix.framebuffer

variable {ds : DrawableStore} {drawable : XId} {f : Framebuffer → Framebuffer}

theorem getFramebuffer_congr {d d' : XId} (h : resolveDrawable ds d = resolveDrawable ds d') :
    getFramebuffer ds d = getFramebuffer ds d' := by
  rw [getFramebuffer, getFramebuffer, h]

theorem AllWellFormed.framebuffer (h : AllWellFormed ds) {fb : Framebuffer}
    (hfb : getFramebuffer ds drawable = some fb) : WellFormed fb := by
  rcases or_eq_some_iff.mp hfb with hwin | ⟨-, hpix⟩
  · obtain ⟨win, hlook, rfl⟩ := map_eq_some_iff.mp hwin
    exact h.windows _ win hlook
  · obtain ⟨pix, hlook, rfl⟩ := map_eq_some_iff.mp hpix
    exact h.pixmaps _ pix hlook

theorem resolveDrawable_modify (p : XId) {g : Pixmap → Pixmap} (hg : ∀ pix, (g pix).aliasWindow = pix.aliasWindow)
    (d : XId) : resolveDrawable { ds with pixmaps := modify p g ds.pixmaps } d = resolveDrawable ds d := by
  simp only [resolveDrawable, lookup_modify]
  by_cases hd : d = p
  · subst hd
    rw [if_pos rfl]
    cases ds.pixmaps.lookup d with
    | none => rfl
    | some pix => simp only [map_some, bind_some, hg]
  · rw [if_neg hd]

theorem resolveDrawable_drawOn (drawable : XId) (f : Framebuffer → Framebuffer) (ds : DrawableStore) (d : XId) :
    resolveDrawable (drawOn drawable f ds) d = resolveDrawable ds d := by
  simp only [drawOn]
  split
  · rfl
  · exact resolveDrawable_modify (resolveDrawable ds drawable)
      (g := fun pix => { pix with framebuffer := f pix.framebuffer }) (fun _ => rfl) d

theorem getFramebuffer_drawOn (drawable : XId) (f : Framebuffer → Framebuffer) (ds : DrawableStore) (d : XId) :
    getFramebuffer (drawOn drawable f ds) d =
      if resolveDrawable ds d = resolveDrawable ds drawable then (getFramebuffer ds d).map f
      else getFramebuffer ds d := by
  rw [getFramebuffer, getFramebuffer, resolveDrawable_drawOn]
  simp only [drawOn]
  by_cases hmem : resolveDrawable ds drawable ∈ ds.windows
  · rw [if_pos hmem]
    simp only [lookup_editFramebuffer]
    by_cases hsame : resolveDrawable ds d = resolveDrawable ds drawable
    · obtain ⟨win, hwin⟩ := isSome_iff_exists.mp (Finmap.lookup_isSome.mpr hmem)
      rw [if_pos hsame, if_pos hsame, hsame, hwin]
      rfl
    · rw [if_neg hsame, if_neg hsame]
  · rw [if_neg hmem]
    simp only [lookup_modify]
    by_cases hsame : resolveDrawable ds d = resolveDrawable ds drawable
    · rw [if_pos hsame, if_pos hsame, hsame, Finmap.lookup_eq_none.mpr hmem]
      cases ds.pixmaps.lookup (resolveDrawable ds drawable) <;> rfl
    · rw [if_neg hsame, if_neg hsame]

theorem getDrawableSize_drawOn (drawable : XId) (f : Framebuffer → Framebuffer) (ds : DrawableStore) (d : XId) :
    getDrawableSize (drawOn drawable f ds) d = getDrawableSize ds d := by
  simp only [getDrawableSize, drawOn]
  split
  · simp only [lookup_editFramebuffer]
    split
    · next hd =>
      rw [hd, map_map]
      rfl
    · rfl
  · simp only [lookup_modify]
    split
    · next hd =>
      rw [hd, map_map]
      rfl
    · rfl

theorem getDrawableSize_syncShmPixmap (drawable : XId) (ds : DrawableStore) (d : XId) :
    getDrawableSize (syncShmPixmap drawable ds) d = getDrawableSize ds d := by
  simp only [getDrawableSize, syncShmPixmap]
  split
  · rfl
  · simp only [lookup_modify]
    split
    · next hd =>
      rw [hd, map_map]
      rfl
    · rfl

theorem syncShmPixmap_wellFormed (h : AllWellFormed ds) (drawable : XId) :
    AllWellFormed (syncShmPixmap drawable ds) := by
  simp only [syncShmPixmap]
  split
  · exact h
  · next bytes _ =>
    refine ⟨h.windows, fun p pix hpix => ?_⟩
    rw [lookup_modify] at hpix
    split at hpix
    · obtain ⟨pix', hlook, rfl⟩ := map_eq_some_iff.mp hpix
      have hwell := h.pixmaps _ pix' hlook
      refine ⟨hwell.stride, (length_overwrite ?_).trans hwell.length, hwell.dirty⟩
      rw [List.length_take]
      omega
    · exact h.pixmaps p pix hpix

end X11Web.Drawables
