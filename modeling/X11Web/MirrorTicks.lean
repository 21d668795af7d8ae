import X11Web.FrameCredit
import X11Web.TreePainting

namespace X11Web.MirrorTicks

open WaylandPixels WaylandWindows WaylandSteps WaylandRuns List Option Function
open TreePainting
open FrameCredit (Silent)

section Pictures

def paste (m : Image) : DisplayUpdate → Image
  | .putImage _ x y width height data => fun dx dy =>
    if Reaches width height (dx - x) (dy - y) then data (dx - x) (dy - y) else m dx dy
  | _ => m

/-- What the frontend has of a window: the images from `base` on, in order, over what it had before. -/
def mirror (u : Uuid) (base : Nat) (before : Image) (s : State) : Image :=
  (historyOf u (s.sent.drop base)).foldl (fun m x => paste m x.2) before

def geometryOf (s : State) (root : ObjectId) : Option Rect :=
  (s.surfaces root).map fun sb => windowRect s root sb.width sb.height

/-- What is to be seen of a window: its tree's composite, cropped to its rectangle and opaque. -/
def picture (s : State) (root : ObjectId) (geo : Rect) : Image := fun x y =>
  (composite s root (x + geo.x) (y + geo.y)).forceOpaque

def Exact (root : ObjectId) (u : Uuid) (base : Nat) (before : Image) (s : State) : Prop :=
  ∀ geo, geometryOf s root = some geo → ∀ x y, Reaches geo.w geo.h x y →
    mirror u base before s x y = picture s root geo x y

/-- Whether the next image is of all the window: a session begins, all is damaged, or the size is new. -/
def FrameDue (s : State) (e : WindowEntry) (geo : Rect) : Prop :=
  s.streaming = false ∨ e.damage.full = true ∨ paintedSize geo ≠ (e.width, e.height)

def Pending (s : State) (root : ObjectId) (e : WindowEntry) (geo : Rect) (x y : Int) : Prop :=
  FrameDue s e geo ∨ e.dirty = true ∧ ∃ v ∈ (s.trees root).visit 0 0,
    Damaged (s.surfaces v.1) (x + geo.x - v.2.1) (y + geo.y - v.2.2)

/-- The window is no larger than the coordinates of an image reach, and its surfaces lie within a span. -/
def Paintable (root : ObjectId) (s : State) : Prop :=
  ∀ geo, geometryOf s root = some geo → (geo.w ≤ 32768 ∧ geo.h ≤ 32768) ∧
    ∃ p, Placed p geo s.surfaces ((s.trees root).visit 0 0)

end Pictures

variable {root : ObjectId} {u : Uuid} {base : Nat} {before : Image} {s s' s'' : State} {e e' : WindowEntry} {geo : Rect}

section Images

/-- The trees and the geometries are the same, and so are the images of the surfaces. -/
structure SameImages (s s' : State) : Prop where
  trees : s'.trees = s.trees
  geometry : s'.geometry = s.geometry
  images : ∀ i, (s'.surfaces i).map imageOf = (s.surfaces i).map imageOf

theorem SameImages.of_scene (h : SameScene s s') : SameImages s s' :=
  ⟨h.trees, h.geometry, fun i => by rw [h.surfaces]⟩

theorem SameImages.trans (h : SameImages s s') (h' : SameImages s' s'') : SameImages s s'' :=
  ⟨h'.trees.trans h.trees, h'.geometry.trans h.geometry, fun i => (h'.images i).trans (h.images i)⟩

theorem SameImages.geometryOf (h : SameImages s s') (root : ObjectId) :
    geometryOf s' root = geometryOf s root := by
  have hsizes : ∀ s : State, MirrorTicks.geometryOf s root =
      ((s.surfaces root).map imageOf).map fun i => windowRect s root i.2.1 i.2.2 := by
    intro s
    rw [Option.map_map]
    rfl
  rw [hsizes, hsizes, h.images root]
  simp only [windowRect, h.geometry]

theorem SameImages.picture (h : SameImages s s') (root : ObjectId) : picture s' root = picture s root := by
  funext geo x y
  unfold MirrorTicks.picture composite
  rw [h.trees]
  exact congrArg _ (foldl_shade_congr (fun v _ => congrFun₂ (pixelAt_congr (h.images v.1)) _ _) _)

theorem SameImages.paintable (h : SameImages s s') (hp : Paintable root s) : Paintable root s' := by
  intro geo hgeo
  rw [h.geometryOf] at hgeo
  obtain ⟨hsize, p, hplcd⟩ := hp geo hgeo
  rw [h.trees]
  exact ⟨hsize, p, placed_congr h.images hplcd⟩

theorem compositeAndEmit_sameImages (s : State) (id : ObjectId) (consuming : Bool) (geo : Rect) :
    SameImages s (compositeAndEmit consuming s id geo) := by
  unfold compositeAndEmit
  split
  · exact ⟨rfl, rfl, fun _ => rfl⟩
  · split
    · exact ⟨rfl, rfl, fun _ => rfl⟩
    · dsimp only
      split
      · exact ⟨rfl, rfl, foldl_compositeSurface_images _⟩
      · split <;> exact ⟨rfl, rfl, foldl_compositeSurface_images _⟩

end Images

section Mirrors

theorem mirror_append (hlen : base ≤ s.sent.length) {new : List (String × DisplayUpdate)}
    (hsent : s'.sent = s.sent ++ new) :
    mirror u base before s' = (historyOf u new).foldl (fun m x => paste m x.2) (mirror u base before s) := by
  rw [mirror, hsent, drop_append_of_le_length hlen, historyOf_append, foldl_append]
  rfl

theorem mirror_eq_of_silent (hlen : base ≤ s.sent.length) {new : List (String × DisplayUpdate)}
    (hsent : s'.sent = s.sent ++ new) (hnew : ∀ x ∈ historyOf u new, x.2.isPutImage = false) :
    mirror u base before s' = mirror u base before s := by
  rw [mirror_append hlen hsent]
  refine List.foldlRecOn (motive := fun m => m = mirror u base before s) _ _ rfl fun m hm x hx => ?_
  have hoth := hnew x hx
  obtain ⟨c, update⟩ := x
  cases update <;> first | exact hm | cases hoth

theorem mirror_silent (h : Silent s s') (hlen : base ≤ s.sent.length) :
    mirror u base before s' = mirror u base before s := by
  obtain ⟨new, hsent, hnew⟩ := h.sent
  exact mirror_eq_of_silent hlen hsent fun x hx => hnew x (mem_of_mem_filter hx)

theorem length_silent (h : Silent s s') (hlen : base ≤ s.sent.length) : base ≤ s'.sent.length := by
  obtain ⟨new, hsent, -⟩ := h.sent
  rw [hsent, length_append]
  exact Nat.le_add_right_of_le hlen

end Mirrors

/-- What the frontend has of the window differs from it only where it is still to be sent. -/
structure Tracks (root : ObjectId) (u : Uuid) (base : Nat) (before : Image) (s : State) : Prop where
  length : base ≤ s.sent.length
  boxed : ∀ e, s.entries root = some e → e.uuid = u →
    s.streaming = false ∨ e.damage.full = true ∨ e.damage.bbox = none
  mirrored : ∀ e geo, s.entries root = some e → e.uuid = u → geometryOf s root = some geo →
    ∀ x y, Reaches geo.w geo.h x y →
      mirror u base before s x y = picture s root geo x y ∨ Pending s root e geo x y

/-- An entry that owes the frontend all that another one does. -/
structure Owes (s s' : State) (root : ObjectId) (e e' : WindowEntry) : Prop where
  uuid : e'.uuid = e.uuid
  boxed : s.streaming = false ∨ e.damage.full = true ∨ e.damage.bbox = none →
    s'.streaming = false ∨ e'.damage.full = true ∨ e'.damage.bbox = none
  pending : ∀ geo, geometryOf s root = some geo → ∀ x y, Pending s root e geo x y → Pending s' root e' geo x y

theorem Tracks.keep (h : Tracks root u base before s) (himgs : SameImages s s')
    (hlen : base ≤ s'.sent.length) (hmir : mirror u base before s' = mirror u base before s)
    (hent : ∀ e', s'.entries root = some e' → e'.uuid = u → ∃ e, s.entries root = some e ∧ Owes s s' root e e') :
    Tracks root u base before s' := by
  refine ⟨hlen, fun e' he' hu => ?_, fun e' geo he' hu hgeo x y hxy => ?_⟩
  · obtain ⟨e, he, howes⟩ := hent e' he' hu
    exact howes.boxed (h.boxed e he (howes.uuid ▸ hu))
  · obtain ⟨e, he, howes⟩ := hent e' he' hu
    rw [himgs.geometryOf] at hgeo
    rw [hmir, himgs.picture]
    exact (h.mirrored e geo he (howes.uuid ▸ hu) hgeo x y hxy).imp_right (howes.pending geo hgeo x y)

theorem exact_congr (himgs : SameImages s s') (hmir : mirror u base before s' = mirror u base before s)
    (h : Exact root u base before s) : Exact root u base before s' := by
  intro geo hgeo x y hxy
  rw [himgs.geometryOf] at hgeo
  rw [hmir, himgs.picture]
  exact h geo hgeo x y hxy

section Announcing

theorem createWindow_entries (w h : Int) : (createWindow s root e w h).entries root =
    some { e.fit w h with created := true, mapped := true, title := (s.labels root).getD "" } := by
  have hmap : ∀ entry : WindowEntry, (emitMap (s.setEntry root entry) entry).entries root = some entry := by
    intro entry
    unfold emitMap
    dsimp only
    split <;> exact update_self ..
  unfold createWindow
  dsimp only
  split
  · rw [FrameCredit.applyFocus_entries]
    exact hmap _
  · exact hmap _

theorem updateWindow_entries (w h : Int) : (updateWindow s root e w h).entries root =
    some (if e.mapped then e.fit w h else { e.fit w h with mapped := true, damage := (e.fit w h).damage.markFull }) := by
  unfold updateWindow
  dsimp only
  split <;> split <;> exact update_self ..

/-- The entry as it is painted: it has the window's size, and what was damaged still is. -/
structure Readied (e e' : WindowEntry) (geo : Rect) : Prop where
  uuid : e'.uuid = e.uuid
  dirty : e'.dirty = e.dirty
  size : (e'.width, e'.height) = paintedSize geo
  damage : e'.damage.full = true ∨ e'.damage = e.damage ∧ paintedSize geo = (e.width, e.height)

theorem readied_fit (e : WindowEntry) (geo : Rect) :
    Readied e (e.fit (paintedSize geo).1 (paintedSize geo).2) geo := by
  unfold WindowEntry.fit
  split
  · next hsize =>
    have heq : (e.width, e.height) = paintedSize geo := Prod.ext hsize.1 hsize.2
    exact ⟨rfl, rfl, heq, .inr ⟨rfl, heq.symm⟩⟩
  · exact ⟨rfl, rfl, rfl, .inl rfl⟩

theorem announce_readied (he : s.entries root = some e) (hp : e.pendingUnmap = false)
    (hgeo : geometryOf s root = some geo) :
    (announce s root).2 = some (geo, !e.created) ∧
      ∃ e', (announce s root).1.entries root = some e' ∧ Readied e e' geo := by
  obtain ⟨sb, hsb, rfl⟩ := map_eq_some_iff.mp hgeo
  have hfit := readied_fit e (windowRect s root sb.width sb.height)
  unfold announce
  simp only [he, hp, hsb, Bool.false_eq_true, if_false]
  cases hc : e.created with
  | true =>
    simp only [if_true]
    refine ⟨rfl, _, updateWindow_entries _ _, ?_⟩
    split
    · exact hfit
    · exact ⟨hfit.uuid, hfit.dirty, hfit.size, .inl rfl⟩
  | false =>
    simp only [Bool.false_eq_true, if_false]
    exact ⟨rfl, _, createWindow_entries _ _, hfit.uuid, hfit.dirty, hfit.size, hfit.damage⟩

theorem Readied.owes (h : Readied e e' geo) (hgeo : geometryOf s root = some geo) (hscene : SameScene s s')
    (hstrm : s'.streaming = s.streaming) : Owes s s' root e e' := by
  refine ⟨h.uuid, fun hboxed => ?_, fun geo' hgeo' x y hpend => ?_⟩
  · rw [hstrm]
    obtain hfull | ⟨hdmg, -⟩ := h.damage
    · exact .inr (.inl hfull)
    · rwa [hdmg]
  · obtain rfl : geo = geo' := some.inj (hgeo.symm.trans hgeo')
    unfold Pending FrameDue at hpend ⊢
    rw [hstrm, hscene.trees, hscene.surfaces, h.dirty]
    refine hpend.imp_left ?_
    rintro (hidle | hfull | hsize)
    · exact .inl hidle
    · exact .inr (.inl (h.damage.elim id fun hdmg => hdmg.1 ▸ hfull))
    · exact .inr (.inl (h.damage.resolve_right fun hdmg => hsize hdmg.2))

theorem paintedSize_ne_zero (geo : Rect) : paintedSize geo ≠ (0, 0) := by
  intro heq
  have hw : clampU16 geo.w = 0 := congrArg Prod.fst heq
  unfold clampU16 at hw
  omega

/-- A window that is not painted: it is unmapped, or has no buffer. One that is unmapped has no size until it
is painted again. -/
theorem announce_owes (he : s.entries root = some e)
    (hnone : e.pendingUnmap = true ∨ geometryOf s root = none) :
    (announce s root).2 = none ∧
      ∃ e', (announce s root).1.entries root = some e' ∧ Owes s (announce s root).1 root e e' := by
  unfold announce
  simp only [he]
  by_cases hp : e.pendingUnmap = true
  · simp only [hp, if_true]
    refine ⟨trivial, ?_⟩
    unfold unmapWindow
    split
    · refine ⟨_, update_self .., rfl, fun _ => .inr (.inr rfl), fun geo _ x y _ => ?_⟩
      exact .inl (.inr (.inr (paintedSize_ne_zero geo)))
    · exact ⟨_, update_self .., rfl, fun hboxed => hboxed, fun geo _ x y hpend => hpend⟩
  · have hsb : s.surfaces root = none := map_eq_none_iff.mp (hnone.resolve_left hp)
    simp only [hp, hsb, Bool.false_eq_true, if_false]
    exact ⟨trivial, e, he, rfl, fun hboxed => hboxed, fun _ _ _ _ hpend => hpend⟩

theorem Tracks.announce (h : Tracks root u base before s) (he : s.entries root = some e) :
    Tracks root u base before (announce s root).1 := by
  have hsil := FrameCredit.announce_silent s root
  have hscene := announce_sameScene s root
  refine h.keep (.of_scene hscene) (length_silent hsil h.length) (mirror_silent hsil h.length)
    fun e' he' _ => ⟨e, he, ?_⟩
  by_cases hnone : e.pendingUnmap = true ∨ geometryOf s root = none
  · obtain ⟨-, e₁, he₁, howes⟩ := announce_owes he hnone
    obtain rfl : e₁ = e' := some.inj (he₁.symm.trans he')
    exact howes
  · obtain ⟨hp, hgeo⟩ := not_or.mp hnone
    obtain ⟨geo, hgeo⟩ := ne_none_iff_exists'.mp hgeo
    obtain ⟨-, e₁, he₁, hreadied⟩ := announce_readied he (by simpa using hp) hgeo
    obtain rfl : e₁ = e' := some.inj (he₁.symm.trans he')
    exact hreadied.owes hgeo hscene hsil.streaming

end Announcing

section Painting

theorem windowRect_within (s : State) (root : ObjectId) {w h : Int} (hw : 0 < w) (hh : 0 < h) :
    (windowRect s root w h).Within w h := by
  unfold windowRect
  cases hclip : (s.geometry root).bind fun g => g.clip w h with
  | none => exact ⟨Int.le_refl _, Int.le_refl _, hw, hh, by simp, by simp⟩
  | some r =>
    obtain ⟨g, -, hg⟩ := bind_eq_some_iff.mp hclip
    exact Rect.within_of_clip hg

/-- What painting relies on: the window at `root`, about to be painted at its rectangle. -/
structure Canvassed (root : ObjectId) (s : State) (e : WindowEntry) (geo : Rect) (p : Span) : Prop where
  entry : s.entries root = some e
  geometry : geometryOf s root = some geo
  size : paintedSize geo = (e.width, e.height)
  small : geo.w ≤ 32768 ∧ geo.h ≤ 32768
  rooted : (root, 0, 0) ∈ (s.trees root).visit 0 0
  once : (((s.trees root).visit 0 0).map (·.1)).Nodup
  placed : Placed p geo s.surfaces ((s.trees root).visit 0 0)

variable {p : Span} {x y : Int}

theorem Canvassed.buffer (h : Canvassed root s e geo p) :
    ∃ sb, s.surfaces root = some sb ∧ geo.Within sb.width sb.height := by
  obtain ⟨sb, hsb, rfl⟩ := map_eq_some_iff.mp h.geometry
  have hp := h.placed (root, 0, 0) h.rooted sb hsb
  exact ⟨sb, hsb, windowRect_within s root hp.wide hp.high⟩

theorem Canvassed.width (h : Canvassed root s e geo p) : e.width = geo.w := by
  obtain ⟨sb, -, -, -, hw, -, -, -⟩ := h.buffer
  have hsize : clampU16 geo.w = e.width := congrArg Prod.fst h.size
  have hsmall := h.small.1
  unfold clampU16 at hsize
  omega

theorem Canvassed.height (h : Canvassed root s e geo p) : e.height = geo.h := by
  obtain ⟨sb, -, -, -, -, hh, -, -⟩ := h.buffer
  have hsize : clampU16 geo.h = e.height := congrArg Prod.snd h.size
  have hsmall := h.small.2
  unfold clampU16 at hsize
  omega

def painted (root : ObjectId) (s : State) (e : WindowEntry) (geo : Rect) : Canvas :=
  ((s.trees root).visit 0 0).foldl (compositeSurface root geo e.width e.height) (s.surfaces, e.damage, e.fb)

theorem Canvassed.fb (h : Canvassed root s e geo p) (hxy : Reaches geo.w geo.h x y) :
    ((painted root s e geo).2.2 x y).forceOpaque = picture s root geo x y := by
  obtain ⟨sb, hsb, hl, ht, hw, hh, hr, hb⟩ := h.buffer
  have hrchs : Reaches sb.width sb.height (x + geo.x) (y + geo.y) := by
    unfold Reaches at hxy ⊢
    omega
  unfold painted picture composite
  rw [foldl_compositeSurface_fb h.placed (h.width ▸ h.height ▸ hxy)]
  exact congrArg _ (foldl_shade_rooted h.rooted hsb hrchs _ _)

theorem Canvassed.damage (h : Canvassed root s e geo p) (hstrm : s.streaming = true)
    (hboxed : e.damage.full = true ∨ e.damage.bbox = none) (hxy : Reaches geo.w geo.h x y)
    (hpend : Pending s root e geo x y) :
    ∃ r, (painted root s e geo).2.1.take e.width e.height = some r ∧ r.Contains x y := by
  obtain ⟨sb, -, -, -, hw, hh, -, -⟩ := h.buffer
  obtain ⟨hwide, hhigh⟩ := h.small
  have hx : 0 ≤ x ∧ x < e.width := h.width ▸ hxy.1
  have hy : 0 ≤ y ∧ y < e.height := h.height ▸ hxy.2
  have hwd : e.width < 2 ^ 31 := by
    rw [h.width]
    omega
  have hht : e.height < 2 ^ 31 := by
    rw [h.height]
    omega
  by_cases hfull : e.damage.full = true
  · have hpntd : (painted root s e geo).2.1.full = true := (foldl_compositeSurface_full _).trans hfull
    refine ⟨_, DamageAccumulator.take_of_full hpntd ⟨by omega, hwd⟩ ⟨by omega, hht⟩, ?_⟩
    unfold Rect.Contains
    dsimp only
    omega
  · have hfits : e.damage.Fits p := by
      intro b hb
      exact absurd (hb.symm.trans (hboxed.resolve_left hfull)) (by simp)
    obtain ⟨hfits', hcvs⟩ := foldl_compositeSurface_damage root e.width e.height
      (s.surfaces, e.damage, e.fb) h.placed h.once hfits
    have hdmgd : ∃ v ∈ (s.trees root).visit 0 0,
        Damaged (s.surfaces v.1) (x + geo.x - v.2.1) (y + geo.y - v.2.2) := by
      refine (hpend.resolve_left ?_).2
      rintro (hidle | hfull' | hne)
      · exact absurd (hstrm.symm.trans hidle) (by decide)
      · exact hfull hfull'
      · exact hne h.size
    exact (hcvs x y (.inr hdmgd)).take hfits' hwd hht hx hy

theorem paste_crop {m fb : Image} {r : Rect} {w h : Int} (hr : r.Within w h) (hw : w ≤ 32768) (hh : h ≤ 32768) :
    paste m (.putImage u (asI16 r.x) (asI16 r.y) (asU16 r.w) (asU16 r.h) (forceOpaque (cropRgba fb r))) x y =
      if r.x ≤ x ∧ x < r.x + r.w ∧ r.y ≤ y ∧ y < r.y + r.h then (fb x y).forceOpaque else m x y := by
  obtain ⟨hleft, htop, hwide, hhigh, hright, hbot⟩ := hr
  have hrchs : Reaches r.w r.h (x - r.x) (y - r.y) ↔ r.x ≤ x ∧ x < r.x + r.w ∧ r.y ≤ y ∧ y < r.y + r.h := by
    unfold Reaches
    omega
  unfold paste
  rw [asI16_eq_self hleft (by omega), asI16_eq_self htop (by omega), asU16_eq_self (by omega) (by omega),
    asU16_eq_self (by omega) (by omega)]
  have hx : r.x + (x - r.x) = x := by omega
  have hy : r.y + (y - r.y) = y := by omega
  simp only [hrchs, forceOpaque, cropRgba, hx, hy]

structure Repainted (root : ObjectId) (u : Uuid) (base : Nat) (before : Image) (s s' : State) (e : WindowEntry)
    (geo : Rect) : Prop where
  length : base ≤ s'.sent.length
  entry : ∃ e', s'.entries root = some e' ∧ e'.uuid = u ∧ (e'.damage.full = true ∨ e'.damage.bbox = none)
  pixels : ∀ x y, Reaches geo.w geo.h x y → mirror u base before s' x y = picture s root geo x y ∨
    mirror u base before s' x y = mirror u base before s x y ∧ ¬Pending s root e geo x y

theorem Canvassed.compositeAndEmit (h : Canvassed root s e geo p) (before : Image) (hstrm : s.streaming = true)
    (hlen : base ≤ s.sent.length) (hboxed : e.damage.full = true ∨ e.damage.bbox = none) (hu : e.uuid = u) :
    Repainted root u base before s (compositeAndEmit true s root geo) e geo := by
  obtain ⟨hwide, hhigh⟩ := h.small
  have hpntd : painted root s e geo =
    ((s.trees root).visit 0 0).foldl (compositeSurface root geo e.width e.height) (s.surfaces, e.damage, e.fb) := rfl
  simp only [WaylandWindows.compositeAndEmit, h.entry, ← hpntd]
  split
  · next hclean =>
    obtain ⟨hdirty, hdmg⟩ : e.dirty = false ∧ e.damage.full = false ∧ e.damage.bbox = none := by
      simpa [DamageAccumulator.isDirty] using hclean
    refine ⟨hlen, ⟨e, h.entry, hu, .inr hdmg.2⟩, fun x y _ => .inr ⟨rfl, ?_⟩⟩
    rintro ((hidle | hfull | hne) | ⟨hdirty', -⟩)
    · exact absurd (hstrm.symm.trans hidle) (by decide)
    · exact absurd (hdmg.1.symm.trans hfull) (by decide)
    · exact hne h.size
    · exact absurd (hdirty.symm.trans hdirty') (by decide)
  · cases htake : (painted root s e geo).2.1.take e.width e.height with
    | none =>
      refine ⟨hlen, ⟨_, update_self .., hu, .inr rfl⟩, fun x y hxy => .inr ⟨rfl, ?_⟩⟩
      intro hpend
      obtain ⟨r, hr, -⟩ := h.damage hstrm hboxed hxy hpend
      exact absurd (htake.symm.trans hr) (by simp)
    | some rect =>
      have hwithin := DamageAccumulator.within_of_take htake
      rw [h.width, h.height] at hwithin
      refine ⟨?_, ⟨_, update_self .., hu, .inr rfl⟩, fun x y hxy => ?_⟩
      · simp only [if_true, emitImage, State.send, State.setEntry, length_append]
        exact Nat.le_add_right_of_le hlen
      · simp only [if_true]
        rw [mirror_append hlen rfl]
        subst hu
        simp only [historyOf, DisplayUpdate.windowId, beq_self_eq_true, filter_cons_of_pos, filter_nil,
          foldl_cons, foldl_nil]
        rw [paste_crop hwithin hwide hhigh]
        split
        · exact .inl (h.fb hxy)
        · next houtside =>
          refine .inr ⟨rfl, fun hpend => houtside ?_⟩
          obtain ⟨r, hr, hhas⟩ := h.damage hstrm hboxed hxy hpend
          obtain rfl : rect = r := some.inj (htake.symm.trans hr)
          exact ⟨hhas.1.1, hhas.1.2, hhas.2⟩

theorem Repainted.exact (h : Repainted root u base before s s' e geo) (himgs : SameImages s s')
    (hgeo : geometryOf s root = some geo)
    (hbef : ∀ x y, Reaches geo.w geo.h x y →
      mirror u base before s x y = picture s root geo x y ∨ Pending s root e geo x y) :
    Exact root u base before s' := by
  intro geo' hgeo' x y hxy
  rw [himgs.geometryOf] at hgeo'
  obtain rfl : geo = geo' := some.inj (hgeo.symm.trans hgeo')
  rw [himgs.picture]
  obtain hnew | ⟨hold, hnot⟩ := h.pixels x y hxy
  · exact hnew
  · exact hold.trans ((hbef x y hxy).resolve_right hnot)

theorem tracks_of_exact (hlen : base ≤ s.sent.length) (hexact : Exact root u base before s)
    (hboxed : ∀ e, s.entries root = some e → e.damage.full = true ∨ e.damage.bbox = none) :
    Tracks root u base before s :=
  ⟨hlen, fun e he _ => .inr (hboxed e he), fun _ geo _ _ hgeo x y hxy => .inl (hexact geo hgeo x y hxy)⟩

end Painting

section Ticks

structure Ticking (root : ObjectId) (u : Uuid) (base : Nat) (before : Image) (s : State) : Prop extends
    Registry s, Tracks root u base before s where
  present : ∃ e, s.entries root = some e ∧ e.uuid = u
  streaming : s.streaming = true
  rooted : (root, 0, 0) ∈ (s.trees root).visit 0 0
  once : (((s.trees root).visit 0 0).map (·.1)).Nodup
  paintable : Paintable root s

theorem Ticking.next (h : Ticking root u base before s) (hreg : Registry s')
    (htrks : Tracks root u base before s') (hpresent : ∃ e, s'.entries root = some e ∧ e.uuid = u)
    (hstrm : s'.streaming = s.streaming) (himgs : SameImages s s') : Ticking root u base before s' :=
  ⟨hreg, htrks, hpresent, hstrm.trans h.streaming, himgs.trees ▸ h.rooted, himgs.trees ▸ h.once,
    himgs.paintable h.paintable⟩

def Unstalled (root : ObjectId) (s : State) : Prop :=
  ∃ e, s.entries root = some e ∧ (s.surfaces root).isSome = true ∧ e.pendingUnmap = false ∧
    (e.created = true → s.router.mayEmit e.uuid = true)

theorem tickWindow_unpainted {id : ObjectId} {consuming : Bool} (h : (announce s id).2 = none) :
    tickWindow consuming s id = (announce s id).1 := by
  unfold tickWindow
  generalize announce s id = a at h ⊢
  obtain ⟨s', painted⟩ := a
  obtain rfl : painted = none := h
  rfl

theorem tickWindow_painted {id : ObjectId} {consuming created : Bool} (h : (announce s id).2 = some (geo, created)) :
    tickWindow consuming s id = if !created && stalls consuming (announce s id).1 id then (announce s id).1
      else compositeAndEmit consuming (announce s id).1 id geo := by
  unfold tickWindow
  generalize announce s id = a at h ⊢
  obtain ⟨s', painted⟩ := a
  obtain rfl : painted = some (geo, created) := h
  rfl

theorem tickWindow_sameImages (s : State) (id : ObjectId) (consuming : Bool) : SameImages s (tickWindow consuming s id) := by
  have hann := SameImages.of_scene (announce_sameScene s id)
  cases hpntd : (announce s id).2 with
  | none =>
    rw [tickWindow_unpainted hpntd]
    exact hann
  | some p =>
    rw [tickWindow_painted hpntd]
    split
    · exact hann
    · exact hann.trans (compositeAndEmit_sameImages _ _ _ _)

theorem Ticking.announce (h : Ticking root u base before s) (he : s.entries root = some e)
    (he' : (announce s root).1.entries root = some e') (hu : e'.uuid = e.uuid) :
    Ticking root u base before (announce s root).1 := by
  obtain ⟨e₀, he₀, hu₀⟩ := h.present
  obtain rfl : e = e₀ := some.inj (he.symm.trans he₀)
  obtain ⟨_, -, haffects, -⟩ := announce_affects s root
  exact h.next (h.toRegistry.affects haffects) (h.toTracks.announce he) ⟨e', he', hu.trans hu₀⟩
    (FrameCredit.announce_silent s root).streaming (.of_scene (announce_sameScene s root))

theorem Ticking.compositeAndEmit (h : Ticking root u base before s) (he : s.entries root = some e)
    (hgeo : geometryOf s root = some geo) (hsize : paintedSize geo = (e.width, e.height)) :
    Ticking root u base before (compositeAndEmit true s root geo) ∧
      Exact root u base before (compositeAndEmit true s root geo) := by
  obtain ⟨e₀, he₀, hu⟩ := h.present
  obtain rfl : e = e₀ := some.inj (he.symm.trans he₀)
  obtain ⟨hsmall, p, hplcd⟩ := h.paintable geo hgeo
  have hboxed : e.damage.full = true ∨ e.damage.bbox = none := by
    refine (h.boxed e he hu).resolve_left fun hidle => ?_
    exact absurd (h.streaming.symm.trans hidle) (by decide)
  have hcanvassed : Canvassed root s e geo p := ⟨he, hgeo, hsize, hsmall, h.rooted, h.once, hplcd⟩
  have hrepainted := hcanvassed.compositeAndEmit before h.streaming h.length hboxed hu
  have himgs := compositeAndEmit_sameImages s root true geo
  have hexact := hrepainted.exact himgs hgeo (h.mirrored e geo he hu hgeo)
  obtain ⟨e₁, he₁, hu₁, hboxed₁⟩ := hrepainted.entry
  have htrks : Tracks root u base before (WaylandWindows.compositeAndEmit true s root geo) := by
    refine tracks_of_exact hrepainted.length hexact fun e' he' => ?_
    obtain rfl : e₁ = e' := some.inj (he₁.symm.trans he')
    exact hboxed₁
  have hstrm : (WaylandWindows.compositeAndEmit true s root geo).streaming = s.streaming := by
    obtain hsil | ⟨-, _, _, _, -, hsil⟩ := FrameCredit.compositeAndEmit_silent s root true geo
    · exact hsil.streaming
    · exact hsil.streaming
  have hreg := h.toRegistry.affects (compositeAndEmit_affects s root true geo)
  exact ⟨h.next hreg htrks ⟨e₁, he₁, hu₁⟩ hstrm himgs, hexact⟩

theorem Ticking.tickRoot (h : Ticking root u base before s) :
    Ticking root u base before (tickWindow true s root) ∧
      (Exact root u base before s ∨ Unstalled root s → Exact root u base before (tickWindow true s root)) := by
  obtain ⟨e, he, hu⟩ := h.present
  have hsil := FrameCredit.announce_silent s root
  have hkept : Exact root u base before s → Exact root u base before (WaylandWindows.announce s root).1 :=
    exact_congr (.of_scene (announce_sameScene s root)) (mirror_silent hsil h.length)
  by_cases hnone : e.pendingUnmap = true ∨ geometryOf s root = none
  · obtain ⟨hunpainted, e₁, he₁, howes⟩ := announce_owes he hnone
    rw [tickWindow_unpainted hunpainted]
    refine ⟨h.announce he he₁ howes.uuid, fun hexact => hkept (hexact.resolve_right ?_)⟩
    rintro ⟨e', he', hbuf, hp, -⟩
    obtain rfl : e = e' := some.inj (he.symm.trans he')
    obtain hpend | hgeo := hnone
    · exact absurd (hp.symm.trans hpend) (by decide)
    · rw [map_eq_none_iff.mp hgeo] at hbuf
      cases hbuf
  · obtain ⟨hp, hgeo⟩ := not_or.mp hnone
    obtain ⟨geo, hgeo⟩ := ne_none_iff_exists'.mp hgeo
    obtain ⟨hpntd, e₁, he₁, hreadied⟩ := announce_readied he (by simpa using hp) hgeo
    have hann := h.announce he he₁ hreadied.uuid
    rw [tickWindow_painted hpntd]
    split
    · next hstalled =>
      refine ⟨hann, fun hexact => hkept (hexact.resolve_right ?_)⟩
      rintro ⟨e', he', -, -, hcred⟩
      obtain rfl : e = e' := some.inj (he.symm.trans he')
      obtain ⟨hc, hout⟩ : e.created = true ∧ (WaylandWindows.announce s root).1.router.mayEmit e₁.uuid = false := by
        simpa [stalls, he₁] using hstalled
      have hmay := hcred hc
      rw [WindowRouter.mayEmit, ← hsil.pending, ← hreadied.uuid, ← WindowRouter.mayEmit] at hmay
      exact absurd (hout.symm.trans hmay) (by decide)
    · have hgeo' : geometryOf (WaylandWindows.announce s root).1 root = some geo :=
        ((SameImages.of_scene (announce_sameScene s root)).geometryOf root).trans hgeo
      obtain ⟨hticking, hexact⟩ := hann.compositeAndEmit he₁ hgeo' hreadied.size.symm
      exact ⟨hticking, fun _ => hexact⟩

/-- The window, its surfaces and its credit are the same, and no image of it has been sent. -/
structure Aside (root : ObjectId) (u : Uuid) (s s' : State) : Prop where
  entry : s'.entries root = s.entries root
  images : SameImages s s'
  surfaces : ∀ v ∈ (s.trees root).visit 0 0, s'.surfaces v.1 = s.surfaces v.1
  streaming : s'.streaming = s.streaming
  pending : s'.router.pending u = s.router.pending u
  sent : ∃ new, s'.sent = s.sent ++ new ∧ ∀ x ∈ historyOf u new, x.2.isPutImage = false

theorem Aside.refl (s : State) : Aside root u s s :=
  ⟨rfl, ⟨rfl, rfl, fun _ => rfl⟩, fun _ _ => rfl, rfl, rfl, [], by simp, by simp [historyOf]⟩

theorem Aside.trans (h : Aside root u s s') (h' : Aside root u s' s'') : Aside root u s s'' := by
  obtain ⟨new, hsent, hnew⟩ := h.sent
  obtain ⟨new', hsent', hnew'⟩ := h'.sent
  refine ⟨h'.entry.trans h.entry, h.images.trans h'.images, fun v hv => ?_, h'.streaming.trans h.streaming,
    h'.pending.trans h.pending, new ++ new', by rw [hsent', hsent, append_assoc], fun x hx => ?_⟩
  · exact (h'.surfaces v (h.images.trees ▸ hv)).trans (h.surfaces v hv)
  · rw [historyOf_append] at hx
    exact (mem_append.mp hx).elim (hnew x) (hnew' x)

variable {r : ObjectId}

theorem announce_aside (hr : r ≠ root) : Aside root u s (announce s r).1 := by
  have hscene := announce_sameScene s r
  have hsil := FrameCredit.announce_silent s r
  obtain ⟨_, -, haffects, -⟩ := announce_affects s r
  obtain ⟨new, hsent, hnew⟩ := hsil.sent
  refine ⟨?_, .of_scene hscene, fun v _ => by rw [hscene.surfaces], hsil.streaming, by rw [hsil.pending], new,
    hsent, fun x hx => hnew x (mem_of_mem_filter hx)⟩
  obtain hu | ⟨e, e', us, ht, -⟩ := haffects
  · rw [hu.entries]
  · rw [ht.entries, update_of_ne hr.symm]

theorem compositeAndEmit_aside (hr : r ≠ root) (hu : ∀ e, s.entries r = some e → e.uuid ≠ u)
    (hapart : ∀ v ∈ (s.trees root).visit 0 0, v.1 ∉ ((s.trees r).visit 0 0).map (·.1)) (consuming : Bool)
    (geo : Rect) : Aside root u s (compositeAndEmit consuming s r geo) := by
  cases he : s.entries r with
  | none =>
    simp only [compositeAndEmit, he]
    exact .refl s
  | some e =>
    simp only [compositeAndEmit, he]
    split
    · exact .refl s
    · generalize hcnv : List.foldl _ _ _ = canvas
      have himgs : ∀ i, (canvas.1 i).map imageOf = (s.surfaces i).map imageOf := by
        rw [← hcnv]
        exact foldl_compositeSurface_images _
      have hsurfs : ∀ v ∈ (s.trees root).visit 0 0, canvas.1 v.1 = s.surfaces v.1 := by
        rw [← hcnv]
        exact fun v hv => foldl_compositeSurface_of_notMem _ (hapart v hv)
      have hset : Aside root u s ({ s with surfaces := canvas.1 }.setEntry r
          { e with dirty := false, damage := .new, fb := canvas.2.2 }) :=
        ⟨update_of_ne hr.symm _ _, ⟨rfl, rfl, himgs⟩, hsurfs, rfl, rfl, [], by simp [State.setEntry],
          by simp [historyOf]⟩
      split
      · exact hset
      · next rect _ =>
        split
        · refine hset.trans ⟨rfl, ⟨rfl, rfl, fun _ => rfl⟩, fun _ _ => rfl, rfl, ?_, _, rfl, ?_⟩
          · exact update_of_ne (hu e he).symm _ _
          · simp [historyOf, DisplayUpdate.windowId, hu e he]
        · exact hset

theorem tickWindow_aside (hreg : Registry s) (he : s.entries root = some e) (hu : e.uuid = u) (hr : r ≠ root)
    (hapart : ∀ v ∈ (s.trees root).visit 0 0, v.1 ∉ ((s.trees r).visit 0 0).map (·.1)) (consuming : Bool) :
    Aside root u s (tickWindow consuming s r) := by
  have hann := announce_aside (u := u) (s := s) hr
  obtain ⟨_, -, haffects, -⟩ := announce_affects s r
  have hreg' := hreg.affects haffects
  cases hpntd : (announce s r).2 with
  | none =>
    rw [tickWindow_unpainted hpntd]
    exact hann
  | some p =>
    rw [tickWindow_painted hpntd]
    split
    · exact hann
    · refine hann.trans (compositeAndEmit_aside hr (fun e' he' heq => hr ?_) ?_ _ _)
      · exact hreg'.distinct r root e' e he' (hann.entry.trans he) (heq.trans hu.symm)
      · rw [hann.images.trees]
        exact hapart

theorem Aside.length (h : Aside root u s s') (hlen : base ≤ s.sent.length) : base ≤ s'.sent.length := by
  obtain ⟨new, hsent, -⟩ := h.sent
  rw [hsent, length_append]
  exact Nat.le_add_right_of_le hlen

theorem Aside.mirror (h : Aside root u s s') (hlen : base ≤ s.sent.length) :
    mirror u base before s' = mirror u base before s := by
  obtain ⟨new, hsent, hnew⟩ := h.sent
  exact mirror_eq_of_silent hlen hsent hnew

theorem Tracks.aside (h : Tracks root u base before s) (haside : Aside root u s s') : Tracks root u base before s' := by
  refine h.keep haside.images (haside.length h.length) (haside.mirror h.length) fun e he _ => ?_
  refine ⟨e, haside.entry ▸ he, rfl, fun hboxed => haside.streaming ▸ hboxed, fun geo _ x y hpend => ?_⟩
  unfold Pending FrameDue at hpend ⊢
  rw [haside.streaming, haside.images.trees]
  refine hpend.imp_right fun ⟨hdirty, v, hv, hdmgd⟩ => ⟨hdirty, v, hv, ?_⟩
  rwa [haside.surfaces v hv]

theorem Ticking.tickOther (h : Ticking root u base before s) (hr : r ≠ root)
    (hapart : ∀ v ∈ (s.trees root).visit 0 0, v.1 ∉ ((s.trees r).visit 0 0).map (·.1)) :
    Ticking root u base before (tickWindow true s r) ∧
      (Exact root u base before s → Exact root u base before (tickWindow true s r)) ∧
      (Unstalled root s → Unstalled root (tickWindow true s r)) := by
  obtain ⟨e, he, hu⟩ := h.present
  have haside := tickWindow_aside h.toRegistry he hu hr hapart true
  refine ⟨?_, exact_congr haside.images (haside.mirror h.length), ?_⟩
  · exact h.next (registry_tickWindow h.toRegistry true) (h.toTracks.aside haside) ⟨e, haside.entry.trans he, hu⟩
      haside.streaming haside.images
  · rintro ⟨e', he', hbuf, hp, hcred⟩
    obtain rfl : e = e' := some.inj (he.symm.trans he')
    refine ⟨e, haside.entry.trans he, ?_, hp, fun hc => ?_⟩
    · rw [haside.surfaces (root, 0, 0) h.rooted]
      exact hbuf
    · rw [WindowRouter.mayEmit, hu, haside.pending, ← hu, ← WindowRouter.mayEmit]
      exact hcred hc

theorem Ticking.foldl (rs : List ObjectId) (h : Ticking root u base before s)
    (hapart : ∀ r ∈ rs, r ≠ root → ∀ v ∈ (s.trees root).visit 0 0, v.1 ∉ ((s.trees r).visit 0 0).map (·.1)) :
    Ticking root u base before (rs.foldl (tickWindow true) s) ∧
      (Exact root u base before s ∨ root ∈ rs ∧ Unstalled root s →
        Exact root u base before (rs.foldl (tickWindow true) s)) := by
  induction rs generalizing s with
  | nil => exact ⟨h, fun hexact => hexact.resolve_right (by simp)⟩
  | cons r rs ih =>
    obtain ⟨hfst, hrest⟩ := forall_mem_cons.mp hapart
    rw [← (tickWindow_sameImages s r true).trees] at hrest
    rw [foldl_cons]
    by_cases hr : r = root
    · subst hr
      obtain ⟨hticking, hexact⟩ := h.tickRoot
      obtain ⟨hlast, hlater⟩ := ih hticking hrest
      exact ⟨hlast, fun hbef => hlater (.inl (hexact (hbef.imp_right And.right)))⟩
    · obtain ⟨hticking, hexact, hunstalled⟩ := h.tickOther hr (hfst hr)
      obtain ⟨hlast, hlater⟩ := ih hticking hrest
      refine ⟨hlast, fun hbef => hlater (hbef.imp hexact fun ⟨hmem, hfree⟩ => ⟨?_, hunstalled hfree⟩)⟩
      exact (mem_cons.mp hmem).resolve_left (Ne.symm hr)

theorem observe_eq (hcons : s.router.consuming = true) (hstrm : s.streaming = false) :
    observe s = { s with
      streaming := true
      router := s.router.clearPending
      entries := fun id => (s.entries id).map fun e => { e with damage := e.damage.markFull } } := by
  simp [observe, hcons, hstrm]

theorem Tracks.observe (h : Tracks root u base before s) (hcons : s.router.consuming = true) :
    Tracks root u base before (observe s) := by
  cases hstrm : s.streaming with
  | true =>
    have hsame : WaylandWindows.observe s = s := by simp [WaylandWindows.observe, hcons, hstrm]
    rwa [hsame]
  | false =>
    rw [observe_eq hcons hstrm]
    refine h.keep ⟨rfl, rfl, fun _ => rfl⟩ h.length rfl fun e' he' _ => ?_
    obtain ⟨e, he, rfl⟩ := map_eq_some_iff.mp he'
    exact ⟨e, he, rfl, fun _ => .inr (.inl rfl), fun _ _ _ _ _ => .inl (.inr (.inl rfl))⟩

theorem observe_sameImages (s : State) : SameImages s (observe s) := by
  unfold observe
  split
  · exact ⟨rfl, rfl, fun _ => rfl⟩
  · dsimp only
    split <;> exact ⟨rfl, rfl, fun _ => rfl⟩

end Ticks

end X11Web.MirrorTicks
