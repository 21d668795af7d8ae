import X11Web.DamageBoxes
import X11Web.WaylandSteps

namespace X11Web.TreePainting

open WaylandPixels WaylandWindows WaylandSteps List Option

def imageOf (sb : SurfaceBuffer) : Image × Int × Int := (sb.rgba, sb.width, sb.height)

/-- Whether an image reaches to a point, which is given from the image's corner. -/
def Reaches (width height x y : Int) : Prop := (0 ≤ x ∧ x < width) ∧ 0 ≤ y ∧ y < height

instance (width height x y : Int) : Decidable (Reaches width height x y) :=
  inferInstanceAs (Decidable ((_ ∧ _) ∧ _ ∧ _))

/-- The pixel of a surface at a point, which is given from the surface's corner. -/
def pixelAt (surface : Option SurfaceBuffer) (x y : Int) : Option Pixel :=
  surface.bind fun sb => if Reaches sb.width sb.height x y then some (sb.rgba x y) else none

/-- What a surface of the tree makes of the pixel below it: the root is copied, the others are blended. -/
def shade (surfaces : ObjectId → Option SurfaceBuffer) (root : ObjectId) (x y : Int) (below : Pixel)
    (v : ObjectId × Int × Int) : Pixel :=
  match pixelAt (surfaces v.1) (x - v.2.1) (y - v.2.2) with
  | none => below
  | some p => if v.1 = root then p else p.blend below

def composite (s : State) (root : ObjectId) (x y : Int) : Pixel :=
  ((s.trees root).visit 0 0).foldl (shade s.surfaces root x y) opaqueBlack

variable {surfaces surfaces' : ObjectId → Option SurfaceBuffer} {root : ObjectId} {geo : Rect} {w h : Int}
  {canvas : Canvas} {v : ObjectId × Int × Int} {vs : List (ObjectId × Int × Int)} {p : Span} {x y : Int}

theorem pixelAt_congr {surface surface' : Option SurfaceBuffer}
    (himg : surface'.map imageOf = surface.map imageOf) : pixelAt surface' = pixelAt surface := by
  cases surface with
  | none => rw [map_eq_none_iff.mp himg]
  | some sb =>
    obtain ⟨sb', rfl, heq⟩ := map_eq_some_iff.mp himg
    obtain ⟨hrgba, hwd, hht⟩ : sb'.rgba = sb.rgba ∧ sb'.width = sb.width ∧ sb'.height = sb.height := by
      simpa [imageOf] using heq
    funext x y
    rw [pixelAt, pixelAt, bind_some, bind_some, hrgba, hwd, hht]

theorem shade_congr (hpixel : pixelAt (surfaces' v.1) (x - v.2.1) (y - v.2.2) =
    pixelAt (surfaces v.1) (x - v.2.1) (y - v.2.2)) (below : Pixel) :
    shade surfaces' root x y below v = shade surfaces root x y below v := by
  unfold shade
  rw [hpixel]

theorem foldl_shade_congr (hpx : ∀ v ∈ vs, pixelAt (surfaces' v.1) (x - v.2.1) (y - v.2.2) =
    pixelAt (surfaces v.1) (x - v.2.1) (y - v.2.2)) (below : Pixel) :
    vs.foldl (shade surfaces' root x y) below = vs.foldl (shade surfaces root x y) below :=
  foldl_ext _ _ _ fun below v hv => shade_congr (hpx v hv) below

theorem foldl_shade_rooted {sb : SurfaceBuffer} (hroot : (root, 0, 0) ∈ vs) (hsb : surfaces root = some sb)
    (hrchs : Reaches sb.width sb.height x y) (below below' : Pixel) :
    vs.foldl (shade surfaces root x y) below = vs.foldl (shade surfaces root x y) below' := by
  obtain ⟨lower, upper, rfl⟩ := append_of_mem hroot
  have hcopied : ∀ below, shade surfaces root x y below (root, 0, 0) = sb.rgba x y := by
    intro below
    simp [shade, pixelAt, hsb, hrchs]
  rw [foldl_append, foldl_append, foldl_cons, foldl_cons, hcopied, hcopied]

def placement (geo : Rect) (v : ObjectId × Int × Int) (sb : SurfaceBuffer) : Rect :=
  ⟨v.2.1 - geo.x, v.2.2 - geo.y, sb.width, sb.height⟩

def Placed (p : Span) (geo : Rect) (surfaces : ObjectId → Option SurfaceBuffer)
    (vs : List (ObjectId × Int × Int)) : Prop :=
  ∀ v ∈ vs, ∀ sb, surfaces v.1 = some sb → p.Around (placement geo v sb)

theorem placed_congr (himgs : ∀ i, (surfaces' i).map imageOf = (surfaces i).map imageOf)
    (hplcd : Placed p geo surfaces vs) : Placed p geo surfaces' vs := by
  intro v hv sb hsb
  have himg := himgs v.1
  rw [hsb] at himg
  obtain ⟨sb', hsb', heq⟩ := map_eq_some_iff.mp himg.symm
  obtain ⟨-, hw, hh⟩ : sb'.rgba = sb.rgba ∧ sb'.width = sb.width ∧ sb'.height = sb.height := by
    simpa [imageOf] using heq
  have hp := hplcd v hv sb' hsb'
  rwa [placement, hw, hh] at hp

/-- Whether a surface's damage includes a point, which is given from the surface's corner. -/
def Damaged (surface : Option SurfaceBuffer) (x y : Int) : Prop :=
  ∃ sb d, surface = some sb ∧ sb.damage.take sb.width sb.height = some d ∧ d.Contains x y

section OneSurface

variable {sb : SurfaceBuffer}

theorem compositeSurface_images (i : ObjectId) :
    ((compositeSurface root geo w h canvas v).1 i).map imageOf = (canvas.1 i).map imageOf := by
  unfold compositeSurface
  split
  · rfl
  · next sb hsb =>
    by_cases hi : i = v.1
    · simp [hi, hsb, imageOf]
    · simp [Function.update_of_ne hi]

theorem compositeSurface_of_ne {i : ObjectId} (hi : i ≠ v.1) :
    (compositeSurface root geo w h canvas v).1 i = canvas.1 i := by
  unfold compositeSurface
  split
  · rfl
  · exact Function.update_of_ne hi _ _

theorem compositeSurface_full : (compositeSurface root geo w h canvas v).2.1.full = canvas.2.1.full := by
  have hadd : ∀ r, (canvas.2.1.add r).full = canvas.2.1.full := by
    intro r
    unfold DamageAccumulator.add
    split <;> rfl
  unfold compositeSurface
  split
  · rfl
  · dsimp only
    split
    · exact hadd _
    · rfl

theorem blit_eq {f : Pixel → Pixel → Pixel} {dst : Image} (hp : p.Around (placement geo v sb))
    (hxy : Reaches w h x y) :
    blit f dst w h sb.rgba sb.width sb.height (i32 (v.2.1 - geo.x)) (i32 (v.2.2 - geo.y)) x y =
      if Reaches sb.width sb.height (x + geo.x - v.2.1) (y + geo.y - v.2.2) then
        f (sb.rgba (x + geo.x - v.2.1) (y + geo.y - v.2.2)) (dst x y)
      else dst x y := by
  have hright : i32 (v.2.1 - geo.x + sb.width) = v.2.1 - geo.x + sb.width := hp.right_eq
  have hbot : i32 (v.2.2 - geo.y + sb.height) = v.2.2 - geo.y + sb.height := hp.bottom_eq
  have hleft : i32 (v.2.1 - geo.x) = v.2.1 - geo.x := hp.left_eq
  have htop : i32 (v.2.2 - geo.y) = v.2.2 - geo.y := hp.top_eq
  have hwide : 0 < sb.width := hp.wide
  have hhigh : 0 < sb.height := hp.high
  have hx : x - (v.2.1 - geo.x) = x + geo.x - v.2.1 := by omega
  have hy : y - (v.2.2 - geo.y) = y + geo.y - v.2.2 := by omega
  have hovl : Overlaps w h sb.width sb.height (v.2.1 - geo.x) (v.2.2 - geo.y) x y ↔
      Reaches sb.width sb.height (x + geo.x - v.2.1) (y + geo.y - v.2.2) := by
    unfold Overlaps Reaches at *
    rw [hright, hbot]
    omega
  unfold blit
  rw [hleft, htop, hx, hy]
  simp only [hovl]

theorem compositeSurface_fb (hplcd : ∀ sb, canvas.1 v.1 = some sb → p.Around (placement geo v sb))
    (hxy : Reaches w h x y) :
    (compositeSurface root geo w h canvas v).2.2 x y =
      shade canvas.1 root (x + geo.x) (y + geo.y) (canvas.2.2 x y) v := by
  unfold compositeSurface shade
  cases hsb : canvas.1 v.1 with
  | none => rfl
  | some sb =>
    have hp := hplcd sb hsb
    dsimp only [pixelAt, bind_some]
    by_cases hroot : v.1 = root
    · rw [if_pos hroot, blitCopy, blit_eq hp hxy]
      split <;> rfl
    · rw [if_neg hroot, blitOver, blit_eq hp hxy]
      split <;> rfl

theorem around_translate {d : Rect} (hp : p.Around (placement geo v sb)) (hd : d.Within sb.width sb.height) :
    d.translate (i32 (v.2.1 - geo.x)) (i32 (v.2.2 - geo.y)) = ⟨d.x + (v.2.1 - geo.x), d.y + (v.2.2 - geo.y), d.w, d.h⟩ ∧
      p.Around ⟨d.x + (v.2.1 - geo.x), d.y + (v.2.2 - geo.y), d.w, d.h⟩ := by
  have hleft : i32 (v.2.1 - geo.x) = v.2.1 - geo.x := hp.left_eq
  have htop : i32 (v.2.2 - geo.y) = v.2.2 - geo.y := hp.top_eq
  have hins : p.Around ⟨d.x + (v.2.1 - geo.x), d.y + (v.2.2 - geo.y), d.w, d.h⟩ := by
    obtain ⟨-, -, hl, ht, hr, hb⟩ := hp
    obtain ⟨hdl, hdt, hdw, hdh, hdr, hdb⟩ := hd
    dsimp only [placement] at hl ht hr hb
    constructor <;> dsimp only <;> omega
  refine ⟨?_, hins⟩
  have hx : i32 (d.x + (v.2.1 - geo.x)) = d.x + (v.2.1 - geo.x) := hins.left_eq
  have hy : i32 (d.y + (v.2.2 - geo.y)) = d.y + (v.2.2 - geo.y) := hins.top_eq
  rw [Rect.translate, hleft, htop, hx, hy]

theorem compositeSurface_damage (root : ObjectId) (w h : Int)
    (hplcd : ∀ sb, canvas.1 v.1 = some sb → p.Around (placement geo v sb))
    (hfits : canvas.2.1.Fits p) :
    (compositeSurface root geo w h canvas v).2.1.Fits p ∧
      ∀ x y, canvas.2.1.Covers x y ∨ Damaged (canvas.1 v.1) (x + geo.x - v.2.1) (y + geo.y - v.2.2) →
        (compositeSurface root geo w h canvas v).2.1.Covers x y := by
  unfold compositeSurface
  cases hsb : canvas.1 v.1 with
  | none =>
    refine ⟨hfits, fun x y hc => hc.resolve_right ?_⟩
    rintro ⟨sb, d, ⟨⟩, -⟩
  | some sb =>
    dsimp only
    cases htake : sb.damage.take sb.width sb.height with
    | none =>
      refine ⟨hfits, fun x y hc => hc.resolve_right ?_⟩
      rintro ⟨sb', d, ⟨⟩, htake', -⟩
      exact absurd (htake.symm.trans htake') (by simp)
    | some d =>
      obtain ⟨heq, haround⟩ := around_translate (hplcd sb hsb) (DamageAccumulator.within_of_take htake)
      dsimp only
      rw [heq]
      refine ⟨hfits.add (.inr haround), fun x y hc => .add hfits (.inr haround) (hc.imp_right ?_)⟩
      rintro ⟨sb', d', ⟨⟩, htake', hhas⟩
      obtain rfl : d = d' := some.inj (htake.symm.trans htake')
      unfold Rect.Contains at hhas ⊢
      dsimp only
      omega

end OneSurface

section WholeTree

theorem foldl_compositeSurface_images (canvas : Canvas) (i : ObjectId) :
    ((vs.foldl (compositeSurface root geo w h) canvas).1 i).map imageOf = (canvas.1 i).map imageOf := by
  refine List.foldlRecOn (motive := fun c : Canvas => (c.1 i).map imageOf = (canvas.1 i).map imageOf) _ _ rfl
    fun c hc v _ => ?_
  rw [compositeSurface_images, hc]

theorem foldl_compositeSurface_of_notMem (canvas : Canvas) {i : ObjectId} (hi : i ∉ vs.map (·.1)) :
    (vs.foldl (compositeSurface root geo w h) canvas).1 i = canvas.1 i := by
  refine List.foldlRecOn (motive := fun c : Canvas => c.1 i = canvas.1 i) _ _ rfl fun c hc v hv => ?_
  have hne : i ≠ v.1 := by
    rintro rfl
    exact hi (mem_map_of_mem hv)
  rw [compositeSurface_of_ne hne, hc]

theorem foldl_compositeSurface_full (canvas : Canvas) :
    (vs.foldl (compositeSurface root geo w h) canvas).2.1.full = canvas.2.1.full := by
  refine List.foldlRecOn (motive := fun c : Canvas => c.2.1.full = canvas.2.1.full) _ _ rfl fun c hc v _ => ?_
  rw [compositeSurface_full, hc]

theorem Placed.tail (hplcd : Placed p geo canvas.1 (v :: vs)) :
    Placed p geo (compositeSurface root geo w h canvas v).1 vs :=
  placed_congr compositeSurface_images fun v' hv' => hplcd v' (mem_cons_of_mem v hv')

theorem foldl_compositeSurface_fb (hplcd : Placed p geo canvas.1 vs) (hxy : Reaches w h x y) :
    (vs.foldl (compositeSurface root geo w h) canvas).2.2 x y =
      vs.foldl (shade canvas.1 root (x + geo.x) (y + geo.y)) (canvas.2.2 x y) := by
  induction vs generalizing canvas with
  | nil => rfl
  | cons v vs ih =>
    rw [foldl_cons, foldl_cons, ih hplcd.tail,
      compositeSurface_fb (hplcd v mem_cons_self) hxy]
    exact foldl_shade_congr (fun v' _ => congrFun₂ (pixelAt_congr (compositeSurface_images v'.1)) _ _) _

theorem foldl_compositeSurface_damage (root : ObjectId) (w h : Int) (canvas : Canvas)
    (hplcd : Placed p geo canvas.1 vs) (honce : (vs.map (·.1)).Nodup) (hfits : canvas.2.1.Fits p) :
    (vs.foldl (compositeSurface root geo w h) canvas).2.1.Fits p ∧
      ∀ x y, (canvas.2.1.Covers x y ∨ ∃ v ∈ vs, Damaged (canvas.1 v.1) (x + geo.x - v.2.1) (y + geo.y - v.2.2)) →
        (vs.foldl (compositeSurface root geo w h) canvas).2.1.Covers x y := by
  induction vs generalizing canvas with
  | nil =>
    refine ⟨hfits, fun x y hc => hc.resolve_right ?_⟩
    rintro ⟨v, hv, -⟩
    cases hv
  | cons v vs ih =>
    obtain ⟨hv, honce⟩ := nodup_cons.mp honce
    obtain ⟨hfits', hcvs⟩ := compositeSurface_damage root w h
      (hplcd v mem_cons_self) hfits
    obtain ⟨hlast, hrest⟩ := ih _ hplcd.tail honce hfits'
    refine ⟨hlast, fun x y hc => hrest x y ?_⟩
    obtain hc | ⟨v', hv', hdmgd⟩ := hc
    · exact .inl (hcvs x y (.inl hc))
    · obtain rfl | hv' := mem_cons.mp hv'
      · exact .inl (hcvs x y (.inr hdmgd))
      · have hne : v'.1 ≠ v.1 := fun heq => hv (mem_map.mpr ⟨v', hv', heq⟩)
        obtain ⟨sb, d, hsb, htake, hhas⟩ := hdmgd
        exact .inr ⟨v', hv', sb, d, (compositeSurface_of_ne hne).trans hsb, htake, hhas⟩

end WholeTree

end X11Web.TreePainting
