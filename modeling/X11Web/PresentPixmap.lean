import X11Web.PresentedParts

namespace X11Web.PresentPixmap

open HashMaps Windows Pixels DirtyMirror Compositing ImagePixels List
open Drawables Presenting PresentedParts
open CopyRequests (checkI16)
open Exposures (checkI16_of_fits checkI16_of_not_fits checkI16_eq_some)
open HitTesting (IsI16 asI16_of_isI16)
open Regions (RegionRect XFixesRegion)

section Rounds

variable (req : PresentPixmapRequest) (src : SourceImage) (target : XId × Int × Int)

/-- The edges of what is drawn for a rectangle, the far ones as the damage has them. -/
def left (r : RegionRect) : Int := req.xOff.toInt + r.x.toInt
def top (r : RegionRect) : Int := req.yOff.toInt + r.y.toInt
def right (r : RegionRect) : Int := left req r + asI16 r.width.toNat
def bottom (r : RegionRect) : Int := top req r + asI16 r.height.toNat

def paintPlacement (w : XId) (x y : Int16) (p : Placement) (ws : PaintedWindows) : PaintedWindows :=
  editFramebuffer w (·.putImage x y p.width p.height p.data) ws

def paintRect (ws : PaintedWindows) (r : RegionRect) : PaintedWindows :=
  let p := placement req src r
  let ws := paintPlacement req.window p.x p.y p ws
  if target.1 ≠ req.window then
    paintPlacement target.1 (.ofInt (p.x.toInt + target.2.1)) (.ofInt (p.y.toInt + target.2.2)) p ws
  else ws

def extendBounds (b : DamageBounds) (r : RegionRect) : DamageBounds :=
  ⟨min b.minX (left req r), min b.minY (top req r), max b.maxX (right req r), max b.maxY (bottom req r)⟩

structure RectSafe (ws : PaintedWindows) (r : RegionRect) : Prop where
  column : IsI16 (left req r)
  row : IsI16 (top req r)
  drawn : ∀ win, ws.lookup req.window = some win → ¬ Negates win.framebuffer.height (left req r) (top req r) r
  shown : target.1 ≠ req.window → ∀ win, ws.lookup target.1 = some win →
    ¬ Negates win.framebuffer.height (asI16 (left req r + target.2.1)) (asI16 (top req r + target.2.2)) r
  right : IsI16 (right req r)
  bottom : IsI16 (bottom req r)

structure Repainted (ws ws' : PaintedWindows) : Prop where
  wellFormed : ∀ w win, ws'.lookup w = some win → WellFormed win.framebuffer
  heights : ∀ w, (ws'.lookup w).map (·.framebuffer.height) = (ws.lookup w).map (·.framebuffer.height)

variable {req src target} {ws ws' : PaintedWindows} {r : RegionRect}

theorem Repainted.refl (h : ∀ w win, ws.lookup w = some win → WellFormed win.framebuffer) : Repainted ws ws :=
  ⟨h, fun _ => rfl⟩

theorem Repainted.paint (h : Repainted ws ws') (w : XId) (x y : Int16) (p : Placement) :
    Repainted ws (paintPlacement w x y p ws') := by
  refine ⟨fun v win hwin => ?_, fun v => ?_⟩
  · rw [paintPlacement, lookup_editFramebuffer] at hwin
    split at hwin
    · obtain ⟨win', hlook, rfl⟩ := Option.map_eq_some_iff.mp hwin
      exact (putImage_draws (h.wellFormed w win' hlook) ..).wellFormed
    · exact h.wellFormed v win hwin
  · rw [← h.heights v, paintPlacement, lookup_editFramebuffer]
    split
    · next hv =>
      subst hv
      cases hlook : ws'.lookup v with
      | none => rfl
      | some win => exact congrArg some (putImage_draws (h.wellFormed v win hlook) ..).height
    · rfl

theorem Repainted.paintRect (h : Repainted ws ws') (r : RegionRect) :
    Repainted ws (paintRect req src target ws' r) := by
  rw [PresentPixmap.paintRect]
  split
  · exact (h.paint ..).paint ..
  · exact h.paint ..

theorem Repainted.forall_height (h : Repainted ws ws') (w : XId) (P : Nat → Prop) :
    (∀ win, ws'.lookup w = some win → P win.framebuffer.height) ↔
      ∀ win, ws.lookup w = some win → P win.framebuffer.height := by
  have hsame := h.heights w
  cases hwin' : ws'.lookup w with
  | none =>
    rw [hwin', Option.map_none, eq_comm, Option.map_eq_none_iff] at hsame
    simp [hsame]
  | some win' =>
    rw [hwin', Option.map_some, eq_comm, Option.map_eq_some_iff] at hsame
    obtain ⟨win, hwin, hht⟩ := hsame
    simp [hwin, hht]

theorem drawPlacement_eq_some (hwhole : SourceImage.Whole src) (h : InSource src.width src.height r) (w : XId)
    (x y : Int16) : drawPlacement w x y (placement req src r) ws = some ws' ↔
      (∀ win, ws.lookup w = some win → ¬ Negates win.framebuffer.height x.toInt y.toInt r) ∧
        paintPlacement w x y (placement req src r) ws = ws' := by
  rw [drawPlacement]
  cases hwin : ws.lookup w with
  | none =>
    have hsame : paintPlacement w x y (placement req src r) ws = ws := (modify_eq_self_iff _ _ _).mpr (by simp [hwin])
    simp [hsame]
  | some win =>
    simp only [Option.some.injEq, forall_eq', ← @negationOverflows_iff src r req hwhole h]
    split <;> simp_all [paintPlacement]

theorem presentRect_eq_some (hwhole : SourceImage.Whole src) (h : InSource src.width src.height r)
    (hws : Repainted ws ws') (b : DamageBounds) (acc : PaintedWindows × DamageBounds) :
    presentRect req src target (ws', b) r = some acc ↔
      RectSafe req target ws r ∧ (paintRect req src target ws' r, extendBounds req b r) = acc := by
  by_cases hfits : IsI16 (left req r) ∧ IsI16 (top req r)
  · obtain ⟨hx, hy⟩ := hfits
    have hpx : (placement req src r).x.toInt = left req r := Int16.toInt_ofInt_of_le hx.1 hx.2
    have hpy : (placement req src r).y.toInt = top req r := Int16.toInt_ofInt_of_le hy.1 hy.2
    have htoInt : ∀ n : Int, (Int16.ofInt n).toInt = asI16 n := fun _ => Int16.toInt_ofInt
    have hpntd := hws.paint req.window (placement req src r).x (placement req src r).y (placement req src r)
    have hright : left req r + asI16 (placement req src r).width.toNat = right req r := rfl
    have hbot : top req r + asI16 (placement req src r).height.toNat = bottom req r := rfl
    have hdrawn := hws.forall_height req.window fun n => ¬ Negates n (left req r) (top req r) r
    simp only [presentRect, place_of_fits hx hy, Option.bind_some, Option.bind_eq_some_iff, Option.map_eq_some_iff,
      drawPlacement_eq_some hwhole h, checkI16_eq_some, hpx, hpy, hright, hbot, hdrawn]
    by_cases htgt : target.1 ≠ req.window
    · have hshown := hpntd.forall_height target.1 fun n =>
        ¬ Negates n (asI16 (left req r + target.2.1)) (asI16 (top req r + target.2.2)) r
      simp only [if_pos htgt, drawPlacement_eq_some hwhole h, htoInt]
      constructor
      · rintro ⟨_, ⟨hwindow, rfl⟩, _, ⟨hpar, rfl⟩, _, ⟨hr, rfl⟩, _, ⟨hb, rfl⟩, rfl⟩
        refine ⟨⟨hx, hy, hwindow, fun _ => hshown.mp hpar, hr, hb⟩, ?_⟩
        rw [paintRect, if_pos htgt, hpx, hpy]
        rfl
      · rintro ⟨hsafe, rfl⟩
        refine ⟨_, ⟨hsafe.drawn, rfl⟩, _, ⟨hshown.mpr (hsafe.shown htgt), rfl⟩, _, ⟨hsafe.right, rfl⟩, _,
          ⟨hsafe.bottom, rfl⟩, ?_⟩
        rw [paintRect, if_pos htgt, hpx, hpy]
        rfl
    · simp only [if_neg htgt, Option.some_inj]
      constructor
      · rintro ⟨_, ⟨hwindow, rfl⟩, _, rfl, _, ⟨hr, rfl⟩, _, ⟨hb, rfl⟩, rfl⟩
        refine ⟨⟨hx, hy, hwindow, fun hne => absurd hne htgt, hr, hb⟩, ?_⟩
        rw [paintRect, if_neg htgt]
        rfl
      · rintro ⟨hsafe, rfl⟩
        refine ⟨_, ⟨hsafe.drawn, rfl⟩, _, rfl, _, ⟨hsafe.right, rfl⟩, _, ⟨hsafe.bottom, rfl⟩, ?_⟩
        rw [paintRect, if_neg htgt]
        rfl
  · rw [presentRect, place_of_not_fits hfits]
    simp only [Option.bind_none, reduceCtorEq, false_iff]
    exact fun hsafe => hfits ⟨hsafe.1.column, hsafe.1.row⟩

theorem presentRects_eq_some (hwhole : SourceImage.Whole src) {rects : List RegionRect}
    (hin : ∀ r ∈ rects, InSource src.width src.height r)
    (hws : ∀ w win, ws.lookup w = some win → WellFormed win.framebuffer) (b : DamageBounds)
    (acc : PaintedWindows × DamageBounds) :
    rects.foldlM (presentRect req src target) (ws, b) = some acc ↔
      (∀ r ∈ rects, RectSafe req target ws r) ∧
        acc = (rects.foldl (paintRect req src target) ws, rects.foldl (extendBounds req) b) := by
  let round := fun acc r => (paintRect req src target (Prod.fst acc) r, extendBounds req (Prod.snd acc) r)
  have hwins : rects.foldl (paintRect req src target) (Prod.fst (ws, b)) = (rects.foldl round (ws, b)).1 :=
    foldl_hom Prod.fst fun _ _ => rfl
  have hbds : rects.foldl (extendBounds req) (Prod.snd (ws, b)) = (rects.foldl round (ws, b)).2 :=
    foldl_hom Prod.snd fun _ _ => rfl
  rw [Runs.foldlM_eq_some_iff (I := fun acc => Repainted ws acc.1) (fun acc r hacc => hacc.paintRect r)
    (fun acc r acc' hr hacc => presentRect_eq_some hwhole (hin r hr) hacc acc.2 acc') (Repainted.refl hws)]
  refine and_congr_right fun _ => ?_
  rw [eq_comm, hwins, hbds]

theorem lookup_paintRect_window : (paintRect req src target ws r).lookup req.window =
    (ws.lookup req.window).map fun win =>
      let p := placement req src r
      { win with framebuffer := win.framebuffer.putImage p.x p.y p.width p.height p.data } := by
  rw [paintRect]
  split
  · next htgt => rw [paintPlacement, lookup_editFramebuffer, if_neg htgt.symm, paintPlacement,
      lookup_editFramebuffer, if_pos rfl]
  · rw [paintPlacement, lookup_editFramebuffer, if_pos rfl]

theorem lookup_paintRect_other {w : XId} (hwindow : w ≠ req.window) (htgt : w ≠ target.1) :
    (paintRect req src target ws r).lookup w = ws.lookup w := by
  rw [paintRect]
  split
  · rw [paintPlacement, lookup_editFramebuffer, if_neg htgt, paintPlacement, lookup_editFramebuffer,
      if_neg hwindow]
  · rw [paintPlacement, lookup_editFramebuffer, if_neg hwindow]

theorem lookup_paintRects_other (rects : List RegionRect) {w : XId} (hwindow : w ≠ req.window)
    (htgt : w ≠ target.1) : (rects.foldl (paintRect req src target) ws).lookup w = ws.lookup w := by
  induction rects generalizing ws with
  | nil => rfl
  | cons r rects ih => exact ih.trans (lookup_paintRect_other hwindow htgt)

def sourcePixel (req : PresentPixmapRequest) (src : SourceImage) (col row : Nat) : Bytes :=
  imagePixel src.data src.width.toNat (col - req.xOff.toInt).toNat (row - req.yOff.toInt).toNat

variable {win : PaintedWindow}

theorem paintRects_pixels (hwhole : SourceImage.Whole src) {rects : List RegionRect}
    (hin : ∀ r ∈ rects, InSource src.width src.height r) (hsafe : ∀ r ∈ rects, RectSafe req target ws r)
    (hws : ∀ w win, ws.lookup w = some win → WellFormed win.framebuffer)
    (hwin : ws.lookup req.window = some win) :
    ∃ win', (rects.foldl (paintRect req src target) ws).lookup req.window = some win' ∧
      win'.framebuffer.width = win.framebuffer.width ∧ win'.framebuffer.height = win.framebuffer.height ∧
      ∀ col < win.framebuffer.width, ∀ row < win.framebuffer.height,
        pixelAt win'.framebuffer col row =
          if ∃ r ∈ rects, ((col : Int) - req.xOff.toInt, (row : Int) - req.yOff.toInt) ∈ r.points then
            sourcePixel req src col row
          else pixelAt win.framebuffer col row := by
  induction rects using List.reverseRecOn with
  | nil => exact ⟨win, hwin, rfl, rfl, fun col _ row _ => by simp⟩
  | append_singleton rects r ih =>
    obtain ⟨win', hwin', hwd, hht, hpixels⟩ := ih (fun r hr => hin r (mem_append_left _ hr))
      fun r hr => hsafe r (mem_append_left _ hr)
    have hr : r ∈ rects ++ [r] := mem_append_right _ (mem_singleton_self r)
    have hround := hsafe r hr
    have hwell : WellFormed win'.framebuffer := by
      have hrepainted : Repainted ws (rects.foldl (paintRect req src target) ws) :=
        List.foldlRecOn rects _ (Repainted.refl hws) fun ws' h r _ => h.paintRect r
      exact hrepainted.wellFormed _ _ hwin'
    have hdrw := putImage_draws hwell (placement req src r).x (placement req src r).y (placement req src r).width
      (placement req src r).height (placement req src r).data
    refine ⟨_, by rw [foldl_concat, lookup_paintRect_window, hwin']; rfl, hdrw.width.trans hwd,
      hdrw.height.trans hht, fun col hcol row hrow => ?_⟩
    refine (pixelAt_placement hwell hwhole (hin r hr) hround.column hround.row
      (hht ▸ hround.drawn win hwin) (hwd ▸ hcol) (hht ▸ hrow)).trans ?_
    rw [hpixels col hcol row hrow, sourcePixel]
    simp only [mem_append, mem_singleton, or_and_right, exists_or, exists_eq_left]
    split <;> simp_all

end Rounds

section Bounds

variable {req : PresentPixmapRequest} {rects : List RegionRect}

theorem foldl_min_lt_iff {f : RegionRect → Int} {z y : Int} :
    rects.foldl (fun m r => min m (f r)) z < y ↔ z < y ∨ ∃ r ∈ rects, f r < y := by
  induction rects generalizing z with
  | nil => simp
  | cons r rects ih =>
    rw [List.foldl_cons, ih, min_lt_iff, List.exists_mem_cons_iff, or_assoc]

theorem lt_foldl_max_iff {f : RegionRect → Int} {z y : Int} :
    y < rects.foldl (fun m r => max m (f r)) z ↔ y < z ∨ ∃ r ∈ rects, y < f r := by
  induction rects generalizing z with
  | nil => simp
  | cons r rects ih =>
    rw [List.foldl_cons, ih, lt_max_iff, List.exists_mem_cons_iff, or_assoc]

theorem foldl_gap_iff {f g : RegionRect → Int} (hf : ∀ r ∈ rects, IsI16 (f r)) (hg : ∀ r ∈ rects, IsI16 (g r)) {k : Int}
    (hk : 0 ≤ k) :
    rects.foldl (fun m r => min m (f r)) (2 ^ 15 - 1) + k < rects.foldl (fun m r => max m (g r)) (-2 ^ 15) ↔
      ∃ r ∈ rects, ∃ r' ∈ rects, f r + k < g r' := by
  have hgap : ∀ a b : Int, a + k < b ↔ a < b - k := by omega
  rw [hgap, foldl_min_lt_iff, or_iff_right]
  · refine exists_congr fun r => and_congr_right fun hr => ?_
    rw [← hgap, lt_foldl_max_iff, or_iff_right]
    have := (hf r hr).1
    omega
  · rw [← hgap, lt_foldl_max_iff]
    rintro (hlt | ⟨r, hr, hlt⟩)
    · omega
    · have := (hg r hr).2
      omega

/-- The bounds of what was drawn on the window are not too far apart, if it is anything. -/
def DamageFits (req : PresentPixmapRequest) (rects : List RegionRect) : Prop :=
  (∃ r ∈ rects, ∃ r' ∈ rects, left req r < right req r') → (∃ r ∈ rects, ∃ r' ∈ rects, top req r < bottom req r') →
    ∀ r ∈ rects, ∀ r' ∈ rects, right req r' - left req r < 2 ^ 15 ∧ bottom req r' - top req r < 2 ^ 15

theorem foldl_extendBounds (b : DamageBounds) : rects.foldl (extendBounds req) b =
    ⟨rects.foldl (fun m r => min m (left req r)) b.minX, rects.foldl (fun m r => min m (top req r)) b.minY,
      rects.foldl (fun m r => max m (right req r)) b.maxX, rects.foldl (fun m r => max m (bottom req r)) b.maxY⟩ := by
  induction rects generalizing b with
  | nil => rfl
  | cons r rects ih => exact ih (extendBounds req b r)

theorem damageRect_isSome (b : DamageBounds) : (damageRect b).isSome ↔ (b.minX < b.maxX → b.minY < b.maxY →
    ¬ b.minX + (2 ^ 15 - 1) < b.maxX ∧ ¬ b.minY + (2 ^ 15 - 1) < b.maxY) := by
  rw [damageRect]
  by_cases hpos : b.minX < b.maxX ∧ b.minY < b.maxY
  · have hfitsX : IsI16 (b.maxX - b.minX) ↔ ¬ b.minX + (2 ^ 15 - 1) < b.maxX := by rw [IsI16]; omega
    have hfitsY : IsI16 (b.maxY - b.minY) ↔ ¬ b.minY + (2 ^ 15 - 1) < b.maxY := by rw [IsI16]; omega
    rw [if_pos hpos, imp_iff_right hpos.1, imp_iff_right hpos.2, ← hfitsX, ← hfitsY]
    by_cases hwd : IsI16 (b.maxX - b.minX)
    · by_cases hht : IsI16 (b.maxY - b.minY)
      · simp [checkI16_of_fits hwd, checkI16_of_fits hht, hwd, hht]
      · simp [checkI16_of_fits hwd, checkI16_of_not_fits hht, hht]
    · simp [checkI16_of_not_fits hwd, hwd]
  · rw [if_neg hpos]
    simp only [Option.isSome_some, true_iff]
    exact fun hx hy => absurd ⟨hx, hy⟩ hpos

theorem damageRect_isSome_iff {ws : PaintedWindows} {target : XId × Int × Int}
    (hsafe : ∀ r ∈ rects, RectSafe req target ws r) :
    (damageRect (rects.foldl (extendBounds req) .start)).isSome ↔ DamageFits req rects := by
  have hgapX := fun k hk => @foldl_gap_iff rects (left req) (right req) (fun r hr => (hsafe r hr).column)
    (fun r hr => (hsafe r hr).right) k hk
  have hgapY := fun k hk => @foldl_gap_iff rects (top req) (bottom req) (fun r hr => (hsafe r hr).row)
    (fun r hr => (hsafe r hr).bottom) k hk
  have hnear := hgapX 0 (Int.le_refl 0)
  have hnearY := hgapY 0 (Int.le_refl 0)
  simp only [Int.add_zero] at hnear hnearY
  rw [damageRect_isSome, foldl_extendBounds, DamageBounds.start]
  dsimp only
  rw [hnear, hnearY, hgapX _ (by decide), hgapY _ (by decide), DamageFits]
  refine imp_congr_right fun _ => imp_congr_right fun _ => ?_
  constructor
  · rintro ⟨hx, hy⟩ r hr r' hr'
    have hx' : ¬ left req r + (2 ^ 15 - 1) < right req r' := fun hlt => hx ⟨r, hr, r', hr', hlt⟩
    have hy' : ¬ top req r + (2 ^ 15 - 1) < bottom req r' := fun hlt => hy ⟨r, hr, r', hr', hlt⟩
    omega
  · intro h
    refine ⟨fun ⟨r, hr, r', hr', hlt⟩ => ?_, fun ⟨r, hr, r', hr', hlt⟩ => ?_⟩
    · have := (h r hr r' hr').1
      omega
    · have := (h r hr r' hr').2
      omega

end Bounds

/-- The framebuffers have the sizes of their drawables, of 16 bits. -/
structure SizesFit (ds : DrawableStore) : Prop where
  windows : ∀ w win, ds.windows.lookup w = some win → win.framebuffer.width < 2 ^ 16 ∧ win.framebuffer.height < 2 ^ 16
  pixmaps : ∀ p pix, ds.pixmaps.lookup p = some pix → pix.framebuffer.width < 2 ^ 16 ∧ pix.framebuffer.height < 2 ^ 16

theorem SizesFit.syncShmPixmap {ds : DrawableStore} (h : SizesFit ds) (drawable : XId) :
    SizesFit (syncShmPixmap drawable ds) := by
  simp only [Drawables.syncShmPixmap]
  split
  · exact h
  · refine ⟨h.windows, fun p pix hpix => ?_⟩
    rw [lookup_modify] at hpix
    split at hpix
    · obtain ⟨pix', hlook, rfl⟩ := Option.map_eq_some_iff.mp hpix
      exact h.pixmaps _ pix' hlook
    · exact h.pixmaps p pix hpix

theorem whole_of_wellFormed {fb : Framebuffer} (h : WellFormed fb) (hwd : fb.width < 2 ^ 16)
    (hht : fb.height < 2 ^ 16) (depth : UInt8) :
    SourceImage.Whole ⟨.ofNat fb.width, .ofNat fb.height, fb.data, depth⟩ := by
  rw [SourceImage.Whole, UInt16.toNat_ofNat', UInt16.toNat_ofNat', Nat.mod_eq_of_lt hwd, Nat.mod_eq_of_lt hht,
    h.length, h.stride, Nat.mul_comm fb.width fb.height, Nat.mul_assoc]

theorem sourceImage_whole {ds : DrawableStore} (hwell : AllWellFormed ds) (hsizes : SizesFit ds) {pixmap : XId}
    {src : SourceImage} (hsrc : sourceImage ds pixmap = some src) : SourceImage.Whole src := by
  rcases Option.or_eq_some_iff.mp hsrc with hwin | ⟨-, hpix⟩
  · obtain ⟨win, hlook, rfl⟩ := Option.map_eq_some_iff.mp hwin
    obtain ⟨hwd, hht⟩ := hsizes.windows _ win hlook
    exact whole_of_wellFormed (hwell.windows _ win hlook) hwd hht 24
  · obtain ⟨pix, hlook, rfl⟩ := Option.map_eq_some_iff.mp hpix
    obtain ⟨hwd, hht⟩ := hsizes.pixmaps _ pix hlook
    exact whole_of_wellFormed (hwell.pixmaps _ pix hlook) hwd hht pix.depth

/-- The points of the source that are to be presented: those of the region, or all if
none is given. -/
def ToPresent (region : Option XFixesRegion) (src : SourceImage) (i j : Int) : Prop :=
  ((0 ≤ i ∧ i < src.width.toNat) ∧ 0 ≤ j ∧ j < src.height.toNat) ∧ ∀ A, region = some A → (i, j) ∈ A.points

theorem copied_of_toPresent {region : Option XFixesRegion} {src : SourceImage} {i j : Int}
    (h : ToPresent region src i j) : Copied region i j := by
  cases region with
  | none => trivial
  | some A =>
    obtain ⟨r, hr, hpt⟩ := h.2 A rfl
    have hpt : (i, j) ∈ r.points := hpt
    have hin := h.1
    rw [mem_points] at hpt
    exact Or.inr ⟨r, hr, by rw [Shifted]; omega⟩

/-- The window shows the points of the source in their places, and its other pixels are
as they were. -/
structure ShowsRegion (req : PresentPixmapRequest) (region : Option XFixesRegion) (src : Option SourceImage)
    (fb fb' : Framebuffer) : Prop where
  width : fb'.width = fb.width
  height : fb'.height = fb.height
  shown : ∀ img, src = some img → ∀ col < fb.width, ∀ row < fb.height,
    ToPresent region img (col - req.xOff.toInt) (row - req.yOff.toInt) →
      pixelAt fb' col row = shownPixel img.depth (sourcePixel req img col row)
  kept : ∀ col < fb.width, ∀ row < fb.height,
    (∀ img, src = some img → ¬ ToPresent region img (col - req.xOff.toInt) (row - req.yOff.toInt)) →
      pixelAt fb' col row = pixelAt fb col row

/-- The request ends, and changes the window as asked; besides at most the top-level
window above it is drawn on. -/
structure PresentsExactly (req : PresentPixmapRequest) (s s' : PresentState) : Prop where
  finished : presentPixmap req s = some s'
  window : ∀ win, s.windows.lookup req.window = some win → ∃ win', s'.windows.lookup req.window = some win' ∧
    ShowsRegion req (givenRegion s.regions req)
      (sourceImage (syncShmPixmap req.pixmap s.toDrawableStore) req.pixmap) win.framebuffer win'.framebuffer
  others : ∀ w, w ≠ req.window → w ≠ (topLevel s.windows req.window).1 → s'.windows.lookup w = s.windows.lookup w
  pixmaps : s'.pixmaps = (syncShmPixmap req.pixmap s.toDrawableStore).pixmaps

/-- No round overflows, nor the size of the damage, and where no part is copied the
window is not a top-level one. -/
structure PresentsSafely (req : PresentPixmapRequest) (s : PresentState) (src : SourceImage) : Prop where
  rounds : ∀ r ∈ copyRects src.width src.height (regionRects s.regions req),
    RectSafe req (topLevel s.windows req.window) s.windows r
  logged : copyRects src.width src.height (regionRects s.regions req) = [] →
    (topLevel s.windows req.window).1 ≠ req.window
  damage : DamageFits req (copyRects src.width src.height (regionRects s.regions req))

/-- What is copied though it is not in the region looks as the window does there. -/
def SparesOutside (req : PresentPixmapRequest) (s : PresentState) (src : SourceImage) : Prop :=
  ∀ win, s.windows.lookup req.window = some win → ∀ col < win.framebuffer.width, ∀ row < win.framebuffer.height,
    let i := (col : Int) - req.xOff.toInt
    let j := (row : Int) - req.yOff.toInt
    ((0 ≤ i ∧ i < src.width.toNat) ∧ 0 ≤ j ∧ j < src.height.toNat) → Copied (givenRegion s.regions req) i j →
      ¬ ToPresent (givenRegion s.regions req) src i j →
        shownPixel src.depth (sourcePixel req src col row) = pixelAt win.framebuffer col row

theorem syncShmPixmap_windows (drawable : XId) (ds : DrawableStore) :
    (syncShmPixmap drawable ds).windows = ds.windows := by
  simp only [syncShmPixmap]
  split <;> rfl

theorem copyRects_inConverted {src : SourceImage} (rects : Option (List RegionRect)) :
    ∀ r ∈ copyRects src.width src.height rects, InSource src.converted.width src.converted.height r := by
  obtain ⟨hwd, hht⟩ := @converted_size src
  rw [hwd, hht]
  exact fun r => copyRects_inSource

theorem presentPixmap_eq_some {req : PresentPixmapRequest} {s s' : PresentState} {src : SourceImage}
    (hwell : AllWellFormed s.toDrawableStore) (hwhole : SourceImage.Whole src)
    (hsrc : sourceImage (syncShmPixmap req.pixmap s.toDrawableStore) req.pixmap = some src)
    (h : presentPixmap req s = some s') :
    PresentsSafely req s src ∧ s'.pixmaps = (syncShmPixmap req.pixmap s.toDrawableStore).pixmaps ∧
      s'.windows = (copyRects src.width src.height (regionRects s.regions req)).foldl
        (paintRect req src.converted (topLevel s.windows req.window)) s.windows := by
  simp only [presentPixmap, hsrc, syncShmPixmap_windows] at h
  obtain ⟨acc, hrun, h⟩ := Option.bind_eq_some_iff.mp h
  obtain ⟨hsafe, rfl⟩ :=
    (presentRects_eq_some (converted_whole hwhole) (copyRects_inConverted _) hwell.windows _ _).mp hrun
  split at h
  · exact absurd h (by simp)
  · next hlogged =>
    obtain ⟨damage, hdmg, rfl⟩ := Option.map_eq_some_iff.mp h
    exact ⟨⟨hsafe, fun hnil htgt => hlogged ⟨hnil, htgt⟩,
      (damageRect_isSome_iff hsafe).mp (Option.isSome_of_eq_some hdmg)⟩, rfl, rfl⟩

theorem presentPixmap_ends {req : PresentPixmapRequest} {s : PresentState} {src : SourceImage}
    (hwell : AllWellFormed s.toDrawableStore) (hwhole : SourceImage.Whole src)
    (hsrc : sourceImage (syncShmPixmap req.pixmap s.toDrawableStore) req.pixmap = some src)
    (h : PresentsSafely req s src) : ∃ s', presentPixmap req s = some s' := by
  have hrun := (presentRects_eq_some (converted_whole hwhole) (copyRects_inConverted _) hwell.windows .start _).mpr
    ⟨h.rounds, rfl⟩
  obtain ⟨damage, hdmg⟩ := Option.isSome_iff_exists.mp ((damageRect_isSome_iff h.rounds).mpr h.damage)
  simp only [presentPixmap, hsrc, syncShmPixmap_windows]
  rw [hrun, Option.bind_some, if_neg fun hnil => h.logged hnil.1 hnil.2, hdmg]
  exact ⟨_, rfl⟩

theorem presented_pixels {req : PresentPixmapRequest} {s s' : PresentState} {src : SourceImage}
    (hwell : AllWellFormed s.toDrawableStore) (hwhole : SourceImage.Whole src)
    (hsrc : sourceImage (syncShmPixmap req.pixmap s.toDrawableStore) req.pixmap = some src)
    (h : presentPixmap req s = some s') (hwin : s.windows.lookup req.window = some win) :
    ∃ win', s'.windows.lookup req.window = some win' ∧ win'.framebuffer.width = win.framebuffer.width ∧
      win'.framebuffer.height = win.framebuffer.height ∧
      ∀ col < win.framebuffer.width, ∀ row < win.framebuffer.height,
        let i := (col : Int) - req.xOff.toInt
        let j := (row : Int) - req.yOff.toInt
        let covered := ((0 ≤ i ∧ i < src.width.toNat) ∧ 0 ≤ j ∧ j < src.height.toNat) ∧
          Copied (givenRegion s.regions req) i j
        (covered → pixelAt win'.framebuffer col row = shownPixel src.depth (sourcePixel req src col row)) ∧
          (¬ covered → pixelAt win'.framebuffer col row = pixelAt win.framebuffer col row) := by
  obtain ⟨hsafe, -, hwins⟩ := presentPixmap_eq_some hwell hwhole hsrc h
  obtain ⟨win', hwin', hsameWd, hsameHt, hpixels⟩ :=
    paintRects_pixels (converted_whole hwhole) (copyRects_inConverted _) hsafe.rounds hwell.windows hwin
  rw [← hwins] at hwin'
  refine ⟨win', hwin', hsameWd, hsameHt, fun col hcol row hrow => ⟨fun hcvd => ?_, fun hcvd => ?_⟩⟩
  · rw [hpixels col hcol row hrow, if_pos ((mem_copyRects s.regions req).mpr hcvd), sourcePixel,
      (@converted_size src).1]
    exact imagePixel_converted hwhole (by omega) (by omega)
  · rw [hpixels col hcol row hrow, if_neg fun hmem => hcvd ((mem_copyRects s.regions req).mp hmem)]

/-- For every state of well-formed framebuffers and every request. -/
theorem presentsExactly_iff (s : PresentState) (hwell : AllWellFormed s.toDrawableStore)
    (hsizes : SizesFit s.toDrawableStore) (req : PresentPixmapRequest) :
    (∃ s', PresentsExactly req s s') ↔
      ∀ src, sourceImage (syncShmPixmap req.pixmap s.toDrawableStore) req.pixmap = some src →
        PresentsSafely req s src ∧ SparesOutside req s src := by
  cases hsrc : sourceImage (syncShmPixmap req.pixmap s.toDrawableStore) req.pixmap with
  | none =>
    refine iff_of_true ⟨{ s with toDrawableStore := syncShmPixmap req.pixmap s.toDrawableStore }, ?_⟩
      fun src hsome => absurd hsome (by simp)
    refine ⟨by simp only [presentPixmap, hsrc], fun win hwin => ⟨win, ?_, ?_⟩, fun w _ _ => ?_, rfl⟩
    · rw [syncShmPixmap_windows]
      exact hwin
    · rw [hsrc]
      exact ⟨rfl, rfl, fun img himg => absurd himg (by simp), fun col _ row _ _ => rfl⟩
    · rw [syncShmPixmap_windows]
  | some src =>
    have hwhole := sourceImage_whole (syncShmPixmap_wellFormed hwell _) (hsizes.syncShmPixmap _) hsrc
    simp only [Option.some_inj, forall_eq']
    constructor
    · rintro ⟨s', h⟩
      refine ⟨(presentPixmap_eq_some hwell hwhole hsrc h.finished).1, fun win hwin col hcol row hrow hin hcopied
        hout => ?_⟩
      obtain ⟨win', hwin', -, -, hpixels⟩ := presented_pixels hwell hwhole hsrc h.finished hwin
      obtain ⟨win'', hwin'', hshows⟩ := h.window win hwin
      obtain rfl : win' = win'' := Option.some.inj (hwin'.symm.trans hwin'')
      rw [← (hpixels col hcol row hrow).1 ⟨hin, hcopied⟩]
      refine hshows.kept col hcol row hrow fun img himg => ?_
      obtain rfl : src = img := Option.some.inj (hsrc.symm.trans himg)
      exact hout
    · rintro ⟨hsafe, hspares⟩
      obtain ⟨s', hs'⟩ := presentPixmap_ends hwell hwhole hsrc hsafe
      obtain ⟨-, hpixmaps, hwins⟩ := presentPixmap_eq_some hwell hwhole hsrc hs'
      refine ⟨s', hs', fun win hwin => ?_, fun w hwindow htgt => ?_, hpixmaps⟩
      · obtain ⟨win', hwin', hwd, hht, hpixels⟩ := presented_pixels hwell hwhole hsrc hs' hwin
        refine ⟨win', hwin', hwd, hht, fun img himg col hcol row hrow hpresent => ?_,
          fun col hcol row hrow hout => ?_⟩
        · obtain rfl : src = img := Option.some.inj (hsrc.symm.trans himg)
          exact (hpixels col hcol row hrow).1 ⟨hpresent.1, copied_of_toPresent hpresent⟩
        · have hpt := hout src hsrc
          by_cases hcvd : ((0 ≤ (col : Int) - req.xOff.toInt ∧ (col : Int) - req.xOff.toInt < src.width.toNat) ∧
              0 ≤ (row : Int) - req.yOff.toInt ∧ (row : Int) - req.yOff.toInt < src.height.toNat) ∧
              Copied (givenRegion s.regions req) (col - req.xOff.toInt) (row - req.yOff.toInt)
          · rw [(hpixels col hcol row hrow).1 hcvd]
            exact hspares win hwin col hcol row hrow hcvd.1 hcvd.2 hpt
          · exact (hpixels col hcol row hrow).2 hcvd
      · rw [hwins]
        exact lookup_paintRects_other _ hwindow htgt

theorem sparesOutside_of_nonneg {req : PresentPixmapRequest} {s : PresentState} {src : SourceImage}
    (h : ∀ A, givenRegion s.regions req = some A → (∃ r ∈ A.rects, 0 < r.width.toNat ∧ 0 < r.height.toNat) ∧
      ∀ r ∈ A.rects, 0 ≤ r.x.toInt ∧ 0 ≤ r.y.toInt) : SparesOutside req s src := by
  intro win _ col _ row _ i j hin hcopied hout
  refine absurd ⟨hin, fun A hA => ?_⟩ hout
  obtain ⟨⟨r, hr, hsize⟩, hnonneg⟩ := h A hA
  rw [hA, Copied, or_iff_right fun hall => by have := hall r hr; omega] at hcopied
  obtain ⟨r', hr', hshift⟩ := hcopied
  obtain ⟨hx, hy⟩ := hnonneg r' hr'
  rw [Shifted, max_eq_left hx, max_eq_left hy] at hshift
  exact ⟨r', hr', hshift⟩

/-- A window of one pixel, a pixmap with a red pixel, and a region. -/
def desk (region : XFixesRegion) : PresentState where
  windows := (∅ : HashMap XId _).insert 7 (dotWindow 7 rootWindow [] 10)
  pixmaps := (∅ : HashMap XId _).insert 1 ⟨3, 1, 24, ExtractPixels.redCorner.fb, none⟩
  segments := fun _ => none
  regions := (∅ : HashMap XId _).insert 5 region
  damaged := []

theorem desk_window {region : XFixesRegion} {w : XId}
    (h : (desk region).windows.lookup w = some win) : win = dotWindow 7 rootWindow [] 10 := by
  rw [desk, lookup_insert_eq] at h
  split at h
  · exact (Option.some.inj h).symm
  · exact absurd h (by simp)

theorem desk_pixmap {region : XFixesRegion} {p : XId} {pix : DrawRequests.Pixmap}
    (h : (desk region).pixmaps.lookup p = some pix) : pix = ⟨3, 1, 24, ExtractPixels.redCorner.fb, none⟩ := by
  rw [desk, lookup_insert_eq] at h
  split at h
  · exact (Option.some.inj h).symm
  · exact absurd h (by simp)

theorem desk_wellFormed (region : XFixesRegion) : AllWellFormed (desk region).toDrawableStore := by
  refine ⟨fun w win hwin => ?_, fun p pix hpix => ?_⟩
  · rw [desk_window hwin]
    exact dotWindow_wellFormed ..
  · rw [desk_pixmap hpix]
    exact ExtractPixels.redCorner.wellFormed

theorem desk_sizes (region : XFixesRegion) : SizesFit (desk region).toDrawableStore := by
  refine ⟨fun w win hwin => ?_, fun p pix hpix => ?_⟩
  · rw [desk_window hwin]
    decide
  · rw [desk_pixmap hpix]
    decide

/-- A region of the first pixel. -/
theorem presentsExactly_red : ∃ s', PresentsExactly ⟨7, 1, 0, 5, 0, 0⟩ (desk ⟨[⟨0, 0, 1, 1⟩]⟩) s' := by
  refine (presentsExactly_iff _ (desk_wellFormed _) (desk_sizes _) _).mpr fun src hsrc => ?_
  obtain rfl : ⟨3, 1, ExtractPixels.redCorner.fb.data, 24⟩ = src := Option.some.inj hsrc
  have hrects : copyRects 3 1 (regionRects (desk ⟨[⟨0, 0, 1, 1⟩]⟩).regions ⟨7, 1, 0, 5, 0, 0⟩) = [⟨0, 0, 1, 1⟩] := by
    decide
  refine ⟨⟨fun r hr => ?_, fun hnil => ?_, ?_⟩, sparesOutside_of_nonneg fun A hA => ?_⟩
  · rw [hrects] at hr
    obtain rfl := mem_singleton.mp hr
    exact ⟨⟨by decide, by decide⟩, ⟨by decide, by decide⟩, fun win _ hneg => absurd hneg.1 (by decide),
      fun hne => absurd rfl hne, ⟨by decide, by decide⟩, ⟨by decide, by decide⟩⟩
  · exact absurd (hrects.symm.trans hnil) (by simp)
  · dsimp only
    rw [hrects]
    intro _ _ r hr r' hr'
    obtain rfl := mem_singleton.mp hr
    obtain rfl := mem_singleton.mp hr'
    exact ⟨by decide, by decide⟩
  · obtain rfl : ⟨[⟨0, 0, 1, 1⟩]⟩ = A := Option.some.inj hA
    exact ⟨⟨_, mem_singleton_self _, by decide⟩, by decide⟩

/-- An empty region counts as none, and the whole pixmap is shown. -/
theorem empty_region_copies :
    ¬ ∀ (s : PresentState), AllWellFormed s.toDrawableStore → SizesFit s.toDrawableStore →
      ∀ (req : PresentPixmapRequest), ∃ s', PresentsExactly req s s' := by
  intro hall
  obtain ⟨s', h⟩ := hall (desk ⟨[]⟩) (desk_wellFormed _) (desk_sizes _) ⟨7, 1, 0, 5, 0, 0⟩
  obtain ⟨win', hwin', hshows⟩ := h.window (dotWindow 7 rootWindow [] 10) rfl
  have hkept := hshows.kept 0 (by decide) 0 (by decide) fun img _ hpresent => by
    obtain ⟨r, hr, -⟩ := hpresent.2 ⟨[]⟩ rfl
    exact absurd hr (by simp)
  have hred : (presentPixmap ⟨7, 1, 0, 5, 0, 0⟩ (desk ⟨[]⟩)).bind (fun s' =>
      (s'.windows.lookup 7).map fun win => pixelAt win.framebuffer 0 0) = some [0xFF, 0, 0, 0xFF] := by decide +kernel
  have hwin' : s'.windows.lookup 7 = some win' := hwin'
  rw [h.finished, Option.bind_some, hwin', Option.map_some, hkept] at hred
  exact absurd hred (by decide)

end X11Web.PresentPixmap
