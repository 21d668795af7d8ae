import X11Web.BlitPixels

namespace X11Web.ClipSelection

open Windows Overwrites Pixels DirtyMirror ImagePixels ExtractPixels
  X11Web.BlitPixels

variable {fb : Framebuffer} {x y : Int16} {width height : UInt16} {image : Bytes} {function : UInt8}
  {planeMask : UInt32} {clipRects : List ClipRect} {col row : Nat}

/-- Each pixel inside the clip is the one that is drawn without it, each other pixel is
unchanged, and a clip that covers the framebuffer makes no difference. -/
structure ClipSelects (fb : Framebuffer) (put : List ClipRect → Framebuffer) (clipRects : List ClipRect) : Prop where
  pixels : ∀ col < fb.width, ∀ row < fb.height, pixelAt (put clipRects) col row =
    if clippedAway col row clipRects then pixelAt fb col row else pixelAt (put []) col row
  covering : (∀ col < fb.width, ∀ row < fb.height, ¬ clippedAway col row clipRects) → put clipRects = put []

def Short (width height : UInt16) (image : Bytes) : Prop := image.length < width.toNat * height.toNat * 4

/-- Only the data and the dirty box changed, the box by the rectangle of the request. -/
def Marks (fb : Framebuffer) (x y : Int16) (width height : UInt16) (fb' : Framebuffer) : Prop :=
  ∃ data, fb' = { fb with data := data }.markDirty x.toInt y.toInt width.toNat height.toNat

theorem Marks.eq_of_data {fb' fb'' : Framebuffer} (h : Marks fb x y width height fb')
    (h' : Marks fb x y width height fb'') (hdata : fb'.data = fb''.data) : fb' = fb'' := by
  obtain ⟨data, rfl⟩ := h
  obtain ⟨data', rfl⟩ := h'
  rw [(markDirty_data _ _ _ _ _).1, (markDirty_data _ _ _ _ _).1] at hdata
  obtain rfl : data = data' := hdata
  rfl

theorem length_lt_iff : image.length < width.toNat * 4 * height.toNat ↔ Short width height image := by
  rw [Nat.mul_right_comm]
  rfl

section Paths

variable (hemp : ¬ (width.toNat = 0 ∨ height.toNat = 0 ∨ image = [])) (hlong : ¬ Short width height image)


include hemp hlong

theorem putImage_marks : Marks fb x y width height (fb.putImage x y width height image) := by
  rw [Framebuffer.putImage]
  dsimp only
  rw [if_neg hemp, if_neg (length_lt_iff.not.2 hlong)]
  exact ⟨_, rfl⟩

theorem putImageOver_marks : Marks fb x y width height (fb.putImageOver x y width height image) := by
  rw [Framebuffer.putImageOver, if_neg hemp, if_neg (length_lt_iff.not.2 hlong)]
  exact ⟨_, rfl⟩

theorem putImageGc_marks :
    Marks fb x y width height (fb.putImageGc x y width height image function planeMask clipRects) := by
  rw [Framebuffer.putImageGc, if_neg hemp]
  by_cases hfast : function = GX.copy ∧ planeMask = planeMaskAll ∧ clipRects = []
  · rw [if_pos hfast]
    exact putImage_marks hemp hlong
  · rw [if_neg hfast, if_neg (length_lt_iff.not.2 hlong)]
    exact ⟨_, rfl⟩

theorem putImageOverGc_marks :
    Marks fb x y width height (fb.putImageOverGc x y width height image function planeMask clipRects) := by
  rw [Framebuffer.putImageOverGc, if_neg hemp]
  by_cases hfast : function = GX.copy ∧ planeMask = planeMaskAll ∧ clipRects = []
  · rw [if_pos hfast]
    exact putImageOver_marks hemp hlong
  · rw [if_neg hfast, if_neg (length_lt_iff.not.2 hlong)]
    exact ⟨_, rfl⟩

end Paths

theorem putImageGc_nothing (h : (width.toNat = 0 ∨ height.toNat = 0 ∨ image = []) ∨ Short width height image) :
    fb.putImageGc x y width height image function planeMask clipRects = fb := by
  rw [Framebuffer.putImageGc, Framebuffer.putImage]
  by_cases hemp : width.toNat = 0 ∨ height.toNat = 0 ∨ image = []
  · rw [if_pos hemp]
  · have hsize := length_lt_iff.2 (h.resolve_left hemp)
    dsimp only
    rw [if_neg hemp, if_neg hemp, if_pos hsize, if_pos hsize, ite_self]

theorem putImageOverGc_nothing (h : (width.toNat = 0 ∨ height.toNat = 0 ∨ image = []) ∨ Short width height image) :
    fb.putImageOverGc x y width height image function planeMask clipRects = fb := by
  rw [Framebuffer.putImageOverGc, Framebuffer.putImageOver]
  by_cases hemp : width.toNat = 0 ∨ height.toNat = 0 ∨ image = []
  · rw [if_pos hemp]
  · have hsize := length_lt_iff.2 (h.resolve_left hemp)
    rw [if_neg hemp, if_neg hemp, if_pos hsize, if_pos hsize, ite_self]

theorem not_clippedAway_nil (x y : Int) : ¬ clippedAway x y [] := by simp [clippedAway]

theorem clipSelects_of_pixels {put : List ClipRect → Framebuffer}
    (hdrw : ∀ clipRects, Draws fb (put clipRects)) (hmarks : ∀ clipRects, Marks fb x y width height (put clipRects))
    (hpixels : ∀ col < fb.width, ∀ row < fb.height, pixelAt (put clipRects) col row =
      if clippedAway col row clipRects then pixelAt fb col row else pixelAt (put []) col row) :
    ClipSelects fb put clipRects := by
  refine ⟨hpixels, fun hcvs => (hmarks clipRects).eq_of_data (hmarks []) ?_⟩
  have hclpd := hdrw clipRects
  have hwhole := hdrw []
  rw [data_eq_iff_pixels hwhole.wellFormed hclpd.wellFormed (hclpd.width.trans hwhole.width.symm)
    (hclpd.height.trans hwhole.height.symm), hwhole.width, hwhole.height]
  intro col hcol row hrow
  rw [hpixels col hcol row hrow, if_neg (hcvs col hcol row hrow)]

theorem clipSelects_of_nothing {put : List ClipRect → Framebuffer} (hput : ∀ clipRects, put clipRects = fb) :
    ClipSelects fb put clipRects := by
  refine ⟨fun col _ row _ => ?_, fun _ => (hput clipRects).trans (hput []).symm⟩
  rw [hput, hput, ite_self]

theorem putImageOverGc_clipSelects (h : WellFormed fb) (x y : Int16) (width height : UInt16) (image : Bytes)
    (function : UInt8) (planeMask : UInt32) (clipRects : List ClipRect) :
    ClipSelects fb (fb.putImageOverGc x y width height image function planeMask) clipRects := by
  by_cases hnothing : (width.toNat = 0 ∨ height.toNat = 0 ∨ image = []) ∨ Short width height image
  · exact clipSelects_of_nothing fun clipRects => putImageOverGc_nothing hnothing
  · obtain ⟨hemp, hlong⟩ := not_or.mp hnothing
    refine clipSelects_of_pixels
      (fun clipRects => Drawing.apply_draws h (.putImageOverGc x y width height image function planeMask clipRects))
      (fun clipRects => putImageOverGc_marks hemp hlong) fun col hcol row hrow => ?_
    have himg := Nat.le_of_not_lt hlong
    rw [pixelAt_putImageOverGc h himg hcol hrow, pixelAt_putImageOverGc h himg hcol hrow]
    by_cases hclip : clippedAway col row clipRects
    · rw [if_pos hclip, if_neg fun hin => hin.2 hclip]
    · rw [if_neg hclip]
      exact if_congr ⟨fun hin => ⟨hin.1, not_clippedAway_nil _ _⟩, fun hin => ⟨hin.1, hclip⟩⟩ rfl rfl

def solid (p : Bytes) : Bytes := (unpackRgb (colorOf p) 0xFF).bytes

/-- What the copy without a clip leaves inside the clip has a full alpha: it takes the
alpha from the image, and draws nothing at the most negative origin. -/
def SolidInside (fb : Framebuffer) (x y : Int16) (width height : UInt16) (image : Bytes) (clipRects : List ClipRect) :
    Prop :=
  ∀ col < fb.width, ∀ row < fb.height, OnRect x y width height col row → ¬ clippedAway col row clipRects →
    (if x.toInt = -2 ^ 15 then pixelAt fb col row
      else imagePixel image width.toNat (col - x.toInt).toNat (row - y.toInt).toNat) =
    solid (imagePixel image width.toNat (col - x.toInt).toNat (row - y.toInt).toNat)

theorem copy_paths_iff (image old : Bytes) (col row : Nat) :
    ((if OnRect x y width height col row ∧ ¬ clippedAway col row clipRects then solid image else old) =
        if clippedAway col row clipRects then old else if OnImage x y width height col row then image else old) ↔
      (OnRect x y width height col row → ¬ clippedAway col row clipRects →
        (if x.toInt = -2 ^ 15 then old else image) = solid image) := by
  by_cases hclip : clippedAway col row clipRects
  · rw [if_pos hclip, if_neg fun hin => hin.2 hclip]
    exact ⟨fun _ _ hin => absurd hclip hin, fun _ => rfl⟩
  · rw [if_neg hclip]
    by_cases hon : OnRect x y width height col row
    · rw [if_pos ⟨hon, hclip⟩]
      by_cases hmin : x.toInt = -2 ^ 15
      · rw [if_pos hmin, if_neg fun hin : OnImage x y width height col row => hin.1 hmin]
        exact ⟨fun he _ _ => he.symm, fun he => (he hon hclip).symm⟩
      · rw [if_neg hmin, if_pos (show OnImage x y width height col row from ⟨hmin, hon⟩)]
        exact ⟨fun he _ _ => he.symm, fun he => (he hon hclip).symm⟩
    · rw [if_neg fun hin => hon hin.1, if_neg fun hin : OnImage x y width height col row => hon hin.2]
      exact ⟨fun _ hin => absurd hin hon, fun _ => rfl⟩

theorem putImageGc_clipSelects_iff (h : WellFormed fb) (x y : Int16) (width height : UInt16) (image : Bytes)
    (function : UInt8) (planeMask : UInt32) (clipRects : List ClipRect) :
    ClipSelects fb (fb.putImageGc x y width height image function planeMask) clipRects ↔
      (function = GX.copy → planeMask = planeMaskAll → clipRects ≠ [] → ¬ Short width height image →
        SolidInside fb x y width height image clipRects) := by
  by_cases hnothing : (width.toNat = 0 ∨ height.toNat = 0 ∨ image = []) ∨ Short width height image
  · refine ⟨fun _ _ _ _ hlong => ?_, fun _ => clipSelects_of_nothing fun clipRects => putImageGc_nothing hnothing⟩
    intro col _ row _ hon
    exact absurd hon (not_onRect_of_empty (Nat.le_of_not_lt hlong) (hnothing.resolve_right hlong))
  · obtain ⟨hemp, hlong⟩ := not_or.mp hnothing
    have himg := Nat.le_of_not_lt hlong
    have hsels := @clipSelects_of_pixels fb x y width height clipRects
      (fb.putImageGc x y width height image function planeMask)
      (fun clipRects => Drawing.apply_draws h (.putImageGc x y width height image function planeMask clipRects))
      (fun clipRects => putImageGc_marks hemp hlong)
    by_cases hcopy : (function = GX.copy ∧ planeMask = planeMaskAll) ∧ clipRects ≠ []
    · obtain ⟨⟨rfl, rfl⟩, hclips⟩ := hcopy
      have hwhole : fb.putImageGc x y width height image GX.copy planeMaskAll [] =
          fb.putImage x y width height image := by
        rw [Framebuffer.putImageGc, if_neg hemp, if_pos ⟨rfl, rfl, rfl⟩]
      have hpx : ∀ col < fb.width, ∀ row < fb.height,
          (pixelAt (fb.putImageGc x y width height image GX.copy planeMaskAll clipRects) col row =
            if clippedAway col row clipRects then pixelAt fb col row
            else pixelAt (fb.putImageGc x y width height image GX.copy planeMaskAll []) col row) ↔
          (OnRect x y width height col row → ¬ clippedAway col row clipRects →
            (if x.toInt = -2 ^ 15 then pixelAt fb col row
              else imagePixel image width.toNat (col - x.toInt).toNat (row - y.toInt).toNat) =
            solid (imagePixel image width.toNat (col - x.toInt).toNat (row - y.toInt).toNat)) := by
        intro col hcol row hrow
        rw [pixelAt_putImageGc h himg (fun hfast => hclips hfast.2.2) hcol hrow, hwhole,
          pixelAt_putImage h himg hcol hrow, combined_copy]
        exact copy_paths_iff _ _ col row
      exact ⟨fun hexact _ _ _ _ col hcol row hrow => (hpx col hcol row hrow).mp (hexact.pixels col hcol row hrow),
        fun hsolid => hsels fun col hcol row hrow =>
          (hpx col hcol row hrow).mpr (hsolid rfl rfl hclips hlong col hcol row hrow)⟩
    · refine ⟨fun _ hfn hplanes hclips => absurd ⟨⟨hfn, hplanes⟩, hclips⟩ hcopy,
        fun _ => hsels fun col hcol row hrow => ?_⟩
      by_cases hclips : clipRects = []
      · rw [hclips, if_neg (not_clippedAway_nil _ _)]
      · have hgen : ∀ clipRects : List ClipRect,
            ¬ (function = GX.copy ∧ planeMask = planeMaskAll ∧ clipRects = []) :=
          fun _ hfast => hcopy ⟨⟨hfast.1, hfast.2.1⟩, hclips⟩
        rw [pixelAt_putImageGc h himg (hgen _) hcol hrow, pixelAt_putImageGc h himg (hgen _) hcol hrow]
        by_cases hclip : clippedAway col row clipRects
        · rw [if_pos hclip, if_neg fun hin => hin.2 hclip]
        · rw [if_neg hclip]
          exact if_congr ⟨fun hin => ⟨hin.1, not_clippedAway_nil _ _⟩, fun hin => ⟨hin.1, hclip⟩⟩ rfl rfl

/-- Only a plain copy by `put_image_gc` depends on the clip beyond the choice of pixels. -/
theorem clip_selects_iff (c : Canvas) (x y : Int16) (width height : UInt16) (image : Bytes) (function : UInt8)
    (planeMask : UInt32) (clipRects : List ClipRect) :
    (ClipSelects c.fb (c.fb.putImageGc x y width height image function planeMask) clipRects ∧
        ClipSelects c.fb (c.fb.putImageOverGc x y width height image function planeMask) clipRects) ↔
      (function = GX.copy → planeMask = planeMaskAll → clipRects ≠ [] → ¬ Short width height image →
        SolidInside c.fb x y width height image clipRects) := by
  rw [putImageGc_clipSelects_iff c.wellFormed]
  exact and_iff_left (putImageOverGc_clipSelects c.wellFormed x y width height image function planeMask clipRects)

/-- A transparent pixel of an image is copied as it is without a clip, and made full by a
clip around it. -/
theorem clip_changes_alpha :
    ¬ ∀ (c : Canvas) (x y : Int16) (width height : UInt16) (image : Bytes) (function : UInt8) (planeMask : UInt32)
      (clipRects : List ClipRect),
      ClipSelects c.fb (c.fb.putImageGc x y width height image function planeMask) clipRects ∧
        ClipSelects c.fb (c.fb.putImageOverGc x y width height image function planeMask) clipRects := by
  intro hall
  have hpx := (hall ⟨Framebuffer.new 1 1, new_wellFormed 1 1⟩ 0 0 1 1 [1, 2, 3, 0] GX.copy planeMaskAll
    [⟨0, 0, 1, 1⟩]).1.pixels 0 (by decide) 0 (by decide)
  exact absurd hpx (by decide +kernel)

end X11Web.ClipSelection
