import X11Web.BlitPixels
import X11Web.Links
import X11Web.RenderComposite
import Mathlib.Tactic.FinCases

namespace X11Web.PremultipliedAlpha

open HashMaps Windows Overwrites Pixels DirtyMirror ImagePixels BlitPixels DrawRequests RenderComposite

section Factors

variable {op : UInt8} {sa da : Int}

def IsByte (n : Int) : Prop := 0 ≤ n ∧ n ≤ 255

theorem isByte_toNat (v : UInt8) : IsByte v.toNat := by
  have hv := v.toNat_lt
  rw [IsByte]
  omega

theorem isByte_clampByte (n : Int) : IsByte (clampByte n) := by
  rw [IsByte, clampByte]
  omega

theorem isByte_ite_clampByte (a n : Int) : IsByte (if a = 0 then 0 else clampByte n) := by
  split
  · exact ⟨le_rfl, by decide⟩
  · exact isByte_clampByte n

theorem isByte_dstAlpha (dst : Rgba) (dstHasAlpha : Bool) : IsByte (dstAlpha dst dstHasAlpha) := by
  rw [dstAlpha]
  split
  · exact isByte_toNat dst.a
  · exact ⟨by decide, by decide⟩

theorem isByte_pictOpFactors (op : UInt8) (hsa : IsByte sa) (hda : IsByte da) :
    IsByte (pictOpFactors op sa da).1 ∧ IsByte (pictOpFactors op sa da).2 := by
  have hlow : IsByte 0 := ⟨le_rfl, by decide⟩
  have hhigh : IsByte 255 := ⟨by decide, le_rfl⟩
  have hrest {n : Int} (hn : IsByte n) : IsByte (255 - n) := by
    rw [IsByte] at hn ⊢
    omega
  rw [pictOpFactors]
  split <;> refine ⟨?_, ?_⟩ <;>
    first | exact hlow | exact hhigh | exact hsa | exact hda | exact hrest hsa | exact hrest hda |
      exact isByte_ite_clampByte _ _

end Factors

section Blending

variable {src src' dst dst' m : UInt8} {factors : Int × Int}

theorem toNat_blendChan : ((blendChan src dst factors).toNat : Int) =
    clampByte ((src.toNat * factors.1 + dst.toNat * factors.2 + 127).tdiv 255) := by
  obtain ⟨hlo, hhi⟩ := isByte_clampByte ((src.toNat * factors.1 + dst.toNat * factors.2 + 127).tdiv 255)
  rw [blendChan, UInt8.toNat_ofNat']
  omega

theorem blendChan_mono (hfactors : IsByte factors.1 ∧ IsByte factors.2) (hsrc : src ≤ src') (hdst : dst ≤ dst') :
    blendChan src dst factors ≤ blendChan src' dst' factors := by
  have hsrc : (src.toNat : Int) * factors.1 ≤ src'.toNat * factors.1 :=
    Int.mul_le_mul_of_nonneg_right (by exact_mod_cast hsrc) hfactors.1.1
  have hdst : (dst.toNat : Int) * factors.2 ≤ dst'.toNat * factors.2 :=
    Int.mul_le_mul_of_nonneg_right (by exact_mod_cast hdst) hfactors.2.1
  have hsum : (src.toNat : Int) * factors.1 + dst.toNat * factors.2 + 127 ≤
      src'.toNat * factors.1 + dst'.toNat * factors.2 + 127 := by omega
  have hdiv := Int.tdiv_le_tdiv (show (0 : Int) < 255 by decide) hsum
  rw [UInt8.le_iff_toNat_le]
  have hclamp : clampByte ((src.toNat * factors.1 + dst.toNat * factors.2 + 127).tdiv 255) ≤
      clampByte ((src'.toNat * factors.1 + dst'.toNat * factors.2 + 127).tdiv 255) := by
    rw [clampByte, clampByte]
    omega
  rw [← toNat_blendChan, ← toNat_blendChan] at hclamp
  exact_mod_cast hclamp

theorem scale_mono (h : src ≤ src') (m : UInt8) : scale src m ≤ scale src' m := by
  have hsrc : src.toNat ≤ src'.toNat := h
  have hsrc' := src'.toNat_lt
  have hm := m.toNat_lt
  have hdiv : src.toNat * m.toNat / 255 ≤ src'.toNat * m.toNat / 255 :=
    Nat.div_le_div_right (Nat.mul_le_mul_right _ hsrc)
  have htop : src'.toNat * m.toNat / 255 ≤ 255 := by
    have hmul : src'.toNat * m.toNat ≤ 255 * 255 := Nat.mul_le_mul (by omega) (by omega)
    omega
  rw [UInt8.le_iff_toNat_le, scale, scale, UInt8.toNat_ofNat', UInt8.toNat_ofNat', Nat.mod_eq_of_lt (by omega),
    Nat.mod_eq_of_lt (by omega)]
  exact hdiv

end Blending

section Pixel

variable {op : UInt8} {src dst : Rgba} {dstHasAlpha componentAlpha : Bool}

/-- No channel is above the alpha. -/
def Premultiplied (p : Rgba) : Prop := p.r ≤ p.a ∧ p.g ≤ p.a ∧ p.b ≤ p.a

instance (p : Rgba) : Decidable (Premultiplied p) := inferInstanceAs (Decidable (_ ∧ _ ∧ _))

theorem premultiplied_full (r g b : UInt8) : Premultiplied ⟨r, g, b, 255⟩ := by
  have htop (v : UInt8) : v ≤ 255 := Nat.le_of_lt_succ v.toNat_lt
  exact ⟨htop r, htop g, htop b⟩

theorem compositePixel_premultiplied (hsrc : Premultiplied src) (hdst : Premultiplied dst) :
    Premultiplied (compositePixel op dst src dstHasAlpha) := by
  have hfactors := isByte_pictOpFactors op (isByte_toNat src.a) (isByte_dstAlpha dst dstHasAlpha)
  rw [compositePixel]
  cases dstHasAlpha with
  | false =>
    split
    · exact premultiplied_full _ _ _
    · split
      · exact premultiplied_full _ _ _
      · split
        · exact hdst
        · exact premultiplied_full _ _ _
  | true =>
    split
    · exact ⟨UInt8.le_refl _, UInt8.le_refl _, UInt8.le_refl _⟩
    · split
      · exact hsrc
      · split
        · exact hdst
        · exact ⟨blendChan_mono hfactors hsrc.1 hdst.1, blendChan_mono hfactors hsrc.2.1 hdst.2.1,
            blendChan_mono hfactors hsrc.2.2 hdst.2.2⟩

theorem scaleBy_premultiplied (hsrc : Premultiplied src) (m : UInt8) : Premultiplied (scaleBy src ⟨m, m, m, m⟩) :=
  ⟨scale_mono hsrc.1 m, scale_mono hsrc.2.1 m, scale_mono hsrc.2.2 m⟩

/-- Of the masks, only one with an alpha for each channel can bring a channel above the alpha. -/
theorem compositeThrough_premultiplied {mask : Option Rgba} {p : Rgba} (hsrc : Premultiplied src)
    (hdst : Premultiplied dst) (hmask : componentAlpha = false ∨ dstHasAlpha = false)
    (hp : compositeThrough op componentAlpha dstHasAlpha mask src dst = some p) : Premultiplied p := by
  cases mask with
  | none =>
    obtain rfl := Option.some.inj hp
    exact compositePixel_premultiplied hsrc hdst
  | some m =>
    rw [compositeThrough] at hp
    split at hp
    · next hca =>
      obtain hplain | hfull := hmask
      · exact absurd hca (by rw [hplain]; decide)
      · split at hp
        · cases hp
        · obtain rfl := Option.some.inj hp
          rw [hfull]
          exact premultiplied_full _ _ _
    · split at hp
      · cases hp
      · obtain rfl := Option.some.inj hp
        exact compositePixel_premultiplied (scaleBy_premultiplied hsrc m.a) hdst

end Pixel

section Skips

variable {op : UInt8} {da : Int} {src dst m : Rgba} {componentAlpha dstHasAlpha : Bool} {mask : Option Rgba}

/-- The operators of which a transparent source leaves nothing, among those that skip a
transparent mask. -/
def skippedErasing : List UInt8 := [16, 17, 21, 22, 23, 26, 32, 33, 37, 38, 39, 42]

/-- `compositeThrough` without the skip. -/
def compositeFully (op : UInt8) (componentAlpha dstHasAlpha : Bool) (mask : Option Rgba) (src dst : Rgba) : Rgba :=
  match mask with
  | none => compositePixel op dst src dstHasAlpha
  | some m =>
    if componentAlpha then
      compositePixelCa op dst (scaleBy src m) (scaleBy ⟨src.a, src.a, src.a, src.a⟩ m) dstHasAlpha
    else compositePixel op dst (scaleBy src ⟨m.a, m.a, m.a, m.a⟩) dstHasAlpha

theorem outDis_transparent (hda : IsByte da) (hpos : da ≠ 0) : outDis da 0 = 255 := by
  have hfull : 255 ≤ ((255 - 0) * 255 : Int).tdiv da := by
    rw [Int.tdiv_eq_ediv_of_nonneg (by decide)]
    exact (Int.le_ediv_iff_mul_le (by rw [IsByte] at hda; omega)).mpr (by rw [IsByte] at hda; omega)
  rw [outDis, if_neg hpos, clampByte]
  omega

theorem outCon_transparent (hda : IsByte da) (hpos : da ≠ 0) : outCon da 0 = 255 := by
  have hsame : max (da - 0) 0 = da := by
    rw [IsByte] at hda
    omega
  rw [outCon, if_neg hpos, hsame, Int.mul_tdiv_cancel_left _ hpos]
  rfl

theorem not_skipped {k : Nat} (hk : op.toNat = k)
    (herases : zeroSrcHasNoEffect (UInt8.ofNat k) = false ∨ UInt8.ofNat k ∈ skippedErasing) :
    ¬(zeroSrcHasNoEffect op = true ∧ op ∉ skippedErasing) := by
  have hop : UInt8.ofNat k = op := by rw [← hk, UInt8.ofNat_toNat]
  rw [hop] at herases
  rintro ⟨heff, hkept⟩
  exact herases.elim (fun h => absurd heff (by rw [h]; decide)) hkept

theorem pictOpFactors_transparent (hop : zeroSrcHasNoEffect op = true ∧ op ∉ skippedErasing) (hda : IsByte da)
    (hpos : da ≠ 0) : (pictOpFactors op 0 da).2 = 255 := by
  have hdis := outDis_transparent hda hpos
  have hcon := outCon_transparent hda hpos
  rw [pictOpFactors]
  split <;> first | rfl | exact hdis | exact hcon | exact absurd hop (not_skipped ‹_› (by decide))

theorem blendChan_transparent {d : UInt8} {factors : Int × Int} (h : factors.2 = 255 ∨ d = 0) :
    blendChan 0 d factors = d := by
  have hd := d.toNat_lt
  have hkept : ((d.toNat : Int) * factors.2 + 127).tdiv 255 = d.toNat := by
    rw [Int.tdiv_eq_ediv_of_nonneg]
    · obtain hfactor | rfl := h
      · rw [hfactor]
        omega
      · rw [UInt8.toNat_zero, Int.natCast_zero, zero_mul, zero_add]
        decide
    · obtain hfactor | rfl := h
      · rw [hfactor]
        omega
      · simp
  rw [← UInt8.toNat_inj]
  have hblend : ((blendChan 0 d factors).toNat : Int) = clampByte d.toNat := by
    rw [toNat_blendChan, UInt8.toNat_zero, Int.natCast_zero, zero_mul, zero_add, hkept]
  rw [clampByte] at hblend
  omega

theorem scale_zero (v : UInt8) : scale v 0 = 0 := by
  rw [scale, UInt8.toNat_zero, mul_zero]
  rfl

theorem scaleBy_zero (src : Rgba) : scaleBy src ⟨0, 0, 0, 0⟩ = ⟨0, 0, 0, 0⟩ := by
  simp only [scaleBy, scale_zero]

/-- What a picture shows of a stored pixel. One without alpha has only the colours. -/
def shown (hasAlpha : Bool) (p : Rgba) : Rgba := if hasAlpha then p else { p with a := 255 }

/-- A transparent source does nothing to a premultiplied pixel, nor to one of a picture without alpha. -/
theorem blend_transparent (hop : zeroSrcHasNoEffect op = true ∧ op ∉ skippedErasing) {d : UInt8}
    (hd : dstHasAlpha = true → d ≤ dst.a) :
    blendChan 0 d (pictOpFactors op 0 (dstAlpha dst dstHasAlpha)) = d := by
  apply blendChan_transparent
  by_cases hpos : dstAlpha dst dstHasAlpha = 0
  · right
    cases dstHasAlpha with
    | false => cases hpos
    | true =>
      have hpos : (dst.a.toNat : Int) = 0 := hpos
      have ha : dst.a.toNat = 0 := by exact_mod_cast hpos
      have hle : d.toNat ≤ dst.a.toNat := hd rfl
      rw [← UInt8.toNat_inj]
      exact Nat.le_zero.mp (ha ▸ hle)
  · exact .inl (pictOpFactors_transparent hop (isByte_dstAlpha _ _) hpos)

theorem compositePixelCa_transparent (hop : zeroSrcHasNoEffect op = true ∧ op ∉ skippedErasing)
    (hdst : dstHasAlpha = true → Premultiplied dst) :
    shown dstHasAlpha (compositePixelCa op dst ⟨0, 0, 0, 0⟩ ⟨0, 0, 0, 0⟩ dstHasAlpha) = shown dstHasAlpha dst := by
  have hblend {d : UInt8} := @blend_transparent op dst dstHasAlpha hop d
  rw [compositePixelCa]
  dsimp only
  rw [UInt8.toNat_zero, Int.natCast_zero, hblend fun h => (hdst h).1, hblend fun h => (hdst h).2.1,
    hblend fun h => (hdst h).2.2, hblend fun _ => UInt8.le_refl _]
  cases dstHasAlpha <;> rfl

theorem compositePixel_transparent (hop : zeroSrcHasNoEffect op = true ∧ op ∉ skippedErasing)
    (hdst : dstHasAlpha = true → Premultiplied dst) :
    shown dstHasAlpha (compositePixel op dst ⟨0, 0, 0, 0⟩ dstHasAlpha) = shown dstHasAlpha dst := by
  rw [compositePixel]
  split
  · next hclear => exact absurd hop (by rw [hclear]; decide)
  · split
    · next hsrc => exact absurd hop (by rw [hsrc]; decide)
    · split
      · rfl
      · exact compositePixelCa_transparent hop hdst

/-- Whether a transparent mask is skipped or computed does not show. -/
def SkipAgrees (op : UInt8) : Prop :=
  ∀ componentAlpha dstHasAlpha mask src dst, (dstHasAlpha = true → Premultiplied dst) →
    shown dstHasAlpha ((compositeThrough op componentAlpha dstHasAlpha mask src dst).getD dst) =
      shown dstHasAlpha (compositeFully op componentAlpha dstHasAlpha mask src dst)

theorem skipAgrees_iff (op : UInt8) : SkipAgrees op ↔ op ∉ skippedErasing := by
  refine ⟨fun h herasing => ?_, fun hkept componentAlpha dstHasAlpha mask src dst hdst => ?_⟩
  · have hwhite := h false true (some ⟨0, 0, 0, 0⟩) ⟨0, 0, 0, 0⟩ ⟨255, 255, 255, 255⟩ (by decide)
    revert hwhite
    rw [skippedErasing] at herasing
    fin_cases herasing <;> decide
  · cases mask with
    | none => rfl
    | some m =>
      rw [compositeThrough, compositeFully]
      split
      · split
        · next hskip =>
          obtain ⟨⟨hb, hg, hr, ha⟩, heff⟩ := hskip
          have hm : m = ⟨0, 0, 0, 0⟩ := by
            cases m
            simp_all
          rw [hm, scaleBy_zero, scaleBy_zero]
          exact (compositePixelCa_transparent ⟨heff, hkept⟩ hdst).symm
        · rfl
      · split
        · next hskip =>
          obtain ⟨ha, heff⟩ := hskip
          rw [ha, scaleBy_zero]
          exact (compositePixel_transparent ⟨heff, hkept⟩ hdst).symm
        · rfl

end Skips

section Framebuffers

variable {fb : Framebuffer}

def storedPixel (fb : Framebuffer) (col row : Nat) : Rgba := rgbaAt (pixelAt fb col row) 0

structure Clean (fb : Framebuffer) : Prop where
  wellFormed : WellFormed fb
  pixels : ∀ col < fb.width, ∀ row < fb.height, Premultiplied (storedPixel fb col row)

theorem rgbaAt_slice (data : Bytes) (off : Nat) : rgbaAt data off = rgbaAt (slice data off 4) 0 := by
  simp only [rgbaAt, getD_slice (by decide : 0 < 4), getD_slice (by decide : 0 + 1 < 4),
    getD_slice (by decide : 0 + 2 < 4), getD_slice (by decide : 0 + 3 < 4), Nat.add_zero, Nat.zero_add]

theorem rgbaAt_eq_storedPixel (fb : Framebuffer) (col row : Nat) :
    rgbaAt fb.data (row * fb.stride + col * 4) = storedPixel fb col row := by
  rw [storedPixel, pixelAt, ← rgbaAt_slice]

/-- A blit whose pixels are premultiplied where the pixels under them are. -/
theorem clean_blitPixels {x y : Int16} {width height : UInt16} (pixel : Int → Int → Rgba → Option Rgba) (h : Clean fb)
    (hpx : ∀ dx dy dst p, Premultiplied dst → pixel dx dy dst = some p → Premultiplied p) :
    Clean (fb.blitPixels x y width height fun data dx dy _ dstOff => pixel dx dy (rgbaAt data dstOff)) := by
  have hreads : ReadsPixel fun data dx dy _ dstOff => pixel dx dy (rgbaAt data dstOff) := by
    intro data data' dx dy srcOff dstOff hsame
    dsimp only
    rw [rgbaAt_slice, hsame, ← rgbaAt_slice]
  have hdrw :=
    blitPixels_draws h.wellFormed x y width height fun data dx dy _ dstOff => pixel dx dy (rgbaAt data dstOff)
  refine ⟨hdrw.wellFormed, fun col hcol row hrow => ?_⟩
  rw [hdrw.width] at hcol
  rw [hdrw.height] at hrow
  have hdst := h.pixels col hcol row hrow
  rw [storedPixel, pixelAt_blitPixels h.wellFormed hreads hcol hrow]
  split
  · rw [rgbaAt_eq_storedPixel]
    cases hp : pixel col row (storedPixel fb col row) with
    | none => exact hdst
    | some p => exact hpx col row _ p hdst hp
  · exact hdst

theorem getD_replicate_zero (n i : Nat) : (List.replicate n (0 : UInt8)).getD i 0 = 0 := by
  rw [List.getD_eq_getElem?_getD, List.getElem?_replicate]
  split <;> rfl

theorem clean_new (width height : Nat) : Clean (Framebuffer.new width height) := by
  refine ⟨new_wellFormed width height, fun col _ row _ => ?_⟩
  rw [← rgbaAt_eq_storedPixel, Framebuffer.new, rgbaAt]
  dsimp only
  simp only [getD_replicate_zero]
  decide

end Framebuffers

section Runs

variable {s : DrawState} {resolve : SourceResolver} {req : CompositeRequest}

structure AllClean (s : DrawState) : Prop where
  paints : ∀ w paint, s.paints.lookup w = some paint → Clean paint.framebuffer
  pixmaps : ∀ p pix, s.pixmaps.lookup p = some pix → Clean pix.framebuffer

theorem AllClean.editDrawable (h : AllClean s) (drawable : XId) {f : Framebuffer → Framebuffer}
    (hf : ∀ fb, Clean fb → Clean (f fb)) : AllClean (editDrawable drawable f s) := by
  rw [DrawRequests.editDrawable]
  split
  · refine ⟨fun w paint hpnt => ?_, h.pixmaps⟩
    dsimp only at hpnt
    rw [editPaint, lookup_modify] at hpnt
    split at hpnt
    · obtain ⟨old, hold, rfl⟩ := Option.map_eq_some_iff.mp hpnt
      exact hf _ (h.paints _ old hold)
    · exact h.paints w paint hpnt
  · refine ⟨h.paints, fun p pix hpix => ?_⟩
    dsimp only at hpix
    rw [lookup_modify] at hpix
    split at hpix
    · obtain ⟨old, hold, rfl⟩ := Option.map_eq_some_iff.mp hpix
      exact hf _ (h.pixmaps _ old hold)
    · exact h.pixmaps p pix hpix

/-- The state after the source and the mask are read, of which shared memory may change pixmaps. -/
def resolved (resolve : SourceResolver) (req : CompositeRequest) (s : DrawState) : DrawState :=
  let s₁ := { s with pixmaps := (resolve s req.src req.srcX req.srcY req.width req.height).2 }
  if req.mask ≠ 0 then { s₁ with pixmaps := (resolve s₁ req.mask req.maskX req.maskY req.width req.height).2 } else s₁

theorem resolved_eq : resolved resolve req s = { s with pixmaps := (if req.mask ≠ 0 then
    resolve { s with pixmaps := (resolve s req.src req.srcX req.srcY req.width req.height).2 } req.mask req.maskX
      req.maskY req.width req.height
    else (none, (resolve s req.src req.srcX req.srcY req.width req.height).2)).2 } := by
  rw [resolved]
  split <;> rfl

/-- The source is premultiplied, and so is what shared memory brings. A mask with an alpha
for each channel is for a picture without alpha. -/
structure Sound (resolve : SourceResolver) (req : CompositeRequest) (s : DrawState) : Prop where
  source : ∀ image, (resolve s req.src req.srcX req.srcY req.width req.height).1 = some image →
    ∀ row col p, image.pixelAt row col = some p → Premultiplied p
  synced : AllClean s → AllClean (resolved resolve req s)
  mask : req.mask ≠ 0 → ∀ pic, s.pictures.lookup req.mask = some pic → pic.componentAlpha →
    ∀ dst, s.pictures.lookup req.dst = some dst → pictFormatHasAlpha dst.formatId = false

/-- What a composite makes of the pixel `under` it. -/
def compositedPixel (req : CompositeRequest) (clip : ClipSnapshot) (componentAlpha dstHasAlpha : Bool)
    (src : SourceImage) (mask : Option SourceImage) (dx dy : Int) (under : Rgba) : Option Rgba :=
  if clip.allows dx dy then
    let row := (dy - req.dstY.toInt).toNat
    let col := (dx - req.dstX.toInt).toNat
    (src.pixelAt row col).bind fun p =>
      compositeThrough req.op componentAlpha dstHasAlpha (mask.bind (·.pixelAt row col)) p under
  else none

theorem compositedPixel_premultiplied {clip : ClipSnapshot} {componentAlpha dstHasAlpha : Bool} {src : SourceImage}
    {mask : Option SourceImage} {dx dy : Int} {under p : Rgba}
    (hsrc : ∀ row col p, src.pixelAt row col = some p → Premultiplied p) (hunder : Premultiplied under)
    (hmask : componentAlpha = false ∨ dstHasAlpha = false)
    (hp : compositedPixel req clip componentAlpha dstHasAlpha src mask dx dy under = some p) : Premultiplied p := by
  rw [compositedPixel] at hp
  split at hp
  · obtain ⟨q, hq, hp⟩ := Option.bind_eq_some_iff.mp hp
    exact compositeThrough_premultiplied (hsrc _ _ q hq) hunder hmask hp
  · cases hp

theorem Sound.componentAlpha {dst : Picture} (h : Sound resolve req s) (hdst : s.pictures.lookup req.dst = some dst) :
    (req.mask != 0 && (s.pictures.lookup req.mask).any (·.componentAlpha)) = false ∨
      pictFormatHasAlpha dst.formatId = false := by
  refine or_iff_not_imp_left.mpr fun hca => ?_
  obtain ⟨hmask, hany⟩ := Bool.and_eq_true_iff.mp (Bool.not_eq_false _ ▸ hca)
  obtain ⟨pic, hpic, halpha⟩ := (Option.any_eq_true _ _).mp hany
  exact h.mask (by simpa using hmask) pic hpic halpha dst hdst

theorem allClean_handleComposite (hs : AllClean s) (h : Sound resolve req s) :
    AllClean (handleComposite resolve req s) := by
  have hsynced := h.synced hs
  rw [resolved_eq] at hsynced
  rw [handleComposite]
  dsimp only
  generalize hmasked : (if req.mask ≠ 0 then
      resolve { s with pixmaps := (resolve s req.src req.srcX req.srcY req.width req.height).2 } req.mask req.maskX
        req.maskY req.width req.height
    else (none, (resolve s req.src req.srcX req.srcY req.width req.height).2)) = masked at hsynced ⊢
  split
  · next src dst hsrc hdst =>
    refine hsynced.editDrawable dst.drawable fun fb hfb => ?_
    exact clean_blitPixels (compositedPixel req _ _ _ src masked.1) hfb fun dx dy under p hunder hp =>
      compositedPixel_premultiplied (h.source src hsrc) hunder (h.componentAlpha hdst) hp
  · exact hsynced

def SoundRun (resolve : SourceResolver) : DrawState → List CompositeRequest → Prop
  | _, [] => True
  | s, req :: reqs => Sound resolve req s ∧ SoundRun resolve (handleComposite resolve req s) reqs

theorem composites_stay_premultiplied {reqs : List CompositeRequest} (h : AllClean s) (hrun : SoundRun resolve s reqs) :
    AllClean (reqs.foldl (fun s req => handleComposite resolve req s) s) := by
  induction reqs generalizing s with
  | nil => exact h
  | cons req reqs ih => exact ih (allClean_handleComposite h hrun.1) hrun.2

end Runs

section Tints

def tint : SourceResolver := fun s _ _ _ _ _ => (some ⟨[64, 0, 0, 128], 1⟩, s.pixmaps)

/-- The tint over a picture with alpha, through another tint for a mask. -/
def overTint : CompositeRequest := ⟨3, 0x400004, 0x400005, 0x400003, 0, 0, 0, 0, 1, 0, 1, 1⟩

def tinted : DrawState where
  toClientState := Links.loneClient
  paints := ∅
  pixmaps := Finmap.singleton 0x400001 ⟨2, 1, 32, Framebuffer.new 2 1, none⟩
  gcs := ∅
  colormaps := ∅
  pictures := (Finmap.singleton 0x400003 ⟨0x400001, 0x24, false, none, 0, 0, none⟩).insert 0x400005
    ⟨0x400002, 0x24, false, none, 0, 0, none⟩

theorem editDrawable_pictures (drawable : XId) (f : Framebuffer → Framebuffer) (s : DrawState) :
    (editDrawable drawable f s).pictures = s.pictures := by
  rw [editDrawable]
  split <;> rfl

theorem handleComposite_pictures (resolve : SourceResolver) (req : CompositeRequest) (s : DrawState) :
    (handleComposite resolve req s).pictures = s.pictures := by
  rw [handleComposite]
  split
  · exact editDrawable_pictures ..
  · rfl

theorem sound_overTint {s : DrawState} (hs : s.pictures = tinted.pictures) : Sound tint overTint s where
  source := by
    rintro image ⟨⟩ row col p hp
    rw [SourceImage.pixelAt] at hp
    dsimp only at hp
    split at hp
    · cases hp
    · next hin =>
      have hoff : (row * 1 + col) * 4 = 0 := by
        simp only [List.length_cons, List.length_nil] at hin
        omega
      rw [hoff] at hp
      obtain rfl := Option.some.inj hp
      decide
  synced := fun h => h
  mask := by
    intro _ pic hpic hca
    rw [hs] at hpic
    obtain rfl := Option.some.inj ((Finmap.lookup_insert _).symm.trans hpic)
    cases hca

theorem allClean_tinted : AllClean tinted where
  paints := by
    rintro w paint hpnt
    cases hpnt
  pixmaps := by
    intro p pix hpix
    obtain rfl := (Finmap.mem_singleton _ _ _).mp (Finmap.mem_of_lookup_eq_some hpix)
    obtain rfl := Option.some.inj (Finmap.lookup_singleton_eq.symm.trans hpix)
    exact clean_new 2 1

theorem tinted_twice : AllClean ([overTint, overTint].foldl (fun s req => handleComposite tint req s) tinted) :=
  composites_stay_premultiplied allClean_tinted
    ⟨sound_overTint rfl, sound_overTint (handleComposite_pictures ..), trivial⟩

end Tints

end X11Web.PremultipliedAlpha
