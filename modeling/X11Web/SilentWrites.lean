import X11Web.DrawRequests

namespace X11Web.SilentWrites

open Windows Overwrites Pixels DirtyMirror ImagePixels X11Web.WriteLists X11Web.DrawRequests List

variable {fb fb' : Framebuffer} {writes : List (Nat × Bytes)} {x y : Int16} {clipRects : List ClipRect}
  {pixel : ImagePixel} {data data' : Bytes} {p q : Nat × Nat} {w : Nat × Bytes}

/-- A painting marks what it changes, or it is some writes and marks nothing. -/
inductive PaintsAs (fb : Framebuffer) : Framebuffer → List (Nat × Bytes) → Prop
  | marked {fb' : Framebuffer} : Draws fb fb' → PaintsAs fb fb' []
  | silent {writes : List (Nat × Bytes)} : Fits fb.data.length writes →
      PaintsAs fb { fb with data := applyWrites fb.data writes } writes

theorem PaintsAs.covered_iff (h : PaintsAs fb fb' writes) :
    (∀ i, fb'.data[i]? ≠ fb.data[i]? → i ∈ dirtyCells fb') ↔
      ∀ i ∉ dirtyCells fb, ∀ v ∈ written writes i, fb.data[i]? = some v := by
  cases h with
  | marked hdrw =>
    refine iff_of_true (fun i hi => ?_) fun i _ v hv => nomatch hv
    by_contra hout
    exact hi (hdrw.changes.outside i hout)
  | silent hfits => exact changes_inside_iff hfits

theorem PaintsAs.wellFormed (h : PaintsAs fb fb' writes) (hfb : WellFormed fb) : WellFormed fb' := by
  cases h with
  | marked hdrw => exact hdrw.wellFormed
  | silent hfits => exact ⟨hfb.stride, (length_applyWrites hfits).trans hfb.length, hfb.dirty⟩

theorem PaintsAs.size (h : PaintsAs fb fb' writes) : fb'.width = fb.width ∧ fb'.height = fb.height := by
  cases h with
  | marked hdrw => exact ⟨hdrw.width, hdrw.height⟩
  | silent hfits => exact ⟨rfl, rfl⟩

theorem poke_of_length {rounds : List (Nat × Nat)} {step : Bytes → Nat × Nat → Option (Nat × Bytes)}
    (hlocal : ∀ data : Bytes, data.length = fb.data.length → ∀ p ∈ rounds, step data p = step fb.data p)
    (hfits : ∀ p ∈ rounds, ∀ w ∈ step fb.data p, w.1 + w.2.length ≤ fb.data.length) :
    PaintsAs fb (poke fb rounds step) (rounds.filterMap (step fb.data)) := by
  have hloop := foldl_eq_applyWrites_of_length hlocal hfits
  rw [poke, hloop]
  apply PaintsAs.silent
  intro w hw
  obtain ⟨p, hp, hstep⟩ := mem_filterMap.mp hw
  exact hfits p hp w hstep

/-- Where a round of an image loop writes, if it is on the framebuffer. -/
def pixelSlot (fb : Framebuffer) (x y : Int16) (p : Nat × Nat) : Option Nat :=
  let dy := y.toInt + p.1
  let dx := x.toInt + p.2
  if dy < 0 ∨ (fb.height : Int) ≤ dy ∨ dx < 0 ∨ (fb.width : Int) ≤ dx then none
  else some ((dy.toNat * fb.width + dx.toNat) * 4)

theorem pokePixel_eq_some (h : pokePixel fb x y clipRects pixel data p = some w) :
    pixelSlot fb x y p = some w.1 ∧ w.2.length = 4 ∧ w.1 + 4 ≤ data.length := by
  simp only [pokePixel] at h
  split at h
  · cases h
  · next hrow =>
    split at h
    · cases h
    · next hcol =>
      split at h
      · cases h
      · split at h
        · cases h
        · next hfits =>
          obtain ⟨r, -, rfl⟩ := Option.map_eq_some_iff.mp h
          refine ⟨?_, rfl, by omega⟩
          rw [pixelSlot, if_neg (by tauto)]

theorem rgbaAt_congr {off : Nat} (h : ∀ i ∈ Set.Ico off (off + 4), data[i]? = data'[i]?) :
    rgbaAt data off = rgbaAt data' off := by
  have hbyte : ∀ b < 4, data.getD (off + b) 0 = data'.getD (off + b) 0 := fun b hb => by
    rw [getD_eq_getElem?_getD, getD_eq_getElem?_getD, h _ ⟨by omega, by omega⟩]
  rw [rgbaAt, rgbaAt, hbyte 1 (by omega), hbyte 2 (by omega), hbyte 3 (by omega),
    show data.getD off 0 = data'.getD off 0 from hbyte 0 (by omega)]

theorem pokePixel_local (hlen : data.length = data'.length)
    (h : ∀ off ∈ pixelSlot fb x y p, ∀ i ∈ Set.Ico off (off + 4), data[i]? = data'[i]?) :
    pokePixel fb x y clipRects pixel data p = pokePixel fb x y clipRects pixel data' p := by
  simp only [pokePixel, hlen]
  split
  · rfl
  · next hrow =>
    split
    · rfl
    · next hcol =>
      have hslot : pixelSlot fb x y p =
          some (((y.toInt + p.1).toNat * fb.width + (x.toInt + p.2).toNat) * 4) := by
        rw [pixelSlot, if_neg (by tauto)]
      rw [rgbaAt_congr (h _ hslot)]

theorem pixelSlot_apart (hne : p ≠ q) {off off' : Nat} (hp : off ∈ pixelSlot fb x y p)
    (hq : off' ∈ pixelSlot fb x y q) : off + 4 ≤ off' ∨ off' + 4 ≤ off := by
  simp only [pixelSlot] at hp hq
  split at hp
  · cases hp
  · split at hq
    · cases hq
    · obtain rfl := Option.some.inj hp
      obtain rfl := Option.some.inj hq
      by_contra hnear
      have hinj := @pixel_index_inj fb.width (y.toInt + p.1).toNat (x.toInt + p.2).toNat
        (y.toInt + q.1).toNat (x.toInt + q.2).toNat (by omega) (by omega) (by omega)
      exact hne (Prod.ext (by omega) (by omega))

theorem nodup_imageRounds (req : PutImageRequest) : (imageRounds req).Nodup :=
  nodup_range.product nodup_range

def imageWrites (gc : Gc) (req : PutImageRequest) (fb : Framebuffer) : Painter → List (Nat × Bytes)
  | .gc => []
  | .pixels pixel => (imageRounds req).filterMap (pokePixel fb req.dstX req.dstY gc.clipRects pixel fb.data)
  | .bits => (bitRounds fb req).filterMap (pokeBit fb req fb.data)

theorem paint_paintsAs (h : WellFormed fb) (gc : Gc) (req : PutImageRequest) (painter : Painter) :
    PaintsAs fb (painter.paint gc req fb) (imageWrites gc req fb painter) := by
  cases painter with
  | gc =>
    exact .marked (Drawing.apply_draws h (.putImageGc req.dstX req.dstY req.width req.height (swapBr req.data)
      gc.function gc.planeMask gc.clipRects))
  | pixels pixel =>
    have hslot : ∀ data : Bytes, data.length = fb.data.length → ∀ p ∈ imageRounds req,
        ∀ w ∈ pokePixel fb req.dstX req.dstY gc.clipRects pixel data p,
          pixelSlot fb req.dstX req.dstY p = some w.1 ∧ w.2.length = 4 ∧ w.1 + 4 ≤ fb.data.length := by
      intro data hlen p _ w hw
      rw [← hlen]
      exact pokePixel_eq_some hw
    have hloop := foldl_eq_applyWrites 4 (pixelSlot fb req.dstX req.dstY) (nodup_imageRounds req) hslot
      (fun data hlen p _ hsame => pokePixel_local hlen hsame)
      (fun p _ q _ hne off hp off' hq => pixelSlot_apart hne hp hq)
    rw [Painter.paint, poke, hloop]
    apply PaintsAs.silent
    intro w hw
    obtain ⟨p, hp, hstep⟩ := mem_filterMap.mp hw
    obtain ⟨-, hlen, hfits⟩ := hslot fb.data rfl p hp w hstep
    omega
  | bits =>
    refine poke_of_length (fun data hlen p _ => ?_) fun p _ w hw => ?_
    · rw [pokeBit, pokeBit, hlen]
    · simp only [pokeBit, Option.mem_def] at hw
      split at hw
      · cases hw
      · obtain rfl := Option.some.inj hw
        simp only [length_cons, length_nil]
        omega

end X11Web.SilentWrites
