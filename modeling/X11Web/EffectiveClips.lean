import X11Web.ClipMasks

namespace X11Web.EffectiveClips

open HashMaps Windows Pixels GraphicsContexts PlacedMasks ClipMasks Option
open HitTesting (IsI16)
open DrawRequests (Pixmap)

abbrev Clip := PlacedMask (Int × Int)

def unclipped : Clip := ⟨none, (0, 0)⟩

/-- The mask after the values of a request; what names no pixmap is no mask. -/
def maskAfter (pixmaps : HashMap XId Pixmap) (aux : GcAux) (mask : Option (Set (Int × Int))) :
    Option (Set (Int × Int)) :=
  match aux.clipMask with
  | none => mask
  | some id => if id = 0 then none else (pixmaps.lookup id).map pixelOnes

def originAfter (aux : GcAux) (origin : Int × Int) : Int × Int :=
  ((aux.clipXOrigin.map (·.toInt16.toInt)).getD origin.1, (aux.clipYOrigin.map (·.toInt16.toInt)).getD origin.2)

def specifyValues (pixmaps : HashMap XId Pixmap) (aux : GcAux) (c : Clip) : Clip :=
  ⟨maskAfter pixmaps aux c.mask, originAfter aux c.origin⟩

def copyClip (valueMask : UInt32) (src dst : Clip) : Clip where
  mask := pick valueMask GcMask.clipMask src.mask dst.mask
  origin := (pick valueMask GcMask.clipOriginX src.origin.1 dst.origin.1,
    pick valueMask GcMask.clipOriginY src.origin.2 dst.origin.2)

/-- The clips that the graphics contexts specify after a request. -/
def specify (d : GcDesk) (clips : HashMap XId Clip) : GcAction → HashMap XId Clip
  | .createGc req =>
    if checkCreateGc req d = none then
      clips.insert req.cid (specifyValues d.pixmaps req.valueList unclipped)
    else clips
  | .changeGc gcId valueList => modify gcId (specifyValues d.pixmaps valueList) clips
  | .copyGc srcGc dstGc valueMask =>
    match clips.lookup srcGc with
    | none => clips
    | some src => modify dstGc (copyClip valueMask src) clips
  | .setDashes _ _ _ => clips
  | .setClipRectangles gcId clipX clipY rectangles =>
    modify gcId (fun _ => ⟨some (covered rectangles), (clipX.toInt, clipY.toInt)⟩) clips
  | .freeGc gcId => clips.erase gcId
  | .others _ _ => clips

structure ClipDesk where
  desk : GcDesk
  clips : HashMap XId Clip

def ClipDesk.start (d : GcDesk) : ClipDesk := ⟨{ d with gcs := ∅ }, ∅⟩

def next (s : ClipDesk) (a : GcAction) : ClipDesk := ⟨(a.handle s.desk).1, specify s.desk s.clips a⟩

/-- Every graphics context admits the points of the clip that it specifies. -/
def AllFollowed (gcs : HashMap XId GcState) (clips : HashMap XId Clip) : Prop :=
  ∀ id gc, gcs.lookup id = some gc → ∃ c, clips.lookup id = some c ∧ admitted gc.clipRects = c.points

/-- The request is handled without an overflow, and leaves every clip followed. -/
structure StepFollows (s : ClipDesk) (a : GcAction) : Prop where
  answered : (a.handle s.desk).2 ≠ .overflow
  followed : AllFollowed (next s a).desk.gcs (next s a).clips

/-- The rectangles are made anew, from a mask that has a place at the origin, or the clip
stays where it is. -/
def ValuesAllowed (pixmaps : HashMap XId Pixmap) (aux : GcAux) (bitmap : Option ClipMaskBitmap) (c : Clip) : Prop :=
  if aux.clipMask.isSome ∨ (aux.clipXOrigin.isSome ∨ aux.clipYOrigin.isSome) ∧ bitmap.isSome then
    ∀ S, maskAfter pixmaps aux c.mask = some S → ClipFits S (originAfter aux c.origin)
  else c.mask = none ∨ c.mask = some ∅ ∨ originAfter aux c.origin = c.origin

/-- A mask is copied with its origin, or the clips are of the same points. -/
def CopyAllowed (valueMask : UInt32) (src dst : Clip) : Prop :=
  valueMask &&& GcMask.clipBits ≠ 0 →
    if valueMask &&& GcMask.clipMask ≠ 0 then
      src.mask = none ∨ src.mask = some ∅ ∨ (copyClip valueMask src dst).origin = src.origin
    else (copyClip valueMask src dst).points = src.points

def Allowed (s : ClipDesk) : GcAction → Prop
  | .createGc req => checkCreateGc req s.desk = none → ValuesAllowed s.desk.pixmaps req.valueList none unclipped
  | .changeGc gcId valueList => ∀ gc c, s.desk.gcs.lookup gcId = some gc → s.clips.lookup gcId = some c →
    ValuesAllowed s.desk.pixmaps valueList gc.clipMaskBitmap c
  | .copyGc srcGc dstGc valueMask => ∀ src dst, s.clips.lookup srcGc = some src → s.clips.lookup dstGc = some dst →
    CopyAllowed valueMask src dst
  | .setClipRectangles gcId clipX clipY rectangles => gcId ∈ s.desk.gcs →
    rectangles ≠ [] ∧ ∀ r ∈ rectangles, IsI16 (r.x.toInt + clipX.toInt) ∧ IsI16 (r.y.toInt + clipY.toInt)
  | .setDashes _ _ _ | .freeGc _ | .others _ _ => True

/-- What a graphics context keeps of the clip that it specifies. -/
structure Coupled (gc : GcState) (c : Clip) : Prop where
  origin : c.origin = (gc.clipX.toInt, gc.clipY.toInt)
  mask : ∀ bm, gc.clipMaskBitmap = some bm → c.mask = some (ones bm)
  bounded : c.Bounded

def Follows (gc : GcState) (c : Clip) : Prop := admitted gc.clipRects = c.points

section Values

variable {pixmaps : HashMap XId Pixmap} {aux : GcAux} {gc gc' : GcState} {c : Clip} {bitmap : Option ClipMaskBitmap}

theorem coupled_default : Coupled .default unclipped where
  origin := rfl
  mask _ h := absurd h (by simp [GcState.default])
  bounded _ h := absurd h (by simp [unclipped])

theorem follows_default : Follows .default unclipped := admitted_nil

theorem origin_applyCreateGcAux (gc : GcState) (aux : GcAux) :
    ((applyCreateGcAux gc aux).clipX.toInt, (applyCreateGcAux gc aux).clipY.toInt) =
      originAfter aux (gc.clipX.toInt, gc.clipY.toInt) := by
  apply Prod.ext
  · dsimp only [applyCreateGcAux, originAfter]
    cases aux.clipXOrigin <;> rfl
  · dsimp only [applyCreateGcAux, originAfter]
    cases aux.clipYOrigin <;> rfl

theorem Coupled.originAfter_eq (hc : Coupled gc c) (aux : GcAux) : originAfter aux c.origin =
    ((applyCreateGcAux gc aux).clipX.toInt, (applyCreateGcAux gc aux).clipY.toInt) := by
  rw [hc.origin, origin_applyCreateGcAux]

theorem Coupled.map_ones (hc : Coupled gc c) (h : gc.clipMaskBitmap.isSome) :
    gc.clipMaskBitmap.map ones = c.mask := by
  obtain ⟨bm, hbm⟩ := isSome_iff_exists.mp h
  rw [hbm, hc.mask bm hbm]
  rfl

theorem maskRects_coupled (h : maskRects bitmap gc = some gc') :
    Coupled gc' ⟨bitmap.map ones, (gc.clipX.toInt, gc.clipY.toInt)⟩ := by
  have hbdd : (⟨bitmap.map ones, (gc.clipX.toInt, gc.clipY.toInt)⟩ : Clip).Bounded := by
    intro S hS
    obtain ⟨bm, -, rfl⟩ := map_eq_some_iff.mp hS
    exact ones_finite bm
  cases bitmap with
  | none =>
    obtain rfl := some.inj h
    exact ⟨rfl, fun _ h => absurd h (by simp), hbdd⟩
  | some bm =>
    obtain ⟨rects, -, rfl⟩ := map_eq_some_iff.mp h
    exact ⟨rfl, fun _ h => some.inj h ▸ rfl, hbdd⟩

theorem maskRects_follows_iff :
    (∃ gc', maskRects bitmap gc = some gc' ∧ Follows gc' ⟨bitmap.map ones, (gc.clipX.toInt, gc.clipY.toInt)⟩) ↔
      ∀ S, bitmap.map ones = some S → ClipFits S (gc.clipX.toInt, gc.clipY.toInt) := by
  cases bitmap with
  | none => exact iff_of_true ⟨_, rfl, admitted_nil⟩ fun _ h => absurd h (by simp)
  | some bm =>
    have hiff := @toClipRects_follows_iff bm gc.clipX gc.clipY
    constructor
    · rintro ⟨_, hgc', hfols⟩ S hS
      obtain rfl := some.inj hS
      obtain ⟨rects, hrects, rfl⟩ := map_eq_some_iff.mp hgc'
      exact hiff.mp ⟨rects, hrects, hfols⟩
    · intro h
      obtain ⟨rects, hrects, hfols⟩ := hiff.mpr (h _ rfl)
      exact ⟨_, map_eq_some_iff.mpr ⟨rects, hrects, rfl⟩, hfols⟩

def bitmapAfter (pixmaps : HashMap XId Pixmap) (aux : GcAux) (bitmap : Option ClipMaskBitmap) :
    Option ClipMaskBitmap :=
  match aux.clipMask with
  | none => bitmap
  | some id => if id ≠ 0 then resolveClipMask pixmaps id else none

theorem map_ones_resolveClipMask (pixmaps : HashMap XId Pixmap) (id : XId) :
    (resolveClipMask pixmaps id).map ones = if id = 0 then none else (pixmaps.lookup id).map pixelOnes := by
  by_cases hid : id = 0
  · rw [resolveClipMask, if_pos hid, if_pos hid]
    rfl
  · rw [if_neg hid]
    cases hbm : resolveClipMask pixmaps id with
    | none =>
      rw [resolveClipMask, if_neg hid] at hbm
      rw [map_eq_none_iff.mp hbm]
      rfl
    | some bm =>
      obtain ⟨pix, hpix, hones⟩ := ones_resolveClipMask hbm
      rw [hpix, map_some, map_some, hones]

theorem map_ones_bitmapAfter {mask : Option (Set (Int × Int))}
    (h : aux.clipMask.isSome ∨ bitmap.map ones = mask) :
    (bitmapAfter pixmaps aux bitmap).map ones = maskAfter pixmaps aux mask := by
  rw [bitmapAfter, maskAfter]
  cases haux : aux.clipMask with
  | none => exact h.resolve_left (by simp [haux])
  | some id =>
    dsimp only
    rw [← map_ones_resolveClipMask]
    by_cases hid : id = 0
    · rw [if_neg (not_not_intro hid), resolveClipMask, if_pos hid]
    · rw [if_pos hid]

theorem maskRects_self {bm : ClipMaskBitmap} (h : gc.clipMaskBitmap = some bm) :
    maskRects (some bm) gc =
      (bm.toClipRects gc.clipX gc.clipY).map fun rects => { gc with clipRects := rects } := by
  rw [maskRects, ← h]

theorem changeGc_eq (pixmaps : HashMap XId Pixmap) (aux : GcAux) (gc : GcState) :
    changeGc pixmaps aux gc =
      if aux.clipMask.isSome ∨ (aux.clipXOrigin.isSome ∨ aux.clipYOrigin.isSome) ∧ gc.clipMaskBitmap.isSome then
        maskRects (bitmapAfter pixmaps aux gc.clipMaskBitmap) (applyCreateGcAux gc aux)
      else some (applyCreateGcAux gc aux) := by
  have hbitmap : (applyCreateGcAux gc aux).clipMaskBitmap = gc.clipMaskBitmap := rfl
  rw [changeGc, bitmapAfter]
  cases haux : aux.clipMask with
  | some id =>
    have hid : (applyCreateGcAux gc aux).clipMask = id := by rw [applyCreateGcAux, haux]; rfl
    simp [hid]
  | none =>
    cases hbm : gc.clipMaskBitmap with
    | none => simp [hbitmap, hbm]
    | some bm =>
      have hanew := maskRects_self (hbitmap.trans hbm)
      simp only [isSome_none, Bool.false_eq_true, if_false, bind_some, isNone_none, and_true,
        false_or, isSome_some, hbitmap, hbm, hanew]

theorem changeGc_coupled (hc : Coupled gc c) (h : changeGc pixmaps aux gc = some gc') :
    Coupled gc' (specifyValues pixmaps aux c) := by
  have horig := hc.originAfter_eq aux
  rw [changeGc_eq] at h
  split at h
  · next hanew =>
    rw [specifyValues, horig, ← map_ones_bitmapAfter]
    · exact maskRects_coupled h
    · exact hanew.imp_right fun horig => hc.map_ones horig.2
  · next hkept =>
    obtain rfl := some.inj h
    have hmask : aux.clipMask = none := not_isSome_iff_eq_none.mp fun hmask => hkept (Or.inl hmask)
    refine ⟨horig, fun bm hbm => ?_, fun S hS => ?_⟩
    · rw [specifyValues, maskAfter, hmask]
      exact hc.mask bm hbm
    · rw [specifyValues, maskAfter, hmask] at hS
      exact hc.bounded S hS

theorem changeGc_follows_iff (hc : Coupled gc c) (hf : Follows gc c) :
    (∃ gc', changeGc pixmaps aux gc = some gc' ∧ Follows gc' (specifyValues pixmaps aux c)) ↔
      ValuesAllowed pixmaps aux gc.clipMaskBitmap c := by
  have horig := hc.originAfter_eq aux
  rw [changeGc_eq, ValuesAllowed, specifyValues]
  split
  · next hanew =>
    rw [horig, ← @map_ones_bitmapAfter pixmaps aux gc.clipMaskBitmap]
    · exact maskRects_follows_iff
    · exact hanew.imp_right fun horig => hc.map_ones horig.2
  · next hkept =>
    have hmask : aux.clipMask = none := not_isSome_iff_eq_none.mp fun hmask => hkept (Or.inl hmask)
    rw [← PlacedMask.points_eq_iff hc.bounded, ← hf, maskAfter, hmask]
    constructor
    · rintro ⟨_, hgc', hfols⟩
      obtain rfl := some.inj hgc'
      exact hfols.symm
    · exact fun h => ⟨_, rfl, h.symm⟩

end Values

section Copies

variable {valueMask : UInt32} {src dst : GcState} {c c' : Clip}

theorem copyGc_coupled (hsrc : Coupled src c) (hdst : Coupled dst c') :
    Coupled (copyGc valueMask src dst) (copyClip valueMask c c') where
  origin := by
    rw [copyClip, copyGc, hsrc.origin, hdst.origin]
    apply Prod.ext
    · exact (apply_ite Int16.toInt ..).symm
    · exact (apply_ite Int16.toInt ..).symm
  mask bm hbm := by
    rw [copyClip, pick]
    change pick valueMask GcMask.clipMask src.clipMaskBitmap dst.clipMaskBitmap = some bm at hbm
    rw [pick] at hbm
    split at hbm
    · next hbit => exact (if_pos hbit).trans (hsrc.mask bm hbm)
    · next hbit => exact (if_neg hbit).trans (hdst.mask bm hbm)
  bounded S hS := by
    rw [copyClip, pick] at hS
    split at hS
    · exact hsrc.bounded S hS
    · exact hdst.bounded S hS

theorem pick_of_and_eq_zero {α : Type} {bits bit : UInt32} (h : valueMask &&& bits = 0) (hbit : bits &&& bit = bit)
    (a b : α) : pick valueMask bit a b = b := by
  have hzero : valueMask &&& bit = 0 := by
    rw [← hbit, ← UInt32.and_assoc, h, UInt32.zero_and]
  rw [pick, if_neg (not_not_intro hzero)]

theorem copyGc_follows_iff (hsrc : Coupled src c) (hfsrc : Follows src c) (hfdst : Follows dst c') :
    Follows (copyGc valueMask src dst) (copyClip valueMask c c') ↔ CopyAllowed valueMask c c' := by
  rw [Follows, CopyAllowed]
  change admitted (pick valueMask GcMask.clipBits src.clipRects dst.clipRects) = _ ↔ _
  by_cases hclip : valueMask &&& GcMask.clipBits ≠ 0
  · rw [forall_prop_of_true hclip, pick, if_pos hclip, hfsrc]
    split
    · next hmask =>
      rw [← PlacedMask.points_eq_iff hsrc.bounded, copyClip, pick, if_pos hmask]
      exact eq_comm
    · exact eq_comm
  · have hzero := not_not.mp hclip
    have hclips : copyClip valueMask c c' = c' := by
      rw [copyClip, pick_of_and_eq_zero hzero (by decide), pick_of_and_eq_zero hzero (by decide),
        pick_of_and_eq_zero hzero (by decide)]
    rw [pick, if_neg hclip, hclips]
    exact iff_of_true hfdst fun hne => absurd hne hclip

end Copies

theorem setClipRectangles_coupled (gc : GcState) (clipX clipY : Int16) (rectangles rects : List ClipRect) :
    Coupled
      { gc with clipX := clipX, clipY := clipY, clipRects := rects, clipMask := 0, clipMaskBitmap := none }
      ⟨some (covered rectangles), (clipX.toInt, clipY.toInt)⟩ where
  origin := rfl
  mask _ h := absurd h (by simp)
  bounded S hS := some.inj hS ▸ covered_finite rectangles

theorem mapM_offsetRect_follows_iff {clipX clipY : Int16} {rectangles : List ClipRect} :
    (∃ rects, rectangles.mapM (offsetRect clipX clipY) = some rects ∧
      admitted rects = PlacedMask.points ⟨some (covered rectangles), (clipX.toInt, clipY.toInt)⟩) ↔
      rectangles ≠ [] ∧
        ∀ r ∈ rectangles, IsI16 (r.x.toInt + clipX.toInt) ∧ IsI16 (r.y.toInt + clipY.toInt) := by
  have hmvd (rects) : rectangles.mapM (offsetRect clipX clipY) = some rects ↔ _ :=
    Runs.mapM_eq_some_iff fun r _ b => offsetRect_eq_some clipX clipY r b
  constructor
  · rintro ⟨rects, hrects, hfols⟩
    refine ⟨fun hnil => ?_, ((hmvd rects).mp hrects).1⟩
    subst hnil
    obtain rfl : [] = rects := some.inj hrects
    have hemp : covered [] = ∅ := Set.eq_empty_of_forall_notMem fun p ⟨r, hr, _⟩ => absurd hr (by simp)
    rw [admitted_nil, hemp, PlacedMask.points_empty] at hfols
    exact Set.empty_ne_univ hfols.symm
  · rintro ⟨hne, hfits⟩
    have hrects := (hmvd _).mpr ⟨hfits, rfl⟩
    refine ⟨_, hrects, ?_⟩
    rw [← covered_offsetRects hrects, admitted_of_ne_nil (by simpa using hne)]


/-- Each graphics context has its clip, keeps what it needs of it, and admits its points. -/
def Agree (s : ClipDesk) : Prop :=
  ∀ id, Option.Rel (fun gc c => Coupled gc c ∧ Follows gc c) (s.desk.gcs.lookup id) (s.clips.lookup id)

section Steps

variable {s : ClipDesk} {d : GcDesk} {clips : HashMap XId Clip} {a : GcAction} {id : XId} {gc : GcState} {c : Clip}

theorem agree_start (d : GcDesk) : Agree (.start d) := fun _ => .none

theorem Agree.of_lookup (h : Agree s) (hgc : s.desk.gcs.lookup id = some gc) :
    ∃ c, s.clips.lookup id = some c ∧ Coupled gc c ∧ Follows gc c := by
  have hid := h id
  rw [hgc] at hid
  cases hc : s.clips.lookup id with
  | none => rw [hc] at hid; cases hid
  | some c => rw [hc] at hid; cases hid with | some hid => exact ⟨c, rfl, hid⟩

theorem Agree.lookup_eq_none (h : Agree s) (hgc : s.desk.gcs.lookup id = none) : s.clips.lookup id = none := by
  have hid := h id
  rw [hgc] at hid
  cases hc : s.clips.lookup id with
  | none => rfl
  | some c => rw [hc] at hid; cases hid

theorem Agree.allFollowed (h : Agree s) : AllFollowed s.desk.gcs s.clips := by
  intro id gc hgc
  obtain ⟨c, hc, -, hf⟩ := h.of_lookup hgc
  exact ⟨c, hc, hf⟩

def put (d : GcDesk) (id : XId) : Option GcState → GcDesk × GcResponse
  | none => (d, .overflow)
  | some gc => ({ d with gcs := d.gcs.insert id gc }, .ok)

/-- A request leaves every clip followed exactly if it is allowed, and keeps the
agreement then. -/
def StepExact (s : ClipDesk) (a : GcAction) : Prop :=
  (StepFollows s a ↔ Allowed s a) ∧ (StepFollows s a → Agree (next s a))

theorem step_put {new : Option GcState} (h : Agree s) (hhdl : a.handle s.desk = put s.desk id new)
    (hspecify : specify s.desk s.clips a = s.clips.insert id c) (hcoupled : ∀ gc, new = some gc → Coupled gc c)
    (hnew : (∃ gc, new = some gc ∧ Follows gc c) ↔ Allowed s a) : StepExact s a := by
  have hfols : StepFollows s a → ∃ gc, new = some gc ∧ Follows gc c := by
    rintro ⟨hansd, hfollowed⟩
    rw [hhdl] at hansd
    rw [next, hhdl, hspecify] at hfollowed
    cases new with
    | none => exact absurd rfl hansd
    | some gc =>
      obtain ⟨c', hc', hf⟩ := hfollowed id gc (Finmap.lookup_insert _)
      obtain rfl := some.inj ((Finmap.lookup_insert _).symm.trans hc')
      exact ⟨gc, rfl, hf⟩
  have hagr : (∃ gc, new = some gc ∧ Follows gc c) → (a.handle s.desk).2 ≠ .overflow ∧ Agree (next s a) := by
    rintro ⟨gc, rfl, hf⟩
    rw [next, hhdl, hspecify]
    refine ⟨by simp [put], fun id' => ?_⟩
    simp only [put, lookup_insert_eq]
    split
    · exact .some ⟨hcoupled gc rfl, hf⟩
    · exact h id'
  rw [StepExact, ← hnew]
  exact ⟨⟨hfols, fun hf => ⟨(hagr hf).1, (hagr hf).2.allFollowed⟩⟩, fun hs => (hagr (hfols hs)).2⟩

theorem step_kept (hansd : (a.handle s.desk).2 ≠ .overflow) (hagr : Agree (next s a)) (hallowed : Allowed s a) :
    StepExact s a :=
  ⟨iff_of_true ⟨hansd, hagr.allFollowed⟩ hallowed, fun _ => hagr⟩

theorem step_refused {r : GcResponse} (h : Agree s) (hhdl : a.handle s.desk = (s.desk, r)) (hr : r ≠ .overflow)
    (hspecify : specify s.desk s.clips a = s.clips) (hallowed : Allowed s a) : StepExact s a := by
  refine step_kept ?_ ?_ hallowed
  · rwa [hhdl]
  · rwa [next, hhdl, hspecify]

theorem checkCreateGc_ne_overflow (req : CreateGcRequest) (d : GcDesk) : checkCreateGc req d ≠ some .overflow := by
  rw [checkCreateGc]
  split_ifs <;> simp

theorem handleCreateGc_eq {req : CreateGcRequest} (h : checkCreateGc req d = none) :
    handleCreateGc req d = put d req.cid (changeGc d.pixmaps req.valueList .default) := by
  have hbitmap : GcState.default.clipMaskBitmap = none := rfl
  rw [handleCreateGc, h, changeGc_eq, hbitmap, isSome_none]
  dsimp only
  simp only [Bool.false_eq_true, and_false, or_false]
  cases haux : req.valueList.clipMask with
  | none => rfl
  | some id =>
    have hid : (applyCreateGcAux .default req.valueList).clipMask = id := by rw [applyCreateGcAux, haux]; rfl
    rw [bitmapAfter, haux, hid]
    rfl

theorem step_createGc (h : Agree s) (req : CreateGcRequest) : StepExact s (.createGc req) := by
  cases hcheck : checkCreateGc req s.desk with
  | some r =>
    have hhdl : GcAction.handle s.desk (.createGc req) = (s.desk, r) := by
      rw [GcAction.handle, handleCreateGc, hcheck]
    refine step_refused h hhdl ?_ (if_neg ?_) ?_
    · exact fun hr => checkCreateGc_ne_overflow req s.desk (hcheck.trans (congrArg some hr))
    · simp [hcheck]
    · exact fun hnone => absurd (hcheck.symm.trans hnone) (by simp)
  | none =>
    refine step_put h (handleCreateGc_eq hcheck) (if_pos hcheck) (fun gc => changeGc_coupled coupled_default) ?_
    refine (changeGc_follows_iff coupled_default follows_default).trans ?_
    exact ⟨fun hok _ => hok, fun hok => hok hcheck⟩

theorem step_changeGc (h : Agree s) (gcId : XId) (aux : GcAux) : StepExact s (.changeGc gcId aux) := by
  cases hgc : s.desk.gcs.lookup gcId with
  | none =>
    have hc := h.lookup_eq_none hgc
    have hhdl : GcAction.handle s.desk (.changeGc gcId aux) = (s.desk, .error .gContext gcId 56) := by
      rw [GcAction.handle, handleChangeGc, hgc]
    refine step_refused h hhdl (by simp) (modify_of_lookup_none hc _) ?_
    exact fun gc c hsome => absurd (hgc.symm.trans hsome) (by simp)
  | some gc =>
    obtain ⟨c, hc, hcoupled, hf⟩ := h.of_lookup hgc
    have hhdl : GcAction.handle s.desk (.changeGc gcId aux) = put s.desk gcId (changeGc s.desk.pixmaps aux gc) := by
      rw [GcAction.handle, handleChangeGc, hgc]
      rfl
    refine step_put h hhdl (modify_of_lookup hc _) (fun gc => changeGc_coupled hcoupled)
      ((changeGc_follows_iff hcoupled hf).trans ?_)
    constructor
    · intro hok gc' c' hgc' hc'
      obtain rfl := some.inj (hgc.symm.trans hgc')
      obtain rfl := some.inj (hc.symm.trans hc')
      exact hok
    · exact fun hok => hok gc c hgc hc

theorem step_copyGc (h : Agree s) (srcGc dstGc : XId) (valueMask : UInt32) :
    StepExact s (.copyGc srcGc dstGc valueMask) := by
  cases hsrc : s.desk.gcs.lookup srcGc with
  | none =>
    have hc := h.lookup_eq_none hsrc
    have hhdl : GcAction.handle s.desk (.copyGc srcGc dstGc valueMask) = (s.desk, .error .gContext srcGc 57) := by
      rw [GcAction.handle, handleCopyGc, hsrc]
    refine step_refused h hhdl (by simp) ?_ ?_
    · rw [specify, hc]
    · exact fun c c' hsome => absurd (hc.symm.trans hsome) (by simp)
  | some src =>
    obtain ⟨c, hc, hcsrc, hfsrc⟩ := h.of_lookup hsrc
    have hspecify : specify s.desk s.clips (.copyGc srcGc dstGc valueMask) =
        HashMaps.modify dstGc (copyClip valueMask c) s.clips := by
      rw [specify, hc]
    cases hdst : s.desk.gcs.lookup dstGc with
    | none =>
      have hc' := h.lookup_eq_none hdst
      have hhdl : GcAction.handle s.desk (.copyGc srcGc dstGc valueMask) =
          (s.desk, .error .gContext dstGc 57) := by
        rw [GcAction.handle, handleCopyGc, hsrc, hdst]
      refine step_refused h hhdl (by simp) (hspecify.trans (modify_of_lookup_none hc' _)) ?_
      exact fun c c' _ hsome => absurd (hc'.symm.trans hsome) (by simp)
    | some dst =>
      obtain ⟨c', hc', hcdst, hfdst⟩ := h.of_lookup hdst
      have hhdl : GcAction.handle s.desk (.copyGc srcGc dstGc valueMask) =
          put s.desk dstGc (some (copyGc valueMask src dst)) := by
        rw [GcAction.handle, handleCopyGc, hsrc, hdst]
        rfl
      have hiff := @copyGc_follows_iff valueMask src dst c c' hcsrc hfsrc hfdst
      refine step_put h hhdl (hspecify.trans (modify_of_lookup hc' _)) ?_ ?_
      · intro gc hgc
        obtain rfl := some.inj hgc
        exact copyGc_coupled hcsrc hcdst
      · constructor
        · rintro ⟨_, hgc, hf⟩ src' dst' hsrc' hdst'
          obtain rfl := some.inj hgc
          obtain rfl := some.inj (hc.symm.trans hsrc')
          obtain rfl := some.inj (hc'.symm.trans hdst')
          exact hiff.mp hf
        · exact fun hok => ⟨_, rfl, hiff.mpr (hok c c' hc hc')⟩

theorem step_setDashes (h : Agree s) (gcId : XId) (dashOffset : UInt16) (dashes : List UInt8) :
    StepExact s (.setDashes gcId dashOffset dashes) := by
  cases hgc : s.desk.gcs.lookup gcId with
  | none =>
    have hhdl : GcAction.handle s.desk (.setDashes gcId dashOffset dashes) = (s.desk, .error .gContext gcId 58) := by
      rw [GcAction.handle, handleSetDashes, hgc]
    exact step_refused h hhdl (by simp) rfl trivial
  | some gc =>
    obtain ⟨c, hc, hcoupled, hf⟩ := h.of_lookup hgc
    have hkps : Agree ⟨{ s.desk with
        gcs := s.desk.gcs.insert gcId { gc with dashOffset := dashOffset, dashList := dashes } }, s.clips⟩ := by
      intro id
      dsimp only
      rw [lookup_insert_eq]
      split
      · next hid =>
        rw [hid, hc]
        exact .some ⟨⟨hcoupled.origin, hcoupled.mask, hcoupled.bounded⟩, hf⟩
      · exact h id
    refine step_kept ?_ ?_ trivial
    · rw [GcAction.handle, handleSetDashes, hgc]
      dsimp only
      split_ifs <;> simp
    · rw [next, GcAction.handle, handleSetDashes, hgc, specify]
      dsimp only
      split_ifs
      · exact h
      · exact h
      · exact hkps

theorem step_setClipRectangles (h : Agree s) (gcId : XId) (clipX clipY : Int16) (rectangles : List ClipRect) :
    StepExact s (.setClipRectangles gcId clipX clipY rectangles) := by
  cases hgc : s.desk.gcs.lookup gcId with
  | none =>
    have hhdl : GcAction.handle s.desk (.setClipRectangles gcId clipX clipY rectangles) =
        (s.desk, .error .gContext gcId 59) := by
      rw [GcAction.handle, handleSetClipRectangles, hgc]
    refine step_refused h hhdl (by simp) (modify_of_lookup_none (h.lookup_eq_none hgc) _) ?_
    exact fun hmem => absurd hmem (Finmap.lookup_eq_none.mp hgc)
  | some gc =>
    obtain ⟨c, hc, -, -⟩ := h.of_lookup hgc
    have hhdl : GcAction.handle s.desk (.setClipRectangles gcId clipX clipY rectangles) =
        put s.desk gcId ((rectangles.mapM (offsetRect clipX clipY)).map fun rects =>
          { gc with clipX := clipX, clipY := clipY, clipRects := rects, clipMask := 0, clipMaskBitmap := none }) := by
      rw [GcAction.handle, handleSetClipRectangles, hgc]
      dsimp only
      cases rectangles.mapM (offsetRect clipX clipY) <;> rfl
    refine step_put h hhdl (modify_of_lookup hc _) ?_ ?_
    · intro gc' hgc'
      obtain ⟨rects, -, rfl⟩ := map_eq_some_iff.mp hgc'
      exact setClipRectangles_coupled gc clipX clipY rectangles rects
    · have hmem : gcId ∈ s.desk.gcs := Finmap.mem_iff.mpr ⟨gc, hgc⟩
      rw [Allowed, forall_prop_of_true hmem, ← mapM_offsetRect_follows_iff]
      simp only [map_eq_some_iff, exists_exists_and_eq_and]
      rfl

theorem step_freeGc (h : Agree s) (gcId : XId) : StepExact s (.freeGc gcId) := by
  have hmem := @Finmap.lookup_eq_none _ _ _ gcId s.desk.gcs
  refine step_kept ?_ ?_ trivial
  · rw [GcAction.handle, handleFreeGc]
    split_ifs <;> simp
  · intro id
    have hid := h id
    rw [next, GcAction.handle, handleFreeGc, specify, lookup_erase_eq]
    split_ifs with hin heq heq
    · rw [lookup_erase_eq, if_pos heq]
      exact .none
    · rw [lookup_erase_eq, if_neg heq]
      exact hid
    · subst heq
      rw [hmem.mpr hin]
      exact .none
    · exact hid

theorem step_exact (h : Agree s) (a : GcAction) : StepExact s a := by
  cases a with
  | createGc req => exact step_createGc h req
  | changeGc gcId valueList => exact step_changeGc h gcId valueList
  | copyGc srcGc dstGc valueMask => exact step_copyGc h srcGc dstGc valueMask
  | setDashes gcId dashOffset dashes => exact step_setDashes h gcId dashOffset dashes
  | setClipRectangles gcId clipX clipY rectangles => exact step_setClipRectangles h gcId clipX clipY rectangles
  | freeGc gcId => exact step_freeGc h gcId
  | others windows pixmaps => exact step_kept (by simp [GcAction.handle]) h trivial

/-- In every run the clips are followed exactly as long as the requests are allowed. -/
theorem clips_followed_iff (d : GcDesk) (actions : List GcAction) :
    (∀ as a, as ++ [a] <+: actions → StepFollows (as.foldl next (.start d)) a) ↔
      ∀ as a, as ++ [a] <+: actions → Allowed (as.foldl next (.start d)) a :=
  Runs.foldl_steps_iff (I := Agree) (Q := StepFollows) (C := Allowed) (fun _ a h => (step_exact h a).2)
    (fun _ a h => (step_exact h a).1) (agree_start d) actions

end Steps

def desk : GcDesk := ⟨0x400000, ∅, Finmap.singleton 5 ⟨1, 1, 1, .new 1 1, none⟩, ∅⟩

def blankMask : GcAux :=
  ⟨none, none, none, none, none, none, none, none, none, none, none, none, none, none, none, none, none, none, none,
    some 5, none, none, none⟩

/-- A mask without a one bit leaves no rectangle, and what is to draw nowhere draws
everywhere. -/
theorem blank_mask_admits_all :
    ¬ ∀ (d : GcDesk) (actions : List GcAction),
      ∀ as a, as ++ [a] <+: actions → StepFollows (as.foldl next (.start d)) a := by
  intro hall
  have hstep := hall desk [.createGc ⟨0x400001, 5, blankMask⟩] [] (.createGc ⟨0x400001, 5, blankMask⟩) List.prefix_rfl
  have hcrt : ∃ gc, (next (.start desk) (.createGc ⟨0x400001, 5, blankMask⟩)).desk.gcs.lookup 0x400001 = some gc ∧
      gc.clipRects = [] := ⟨_, rfl, rfl⟩
  obtain ⟨gc, hgc, hrects⟩ := hcrt
  obtain ⟨c, hc, hfols⟩ := hstep.followed 0x400001 gc hgc
  obtain rfl : (⟨some (pixelOnes ⟨1, 1, 1, .new 1 1, none⟩), (0, 0)⟩ : Clip) = c := some.inj hc
  have hpt : ((0, 0) : Int × Int) ∈ admitted gc.clipRects := by
    rw [hrects, admitted_nil]
    exact Set.mem_univ _
  rw [hfols] at hpt
  exact absurd hpt.2.2 (by decide)

end X11Web.EffectiveClips
