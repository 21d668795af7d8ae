import X11Web.ConfigureAtomic

namespace X11Web.ConfigureSizes

open Option

open HashMaps LinkedForest Windows WindowTree Ewmh
  X11Web.Stacking X11Web.MapReparent X11Web.Pixels X11Web.Runs X11Web.ConfigureWindow
open Links (loneClient)
open ConfigureAtomic (keepsWidth keepsHeight elim_eq_iff geometryOf_zero_width
  geometryOf_zero_height geometryOf_sized)
open CreateDestroy (CreateWindowRequest createWindowError createWindow newWindow
  setInitialProperties createWindow_windows resolveClass)
open Configure (ConfigureWindowRequest applyGeometry applySizeHint hintedWidth hintedHeight)

def maxSize : Nat := 32767

def LegalSize (v : Nat) : Prop := 1 ≤ v ∧ v ≤ maxSize

instance (v : Nat) : Decidable (LegalSize v) := inferInstanceAs (Decidable (_ ∧ _))

def sizeKey (w : WindowState) : Nat × Nat × Nat := (w.width, w.height, w.winClass)

def pixelSize (e : WindowExtras) : Nat × Nat := (e.framebuffer.width, e.framebuffer.height)

/-- Every window has a legal size, and every one with pixels has pixels of that size. -/
structure LegalSizes (s : ConfigureState) : Prop where
  sizes : ∀ w win, s.windows.lookup w = some win → LegalSize win.width ∧ LegalSize win.height
  pixels : ∀ w win, s.windows.lookup w = some win → win.winClass ≠ inputOnly →
    (s.extras.lookup w).map pixelSize = some (win.width, win.height)

/-- The resize deltas for the win-gravity fit 16 bits. -/
def DeltasFit (s : ConfigureState) (req : ConfigureWindowRequest) : Prop :=
  ∀ win, s.windows.lookup req.window = some win → (geometryOf s.toClientState req win).2 = none →
    (subI16 true (asI16 (geometryOf s.toClientState req win).1.width) (asI16 win.width)).isSome ∧
      (subI16 true (asI16 (geometryOf s.toClientState req win).1.height)
        (asI16 win.height)).isSome

/-- A value of 16 bits under the hints of one dimension: something keeps it above 0,
and the maximum or the grid of the steps keeps it below 32768. -/
def FitsHints (inc base minimum maximum v : Nat) : Prop :=
  let start := if base > 0 then base else minimum
  (1 ≤ minimum ∨ (1 ≤ v ∧ (1 ≤ base ∨ inc ≤ v))) ∧
    ((1 ≤ maximum ∧ maximum ≤ maxSize) ∨
      (minimum ≤ maxSize ∧ (v ≤ maxSize ∨
        (1 < inc ∧ start < v ∧ ∀ k, start + k * inc ≤ v → start + k * inc ≤ maxSize))))

def WidthFits (hints : Option SizeHints) (v : Nat) : Prop :=
  match hints with
  | none => LegalSize (asU16 v)
  | some h => FitsHints h.widthInc h.baseWidth h.minWidth h.maxWidth (asU16 v)

def HeightFits (hints : Option SizeHints) (v : Nat) : Prop :=
  match hints with
  | none => LegalSize (asU16 v)
  | some h => FitsHints h.heightInc h.baseHeight h.minHeight h.maxHeight (asU16 v)

/-- The sizes of the request fit, and no error comes between a new size and its
pixels. -/
def TameFor (s : ConfigureState) (req : ConfigureWindowRequest) (win : WindowState) : Prop :=
  let width := appliedWidth s.toClientState req
  let height := appliedHeight s.toClientState req
  let hints := getSizeHints s.toClientState req.window
  let keeps := fun b => win.winClass = inputOnly ∨ b = true
  width = some 0 ∨
    (∀ v, width = some v → WidthFits hints v) ∧
      (height = some 0 ∧ keeps (keepsWidth s.toClientState req win) ∨
        height ≠ some 0 ∧ (∀ v, height = some v → HeightFits hints v) ∧
          (req.stackMode.getD 0 > 4 → keeps (keepsWidth s.toClientState req win) ∧
            keeps (keepsHeight s.toClientState req win)))

inductive SizeRequest
  | createWindow (borderPixel : Nat) (req : CreateWindowRequest)
  | configureWindow (it : Iteration) (req : ConfigureWindowRequest)
  | setNormalHints (window : XId) (value : PropertyValue)

def Tame (s : ConfigureState) : SizeRequest → Prop
  | .configureWindow _ req => ∀ win, s.windows.lookup req.window = some win →
      substructureRedirected s.toClientState win = true ∨ TameFor s req win
  | _ => True

/-- One request; a request at which the build stops is no step. -/
inductive SizeStep (checked : Bool) (s : ConfigureState) : SizeRequest → ConfigureState → Prop
  | createWindow (borderPixel : Nat) (req : CreateWindowRequest) :
      SizeStep checked s (.createWindow borderPixel req) (handleCreateWindow borderPixel req s).1
  | configureWindow {it : Iteration} {req : ConfigureWindowRequest} {outcome : Outcome} :
      handleConfigureWindow checked it req s = some outcome →
      SizeStep checked s (.configureWindow it req) outcome.state
  | setNormalHints (window : XId) (value : PropertyValue) :
      SizeStep checked s (.setNormalHints window value)
        (editWindow window (insertProperty Predef.wmNormalHints value) s)

section Hints

theorem round_le_iff {inc start v : Nat} (bound : Nat) (hinc : 1 < inc) (hst : start < v) :
    v - (v - start) % inc ≤ bound ↔ ∀ k, start + k * inc ≤ v → start + k * inc ≤ bound := by
  have hdiv := Nat.div_add_mod (v - start) inc
  rw [Nat.mul_comm] at hdiv
  constructor
  · intro h k hk
    have hle : k ≤ (v - start) / inc := by
      rw [Nat.le_div_iff_mul_le (by omega)]
      omega
    have hmul := Nat.mul_le_mul_right inc hle
    omega
  · intro h
    have hlast := h ((v - start) / inc) (by omega)
    omega

/-- Rounding down leaves 0 only where the grid starts there and the value is below
the first step. -/
theorem one_le_round_iff {inc start v : Nat} (hinc : 1 < inc) (hst : start < v) :
    1 ≤ v - (v - start) % inc ↔ 1 ≤ start ∨ inc ≤ v := by
  have hlt := Nat.mod_lt (v - start) (show 0 < inc by omega)
  have hle := Nat.mod_le (v - start) inc
  by_cases hzero : start = 0
  · subst hzero
    rw [Nat.sub_zero] at hlt hle ⊢
    constructor
    · intro h
      by_contra hno
      rw [Nat.mod_eq_of_lt (show v < inc by omega)] at h
      omega
    · intro h
      omega
  · omega

theorem limits_legal_iff (minimum maximum v : Nat) :
    LegalSize (if maximum > 0 ∧ (if minimum > 0 ∧ v < minimum then minimum else v) > maximum then
        maximum else if minimum > 0 ∧ v < minimum then minimum else v) ↔
      (1 ≤ minimum ∨ 1 ≤ v) ∧
        ((1 ≤ maximum ∧ maximum ≤ maxSize) ∨ (minimum ≤ maxSize ∧ v ≤ maxSize)) := by
  have hraised : (if minimum > 0 ∧ v < minimum then minimum else v) = max minimum v := by
    split
    · omega
    · omega
  rw [hraised, LegalSize]
  split
  · omega
  · omega

theorem applySizeHint_legal_iff (inc base minimum maximum v : Nat) :
    LegalSize (applySizeHint inc base minimum maximum v) ↔
      FitsHints inc base minimum maximum v := by
  rw [applySizeHint, FitsHints, limits_legal_iff]
  have hst : 1 ≤ (if base > 0 then base else minimum) ↔ 1 ≤ base ∨ 1 ≤ minimum := by
    split
    · omega
    · omega
  generalize (if base > 0 then base else minimum) = start at *
  by_cases hstep : inc > 1 ∧ v > start
  · have hlow := one_le_round_iff hstep.1 hstep.2
    rw [if_pos hstep, ← round_le_iff maxSize hstep.1 hstep.2]
    omega
  · have hbel : ¬ (1 < inc ∧ start < v ∧ ∀ k, start + k * inc ≤ v → start + k * inc ≤ maxSize) :=
      fun h => hstep ⟨h.1, h.2.1⟩
    rw [if_neg hstep]
    simp only [hbel, or_false]
    omega

theorem hintedWidth_legal_iff (hints : Option SizeHints) (v : Nat) :
    LegalSize (hintedWidth hints v) ↔ WidthFits hints v := by
  cases hints with
  | none => rfl
  | some h => exact applySizeHint_legal_iff _ _ _ _ _

theorem hintedHeight_legal_iff (hints : Option SizeHints) (v : Nat) :
    LegalSize (hintedHeight hints v) ↔ HeightFits hints v := by
  cases hints with
  | none => rfl
  | some h => exact applySizeHint_legal_iff _ _ _ _ _

end Hints

section Frame

structure SameSizes (s s' : ConfigureState) : Prop where
  windows : ∀ v, (s'.windows.lookup v).map sizeKey = (s.windows.lookup v).map sizeKey
  extras : ∀ v, (s'.extras.lookup v).map pixelSize = (s.extras.lookup v).map pixelSize

variable {checked : Bool} {it : Iteration} {s s' s'' : ConfigureState} {w : XId}

theorem SameSizes.refl (s : ConfigureState) : SameSizes s s := ⟨fun _ => rfl, fun _ => rfl⟩

theorem SameSizes.trans (h : SameSizes s s') (h' : SameSizes s' s'') : SameSizes s s'' :=
  ⟨fun v => (h'.windows v).trans (h.windows v), fun v => (h'.extras v).trans (h.extras v)⟩

theorem SameSizes.legal (h : SameSizes s s') (hs : LegalSizes s) : LegalSizes s' := by
  have hold : ∀ v win', s'.windows.lookup v = some win' →
      ∃ win, s.windows.lookup v = some win ∧ sizeKey win' = sizeKey win := by
    intro v win' hwin'
    have hv := h.windows v
    rw [hwin', map_some] at hv
    obtain ⟨win, hwin, heq⟩ := map_eq_some_iff.mp hv.symm
    exact ⟨win, hwin, heq.symm⟩
  constructor
  · intro v win' hwin'
    obtain ⟨win, hwin, heq⟩ := hold v win' hwin'
    simp only [sizeKey, Prod.mk.injEq] at heq
    rw [heq.1, heq.2.1]
    exact hs.sizes v win hwin
  · intro v win' hwin' hclass
    obtain ⟨win, hwin, heq⟩ := hold v win' hwin'
    simp only [sizeKey, Prod.mk.injEq] at heq
    rw [heq.2.2] at hclass
    rw [heq.1, heq.2.1, h.extras v]
    exact hs.pixels v win hwin hclass

theorem SameSizes.editWindow (w : XId) (f : WindowState → WindowState)
    (hf : ∀ win, sizeKey (f win) = sizeKey win) (s : ConfigureState) :
    SameSizes s (editWindow w f s) :=
  ⟨fun v => lookup_modify_map sizeKey w v f s.windows hf, fun _ => rfl⟩

theorem setSyncRequestValue_sameSizes (w : XId) (value : UInt64) (s : ConfigureState) :
    SameSizes s (setSyncRequestValue w value s) :=
  ⟨fun _ => rfl, fun v => lookup_modify_map pixelSize w v _ s.extras (fun _ => rfl)⟩

theorem requestSync_sameSizes (w : XId) (s : ConfigureState) : SameSizes s (requestSync w s) := by
  rw [requestSync]
  split
  · exact .refl s
  · split
    · have h := setSyncRequestValue_sameSizes w (nextSyncValue s w) s
      exact ⟨h.windows, h.extras⟩
    · exact .refl s

theorem repeatSync_sameSizes {r : ConfigureState × Broadcasts}
    (h : repeatSync checked w s = some r) : SameSizes s r.1 := by
  rw [repeatSync] at h
  split at h
  · cases h
    exact .refl s
  · dsimp only at h
    split at h
    · cases h
    · cases h
      have h := setSyncRequestValue_sameSizes w (nextSyncValue s w) s
      exact ⟨h.windows, h.extras⟩

theorem deliverEvent_sameSizes (w : XId) (mask : Nat) (event : ConfigureEvent)
    (s : ConfigureState) : SameSizes s (deliverEvent w mask event s).1 := by
  rw [deliverEvent]
  split
  · exact ⟨fun _ => rfl, fun _ => rfl⟩
  · exact .refl s

theorem notifyConfigured_sameSizes {sibling : XId} {resized : Bool} {win : WindowState}
    {r : ConfigureState × Broadcasts}
    (h : notifyConfigured checked w sibling resized win s = some r) : SameSizes s r.1 := by
  obtain ⟨synced, hsynced, rfl⟩ := map_eq_some_iff.mp h
  have hsync : SameSizes s synced.1 := by
    split at hsynced
    · exact repeatSync_sameSizes hsynced
    · cases hsynced
      exact .refl s
  exact hsync.trans ((deliverEvent_sameSizes _ _ _ _).trans (deliverEvent_sameSizes _ _ _ _))

theorem announce_sameSizes {old : WindowState} {broadcasts : Broadcasts} {outcome : Outcome}
    (h : announce checked it w old s broadcasts = some outcome) : SameSizes s outcome.state := by
  rw [announce] at h
  split at h
  · cases h
    exact .refl s
  · dsimp only at h
    obtain ⟨notified, hnotified, h⟩ := bind_eq_some_iff.mp h
    have hsame := notifyConfigured_sameSizes hnotified
    split at h
    · obtain ⟨exposed, -, rfl⟩ := map_eq_some_iff.mp h
      exact ⟨hsame.windows, hsame.extras⟩
    · cases h
      exact hsame

theorem applyGravity_extras (wid : XId) (dw dh : Int) (acc : GravityLoop) (child : XId) :
    (applyGravity wid dw dh acc child).state.extras = acc.state.extras := by
  rw [applyGravity]
  dsimp only
  split
  · split
    · rfl
    · rfl
  · split
    · rfl
    · split
      · rfl
      · rfl

theorem resizeChildren_extras (wid : XId) (children : List XId) (dw dh : Int)
    (s : ConfigureState) : (resizeChildren wid children dw dh s).1.extras = s.extras := by
  have hmvd : ∀ acc : GravityLoop,
      (children.foldl (applyGravity wid dw dh) acc).state.extras = acc.state.extras := by
    induction children with
    | nil => exact fun acc => rfl
    | cons child children ih =>
      intro acc
      rw [List.foldl_cons, ih, applyGravity_extras]
  have hremapped : ∀ (unmapped : List XId) (acc : ConfigureState × Broadcasts),
      (unmapped.foldl (remapChild wid) acc).1.extras = acc.1.extras := by
    intro unmapped
    induction unmapped with
    | nil => exact fun acc => rfl
    | cons child unmapped ih =>
      intro acc
      rw [List.foldl_cons, ih]
      rfl
  rw [resizeChildren]
  split
  · rfl
  · dsimp only
    rw [hremapped, hmvd]

theorem resizeChildren_sameSizes (wid : XId) (children : List XId) (dw dh : Int)
    (s : ConfigureState) : SameSizes s (resizeChildren wid children dw dh s).1 := by
  constructor
  · intro v
    rw [resizeChildren_client]
    exact resizeChildren_map sizeKey (fun _ _ _ => rfl) (fun _ _ => rfl) children dw dh _ v
  · intro v
    rw [resizeChildren_extras]

theorem stackWindow_sameSizes (mode : Nat) (w parentId sibling : XId) (s : ConfigureState) :
    SameSizes s (stackWindow mode w parentId sibling s) := by
  constructor
  · intro v
    rw [stackWindow_toClientState]
    exact applyStackMode_map sizeKey (fun _ _ => rfl) mode w parentId sibling _ v
  · intro v
    rw [stackWindow, reportRaised]
    dsimp only
    split
    · split
      · rfl
      · rfl
    · rfl

theorem finish_sameSizes {req : ConfigureWindowRequest} {win : WindowState} {changed : Bool}
    {broadcasts : Broadcasts} {outcome : Outcome}
    (h : (restackStage req win.parent changed s broadcasts).finish checked it req.window win =
      some outcome) : SameSizes s outcome.state := by
  rw [restackStage] at h
  split at h
  · dsimp only at h
    split at h
    · cases h
      exact .refl s
    · exact (stackWindow_sameSizes _ _ _ _ s).trans (announce_sameSizes h)
  · split at h
    · exact announce_sameSizes h
    · cases h
      exact .refl s

end Frame

section Steps

variable {checked : Bool} {it : Iteration} {req : ConfigureWindowRequest} {s : ConfigureState}
  {win : WindowState}

theorem TameFor.new_legal (h : TameFor s req win) (hwd : LegalSize win.width)
    (hht : LegalSize win.height) :
    (LegalSize (geometryOf s.toClientState req win).1.width ∧
      LegalSize (geometryOf s.toClientState req win).1.height) ∧
      ((geometryOf s.toClientState req win).2 = none ∨ win.winClass = inputOnly ∨
        ((geometryOf s.toClientState req win).1.width = win.width ∧
          (geometryOf s.toClientState req win).1.height = win.height)) := by
  have hwider : (∀ v, appliedWidth s.toClientState req = some v →
      WidthFits (getSizeHints s.toClientState req.window) v) →
      LegalSize ((appliedWidth s.toClientState req).elim win.width
        (hintedWidth (getSizeHints s.toClientState req.window))) := by
    intro hfits
    cases hv : appliedWidth s.toClientState req with
    | none => exact hwd
    | some v => exact (hintedWidth_legal_iff _ v).mpr (hfits v hv)
  have htaller : (∀ v, appliedHeight s.toClientState req = some v →
      HeightFits (getSizeHints s.toClientState req.window) v) →
      LegalSize ((appliedHeight s.toClientState req).elim win.height
        (hintedHeight (getSizeHints s.toClientState req.window))) := by
    intro hfits
    cases hv : appliedHeight s.toClientState req with
    | none => exact hht
    | some v => exact (hintedHeight_legal_iff _ v).mpr (hfits v hv)
  by_cases hzero : appliedWidth s.toClientState req = some 0
  · rw [geometryOf_zero_width win hzero]
    exact ⟨⟨hwd, hht⟩, .inr (.inr ⟨rfl, rfl⟩)⟩
  obtain hwidths | ⟨hwidths, hheights⟩ := h
  · exact absurd hwidths hzero
  by_cases hflat : appliedHeight s.toClientState req = some 0
  · obtain ⟨-, hkps⟩ | ⟨hne, -⟩ := hheights
    · rw [geometryOf_zero_height win hzero hflat]
      refine ⟨⟨hwider hwidths, hht⟩, .inr (hkps.imp_right ?_)⟩
      intro hkept
      exact ⟨(elim_eq_iff _ _ _).mpr hkept, rfl⟩
    · exact absurd hflat hne
  · obtain ⟨heq, -⟩ | ⟨-, hheights, hmode⟩ := hheights
    · exact absurd heq hflat
    rw [geometryOf_sized win hzero hflat]
    refine ⟨⟨hwider hwidths, htaller hheights⟩, ?_⟩
    by_cases hbad : req.stackMode.getD 0 > 4
    · obtain ⟨hkpsWd, hkpsHt⟩ := hmode hbad
      obtain hclass | hkeptWd := hkpsWd
      · exact .inr (.inl hclass)
      · obtain hclass | hkeptHt := hkpsHt
        · exact .inr (.inl hclass)
        · exact .inr (.inr ⟨(elim_eq_iff _ _ _).mpr hkeptWd, (elim_eq_iff _ _ _).mpr hkeptHt⟩)
    · rw [if_neg hbad]
      exact .inl rfl

theorem geometryOf_winClass (s : ClientState) (req : ConfigureWindowRequest) (win : WindowState) :
    (geometryOf s req win).1.winClass = win.winClass := by
  obtain ⟨x, y, width, height, borderWidth, heq⟩ := geometryOf_fields s req win
  rw [heq]

theorem editGeometry_extras (req : ConfigureWindowRequest) (s : ConfigureState) (v : XId) :
    ((editGeometry req s).extras.lookup v).map pixelSize =
      (s.extras.lookup v).map pixelSize := by
  rw [editGeometry, editWindow]
  dsimp only
  split
  · exact (requestSync_sameSizes req.window s).extras v
  · rfl

theorem LegalSizes.replace {t : ConfigureState} (w : XId) (new : WindowState) (h : LegalSizes s)
    (hnew : t.windows.lookup w = some new)
    (hoths : ∀ v, v ≠ w → t.windows.lookup v = s.windows.lookup v)
    (hextras : ∀ v, v ≠ w →
      (t.extras.lookup v).map pixelSize = (s.extras.lookup v).map pixelSize)
    (hsizes : LegalSize new.width ∧ LegalSize new.height)
    (hpx : new.winClass ≠ inputOnly →
      (t.extras.lookup w).map pixelSize = some (new.width, new.height)) :
    LegalSizes t := by
  constructor
  · intro v win hwin
    by_cases hv : v = w
    · rw [hv, hnew] at hwin
      cases hwin
      exact hsizes
    · rw [hoths v hv] at hwin
      exact h.sizes v win hwin
  · intro v win hwin hclass
    by_cases hv : v = w
    · rw [hv, hnew] at hwin
      cases hwin
      rw [hv]
      exact hpx hclass
    · rw [hoths v hv] at hwin
      rw [hextras v hv]
      exact h.pixels v win hwin hclass

theorem lookup_editGeometry_of_ne {v : XId} (hv : v ≠ req.window) :
    (editGeometry req s).windows.lookup v = s.windows.lookup v := by
  rw [editGeometry_toClientState]
  exact lookup_modify_of_ne hv _ _

theorem editGeometry_legal (h : LegalSizes s) (hwin : s.windows.lookup req.window = some win)
    (hsizes : LegalSize (geometryOf s.toClientState req win).1.width ∧
      LegalSize (geometryOf s.toClientState req win).1.height)
    (hkept : win.winClass = inputOnly ∨
      ((geometryOf s.toClientState req win).1.width = win.width ∧
        (geometryOf s.toClientState req win).1.height = win.height)) :
    LegalSizes (editGeometry req s) := by
  apply h.replace req.window _ (lookup_editGeometry hwin) (fun v hv => lookup_editGeometry_of_ne hv)
    (fun v _ => editGeometry_extras req s v) hsizes
  intro hclass
  rw [geometryOf_winClass] at hclass
  obtain hinput | ⟨hwd, hht⟩ := hkept
  · exact absurd hinput hclass
  · rw [editGeometry_extras, hwd, hht]
    exact h.pixels req.window win hwin hclass

theorem fitFramebuffer_size (gravity : UInt8) {new : WindowState} (hwd : LegalSize new.width)
    (hht : LegalSize new.height) (e : WindowExtras) :
    pixelSize (fitFramebuffer gravity new e) = (new.width, new.height) := by
  rw [fitFramebuffer]
  split
  · have hsize := WindowGeometry.resizeWithGravity_size e.framebuffer (show 0 < new.width from hwd.1)
      (show 0 < new.height from hht.1) gravity
    exact Prod.ext hsize.1 hsize.2
  · next hsame =>
    rw [pixelSize, Prod.mk.injEq]
    omega

theorem publishChange_legal (it : Iteration) (h : LegalSizes s)
    (hwin : s.windows.lookup req.window = some win)
    (hsizes : LegalSize (geometryOf s.toClientState req win).1.width ∧
      LegalSize (geometryOf s.toClientState req win).1.height) :
    LegalSizes (publishChange it req.window (geometryOf s.toClientState req win).1
      (editGeometry req s)) := by
  set new := (geometryOf s.toClientState req win).1
  have hextras : (publishChange it req.window new (editGeometry req s)).extras =
      (resizeFramebuffer req.window new (editGeometry req s)).extras := by
    rw [publishChange, reportConfigured]
    split
    · rfl
    · rfl
  refine h.replace req.window new ?_ ?_ ?_ hsizes ?_
  · rw [publishChange_toClientState]
    exact lookup_editGeometry hwin
  · intro v hv
    rw [publishChange_toClientState]
    exact lookup_editGeometry_of_ne hv
  · intro v hv
    rw [hextras, ← editGeometry_extras req s v, resizeFramebuffer]
    dsimp only
    rw [lookup_modify_of_ne hv]
  · intro hclass
    rw [geometryOf_winClass] at hclass
    have hold := h.pixels req.window win hwin hclass
    rw [← editGeometry_extras req s req.window] at hold
    obtain ⟨e, he, -⟩ := map_eq_some_iff.mp hold
    rw [hextras, resizeFramebuffer]
    dsimp only
    rw [lookup_modify_self, he, map_some, map_some,
      fitFramebuffer_size _ hsizes.1 hsizes.2]

theorem handleConfigureWindow_legal {outcome : Outcome} (h : LegalSizes s)
    (htame : Tame s (.configureWindow it req))
    (hout : handleConfigureWindow checked it req s = some outcome) : LegalSizes outcome.state := by
  rw [handleConfigureWindow] at hout
  cases hwin : s.windows.lookup req.window with
  | none =>
    rw [hwin] at hout
    dsimp only at hout
    split at hout
    · cases hout
      exact h
    · cases hout
      exact h
  | some win =>
    rw [hwin] at hout
    dsimp only at hout
    by_cases hsub : substructureRedirected s.toClientState win = true
    · rw [if_pos hsub] at hout
      cases hout
      exact h
    rw [if_neg hsub] at hout
    have htame := (htame win hwin).resolve_left hsub
    have hlegal := h.sizes req.window win hwin
    obtain ⟨hsizes, hkept⟩ := htame.new_legal hlegal.1 hlegal.2
    obtain ⟨stage, hstage, hfin⟩ := bind_eq_some_iff.mp hout
    cases hgeo : (geometryOf s.toClientState req win).2 with
    | some error =>
      rw [configureStage_error hgeo] at hstage
      cases hstage
      cases hfin
      rw [hgeo] at hkept
      exact editGeometry_legal h hwin hsizes (hkept.resolve_left (by simp))
    | none =>
      obtain ⟨t, broadcasts, rfl, -, ht⟩ := configureStage_passed hgeo hstage
      apply (finish_sameSizes hfin).legal
      obtain ⟨hchgd, rfl⟩ | ⟨-, sent, happly⟩ := ht
      · have hnone := keeps_of_not_movesOrResizes hchgd
        exact editGeometry_legal h hwin hsizes (.inr (geometryOf_size win hnone.1 hnone.2))
      · obtain ⟨dw, dh, -, -, hr⟩ := applyChange_eq_some_iff.mp happly
        have hsame := resizeChildren_sameSizes req.window win.childrenOrder dw dh
          (publishChange it req.window
            (geometryOf s.toClientState req win).1
            (editGeometry req s))
        rw [hr] at hsame
        exact hsame.legal (publishChange_legal it h hwin hsizes)

theorem createWindow_sizes (req : CreateWindowRequest) (s : ClientState) (v : XId) :
    ((createWindow req s).windows.lookup v).map sizeKey =
      if v = req.wid then some (req.width, req.height, resolveClass s req)
      else (s.windows.lookup v).map sizeKey := by
  have hinit : ∀ win, sizeKey (setInitialProperties s win) = sizeKey win := by
    intro win
    rw [setInitialProperties]
    split
    · rfl
    · rfl
  rw [createWindow_windows, lookup_modify_map sizeKey _ v _ _ hinit,
    lookup_modify_map sizeKey _ v (pushChild req.wid) _ (fun _ => rfl), lookup_insert_eq]
  split
  · rfl
  · rfl

theorem createWindow_checked {req : CreateWindowRequest} {s : ClientState}
    (h : createWindowError s req = none) : LegalSize req.width ∧ LegalSize req.height := by
  simp only [createWindowError, CreateDestroy.ite_some_eq_none] at h
  obtain ⟨-, -, -, -, hsize, -⟩ := h
  simp only [LegalSize, maxSize]
  omega

theorem newExtras_size (borderPixel : Nat) {win : WindowState} (h : win.winClass ≠ inputOnly) :
    pixelSize (newExtras borderPixel win) = (win.width, win.height) := by
  rw [newExtras, if_neg h]
  rfl

theorem handleCreateWindow_legal (borderPixel : Nat) (req : CreateWindowRequest)
    (h : LegalSizes s) : LegalSizes (handleCreateWindow borderPixel req s).1 := by
  rw [handleCreateWindow]
  cases herr : createWindowError s.toClientState req with
  | some r => exact h
  | none =>
    have hchecked := createWindow_checked herr
    have hnew : ∀ v win, v = req.wid →
        (createWindow req s.toClientState).windows.lookup v = some win →
        sizeKey win = (req.width, req.height, resolveClass s.toClientState req) := by
      intro v win hv hwin
      have hsize := createWindow_sizes req s.toClientState v
      rw [if_pos hv, hwin] at hsize
      exact some.inj hsize
    have hold : ∀ v win, v ≠ req.wid →
        (createWindow req s.toClientState).windows.lookup v = some win →
        ∃ win', s.windows.lookup v = some win' ∧ sizeKey win = sizeKey win' := by
      intro v win hv hwin
      have hsize := createWindow_sizes req s.toClientState v
      rw [if_neg hv, hwin] at hsize
      obtain ⟨win', hwin', heq⟩ := map_eq_some_iff.mp hsize.symm
      exact ⟨win', hwin', heq.symm⟩
    constructor
    · intro v win hwin
      by_cases hv : v = req.wid
      · have hkey := hnew v win hv hwin
        simp only [sizeKey, Prod.mk.injEq] at hkey
        rw [hkey.1, hkey.2.1]
        exact hchecked
      · obtain ⟨win', hwin', hkey⟩ := hold v win hv hwin
        simp only [sizeKey, Prod.mk.injEq] at hkey
        rw [hkey.1, hkey.2.1]
        exact h.sizes v win' hwin'
    · intro v win hwin hclass
      dsimp only
      rw [lookup_insert_eq]
      by_cases hv : v = req.wid
      · have hkey := hnew v win hv hwin
        simp only [sizeKey, Prod.mk.injEq] at hkey
        rw [hkey.2.2] at hclass
        rw [if_pos hv, map_some, newExtras_size borderPixel hclass, hkey.1, hkey.2.1]
        rfl
      · obtain ⟨win', hwin', hkey⟩ := hold v win hv hwin
        simp only [sizeKey, Prod.mk.injEq] at hkey
        rw [hkey.2.2] at hclass
        rw [if_neg hv, hkey.1, hkey.2.1]
        exact h.pixels v win' hwin' hclass

theorem subI16_legal {a b : Nat} (ha : LegalSize a) (hb : LegalSize b) :
    (subI16 true (asI16 a) (asI16 b)).isSome := by
  obtain ⟨ha, ha'⟩ := ha
  obtain ⟨hb, hb'⟩ := hb
  rw [maxSize] at ha' hb'
  rw [HitTesting.asI16_of_isI16 (by constructor; omega; omega),
    HitTesting.asI16_of_isI16 (by constructor; omega; omega), subI16, if_pos (by omega)]
  rfl

theorem deltasFit_of_legal (h : LegalSizes s)
    (htame : ∀ win, s.windows.lookup req.window = some win → TameFor s req win) :
    DeltasFit s req := by
  intro win hwin herr
  have hlegal := h.sizes req.window win hwin
  obtain ⟨hsizes, -⟩ := (htame win hwin).new_legal hlegal.1 hlegal.2
  exact ⟨subI16_legal hsizes.1 hlegal.1, subI16_legal hsizes.2 hlegal.2⟩

theorem SizeStep.legal {a : SizeRequest} {s' : ConfigureState} (h : LegalSizes s)
    (htame : Tame s a) (hstep : SizeStep checked s a s') : LegalSizes s' := by
  cases hstep with
  | createWindow borderPixel req => exact handleCreateWindow_legal borderPixel req h
  | configureWindow hout => exact handleConfigureWindow_legal h htame hout
  | setNormalHints window value =>
    exact (SameSizes.editWindow window (insertProperty _ value) (fun _ => rfl) s).legal h

end Steps

section Runs

/-- A connection to a server on which nobody has created a window. -/
def Starts (s : ConfigureState) : Prop :=
  ∃ me msb pid connIndex hostname props selections counters timestamp,
    s = acceptState counters timestamp
      (acceptClient me msb pid connIndex hostname (initialShared props selections))

theorem initialWindows_cases {props : XId → HashMap Atom PropertyValue} {v : XId}
    {win : WindowState} (h : (initialWindows props).lookup v = some win) :
    v = rootWindow ∧ win = rootRecord (props rootWindow) ∨
      v ∈ [ximWindow, systemTrayWindow, xsettingsWindow, wmCheckWindow] ∧
        win = serverWindow v (props v) := by
  simp only [initialWindows, lookup_insert_eq] at h
  split at h
  · next hv => exact .inr ⟨by simp [hv], by rw [hv]; exact (some.inj h).symm⟩
  split at h
  · next hv => exact .inr ⟨by simp [hv], by rw [hv]; exact (some.inj h).symm⟩
  split at h
  · next hv => exact .inr ⟨by simp [hv], by rw [hv]; exact (some.inj h).symm⟩
  split at h
  · next hv => exact .inr ⟨by simp [hv], by rw [hv]; exact (some.inj h).symm⟩
  · have hv : v = rootWindow := Finmap.mem_singleton v rootWindow _ |>.mp
      (Finmap.mem_of_lookup_eq_some h)
    rw [hv, Finmap.lookup_singleton_eq] at h
    exact .inl ⟨hv, (some.inj h).symm⟩

theorem Starts.legal {s : ConfigureState} (h : Starts s) : LegalSizes s := by
  obtain ⟨me, msb, pid, connIndex, hostname, props, selections, counters, timestamp, rfl⟩ := h
  constructor
  · intro v win hwin
    obtain ⟨-, rfl⟩ | ⟨-, rfl⟩ := initialWindows_cases hwin
    · have hscr : LegalSize 1024 ∧ LegalSize 768 := by decide
      exact hscr
    · have hinput : LegalSize 1 ∧ LegalSize 1 := by decide
      exact hinput
  · intro v win hwin hclass
    obtain ⟨rfl, rfl⟩ | ⟨-, rfl⟩ := initialWindows_cases hwin
    · rfl
    · exact absurd rfl hclass

/-- Along a run of tame requests all sizes are legal, and the deltas of the next tame
ConfigureWindow fit. -/
theorem run_legalSizes (checked : Bool) {s s' : ConfigureState} {as : List SizeRequest}
    (hst : Starts s) (hrun : Run (guarded Tame (SizeStep checked)) s as s') :
    LegalSizes s' ∧ ∀ it req, Tame s' (.configureWindow it req) →
      (∀ win, s'.windows.lookup req.window = some win →
        substructureRedirected s'.toClientState win = false) → DeltasFit s' req := by
  have hlegal : LegalSizes s' := hrun.invariant
    (fun t a t' h hstep => SizeStep.legal h hstep.1 hstep.2) hst.legal
  refine ⟨hlegal, ?_⟩
  intro it req htame hdirect
  apply deltasFit_of_legal hlegal
  intro win hwin
  apply (htame win hwin).resolve_left
  rw [hdirect win hwin]
  decide

def createPixel : CreateWindowRequest :=
  { depth := 0, wid := 0x400001, parent := rootWindow, x := 0, y := 0, width := 1, height := 1,
    borderWidth := 0, winClass := 0, visual := 0 }

def widenTo (width : Nat) : ConfigureWindowRequest where
  window := 0x400001
  width := some width

def opened : ConfigureState := (handleCreateWindow 0 createPixel (acceptState ∅ 0 loneClient)).1

theorem starts_acceptState : Starts (acceptState ∅ 0 loneClient) :=
  ⟨1, false, 0, 0, [], fun _ => ∅, ∅, ∅, 0, rfl⟩

theorem run_legalSizes_widenTo : ∃ s', Run (SizeStep false) (acceptState ∅ 0 loneClient)
      [.createWindow 0 createPixel, .configureWindow ⟨[], []⟩ (widenTo 2)] s' ∧ LegalSizes s' := by
  obtain ⟨outcome, hout, -⟩ := handleConfigureWindow_refines ⟨[], []⟩ (widenTo 2) opened
  have htame : Tame opened (.configureWindow ⟨[], []⟩ (widenTo 2)) := by
    intro win hwin
    refine .inr (.inr ⟨?_, .inr ⟨?_, ?_, ?_⟩⟩)
    · intro v hv
      have hv : v = 2 := (some.inj hv).symm
      have hhints : getSizeHints opened.toClientState 0x400001 = none := by decide +kernel
      have hlegal : LegalSize (asU16 (2 : Nat)) := by decide
      rw [hv, widenTo, hhints]
      exact hlegal
    · decide +kernel
    · intro v hv
      cases hv
    · exact fun hmode => absurd hmode (by decide)
  have hrun : Run (guarded Tame (SizeStep false)) (acceptState ∅ 0 loneClient)
      [.createWindow 0 createPixel, .configureWindow ⟨[], []⟩ (widenTo 2)] outcome.state :=
    .cons ⟨trivial, .createWindow 0 createPixel⟩
      (.cons ⟨htame, .configureWindow hout⟩ (.nil outcome.state))
  exact ⟨outcome.state, hrun.mono (fun _ _ _ h => h.2),
    (run_legalSizes false starts_acceptState hrun).1⟩

/-- A width of 65536 passes the test for 0 and is stored as 0. -/
theorem run_zeroWidth : ∃ s', Run (SizeStep false) (acceptState ∅ 0 loneClient)
      [.createWindow 0 createPixel, .configureWindow ⟨[], []⟩ (widenTo 65536)] s' ∧
    (s'.windows.lookup 0x400001).map (fun win => (win.winClass, win.width)) =
      some (inputOutput, 0) := by
  obtain ⟨outcome, hout, hcl⟩ := handleConfigureWindow_refines ⟨[], []⟩ (widenTo 65536) opened
  refine ⟨outcome.state, .cons (.createWindow 0 createPixel)
    (.cons (.configureWindow hout) (.nil outcome.state)), ?_⟩
  have hstate := congrArg (fun r : ClientState × Response => r.1) hcl
  dsimp only at hstate
  rw [hstate]
  decide +kernel

end Runs

end X11Web.ConfigureSizes
