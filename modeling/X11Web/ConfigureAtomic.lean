import X11Web.ConfigureWindow
import X11Web.WindowGeometry

namespace X11Web.ConfigureAtomic

open Option

open HashMaps LinkedForest Windows WindowTree Ewmh
  X11Web.Stacking X11Web.MapReparent X11Web.Pixels X11Web.ConfigureWindow
open Links (loneClient)
open Configure (ConfigureWindowRequest applyGeometry hintedWidth hintedHeight)

/-- The checks that can end a ConfigureWindow with an error. -/
inductive Refusal
  | window
  | width
  | height
  | stackMode
  | sibling
deriving DecidableEq

/-- The first check that the request fails, in the handler's order. -/
def refusal (s : ClientState) (req : ConfigureWindowRequest) : Option Refusal :=
  match s.windows.lookup req.window with
  | none => if req.window ≠ rootWindow then some .window else none
  | some win =>
    if substructureRedirected s win then none
    else if appliedWidth s req = some 0 then some .width
    else if appliedHeight s req = some 0 then some .height
    else if req.stackMode.getD 0 > 4 then some .stackMode
    else if req.stackMode.isSome && badSibling s win.parent (req.sibling.getD 0) then some .sibling
    else none

/-- The resize protocol has its message sent before the values are checked. -/
def syncs (s : ConfigureState) (req : ConfigureWindowRequest) : Bool :=
  ((appliedWidth s.toClientState req).isSome || (appliedHeight s.toClientState req).isSome) &&
    ((syncCounter s req.window).isSome &&
      windowSupportsProtocol s.toClientState req.window netWmSyncRequest)

def keepsPosition (req : ConfigureWindowRequest) (win : WindowState) : Bool :=
  req.x.all (fun v => asI16 v == win.x) && req.y.all (fun v => asI16 v == win.y)

def keepsWidth (s : ClientState) (req : ConfigureWindowRequest) (win : WindowState) : Bool :=
  (appliedWidth s req).all (fun v => hintedWidth (getSizeHints s req.window) v == win.width)

def keepsHeight (s : ClientState) (req : ConfigureWindowRequest) (win : WindowState) : Bool :=
  (appliedHeight s req).all (fun v => hintedHeight (getSizeHints s req.window) v == win.height)

def keepsBorder (req : ConfigureWindowRequest) (win : WindowState) : Bool :=
  req.borderWidth.all (fun (v : Nat) => asU16 v == win.borderWidth)

/-- A change that writes the fields as they are leaves nothing behind: the pixels
have the window's size or the window has none, no frontend knows the window, and it
waits for the shared registry already. -/
def Settled (it : Iteration) (s : ConfigureState) (w : XId) (win : WindowState) : Prop :=
  resolvedUuid it s.toClientState w = none ∧ w ∈ s.sharedDirtyWindows ∧
    ∀ e, s.extras.lookup w = some e → win.width = 0 ∨ win.height = 0 ∨
      (e.framebuffer.width = win.width ∧ e.framebuffer.height = win.height)

/-- What the request writes before the check that it fails is what was there. -/
def HarmlessFor (it : Iteration) (s : ConfigureState) (req : ConfigureWindowRequest)
    (win : WindowState) : Prop :=
  match refusal s.toClientState req with
  | none => True
  | some .window => True
  | some .width => syncs s req = false ∧ keepsPosition req win
  | some .height => syncs s req = false ∧ keepsPosition req win ∧ keepsWidth s.toClientState req win
  | some .stackMode => syncs s req = false ∧ keepsPosition req win ∧
      keepsWidth s.toClientState req win ∧ keepsHeight s.toClientState req win ∧ keepsBorder req win
  | some .sibling => (syncs s req = false ∧ keepsPosition req win ∧
      keepsWidth s.toClientState req win ∧ keepsHeight s.toClientState req win ∧
      keepsBorder req win) ∧ (movesOrResizes s.toClientState req → Settled it s req.window win)

def Harmless (it : Iteration) (s : ConfigureState) (req : ConfigureWindowRequest) : Prop :=
  ∀ win, s.windows.lookup req.window = some win → HarmlessFor it s req win

section Edits

variable {it : Iteration} {req : ConfigureWindowRequest} {s : ConfigureState} {win : WindowState}

theorem editWindow_eq_self_iff (hwin : s.windows.lookup req.window = some win)
    (f : WindowState → WindowState) : editWindow req.window f s = s ↔ f win = win := by
  constructor
  · intro h
    have hwins : modify req.window f s.windows = s.windows :=
      congrArg (fun t : ConfigureState => t.windows) h
    exact (modify_eq_self_iff req.window f s.windows).mp hwins win hwin
  · intro h
    have hwins := (modify_eq_self_iff req.window f s.windows).mpr (by
      intro v hv
      rw [hwin] at hv
      cases hv
      exact h)
    rw [editWindow, updateWindow, hwins]

theorem requestSync_of_idle {w : XId} (h : ¬ ((syncCounter s w).isSome &&
    windowSupportsProtocol s.toClientState w netWmSyncRequest) = true) : requestSync w s = s := by
  rw [requestSync]
  split
  · rfl
  · next counterId hctr =>
    rw [if_neg]
    intro hprotocol
    exact h (by simp [hctr, hprotocol])

theorem requestSync_pending {w : XId} (h : ((syncCounter s w).isSome &&
    windowSupportsProtocol s.toClientState w netWmSyncRequest) = true) :
    (requestSync w s).pendingEvents.length = s.pendingEvents.length + 1 := by
  rw [Bool.and_eq_true] at h
  obtain ⟨counterId, hctr⟩ := isSome_iff_exists.mp h.1
  rw [requestSync, hctr]
  dsimp only
  rw [if_pos h.2]
  simp [setSyncRequestValue]

theorem editGeometry_of_idle (h : syncs s req = false) : editGeometry req s =
    editWindow req.window (fun w => (geometryOf s.toClientState req w).1) s := by
  rw [editGeometry]
  split
  · next hresizing =>
    rw [requestSync_of_idle]
    intro hsync
    rw [syncs, hresizing, hsync] at h
    exact absurd h (by decide)
  · rfl

theorem editGeometry_pending (h : syncs s req = true) :
    (editGeometry req s).pendingEvents.length = s.pendingEvents.length + 1 := by
  rw [syncs, Bool.and_eq_true] at h
  rw [editGeometry, if_pos h.1]
  exact requestSync_pending h.2

theorem editGeometry_eq_self_iff (hwin : s.windows.lookup req.window = some win) :
    editGeometry req s = s ↔
      syncs s req = false ∧ (geometryOf s.toClientState req win).1 = win := by
  cases hsync : syncs s req with
  | false =>
    rw [editGeometry_of_idle hsync, editWindow_eq_self_iff hwin]
    simp
  | true =>
    have hlen := editGeometry_pending hsync
    constructor
    · intro h
      rw [h] at hlen
      omega
    · intro h
      exact absurd h.1 (by decide)

end Edits

section Fields

variable {s : ClientState} {req : ConfigureWindowRequest} {win : WindowState}

theorem regeometry_eq_self_iff (win : WindowState) (x y : Int) (width height borderWidth : Nat) :
    { win with x := x, y := y, width := width, height := height, borderWidth := borderWidth } =
      win ↔ x = win.x ∧ y = win.y ∧ width = win.width ∧ height = win.height ∧
        borderWidth = win.borderWidth := by
  cases win
  simp

theorem elim_eq_iff {α β : Type} [DecidableEq β] (o : Option α) (b : β) (f : α → β) :
    o.elim b f = b ↔ o.all (fun v => f v == b) = true := by
  cases o with
  | none => simp
  | some v => simp

theorem keepsPosition_iff : keepsPosition req win = true ↔
    req.x.elim win.x asI16 = win.x ∧ req.y.elim win.y asI16 = win.y := by
  rw [keepsPosition, Bool.and_eq_true, elim_eq_iff, elim_eq_iff]

theorem geometryOf_zero_width (win : WindowState) (hwd : appliedWidth s req = some 0) :
    geometryOf s req win =
      ({ win with x := req.x.elim win.x asI16, y := req.y.elim win.y asI16 },
        some (.error .value 0 12)) := by
  rw [geometryOf, applyGeometry, if_pos hwd]
  rfl

theorem geometryOf_zero_height (win : WindowState) (hwd : appliedWidth s req ≠ some 0)
    (hht : appliedHeight s req = some 0) :
    geometryOf s req win =
      ({ win with
          x := req.x.elim win.x asI16
          y := req.y.elim win.y asI16
          width := (appliedWidth s req).elim win.width
            (hintedWidth (getSizeHints s req.window)) }, some (.error .value 0 12)) := by
  rw [geometryOf, applyGeometry, if_neg hwd, if_pos hht]
  rfl

theorem geometryOf_sized (win : WindowState) (hwd : appliedWidth s req ≠ some 0)
    (hht : appliedHeight s req ≠ some 0) :
    geometryOf s req win =
      ({ win with
          x := req.x.elim win.x asI16
          y := req.y.elim win.y asI16
          width := (appliedWidth s req).elim win.width (hintedWidth (getSizeHints s req.window))
          height := (appliedHeight s req).elim win.height
            (hintedHeight (getSizeHints s req.window))
          borderWidth := req.borderWidth.elim win.borderWidth (fun b => asU16 b) },
        if req.stackMode.getD 0 > 4 then some (.error .value (req.stackMode.getD 0) 12)
        else none) := by
  rw [geometryOf, applyGeometry, if_neg hwd, if_neg hht]
  dsimp only
  split
  · rfl
  · rfl

theorem zero_width_keeps_iff (hwd : appliedWidth s req = some 0) :
    (geometryOf s req win).1 = win ↔ keepsPosition req win = true := by
  rw [geometryOf_zero_width win hwd, keepsPosition_iff]
  have h := regeometry_eq_self_iff win (req.x.elim win.x asI16) (req.y.elim win.y asI16) win.width
    win.height win.borderWidth
  simpa only [and_true] using h

theorem zero_height_keeps_iff (hwd : appliedWidth s req ≠ some 0)
    (hht : appliedHeight s req = some 0) :
    (geometryOf s req win).1 = win ↔
      keepsPosition req win = true ∧ keepsWidth s req win = true := by
  rw [geometryOf_zero_height win hwd hht, keepsPosition_iff, keepsWidth, ← elim_eq_iff]
  have h := regeometry_eq_self_iff win (req.x.elim win.x asI16) (req.y.elim win.y asI16)
    ((appliedWidth s req).elim win.width (hintedWidth (getSizeHints s req.window)))
    win.height win.borderWidth
  simpa only [and_true, and_assoc] using h

theorem sized_keeps_iff (hwd : appliedWidth s req ≠ some 0)
    (hht : appliedHeight s req ≠ some 0) :
    (geometryOf s req win).1 = win ↔ keepsPosition req win = true ∧
      keepsWidth s req win = true ∧ keepsHeight s req win = true ∧
      keepsBorder req win = true := by
  rw [geometryOf_sized win hwd hht, keepsPosition_iff, keepsWidth, keepsHeight, keepsBorder,
    ← elim_eq_iff, ← elim_eq_iff, ← elim_eq_iff, and_assoc]
  exact regeometry_eq_self_iff win _ _ _ _ _

end Fields

section Publishing

variable {it : Iteration} {s : ConfigureState} {w : XId} {win : WindowState}

theorem resizeWithGravity_eq_self_iff (fb : Framebuffer) (width height : Nat) (gravity : UInt8) :
    fb.resizeWithGravity width height gravity = fb ↔
      width = 0 ∨ height = 0 ∨ (fb.width = width ∧ fb.height = height) := by
  by_cases hzero : width = 0 ∨ height = 0
  · simp only [Framebuffer.resizeWithGravity, if_pos hzero, true_iff]
    omega
  · by_cases hsame : width = fb.width ∧ height = fb.height
    · simp only [Framebuffer.resizeWithGravity, if_neg hzero, if_pos hsame, true_iff]
      omega
    · have hwd : 0 < width := by omega
      have hht : 0 < height := by omega
      have hsize := WindowGeometry.resizeWithGravity_size fb hwd hht gravity
      constructor
      · intro h
        rw [h] at hsize
        omega
      · omega

theorem fitFramebuffer_eq_self_iff (gravity : UInt8) (win : WindowState) (e : WindowExtras) :
    fitFramebuffer gravity win e = e ↔ win.width = 0 ∨ win.height = 0 ∨
      (e.framebuffer.width = win.width ∧ e.framebuffer.height = win.height) := by
  rw [fitFramebuffer, ← resizeWithGravity_eq_self_iff e.framebuffer win.width win.height gravity]
  split
  · constructor
    · exact congrArg WindowExtras.framebuffer
    · intro h
      rw [h]
  · next hsame =>
    simp only [true_iff, resizeWithGravity_eq_self_iff]
    omega

theorem resizeFramebuffer_extras_iff : (resizeFramebuffer w win s).extras = s.extras ↔
    ∀ e, s.extras.lookup w = some e → win.width = 0 ∨ win.height = 0 ∨
      (e.framebuffer.width = win.width ∧ e.framebuffer.height = win.height) := by
  simp only [resizeFramebuffer, modify_eq_self_iff, fitFramebuffer_eq_self_iff]

theorem reportConfigured_frontend_iff (it : Iteration) (w : XId) (win : WindowState)
    (s : ConfigureState) : (reportConfigured it w win s).frontend = s.frontend ↔
      resolvedUuid it s.toClientState w = none := by
  rw [reportConfigured]
  split
  · next h => simp [h]
  · next uuid h => simp [h]

theorem reportConfigured_extras (it : Iteration) (w : XId) (win : WindowState)
    (s : ConfigureState) : (reportConfigured it w win s).extras = s.extras := by
  rw [reportConfigured]
  split
  · rfl
  · rfl

theorem insert_eq_self_iff {l : List XId} : l.insert w = l ↔ w ∈ l := by
  constructor
  · intro h
    rw [← h]
    exact List.mem_insert_self
  · exact List.insert_of_mem

theorem reportConfigured_eq_self_iff : reportConfigured it w win s = s ↔
    resolvedUuid it s.toClientState w = none := by
  rw [reportConfigured]
  split
  · next h => simp [h]
  · next uuid h =>
    constructor
    · intro heq
      have hfe := congrArg ConfigureState.frontend heq
      simp at hfe
    · intro hnone
      rw [hnone] at h
      exact absurd h (by simp)

theorem publishChange_eq_self_iff : publishChange it w win s = s ↔ Settled it s w win := by
  constructor
  · intro h
    have hextras : (resizeFramebuffer w win s).extras = s.extras := by
      have hpubd : (publishChange it w win s).extras = s.extras := by rw [h]
      rw [publishChange] at hpubd
      dsimp only at hpubd
      rwa [reportConfigured_extras] at hpubd
    have hsame : resizeFramebuffer w win s = s := by
      rw [resizeFramebuffer]
      exact congrArg (fun extras => { s with extras := extras }) hextras
    rw [publishChange, hsame] at h
    refine ⟨?_, ?_, resizeFramebuffer_extras_iff.mp hextras⟩
    · have hfe := congrArg ConfigureState.frontend h
      exact (reportConfigured_frontend_iff it w win s).mp hfe
    · rw [← insert_eq_self_iff]
      have hdirty := congrArg (fun t : ConfigureState => t.sharedDirtyWindows) h
      dsimp only [markWindowSharedDirty] at hdirty
      rwa [reportConfigured_toClientState] at hdirty
  · rintro ⟨hresd, hdirty, hsize⟩
    have hextras := resizeFramebuffer_extras_iff.mpr hsize
    have hsame : resizeFramebuffer w win s = s := by
      rw [resizeFramebuffer]
      exact congrArg (fun extras => { s with extras := extras }) hextras
    rw [publishChange, hsame, reportConfigured_eq_self_iff.mpr hresd, markWindowSharedDirty,
      List.insert_of_mem hdirty]

end Publishing

section Requests

variable {checked : Bool} {it : Iteration} {req : ConfigureWindowRequest} {s : ConfigureState}
  {win : WindowState} {r : ConfigureState × Broadcasts}

theorem applyChange_size (hwin : s.windows.lookup req.window = some win)
    (h : applyChange checked it req.window win (geometryOf s.toClientState req win).1
      (editGeometry req s) = some r) :
    (r.1.windows.lookup req.window).map (fun w => (w.width, w.height)) =
      some ((geometryOf s.toClientState req win).1.width,
        (geometryOf s.toClientState req win).1.height) := by
  obtain ⟨dw, dh, -, -, rfl⟩ := applyChange_eq_some_iff.mp h
  rw [resizeChildren_client, resizeChildren_map (fun w => (w.width, w.height)) (fun _ _ _ => rfl)
    (fun _ _ => rfl), publishChange_toClientState]
  exact congrArg (Option.map _) (lookup_editGeometry hwin)

variable {t : ConfigureState}

theorem applyChange_of_kept {new : WindowState}
    (hwd : new.width = win.width) (hht : new.height = win.height)
    (h : applyChange checked it req.window win new t = some r) :
    r.1 = publishChange it req.window new t := by
  obtain ⟨dw, dh, hdw, hdh, rfl⟩ := applyChange_eq_some_iff.mp h
  rw [hwd, subI16_self] at hdw
  rw [hht, subI16_self] at hdh
  cases hdw
  cases hdh
  rw [resizeChildren, if_pos ⟨rfl, rfl⟩]

theorem publishChange_pendingEvents (it : Iteration) (w : XId) (new : WindowState)
    (s : ConfigureState) : (publishChange it w new s).pendingEvents = s.pendingEvents := by
  rw [publishChange, reportConfigured]
  split
  · rfl
  · rfl

theorem applyChange_eq_self_iff (hwin : s.windows.lookup req.window = some win)
    (h : applyChange checked it req.window win (geometryOf s.toClientState req win).1
      (editGeometry req s) = some r) :
    r.1 = s ↔ (syncs s req = false ∧ (geometryOf s.toClientState req win).1 = win) ∧
      Settled it s req.window win := by
  constructor
  · intro hr
    have hsize := applyChange_size hwin h
    rw [hr, hwin, map_some] at hsize
    have hkept := Prod.mk.inj (some.inj hsize)
    have hpubd := applyChange_of_kept hkept.1.symm hkept.2.symm h
    rw [hr] at hpubd
    have hnew : (geometryOf s.toClientState req win).1 = win := by
      have hlook := congrArg (fun t : ConfigureState => t.windows.lookup req.window) hpubd
      rw [publishChange_toClientState, hwin] at hlook
      exact some.inj ((lookup_editGeometry hwin).symm.trans hlook.symm)
    have hidle : syncs s req = false := by
      cases hsync : syncs s req with
      | false => rfl
      | true =>
        have hlen := editGeometry_pending hsync
        rw [← publishChange_pendingEvents it req.window (geometryOf s.toClientState req win).1,
          ← hpubd] at hlen
        omega
    have hedited := (editGeometry_eq_self_iff hwin).mpr ⟨hidle, hnew⟩
    rw [hedited, hnew] at hpubd
    exact ⟨⟨hidle, hnew⟩, publishChange_eq_self_iff.mp hpubd.symm⟩
  · rintro ⟨hkept, hsettled⟩
    have hedited := (editGeometry_eq_self_iff hwin).mpr hkept
    rw [hedited, hkept.2] at h
    rw [applyChange_of_kept rfl rfl h]
    exact publishChange_eq_self_iff.mpr hsettled

theorem badSibling_of_sameTree {s s' : ClientState} (h : SameTree s s') (parentId sibling : XId) :
    badSibling s' parentId sibling = badSibling s parentId sibling := by
  have hpar := congrArg (Option.map (·.1)) (h.outline sibling)
  simp only [map_map, Function.comp_def, outline] at hpar
  have hany : ∀ o : Option WindowState, o.any (fun w => w.parent == parentId) =
      (o.map (fun w => w.parent)).any (· == parentId) := by
    intro o
    cases o with
    | none => rfl
    | some w => rfl
  rw [badSibling, badSibling, hany, hany, hpar]

theorem finish_restackStage {changed : Bool} {broadcasts : Broadcasts}
    {outcome : Outcome} (h : (restackStage req win.parent changed t broadcasts).finish checked it
      req.window win = some outcome) :
    if req.stackMode.isSome && badSibling t.toClientState win.parent (req.sibling.getD 0) then
      outcome.state = t ∧ outcome.response ≠ .ok
    else outcome.response = .ok := by
  rw [restackStage] at h
  cases hmode : req.stackMode with
  | none =>
    rw [hmode] at h
    cases changed with
    | false =>
      cases h
      rfl
    | true => exact (announce_client h).2
  | some mode =>
    rw [hmode] at h
    dsimp only at h
    split at h
    · next hbad =>
      cases h
      simp [hbad]
    · next hbad =>
      simp only [isSome_some, Bool.true_and, if_neg hbad]
      exact (announce_client h).2

theorem unchanged_of_error {error : Response} {outcome : Outcome} {stage : Stage}
    (hwin : s.windows.lookup req.window = some win)
    (h : (geometryOf s.toClientState req win).2 = some error)
    (hstage : configureStage checked it req win s = some stage)
    (hfin : stage.finish checked it req.window win = some outcome) :
    (outcome.response ≠ .ok → outcome.state = s) ↔
      syncs s req = false ∧ (geometryOf s.toClientState req win).1 = win := by
  rw [configureStage_error h] at hstage
  cases hstage
  cases hfin
  rw [← editGeometry_eq_self_iff hwin]
  simp [geometryOf_error h]

theorem passed_eq_self_iff (hwin : s.windows.lookup req.window = some win)
    (h : movesOrResizes s.toClientState req = false ∧ t = editGeometry req s ∨
      movesOrResizes s.toClientState req = true ∧ ∃ sent,
        applyChange checked it req.window win (geometryOf s.toClientState req win).1
          (editGeometry req s) = some (t, sent)) :
    t = s ↔ (syncs s req = false ∧ (geometryOf s.toClientState req win).1 = win) ∧
      (movesOrResizes s.toClientState req → Settled it s req.window win) := by
  obtain ⟨hchgd, rfl⟩ | ⟨hchgd, sent, happly⟩ := h
  · rw [editGeometry_eq_self_iff hwin, hchgd]
    simp
  · rw [applyChange_eq_self_iff hwin happly, hchgd]
    simp

theorem harmless_iff (hwin : s.windows.lookup req.window = some win) :
    Harmless it s req ↔ HarmlessFor it s req win := by
  constructor
  · exact fun h => h win hwin
  · intro h win' hwin'
    rw [hwin] at hwin'
    cases hwin'
    exact h

/-- An error reply leaves the state as it was just where the request is harmless. -/
theorem error_unchanged_iff_harmless (checked : Bool) (it : Iteration)
    (req : ConfigureWindowRequest) (s : ConfigureState) (outcome : Outcome)
    (h : handleConfigureWindow checked it req s = some outcome) :
    (outcome.response ≠ .ok → outcome.state = s) ↔ Harmless it s req := by
  rw [handleConfigureWindow] at h
  cases hwin : s.windows.lookup req.window with
  | none =>
    have hst : outcome.state = s := by
      rw [hwin] at h
      dsimp only at h
      split at h
      · cases h
        rfl
      · cases h
        rfl
    rw [Harmless, hwin]
    simp [hst]
  | some win =>
    rw [harmless_iff hwin]
    rw [hwin] at h
    dsimp only at h
    by_cases hsub : substructureRedirected s.toClientState win = true
    · rw [if_pos hsub] at h
      cases h
      simp [HarmlessFor, refusal, hwin, hsub]
    · rw [if_neg hsub] at h
      obtain ⟨stage, hstage, hfin⟩ := bind_eq_some_iff.mp h
      by_cases hwd : appliedWidth s.toClientState req = some 0
      · have href : refusal s.toClientState req = some .width := by
          simp [refusal, hwin, hsub, hwd]
        rw [unchanged_of_error hwin (congrArg Prod.snd (geometryOf_zero_width win hwd)) hstage
          hfin, HarmlessFor, href, zero_width_keeps_iff hwd]
      by_cases hht : appliedHeight s.toClientState req = some 0
      · have href : refusal s.toClientState req = some .height := by
          simp [refusal, hwin, hsub, hwd, hht]
        rw [unchanged_of_error hwin (congrArg Prod.snd (geometryOf_zero_height win hwd hht))
          hstage hfin, HarmlessFor, href, zero_height_keeps_iff hwd hht]
      have hgeo := geometryOf_sized win hwd hht
      by_cases hmode : req.stackMode.getD 0 > 4
      · have href : refusal s.toClientState req = some .stackMode := by
          simp [refusal, hwin, hsub, hwd, hht, hmode]
        rw [if_pos hmode] at hgeo
        rw [unchanged_of_error hwin (congrArg Prod.snd hgeo) hstage hfin, HarmlessFor,
          href, sized_keeps_iff hwd hht]
      · rw [if_neg hmode] at hgeo
        obtain ⟨t, broadcasts, rfl, htree, ht⟩ :=
          configureStage_passed (congrArg Prod.snd hgeo) hstage
        have houtcome := finish_restackStage hfin
        rw [badSibling_of_sameTree htree] at houtcome
        split at houtcome
        · next hbad =>
          have href : refusal s.toClientState req = some .sibling := by
            simp [refusal, hwin, hsub, hwd, hht, hmode, hbad]
          rw [HarmlessFor, href, houtcome.1, passed_eq_self_iff hwin ht,
            sized_keeps_iff hwd hht]
          simp [houtcome.2]
        · next hbad =>
          have href : refusal s.toClientState req = none := by
            simp [refusal, hwin, hsub, hwd, hht, hmode, hbad]
          rw [HarmlessFor, href]
          simp [houtcome]

end Requests

def fresh : ConfigureState := acceptState ∅ 0 loneClient

/-- Move the window of the settings and make it 0 wide, which is an error. -/
def flatten (x : Int) : ConfigureWindowRequest where
  window := xsettingsWindow
  x := some x
  width := some 0

theorem error_unchanged_flatten : ∃ outcome,
    handleConfigureWindow false ⟨[], []⟩ (flatten (-1)) fresh = some outcome ∧
      outcome.response = .error .value 0 12 ∧ outcome.state = fresh := by
  refine ⟨⟨editGeometry (flatten (-1)) fresh, .error .value 0 12, none, []⟩, rfl, rfl, ?_⟩
  apply (error_unchanged_iff_harmless false ⟨[], []⟩ (flatten (-1)) fresh _ rfl).mpr
  · apply (harmless_iff rfl).mpr
    exact ⟨rfl, rfl⟩
  · exact fun h => by cases h

/-- The position stays changed after the error. -/
theorem error_moves_window : ∃ outcome,
    handleConfigureWindow false ⟨[], []⟩ (flatten 5) fresh = some outcome ∧
      outcome.response = .error .value 0 12 ∧
      (fresh.windows.lookup xsettingsWindow).map (·.x) = some (-1) ∧
      (outcome.state.windows.lookup xsettingsWindow).map (·.x) = some 5 :=
  ⟨⟨editGeometry (flatten 5) fresh, .error .value 0 12, none, []⟩, rfl, rfl, rfl, rfl⟩

end X11Web.ConfigureAtomic
