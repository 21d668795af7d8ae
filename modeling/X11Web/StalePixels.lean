import X11Web.FlushDelivery
import X11Web.Links
import X11Web.MapPainting
import X11Web.RenderComposite

namespace X11Web.StalePixels

open Option Finmap

open HashMaps Windows Ewmh Stacking MapReparent SyncWindows
  X11Web.Pixels X11Web.DirtyMirror X11Web.WriteLists X11Web.Compositing X11Web.DrawRequests X11Web.SilentWrites
  X11Web.FlushDelivery X11Web.RenderComposite
open MapPainting (TileFill FillsInside mapPaint mappedWindow backgroundWrites paintBackground_paintsAs
  handleMapWindow_paints handleMapWindow_client)

inductive DrawRequest
  | putImage (req : PutImageRequest)
  | composite (req : CompositeRequest)
  | mapWindow (window : XId)

def handleRequest (resolve : SourceResolver) (fill : TileFill) (s : DrawState) : DrawRequest → DrawState
  | .putImage req => (handlePutImage req s).1
  | .composite req => handleComposite resolve req s
  | .mapWindow w => (MapPainting.handleMapWindow fill w s).1

/-- Windows stand under their identifiers, and their pixels fill their rows. -/
structure Painting extends DrawState where
  ids : ∀ w win, windows.lookup w = some win → win.id = w
  wellFormed : ∀ w paint, paints.lookup w = some paint → WellFormed paint.framebuffer

def paintedWindow (win : WindowState) (paint : WindowPaint) : PaintedWindow where
  toWindowState := win
  clipShape := paint.clipShape
  boundingShape := paint.boundingShape
  framebuffer := paint.framebuffer

def flushState (s : DrawState) (updates : List (ClientId × Uuid × DirtyPixels)) : FlushState where
  clientId := s.clientId
  windows := zipWith paintedWindow s.windows s.paints
  x11ToUuid := s.x11ToUuid
  updates := updates

/-- The bytes that a request puts on a window without marking them. -/
def silentWrites (s : DrawState) (w : XId) (paint : WindowPaint) : DrawRequest → List (Nat × Bytes)
  | .putImage req =>
    match putImagePainter s req with
    | .error _ => []
    | .ok (gc, painter) => if w = drawTarget s req.drawable then imageWrites gc req paint.framebuffer painter else []
  | .composite _ => []
  | .mapWindow v => if w = v then (mappedWindow s v).elim [] (fun win => backgroundWrites s win paint) else []

variable {s : DrawState} {resolve : SourceResolver} {fill : TileFill} {w : XId} {paint : WindowPaint}

def Repaints (s' : DrawState) (w : XId) (paint : WindowPaint) (writes : List (Nat × Bytes)) : Prop :=
  ∃ paint', s'.paints.lookup w = some paint' ∧ PaintsAs paint.framebuffer paint'.framebuffer writes

theorem Repaints.same (hpnt : s.paints.lookup w = some paint) (hfb : WellFormed paint.framebuffer) :
    Repaints s w paint [] :=
  ⟨paint, hpnt, .marked (.refl hfb)⟩

variable (drawable : XId)

theorem editDrawable_repaints {f : Framebuffer → Framebuffer} {writes : List (Nat × Bytes)}
    (hpnt : s.paints.lookup w = some paint) (hfb : WellFormed paint.framebuffer)
    (hf : w = drawTarget s drawable → PaintsAs paint.framebuffer (f paint.framebuffer) writes) :
    Repaints (editDrawable drawable f s) w paint (if w = drawTarget s drawable then writes else []) := by
  have hlook : (editDrawable drawable f s).paints.lookup w = if w = drawTarget s drawable then
      some { paint with framebuffer := f paint.framebuffer } else some paint := by
    rw [editDrawable]
    by_cases heq : w = drawTarget s drawable
    · rw [if_pos (heq ▸ mem_iff.mpr ⟨paint, hpnt⟩), if_pos heq, ← heq]
      rw [editPaint, lookup_modify_self, hpnt]
      rfl
    · rw [if_neg heq]
      split
      · exact (lookup_modify_of_ne heq _ _).trans hpnt
      · exact hpnt
  by_cases heq : w = drawTarget s drawable
  · rw [if_pos heq] at hlook ⊢
    exact ⟨_, hlook, hf heq⟩
  · rw [if_neg heq] at hlook ⊢
    exact ⟨_, hlook, .marked (.refl hfb)⟩

theorem editDrawable_marks {f : Framebuffer → Framebuffer}
    (hpnt : s.paints.lookup w = some paint) (hfb : WellFormed paint.framebuffer)
    (hf : ∀ fb, WellFormed fb → DirtyMirror.Draws fb (f fb)) : Repaints (editDrawable drawable f s) w paint [] := by
  have hrepaints := editDrawable_repaints drawable hpnt hfb fun _ => .marked (hf _ hfb)
  rwa [ite_self] at hrepaints

theorem handleComposite_repaints (hpnt : s.paints.lookup w = some paint) (hfb : WellFormed paint.framebuffer)
    (req : CompositeRequest) : Repaints (handleComposite resolve req s) w paint [] := by
  rw [handleComposite]
  dsimp only
  split
  · refine editDrawable_marks _ ?_ hfb fun fb h => blitPixels_draws h _ _ _ _ _
    exact hpnt
  · exact ⟨paint, hpnt, .marked (.refl hfb)⟩

theorem handleRequest_repaints (hfill : FillsInside fill) (hpnt : s.paints.lookup w = some paint)
    (hfb : WellFormed paint.framebuffer) (r : DrawRequest) :
    Repaints (handleRequest resolve fill s r) w paint (silentWrites s w paint r) := by
  cases r with
  | putImage req =>
    rw [handleRequest, handlePutImage, silentWrites]
    cases putImagePainter s req with
    | error e => exact .same hpnt hfb
    | ok accepted => exact editDrawable_repaints _ hpnt hfb fun _ => paint_paintsAs hfb _ req _
  | composite req => exact handleComposite_repaints hpnt hfb req
  | mapWindow v =>
    rw [handleRequest, silentWrites, Repaints, handleMapWindow_paints]
    cases mappedWindow s v with
    | none =>
      rw [elim_none, elim_none, ite_self]
      exact Repaints.same hpnt hfb
    | some win =>
      rw [elim_some, elim_some]
      by_cases heq : w = v
      · subst heq
        rw [if_pos rfl, lookup_modify_self, hpnt]
        exact ⟨_, rfl, paintBackground_paintsAs hfill hfb s win⟩
      · rw [if_neg heq, lookup_modify_of_ne heq]
        exact Repaints.same hpnt hfb

/-- Each pixel of a window that the request changes is dirty afterwards. -/
def CoversChanges (resolve : SourceResolver) (fill : TileFill) (s : DrawState) (r : DrawRequest) : Prop :=
  ∀ w paint paint', s.paints.lookup w = some paint → (handleRequest resolve fill s r).paints.lookup w = some paint' →
    ∀ i, paint'.framebuffer.data[i]? ≠ paint.framebuffer.data[i]? → i ∈ dirtyCells paint'.framebuffer

/-- What the request writes silently outside the dirty box of a window is there. -/
def SilentlySame (s : DrawState) (r : DrawRequest) : Prop :=
  ∀ w paint, s.paints.lookup w = some paint → ∀ i ∉ dirtyCells paint.framebuffer,
    ∀ v ∈ written (silentWrites s w paint r) i, paint.framebuffer.data[i]? = some v

theorem coversChanges_iff (hfill : FillsInside fill) (s : Painting) (r : DrawRequest) :
    CoversChanges resolve fill s.toDrawState r ↔ SilentlySame s.toDrawState r := by
  refine forall_congr' fun w => forall_congr' fun paint => ?_
  constructor
  · intro h hpnt
    obtain ⟨paint', hpnt', hpnts⟩ := handleRequest_repaints hfill hpnt (s.wellFormed w paint hpnt) r
    exact hpnts.covered_iff.mp (h paint' hpnt hpnt')
  · intro h paint' hpnt hlook
    obtain ⟨paint'', hpnt'', hpnts⟩ := handleRequest_repaints hfill hpnt (s.wellFormed w paint hpnt) r
    obtain rfl := some.inj (hlook.symm.trans hpnt'')
    exact hpnts.covered_iff.mpr (h hpnt)

theorem mem_editDrawable (f : Framebuffer → Framebuffer) (s : DrawState) :
    w ∈ (editDrawable drawable f s).paints ↔ w ∈ s.paints := by
  rw [editDrawable]
  split
  · exact mem_modify _ _ _ _
  · rfl

theorem mem_handleRequest (s : DrawState) (r : DrawRequest) :
    w ∈ (handleRequest resolve fill s r).paints ↔ w ∈ s.paints := by
  cases r with
  | putImage req =>
    rw [handleRequest, handlePutImage]
    cases putImagePainter s req with
    | error e => rfl
    | ok accepted => exact mem_editDrawable _ _ s
  | composite req =>
    rw [handleRequest, handleComposite]
    dsimp only
    split
    · exact mem_editDrawable _ _ _
    · rfl
  | mapWindow v =>
    rw [handleRequest, handleMapWindow_paints]
    cases mappedWindow s v with
    | none => rfl
    | some win => exact mem_modify _ _ _ _

def SameIds (s s' : ClientState) : Prop :=
  ∀ v, (s'.windows.lookup v).map (·.id) = (s.windows.lookup v).map (·.id)

theorem SameIds.updateWindow {s s' : ClientState} (h : SameIds s s') (w : XId) {f : WindowState → WindowState}
    (hf : ∀ win, (f win).id = win.id) : SameIds s (updateWindow w f s') := fun v =>
  (lookup_modify_map (fun win : WindowState => win.id) w v f s'.windows hf).trans (h v)

theorem SameIds.updateNetClientList {s s' : ClientState} (h : SameIds s s') :
    SameIds s (updateNetClientList s') :=
  h.updateWindow rootWindow fun _ => rfl

theorem SameIds.restackByWindowType {s s' : ClientState} (h : SameIds s s') (w parentId : XId) :
    SameIds s (restackByWindowType w parentId s') :=
  h.updateWindow parentId fun _ => rfl

theorem SameIds.markWindowSharedDirty {s s' : ClientState} (h : SameIds s s') (w : XId) :
    SameIds s (markWindowSharedDirty w s') :=
  h

theorem SameIds.raiseTransient {s s' : ClientState} (h : SameIds s s') (w : XId) :
    SameIds s (raiseTransient w s') := by
  rw [MapReparent.raiseTransient]
  split
  · exact h
  · dsimp only
    split
    · exact h.updateWindow rootWindow fun _ => rfl
    · exact h

theorem SameIds.setFocusWindow {s s' : ClientState} (h : SameIds s s') (w : XId) :
    SameIds s (setFocusWindow w s') := by
  rw [Ewmh.setFocusWindow]
  dsimp only
  split
  · refine SameIds.updateNetClientList (SameIds.updateWindow ?_ rootWindow fun _ => rfl)
    exact h
  · exact h

theorem placeByHints_id (hint : Option (Int × Int)) (win : WindowState) : (placeByHints hint win).id = win.id := by
  cases hint with
  | none => rfl
  | some p =>
    rw [placeByHints]
    split <;> rfl

theorem setMapped_id (win : WindowState) : (setMapped win).id = win.id := by
  rw [setMapped]
  split <;> rfl

theorem mapWindow_sameIds (w : XId) (win : WindowState) (s : ClientState) : SameIds s (mapWindow w win s) := by
  rw [mapWindow]
  set s₁ := updateWindow w (fun win => setMapped (placeByHints (getSizeHintsPosition s w) win)) s
  set s₂ := if isTopLevel win then setAllowedActions w s₁ else s₁
  have h₁ : SameIds s s₁ :=
    SameIds.updateWindow (fun _ => rfl) w fun win => (setMapped_id _).trans (placeByHints_id _ win)
  have h₂ : SameIds s s₂ := by
    simp only [s₂]
    split
    · exact h₁.updateWindow w fun _ => rfl
    · exact h₁
  have h₄ := (((h₂.markWindowSharedDirty w).restackByWindowType w win.parent).raiseTransient w).updateNetClientList
  split
  · exact h₄.setFocusWindow w
  · exact h₄

theorem editDrawable_client (f : Framebuffer → Framebuffer) (s : DrawState) :
    (editDrawable drawable f s).toClientState = s.toClientState := by
  rw [editDrawable]
  split <;> rfl

theorem handlePutImage_client (req : PutImageRequest) (s : DrawState) :
    (handlePutImage req s).1.toClientState = s.toClientState := by
  rw [handlePutImage]
  cases putImagePainter s req with
  | error e => rfl
  | ok accepted => exact editDrawable_client _ _ s

theorem handleComposite_client (resolve : SourceResolver) (req : CompositeRequest) (s : DrawState) :
    (handleComposite resolve req s).toClientState = s.toClientState := by
  rw [handleComposite]
  dsimp only
  split
  · exact editDrawable_client _ _ _
  · rfl

theorem handleRequest_sameIds (s : DrawState) (r : DrawRequest) :
    SameIds s.toClientState (handleRequest resolve fill s r).toClientState := by
  have hsame : SameIds s.toClientState s.toClientState := fun _ => rfl
  cases r with
  | putImage req =>
    rw [handleRequest, handlePutImage_client]
    exact hsame
  | composite req =>
    rw [handleRequest, handleComposite_client]
    exact hsame
  | mapWindow w =>
    rw [handleRequest, handleMapWindow_client, MapReparent.handleMapWindow]
    cases s.windows.lookup w with
    | none => exact hsame
    | some win =>
      dsimp only
      split
      · exact hsame
      · split
        · exact hsame
        · split
          · exact hsame
          · exact mapWindow_sameIds w win s.toClientState

theorem handleRequest_kept (hfill : FillsInside fill) (s : Painting) (r : DrawRequest)
    (updates : List (ClientId × Uuid × DirtyPixels)) :
    WellKept (flushState (handleRequest resolve fill s.toDrawState r) updates).windows := by
  constructor
  · intro w pwin hlook
    rw [flushState, lookup_zipWith] at hlook
    obtain ⟨win, hwin, hpwin⟩ := bind_eq_some_iff.mp hlook
    obtain ⟨paint, -, rfl⟩ := map_eq_some_iff.mp hpwin
    have hids : SameIds s.toClientState (handleRequest resolve fill s.toDrawState r).toClientState :=
      handleRequest_sameIds s.toDrawState r
    have hid := hids w
    rw [hwin, map_some] at hid
    obtain ⟨win', hwin', hsame⟩ := map_eq_some_iff.mp hid.symm
    exact hsame.symm.trans (s.ids w win' hwin')
  · intro w pwin hlook
    rw [flushState, lookup_zipWith] at hlook
    obtain ⟨win, hwin, hpwin⟩ := bind_eq_some_iff.mp hlook
    obtain ⟨paint', hpnt', rfl⟩ := map_eq_some_iff.mp hpwin
    have hmem := (mem_handleRequest s.toDrawState r).mp (mem_iff.mpr ⟨paint', hpnt'⟩)
    obtain ⟨paint, hpnt⟩ := mem_iff.mp hmem
    have hfb := s.wellFormed w paint hpnt
    obtain ⟨paint'', hpnt'', hpnts⟩ := handleRequest_repaints hfill hpnt hfb r
    obtain rfl := some.inj (hpnt'.symm.trans hpnt'')
    exact hpnts.wellFormed hfb

/-- A mapped top-level window of the connection, with its pixels. -/
structure OnScreen (s : DrawState) (w : XId) (win : WindowState) (paint : WindowPaint) (uuid : Uuid) : Prop where
  lookup : s.windows.lookup w = some win
  lookup_paint : s.paints.lookup w = some paint
  mapped : win.mapped = true
  parent : win.parent = rootWindow
  winClass : win.winClass = inputOutput
  uuid : s.x11ToUuid.lookup w = some uuid
  width : paint.framebuffer.width ≤ 32767
  height : paint.framebuffer.height ≤ 32767

/-- The next flush sends each pixel of such a window that the request changes: an update
contains it, and has it as it is then, unless the shape of the window hides it. -/
def SendsChanges (resolve : SourceResolver) (fill : TileFill) (s : DrawState) (r : DrawRequest) : Prop :=
  ∀ w win paint paint' uuid updates order, s.paints.lookup w = some paint →
    OnScreen (handleRequest resolve fill s r) w win paint' uuid →
    Enumerates order (flushState (handleRequest resolve fill s r) updates).windows →
    let flushed := flushDirtyWindows order (flushState (handleRequest resolve fill s r) updates)
    ∀ i, paint'.framebuffer.data[i]? ≠ paint.framebuffer.data[i]? →
      let col := i % paint'.framebuffer.stride / 4
      let row := i / paint'.framebuffer.stride
      ∃ sent p, flushed.updates = updates ++ sent ∧
        (win.ownerClientId.getD (handleRequest resolve fill s r).clientId, uuid, p) ∈ sent ∧
        Contains (sentRect p) col row ∧
        (InRenderShape (paintedWindow win paint') col row → sentPixel p col row = shown flushed.windows w (col, row))

theorem sendsChanges_of_covers (hfill : FillsInside fill) (s : Painting) (r : DrawRequest)
    (h : CoversChanges resolve fill s.toDrawState r) : SendsChanges resolve fill s.toDrawState r := by
  intro w win paint paint' uuid updates order hpnt hscr hord flushed i hchgd col row
  have hkept : WellKept (flushState (handleRequest resolve fill s.toDrawState r) updates).windows :=
    handleRequest_kept hfill s r updates
  have hlook : (flushState (handleRequest resolve fill s.toDrawState r) updates).windows.lookup w =
      some (paintedWindow win paint') := by
    rw [flushState, lookup_zipWith, hscr.lookup, hscr.lookup_paint]
    rfl
  have hfb : WellFormed paint'.framebuffer := hkept.wellFormed w _ hlook
  obtain ⟨d, hd, hcell⟩ := h w paint paint' hpnt hscr.lookup_paint i hchgd
  have hlt : i < paint'.framebuffer.data.length := by
    obtain ⟨paint'', hpnt'', hpnts⟩ := handleRequest_repaints hfill hpnt (s.wellFormed w paint hpnt) r
    obtain rfl := some.inj (hscr.lookup_paint.symm.trans hpnt'')
    have hbef := s.wellFormed w paint hpnt
    have hsize := hpnts.size
    by_contra hge
    refine hchgd ((List.getElem?_eq_none (by omega)).trans (List.getElem?_eq_none ?_).symm)
    rw [hbef.length, hbef.stride, ← hsize.1, ← hsize.2, ← hfb.stride, ← hfb.length]
    omega
  obtain ⟨hrow, hcol⟩ := hfb.inside hlt
  obtain ⟨sent, hsent, p, hp, hpx⟩ := flushDirtyWindows_sends hkept hord hlook hscr.mapped hscr.parent
    hscr.winClass hscr.uuid hscr.width hscr.height (isSome_of_mem hd)
  exact ⟨sent, p, hsent, hp, hpx col row hcol hrow ⟨d, hd, hcell⟩⟩

/-- A request leaves no changed pixel behind exactly where its silent writes put outside
the dirty box what is there. -/
theorem request_covers_iff (resolve : SourceResolver) (fill : TileFill) (hfill : FillsInside fill) (s : Painting)
    (r : DrawRequest) :
    CoversChanges resolve fill s.toDrawState r ∧ SendsChanges resolve fill s.toDrawState r ↔
      SilentlySame s.toDrawState r := by
  rw [← coversChanges_iff hfill s r]
  exact and_iff_left_of_imp (sendsChanges_of_covers hfill s r)

section Dot

def plainPaint (fb : Framebuffer) : WindowPaint := ⟨fb, none, none, 0, none, 0, 0, none⟩

def blackDot : Framebuffer := { Framebuffer.new 1 1 with data := [0, 0, 0, 0xFF] }

/-- The pixels of the server's own windows, and a black pixel that the frontend has. -/
def dotPaints : HashMap XId WindowPaint :=
  let bare := fun id (m : HashMap XId WindowPaint) => m.insert id (plainPaint (Framebuffer.new 0 0))
  (bare ximWindow (bare systemTrayWindow (bare xsettingsWindow (bare wmCheckWindow
    (Finmap.insert rootWindow (plainPaint (Framebuffer.new 1024 768)) ∅))))).insert 0x400001 (plainPaint blackDot)

def dot : DrawState where
  toClientState := (MapReparent.handleMapWindow 0x400001
    (CreateDestroy.handleCreateWindow (Links.createPlain 0x400001 rootWindow) Links.loneClient).1).1
  paints := dotPaints
  pixmaps := ∅
  gcs := Finmap.singleton 0x400002 ⟨GX.copy, planeMaskAll, 0, 1, []⟩
  colormaps := ∅
  pictures := ∅

def dotImage (data : Bytes) : DrawRequest :=
  .putImage ⟨ImageFormat.zPixmap, 0x400001, 0x400002, 1, 1, 0, 0, 0, 16, data⟩

def noSource : SourceResolver := fun s _ _ _ _ _ => (none, s.pixmaps)
def noFill : TileFill := fun _ _ _ _ _ _ => none

def AllWellFormed (paints : HashMap XId WindowPaint) : Prop :=
  ∀ w paint, paints.lookup w = some paint → WellFormed paint.framebuffer

theorem AllWellFormed.insert {paints : HashMap XId WindowPaint} (h : AllWellFormed paints) (w : XId)
    (hfb : WellFormed paint.framebuffer) : AllWellFormed (paints.insert w paint) := by
  intro v paint' hlook
  rw [lookup_insert_eq] at hlook
  split at hlook
  · obtain rfl := some.inj hlook
    exact hfb
  · exact h v paint' hlook

theorem dotPaints_wellFormed : AllWellFormed dotPaints := by
  have hemp : AllWellFormed ∅ := fun w paint h => by
    rw [lookup_empty] at h
    cases h
  have hnew : ∀ width height, WellFormed (plainPaint (Framebuffer.new width height)).framebuffer :=
    new_wellFormed
  refine AllWellFormed.insert ?_ _ ⟨rfl, rfl, fun d hd => nomatch hd⟩
  exact ((((hemp.insert _ (hnew _ _)).insert _ (hnew _ _)).insert _ (hnew _ _)).insert _ (hnew _ _)).insert _
    (hnew _ _)

theorem dot_ids (w : XId) (win : WindowState) (h : dot.windows.lookup w = some win) : win.id = w := by
  have hents : ∀ e ∈ dot.windows.entries, e.2.id = e.1 := by decide +kernel
  exact hents ⟨w, win⟩ (mem_lookup_iff.mp h)

def dotPainting : Painting where
  toDrawState := dot
  ids := dot_ids
  wellFormed := dotPaints_wellFormed

theorem blackImage_same : SilentlySame dot (dotImage [0, 0, 0, 0]) := by
  intro w paint hpnt i _ v hv
  have hwrites : silentWrites dot w paint (dotImage [0, 0, 0, 0]) =
      if w = 0x400001 then imageWrites _ _ paint.framebuffer _ else [] := rfl
  rw [hwrites] at hv
  split at hv
  · next hw =>
    subst hw
    have hblack : dot.paints.lookup 0x400001 = some (plainPaint blackDot) := rfl
    obtain rfl := some.inj (hpnt.symm.trans hblack)
    have hpart : written [(0, blackDot.data)] i = blackDot.data[i]? := LastWrites.lastWrite_singleton _ _
    exact hpart.symm.trans hv
  · cases hv

theorem request_covers_black :
    CoversChanges noSource noFill dot (dotImage [0, 0, 0, 0]) ∧
      SendsChanges noSource noFill dot (dotImage [0, 0, 0, 0]) :=
  (request_covers_iff noSource noFill (fun _ _ _ _ _ _ _ h => nomatch h) dotPainting (dotImage [0, 0, 0, 0])).mpr
    blackImage_same

/-- A white pixel replaces the black one, and nothing is dirty. -/
theorem putImage_stale : ¬ CoversChanges noSource noFill dot (dotImage [0xFF, 0xFF, 0, 0]) := by
  intro h
  obtain ⟨d, hd, -⟩ := h 0x400001 _ _ rfl rfl 0 (by decide)
  cases hd

end Dot

end X11Web.StalePixels
