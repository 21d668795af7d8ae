import X11Web.Compositing

namespace X11Web.FlushDelivery

open Windows SyncWindows Overwrites Pixels DirtyMirror X11Web.ImagePixels X11Web.Compositing List Option

variable {s : FlushState} {ws ws' : PaintedWindows} {w t : XId} {win win' : PaintedWindow} {order : List XId}
  {fb : Framebuffer} {p : DirtyPixels} {col row : Nat} {uuid : Uuid}

def sentRect (p : DirtyPixels) : Rect := ⟨p.x.toInt, p.y.toInt, p.width.toNat, p.height.toNat⟩

def sentPixel (p : DirtyPixels) (col row : Nat) : Bytes :=
  imagePixel p.pixels p.width.toNat (col - p.x.toInt.toNat) (row - p.y.toInt.toNat)

def InRenderShape (win : PaintedWindow) (col row : Nat) : Prop :=
  ∀ shape ∈ effectiveRenderShape win, pointInShape shape (Int16.ofNat col) (Int16.ofNat row) = true

theorem takeDirtyPixels_sends (h : WellFormed fb) (hw : fb.width ≤ 32767) (hh : fb.height ≤ 32767) {d : Rect}
    (hd : fb.dirty = some d) :
    ∃ p, fb.takeDirtyPixels = (some p, clearDirty fb) ∧ (0 ≤ p.x.toInt ∧ 0 ≤ p.y.toInt) ∧
      ∀ col row, col < fb.width → row < fb.height → Contains d col row →
        Contains (sentRect p) col row ∧ sentPixel p col row = pixelAt fb col row := by
  obtain ⟨p, htake, hx, hy, hwd, hht, hpixels⟩ := takeDirtyPixels_some h hw hh hd
  have hbox := h.dirty d hd
  refine ⟨p, htake, by omega, fun col row hcol hrow hin => ?_⟩
  obtain ⟨hleft, hright, htop, hbot⟩ := hin
  have hrect : Contains (sentRect p) col row := by
    simp only [Contains, sentRect]
    omega
  refine ⟨hrect, ?_⟩
  obtain ⟨hleft', hright', htop', hbot'⟩ := hrect
  simp only [sentRect] at hleft' hright' htop' hbot'
  have hstr := h.stride
  have hslices : ∀ k < p.height.toNat, (slice fb.data
      ((d.y.toNat + k) * fb.stride + d.x.toNat * 4) (p.width.toNat * 4)).length = p.width.toNat * 4 := by
    intro k hk
    have hfits := h.row_le (show d.y.toNat + k < fb.height by omega)
    exact length_slice (by omega)
  have hk : row - d.y.toNat < p.height.toNat := by omega
  have hj : col - d.x.toNat < p.width.toNat := by omega
  have hsum : d.y.toNat + (row - d.y.toNat) = row := by omega
  -- the row of the update is a part of the row of the framebuffer
  have hrowslice := slice_flatMap_range hslices hk
  rw [← hpixels, hsum] at hrowslice
  rw [sentPixel, imagePixel, pixelAt, hx, hy]
  apply slice_congr
  intro b hb
  have hbyte := congrArg (·[(col - d.x.toNat) * 4 + b]?) hrowslice
  rw [getElem?_slice (by omega), getElem?_slice (by omega)] at hbyte
  have hsrc : (row - d.y.toNat) * (p.width.toNat * 4) + ((col - d.x.toNat) * 4 + b) =
      ((row - d.y.toNat) * p.width.toNat + (col - d.x.toNat)) * 4 + b := by
    rw [Nat.add_mul, Nat.mul_assoc, Nat.add_assoc]
  have hdst : row * fb.stride + d.x.toNat * 4 + ((col - d.x.toNat) * 4 + b) = row * fb.stride + col * 4 + b := by
    omega
  rwa [hsrc, hdst] at hbyte

theorem toInt16_toNat_le (v : UInt16) : v.toInt16.toInt.toNat ≤ v.toNat := by
  have hint : v.toInt16.toInt = v.toBitVec.toInt := rfl
  have hnat : v.toNat = v.toBitVec.toNat := rfl
  rw [hint, hnat, BitVec.toInt_eq_toNat_cond]
  split <;> omega

theorem int16_ofNat_eq {v : Int16} (h : 0 ≤ v.toInt) {n : Nat} (hn : v.toInt ≤ n) :
    v + Int16.ofNat (n - v.toInt.toNat) = Int16.ofNat n := by
  have hv : v = Int16.ofNat v.toInt.toNat := by
    rw [← Int16.ofInt_eq_ofNat, Int.toNat_of_nonneg h, Int16.ofInt_toInt]
  have hsum : n = v.toInt.toNat + (n - v.toInt.toNat) := by omega
  conv_rhs => rw [hsum, Int16.ofNat_add, ← hv]

theorem sentPixel_maskShape {shape : List ClipRect} (hrect : Contains (sentRect p) col row)
    (hx : 0 ≤ p.x.toInt) (hy : 0 ≤ p.y.toInt)
    (hshape : pointInShape shape (Int16.ofNat col) (Int16.ofNat row) = true) :
    sentPixel { p with pixels := maskShape shape p } col row = sentPixel p col row := by
  obtain ⟨hleft, hright, htop, hbot⟩ := hrect
  simp only [sentRect] at hleft hright htop hbot
  let px := col - p.x.toInt.toNat
  let py := row - p.y.toInt.toNat
  have hpx : px < p.width.toNat := by omega
  have hmask : ChangesOnly (Set.Ico ((py * p.width.toNat + px) * 4) ((py * p.width.toNat + px) * 4 + 4))ᶜ
      p.pixels (maskShape shape p) := by
    refine .foldl _ fun pixels hlen py' hpy' => .foldl _ fun pixels' hlen' px' hpx' => ?_
    dsimp only
    split
    · next hout =>
      refine (overwrite_changesOnly hout.2).mono fun i hi hmem => ?_
      have hpx'' : px' < p.width.toNat := (mem_range.mp hpx').trans_le (toInt16_toNat_le p.width)
      simp only [length_cons, length_nil, Set.mem_Ico] at hi hmem
      -- the pixel that is cleared would be the one inside the shape
      obtain ⟨rfl, rfl⟩ := pixel_index_inj hpx'' hpx
        (show py' * p.width.toNat + px' = py * p.width.toNat + px by omega)
      rw [int16_ofNat_eq hx hleft, int16_ofNat_eq hy htop, hshape] at hout
      exact Bool.noConfusion hout.1
    · exact .refl _ _
  refine slice_congr fun b hb => hmask.outside _ fun hmem => hmem ⟨?_, ?_⟩
  · exact Nat.le_add_right _ _
  · exact Nat.add_lt_add_left hb _

/-- What happens to a window on which others may be drawn. -/
def Drawn (t : XId) (ws ws' : PaintedWindows) : Prop :=
  ∀ win, ws.lookup t = some win → WellFormed win.framebuffer →
    ∃ fb, Draws win.framebuffer fb ∧ ws'.lookup t = some { win with framebuffer := fb }

theorem Drawn.of_lookup (h : ws'.lookup t = ws.lookup t) : Drawn t ws ws' := fun win hwin hfb =>
  ⟨win.framebuffer, .refl hfb, h.trans hwin⟩

theorem Drawn.trans {ws'' : PaintedWindows} (h : Drawn t ws ws') (h' : Drawn t ws' ws'') : Drawn t ws ws'' := by
  intro win hwin hfb
  obtain ⟨fb, hdrw, hlook⟩ := h win hwin hfb
  obtain ⟨fb', hdrw', hlook'⟩ := h' _ hlook hdrw.wellFormed
  exact ⟨fb', hdrw.trans hdrw', hlook'⟩

theorem drawChild_drawn (t : XId) (c : ChildWindow) (place : XId × Int × Int) (ws : PaintedWindows) :
    Drawn t ws (drawChild c place ws) := by
  rw [drawChild]
  cases ws.lookup c.id with
  | none => exact .of_lookup rfl
  | some child =>
    intro win hwin hfb
    dsimp only
    rw [lookup_editFramebuffer]
    split
    · next heq =>
      subst heq
      rw [hwin]
      exact ⟨_, putImage_draws hfb _ _ _ _ _, rfl⟩
    · exact ⟨win.framebuffer, .refl hfb, hwin⟩

theorem compositeChild_drawn {c : ChildWindow} (hne : t ≠ c.id) (ws : PaintedWindows) :
    Drawn t ws (compositeChild ws c) := by
  have hclear : ∀ ws : PaintedWindows, Drawn t ws (editFramebuffer c.id clearDirty ws) := fun ws =>
    .of_lookup (by rw [lookup_editFramebuffer, if_neg hne])
  rw [compositeChild]
  split
  · exact hclear ws
  · dsimp only
    split
    · exact .of_lookup rfl
    · exact (drawChild_drawn t c _ ws).trans (hclear _)

theorem compositeChildren_drawn (h : WellKept ws) (hwin : ws.lookup t = some win)
    (hpar : win.parent = rootWindow) (order : List XId) : Drawn t ws (compositeChildren order ws) := by
  have hchs : ∀ c ∈ dirtyChildren order ws, t ≠ c.id := by
    rintro c hc rfl
    obtain ⟨k, -, hk⟩ := mem_filterMap.mp hc
    obtain ⟨child, hch, rfl⟩ := map_eq_some_iff.mp hk
    obtain ⟨hlook, hdirty⟩ := filter_eq_some_iff.mp hch
    have hid : child.id = k := h.ids k child hlook
    rw [childWindow, hid, hlook] at hwin
    obtain rfl := some.inj hwin
    simp [isDirtyChild, hpar] at hdirty
  have hloop : ∀ (cs : List ChildWindow) (ws : PaintedWindows), (∀ c ∈ cs, t ≠ c.id) →
      Drawn t ws (cs.foldl compositeChild ws) := by
    intro cs
    induction cs with
    | nil => exact fun ws _ => .of_lookup rfl
    | cons c cs ih =>
      intro ws hcs
      have hstep := compositeChild_drawn (hcs c mem_cons_self) ws
      exact hstep.trans (ih _ fun c' hc' => hcs c' (mem_cons_of_mem c hc'))
  exact hloop _ ws hchs

structure FlushStep (w : XId) (s s' : FlushState) : Prop where
  clientId : s'.clientId = s.clientId
  x11ToUuid : s'.x11ToUuid = s.x11ToUuid
  others : ∀ v, v ≠ w → s'.windows.lookup v = s.windows.lookup v
  appends : ∃ sent, s'.updates = s.updates ++ sent

theorem flushTopLevel_step (s : FlushState) (w : XId) : FlushStep w s (flushTopLevel s w) := by
  have hsame : FlushStep w s s := ⟨rfl, rfl, fun _ _ => rfl, [], (append_nil _).symm⟩
  have hoths : ∀ v, v ≠ w → (editFramebuffer w (fun fb => fb.takeDirtyPixels.2) s.windows).lookup v =
      s.windows.lookup v := fun v hv => by rw [lookup_editFramebuffer, if_neg hv]
  rw [flushTopLevel]
  cases s.x11ToUuid.lookup w with
  | none => exact hsame
  | some uuid =>
    cases s.windows.lookup w with
    | none => exact hsame
    | some win =>
      dsimp only
      cases win.framebuffer.takeDirtyPixels.1 with
      | none => exact ⟨rfl, rfl, hoths, [], (append_nil _).symm⟩
      | some p => exact ⟨rfl, rfl, hoths, _, rfl⟩

theorem foldl_flushTopLevel_appends (ids : List XId) (s : FlushState) :
    ∃ sent, (ids.foldl flushTopLevel s).updates = s.updates ++ sent := by
  induction ids generalizing s with
  | nil => exact ⟨[], (append_nil _).symm⟩
  | cons w ids ih =>
    obtain ⟨sent, hsent⟩ := (flushTopLevel_step s w).appends
    obtain ⟨rest, hrest⟩ := ih (flushTopLevel s w)
    refine ⟨sent ++ rest, ?_⟩
    rw [foldl_cons, hrest, hsent, append_assoc]

def update (win : PaintedWindow) (p : DirtyPixels) : DirtyPixels :=
  { p with pixels := (effectiveRenderShape win).elim p.pixels (fun shape => maskShape shape p) }

theorem foldl_flushTopLevel_sends {ids : List XId} (hmem : t ∈ ids) (hwin : s.windows.lookup t = some win)
    (huuid : s.x11ToUuid.lookup t = some uuid) (hp : win.framebuffer.takeDirtyPixels.1 = some p) :
    ∃ sent, (ids.foldl flushTopLevel s).updates = s.updates ++ sent ∧
      (win.ownerClientId.getD s.clientId, uuid, update win p) ∈ sent := by
  induction ids generalizing s with
  | nil => cases hmem
  | cons w ids ih =>
    have hstep := flushTopLevel_step s w
    rw [foldl_cons]
    by_cases heq : t = w
    · subst heq
      obtain ⟨rest, hrest⟩ := foldl_flushTopLevel_appends ids (flushTopLevel s t)
      have hsent : (flushTopLevel s t).updates =
          s.updates ++ [(win.ownerClientId.getD s.clientId, uuid, update win p)] := by
        rw [flushTopLevel, huuid]
        simp only [hwin, hp, update]
      refine ⟨_ :: rest, ?_, mem_cons_self⟩
      rw [hrest, hsent, append_assoc]
      rfl
    · obtain ⟨sent, hsent⟩ := hstep.appends
      have hrest := ih ((mem_cons.mp hmem).resolve_left heq) ((hstep.others t heq).trans hwin)
        ((congrArg (Finmap.lookup t) hstep.x11ToUuid).trans huuid)
      obtain ⟨rest, hrest, hin⟩ := hrest
      rw [hstep.clientId] at hin
      refine ⟨sent ++ rest, ?_, mem_append_right sent hin⟩
      rw [hrest, hsent, append_assoc]

theorem mem_cells_iff {stride : Nat} {r : Rect} (hcol : (col + 1) * 4 ≤ stride) :
    row * stride + col * 4 ∈ cells stride r ↔ Contains r col row := by
  have hpos : col * 4 < stride := by omega
  have hpos' : 0 < stride := by omega
  show Contains r ((row * stride + col * 4) % stride / 4) ((row * stride + col * 4) / stride) ↔ _
  rw [Nat.mul_comm row, Nat.mul_add_mod, Nat.mul_add_div hpos', Nat.mod_eq_of_lt hpos, Nat.div_eq_of_lt hpos,
    Nat.mul_div_cancel col (by omega), Nat.add_zero]

theorem dirty_draws {fb' : Framebuffer} (h : WellFormed fb) (hdrw : Draws fb fb') (hcol : col < fb.width)
    (hdirty : ∃ d ∈ fb.dirty, Contains d col row) : ∃ d ∈ fb'.dirty, Contains d col row := by
  obtain ⟨d, hd, hin⟩ := hdirty
  have hstr : (col + 1) * 4 ≤ fb.stride := by
    rw [h.stride]
    omega
  have hsame : fb'.stride = fb.stride := by
    rw [hdrw.wellFormed.stride, hdrw.width, h.stride]
  have hcell : row * fb.stride + col * 4 ∈ dirtyCells fb := ⟨d, hd, (mem_cells_iff hstr).mpr hin⟩
  obtain ⟨d', hd', hin'⟩ := hdrw.grows hcell
  rw [hsame, mem_cells_iff hstr] at hin'
  exact ⟨d', hd', hin'⟩

theorem shown_foldl_flushTopLevel (ids : List XId) (s : FlushState) :
    shown (ids.foldl flushTopLevel s).windows = shown s.windows := by
  induction ids generalizing s with
  | nil => rfl
  | cons w ids ih => exact (ih (flushTopLevel s w)).trans (shown_flushTopLevel s w)

theorem sentPixel_update (hrect : Contains (sentRect p) col row) (hx : 0 ≤ p.x.toInt) (hy : 0 ≤ p.y.toInt)
    (hshape : InRenderShape win col row) : sentPixel (update win p) col row = sentPixel p col row := by
  rw [update]
  cases hrender : effectiveRenderShape win with
  | none => rfl
  | some shape => exact sentPixel_maskShape hrect hx hy (hshape shape hrender)

/-- A mapped top-level window that is dirty is sent, and each of its dirty pixels that
its shape contains is sent as it is then. -/
theorem flushDirtyWindows_sends (h : WellKept s.windows) (hord : Enumerates order s.windows)
    (hwin : s.windows.lookup t = some win) (hmpd : win.mapped = true) (hpar : win.parent = rootWindow)
    (hclass : win.winClass = inputOutput) (huuid : s.x11ToUuid.lookup t = some uuid)
    (hw : win.framebuffer.width ≤ 32767) (hh : win.framebuffer.height ≤ 32767)
    (hdirty : win.framebuffer.dirty.isSome) :
    ∃ sent, (flushDirtyWindows order s).updates = s.updates ++ sent ∧
      ∃ p, (win.ownerClientId.getD s.clientId, uuid, p) ∈ sent ∧
        ∀ col row, col < win.framebuffer.width → row < win.framebuffer.height →
          (∃ d ∈ win.framebuffer.dirty, Contains d col row) → Contains (sentRect p) col row ∧
            (InRenderShape win col row →
              sentPixel p col row = shown (flushDirtyWindows order s).windows t (col, row)) := by
  have hfb := h.wellFormed t win hwin
  obtain ⟨fb, hdrw, hlook⟩ := compositeChildren_drawn h hwin hpar order win hwin hfb
  -- the window is still dirty after the compositing
  obtain ⟨d, hd⟩ := isSome_iff_exists.mp hdirty
  have hbox := hfb.dirty d hd
  have hcor : ∃ e ∈ win.framebuffer.dirty, Contains e d.x.toNat d.y.toNat := by
    refine ⟨d, hd, ?_⟩
    simp only [Contains]
    omega
  obtain ⟨d', hd', -⟩ := dirty_draws hfb hdrw (by omega) hcor
  obtain ⟨p, htake, ⟨hx, hy⟩, hpixels⟩ := takeDirtyPixels_sends hdrw.wellFormed (by rw [hdrw.width]; exact hw)
    (by rw [hdrw.height]; exact hh) hd'
  have hmem : t ∈ order.filter (fun k => ((compositeChildren order s.windows).lookup k).any isDirtyTopLevel) := by
    refine mem_filter.mpr ⟨(hord.2 t).mpr (Finmap.mem_iff.mpr ⟨win, hwin⟩), ?_⟩
    rw [hlook]
    simp [isDirtyTopLevel, hmpd, hpar, hclass, mem_def.mp hd']
  have hflushed : shown (flushDirtyWindows order s).windows = shown (compositeChildren order s.windows) :=
    shown_foldl_flushTopLevel _ _
  obtain ⟨sent, hsent, hin⟩ := foldl_flushTopLevel_sends (s := { s with windows := compositeChildren order s.windows })
    hmem hlook huuid (congrArg Prod.fst htake)
  refine ⟨sent, hsent, _, hin, fun col row hcol hrow hpixel => ?_⟩
  rw [← hdrw.width] at hcol
  rw [← hdrw.height] at hrow
  obtain ⟨e, he, hhas⟩ := dirty_draws hfb hdrw (hdrw.width ▸ hcol) hpixel
  obtain rfl := some.inj (he.symm.trans hd')
  obtain ⟨hrect, hsame⟩ := hpixels col row hcol hrow hhas
  refine ⟨hrect, fun hshape => ?_⟩
  have hmasked : sentPixel (update { win with framebuffer := fb } p) col row = sentPixel p col row :=
    sentPixel_update hrect hx hy hshape
  refine (hmasked.trans hsame).trans ?_
  rw [hflushed, shown, hlook, elim_some, copiedPixel, if_pos ⟨hcol, hrow⟩]

end X11Web.FlushDelivery
