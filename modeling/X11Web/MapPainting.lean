import X11Web.SilentWrites

namespace X11Web.MapPainting

open HashMaps Windows Ewmh Overwrites Pixels DirtyMirror
  X11Web.WriteLists X11Web.DrawRequests X11Web.SilentWrites X11Web.MapReparent

structure Tile where
  data : Bytes
  width : Nat
  height : Nat
  tsX : Int16
  tsY : Int16

/-- The rasteriser's fill of a rectangle with a tile, where it takes the size of the
framebuffer and the tile. -/
abbrev TileFill := Framebuffer → Int16 → Int16 → UInt16 → UInt16 → Tile → Option Bytes

def FillsInside (fill : TileFill) : Prop :=
  ∀ (fb : Framebuffer) (x y : Int16) (width height : UInt16) (tile : Tile), ∀ data ∈ fill fb x y width height tile,
    ChangesOnly (cells fb.stride ⟨x.toInt, y.toInt, width.toNat, height.toNat⟩) fb.data data

def drawPointWithFuncMasked (fb : Framebuffer) (x y : Int) (color : UInt32) (gcFunc : UInt8)
    (planeMask : UInt32) : Framebuffer :=
  if x < 0 ∨ y < 0 ∨ (fb.width : Int) ≤ x ∨ (fb.height : Int) ≤ y then fb
  else
    let off := y.toNat * fb.stride + x.toNat * 4
    if fb.data.length ≤ off + 3 then fb
    else
      { fb with
        data := writePixel fb.data off
          (applyPlanes gcFunc planeMask color (readPixel fb.data off)) 0xFF }.markDirty x y 1 1

/-- The tile's coordinate at a coordinate of the framebuffer. -/
def tileCoordinate (size : Nat) (v ts : Int) : Nat := ((v - ts).tmod size + size).toNat % size

def fillRectTiled (fill : TileFill) (fb : Framebuffer) (x y : Int16) (width height : UInt16) (tile : Tile)
    (function : UInt8) (planeMask : UInt32) : Framebuffer :=
  if tile.width = 0 ∨ tile.height = 0 ∨ tile.data = [] ∨ width = 0 ∨ height = 0 then fb
  else
    match if skiaEligible function planeMask then fill fb x y width height tile else none with
    | some data => { fb with data := data }.markDirty x.toInt y.toInt width.toNat height.toNat
    | none =>
      let rowStart := (max x.toInt 0).toNat
      let rowEnd := (min (x.toInt + width.toNat) fb.width).toNat
      if rowEnd ≤ rowStart then fb
      else
        let painted := (List.range height.toNat).foldl (fun fb row =>
          let dy := y.toInt + row
          if dy < 0 ∨ (fb.height : Int) ≤ dy then fb
          else
            (List.range (rowEnd - rowStart)).foldl (fun fb i =>
              let px : Nat := rowStart + i
              let off := tileCoordinate tile.height dy tile.tsY.toInt * (tile.width * 4) +
                tileCoordinate tile.width px tile.tsX.toInt * 4
              if tile.data.length ≤ off + 3 then fb
              else drawPointWithFuncMasked fb px dy (readPixel tile.data off) function planeMask) fb) fb
        painted.markDirty x.toInt y.toInt width.toNat height.toNat

namespace BackingStore

def notUseful : UInt8 := 0

end BackingStore

/-- The pixels that were saved when the window was unmapped, where they fill the
framebuffer. The product is that of a 32-bit word. -/
def restoredPixels (paint : WindowPaint) : Option Bytes :=
  if paint.backingStore = BackingStore.notUseful then none
  else
    paint.backingPixmap.filter (fun saved =>
      saved.length = paint.framebuffer.width * paint.framebuffer.height * 4 % 2 ^ 32)

/-- What a round of the loop over the window copies from the parent. -/
def parentPixel (win : WindowState) (parent fb : Framebuffer) (p : Nat × Nat) : Option (Nat × Bytes) :=
  let sx := win.x + p.2
  let sy := win.y + p.1
  if 0 ≤ sx ∧ 0 ≤ sy ∧ sx < parent.width ∧ sy < parent.height then
    let srcOff := (sy.toNat * parent.width + sx.toNat) * 4
    let dstOff := p.1 * (fb.width * 4) + p.2 * 4
    if srcOff + 4 ≤ parent.data.length ∧ dstOff + 4 ≤ fb.data.length then
      some (dstOff, slice parent.data srcOff 4)
    else none
  else none

def windowRounds (win : WindowState) : List (Nat × Nat) := grid (List.range win.height) (List.range win.width)

def copyParent (win : WindowState) (parent fb : Framebuffer) : Framebuffer :=
  poke fb (windowRounds win) (fun _ => parentPixel win parent fb)

def fillPixel (win : WindowState) (paint : WindowPaint) : Framebuffer :=
  paint.framebuffer.fillRect 0 0 (UInt16.ofNat win.width) (UInt16.ofNat win.height) paint.backgroundPixel

def fillTile (fill : TileFill) (win : WindowState) (paint : WindowPaint) : Option Pixmap → Framebuffer
  | none => fillPixel win paint
  | some pix =>
    fillRectTiled fill paint.framebuffer 0 0 (UInt16.ofNat win.width) (UInt16.ofNat win.height)
      ⟨pix.framebuffer.data, pix.width.toNat, pix.height.toNat, 0, 0⟩ GX.copy planeMaskAll

/-- The pixels that a window gets when it is mapped: those that were saved, or its
background. -/
def paintBackground (fill : TileFill) (s : DrawState) (win : WindowState) (paint : WindowPaint) : Framebuffer :=
  match restoredPixels paint with
  | some saved => { paint.framebuffer with data := overwrite paint.framebuffer.data 0 saved }
  | none =>
    match paint.backgroundPixmap with
    | none => fillPixel win paint
    | some 0 => paint.framebuffer
    | some 1 => (s.paints.lookup win.parent).elim paint.framebuffer (fun parent =>
        copyParent win parent.framebuffer paint.framebuffer)
    | some pid => fillTile fill win paint (s.pixmaps.lookup pid)

/-- The saved pixels are given up where the window kept them. -/
def mapPaint (fill : TileFill) (s : DrawState) (win : WindowState) (paint : WindowPaint) : WindowPaint :=
  { paint with
    framebuffer := paintBackground fill s win paint
    backingPixmap := if paint.backingStore = BackingStore.notUseful then paint.backingPixmap else none }

/-- The record of the window that the request maps, placed by its hints. -/
def mappedWindow (s : DrawState) (w : XId) : Option WindowState :=
  ((s.windows.lookup w).filter (fun win =>
    !substructureRedirected s.toClientState win && !win.mapped && uuidKnown s.toClientState w)).map
    (placeByHints (getSizeHintsPosition s.toClientState w))

def handleMapWindow (fill : TileFill) (w : XId) (s : DrawState) : DrawState × DrawResponse :=
  match s.windows.lookup w with
  | none => (s, .error .window w 8)
  | some win =>
    if substructureRedirected s.toClientState win then (s, .ok)
    else if win.mapped then (s, .ok)
    else if !uuidKnown s.toClientState w then (s, .ok)
    else
      let placed := placeByHints (getSizeHintsPosition s.toClientState w) win
      ({ s with
          toClientState := mapWindow w win s.toClientState
          paints := modify w (mapPaint fill s placed) s.paints }, .ok)

theorem handleMapWindow_client (fill : TileFill) (w : XId) (s : DrawState) :
    (handleMapWindow fill w s).1.toClientState = (MapReparent.handleMapWindow w s.toClientState).1 := by
  rw [handleMapWindow, MapReparent.handleMapWindow]
  cases s.windows.lookup w with
  | none => rfl
  | some win =>
    dsimp only
    split
    · rfl
    · split
      · rfl
      · split <;> rfl

theorem handleMapWindow_paints (fill : TileFill) (w : XId) (s : DrawState) :
    (handleMapWindow fill w s).1.paints =
      (mappedWindow s w).elim s.paints (fun win => modify w (mapPaint fill s win) s.paints) := by
  rw [handleMapWindow, mappedWindow]
  cases s.windows.lookup w with
  | none => rfl
  | some win =>
    cases hredirected : substructureRedirected s.toClientState win <;> cases hmpd : win.mapped <;>
      cases huuid : uuidKnown s.toClientState w <;> simp [Option.filter_some, hredirected, hmpd]

variable {fill : TileFill} {fb : Framebuffer} {s : DrawState} {win : WindowState} {paint : WindowPaint}

theorem drawPointWithFuncMasked_draws (h : WellFormed fb) (x y : Int) (color : UInt32) (gcFunc : UInt8)
    (planeMask : UInt32) : Draws fb (drawPointWithFuncMasked fb x y color gcFunc planeMask) := by
  rw [drawPointWithFuncMasked]
  split
  · exact .refl h
  · next hins =>
    dsimp only
    split
    · exact .refl h
    · exact drawPoint_draws h hins _

theorem foldl_draws {ι : Type} {f : Framebuffer → ι → Framebuffer} (h : WellFormed fb)
    (hround : ∀ fb, WellFormed fb → ∀ x, Draws fb (f fb x)) (xs : List ι) : Draws fb (xs.foldl f fb) := by
  induction xs generalizing fb with
  | nil => exact .refl h
  | cons x xs ih =>
    have hx := hround fb h x
    exact hx.trans (ih hx.wellFormed)

theorem marked_draws {fb' : Framebuffer} (h : Draws fb fb') (x y : Int) (w n : Nat) :
    Draws fb (fb'.markDirty x y w n) :=
  h.trans (markDirty_draws h.wellFormed (.refl _ _))

theorem fillRectTiled_draws (hfill : FillsInside fill) (h : WellFormed fb) (x y : Int16) (width height : UInt16)
    (tile : Tile) (function : UInt8) (planeMask : UInt32) :
    Draws fb (fillRectTiled fill fb x y width height tile function planeMask) := by
  rw [fillRectTiled]
  split
  · exact .refl h
  · cases hfast : if skiaEligible function planeMask then fill fb x y width height tile else none with
    | some data =>
      have hdata : fill fb x y width height tile = some data := by
        split at hfast
        · exact hfast
        · cases hfast
      exact markDirty_draws h (hfill fb x y width height tile data hdata)
    | none =>
      dsimp only
      split
      · exact .refl h
      · refine marked_draws (foldl_draws h (fun fb hfb row => ?_) _) _ _ _ _
        split
        · exact .refl hfb
        · refine foldl_draws hfb (fun fb hfb i => ?_) _
          split
          · exact .refl hfb
          · exact drawPointWithFuncMasked_draws hfb _ _ _ _ _

/-- What the request writes without a mark: the saved pixels, or those of the parent. -/
def backgroundWrites (s : DrawState) (win : WindowState) (paint : WindowPaint) : List (Nat × Bytes) :=
  match restoredPixels paint with
  | some saved => [(0, saved)]
  | none =>
    match paint.backgroundPixmap with
    | some 1 => (s.paints.lookup win.parent).elim [] (fun parent =>
        (windowRounds win).filterMap (parentPixel win parent.framebuffer paint.framebuffer))
    | _ => []

theorem restoredPixels_length (h : WellFormed paint.framebuffer) {saved : Bytes}
    (hsaved : restoredPixels paint = some saved) : saved.length ≤ paint.framebuffer.data.length := by
  rw [restoredPixels] at hsaved
  split at hsaved
  · cases hsaved
  · obtain ⟨-, hlen⟩ := Option.filter_eq_some_iff.mp hsaved
    rw [of_decide_eq_true hlen, h.length, h.stride, Nat.mul_left_comm, ← Nat.mul_assoc]
    exact Nat.mod_le _ _

theorem parentPixel_fits {parent : Framebuffer} {p : Nat × Nat} {w : Nat × Bytes}
    (h : parentPixel win parent fb p = some w) : w.1 + w.2.length ≤ fb.data.length := by
  rw [parentPixel] at h
  split at h
  · dsimp only at h
    split at h
    · next hfits =>
      obtain rfl := Option.some.inj h
      rw [length_slice hfits.1]
      exact hfits.2
    · cases h
  · cases h

theorem copyParent_paintsAs (win : WindowState) (parent fb : Framebuffer) :
    PaintsAs fb (copyParent win parent fb) ((windowRounds win).filterMap (parentPixel win parent fb)) := by
  refine poke_of_length (fun _ _ _ _ => rfl) fun p _ w hw => ?_
  exact parentPixel_fits hw

theorem restore_paintsAs (h : WellFormed paint.framebuffer) {saved : Bytes}
    (hsaved : restoredPixels paint = some saved) :
    PaintsAs paint.framebuffer { paint.framebuffer with data := overwrite paint.framebuffer.data 0 saved }
      [(0, saved)] := by
  have hfits : Fits paint.framebuffer.data.length [(0, saved)] := fun w hw => by
    obtain rfl := List.mem_singleton.mp hw
    rw [Nat.zero_add]
    exact restoredPixels_length h hsaved
  exact .silent hfits

theorem fillTile_draws (hfill : FillsInside fill) (h : WellFormed paint.framebuffer) (win : WindowState)
    (pixmap : Option Pixmap) : Draws paint.framebuffer (fillTile fill win paint pixmap) := by
  cases pixmap with
  | none => exact fillRect_draws h _ _ _ _ _
  | some pix => exact fillRectTiled_draws hfill h _ _ _ _ _ _ _

theorem paintBackground_paintsAs (hfill : FillsInside fill) (h : WellFormed paint.framebuffer) (s : DrawState)
    (win : WindowState) :
    PaintsAs paint.framebuffer (paintBackground fill s win paint) (backgroundWrites s win paint) := by
  rw [paintBackground, backgroundWrites]
  cases hsaved : restoredPixels paint with
  | some saved => exact restore_paintsAs h hsaved
  | none =>
    rcases paint.backgroundPixmap with _ | _ | _ | pid
    · exact .marked (fillRect_draws h _ _ _ _ _)
    · exact .marked (.refl h)
    · dsimp only
      cases s.paints.lookup win.parent with
      | none => exact .marked (.refl h)
      | some parent => exact copyParent_paintsAs win parent.framebuffer paint.framebuffer
    · exact .marked (fillTile_draws hfill h win _)

end X11Web.MapPainting
