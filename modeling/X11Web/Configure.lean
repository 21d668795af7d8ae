import X11Web.MapReparent

namespace X11Web.Configure

open LinkedForest Windows WindowTree Ewmh X11Web.Stacking X11Web.MapReparent

variable {s s' : ClientState}

structure ConfigureWindowRequest where
  window : XId
  x : Option Int := none
  y : Option Int := none
  width : Option Nat := none
  height : Option Nat := none
  borderWidth : Option Nat := none
  sibling : Option XId := none
  stackMode : Option Nat := none

/-- One dimension under the size hints: steps of `inc` above the base, then the
limits. A hint of 0 is absent. -/
def applySizeHint (inc base minimum maximum : Nat) (v : Nat) : Nat :=
  let start := if base > 0 then base else minimum
  let stepped := if inc > 1 ∧ v > start then v - (v - start) % inc else v
  let raised := if minimum > 0 ∧ stepped < minimum then minimum else stepped
  if maximum > 0 ∧ raised > maximum then maximum else raised

def hintedWidth (hints : Option SizeHints) (v : Nat) : Nat :=
  match hints with
  | none => asU16 v
  | some h => applySizeHint h.widthInc h.baseWidth h.minWidth h.maxWidth (asU16 v)

def hintedHeight (hints : Option SizeHints) (v : Nat) : Nat :=
  match hints with
  | none => asU16 v
  | some h => applySizeHint h.heightInc h.baseHeight h.minHeight h.maxHeight (asU16 v)

def moveTo (x y : Option Int) (win : WindowState) : WindowState :=
  { win with x := x.elim win.x asI16, y := y.elim win.y asI16 }

/-- The field changes of one ConfigureWindow. A zero width or height, or a bad
stack mode, stops it half way, with the earlier fields already changed. -/
def applyGeometry (req : ConfigureWindowRequest) (width height : Option Nat)
    (hints : Option SizeHints) (win : WindowState) : WindowState × Option Response :=
  let moved := moveTo req.x req.y win
  if width = some 0 then (moved, some (.error .value 0 12))
  else
    let widened := { moved with width := width.elim moved.width (hintedWidth hints) }
    if height = some 0 then (widened, some (.error .value 0 12))
    else
      let sized := { widened with
        height := height.elim widened.height (hintedHeight hints)
        borderWidth := req.borderWidth.elim widened.borderWidth (fun b => asU16 b) }
      if req.stackMode.getD 0 > 4 then
        (sized, some (.error .value (req.stackMode.getD 0) 12))
      else (sized, none)

def winGravityDelta (gravity : Nat) (dw dh : Int) : Int × Int :=
  match gravity with
  | 2 => (dw.tdiv 2, 0)
  | 3 => (dw, 0)
  | 4 => (0, dh.tdiv 2)
  | 5 => (dw.tdiv 2, dh.tdiv 2)
  | 6 => (dw, dh.tdiv 2)
  | 7 => (0, dh)
  | 8 => (dw.tdiv 2, dh)
  | 9 => (dw, dh)
  | _ => (0, 0)

/-- Move one child of a resized window; a child with Unmap gravity is unmapped
and remembered. -/
def applyGravity (dw dh : Int) (acc : ClientState × List XId) (child : XId) :
    ClientState × List XId :=
  let (s, unmapped) := acc
  let gravity := (s.winGravity.lookup child).getD 1
  if gravity = 0 then
    if (s.windows.lookup child).any (·.mapped) then
      (updateWindow child (fun c => { c with mapped := false }) s, unmapped ++ [child])
    else acc
  else
    let (dx, dy) := winGravityDelta gravity dw dh
    if dx = 0 ∧ dy = 0 then acc
    else (updateWindow child (fun c => { c with
      x := saturatingAddI16 c.x dx, y := saturatingAddI16 c.y dy }) s, unmapped)

def resizeChildren (children : List XId) (dw dh : Int) (s : ClientState) : ClientState :=
  if dw = 0 ∧ dh = 0 then s
  else
    let (s', unmapped) := children.foldl (applyGravity dw dh) (s, [])
    unmapped.foldl (fun s c => updateWindow c (fun c => { c with mapped := true }) s) s'

def stackWindow (req : ConfigureWindowRequest) (win : WindowState) (s : ClientState) :
    ClientState × Response :=
  match req.stackMode with
  | none => (s, .ok)
  | some mode =>
    let sibling := req.sibling.getD 0
    if sibling ≠ 0 ∧ ¬ (s.windows.lookup sibling).any (fun w => w.parent == win.parent) then
      (s, .error .match_ 0 12)
    else (applyStackMode mode req.window win.parent sibling s, .ok)

def configureWindow (req : ConfigureWindowRequest) (width height : Option Nat) (win : WindowState)
    (s : ClientState) : ClientState × Response :=
  let hints := getSizeHints s req.window
  let changed := req.x.isSome || req.y.isSome || width.isSome || height.isSome
  let s₁ := updateWindow req.window (fun w => (applyGeometry req width height hints w).1) s
  match (applyGeometry req width height hints win).2 with
  | some r => (s₁, r)
  | none =>
    let new := (applyGeometry req width height hints win).1
    let dw := asI16 (asI16 new.width - asI16 win.width)
    let dh := asI16 (asI16 new.height - asI16 win.height)
    let s₂ := if changed then
        resizeChildren win.childrenOrder dw dh (markWindowSharedDirty req.window s₁)
      else s₁
    stackWindow req win s₂

def handleConfigureWindow (req : ConfigureWindowRequest) (s : ClientState) :
    ClientState × Response :=
  match s.windows.lookup req.window with
  | none => (s, if req.window ≠ rootWindow then .error .window req.window 12 else .ok)
  | some win =>
    if substructureRedirected s win then (s, .ok)
    else if hasMaskSubscriber s.shared req.window resizeRedirect s.clientId then
      configureWindow req none none win s
    else configureWindow req req.width req.height win s

/-- CirculateWindow: direction 0 raises the lowest mapped child, any other one
lowers the highest. -/
def handleCirculateWindow (direction : Nat) (window : XId) (s : ClientState) :
    ClientState × Response :=
  match s.windows.lookup window with
  | none => (s, .error .window window 13)
  | some win =>
    let mapped := win.childrenOrder.filter (fun c => (s.windows.lookup c).any (·.mapped))
    if win.childrenOrder.length < 2 ∨ mapped.length < 2 then (s, .ok)
    else if windowSelects s window substructureRedirect then (s, .ok)
    else
      match if direction = 0 then mapped.head? else mapped.getLast? with
      | none => (s, .ok)
      | some target =>
        if direction = 0 then (restackChild window target List.length s, .ok)
        else (restackChild window target (fun _ => 0) s, .ok)

variable (req : ConfigureWindowRequest)

theorem outline_applyGeometry (width height : Option Nat) (hints : Option SizeHints) (win : WindowState) :
    outline (applyGeometry req width height hints win).1 = outline win := by
  rw [applyGeometry]
  dsimp only
  split
  · rfl
  · split
    · rfl
    · split
      · rfl
      · rfl

theorem applyGravity_sameTree (dw dh : Int) (acc : ClientState × List XId) (child : XId) :
    SameTree acc.1 (applyGravity dw dh acc child).1 := by
  rw [applyGravity]
  dsimp only
  split
  · split
    · apply (SameTree.refl acc.1).updateWindow
      intro win
      rfl
    · exact .refl acc.1
  · split
    · exact .refl acc.1
    · apply (SameTree.refl acc.1).updateWindow
      intro win
      rfl

theorem foldl_applyGravity_sameTree (dw dh : Int) (children : List XId)
    (acc : ClientState × List XId) :
    SameTree acc.1 (children.foldl (applyGravity dw dh) acc).1 := by
  induction children generalizing acc with
  | nil => exact .refl acc.1
  | cons c children ih => exact (applyGravity_sameTree dw dh acc c).trans (ih _)

theorem remap_sameTree (unmapped : List XId) (s : ClientState) :
    SameTree s (unmapped.foldl
      (fun s c => updateWindow c (fun c => { c with mapped := true }) s) s) := by
  induction unmapped generalizing s with
  | nil => exact .refl s
  | cons c unmapped ih =>
    refine SameTree.trans ?_ (ih _)
    apply (SameTree.refl s).updateWindow
    intro win
    rfl

theorem resizeChildren_sameTree (children : List XId) (dw dh : Int) (s : ClientState) :
    SameTree s (resizeChildren children dw dh s) := by
  rw [resizeChildren]
  split
  · exact .refl s
  · exact (foldl_applyGravity_sameTree dw dh children (s, [])).trans (remap_sameTree _ _)

theorem stackWindow_rearranged {win : WindowState}
    (hwin : s.windows.lookup req.window = some win) (h : SameTree s s') :
    Rearranged s (stackWindow req win s').1 := by
  have hpar : parentOf (links s'.windows) req.window = some win.parent := by
    rw [h.links]
    simp [parentOf_links, hwin]
  rw [stackWindow]
  cases req.stackMode with
  | none => exact .same h
  | some mode =>
    dsimp only
    split
    · exact .same h
    · obtain heq | hmove := applyStackMode_restack mode req.window win.parent (req.sibling.getD 0) s'
      · rw [heq]
        exact .same h
      · exact (Rearranged.same h).trans (.restack (.inl hpar) hmove)

theorem configureWindow_rearranged (width height : Option Nat)
    {win : WindowState} (hwin : s.windows.lookup req.window = some win) :
    Rearranged s (configureWindow req width height win s).1 := by
  have hgeo : SameTree s (updateWindow req.window
      (fun w => (applyGeometry req width height (getSizeHints s req.window) w).1) s) :=
    (SameTree.refl s).updateWindow _ _ (outline_applyGeometry req width height _)
  rw [configureWindow]
  dsimp only
  split
  · exact .same hgeo
  · apply stackWindow_rearranged req hwin
    split
    · exact (hgeo.markWindowSharedDirty _).trans (resizeChildren_sameTree _ _ _ _)
    · exact hgeo

theorem handleConfigureWindow_rearranged (s : ClientState) :
    Rearranged s (handleConfigureWindow req s).1 := by
  rw [handleConfigureWindow]
  cases h : s.windows.lookup req.window with
  | none => exact .same (.refl s)
  | some win =>
    dsimp only
    split
    · exact .same (.refl s)
    · split
      · exact configureWindow_rearranged req none none h
      · exact configureWindow_rearranged req _ _ h

theorem handleCirculateWindow_rearranged (direction : Nat) (window : XId) (s : ClientState) :
    Rearranged s (handleCirculateWindow direction window s).1 := by
  rw [handleCirculateWindow]
  cases h : s.windows.lookup window with
  | none => exact .same (.refl s)
  | some win =>
    dsimp only
    split
    · exact .same (.refl s)
    · split
      · exact .same (.refl s)
      · split
        · exact .same (.refl s)
        · next target htgt =>
          have hmem : target ∈ win.childrenOrder := by
            split at htgt
            · exact (List.mem_filter.mp (List.mem_of_mem_head? htgt)).1
            · exact (List.mem_filter.mp (List.mem_of_getLast? htgt)).1
          have hch : target ∈ childrenIn (links s.windows) window := by
            rw [childrenIn_links, h]
            exact hmem
          split
          · exact .restack (.inr hch)
              (restackChild_restack window target _ s (fun _ => le_rfl))
          · exact .restack (.inr hch)
              (restackChild_restack window target _ s (fun _ => Nat.zero_le _))

end X11Web.Configure
