import X11Web.Ewmh

namespace X11Web.Stacking

open HashMaps LinkedForest RootedForest Windows WindowTree

variable {s s' : ClientState}

/-- The first ABOVE or BELOW atom of a `_NET_WM_STATE` list decides. -/
def layerFromStates (base : Nat) : List Nat → Nat
  | [] => base
  | a :: rest =>
    if a = Predef.netWmStateAbove then max base 3
    else if a = Predef.netWmStateBelow then 1
    else layerFromStates base rest

def effectiveStackingLayer (win : WindowState) : Nat :=
  match win.properties.lookup Predef.netWmState with
  | some prop =>
    if prop.format = 32 then layerFromStates win.windowType.stackingLayer (leWords prop.data)
    else win.windowType.stackingLayer
  | none => win.windowType.stackingLayer

def layerOf (s : ClientState) (c : XId) : Nat :=
  ((s.windows.lookup c).map effectiveStackingLayer).getD 2

def without (w : XId) (cs : List XId) : List XId := cs.filter (fun c => decide (c ≠ w))

/-- Take a window out of the stack and put it where `pos` finds its place among
the others. -/
def restack (w : XId) (pos : List XId → Nat) (cs : List XId) : List XId :=
  (without w cs).insertIdx (pos (without w cs)) w

def restackChild (parentId w : XId) (pos : List XId → Nat) (s : ClientState) : ClientState :=
  updateWindow parentId (fun p => { p with childrenOrder := restack w pos p.childrenOrder }) s

/-- After the last sibling whose layer is at most `target`. -/
def topOfLayer (layer : XId → Nat) (target : Nat) (cs : List XId) : Nat :=
  match cs.reverse.findIdx? (fun c => layer c ≤ target) with
  | some k => cs.length - k
  | none => 0

def bottomOfLayer (layer : XId → Nat) (target : Nat) (cs : List XId) : Nat :=
  (cs.findIdx? (fun c => target ≤ layer c)).getD cs.length

def aboveSibling (sibling : XId) (cs : List XId) : Nat :=
  ((cs.findIdx? (· == sibling)).map (· + 1)).getD cs.length

def belowSibling (sibling : XId) (cs : List XId) : Nat :=
  (cs.findIdx? (· == sibling)).getD 0

def restackByWindowType (w parentId : XId) (s : ClientState) : ClientState :=
  restackChild parentId w (topOfLayer (layerOf s) (layerOf s w)) s

structure Rect where
  x : Int
  y : Int
  width : Int
  height : Int

def outerRect (win : WindowState) : Rect :=
  ⟨win.x, win.y, win.width + 2 * win.borderWidth, win.height + 2 * win.borderWidth⟩

def rectsOverlap (a b : Rect) : Bool :=
  decide (a.x < b.x + b.width ∧ a.x + a.width > b.x ∧ a.y < b.y + b.height ∧ a.y + a.height > b.y)

def overlapsWindow (s : ClientState) (r : Rect) (sib : XId) : Bool :=
  (s.windows.lookup sib).any (fun win => rectsOverlap r (outerRect win))

/-- A sibling above the window at `winIdx`, or the given one if it is above,
overlaps it. -/
def occludedByAbove (s : ClientState) (cs : List XId) (winIdx : Nat) (r : Rect) (sibling : XId) :
    Bool :=
  if sibling ≠ 0 then
    (cs.findIdx? (· == sibling)).any (fun i => decide (i > winIdx)) && overlapsWindow s r sibling
  else (cs.drop (winIdx + 1)).any (overlapsWindow s r)

def occludesBelow (s : ClientState) (cs : List XId) (winIdx : Nat) (r : Rect) (sibling : XId) :
    Bool :=
  if sibling ≠ 0 then
    (cs.findIdx? (· == sibling)).any (fun i => decide (i < winIdx)) && overlapsWindow s r sibling
  else (cs.take winIdx).any (overlapsWindow s r)

/-- The modes TopIf, BottomIf and Opposite for the window at `winIdx`. -/
def restackByOcclusion (mode : Nat) (w parentId : XId) (occluded occludes : Bool)
    (s : ClientState) : ClientState :=
  if mode = 2 then
    if occluded then restackChild parentId w List.length s else s
  else if mode = 3 then
    if occludes then restackChild parentId w (fun _ => 0) s else s
  else if occluded then restackChild parentId w List.length s
  else if occludes then restackChild parentId w (fun _ => 0) s
  else s

/-- The stack modes Above, Below, TopIf, BottomIf and Opposite, in this order. -/
def applyStackMode (mode : Nat) (w parentId sibling : XId) (s : ClientState) : ClientState :=
  if mode = 0 then
    if sibling ≠ 0 then restackChild parentId w (aboveSibling sibling) s
    else restackByWindowType w parentId s
  else if mode = 1 then
    if sibling ≠ 0 then restackChild parentId w (belowSibling sibling) s
    else restackChild parentId w (bottomOfLayer (layerOf s) (layerOf s w)) s
  else
    let cs := ((s.windows.lookup parentId).map (·.childrenOrder)).getD []
    match s.windows.lookup w, cs.findIdx? (· == w) with
    | some win, some winIdx =>
      restackByOcclusion mode w parentId (occludedByAbove s cs winIdx (outerRect win) sibling)
        (occludesBelow s cs winIdx (outerRect win) sibling) s
    | _, _ => s

theorem topOfLayer_le (layer : XId → Nat) (target : Nat) (cs : List XId) :
    topOfLayer layer target cs ≤ cs.length := by
  rw [topOfLayer]
  split
  · omega
  · omega

theorem bottomOfLayer_le (layer : XId → Nat) (target : Nat) (cs : List XId) :
    bottomOfLayer layer target cs ≤ cs.length := by
  rw [bottomOfLayer]
  cases h : cs.findIdx? (fun c => target ≤ layer c) with
  | none => simp
  | some i =>
    obtain ⟨hi, -⟩ := List.findIdx?_eq_some_iff_getElem.mp h
    simpa using hi.le

theorem aboveSibling_le (sibling : XId) (cs : List XId) : aboveSibling sibling cs ≤ cs.length := by
  rw [aboveSibling]
  cases h : cs.findIdx? (· == sibling) with
  | none => simp
  | some i =>
    obtain ⟨hi, -⟩ := List.findIdx?_eq_some_iff_getElem.mp h
    simpa using Nat.succ_le_of_lt hi

theorem belowSibling_le (sibling : XId) (cs : List XId) : belowSibling sibling cs ≤ cs.length := by
  rw [belowSibling]
  cases h : cs.findIdx? (· == sibling) with
  | none => simp
  | some i =>
    obtain ⟨hi, -⟩ := List.findIdx?_eq_some_iff_getElem.mp h
    simpa using hi.le

/-- The only change is the place of `w` in the child list of `parentId`. -/
structure Restack (w parentId : XId) (s s' : ClientState) : Prop where
  change : ∃ f : List XId → List XId, (∀ cs, Restacked w cs (f cs)) ∧
    links s'.windows = edit parentId (mapChildren f) (links s.windows)
  owner : ∀ v, (s'.windows.lookup v).map (·.ownerClientId) =
    (s.windows.lookup v).map (·.ownerClientId)
  shared : s'.shared = s.shared
  clientId : s'.clientId = s.clientId

theorem restackChild_restack (parentId w : XId) (pos : List XId → Nat) (s : ClientState)
    (hpos : ∀ cs, pos cs ≤ cs.length) : Restack w parentId s (restackChild parentId w pos s) := by
  refine ⟨⟨restack w pos, ?_, ?_⟩, ?_, rfl, rfl⟩
  · intro cs
    exact Restacked.insertIdx w cs _ (hpos _)
  · apply links_modify
    intro win
    rfl
  · intro v
    apply lookup_modify_map
    intro win
    rfl

theorem restackByWindowType_restack (w parentId : XId) (s : ClientState) :
    Restack w parentId s (restackByWindowType w parentId s) :=
  restackChild_restack parentId w _ s (topOfLayer_le _ _)

theorem restackByOcclusion_restack (mode : Nat) (w parentId : XId) (occluded occludes : Bool)
    (s : ClientState) :
    restackByOcclusion mode w parentId occluded occludes s = s ∨
      Restack w parentId s (restackByOcclusion mode w parentId occluded occludes s) := by
  have htop := restackChild_restack parentId w List.length s (fun _ => le_rfl)
  have hbot := restackChild_restack parentId w (fun _ => 0) s (fun _ => Nat.zero_le _)
  rw [restackByOcclusion]
  by_cases h2 : mode = 2
  · cases occluded <;> simp [h2, htop]
  · by_cases h3 : mode = 3
    · cases occludes <;> simp [h3, hbot]
    · cases occluded <;> cases occludes <;> simp [h2, h3, htop, hbot]

theorem applyStackMode_restack (mode : Nat) (w parentId sibling : XId) (s : ClientState) :
    applyStackMode mode w parentId sibling s = s ∨
      Restack w parentId s (applyStackMode mode w parentId sibling s) := by
  rw [applyStackMode]
  by_cases h0 : mode = 0
  · rw [if_pos h0]
    split
    · exact .inr (restackChild_restack parentId w _ s (aboveSibling_le sibling))
    · exact .inr (restackByWindowType_restack w parentId s)
  · rw [if_neg h0]
    by_cases h1 : mode = 1
    · rw [if_pos h1]
      split
      · exact .inr (restackChild_restack parentId w _ s (belowSibling_le sibling))
      · exact .inr (restackChild_restack parentId w _ s (bottomOfLayer_le _ _))
    · rw [if_neg h1]
      dsimp only
      split
      · exact restackByOcclusion_restack mode w parentId _ _ s
      · exact .inl rfl

/-- A run of steps that at most move windows within the child list they are in. -/
inductive Rearranged : ClientState → ClientState → Prop
  | same {s s' : ClientState} : SameTree s s' → Rearranged s s'
  | restack {s s' : ClientState} {w p : XId} :
      parentOf (links s.windows) w = some p ∨ w ∈ childrenIn (links s.windows) p →
      Restack w p s s' → Rearranged s s'
  | trans {s s' s'' : ClientState} : Rearranged s s' → Rearranged s' s'' → Rearranged s s''

theorem Rearranged.agree (h : Rearranged s s') (hs : Agree rootWindow (links s.windows)) :
    Agree rootWindow (links s'.windows) := by
  induction h with
  | same h => rwa [h.links]
  | restack hw h =>
    obtain ⟨f, hf, hlinks⟩ := h.change
    rw [hlinks]
    apply hs.restack _ f (fun n _ => hf n.children)
    obtain hw | hw := hw
    · exact hw
    · exact hs.parentOf_listed (Nat.ne_of_gt (List.count_pos_iff.mpr hw))
  | trans _ _ ih ih' => exact ih' (ih hs)

theorem Rearranged.rooted (h : Rearranged s s') (hs : Rooted rootWindow 0 (links s.windows)) :
    Rooted rootWindow 0 (links s'.windows) := by
  induction h with
  | same h => rwa [h.links]
  | restack hw h =>
    obtain ⟨f, hf, hlinks⟩ := h.change
    rw [hlinks]
    apply hs.restack _ f (fun n _ => hf n.children)
    obtain hw | hw := hw
    · exact hw
    · exact hs.down _ _ (Nat.ne_of_gt (List.count_pos_iff.mpr hw))
  | trans _ _ ih ih' => exact ih' (ih hs)

theorem Rearranged.parentOf (h : Rearranged s s') (v : XId) :
    parentOf (links s'.windows) v = parentOf (links s.windows) v := by
  induction h with
  | same h => rw [h.links]
  | restack _ h =>
    obtain ⟨f, -, hlinks⟩ := h.change
    rw [hlinks, parentOf_mapChildren]
  | trans _ _ ih ih' => exact ih'.trans ih

theorem Rearranged.owner (h : Rearranged s s') (v : XId) :
    (s'.windows.lookup v).map (·.ownerClientId) = (s.windows.lookup v).map (·.ownerClientId) := by
  induction h with
  | same h => exact h.owner v
  | restack _ h => exact h.owner v
  | trans _ _ ih ih' => exact ih'.trans ih

theorem Rearranged.shared (h : Rearranged s s') (v : XId) (hv : v ∈ s'.shared.windows) :
    v ∈ s.shared.windows := by
  induction h with
  | same h => exact h.shared v hv
  | restack _ h => rwa [← h.shared]
  | trans _ _ ih ih' => exact ih (ih' hv)

theorem Rearranged.clientId (h : Rearranged s s') : s'.clientId = s.clientId := by
  induction h with
  | same h => exact h.clientId
  | restack _ h => exact h.clientId
  | trans _ _ ih ih' => exact ih'.trans ih

end X11Web.Stacking
