import X11Web.ConfigureWindow

namespace X11Web.ExposeCounts

open HashMaps LinkedForest Windows WindowTree X11Web.Stacking X11Web.MapReparent X11Web.ConfigureWindow List Option
open Links (loneClient serverIds)
open CreateDestroy (CreateWindowRequest newWindow setInitialProperties)
open Configure (ConfigureWindowRequest)

/-- The windows of the request that select Exposure: the window itself, and those of
its descendants that are mapped. -/
def selecting (it : Iteration) (s : ClientState) (w : XId) : Nat :=
  (if windowSelects s w exposure then 1 else 0) + (exposedDescendants it.windows s.windows w).length

def exposeCount : ConfigureEvent → Option Nat
  | .expose _ _ _ count => some count
  | _ => none

def CountDown (events : List ConfigureEvent) : Prop :=
  events.map exposeCount = (List.range events.length).reverse.map some

section Arithmetic

theorem subUsize_of_le {checked : Bool} {a b : Nat} (h : b ≤ a) :
    subUsize checked a b = some (a - b) := by
  rw [subUsize, if_pos h]

theorem range_succ_reverse (n : Nat) :
    (List.range (n + 1)).reverse = n :: (List.range n).reverse := by
  rw [range_succ, reverse_append]
  rfl

theorem exposeBelow_counts (checked : Bool) (base i : Nat) (ws : List WindowState) :
    ∃ events, exposeBelow checked (base + (i + ws.length)) base i ws = some events ∧
      events.map exposeCount =
        (List.range ws.length).reverse.map (fun n => some (n % 2 ^ 16)) := by
  induction ws generalizing i with
  | nil => exact ⟨[], rfl, rfl⟩
  | cons w ws ih =>
    obtain ⟨events, hevs, hcts⟩ := ih (i + 1)
    have htotal : base + (i + (w :: ws).length) = base + (i + 1 + ws.length) := by
      rw [length_cons]
      omega
    have hremaining : base + (i + 1 + ws.length) - base - 1 - i = ws.length := by omega
    rw [exposeBelow, htotal, subUsize_of_le (by omega), bind_some,
      subUsize_of_le (by omega), bind_some, subUsize_of_le (by omega), bind_some,
      hevs, hremaining]
    refine ⟨_, rfl, ?_⟩
    rw [map_cons, hcts, length_cons, range_succ_reverse, map_cons]
    rfl

theorem exposeEvents_counts (checked : Bool) {it : Iteration} {s : ClientState} {w : XId}
    (h : 1 ≤ selecting it s w) (width height : Nat) :
    ∃ events sent, exposeEvents checked it s w width height = some (events, sent) ∧
      events.map exposeCount =
        (List.range (selecting it s w)).reverse.map (fun n => some (n % 2 ^ 16)) := by
  obtain ⟨below, hbel, hcts⟩ := exposeBelow_counts checked
    (if windowSelects s w exposure then 1 else 0) 0 (exposedDescendants it.windows s.windows w)
  rw [Nat.zero_add] at hbel
  rw [exposeEvents]
  dsimp only
  rw [selecting] at h ⊢
  rw [subUsize_of_le h, bind_some, hbel, map_some]
  refine ⟨_, _, rfl, ?_⟩
  cases hself : windowSelects s w exposure with
  | false => simpa using hcts
  | true =>
    rw [if_pos rfl, if_pos rfl, Nat.add_comm, range_succ_reverse, map_append, hcts]
    simp [exposeCount]

theorem subUsize_of_checked (checked : Bool) {a b c : Nat} (h : subUsize true a b = some c) :
    subUsize checked a b = some c := by
  rw [subUsize] at h
  split at h
  · next hle => rw [subUsize_of_le hle, h]
  · cases h

theorem exposeBelow_of_checked (checked : Bool) {total base i : Nat} {ws : List WindowState}
    {events : List ConfigureEvent} (h : exposeBelow true total base i ws = some events) :
    exposeBelow checked total base i ws = some events := by
  induction ws generalizing i events with
  | nil => exact h
  | cons w ws ih =>
    rw [exposeBelow] at h ⊢
    obtain ⟨a, ha, h⟩ := bind_eq_some_iff.mp h
    obtain ⟨b, hb, h⟩ := bind_eq_some_iff.mp h
    obtain ⟨c, hc, h⟩ := bind_eq_some_iff.mp h
    obtain ⟨below, hbel, h⟩ := map_eq_some_iff.mp h
    rw [subUsize_of_checked checked ha, bind_some, subUsize_of_checked checked hb,
      bind_some, subUsize_of_checked checked hc, bind_some, ih hbel,
      map_some, h]

theorem exposeEvents_of_checked (checked : Bool) {it : Iteration} {s : ClientState} {w : XId}
    {width height : Nat} {exposed : List ConfigureEvent × Broadcasts}
    (h : exposeEvents true it s w width height = some exposed) :
    exposeEvents checked it s w width height = some exposed := by
  rw [exposeEvents] at h ⊢
  obtain ⟨count, hcnt, h⟩ := bind_eq_some_iff.mp h
  obtain ⟨below, hbel, h⟩ := map_eq_some_iff.mp h
  rw [subUsize_of_checked checked hcnt, bind_some,
    exposeBelow_of_checked checked hbel, map_some, h]

theorem exposeEvents_underflow {it : Iteration} {s : ClientState} {w : XId}
    (h : selecting it s w = 0) (width height : Nat) :
    exposeEvents true it s w width height = none := by
  rw [exposeEvents]
  dsimp only
  rw [selecting] at h
  rw [h]
  rfl

theorem countDown_iff {events : List ConfigureEvent} {n : Nat}
    (h : events.map exposeCount = (List.range n).reverse.map (fun k => some (k % 2 ^ 16))) :
    CountDown events ↔ n ≤ 2 ^ 16 := by
  have hlen : events.length = n := by
    have hl := congrArg List.length h
    simpa using hl
  rw [CountDown, h, hlen]
  constructor
  · intro heq
    by_contra hlt
    have hmem : (some (2 ^ 16 % 2 ^ 16) : Option Nat) = some (2 ^ 16) := by
      have hk := map_inj_left.mp heq (2 ^ 16) (by
        rw [mem_reverse, mem_range]
        omega)
      exact hk
    exact absurd hmem (by decide)
  · intro hle
    apply map_congr_left
    intro k hk
    rw [mem_reverse, mem_range] at hk
    rw [Nat.mod_eq_of_lt (by omega)]

end Arithmetic

section Unmapping

def mappedOf (m : HashMap XId WindowState) (v : XId) : Option Bool := (m.lookup v).map (·.mapped)

/-- The windows that the loop over the children has unmapped so far are the listed
ones, and all of them were mapped before. -/
structure Unmapping (s : ClientState) (acc : ClientState × List XId) : Prop where
  listed : ∀ v ∈ acc.2, mappedOf s.windows v = some true ∧ mappedOf acc.1.windows v = some false
  others : ∀ v, v ∉ acc.2 → mappedOf acc.1.windows v = mappedOf s.windows v

theorem mappedOf_modify (w v : XId) (b : Bool) (m : HashMap XId WindowState) :
    mappedOf (modify w (fun c => { c with mapped := b }) m) v =
      if v = w then (mappedOf m v).map (fun _ => b) else mappedOf m v := by
  rw [mappedOf, mappedOf, lookup_modify]
  split
  · next h =>
    rw [h]
    cases m.lookup w with
    | none => rfl
    | some c => rfl
  · rfl

theorem mappedOf_move (w v : XId) (x y : WindowState → Int) (m : HashMap XId WindowState) :
    mappedOf (modify w (fun c => { c with x := x c, y := y c }) m) v = mappedOf m v := by
  apply lookup_modify_map
  intro c
  rfl

theorem Unmapping.applyGravity {s : ClientState} {acc : ClientState × List XId}
    (h : Unmapping s acc) (dw dh : Int) (child : XId) :
    Unmapping s (Configure.applyGravity dw dh acc child) := by
  rw [Configure.applyGravity]
  dsimp only
  split
  · split
    · next hmpd =>
      have hch : mappedOf acc.1.windows child = some true := by
        rw [mappedOf]
        cases hlook : acc.1.windows.lookup child with
        | none => simp [hlook] at hmpd
        | some c => simpa [hlook] using hmpd
      have hfresh : child ∉ acc.2 := by
        intro hin
        rw [(h.listed child hin).2] at hch
        cases hch
      constructor
      · intro v hv
        dsimp only [updateWindow]
        rw [mappedOf_modify]
        rw [mem_append, mem_singleton] at hv
        obtain hv | rfl := hv
        · have hne : v ≠ child := by
            rintro rfl
            exact hfresh hv
          rw [if_neg hne]
          exact h.listed v hv
        · rw [if_pos rfl, hch, ← h.others v hfresh, hch]
          exact ⟨rfl, rfl⟩
      · intro v hv
        rw [mem_append, mem_singleton, not_or] at hv
        dsimp only [updateWindow]
        rw [mappedOf_modify, if_neg hv.2]
        exact h.others v hv.1
    · exact h
  · split
    · exact h
    · have hsame := fun v => mappedOf_move child v
        (fun c => saturatingAddI16 c.x (Configure.winGravityDelta
          ((acc.1.winGravity.lookup child).getD 1) dw dh).1)
        (fun c => saturatingAddI16 c.y (Configure.winGravityDelta
          ((acc.1.winGravity.lookup child).getD 1) dw dh).2) acc.1.windows
      constructor
      · intro v hv
        exact ⟨(h.listed v hv).1, (hsame v).trans (h.listed v hv).2⟩
      · intro v hv
        exact (hsame v).trans (h.others v hv)

theorem Unmapping.foldl {s : ClientState} (dw dh : Int) (children : List XId)
    {acc : ClientState × List XId} (h : Unmapping s acc) :
    Unmapping s (children.foldl (Configure.applyGravity dw dh) acc) := by
  induction children generalizing acc with
  | nil => exact h
  | cons child children ih => exact ih (h.applyGravity dw dh child)

theorem mappedOf_remap (unmapped : List XId) (s : ClientState) (v : XId) :
    mappedOf (unmapped.foldl (fun s c => updateWindow c (fun c => { c with mapped := true }) s)
      s).windows v = if v ∈ unmapped then (mappedOf s.windows v).map (fun _ => true)
        else mappedOf s.windows v := by
  induction unmapped generalizing s with
  | nil => rfl
  | cons c unmapped ih =>
    rw [foldl_cons, ih, updateWindow, mappedOf_modify]
    by_cases hv : v ∈ unmapped
    · rw [if_pos hv, if_pos (mem_cons_of_mem c hv)]
      split
      · cases mappedOf s.windows v with
        | none => rfl
        | some b => rfl
      · rfl
    · simp only [if_neg hv, mem_cons, or_iff_left hv]

theorem resizeChildren_mapped (children : List XId) (dw dh : Int) (s : ClientState) (v : XId) :
    mappedOf (Configure.resizeChildren children dw dh s).windows v = mappedOf s.windows v := by
  rw [Configure.resizeChildren]
  split
  · rfl
  · have h : Unmapping s (children.foldl (Configure.applyGravity dw dh) (s, [])) :=
      Unmapping.foldl dw dh children ⟨fun v hv => absurd hv not_mem_nil, fun v _ => rfl⟩
    dsimp only
    rw [mappedOf_remap]
    split
    · next hv =>
      rw [(h.listed v hv).1, (h.listed v hv).2]
      rfl
    · next hv => exact h.others v hv

end Unmapping

section Selecting

def exposeKey (w : WindowState) : Bool × XId × XId × Nat := (w.mapped, w.id, w.parent, w.eventMask)

theorem resizeChildren_exposeKey (children : List XId) (dw dh : Int) (s : ClientState) (v : XId) :
    ((Configure.resizeChildren children dw dh s).windows.lookup v).map exposeKey =
      (s.windows.lookup v).map exposeKey := by
  have hmpd := resizeChildren_mapped children dw dh s v
  have hrest := resizeChildren_map (fun w => (w.id, w.parent, w.eventMask)) (fun _ _ _ => rfl)
    (fun _ _ => rfl) children dw dh s v
  rw [mappedOf, mappedOf] at hmpd
  cases hnew : (Configure.resizeChildren children dw dh s).windows.lookup v with
  | none =>
    rw [hnew] at hmpd
    cases hold : s.windows.lookup v with
    | none => rfl
    | some c =>
      rw [hold] at hmpd
      cases hmpd
  | some c' =>
    rw [hnew] at hmpd hrest
    cases hold : s.windows.lookup v with
    | none =>
      rw [hold] at hmpd
      cases hmpd
    | some c =>
      rw [hold] at hmpd hrest
      have hm : c'.mapped = c.mapped := some.inj hmpd
      have hr := some.inj hrest
      rw [map_some, map_some, exposeKey, exposeKey, hm]
      exact congrArg (fun r => some (c.mapped, r)) hr

variable {m m' : HashMap XId WindowState}

theorem isDescendantOf_congr (h : ∀ v, (m'.lookup v).map exposeKey = (m.lookup v).map exposeKey)
    (child target : XId) : isDescendantOf m' child target = isDescendantOf m child target := by
  have hpar : ∀ v, (m'.lookup v).map (·.parent) = (m.lookup v).map (·.parent) := by
    intro v
    have hv := congrArg (Option.map fun k : Bool × XId × XId × Nat => k.2.2.1) (h v)
    simpa [Function.comp_def, exposeKey] using hv
  have hloop : ∀ n current, isDescendantOfLoop m' target n current =
      isDescendantOfLoop m target n current := by
    intro n
    induction n with
    | zero => exact fun current => rfl
    | succ n ih =>
      intro current
      have hc := hpar current
      rw [isDescendantOfLoop, isDescendantOfLoop]
      cases hnew : m'.lookup current with
      | none =>
        rw [hnew] at hc
        cases hold : m.lookup current with
        | none => rfl
        | some c => rw [hold] at hc; cases hc
      | some c' =>
        rw [hnew] at hc
        cases hold : m.lookup current with
        | none => rw [hold] at hc; cases hc
        | some c =>
          rw [hold] at hc
          have hp : c'.parent = c.parent := some.inj hc
          dsimp only
          rw [hp, ih]
  exact hloop maxTreeDepth child

theorem exposedDescendants_length
    (h : ∀ v, (m'.lookup v).map exposeKey = (m.lookup v).map exposeKey) (order : List XId)
    (w : XId) : (exposedDescendants order m' w).length = (exposedDescendants order m w).length := by
  have hkeys : (order.filterMap m'.lookup).map exposeKey =
      (order.filterMap m.lookup).map exposeKey := by
    rw [map_filterMap, map_filterMap]
    exact congrArg (fun f => order.filterMap f) (funext h)
  have hcnt : ∀ n : HashMap XId WindowState, (exposedDescendants order n w).length =
      (((order.filterMap n.lookup).map exposeKey).filter (fun k =>
        k.1 && k.2.1 != w && isDescendantOf n k.2.1 w && k.2.2.2 &&& exposure != 0)).length := by
    intro n
    rw [List.filter_map, List.length_map]
    rfl
  rw [hcnt, hcnt, hkeys]
  simp only [isDescendantOf_congr h]

theorem selecting_congr {s s' : ClientState} (it : Iteration) (w : XId)
    (h : ∀ v, (s'.windows.lookup v).map exposeKey = (s.windows.lookup v).map exposeKey) :
    selecting it s' w = selecting it s w := by
  have hself : windowSelects s' w exposure = windowSelects s w exposure := by
    have hmask := congrArg (Option.map fun k : Bool × XId × XId × Nat => k.2.2.2) (h w)
    have hany : ∀ o : Option WindowState, o.any (fun win => win.eventMask &&& exposure != 0) =
        ((o.map exposeKey).map (fun k : Bool × XId × XId × Nat => k.2.2.2)).any
          (fun mask => mask &&& exposure != 0) := by
      intro o
      cases o with
      | none => rfl
      | some win => rfl
    rw [windowSelects, windowSelects, hany, hany, hmask]
  rw [selecting, selecting, hself, exposedDescendants_length h]

end Selecting

section Handler

variable {checked : Bool} {it : Iteration} {req : ConfigureWindowRequest} {s : ConfigureState}
  {win : WindowState}

theorem announcing_selecting {s' : ConfigureState} {broadcasts : Broadcasts}
    (h : configureStage checked it req win s = some (.announcing s' broadcasts)) (w : XId) :
    selecting it s'.toClientState w = selecting it s.toClientState w :=
  selecting_congr it w (announcing_map exposeKey (fun _ _ _ _ _ _ => rfl) (fun _ _ => rfl)
    resizeChildren_exposeKey h)

theorem restackStage_answered {parentId : XId} {changed : Bool} {t : ConfigureState}
    {broadcasts : Broadcasts} {answer : Outcome}
    (h : restackStage req parentId changed t broadcasts = .answered answer)
    (hok : answer.response = .ok) : changed = false ∧ answer.state = t := by
  rw [restackStage] at h
  split at h
  · dsimp only at h
    split at h
    · cases h
      cases hok
    · cases h
  · split at h
    · cases h
    · next hchgd =>
      cases h
      exact ⟨Bool.not_eq_true _ ▸ hchgd, rfl⟩

/-- A request that is accepted and changes the size comes to the Expose events, with
as many windows that select them as at its start. -/
theorem accepted_resize {outcome : Outcome} {new : WindowState}
    (h : handleConfigureWindow checked it req s = some outcome) (hok : outcome.response = .ok)
    (hwin : s.windows.lookup req.window = some win)
    (hnew : outcome.state.windows.lookup req.window = some new)
    (hsize : new.width ≠ win.width ∨ new.height ≠ win.height) :
    selecting it outcome.state.toClientState req.window =
        selecting it s.toClientState req.window ∧
      ∃ before exposed, exposeEvents checked it outcome.state.toClientState req.window
          new.width new.height = some exposed ∧
        outcome.state.pendingEvents = before ++ exposed.1 := by
  rw [handleConfigureWindow, hwin] at h
  dsimp only at h
  split at h
  · cases h
    rw [hwin] at hnew
    cases hnew
    omega
  · obtain ⟨stage, hstage, hfin⟩ := bind_eq_some_iff.mp h
    cases stage with
    | answered answer =>
      cases hfin
      cases hgeo : (geometryOf s.toClientState req win).2 with
      | some error =>
        rw [configureStage_error hgeo] at hstage
        cases hstage
        exact absurd hok (geometryOf_error hgeo)
      | none =>
        obtain ⟨t, sent, hrestack, -, ht⟩ := configureStage_passed hgeo hstage
        obtain ⟨hkept, rfl⟩ := restackStage_answered hrestack.symm hok
        obtain ⟨-, hst⟩ | ⟨hchgd, -⟩ := ht
        · rw [hst, lookup_editGeometry hwin] at hnew
          cases hnew
          have hnone := keeps_of_not_movesOrResizes hkept
          have hsame := geometryOf_size win hnone.1 hnone.2
          omega
        · rw [hkept] at hchgd
          cases hchgd
    | announcing s' broadcasts =>
      have hcl := (announce_client hfin).1
      rw [hcl] at hnew ⊢
      refine ⟨announcing_selecting hstage req.window, ?_⟩
      obtain ⟨notified, -, -, ⟨hw, hh, -⟩ | ⟨-, exposed, hexpd, hst⟩⟩ :=
        announce_eq_some hnew hfin
      · omega
      · exact ⟨notified.1.pendingEvents, exposed, hexpd, by rw [hst]⟩

/-- The counts go down to 0 without underflow just where at least one window and at
most 65536 of them select Exposure. -/
theorem exposeCounts_iff (checked : Bool) (it : Iteration) (req : ConfigureWindowRequest)
    (s : ConfigureState) (outcome : Outcome) (win new : WindowState)
    (h : handleConfigureWindow checked it req s = some outcome) (hok : outcome.response = .ok)
    (hwin : s.windows.lookup req.window = some win)
    (hnew : outcome.state.windows.lookup req.window = some new)
    (hsize : new.width ≠ win.width ∨ new.height ≠ win.height) :
    (∃ events sent before, exposeEvents true it outcome.state.toClientState req.window
        new.width new.height = some (events, sent) ∧
      outcome.state.pendingEvents = before ++ events ∧ CountDown events) ↔
      1 ≤ selecting it s.toClientState req.window ∧
        selecting it s.toClientState req.window ≤ 2 ^ 16 := by
  obtain ⟨hselg, before, exposed, hexpd, hpend⟩ :=
    accepted_resize h hok hwin hnew hsize
  rw [← hselg]
  constructor
  · rintro ⟨events, sent, before', hevs, -, hcts⟩
    have hone : 1 ≤ selecting it outcome.state.toClientState req.window := by
      by_contra hzero
      rw [exposeEvents_underflow (by omega)] at hevs
      cases hevs
    obtain ⟨events', sent', hevs', hcts'⟩ :=
      exposeEvents_counts true hone new.width new.height
    rw [hevs'] at hevs
    cases hevs
    exact ⟨hone, (countDown_iff hcts').mp hcts⟩
  · rintro ⟨hone, hmany⟩
    obtain ⟨events, sent, hevs, hcts⟩ := exposeEvents_counts true hone new.width new.height
    have hsame := exposeEvents_of_checked checked hevs
    rw [hexpd] at hsame
    cases hsame
    exact ⟨events, sent, before, hevs, hpend, (countDown_iff hcts).mpr hmany⟩

end Handler

def createExposed : CreateWindowRequest :=
  { depth := 0, wid := 0x400001, parent := rootWindow, x := 0, y := 0, width := 1, height := 1,
    borderWidth := 0, winClass := 0, visual := 0, eventMask := some exposure }

/-- A window with a mapped child, both selecting Exposure. -/
def drawn : ConfigureState :=
  let s := (handleCreateWindow 0 createExposed (acceptState ∅ 0 loneClient)).1
  let s := (handleCreateWindow 0 { createExposed with wid := 0x400002, parent := 0x400001 } s).1
  { s with windows := HashMaps.modify 0x400002 (fun win => { win with mapped := true }) s.windows }

def widen (w : XId) : ConfigureWindowRequest where
  window := w
  width := some 2

def order : Iteration := ⟨serverIds ++ [0x400001, 0x400002], []⟩

theorem exposeCounts_widen : ∃ outcome events sent before,
    handleConfigureWindow false order (widen 0x400001) drawn = some outcome ∧
      exposeEvents true order outcome.state.toClientState 0x400001 2 1 = some (events, sent) ∧
      outcome.state.pendingEvents = before ++ events ∧ CountDown events := by
  obtain ⟨outcome, h, hcl⟩ := handleConfigureWindow_refines order (widen 0x400001) drawn
  have hst := congrArg Prod.fst hcl
  have hok : outcome.response = .ok := (congrArg Prod.snd hcl).trans rfl
  obtain ⟨old, hold, hwd⟩ := Option.map_eq_some_iff.mp
    (show (drawn.windows.lookup 0x400001).map (·.width) = some 1 by decide +kernel)
  obtain ⟨new, hnew, hsize⟩ : ∃ new, outcome.state.windows.lookup 0x400001 = some new ∧
      (new.width, new.height) = (2, 1) := by
    dsimp only at hst
    rw [hst]
    exact Option.map_eq_some_iff.mp (by decide +kernel)
  obtain ⟨hwd', hht'⟩ := Prod.mk.inj hsize
  obtain ⟨events, sent, before, hexp, hpend, hcts⟩ :=
    (exposeCounts_iff false order (widen 0x400001) drawn outcome old new h hok hold hnew
      (.inl (by rw [hwd, hwd']; decide))).mpr (by decide +kernel)
  rw [hwd', hht'] at hexp
  exact ⟨outcome, events, sent, before, h, hexp, hpend, hcts⟩

/-- With nobody selecting Exposure the first difference underflows: a build with
overflow checks stops, the other one sends a count of 65535. -/
theorem exposeEvents_unselected :
    handleConfigureWindow true order (widen 0x400001)
        (handleCreateWindow 0 { createExposed with eventMask := none }
          (acceptState ∅ 0 loneClient)).1 = none ∧
      (handleConfigureWindow false order (widen 0x400001)
        (handleCreateWindow 0 { createExposed with eventMask := none }
          (acceptState ∅ 0 loneClient)).1).map (fun outcome => outcome.broadcasts.getLast?) =
        some (some (.subscribers 0x400001 exposure, .expose 0x400001 2 1 65535)) := by
  constructor
  · rfl
  · rfl

end X11Web.ExposeCounts
