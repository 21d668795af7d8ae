import X11Web.Configure
import X11Web.CreateDestroy
import X11Web.Runs
import X11Web.SyncWindows

namespace X11Web.Links

open List Option Finmap

open HashMaps LinkedForest Windows WindowTree Stacking
  X11Web.CreateDestroy X11Web.MapReparent X11Web.Configure X11Web.SyncWindows X11Web.Runs

variable {s s' : ClientState}

inductive WindowRequest
  | createWindow (req : CreateWindowRequest)
  | reparentWindow (req : ReparentWindowRequest)
  | configureWindow (req : ConfigureWindowRequest)
  | circulateWindow (direction : Nat) (window : XId)
  | destroyWindow (window : XId)
  | destroySubwindows (window : XId)

/-- The window handlers. The order and the fuel are those of the scan and the
descendant loop of the destroy handlers. -/
def handleWindowRequest (order : List XId) (fuel : Nat) (s : ClientState) :
    WindowRequest → Option (ClientState × Response)
  | .createWindow req => some (handleCreateWindow req s)
  | .reparentWindow req => some (handleReparentWindow req s)
  | .configureWindow req => some (handleConfigureWindow req s)
  | .circulateWindow direction window => some (handleCirculateWindow direction window s)
  | .destroyWindow window => handleDestroyWindow fuel window s
  | .destroySubwindows window => handleDestroySubwindows order fuel window s

/-- One round of the request loop: the handler comes to its end, then
`sync_windows` runs. -/
def WindowStep (s : ClientState) (req : WindowRequest) (s' : ClientState) : Prop :=
  ∃ order fuel mid r sharedOrder, Enumerates order s.windows ∧
    handleWindowRequest order fuel s req = some (mid, r) ∧
    Enumerates sharedOrder mid.shared.windows ∧ s' = syncWindows sharedOrder mid

/-- Run a script of requests under the iteration orders it gives. -/
def execScript (fuel : Nat) (s : ClientState) :
    List (WindowRequest × List XId × List XId) → Option ClientState
  | [] => some s
  | (req, order, sharedOrder) :: script =>
    if Enumerates order s.windows then
      (handleWindowRequest order fuel s req).bind fun p =>
        if Enumerates sharedOrder p.1.shared.windows then
          execScript fuel (syncWindows sharedOrder p.1) script
        else none
    else none

theorem execScript_guardedRun {P : ClientState → WindowRequest → Prop} {fuel : Nat}
    {script : List (WindowRequest × List XId × List XId)} (h : execScript fuel s script = some s')
    (hP : ∀ k e, script[k]? = some e → ∀ mid, execScript fuel s (script.take k) = some mid → P mid e.1) :
    Run (guarded P WindowStep) s (script.map (·.1)) s' := by
  induction script generalizing s with
  | nil =>
    obtain rfl := some.inj h
    exact .nil s
  | cons entry script ih =>
    obtain ⟨req, order, sharedOrder⟩ := entry
    have hgrd := hP 0 _ rfl s rfl
    simp only [execScript] at h
    split at h
    · next hord =>
      obtain ⟨⟨mid, r⟩, hhdl, h⟩ := bind_eq_some_iff.mp h
      split at h
      · next hshd =>
        refine .cons ⟨hgrd, order, fuel, mid, r, sharedOrder, hord, hhdl, hshd, rfl⟩ (ih h fun k e he t ht => ?_)
        exact hP (k + 1) e he t (by simpa [execScript, hord, hhdl, hshd] using ht)
      · simp at h
    · simp at h

structure LinksAgree (m : HashMap XId WindowState) : Prop where
  up : ∀ w win, m.lookup w = some win → w ≠ rootWindow →
    ∃ p, m.lookup win.parent = some p ∧ p.childrenOrder.count w = 1
  down : ∀ p win, m.lookup p = some win → ∀ c ∈ win.childrenOrder,
    ∃ child, m.lookup c = some child ∧ child.parent = p

theorem linksAgree_iff (m : HashMap XId WindowState) :
    LinksAgree m ↔ Agree rootWindow (links m) := by
  constructor
  · intro h
    constructor
    · intro w n hn hw
      obtain ⟨win, hwin, rfl⟩ := map_eq_some_iff.mp hn
      obtain ⟨p, hp, hcnt⟩ := h.up w win hwin hw
      exact ⟨⟨p.parent, p.childrenOrder⟩, by simp [links, hp], hcnt⟩
    · intro p n hn c hc
      obtain ⟨win, hwin, rfl⟩ := map_eq_some_iff.mp hn
      obtain ⟨child, hch, hpar⟩ := h.down p win hwin c hc
      exact ⟨⟨child.parent, child.childrenOrder⟩, by simp [links, hch], hpar⟩
  · intro h
    constructor
    · intro w win hwin hw
      obtain ⟨n, hn, hcnt⟩ := h.up w ⟨win.parent, win.childrenOrder⟩ (by simp [links, hwin]) hw
      obtain ⟨p, hp, rfl⟩ := map_eq_some_iff.mp hn
      exact ⟨p, hp, hcnt⟩
    · intro p win hwin c hc
      obtain ⟨n, hn, hpar⟩ :=
        h.down p ⟨win.parent, win.childrenOrder⟩ (by simp [links, hwin]) c hc
      obtain ⟨child, hch, rfl⟩ := map_eq_some_iff.mp hn
      exact ⟨child, hch, hpar⟩

/-- What the handlers forget: DestroySubwindows leaves the destroyed children in
the list of their parent, and CreateWindow takes a destroyed root for a parent. -/
def KeepsLinks (s : ClientState) : WindowRequest → Prop
  | .createWindow req => createWindowError s req = none → req.parent ∈ s.windows
  | .destroySubwindows window =>
    window ∈ s.windows → ∀ v win, s.windows.lookup v = some win → win.parent ≠ window
  | _ => True

theorem mem_of_owner (h : ∀ v, (s'.windows.lookup v).map (·.ownerClientId) =
      (s.windows.lookup v).map (·.ownerClientId)) (v : XId) : v ∈ s'.windows ↔ v ∈ s.windows := by
  have hv := congrArg Option.isSome (h v)
  rw [isSome_map, isSome_map] at hv
  rw [← lookup_isSome, ← lookup_isSome, hv]

theorem solo_of_owner (h : Solo s)
    (hown : ∀ v, (s'.windows.lookup v).map (·.ownerClientId) =
      (s.windows.lookup v).map (·.ownerClientId))
    (hshd : ∀ v, v ∈ s'.shared.windows → v ∈ s.shared.windows)
    (hcl : s'.clientId = s.clientId) : Solo s' := by
  constructor
  · intro w o ho
    rw [hown] at ho
    rw [hcl]
    exact h.own w o ho
  · intro w hw
    rw [mem_of_owner hown]
    exact h.shared w (hshd w hw)

theorem Rearranged.solo (hr : Rearranged s s') (h : Solo s) : Solo s' :=
  solo_of_owner h hr.owner hr.shared hr.clientId

theorem Reparented.solo {window parent : XId} (hr : Reparented window parent s s') (h : Solo s) :
    Solo s' := by
  obtain ⟨p, mid, -, -, hown, hshd, hcl, hmap⟩ := hr.relinked
  exact Rearranged.solo hmap (solo_of_owner h hown (fun v hv => hshd ▸ hv) hcl)

theorem Created.solo {req : CreateWindowRequest} (hc : Created req s s') (h : Solo s) :
    Solo s' := by
  constructor
  · intro w o ho
    rw [hc.owner] at ho
    rw [hc.clientId]
    split at ho
    · exact .inr (some.inj ho).symm
    · exact h.own w o ho
  · intro w hw
    have hmem := h.shared w (hc.shared w hw)
    have hown := hc.owner w
    rw [← lookup_isSome] at hmem ⊢
    rw [← isSome_map (f := (·.ownerClientId)), hown]
    split
    · rfl
    · rwa [isSome_map]

theorem Destroyed.solo {wid : XId} (hd : Destroyed wid s s') (h : Solo s) : Solo s' := by
  obtain ⟨p, r, fuel, -, -, hlinks, hshd⟩ := hd.pruned
  constructor
  · intro w o ho
    rw [hd.clientId]
    exact h.own w o (hd.owner w o ho)
  · intro w hw
    obtain ⟨hmem, hr, hne⟩ := hshd w hw
    have hsome := (links_isSome s.windows w).mpr (h.shared w hmem)
    rw [← links_isSome, hlinks, prune_apply, if_neg (not_or.mpr ⟨hr, hne⟩)]
    split
    · rwa [isSome_map]
    · exact hsome

theorem handleDestroySubwindows_childless {order : List XId} {fuel : Nat} {window : XId}
    {mid : ClientState} {r : Response}
    (hchildless : window ∈ s.windows →
      ∀ v win, s.windows.lookup v = some win → win.parent ≠ window)
    (h : handleDestroySubwindows order fuel window s = some (mid, r)) : mid = s := by
  rw [handleDestroySubwindows] at h
  cases hwin : s.windows.lookup window with
  | none =>
    simp only [hwin, some.injEq, Prod.mk.injEq] at h
    exact h.1.symm
  | some win =>
    have hscan : childrenByScan order s.windows window = [] := by
      apply filterMap_eq_nil_iff.mpr
      intro k _
      cases hk : s.windows.lookup k with
      | none => rfl
      | some child =>
        simp [hchildless (mem_of_lookup_eq_some hwin) k child hk]
    have hdone : collect (childrenByScan order s.windows) fuel
        (childrenByScan order s.windows window).reverse [] = some [] := by
      rw [hscan]
      cases fuel <;> rfl
    simp only [hwin, hdone, some.injEq, Prod.mk.injEq, foldl_nil, not_mem_nil,
      if_false] at h
    exact h.1.symm

theorem handleWindowRequest_agree {order : List XId} {fuel : Nat} {req : WindowRequest}
    {mid : ClientState} {r : Response} (hsolo : Solo s) (hs : Agree rootWindow (links s.windows))
    (hgrd : KeepsLinks s req) (h : handleWindowRequest order fuel s req = some (mid, r)) :
    Solo mid ∧ Agree rootWindow (links mid.windows) := by
  cases req with
  | createWindow req =>
    obtain rfl : mid = (handleCreateWindow req s).1 := (congrArg Prod.fst (some.inj h)).symm
    obtain heq | ⟨herr, hc⟩ := handleCreateWindow_cases req s
    · rw [heq]
      exact ⟨hsolo, hs⟩
    · refine ⟨Created.solo hc hsolo, ?_⟩
      rw [hc.links]
      apply hs.attach ((links_eq_none _ _).mpr hc.fresh)
      exact (links_isSome _ _).mpr (hgrd herr)
  | reparentWindow req =>
    obtain rfl : mid = (handleReparentWindow req s).1 := (congrArg Prod.fst (some.inj h)).symm
    obtain heq | hr := handleReparentWindow_cases req s
    · rw [heq]
      exact ⟨hsolo, hs⟩
    · obtain ⟨p, relinked, hp, hlinks, -, -, -, hmap⟩ := hr.relinked
      refine ⟨Reparented.solo hr hsolo, hmap.agree ?_⟩
      rw [hlinks]
      exact hs.relink hp ((links_isSome _ _).mpr hr.present)
  | configureWindow req =>
    have hmid : mid = (handleConfigureWindow req s).1 :=
      (congrArg Prod.fst (some.inj h)).symm
    have hr := handleConfigureWindow_rearranged req s
    rw [← hmid] at hr
    exact ⟨Rearranged.solo hr hsolo, hr.agree hs⟩
  | circulateWindow direction window =>
    have hmid : mid = (handleCirculateWindow direction window s).1 :=
      (congrArg Prod.fst (some.inj h)).symm
    have hr := handleCirculateWindow_rearranged direction window s
    rw [← hmid] at hr
    exact ⟨Rearranged.solo hr hsolo, hr.agree hs⟩
  | destroyWindow window =>
    obtain rfl | hd := handleDestroyWindow_cases h
    · exact ⟨hsolo, hs⟩
    · obtain ⟨p, ds, n, hp, hcol, hlinks, -⟩ := hd.pruned
      refine ⟨Destroyed.solo hd hsolo, ?_⟩
      rw [hlinks]
      exact hs.prune hp (collect_subtree hcol)
  | destroySubwindows window =>
    obtain rfl := handleDestroySubwindows_childless hgrd h
    exact ⟨hsolo, hs⟩

theorem windowStep_agree {req : WindowRequest} (hsolo : Solo s)
    (hs : Agree rootWindow (links s.windows)) (hgrd : KeepsLinks s req)
    (hstep : WindowStep s req s') : Solo s' ∧ Agree rootWindow (links s'.windows) := by
  obtain ⟨order, fuel, mid, r, sharedOrder, -, hhdl, hord, rfl⟩ := hstep
  obtain ⟨hsolo', hs'⟩ := handleWindowRequest_agree hsolo hs hgrd hhdl
  refine ⟨hsolo'.syncWindows hord, ?_⟩
  rwa [hsolo'.syncWindows_windows hord]

variable (props : XId → HashMap Atom PropertyValue)

theorem links_initialWindows (w : XId) : links (initialWindows props) w =
      if w = rootWindow then
        some ⟨0, [wmCheckWindow, xsettingsWindow, systemTrayWindow, ximWindow]⟩
      else if w ∈ [wmCheckWindow, xsettingsWindow, systemTrayWindow, ximWindow] then
        some ⟨rootWindow, []⟩
      else none := by
  simp only [initialWindows, links_insert, Function.update_apply, mem_cons, not_mem_nil,
    or_false]
  by_cases hroot : w = rootWindow
  · subst w
    simp [rootWindow, ximWindow, systemTrayWindow, xsettingsWindow, wmCheckWindow, links,
      lookup_singleton_eq, rootRecord]
  · have hnone : links (Finmap.singleton rootWindow (rootRecord (props rootWindow))) w = none := by
      rw [links_eq_none, Finmap.mem_singleton]
      exact hroot
    by_cases hx : w = ximWindow
    · simp [hx, serverWindow, ximWindow, rootWindow]
    · by_cases ht : w = systemTrayWindow
      · simp [ht, serverWindow, ximWindow, systemTrayWindow, rootWindow]
      · by_cases hs : w = xsettingsWindow
        · simp [hs, serverWindow, ximWindow, systemTrayWindow, xsettingsWindow, rootWindow]
        · by_cases hc : w = wmCheckWindow
          · simp [hc, serverWindow, ximWindow, systemTrayWindow, xsettingsWindow, wmCheckWindow,
              rootWindow]
          · simp [hroot, hx, ht, hs, hc, hnone]

theorem initialWindows_agree : Agree rootWindow (links (initialWindows props)) := by
  have hroot : links (initialWindows props) rootWindow =
      some ⟨0, [wmCheckWindow, xsettingsWindow, systemTrayWindow, ximWindow]⟩ := by
    rw [links_initialWindows, if_pos rfl]
  constructor
  · intro w n hn hw
    rw [links_initialWindows, if_neg hw] at hn
    split at hn
    · next hmem =>
      obtain rfl := some.inj hn
      refine ⟨_, hroot, count_eq_one_of_mem ?_ hmem⟩
      decide
    · simp at hn
  · intro p n hn c hc
    rw [links_initialWindows] at hn
    split at hn
    · next hp =>
      subst p
      obtain rfl := some.inj hn
      refine ⟨⟨rootWindow, []⟩, ?_, rfl⟩
      rw [links_initialWindows, if_pos hc, if_neg]
      rintro rfl
      revert hc
      decide
    · split at hn
      · obtain rfl := some.inj hn
        simp at hc
      · simp at hn

theorem initialWindows_owner (w : XId) (win : WindowState)
    (h : (initialWindows props).lookup w = some win) : win.ownerClientId = none := by
  simp only [initialWindows, lookup_insert_eq] at h
  split at h
  · obtain rfl := some.inj h
    rfl
  · split at h
    · obtain rfl := some.inj h
      rfl
    · split at h
      · obtain rfl := some.inj h
        rfl
      · split at h
        · obtain rfl := some.inj h
          rfl
        · obtain rfl := (Finmap.mem_singleton _ _ _).mp (mem_of_lookup_eq_some h)
          rw [lookup_singleton_eq] at h
          obtain rfl := some.inj h
          rfl

/-- A lone client starts from the initial map, whatever else is registered. -/
structure Starts (s : ClientState) : Prop where
  windows : ∃ props, s.windows = initialWindows props
  shared : s.shared.windows = s.windows

theorem Starts.solo (h : Starts s) : Solo s := by
  obtain ⟨props, hprops⟩ := h.windows
  constructor
  · intro w o ho
    obtain ⟨win, hwin, rfl⟩ := map_eq_some_iff.mp ho
    rw [hprops] at hwin
    exact .inl (initialWindows_owner props w win hwin)
  · intro w hw
    rwa [h.shared] at hw

theorem Starts.agree (h : Starts s) : Agree rootWindow (links s.windows) := by
  obtain ⟨props, hprops⟩ := h.windows
  rw [hprops]
  exact initialWindows_agree props

/-- In a run that avoids the two forgotten updates the parent links and the
child lists agree in every state. -/
theorem guardedRun_linksAgree (reqs : List WindowRequest) (s s' : ClientState) (hs : Starts s)
    (hrun : Run (guarded KeepsLinks WindowStep) s reqs s') : LinksAgree s'.windows := by
  have hinv : Solo s' ∧ Agree rootWindow (links s'.windows) :=
    hrun.invariant (I := fun s => Solo s ∧ Agree rootWindow (links s.windows))
      (fun s a s' h hstep => windowStep_agree h.1 h.2 hstep.1 hstep.2) ⟨hs.solo, hs.agree⟩
  exact (linksAgree_iff s'.windows).mpr hinv.2

def loneClient : ClientState := acceptClient 1 false 0 0 [] (initialShared (fun _ => ∅) ∅)

theorem loneClient_starts : Starts loneClient := ⟨⟨fun _ => ∅, rfl⟩, rfl⟩

def serverIds : List XId :=
  [rootWindow, wmCheckWindow, xsettingsWindow, systemTrayWindow, ximWindow]

def createPlain (wid parent : XId) : CreateWindowRequest where
  depth := 0
  wid := wid
  parent := parent
  x := 0
  y := 0
  width := 1
  height := 1
  borderWidth := 0
  winClass := 0
  visual := 0

/-- Two windows, the one put into the other and destroyed with it. -/
def nestedScript : List (WindowRequest × List XId × List XId) :=
  let one := 0x400001 :: serverIds
  let both := 0x400002 :: one
  [(.createWindow (createPlain 0x400001 rootWindow), serverIds, serverIds),
    (.createWindow (createPlain 0x400002 rootWindow), one, one),
    (.reparentWindow ⟨0x400002, 0x400001, 0, 0⟩, both, both), (.destroyWindow 0x400001, both, serverIds)]

theorem guardedRun_linksAgree_nested :
    ∃ s', Run (guarded KeepsLinks WindowStep) loneClient (nestedScript.map (·.1)) s' ∧ LinksAgree s'.windows := by
  have hends : (execScript 5 loneClient nestedScript).isSome := by decide +kernel
  obtain ⟨s', hs'⟩ := Option.isSome_iff_exists.mp hends
  have hrun : Run (guarded KeepsLinks WindowStep) loneClient (nestedScript.map (·.1)) s' := by
    refine execScript_guardedRun hs' fun k e he mid hmid => ?_
    have hroot : ∀ k < 2, ∀ mid ∈ execScript 5 loneClient (nestedScript.take k), rootWindow ∈ mid.windows := by
      decide +kernel
    rcases k with _ | _ | _ | _ | k <;> cases he
    · exact fun _ => hroot 0 (by omega) mid hmid
    · exact fun _ => hroot 1 (by omega) mid hmid
    · trivial
    · trivial
  exact ⟨s', hrun, guardedRun_linksAgree _ _ _ loneClient_starts hrun⟩

/-- Two nested windows, then DestroySubwindows on the outer one. -/
def destroySubwindowsScript : List (WindowRequest × List XId × List XId) :=
  [(.createWindow (createPlain 0x400001 rootWindow), serverIds, serverIds),
    (.createWindow (createPlain 0x400002 0x400001), 0x400001 :: serverIds,
      0x400001 :: serverIds),
    (.destroySubwindows 0x400001, 0x400002 :: 0x400001 :: serverIds, 0x400001 :: serverIds)]

theorem destroySubwindows_breaks_links :
    ¬ ∀ reqs s s', Starts s → Run WindowStep s reqs s' → LinksAgree s'.windows := by
  intro h
  have hexec : (execScript 5 loneClient destroySubwindowsScript).map (fun s =>
      ((s.windows.lookup 0x400001).map (·.childrenOrder), s.windows.lookup 0x400002)) =
      some (some [0x400002], none) := by
    decide +kernel
  obtain ⟨s', hs', hfinal⟩ := map_eq_some_iff.mp hexec
  obtain ⟨hlist, hgone⟩ := Prod.mk.inj hfinal
  obtain ⟨win, hwin, hchs⟩ := map_eq_some_iff.mp hlist
  have hrun := (execScript_guardedRun (P := fun _ _ => True) hs' fun _ _ _ _ _ => trivial).mono fun _ _ _ h => h.2
  obtain ⟨child, hch, -⟩ := (h _ _ s' loneClient_starts hrun).down
    0x400001 win hwin 0x400002 (by simp [hchs])
  rw [hgone] at hch
  simp at hch

end X11Web.Links
