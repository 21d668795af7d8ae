import X11Web.Links

namespace X11Web.Acyclic

open List

open HashMaps LinkedForest RootedForest Windows WindowTree
  X11Web.Stacking X11Web.CreateDestroy X11Web.MapReparent X11Web.SyncWindows X11Web.Runs X11Web.Links

variable {s s' : ClientState}

def TreeRequest : WindowRequest → Prop
  | .createWindow _ | .reparentWindow _ | .destroyWindow _ => True
  | _ => False

/-- The cycle check of ReparentWindow climbs 128 levels from the new parent, so
the window must not be further above it than that. The ids 0 and root can be
created only by a connection whose id base has wrapped to 0. -/
def KeepsAcyclic (s : ClientState) : WindowRequest → Prop
  | .createWindow req => createWindowError s req = none → req.wid ≠ 0 ∧ req.wid ≠ rootWindow
  | .reparentWindow req =>
    ∀ d, ancestor (links s.windows) d req.parent = some req.window → d ≤ maxTreeDepth
  | .destroyWindow _ => True
  | _ => False

/-- Every window climbs to the root, and DestroyWindow comes to its end on
every window. -/
structure AcyclicTree (s : ClientState) : Prop where
  climbs : ∀ w, w ∈ s.windows → ∃ k, ancestor (links s.windows) k w = some rootWindow
  destroys : ∀ w, ∃ fuel, (handleDestroyWindow fuel w s).isSome

theorem handleDestroyWindow_isSome {fuel : Nat} {w : XId} {r : List XId}
    (h : collect (childrenIn (links s.windows)) fuel (childrenIn (links s.windows) w).reverse [] =
      some r) : (handleDestroyWindow fuel w s).isSome := by
  rw [handleDestroyWindow]
  cases s.windows.lookup w with
  | none => rfl
  | some win =>
    dsimp only
    rw [childrenOf_eq, (Ewmh.revertFocusFrom_sameTree w s).links, h]
    rfl

theorem links_finite (m : HashMap XId WindowState) : {w | (links m w).isSome}.Finite := by
  apply m.keys.finite_toSet.subset
  intro w hw
  exact Finmap.mem_keys.mpr ((links_isSome m w).mp hw)

theorem acyclicTree_of_rooted (h : Rooted rootWindow 0 (links s.windows)) : AcyclicTree s := by
  constructor
  · intro w hw
    exact h.climbs w ((links_isSome _ _).mpr hw)
  · intro w
    obtain ⟨fuel, r, hr⟩ := (h.finishes (links_finite s.windows) w).collect []
    exact ⟨fuel, handleDestroyWindow_isSome hr⟩

theorem initialWindows_rooted (props : XId → HashMap Atom PropertyValue) :
    Rooted rootWindow 0 (links (initialWindows props)) := by
  have hagr := initialWindows_agree props
  have hcnt := hagr.counted
  have hpar : ∀ w, parentOf (links (initialWindows props)) w =
      if w = rootWindow then some 0
      else if w ∈ [wmCheckWindow, xsettingsWindow, systemTrayWindow, ximWindow] then
        some rootWindow
      else none := by
    intro w
    rw [parentOf, links_initialWindows]
    split
    · rfl
    · split <;> rfl
  refine ⟨fun p c => hagr.parentOf_listed, ?_, ?_, ?_, ?_, by decide⟩
  · intro c p hc hp _
    rw [hcnt.count p c hc, if_pos hp]
    decide
  · intro w hw
    rw [links_initialWindows] at hw
    by_cases hroot : w = rootWindow
    · exact ⟨0, by rw [hroot]; rfl⟩
    · refine ⟨1, ancestor_succ.mpr ⟨rootWindow, ?_, rfl⟩⟩
      rw [hpar, if_neg hroot, if_pos]
      by_contra hmem
      simp [hroot, hmem] at hw
  · intro p hp
    rw [hpar, if_pos rfl] at hp
    exact (Option.some.inj hp).symm
  · rw [links_initialWindows, if_neg (by decide), if_neg (by decide)]

theorem handleWindowRequest_rooted {order : List XId} {fuel : Nat} {req : WindowRequest}
    {mid : ClientState} {r : Response} (hsolo : Solo s)
    (hs : Rooted rootWindow 0 (links s.windows)) (hgrd : KeepsAcyclic s req)
    (h : handleWindowRequest order fuel s req = some (mid, r)) :
    Solo mid ∧ Rooted rootWindow 0 (links mid.windows) := by
  cases req with
  | createWindow req =>
    obtain rfl : mid = (handleCreateWindow req s).1 := (congrArg Prod.fst (Option.some.inj h)).symm
    obtain heq | ⟨herr, hc⟩ := handleCreateWindow_cases req s
    · rw [heq]
      exact ⟨hsolo, hs⟩
    · obtain ⟨hzero, hroot⟩ := hgrd herr
      refine ⟨Created.solo hc hsolo, ?_⟩
      rw [hc.links]
      apply hs.attach ((links_eq_none _ _).mpr hc.fresh) hroot hzero
      rw [links_isSome]
      obtain hp | hp | hp := hc.parent
      · exact .inl hp
      · exact .inl (hsolo.shared _ hp)
      · exact .inr hp
  | reparentWindow req =>
    obtain rfl : mid = (handleReparentWindow req s).1 := (congrArg Prod.fst (Option.some.inj h)).symm
    obtain heq | hr := handleReparentWindow_cases req s
    · rw [heq]
      exact ⟨hsolo, hs⟩
    · obtain ⟨p, relinked, hp, hlinks, -, -, -, hmap⟩ := hr.relinked
      refine ⟨Reparented.solo hr hsolo, hmap.rooted ?_⟩
      rw [hlinks]
      apply hs.relink hp ((links_isSome _ _).mpr hr.present)
      intro k hk
      cases k with
      | zero => exact hr.apart (Option.some.inj hk).symm
      | succ d =>
        have hlt : d < maxTreeDepth := hgrd (d + 1) hk
        have hdesc := isDescendantOf_of_ancestor ((links_eq_none _ _).mp hs.absent) hlt hk
        rw [hr.checked] at hdesc
        exact absurd hdesc (by decide)
  | destroyWindow window =>
    obtain rfl | hd := handleDestroyWindow_cases h
    · exact ⟨hsolo, hs⟩
    · obtain ⟨p, ds, n, hp, hcol, hlinks, -⟩ := hd.pruned
      refine ⟨Destroyed.solo hd hsolo, ?_⟩
      rw [hlinks]
      exact hs.prune hp (collect_subtree hcol)
  | configureWindow _ => exact hgrd.elim
  | circulateWindow _ _ => exact hgrd.elim
  | destroySubwindows _ => exact hgrd.elim

theorem windowStep_rooted {req : WindowRequest} (hsolo : Solo s)
    (hs : Rooted rootWindow 0 (links s.windows)) (hgrd : KeepsAcyclic s req)
    (hstep : WindowStep s req s') : Solo s' ∧ Rooted rootWindow 0 (links s'.windows) := by
  obtain ⟨order, fuel, mid, r, sharedOrder, -, hhdl, hord, rfl⟩ := hstep
  obtain ⟨hsolo', hs'⟩ := handleWindowRequest_rooted hsolo hs hgrd hhdl
  refine ⟨hsolo'.syncWindows hord, ?_⟩
  rwa [hsolo'.syncWindows_windows hord]

/-- Without a ReparentWindow below the reach of its cycle check, every state is
a tree on which the destroy loop ends. -/
theorem guardedRun_acyclicTree (reqs : List WindowRequest) (s s' : ClientState) (hs : Starts s)
    (hrun : Run (guarded KeepsAcyclic WindowStep) s reqs s') : AcyclicTree s' := by
  have hst : Rooted rootWindow 0 (links s.windows) := by
    obtain ⟨props, hprops⟩ := hs.windows
    rw [hprops]
    exact initialWindows_rooted props
  have hinv : Solo s' ∧ Rooted rootWindow 0 (links s'.windows) :=
    hrun.invariant (I := fun s => Solo s ∧ Rooted rootWindow 0 (links s.windows))
      (fun s a s' h hstep => windowStep_rooted h.1 h.2 hstep.1 hstep.2) ⟨hs.solo, hst⟩
  exact acyclicTree_of_rooted hinv.2

theorem guardedRun_acyclicTree_nested :
    ∃ s', Run (guarded KeepsAcyclic WindowStep) loneClient (nestedScript.map (·.1)) s' ∧ AcyclicTree s' := by
  have hends : (execScript 5 loneClient nestedScript).isSome := by decide +kernel
  obtain ⟨s', hs'⟩ := Option.isSome_iff_exists.mp hends
  have hrun : Run (guarded KeepsAcyclic WindowStep) loneClient (nestedScript.map (·.1)) s' := by
    refine execScript_guardedRun hs' fun k e he mid hmid => ?_
    rcases k with _ | _ | _ | _ | k <;> cases he
    · exact fun _ => by decide
    · exact fun _ => by decide
    · -- the way up from the new parent goes over the root, past which nothing is
      have hpars : ∀ mid ∈ execScript 5 loneClient (nestedScript.take 2),
          (mid.windows.lookup 0x400001).map (·.parent) = some rootWindow ∧
            (mid.windows.lookup rootWindow).map (·.parent) = some 0 ∧
            (mid.windows.lookup 0).map (·.parent) = none := by
        decide +kernel
      simp only [← parentOf_links] at hpars
      obtain ⟨hwin, hroot, hnone⟩ := hpars mid hmid
      rintro (_ | _ | _ | d) hd
      iterate 3 exact by decide
      · obtain ⟨p, hp, hd⟩ := ancestor_succ.mp hd
        obtain ⟨q, hq, hd⟩ := ancestor_succ.mp hd
        obtain ⟨r, hr, -⟩ := ancestor_succ.mp hd
        obtain rfl := Option.some.inj (hwin.symm.trans hp)
        obtain rfl := Option.some.inj (hroot.symm.trans hq)
        rw [hnone] at hr
        cases hr
    · trivial
  exact ⟨s', hrun, guardedRun_acyclicTree _ _ _ loneClient_starts hrun⟩

def chainId : Nat → XId
  | 0 => rootWindow
  | n + 1 => 0x400001 + n

theorem chainId_injective {i j : Nat} (h : chainId i = chainId j) : i = j := by
  cases i with
  | zero =>
    cases j with
    | zero => rfl
    | succ j =>
      have hid : (0x62 : Nat) = 0x400001 + j := h
      omega
  | succ i =>
    cases j with
    | zero =>
      have hid : 0x400001 + i = (0x62 : Nat) := h
      omega
    | succ j =>
      have hid : 0x400001 + i = 0x400001 + j := h
      omega

theorem chainId_notMem_serverIds (n : Nat) : chainId (n + 1) ∉ serverIds := by
  intro h
  have hsmall : ∀ w ∈ serverIds, w < 0x400001 := by decide
  have hid : 0x400001 + n < 0x400001 := hsmall _ h
  omega

/-- The client has built a chain of `n` windows and nothing else. -/
structure Chain (n : Nat) (s : ClientState) : Prop where
  solo : Solo s
  base : s.resourceIdBase = 0x400000
  ids : ∀ w, w ∈ s.windows → w ∈ serverIds ∨ ∃ i < n, w = chainId (i + 1)
  parents : ∀ i < n, parentOf (links s.windows) (chainId (i + 1)) = some (chainId i)

theorem Chain.mem {n i : Nat} (h : Chain n s) (hi : i < n) : chainId (i + 1) ∈ s.windows := by
  obtain ⟨node, hnode, -⟩ := parentOf_eq_some.mp (h.parents i hi)
  rw [← links_isSome, hnode]
  rfl

theorem Chain.fresh {n : Nat} (h : Chain n s) : chainId (n + 1) ∉ s.windows := by
  intro hmem
  obtain hserver | ⟨i, hi, heq⟩ := h.ids _ hmem
  · exact chainId_notMem_serverIds n hserver
  · have := chainId_injective heq
    omega

theorem Chain.card {n : Nat} (h : Chain n s) : s.windows.keys.card ≤ 5 + n := by
  have hsub : s.windows.keys ⊆
      (serverIds ++ (List.range n).map (fun i => chainId (i + 1))).toFinset := by
    intro w hw
    rw [mem_toFinset, mem_append, mem_map]
    obtain hserver | ⟨i, hi, rfl⟩ := h.ids w (Finmap.mem_keys.mp hw)
    · exact .inl hserver
    · exact .inr ⟨i, mem_range.mpr hi, rfl⟩
  refine (Finset.card_le_card hsub).trans ((toFinset_card_le _).trans ?_)
  rw [length_append, length_map, length_range]
  exact le_rfl

theorem Chain.accepts {n : Nat} (hn : n < 4000) (h : Chain n s) :
    createWindowError s (createPlain (chainId (n + 1)) (chainId n)) = none := by
  have hcard := h.card
  have hpar : chainId n = rootWindow ∨ chainId n ∈ s.windows := by
    cases n with
    | zero => exact .inl rfl
    | succ n => exact .inr (h.mem (Nat.lt_succ_self n))
  have hvalid : validateResourceId s (chainId (n + 1)) = true := by
    have hrange : 0x400001 + n - (0x400001 + n) % 0x400000 = 0x400000 := by omega
    rw [validateResourceId, h.base, beq_iff_eq]
    exact hrange
  have hroom : canCreateWindow s = true := by
    have hlt : s.windows.keys.card < 4096 := by omega
    exact decide_eq_true hlt
  have hfree : ¬ (chainId (n + 1) ∈ s.windows ∨ chainId (n + 1) ∈ s.shared.windows) :=
    not_or.mpr ⟨h.fresh, fun hs => h.fresh (h.solo.shared _ hs)⟩
  have hkn : ¬ (chainId n ≠ rootWindow ∧ chainId n ∉ s.windows ∧
      chainId n ∉ s.shared.windows) := by
    rintro ⟨hroot, hlocal, -⟩
    obtain hp | hp := hpar
    · exact hroot hp
    · exact hlocal hp
  simp [createWindowError, createPlain, hvalid, hroom, hfree, hkn]

theorem createWindow_resourceIdBase (req : CreateWindowRequest) (s : ClientState) :
    (createWindow req s).resourceIdBase = s.resourceIdBase := by
  have hreg : ∀ (w : XId) (s : ClientState),
      (registerWindow w s).resourceIdBase = s.resourceIdBase := by
    intro w s
    rw [registerWindow, getOrCreateWindowUuid]
    cases s.x11ToUuid.lookup w <;> rfl
  exact hreg _ _

theorem Chain.grow {n : Nat} (hn : n < 4000) (h : Chain n s) :
    ∃ s', WindowStep s (.createWindow (createPlain (chainId (n + 1)) (chainId n))) s' ∧
      Chain (n + 1) s' := by
  set req := createPlain (chainId (n + 1)) (chainId n)
  have hwid : req.wid = chainId (n + 1) := rfl
  have herr : createWindowError s req = none := h.accepts hn
  have hc := createWindow_created herr
  have hsolo := Created.solo hc h.solo
  obtain ⟨order, hord⟩ := exists_enumerates s.windows
  obtain ⟨sharedOrder, hshd⟩ := exists_enumerates (createWindow req s).shared.windows
  refine ⟨syncWindows sharedOrder (createWindow req s),
    ⟨order, 0, _, .ok, sharedOrder, hord, ?_, hshd, rfl⟩, hsolo.syncWindows hshd, ?_, ?_, ?_⟩
  · simp only [handleWindowRequest, handleCreateWindow, herr]
  · exact (createWindow_resourceIdBase req s).trans h.base
  · intro w hw
    rw [hsolo.syncWindows_windows hshd, ← links_isSome, hc.links, isSome_edit, hwid] at hw
    by_cases hnew : w = chainId (n + 1)
    · exact .inr ⟨n, Nat.lt_succ_self n, hnew⟩
    · have hold : w ∈ s.windows := by
        rw [← links_isSome]
        rwa [Function.update_of_ne hnew] at hw
      obtain hserver | ⟨i, hi, heq⟩ := h.ids w hold
      · exact .inl hserver
      · exact .inr ⟨i, by omega, heq⟩
  · intro i hi
    rw [hsolo.syncWindows_windows hshd, hc.links, parentOf_attach, hwid]
    by_cases heq : i = n
    · subst i
      rw [if_pos rfl]
      rfl
    · rw [if_neg (fun he => heq (Nat.succ.inj (chainId_injective he)))]
      exact h.parents i (by omega)

theorem chain_reachable (n : Nat) (hn : n ≤ 4000) :
    ∃ reqs s, Run (guarded (fun _ => TreeRequest) WindowStep) loneClient reqs s ∧ Chain n s := by
  induction n with
  | zero =>
    refine ⟨[], loneClient, .nil _, loneClient_starts.solo, rfl, ?_, fun i hi => absurd hi (by omega)⟩
    intro w hw
    refine .inl ?_
    have henum : Enumerates serverIds loneClient.windows := by decide +kernel
    exact (henum.2 w).mpr hw
  | succ n ih =>
    obtain ⟨reqs, s, hrun, hchain⟩ := ih (by omega)
    obtain ⟨s', hstep, hchain'⟩ := hchain.grow (by omega)
    refine ⟨_, s', hrun.append (.single ⟨?_, hstep⟩), hchain'⟩
    trivial

theorem Chain.ancestor {n k i : Nat} (h : Chain n s) (hi : i + k ≤ n) :
    ancestor (links s.windows) k (chainId (i + k)) = some (chainId i) := by
  induction k with
  | zero => rfl
  | succ k ih => exact ancestor_succ.mpr ⟨chainId (i + k), h.parents (i + k) (by omega), ih (by omega)⟩

theorem Chain.unseen (h : Chain 130 s) :
    isDescendantOf s.windows (chainId 130) (chainId 1) = false := by
  rw [← Bool.not_eq_true]
  intro hdesc
  obtain ⟨d, hd, hk⟩ := ancestor_of_isDescendantOfLoop hdesc
  have hd' : d < 128 := hd
  have hat := h.ancestor (k := d + 1) (i := 129 - d) (by omega)
  rw [show 129 - d + (d + 1) = 130 by omega] at hat
  have heq := chainId_injective (Option.some.inj (hat.symm.trans hk))
  omega

omit s s' in
theorem ancestor_closed {t : Links XId} {C : XId → Prop}
    (hC : ∀ w, C w → ∃ p, parentOf t w = some p ∧ C p) {k : Nat} {w v : XId} (hw : C w)
    (hk : RootedForest.ancestor t k w = some v) : C v := by
  induction k generalizing w with
  | zero => exact Option.some.inj hk ▸ hw
  | succ k ih =>
    obtain ⟨p, hp, hk⟩ := ancestor_succ.mp hk
    obtain ⟨q, hq, hCq⟩ := hC w hw
    obtain rfl := Option.some.inj (hp.symm.trans hq)
    exact ih hCq hk

theorem reparent_makes_cycle :
    ¬ ∀ reqs s s', Starts s → Run (guarded (fun _ => TreeRequest) WindowStep) s reqs s' →
      AcyclicTree s' := by
  intro h
  obtain ⟨reqs, s, hrun, hchain⟩ := chain_reachable 130 (by omega)
  let req : ReparentWindowRequest := ⟨chainId 1, chainId 130, 0, 0⟩
  obtain ⟨win, hwin⟩ := Finmap.mem_iff.mp (hchain.mem (i := 0) (by omega))
  have hne : chainId 1 ≠ chainId 130 := by decide
  have hr : Reparented (chainId 1) (chainId 130) s (handleReparentWindow req s).1 :=
    @handleReparentWindow_reparented s req win hwin (hchain.mem (i := 129) (by omega)) hne
      hchain.unseen
  obtain ⟨p, mid, hp, hlinks, -, -, -, hmap⟩ := hr.relinked
  have hsolo := Reparented.solo hr hchain.solo
  obtain ⟨order, hord⟩ := exists_enumerates s.windows
  obtain ⟨sharedOrder, hshd⟩ := exists_enumerates (handleReparentWindow req s).1.shared.windows
  have hstep : WindowStep s (.reparentWindow req) (syncWindows sharedOrder
      (handleReparentWindow req s).1) :=
    ⟨order, 0, _, _, sharedOrder, hord, rfl, hshd, rfl⟩
  have hpar : ∀ w, parentOf (links (syncWindows sharedOrder
      (handleReparentWindow req s).1).windows) w =
      if w = chainId 1 then some (chainId 130) else parentOf (links s.windows) w := by
    intro w
    rw [hsolo.syncWindows_windows hshd, hmap.parentOf, hlinks, parentOf_relink hp]
  have hstep' : guarded (fun _ => TreeRequest) WindowStep s (.reparentWindow req) _ :=
    ⟨trivial, hstep⟩
  have htree := h _ _ _ loneClient_starts (hrun.append (.single hstep'))
  have hmem : chainId 1 ∈ (syncWindows sharedOrder (handleReparentWindow req s).1).windows := by
    obtain ⟨node, hnode, -⟩ := parentOf_eq_some.mp ((hpar (chainId 1)).trans (if_pos rfl))
    rw [← links_isSome, hnode]
    rfl
  obtain ⟨k, hk⟩ := htree.climbs (chainId 1) hmem
  have hcld : ∀ w, (∃ i < 130, w = chainId (i + 1)) →
      ∃ p, parentOf (links (syncWindows sharedOrder (handleReparentWindow req s).1).windows) w =
        some p ∧ ∃ i < 130, p = chainId (i + 1) := by
    intro w hw
    obtain ⟨i, hi, rfl⟩ := hw
    rw [hpar]
    cases i with
    | zero => exact ⟨chainId 130, if_pos rfl, 129, by omega, rfl⟩
    | succ i =>
      have hne : chainId (i + 1 + 1) ≠ chainId 1 := by
        intro he
        have hi := chainId_injective he
        omega
      rw [if_neg hne]
      exact ⟨chainId (i + 1), hchain.parents (i + 1) hi, i, by omega, rfl⟩
  obtain ⟨i, -, hi⟩ := ancestor_closed hcld ⟨0, by omega, rfl⟩ hk
  exact absurd (chainId_injective (i := 0) hi) (by omega)

end X11Web.Acyclic
