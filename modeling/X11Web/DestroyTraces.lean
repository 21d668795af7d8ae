import X11Web.CreateDestroy
import X11Web.Grabs

namespace X11Web.DestroyTraces

open HashMaps LinkedForest Windows WindowTree Ewmh List Finmap
open CreateDestroy Grabs

def Doomed (s : ClientState) (wid d : XId) : Prop :=
  Relation.ReflTransGen (fun p c => c ∈ childrenOf s.windows p) wid d

structure Ungrabbed (d : XId) (g : GrabState) : Prop where
  button : ∀ grab ∈ g.buttonGrabs, grab.grabWindow ≠ d ∧ grab.confineTo ≠ d
  key : ∀ grab ∈ g.keyGrabs, grab.grabWindow ≠ d
  pointer : ∀ grab, g.pointerGrab = some grab → grab.grabWindow ≠ d ∧ grab.confineTo ≠ d
  keyboard : ∀ grab, g.keyboardGrab = some grab → grab.grabWindow ≠ d

/-- The window is in none of the registries that DestroyWindow does not sweep. -/
structure Unregistered (d : XId) (s : ClientState) (g : GrabState) : Prop where
  eventRoute : d ∉ s.shared.eventRoutes
  subscriptions : d ∉ s.shared.subscriptions
  grabs : Ungrabbed d g
  saveSet : d ∉ s.saveSet
  bitGravity : d ∉ s.bitGravity
  winGravity : d ∉ s.winGravity

structure NoTrace (d : XId) (s : ClientState) (g : GrabState) : Prop where
  windows : d ∉ s.windows
  sharedWindows : d ∉ s.shared.windows
  listed : ∀ p win, s.windows.lookup p = some win → d ∉ win.childrenOrder
  sharedListed : ∀ p win, s.shared.windows.lookup p = some win → d ∉ win.childrenOrder
  uuid : d ∉ s.x11ToUuid
  windowRoute : ∀ uuid r, s.shared.windowRoutes.lookup uuid = some r → r.x11WindowId ≠ d
  unregistered : Unregistered d s g

/-- A window that has just been created has no grab, and nobody but its creator
has subscribed to it. -/
structure StartsFresh (d : XId) (s : ClientState) (g : GrabState) : Prop where
  subscriptions : ∀ sub ∈ (s.shared.subscriptions.lookup d).getD [], sub.clientId = s.clientId
  grabs : Ungrabbed d g

/-- Nothing that stays refers to the window: no window but its own parent lists
it, no shared window lists it, it has no route but the client's own, and it is
in none of the other registries. -/
structure Untraced (wid : XId) (s : ClientState) (g : GrabState) (d : XId) : Prop where
  listed : ∀ p win, s.windows.lookup p = some win → ¬ Doomed s wid p → d ∈ win.childrenOrder →
    d = wid ∧ (s.windows.lookup wid).map (·.parent) = some p
  sharedListed : ∀ p win, s.shared.windows.lookup p = some win → ¬ Doomed s wid p →
    d ∉ win.childrenOrder
  windowRoute : ∀ uuid r, s.shared.windowRoutes.lookup uuid = some r → r.x11WindowId = d →
    ∃ v, Doomed s wid v ∧ s.x11ToUuid.lookup v = some uuid
  unregistered : Unregistered d s g

variable {s s' : ClientState} {g : GrabState} {wid d w : XId} {fuel : Nat} {win : WindowState}

structure Traces where
  sharedWindows : HashMap XId WindowState
  x11ToUuid : HashMap XId Uuid
  windowRoutes : HashMap Uuid WindowRoute
  eventRoutes : HashMap XId ClientId
  subscriptions : HashMap XId (List EventSubscription)
  saveSet : List XId
  bitGravity : HashMap XId Nat
  winGravity : HashMap XId Nat

def tracesOf (s : ClientState) : Traces :=
  ⟨s.shared.windows, s.x11ToUuid, s.shared.windowRoutes, s.shared.eventRoutes,
    s.shared.subscriptions, s.saveSet, s.bitGravity, s.winGravity⟩

def Traces.unshare (d : XId) (t : Traces) : Traces :=
  { t with sharedWindows := t.sharedWindows.erase d }

def Traces.detach (d : XId) (t : Traces) : Traces :=
  { t with
    x11ToUuid := t.x11ToUuid.erase d
    windowRoutes := (t.x11ToUuid.lookup d).elim t.windowRoutes t.windowRoutes.erase }

def Traces.without (t : Traces) (d : XId) : Traces := (t.unshare d).detach d

theorem tracesOf_revertFocusFrom (w : XId) (s : ClientState) :
    tracesOf (revertFocusFrom w s) = tracesOf s := by
  rw [revertFocusFrom]
  split
  · rfl
  · rw [setFocusWindow]
    split
    · rfl
    · rfl

theorem tracesOf_foldl_revertFocusFrom (ds : List XId) (s : ClientState) :
    tracesOf (ds.foldl (fun s d => revertFocusFrom d s) s) = tracesOf s := by
  induction ds generalizing s with
  | nil => rfl
  | cons d ds ih =>
    rw [foldl_cons, ih]
    exact tracesOf_revertFocusFrom d s

theorem tracesOf_recycleXid (w : XId) (s : ClientState) :
    tracesOf (recycleXid w s) = tracesOf s := by
  rw [recycleXid]
  split
  · rfl
  · rfl

theorem tracesOf_detachUuid (w : XId) (s : ClientState) :
    tracesOf (detachUuid w s) = (tracesOf s).detach w := by
  rw [detachUuid, Traces.detach]
  cases huuid : s.x11ToUuid.lookup w with
  | none =>
    have herase : s.x11ToUuid.erase w = s.x11ToUuid := by
      apply ext_lookup
      intro a
      rw [lookup_erase_eq]
      split
      · next heq => rw [heq, huuid]
      · rfl
    simp [tracesOf, herase, huuid]
  | some uuid => simp [tracesOf, huuid, sendUpdate]

theorem tracesOf_destroyOne (s : ClientState) (d : XId) :
    tracesOf (destroyOne s d) = (tracesOf s).without d := by
  rw [destroyOne, tracesOf_detachUuid]
  change Traces.detach d ((tracesOf (recycleXid d (removeLocalWindow d s))).unshare d) = _
  rw [tracesOf_recycleXid]
  rfl

theorem tracesOf_ewmh (s : ClientState) :
    tracesOf (updateNetClientList s) = tracesOf s ∧ tracesOf (recalculateWorkarea s) = tracesOf s :=
  ⟨rfl, rfl⟩

theorem tracesOf_foldl_destroyOne (ds : List XId) (s : ClientState) :
    tracesOf (ds.foldl destroyOne s) = ds.foldl Traces.without (tracesOf s) := by
  induction ds generalizing s with
  | nil => rfl
  | cons d ds ih => rw [foldl_cons, foldl_cons, ih, tracesOf_destroyOne]

/-- The registries behind an accepted DestroyWindow: what is swept is swept for
the whole subtree, the rest is as before. -/
theorem handleDestroyWindow_traces (hwin : s.windows.lookup wid = some win)
    {r : Response} (h : handleDestroyWindow fuel wid s = some (s', r)) :
    ∃ ds : List XId, (∀ d, d ∈ ds ↔ Doomed s wid d) ∧ tracesOf s' = ds.foldl Traces.without (tracesOf s) := by
  rw [handleDestroyWindow] at h
  simp only [hwin, childrenOf_eq, (revertFocusFrom_sameTree wid s).links] at h
  cases hcol : collect (childrenIn (links s.windows)) fuel
      (childrenIn (links s.windows) wid).reverse [] with
  | none => simp [hcol] at h
  | some ds =>
    simp only [hcol, Option.some.injEq, Prod.mk.injEq] at h
    refine ⟨ds.reverse ++ [wid], ?_, ?_⟩
    · intro d
      rw [List.mem_append, List.mem_reverse, List.mem_singleton, mem_collect_iff hcol, Doomed,
        childrenOf_eq, Relation.ReflTransGen.cases_head_iff (a := wid)]
      simp only [List.mem_reverse]
      exact or_comm.trans (or_congr_left eq_comm)
    · have haft : tracesOf s' = tracesOf (destroyOne (updateWindow win.parent (unlistChild wid)
          (ds.reverse.foldl destroyOne
            (ds.foldl (fun s d => revertFocusFrom d s) (revertFocusFrom wid s)))) wid) := by
        rw [← h.1]
        split
        · rw [(tracesOf_ewmh _).2, (tracesOf_ewmh _).1]
        · rw [(tracesOf_ewmh _).1]
      rw [haft, tracesOf_destroyOne, foldl_append]
      change ((tracesOf (ds.reverse.foldl destroyOne _)).without wid) = _
      rw [tracesOf_foldl_destroyOne, tracesOf_foldl_revertFocusFrom, tracesOf_revertFocusFrom]
      rfl

theorem foldl_without (ds : List XId) (t : Traces) :
    (ds.foldl Traces.without t).sharedWindows = eraseAll ds t.sharedWindows ∧
      (ds.foldl Traces.without t).x11ToUuid = eraseAll ds t.x11ToUuid ∧
      (∀ uuid, (ds.foldl Traces.without t).windowRoutes.lookup uuid =
        if ∃ d ∈ ds, t.x11ToUuid.lookup d = some uuid then none else t.windowRoutes.lookup uuid) ∧
      (ds.foldl Traces.without t).eventRoutes = t.eventRoutes ∧
      (ds.foldl Traces.without t).subscriptions = t.subscriptions ∧
      (ds.foldl Traces.without t).saveSet = t.saveSet ∧
      (ds.foldl Traces.without t).bitGravity = t.bitGravity ∧
      (ds.foldl Traces.without t).winGravity = t.winGravity := by
  induction ds generalizing t with
  | nil => exact ⟨rfl, rfl, fun uuid => by simp, rfl, rfl, rfl, rfl, rfl⟩
  | cons d ds ih =>
    rw [foldl_cons]
    obtain ⟨hshd, hx11, hrts, hevRts, hsubs, hsave, hbit, hwin⟩ := ih (t.without d)
    refine ⟨hshd, hx11, ?_, hevRts, hsubs, hsave, hbit, hwin⟩
    intro uuid
    have hstep : (t.without d).windowRoutes.lookup uuid =
        if t.x11ToUuid.lookup d = some uuid then none else t.windowRoutes.lookup uuid := by
      change ((t.x11ToUuid.lookup d).elim t.windowRoutes t.windowRoutes.erase).lookup uuid = _
      cases t.x11ToUuid.lookup d with
      | none => simp
      | some own =>
        rw [Option.elim_some, lookup_erase_eq]
        simp only [Option.some.injEq, eq_comm]
    have herased : ∀ v, (t.without d).x11ToUuid.lookup v =
        if v = d then none else t.x11ToUuid.lookup v := lookup_erase_eq t.x11ToUuid d
    rw [hrts, hstep]
    simp only [herased, exists_mem_cons_iff]
    by_cases hd : t.x11ToUuid.lookup d = some uuid
    · simp [hd]
    · have hsame : (∃ v ∈ ds, (if v = d then none else t.x11ToUuid.lookup v) = some uuid) ↔
          ∃ v ∈ ds, t.x11ToUuid.lookup v = some uuid := by
        refine exists_congr fun v => and_congr_right fun _ => ?_
        split
        · next heq =>
          subst heq
          simp [hd]
        · rfl
      simp only [hsame, hd, false_or, if_false]

/-- What DestroyWindow does for the client and the registries, as the rest of the
module needs it. -/
structure Swept (wid : XId) (s s' : ClientState) : Prop where
  windows : ∀ d, Doomed s wid d → d ∉ s'.windows
  listed : ∀ p d, d ∈ childrenOf s'.windows p ↔ d ∈ childrenOf s.windows p ∧ ¬ Doomed s wid p ∧
    ¬ (d = wid ∧ (s.windows.lookup wid).map (·.parent) = some p)
  sharedWindows : ∀ p, (Doomed s wid p → s'.shared.windows.lookup p = none) ∧
    (¬ Doomed s wid p → s'.shared.windows.lookup p = s.shared.windows.lookup p)
  uuid : ∀ d, Doomed s wid d → d ∉ s'.x11ToUuid
  windowRoutes : ∀ uuid r, s'.shared.windowRoutes.lookup uuid = some r ↔
    s.shared.windowRoutes.lookup uuid = some r ∧
      ¬ ∃ d, Doomed s wid d ∧ s.x11ToUuid.lookup d = some uuid
  unregistered : ∀ d g, Unregistered d s' g ↔ Unregistered d s g

/-- In the client's own tree the window and its descendants are gone, and only the
parent loses an entry. -/
theorem handleDestroyWindow_ownTree (hwin : s.windows.lookup wid = some win) {r : Response}
    (h : handleDestroyWindow fuel wid s = some (s', r)) :
    (∀ d, Doomed s wid d → d ∉ s'.windows) ∧
      ∀ q d, d ∈ childrenOf s'.windows q ↔ d ∈ childrenOf s.windows q ∧ ¬ Doomed s wid q ∧
        ¬ (d = wid ∧ (s.windows.lookup wid).map (·.parent) = some q) := by
  obtain ⟨p, below, fuel', hp, hcol, hlinks, -⟩ := (handleDestroyWindow_destroyed hwin h).pruned
  have hbel : ∀ d, d ∈ below ∨ d = wid ↔ Doomed s wid d := by
    intro d
    rw [mem_collect_iff hcol, Doomed, childrenOf_eq, Relation.ReflTransGen.cases_head_iff (a := wid)]
    simp only [List.mem_reverse]
    exact or_comm.trans (or_congr_left eq_comm)
  have hp' : (s.windows.lookup wid).map (·.parent) = some p := by
    rw [← parentOf_links]
    exact hp
  refine ⟨?_, ?_⟩
  · intro d hd
    rw [← links_eq_none, hlinks, prune_apply, if_pos ((hbel d).mpr hd)]
  · intro q d
    rw [childrenOf_eq, childrenOf_eq, ← count_pos_iff, ← count_pos_iff]
    change 0 < listings (links s'.windows) q d ↔ 0 < listings (links s.windows) q d ∧ _
    rw [hlinks, listings_prune, hp', Option.some.injEq, ← hbel]
    split
    · next hgone =>
      refine iff_of_false (Nat.lt_irrefl 0) ?_
      rintro ⟨-, hq, hd⟩
      obtain hmem | rfl | ⟨rfl, rfl⟩ := hgone
      · exact hq (.inl hmem)
      · exact hq (.inr rfl)
      · exact hd ⟨rfl, rfl⟩
    · next hstays =>
      refine (and_iff_left ⟨?_, ?_⟩).symm
      · rintro (hmem | rfl)
        · exact hstays (.inl hmem)
        · exact hstays (.inr (.inl rfl))
      · rintro ⟨rfl, rfl⟩
        exact hstays (.inr (.inr ⟨rfl, rfl⟩))

theorem handleDestroyWindow_swept (hwin : s.windows.lookup wid = some win) {r : Response}
    (h : handleDestroyWindow fuel wid s = some (s', r)) : Swept wid s s' := by
  obtain ⟨ds, hds, htraces⟩ := handleDestroyWindow_traces hwin h
  obtain ⟨hshd, hx11, hrts, hevRts, hsubs, hsave, hbit, hgravity⟩ :=
    foldl_without ds (tracesOf s)
  rw [← htraces] at hshd hx11 hrts hevRts hsubs hsave hbit hgravity
  change s'.shared.windows = _ at hshd
  change s'.x11ToUuid = _ at hx11
  change s'.shared.eventRoutes = s.shared.eventRoutes at hevRts
  change s'.shared.subscriptions = s.shared.subscriptions at hsubs
  change s'.saveSet = s.saveSet at hsave
  change s'.bitGravity = s.bitGravity at hbit
  change s'.winGravity = s.winGravity at hgravity
  obtain ⟨hgone, hchs⟩ := handleDestroyWindow_ownTree hwin h
  refine ⟨hgone, hchs, ?_, ?_, ?_, ?_⟩
  · intro q
    rw [hshd, lookup_eraseAll]
    exact ⟨fun hq => if_pos ((hds q).mpr hq), fun hq => if_neg (fun hmem => hq ((hds q).mp hmem))⟩
  · intro d hd
    rw [hx11, mem_eraseAll, hds]
    exact fun h => h.1 hd
  · intro uuid route
    have hlook : s'.shared.windowRoutes.lookup uuid =
        if ∃ d ∈ ds, s.x11ToUuid.lookup d = some uuid then none
        else s.shared.windowRoutes.lookup uuid := hrts uuid
    have hown : (∃ d ∈ ds, s.x11ToUuid.lookup d = some uuid) ↔
        ∃ d, Doomed s wid d ∧ s.x11ToUuid.lookup d = some uuid :=
      exists_congr fun d => and_congr_left fun _ => hds d
    rw [hlook, ← hown]
    split
    · next hex => simp [hex]
    · next hex => simp [hex]
  · intro d g
    constructor
    · rintro ⟨h1, h2, h3, h4, h5, h6⟩
      exact ⟨hevRts ▸ h1, hsubs ▸ h2, h3, hsave ▸ h4, hbit ▸ h5, hgravity ▸ h6⟩
    · rintro ⟨h1, h2, h3, h4, h5, h6⟩
      exact ⟨hevRts.symm ▸ h1, hsubs.symm ▸ h2, h3, hsave.symm ▸ h4, hbit.symm ▸ h5,
        hgravity.symm ▸ h6⟩

theorem mem_childrenOf {m : HashMap XId WindowState} :
    d ∈ childrenOf m w ↔ ∃ win, m.lookup w = some win ∧ d ∈ win.childrenOrder := by
  rw [childrenOf]
  cases m.lookup w with
  | none => simp
  | some win => simp

theorem Swept.noTrace_iff (h : Swept wid s s') (hd : Doomed s wid d) :
    NoTrace d s' g ↔ Untraced wid s g d := by
  constructor
  · intro hno
    refine ⟨?_, ?_, ?_, (h.unregistered d g).mp hno.unregistered⟩
    · intro p win hwin hp hlstd
      by_contra hpar
      have hstays := (h.listed p d).mpr ⟨mem_childrenOf.mpr ⟨win, hwin, hlstd⟩, hp, hpar⟩
      obtain ⟨win', hwin', hlstd'⟩ := mem_childrenOf.mp hstays
      exact hno.listed p win' hwin' hlstd'
    · intro p win hwin hp
      exact hno.sharedListed p win (((h.sharedWindows p).2 hp).trans hwin)
    · intro uuid r hr hrt
      by_contra hown
      exact hno.windowRoute uuid r ((h.windowRoutes uuid r).mpr ⟨hr, hown⟩) hrt
  · intro hun
    refine ⟨h.windows d hd, ?_, ?_, ?_, h.uuid d hd, ?_, (h.unregistered d g).mpr hun.unregistered⟩
    · rw [← lookup_eq_none]
      exact (h.sharedWindows d).1 hd
    · intro p win hwin hlstd
      obtain ⟨hold, hp, hpar⟩ := (h.listed p d).mp (mem_childrenOf.mpr ⟨win, hwin, hlstd⟩)
      obtain ⟨win', hwin', hlstd'⟩ := mem_childrenOf.mp hold
      exact hpar (hun.listed p win' hwin' hp hlstd')
    · intro p win hwin
      by_cases hp : Doomed s wid p
      · rw [(h.sharedWindows p).1 hp] at hwin
        simp at hwin
      · rw [(h.sharedWindows p).2 hp] at hwin
        exact hun.sharedListed p win hwin hp
    · intro uuid r hr hrt
      obtain ⟨hold, hown⟩ := (h.windowRoutes uuid r).mp hr
      exact hown (hun.windowRoute uuid r hold hrt)

theorem createWindow_startsFresh {req : CreateWindowRequest} (hsubs : d ∉ s.shared.subscriptions)
    (hgrabs : Ungrabbed d g) (hreq : req.wid = d) (h : createWindowError s req = none) :
    StartsFresh d (createWindow req s) g := by
  refine ⟨?_, hgrabs⟩
  subst hreq
  rw [(createWindow_created h).clientId, (createWindow_registries req s).1]
  have hnone := lookup_eq_none.mpr hsubs
  split
  · next hmask =>
    simp [subscribe, hnone, hmask]
  · simp [hnone]

/-- DestroyWindow leaves nothing behind for the ids it recycles exactly if the
windows have left nothing in the registries that it does not sweep. -/
theorem handleDestroyWindow_noTrace_iff (fuel : Nat) (wid : XId) (s s' : ClientState) (g : GrabState)
    (h : handleDestroyWindow fuel wid s = some (s', .ok)) :
    (∀ d, Doomed s wid d → NoTrace d s' g ∧
        ∀ req : CreateWindowRequest, req.wid = d → createWindowError s' req = none →
          StartsFresh d (createWindow req s') g) ↔
      ∀ d, Doomed s wid d → Untraced wid s g d := by
  obtain ⟨win, hwin⟩ : ∃ win, s.windows.lookup wid = some win := by
    cases hwin : s.windows.lookup wid with
    | none => simp [handleDestroyWindow, hwin] at h
    | some win => exact ⟨win, rfl⟩
  have hswept := handleDestroyWindow_swept hwin h
  refine forall_congr' fun d => forall_congr' fun hd => ?_
  rw [← hswept.noTrace_iff hd]
  refine and_iff_left_of_imp fun hno req hreq hok => ?_
  exact createWindow_startsFresh hno.unregistered.subscriptions hno.unregistered.grabs hreq hok

def firstClient (windows : HashMap XId WindowState) : ClientState :=
  acceptClient 1 false 0 0 [] { initialShared (fun _ => ∅) ∅ with windows := windows }

def kept (parent : XId) (children : List XId) (id : XId) : WindowState :=
  { serverWindow id ∅ with
    parent := parent, childrenOrder := children, ownerClientId := some 2, retainedTemporary := true }

/-- The windows of a client that is gone: one under the root, and one in it. -/
def retained : ClientState :=
  firstClient (((initialWindows (fun _ => ∅)).insert 0x800001 (kept rootWindow [0x800002] 0x800001)).insert 0x800002
    (kept 0x800001 [] 0x800002))

theorem doomed_retained {d : XId} (hd : Doomed retained 0x800001 d) : d = 0x800001 ∨ d = 0x800002 := by
  obtain rfl | ⟨c, hc, hcd⟩ := Relation.ReflTransGen.cases_head hd
  · exact .inl rfl
  · have hchild : childrenOf retained.windows 0x800001 = [0x800002] := by decide +kernel
    rw [hchild, List.mem_singleton] at hc
    subst hc
    obtain rfl | ⟨c, hc, -⟩ := Relation.ReflTransGen.cases_head hcd
    · exact .inr rfl
    · have hleaf : childrenOf retained.windows 0x800002 = [] := by decide +kernel
      rw [hleaf] at hc
      simp at hc

theorem retained_untraced (d : XId) (hd : Doomed retained 0x800001 d) :
    Untraced 0x800001 retained {} d := by
  have hunl : ∀ p ∈ retained.windows.keys, p = 0x800001 ∨ (retained.windows.lookup p).all (fun win =>
      !win.childrenOrder.contains 0x800001 && !win.childrenOrder.contains 0x800002) = true := by
    decide +kernel
  have hnone : ∀ p win, retained.windows.lookup p = some win → ¬Doomed retained 0x800001 p → d ∉ win.childrenOrder := by
    intro p win hwin hp
    obtain rfl | hno := hunl p (mem_keys.mpr (mem_of_lookup_eq_some hwin))
    · exact absurd .refl hp
    · rw [hwin] at hno
      obtain rfl | rfl := doomed_retained hd
      · simpa using (Bool.and_eq_true_iff.mp hno).1
      · simpa using (Bool.and_eq_true_iff.mp hno).2
  refine ⟨fun p win hwin hp hlstd => absurd hlstd (hnone p win hwin hp), hnone, fun uuid r hr => ?_, ?_⟩
  · simp [retained, firstClient, acceptClient, initialShared] at hr
  · obtain rfl | rfl := doomed_retained hd
    all_goals exact ⟨by decide +kernel, by decide +kernel, ⟨by simp, by simp, by simp, by simp⟩, by decide +kernel,
      by decide +kernel, by decide +kernel⟩

theorem handleDestroyWindow_noTrace_retained :
    ∃ s', handleDestroyWindow 2 0x800001 retained = some (s', .ok) ∧
      ∀ d, Doomed retained 0x800001 d → NoTrace d s' {} := by
  have hok : (handleDestroyWindow 2 0x800001 retained).map Prod.snd = some .ok := by
    decide +kernel
  obtain ⟨⟨s', r⟩, hdst, hr⟩ := Option.map_eq_some_iff.mp hok
  obtain rfl : r = .ok := hr
  refine ⟨s', hdst, fun d hd => ?_⟩
  exact ((handleDestroyWindow_noTrace_iff 2 0x800001 retained s' {} hdst).mpr
    retained_untraced d hd).1

def createPlain : CreateWindowRequest :=
  { depth := 0, wid := 0x400001, parent := rootWindow, x := 0, y := 0, width := 1, height := 1,
    borderWidth := 0, winClass := 0, visual := 0 }

def owner : ClientState := (handleCreateWindow createPlain (firstClient (initialWindows (fun _ => ∅)))).1

/-- The route and the gravities that every CreateWindow records outlive the
window. -/
theorem destroyed_window_keeps_route :
    ∃ s', handleDestroyWindow 1 0x400001 owner = some (s', .ok) ∧
      ¬ ∀ d, Doomed owner 0x400001 d → NoTrace d s' {} ∧
        ∀ req : CreateWindowRequest, req.wid = d → createWindowError s' req = none →
          StartsFresh d (createWindow req s') {} := by
  have hok : (handleDestroyWindow 1 0x400001 owner).map
      (fun r => (r.2, decide (0x400001 ∈ r.1.shared.eventRoutes))) = some (.ok, true) := by
    decide +kernel
  obtain ⟨⟨s', r⟩, hdst, hr⟩ := Option.map_eq_some_iff.mp hok
  obtain ⟨hr, hrt⟩ := Prod.mk.inj hr
  obtain rfl : r = .ok := hr
  refine ⟨s', hdst, fun h => ?_⟩
  exact (h 0x400001 .refl).1.unregistered.eventRoute (of_decide_eq_true hrt)

end X11Web.DestroyTraces
