import X11Web.Links
import X11Web.Teardown

namespace X11Web.TeardownFrame

open HashMaps Windows WindowTree Ewmh SyncWindows List Option Finmap
open CreateDestroy Links Teardown

/-- The teardown has left the windows of the others alone: only saved windows
have another parent, only destroyed windows of the leaver are gone from a child
list, and every route is still there. -/
structure LeavesOthers (me : ClientId) (saveSet : List XId) (sh sh' : Shared) : Prop where
  windows : ∀ w win, sh.windows.lookup w = some win → win.ownerClientId ≠ some me →
    ∃ win', sh'.windows.lookup w = some win' ∧
      win' = { win with parent := win'.parent, childrenOrder := win'.childrenOrder } ∧
      (w ∉ saveSet → win'.parent = win.parent) ∧
      ∃ gone : List XId, win'.childrenOrder = win.childrenOrder.filter (fun c => decide (c ∉ gone)) ∧
        ∀ g ∈ gone, g ∉ sh'.windows ∧
          ∃ gwin, sh.windows.lookup g = some gwin ∧ gwin.ownerClientId = some me
  routes : ∀ w win, sh.windows.lookup w = some win → win.ownerClientId ≠ some me →
    sh'.eventRoutes.lookup w = sh.eventRoutes.lookup w

/-- The branch of the close-down mode aims at no window of another owner that it
would change. -/
def AimsAtOwn (s : ClientState) : Prop :=
  match s.closeDownMode with
  | 0 => ∀ w ∈ s.x11ToUuid, w ∉ (processSaveSet (releaseServerGrab s)).2 →
      ∀ win, s.shared.windows.lookup w = some win → win.ownerClientId = some s.clientId
  | 1 => True
  | 2 => ∀ w ∈ s.windows, ∀ win, s.shared.windows.lookup w = some win →
      win.ownerClientId ≠ some s.clientId →
      win.retainedTemporary = true ∧ s.shared.eventRoutes.lookup w = none
  | _ => ∀ w ∈ s.x11ToUuid, ∀ win, s.shared.windows.lookup w = some win →
      win.ownerClientId ≠ some s.clientId → s.shared.eventRoutes.lookup w = none

/-- What has happened to the shared windows before the close-down mode comes
into it. -/
structure Relinks (saveSet : List XId) (s s' : ClientState) : Prop where
  clientId : s'.clientId = s.clientId
  closeDownMode : s'.closeDownMode = s.closeDownMode
  eventRoutes : s'.shared.eventRoutes = s.shared.eventRoutes
  windows : ∀ w, (s'.shared.windows.lookup w).map (setParentTo 0) =
    (s.shared.windows.lookup w).map (setParentTo 0)
  others : ∀ w, w ∉ saveSet → s'.shared.windows.lookup w = s.shared.windows.lookup w

variable {saveSet : List XId} {s s' : ClientState} {w : XId} {win : WindowState} {me : ClientId}
variable {order : IterationOrder} {ws : List XId} {sh' : Shared}

theorem Relinks.saveWindow {saved : List XId} (h : Relinks saveSet s s') (hw : w ∈ saveSet) :
    Relinks saveSet s (saveWindow (s', saved) w).1 := by
  rw [Teardown.saveWindow]
  split
  · exact h
  · split
    · refine ⟨h.clientId, h.closeDownMode, h.eventRoutes, fun v => ?_, fun v hv => ?_⟩
      · rw [← h.windows v]
        exact lookup_modify_map (setParentTo 0) w v _ _ (fun _ => rfl)
      · have hne : v ≠ w := by
          rintro rfl
          exact hv hw
        rw [← h.others v hv]
        exact lookup_modify_of_ne hne _ _
    · exact h

theorem Relinks.foldl {saved : List XId} (h : Relinks saveSet s s') (hws : ∀ w ∈ ws, w ∈ saveSet) :
    Relinks saveSet s (ws.foldl Teardown.saveWindow (s', saved)).1 := by
  induction ws generalizing s' saved with
  | nil => exact h
  | cons w ws ih =>
    rw [foldl_cons]
    exact ih (h.saveWindow (hws w mem_cons_self))
      (fun v hv => hws v (mem_cons_of_mem w hv))

theorem processSaveSet_relinks (s : ClientState) :
    Relinks s.saveSet s (processSaveSet (releaseServerGrab s)).1 := by
  have hst : Relinks s.saveSet s { releaseServerGrab s with saveSet := [] } :=
    ⟨rfl, rfl, rfl, fun _ => rfl, fun _ _ => rfl⟩
  exact hst.foldl (fun _ h => h)

theorem dropFocus_fields (s : ClientState) : (dropFocus s).clientId = s.clientId ∧
    (dropFocus s).closeDownMode = s.closeDownMode ∧ (dropFocus s).x11ToUuid = s.x11ToUuid ∧
    (dropFocus s).shared = { s.shared with focus := (dropFocus s).shared.focus } := by
  rw [dropFocus]
  split
  · rw [revertFocusFrom]
    split
    · exact ⟨rfl, rfl, rfl, rfl⟩
    · rw [setFocusWindow]
      split
      · exact ⟨rfl, rfl, rfl, rfl⟩
      · exact ⟨rfl, rfl, rfl, rfl⟩
  · exact ⟨rfl, rfl, rfl, rfl⟩

def closing (order : IterationOrder) (timestamp : Nat) (s : ClientState) : ClientState :=
  dropFocus (unsubscribe (dropSelections order.x11ToUuid timestamp
    (processSaveSet (releaseServerGrab s)).1))

theorem closing_relinks (order : IterationOrder) (timestamp : Nat) (s : ClientState) :
    Relinks s.saveSet s (closing order timestamp s) := by
  have hsaved := processSaveSet_relinks s
  obtain ⟨hid, hmode, -, hshd⟩ := dropFocus_fields
    (unsubscribe (dropSelections order.x11ToUuid timestamp (processSaveSet (releaseServerGrab s)).1))
  refine ⟨hid.trans hsaved.clientId, hmode.trans hsaved.closeDownMode, ?_, fun w => ?_,
    fun w hw => ?_⟩
  · rw [closing, hshd]
    exact hsaved.eventRoutes
  · rw [closing, hshd]
    exact hsaved.windows w
  · rw [closing, hshd]
    exact hsaved.others w hw

theorem Relinks.lookup (h : Relinks saveSet s s') (hw : s.shared.windows.lookup w = some win) :
    ∃ p, s'.shared.windows.lookup w = some (setParentTo p win) ∧
      (w ∉ saveSet → p = win.parent) := by
  have hsame := h.windows w
  rw [hw] at hsame
  obtain ⟨win', hw', heq⟩ := map_eq_some_iff.mp hsame
  have hwin' : win' = setParentTo win'.parent win :=
    calc win' = setParentTo win'.parent (setParentTo 0 win') := rfl
      _ = setParentTo win'.parent (setParentTo 0 win) := by rw [heq]
  refine ⟨win'.parent, hwin' ▸ hw', fun hnot => ?_⟩
  rw [h.others w hnot, hw] at hw'
  rw [some.inj hw']

theorem Relinks.mem (h : Relinks saveSet s s') : w ∈ s'.shared.windows ↔ w ∈ s.shared.windows := by
  rw [← lookup_isSome, ← lookup_isSome]
  have hsame := congrArg Option.isSome (h.windows w)
  rw [isSome_map, isSome_map] at hsame
  rw [hsame]

theorem destroy_leavesOthers_iff (h : Relinks saveSet s s') (hnd : ws.Nodup)
    (hwins : sh'.windows = removeWindows ws s'.shared.windows)
    (hrts : sh'.eventRoutes = eraseAll ws s.shared.eventRoutes) :
    LeavesOthers me saveSet s.shared sh' ↔ ∀ w ∈ ws, ∀ win,
      s.shared.windows.lookup w = some win → win.ownerClientId = some me := by
  refine ⟨fun hlvs w hw win hwin => ?_, fun haims => ?_⟩
  · by_contra hfor
    obtain ⟨win', hwin', -⟩ := hlvs.windows w win hwin hfor
    rw [hwins, lookup_removeWindows hnd, if_pos hw] at hwin'
    simp at hwin'
  · have hspared : ∀ w win, s.shared.windows.lookup w = some win →
        win.ownerClientId ≠ some me → w ∉ ws :=
      fun w win hwin hfor hw => hfor (haims w hw win hwin)
    refine ⟨fun w win hwin hfor => ?_, fun w win hwin hfor => ?_⟩
    · obtain ⟨p, hp, hpar⟩ := h.lookup hwin
      have hlook : sh'.windows.lookup w =
          some (dropChildren (goneFrom ws s'.shared.windows w) (setParentTo p win)) := by
        rw [hwins, lookup_removeWindows hnd, if_neg (hspared w win hwin hfor), hp]
        rfl
      refine ⟨_, hlook, rfl, hpar, ws.filter (goneFrom ws s'.shared.windows w), ?_, ?_⟩
      · apply filter_congr
        intro c _
        by_cases hgone : goneFrom ws s'.shared.windows w c = true
        · have hc : c ∈ ws := (of_decide_eq_true hgone).1
          simp [hgone, hc]
        · simp [hgone]
      · intro g hg
        obtain ⟨hg, hgone⟩ := mem_filter.mp hg
        obtain ⟨gwin, hgwin, -⟩ := map_eq_some_iff.mp (of_decide_eq_true hgone).2
        obtain ⟨gwin', hgwin'⟩ := mem_iff.mp (h.mem.mp (mem_of_lookup_eq_some hgwin))
        refine ⟨?_, gwin', hgwin', haims g hg gwin' hgwin'⟩
        rw [← lookup_eq_none, hwins, lookup_removeWindows hnd, if_pos hg]
    · rw [hrts, lookup_eraseAll, if_neg (hspared w win hwin hfor)]

theorem Relinks.leavesOthers_windows (h : Relinks saveSet s s')
    (hwin : s.shared.windows.lookup w = some win) (hsame : sh'.windows.lookup w =
      s'.shared.windows.lookup w) :
    ∃ win', sh'.windows.lookup w = some win' ∧
      win' = { win with parent := win'.parent, childrenOrder := win'.childrenOrder } ∧
      (w ∉ saveSet → win'.parent = win.parent) ∧
      ∃ gone : List XId, win'.childrenOrder = win.childrenOrder.filter (fun c => decide (c ∉ gone)) ∧
        ∀ g ∈ gone, g ∉ sh'.windows ∧
          ∃ gwin, s.shared.windows.lookup g = some gwin ∧ gwin.ownerClientId = some me := by
  obtain ⟨p, hp, hpar⟩ := h.lookup hwin
  refine ⟨setParentTo p win, hsame.trans hp, rfl, hpar, [], ?_, ?_⟩
  · simp [setParentTo]
  · simp

theorem unregister_leavesOthers_iff (h : Relinks saveSet s s')
    (hwins : sh'.windows = s'.shared.windows)
    (hrts : sh'.eventRoutes = eraseAll ws s.shared.eventRoutes) :
    LeavesOthers me saveSet s.shared sh' ↔ ∀ w ∈ ws, ∀ win,
      s.shared.windows.lookup w = some win → win.ownerClientId ≠ some me →
      s.shared.eventRoutes.lookup w = none := by
  refine ⟨fun hlvs w hw win hwin hfor => ?_, fun haims => ⟨fun w win hwin _ => ?_,
    fun w win hwin hfor => ?_⟩⟩
  · rw [← hlvs.routes w win hwin hfor, hrts, lookup_eraseAll, if_pos hw]
  · exact h.leavesOthers_windows hwin (by rw [hwins])
  · rw [hrts, lookup_eraseAll]
    split
    · next hw => exact (haims w hw win hwin hfor).symm
    · rfl

theorem retain_leavesOthers_iff (h : Relinks saveSet s s') (hnd : ws.Nodup)
    (hwins : sh'.windows = retainAll ws s'.shared.windows)
    (hrts : sh'.eventRoutes = eraseAll ws s.shared.eventRoutes) :
    LeavesOthers me saveSet s.shared sh' ↔ ∀ w ∈ ws, ∀ win,
      s.shared.windows.lookup w = some win → win.ownerClientId ≠ some me →
      win.retainedTemporary = true ∧ s.shared.eventRoutes.lookup w = none := by
  refine ⟨fun hlvs w hw win hwin hfor => ⟨?_, ?_⟩, fun haims => ⟨fun w win hwin hfor => ?_,
    fun w win hwin hfor => ?_⟩⟩
  · obtain ⟨win', hwin', hsame, -⟩ := hlvs.windows w win hwin hfor
    obtain ⟨p, hp, -⟩ := h.lookup hwin
    rw [hwins, lookup_retainAll hnd, if_pos hw, hp] at hwin'
    have hretd : win'.retainedTemporary = true := by
      rw [← some.inj hwin']
      rfl
    rw [← hretd, hsame]
  · rw [← hlvs.routes w win hwin hfor, hrts, lookup_eraseAll, if_pos hw]
  · apply h.leavesOthers_windows hwin
    rw [hwins, lookup_retainAll hnd]
    split
    · next hw =>
      obtain ⟨p, hp, -⟩ := h.lookup hwin
      have hretd := (haims w hw win hwin hfor).1
      rw [hp]
      simp only [map_some, setRetainedTemporary, setParentTo, ← hretd]
    · rfl
  · rw [hrts, lookup_eraseAll]
    split
    · next hw => exact (haims w hw win hwin hfor).2.symm
    · rfl

/-- The teardown leaves the others alone exactly when its close-down mode aims at
none of their windows. -/
theorem eofTeardown_leavesOthers_iff (order : IterationOrder) (timestamp : Nat) (s : ClientState)
    (hord : order.Fits s) :
    LeavesOthers s.clientId s.saveSet s.shared (eofTeardown order timestamp s).shared ↔
      AimsAtOwn s := by
  have hrlks := closing_relinks order timestamp s
  change LeavesOthers s.clientId s.saveSet s.shared (closeDown order
    (processSaveSet (releaseServerGrab s)).2 (closing order timestamp s)).shared ↔ AimsAtOwn s
  rw [closeDown, hrlks.closeDownMode, AimsAtOwn]
  generalize s.closeDownMode = mode
  match mode with
  | 0 =>
    refine (destroy_leavesOthers_iff hrlks (hord.x11ToUuid.1.filter _) rfl
      (congrArg (eraseAll _) hrlks.eventRoutes)).trans ⟨fun h w hw hsaved => ?_, fun h w hw => ?_⟩
    · apply h w
      exact mem_filter.mpr ⟨(hord.x11ToUuid.2 w).mpr hw, decide_eq_true hsaved⟩
    · obtain ⟨hw, hsaved⟩ := mem_filter.mp hw
      exact h w ((hord.x11ToUuid.2 w).mp hw) (of_decide_eq_true hsaved)
  | 1 =>
    refine iff_of_true ⟨fun w win hwin _ => ?_, fun w win hwin _ => ?_⟩ trivial
    · exact hrlks.leavesOthers_windows hwin rfl
    · exact congrArg (Finmap.lookup w) hrlks.eventRoutes
  | 2 =>
    refine (retain_leavesOthers_iff hrlks hord.windows.1 rfl
      (congrArg (eraseAll _) hrlks.eventRoutes)).trans ?_
    exact forall_congr' fun w => imp_congr_left (hord.windows.2 w)
  | mode + 3 =>
    refine Iff.trans (unregister_leavesOthers_iff hrlks rfl
      (congrArg (eraseAll _) hrlks.eventRoutes)) ?_
    exact forall_congr' fun w => imp_congr_left (hord.x11ToUuid.2 w)

def handleSetCloseDownMode (mode : Nat) (s : ClientState) : ClientState × Response :=
  if mode > 2 then (s, .error .value mode 112) else ({ s with closeDownMode := mode }, .ok)

def neighbour : ClientState :=
  syncWindows serverIds (handleCreateWindow (createPlain 0x800001 rootWindow)
    (acceptClient 2 false 0 1 [] (initialShared (fun _ => ∅) ∅))).1

/-- Client 1, connected beside it, has a window too and chooses its close-down
mode. -/
def leaver (mode : Nat) : ClientState :=
  (handleSetCloseDownMode mode (syncWindows (0x800001 :: serverIds)
    (handleCreateWindow (createPlain 0x400001 rootWindow)
      (acceptClient 1 false 0 0 [] neighbour.shared)).1)).1

def leaverOrder : IterationOrder := ⟨[0x400001], 0x400001 :: 0x800001 :: serverIds⟩

theorem leaverOrder_fits : leaverOrder.Fits (leaver 0) := ⟨by decide +kernel, by decide +kernel⟩

theorem eofTeardown_leaves_neighbour : leaverOrder.Fits (leaver 0) ∧
    LeavesOthers 1 [] (leaver 0).shared (eofTeardown leaverOrder 0 (leaver 0)).shared := by
  refine ⟨leaverOrder_fits, ?_⟩
  refine (eofTeardown_leavesOthers_iff leaverOrder 0 (leaver 0) leaverOrder_fits).mpr ?_
  intro w hw _ win hwin
  obtain rfl := mem_singleton.mp ((leaverOrder_fits.x11ToUuid.2 w).mpr hw)
  have hown : ((leaver 0).shared.windows.lookup 0x400001).map (·.ownerClientId) =
      some (some 1) := by decide +kernel
  rw [hwin] at hown
  exact some.inj hown

/-- With RetainTemporary the leaver marks the window of its neighbour and takes
its route away. -/
theorem retainTemporary_marks_neighbour :
    ¬ LeavesOthers 1 [] (leaver 2).shared (eofTeardown leaverOrder 0 (leaver 2)).shared := by
  intro h
  have hbef : ((leaver 2).shared.windows.lookup 0x800001).map
      (fun win => (win.ownerClientId, win.retainedTemporary)) = some (some 2, false) := by
    decide +kernel
  have haft : ((eofTeardown leaverOrder 0 (leaver 2)).shared.windows.lookup 0x800001).map
      (·.retainedTemporary) = some true := by decide +kernel
  obtain ⟨win, hwin, hfields⟩ := map_eq_some_iff.mp hbef
  obtain ⟨hown, hretd⟩ := Prod.mk.inj hfields
  obtain ⟨win', hwin', hsame, -⟩ := h.windows 0x800001 win hwin (by rw [hown]; decide)
  rw [hwin', map_some, hsame] at haft
  rw [some.inj haft] at hretd
  simp at hretd

end X11Web.TeardownFrame
