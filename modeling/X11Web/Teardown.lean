import X11Web.Ewmh
import X11Web.ServerGrab
import X11Web.SyncWindows

namespace X11Web.Teardown

open HashMaps Windows WindowTree Ewmh SyncWindows List

/-- The orders in which the teardown meets the keys of the client's UUID table
and of its windows. -/
structure IterationOrder where
  x11ToUuid : List XId
  windows : List XId

structure IterationOrder.Fits (order : IterationOrder) (s : ClientState) : Prop where
  x11ToUuid : Enumerates order.x11ToUuid s.x11ToUuid
  windows : Enumerates order.windows s.windows

def releaseServerGrab (s : ClientState) : ClientState :=
  { s with
    serverGrabCount := 0
    shared := { s.shared with
      serverGrab := ServerGrab.releaseGrab s.clientId s.serverGrabCount s.shared.serverGrab } }

/-- The walk up from the parent of `wid` meets a window of the client. -/
def isInferior (me : ClientId) (windows : WindowMap) (wid : XId) : Nat → XId → Bool
  | 0, _ => false
  | n + 1, cur =>
    if cur = 0 ∨ cur = wid then false
    else match windows.lookup cur with
      | none => false
      | some win => if win.ownerClientId = some me then true else isInferior me windows wid n win.parent

/-- The closest ancestor that is not the client's, or the root. -/
def closestForeign (me : ClientId) (windows : WindowMap) : Nat → XId → XId
  | 0, _ => rootWindow
  | n + 1, cur =>
    if cur = 0 then rootWindow
    else match windows.lookup cur with
      | none => rootWindow
      | some win => if win.ownerClientId ≠ some me then cur else closestForeign me windows n win.parent

def setParentTo (p : XId) (win : WindowState) : WindowState := { win with parent := p }

/-- Save one window of the save-set. The shared copy gets the new parent, the
shared child lists stay as they are; a mapped window stays mapped. -/
def saveWindow (acc : ClientState × List XId) (wid : XId) : ClientState × List XId :=
  match acc.1.windows.lookup wid with
  | none => acc
  | some win =>
    if isInferior acc.1.clientId acc.1.windows wid maxTreeDepth win.parent then
      let p := closestForeign acc.1.clientId acc.1.windows maxTreeDepth win.parent
      (updateSharedWindow wid (setParentTo p) (updateWindow p (pushChild wid)
        (updateWindow wid (setParentTo p) (updateWindow win.parent (unlistChild wid) acc.1))),
        acc.2 ++ [wid])
    else acc

/-- The state after the save-set has been worked off, and the windows saved. -/
def processSaveSet (s : ClientState) : ClientState × List XId :=
  s.saveSet.foldl saveWindow ({ s with saveSet := [] }, [])

def managerEntry (timestamp : Nat) : SelectionOwner := ⟨clipboardManagerWindow, .dummy, timestamp⟩

/-- The selections after those of the windows `mine` are gone; the server takes
over a CLIPBOARD whose data it has. -/
def releaseSelections (mine : List XId) (timestamp : Nat) (persistent : Bool)
    (sels : HashMap Atom SelectionOwner) : HashMap Atom SelectionOwner :=
  let ownsClipboard := (sels.lookup Predef.clipboard).any (fun e => decide (e.window ∈ mine))
  if ownsClipboard && persistent then
    retain (fun a e => a == Predef.clipboard || decide (e.window ∉ mine))
      (sels.insert Predef.clipboard (managerEntry timestamp))
  else retain (fun _ e => decide (e.window ∉ mine)) sels

def dropSelections (mine : List XId) (timestamp : Nat) (s : ClientState) : ClientState :=
  { s with shared := { s.shared with
      selections := releaseSelections mine timestamp s.shared.clipboardPersistent
        s.shared.selections } }

def unsubscribeClient (me : ClientId) (sh : Shared) : Shared :=
  { sh with
    subscriptions := retain (fun _ subs => !subs.isEmpty)
      (mapValues (fun subs => subs.filter (fun sub => sub.clientId != me)) sh.subscriptions)
    allClients := sh.allClients.filter (fun client => client != me) }

def unsubscribe (s : ClientState) : ClientState :=
  { s with shared := unsubscribeClient s.clientId s.shared }

def dropFocus (s : ClientState) : ClientState :=
  if s.focusWindow ∈ s.x11ToUuid ∧ s.focusWindow ≠ rootWindow then revertFocusFrom s.focusWindow s
  else s

def removeWindow (m : WindowMap) (w : XId) : WindowMap :=
  (match m.lookup w with
    | none => m
    | some win => modify win.parent (unlistChild w) m).erase w

def removeWindows (ws : List XId) (m : WindowMap) : WindowMap := ws.foldl removeWindow m

def uuidsOf (s : ClientState) (ws : List XId) : List Uuid := ws.filterMap s.x11ToUuid.lookup

def unregisterRoutes (ws : List XId) (uuids : List Uuid) (s : ClientState) : ClientState :=
  { s with shared := { s.shared with
      eventRoutes := eraseAll ws s.shared.eventRoutes
      windowRoutes := eraseAll uuids s.shared.windowRoutes } }

def destroyWindows (ws : List XId) (s : ClientState) : ClientState :=
  { s with
    windows := removeWindows ws s.windows
    shared := { s.shared with
      windows := removeWindows ws s.shared.windows
      updates := s.shared.updates ++
        (uuidsOf s ws).map (fun uuid => (s.clientId, .windowDestroyed uuid))
      windowIndex := eraseAll ws s.shared.windowIndex } }

def dropRecords (s : ClientState) : ClientState :=
  { s with
    cursors := ∅
    shared := { s.shared with
      recordContexts := retain (fun _ e => e.recordingClient != s.clientId)
        s.shared.recordContexts } }

def setRetainedTemporary (win : WindowState) : WindowState := { win with retainedTemporary := true }

def retainAll (ws : List XId) (m : WindowMap) : WindowMap :=
  ws.foldl (fun m w => modify w setRetainedTemporary m) m

def retainWindows (ws : List XId) (s : ClientState) : ClientState :=
  { s with
    windows := retainAll ws s.windows
    shared := { s.shared with windows := retainAll ws s.shared.windows } }

/-- The branches of the close-down mode: Destroy takes the windows of the UUID
table but for the saved ones, RetainTemporary all windows of the local map. -/
def closeDown (order : IterationOrder) (saved : List XId) (s : ClientState) : ClientState :=
  match s.closeDownMode with
  | 0 =>
    let ws := order.x11ToUuid.filter (fun w => decide (w ∉ saved))
    dropRecords (destroyWindows ws (unregisterRoutes ws (uuidsOf s ws) s))
  | 1 => s
  | 2 => unregisterRoutes order.windows (uuidsOf s order.windows) (retainWindows order.windows s)
  | _ => unregisterRoutes order.x11ToUuid (uuidsOf s order.x11ToUuid) s

/-- The read of zero bytes: the client has closed its end. -/
def eofTeardown (order : IterationOrder) (timestamp : Nat) (s : ClientState) : ClientState :=
  let (s', saved) := processSaveSet (releaseServerGrab s)
  closeDown order saved
    (dropFocus (unsubscribe (dropSelections order.x11ToUuid timestamp s')))

def dropChildren (gone : XId → Bool) (win : WindowState) : WindowState :=
  { win with childrenOrder := win.childrenOrder.filter (fun c => !gone c) }

def goneFrom (ws : List XId) (m : WindowMap) (p c : XId) : Bool :=
  decide (c ∈ ws ∧ (m.lookup c).map (·.parent) = some p)

theorem dropChildren_none {gone : XId → Bool} (h : ∀ c, gone c = false) :
    dropChildren gone = id := by
  funext win
  simp [dropChildren, h]

theorem goneFrom_single (m : WindowMap) (w a c : XId) :
    goneFrom [w] m a c = decide (c = w ∧ (m.lookup w).map (·.parent) = some a) := by
  simp only [goneFrom, mem_singleton]
  apply decide_eq_decide.mpr
  exact and_congr_right fun hc => by rw [hc]

theorem lookup_removeWindow (m : WindowMap) (w a : XId) :
    (removeWindow m w).lookup a = if a = w then none
      else (m.lookup a).map (dropChildren (goneFrom [w] m a)) := by
  rw [removeWindow, lookup_erase_eq]
  split
  · rfl
  · cases hw : m.lookup w with
    | none =>
      rw [dropChildren_none (fun c => by simp [goneFrom_single, hw])]
      simp
    | some win =>
      rw [lookup_modify]
      split
      · next heq =>
        subst heq
        congr 1
        funext p
        simp only [unlistChild, dropChildren]
        congr 1
        apply filter_congr
        intro c _
        simp [goneFrom_single, hw]
      · next hne =>
        rw [dropChildren_none (fun c => by simp [goneFrom_single, hw, Ne.symm hne])]
        simp

/-- The windows are gone from the map and from the lists of their parents, in
whatever order they are removed. -/
theorem lookup_removeWindows {ws : List XId} (hnd : ws.Nodup) (m : WindowMap) (a : XId) :
    (removeWindows ws m).lookup a = if a ∈ ws then none
      else (m.lookup a).map (dropChildren (goneFrom ws m a)) := by
  induction ws generalizing m with
  | nil =>
    rw [dropChildren_none (fun c => by simp [goneFrom])]
    simp [removeWindows]
  | cons w ws ih =>
    obtain ⟨hw, hws⟩ := nodup_cons.mp hnd
    change (removeWindows ws (removeWindow m w)).lookup a = _
    rw [ih hws, lookup_removeWindow]
    by_cases ha : a = w
    · subst ha
      simp
    · by_cases hmem : a ∈ ws
      · simp [hmem]
      · rw [if_neg hmem, if_neg ha, if_neg (by simp [ha, hmem]), Option.map_map]
        congr 1
        funext win
        simp only [Function.comp_apply, dropChildren, filter_filter]
        congr 1
        apply filter_congr
        intro c _
        by_cases hc : c = w
        · subst hc
          simp [goneFrom, hw]
        · have hpar : ((removeWindow m w).lookup c).map (·.parent) =
              (m.lookup c).map (·.parent) := by
            rw [lookup_removeWindow, if_neg hc, Option.map_map]
            rfl
          simp only [goneFrom, hpar, mem_cons, hc, false_or, not_mem_nil, false_and,
            decide_false, Bool.not_false, Bool.and_true]

theorem lookup_retainAll {ws : List XId} (hnd : ws.Nodup) (m : WindowMap) (a : XId) :
    (retainAll ws m).lookup a =
      if a ∈ ws then (m.lookup a).map setRetainedTemporary else m.lookup a :=
  lookup_foldl_pointwise (fun m w => modify w setRetainedTemporary m)
    (fun _ old => old.map setRetainedTemporary) (fun m k b => lookup_modify k b _ m) ws hnd m a

end X11Web.Teardown
