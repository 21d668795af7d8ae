import X11Web.Attributes
import X11Web.Runs
import X11Web.Alternation

namespace X11Web.FocusEvents

open HashMaps Windows WindowTree Ewmh CreateDestroy List Function
open Attributes Runs Alternation

def focusChange : Nat := 2 ^ 21

/-- FocusIn or FocusOut, with the detail code of the protocol. -/
structure FocusEvent where
  isIn : Bool
  detail : Nat
  window : XId
deriving DecidableEq

/-- The parents of a window up to the root, the window itself not included. -/
def ancestorChainLoop (m : HashMap XId WindowState) : Nat → XId → List XId
  | 0, _ => []
  | n + 1, current =>
    match m.lookup current with
    | none => []
    | some w =>
      if w.parent ≠ 0 ∧ w.parent ≠ current then w.parent :: ancestorChainLoop m n w.parent else []

def ancestorChain (m : HashMap XId WindowState) (w : XId) : List XId := ancestorChainLoop m maxTreeDepth w

/-- The windows between the two, by way of their first common ancestor. -/
def nonlinearPath (oldChain newChain : List XId) : List XId :=
  match oldChain.find? (fun w => newChain.contains w || w == rootWindow) with
  | none => []
  | some common =>
    oldChain.takeWhile (fun w => w != common) ++ [common] ++
      (newChain.takeWhile (fun w => w != common)).reverse

/-- The details of FocusOut and FocusIn, and the windows that get virtual ones. -/
def computeFocusDetail (m : HashMap XId WindowState) (oldFocus newFocus : XId) : Nat × Nat × List XId :=
  if oldFocus = 0 then
    if newFocus = 1 then (7, 6, []) else (7, 3, [])
  else if oldFocus = 1 then
    if newFocus = 0 then (6, 7, []) else (6, 3, [])
  else if newFocus = 0 then (3, 7, [])
  else if newFocus = 1 then (3, 6, [])
  else
    let oldChain := ancestorChain m oldFocus
    let newChain := ancestorChain m newFocus
    if (oldChain.isEmpty || newChain.contains oldFocus) && newChain.contains oldFocus then
      (2, 0, newChain.takeWhile (fun w => w != oldFocus))
    else if (newChain.isEmpty || oldChain.contains newFocus) && oldChain.contains newFocus then
      (0, 2, oldChain.takeWhile (fun w => w != newFocus))
    else (3, 3, nonlinearPath oldChain newChain)

def sendFocusEvent (s : ClientState) (isIn : Bool) (detail : Nat) (w : XId) : List FocusEvent :=
  if windowSelects s w focusChange then [⟨isIn, detail, w⟩] else []

def virtualDetail (detail : Nat) : Nat := if detail = 0 ∨ detail = 2 then 1 else 4

def sendVirtual (s : ClientState) (isIn : Bool) (detail : Nat) (prevFocus newFocus : XId)
    (path : List XId) : List FocusEvent :=
  (path.filter (fun w => w != prevFocus && w != newFocus)).flatMap
    (sendFocusEvent s isIn (virtualDetail detail))

/-- What `set_focus_window` puts into the client's own queue. -/
def focusEvents (s : ClientState) (prevFocus newFocus : XId) : List FocusEvent :=
  if prevFocus ≠ newFocus then
    let (outDetail, inDetail, virtualPath) := computeFocusDetail s.windows prevFocus newFocus
    (if prevFocus ≠ 0 ∧ prevFocus ≠ 1 then
      sendFocusEvent s false outDetail prevFocus ++
        sendVirtual s false outDetail prevFocus newFocus virtualPath
    else if prevFocus = 1 then sendFocusEvent s false 6 rootWindow else []) ++
    (if newFocus ≠ 0 ∧ newFocus ≠ 1 then
      sendVirtual s true inDetail prevFocus newFocus virtualPath.reverse ++
        sendFocusEvent s true inDetail newFocus
    else if newFocus = 1 then sendFocusEvent s true 6 rootWindow else [])
  else []

def changeFocus (newFocus : XId) (s : ClientState) : ClientState × List FocusEvent :=
  (setFocusWindow newFocus s, focusEvents (setFocusWindow newFocus s) s.focusWindow newFocus)

def refreshFocusFromShared (s : ClientState) : ClientState := { s with focusWindow := s.shared.focus }

inductive FocusRequest
  | setInputFocus (revertTo : Nat) (focus : XId)
  | netActiveWindow (w : XId)
  | revertFocusFrom (w : XId)
deriving DecidableEq

/-- The window that gets the focus, if the request comes to set it. -/
def FocusRequest.target (s : ClientState) : FocusRequest → Option XId
  | .setInputFocus revertTo focus =>
      if revertTo > 2 then none
      else if focus > 1 ∧ focus ∉ s.windows ∧ focus ∉ s.shared.windows then none
      else some focus
  | .netActiveWindow w =>
      if ((s.windows.lookup w).bind (·.wmHintsInput)).getD true then some w else none
  | .revertFocusFrom w => if s.focusWindow = w then some (revertTarget s w) else none

def noteRevertTo (s : ClientState) : FocusRequest → ClientState
  | .setInputFocus revertTo _ => { s with focusRevertTo := revertTo }
  | _ => s

def handleFocus (r : FocusRequest) (s : ClientState) : ClientState × List FocusEvent :=
  match r.target s with
  | none => (s, [])
  | some newFocus => changeFocus newFocus (noteRevertTo s r)

/-- The clients of a server and the focus events that each has been given. -/
structure FocusSession where
  session : Session
  events : ClientId → List FocusEvent

inductive FocusAction
  | connect (client : ClientId) (msb : Bool) (pid connIndex : Nat) (hostname : Bytes)
  | request (client : ClientId) (r : FocusRequest)
  | getInputFocus (client : ClientId)
  | other (client : ClientId) (s : ClientState)
  | disconnect (client : ClientId)

/-- The clients act in any order. Between their focus changes they may do anything
that does not bear on the focus. -/
inductive focusStep : FocusSession → FocusAction → FocusSession → Prop
  | connect (t : FocusSession) (client : ClientId) (msb : Bool) (pid connIndex : Nat) (hostname : Bytes)
      (hnew : t.session.connections client = none) :
      focusStep t (.connect client msb pid connIndex hostname)
        ⟨t.session.put client (acceptClient client msb pid connIndex hostname t.session.shared),
          update t.events client []⟩
  | request (t : FocusSession) (client : ClientId) (conn : Connection) (r : FocusRequest)
      (hconn : t.session.connections client = some conn) :
      focusStep t (.request client r)
        ⟨t.session.put client (handleFocus r (t.session.view conn)).1,
          update t.events client
            (t.events client ++ (handleFocus r (t.session.view conn)).2)⟩
  | getInputFocus (t : FocusSession) (client : ClientId) (conn : Connection)
      (hconn : t.session.connections client = some conn) :
      focusStep t (.getInputFocus client)
        ⟨t.session.put client (refreshFocusFromShared (t.session.view conn)), t.events⟩
  | other (t : FocusSession) (client : ClientId) (conn : Connection) (s : ClientState)
      (hconn : t.session.connections client = some conn) (hcached : s.focusWindow = conn.focusWindow)
      (hshd : s.shared.focus = t.session.shared.focus) :
      focusStep t (.other client s) ⟨t.session.put client s, t.events⟩
  | disconnect (t : FocusSession) (client : ClientId) :
      focusStep t (.disconnect client)
        ⟨⟨t.session.shared, update t.session.connections client none⟩, t.events⟩

def selectsFocus (conn : Connection) (w : XId) : Bool :=
  (conn.windows.lookup w).any (fun win => win.eventMask &&& focusChange != 0)

def Selects (client : ClientId) (w : XId) (t : FocusSession) : Prop :=
  ∃ conn, t.session.connections client = some conn ∧ selectsFocus conn w = true

def isVirtual (detail : Nat) : Bool := detail == 1 || detail == 4

/-- The events on a window that are not virtual, as whether they are FocusIn. -/
def focusKinds (w : XId) (events : List FocusEvent) : List Bool :=
  (events.filter (fun e => e.window == w && !isVirtual e.detail)).map FocusEvent.isIn

/-- The focus goes from where the acting client has it to `newFocus`, and nobody
else has selected the change. -/
structure Unnoticed (t : FocusSession) (client : ClientId) (conn : Connection) (newFocus : XId) : Prop where
  others : ∀ c conn', c ≠ client → t.session.connections c = some conn' →
    t.session.shared.focus = newFocus ∨
      (selectsFocus conn' t.session.shared.focus = false ∧ selectsFocus conn' newFocus = false)
  cached : conn.focusWindow = t.session.shared.focus ∨
    (selectsFocus conn conn.focusWindow = false ∧ selectsFocus conn t.session.shared.focus = false)
  pointerRoot : conn.focusWindow = newFocus ∨ selectsFocus conn rootWindow = false ∨
    (conn.focusWindow ≠ 1 ∧ newFocus ≠ 1)

def InTouch (t : FocusSession) : FocusAction → Prop
  | .request client r => ∀ conn newFocus, t.session.connections client = some conn →
      r.target (t.session.view conn) = some newFocus → Unnoticed t client conn newFocus
  | _ => True

variable {s : ClientState} {w : XId} {t t' : FocusSession} {c : ClientId} {a : FocusAction}

theorem windowSelects_updateWindow {f : WindowState → WindowState} (hf : ∀ win, (f win).eventMask = win.eventMask)
    (v w : XId) (mask : Nat) (s : ClientState) :
    windowSelects (updateWindow v f s) w mask = windowSelects s w mask := by
  have hmask := lookup_modify_map (·.eventMask) v w f s.windows hf
  have hany (m : HashMap XId WindowState) : (m.lookup w).any (fun win => win.eventMask &&& mask != 0) =
      ((m.lookup w).map (·.eventMask)).any (fun selected => selected &&& mask != 0) := by
    cases m.lookup w <;> rfl
  rw [windowSelects, windowSelects, hany, hany]
  exact congrArg (Option.any (fun selected => selected &&& mask != 0)) hmask

theorem windowSelects_updateNetClientList (w : XId) (mask : Nat) (s : ClientState) :
    windowSelects (updateNetClientList s) w mask = windowSelects s w mask := by
  rw [updateNetClientList]
  change windowSelects (updateWindow rootWindow _ s) w mask = _
  apply windowSelects_updateWindow
  intro win
  rfl

theorem windowSelects_setFocusWindow (newFocus w : XId) (mask : Nat) (s : ClientState) :
    windowSelects (setFocusWindow newFocus s) w mask = windowSelects s w mask := by
  rw [setFocusWindow]
  split
  · rw [windowSelects_updateNetClientList, windowSelects_updateWindow]
    · rfl
    · intro win
      rfl
  · rfl

theorem setFocusWindow_focus (newFocus : XId) (s : ClientState) :
    (setFocusWindow newFocus s).focusWindow = newFocus ∧
      (setFocusWindow newFocus s).shared.focus = newFocus := by
  rw [setFocusWindow]
  split <;> exact ⟨rfl, rfl⟩

theorem focusKinds_append (w : XId) (es es' : List FocusEvent) :
    focusKinds w (es ++ es') = focusKinds w es ++ focusKinds w es' := by
  simp [focusKinds]

theorem focusKinds_sendFocusEvent (s : ClientState) (isIn : Bool) (detail : Nat) (v w : XId) :
    focusKinds w (sendFocusEvent s isIn detail v) =
      if v = w ∧ isVirtual detail = false ∧ windowSelects s w focusChange = true then [isIn] else [] := by
  rw [sendFocusEvent]
  by_cases hv : v = w
  · subst v
    cases windowSelects s w focusChange <;> cases hd : isVirtual detail <;> simp [focusKinds, hd]
  · cases windowSelects s v focusChange <;> simp [focusKinds, hv]

theorem focusKinds_sendVirtual (s : ClientState) (isIn : Bool) (detail : Nat) (prevFocus newFocus w : XId)
    (path : List XId) : focusKinds w (sendVirtual s isIn detail prevFocus newFocus path) = [] := by
  have hvirtual : isVirtual (virtualDetail detail) = true := by
    rw [virtualDetail]
    split <;> rfl
  rw [sendVirtual]
  induction path.filter (fun w => w != prevFocus && w != newFocus) with
  | nil => rfl
  | cons v path ih => rw [flatMap_cons, focusKinds_append, ih, focusKinds_sendFocusEvent]; simp [hvirtual]

theorem computeFocusDetail_not_virtual (m : HashMap XId WindowState) (oldFocus newFocus : XId) :
    isVirtual (computeFocusDetail m oldFocus newFocus).1 = false ∧
      isVirtual (computeFocusDetail m oldFocus newFocus).2.1 = false := by
  simp only [computeFocusDetail]
  repeat' split
  all_goals exact ⟨rfl, rfl⟩

/-- The events that one end of a focus change is told of: its own, and those of the
windows between, which are virtual. -/
theorem focusKinds_end (hw : 1 < w) {s : ClientState} {isIn : Bool} {detail : Nat} {focus : XId}
    {evs : List FocusEvent} (hevs : focusKinds w evs = focusKinds w (sendFocusEvent s isIn detail focus))
    (hdetail : isVirtual detail = false) :
    focusKinds w (if focus ≠ 0 ∧ focus ≠ 1 then evs
        else if focus = 1 then sendFocusEvent s isIn 6 rootWindow else []) =
      if (focus = w ∨ (focus = 1 ∧ rootWindow = w)) ∧ windowSelects s w focusChange = true then [isIn] else [] := by
  by_cases hfocus : focus ≠ 0 ∧ focus ≠ 1
  · rw [if_pos hfocus, hevs, focusKinds_sendFocusEvent]
    simp [hdetail, hfocus.2]
  · rw [if_neg hfocus]
    by_cases hroot : focus = 1
    · have hnot : (1 : XId) ≠ w := hw.ne
      rw [if_pos hroot, focusKinds_sendFocusEvent]
      simp [hroot, hnot, isVirtual]
    · have hnot : focus ≠ w := by
        rintro rfl
        exact hfocus ⟨(Nat.zero_lt_one.trans hw).ne', hroot⟩
      rw [if_neg hroot]
      simp [hroot, hnot, focusKinds]

theorem focusKinds_focusEvents (hw : 1 < w) {prevFocus newFocus : XId} (hne : prevFocus ≠ newFocus)
    (s : ClientState) :
    focusKinds w (focusEvents s prevFocus newFocus) =
      (if (prevFocus = w ∨ (prevFocus = 1 ∧ rootWindow = w)) ∧ windowSelects s w focusChange = true then
        [false] else []) ++
      (if (newFocus = w ∨ (newFocus = 1 ∧ rootWindow = w)) ∧ windowSelects s w focusChange = true then
        [true] else []) := by
  obtain ⟨hout, hin⟩ := computeFocusDetail_not_virtual s.windows prevFocus newFocus
  rw [focusEvents, if_pos hne, focusKinds_append]
  congr 1
  · refine focusKinds_end hw ?_ hout
    rw [focusKinds_append, focusKinds_sendVirtual, append_nil]
  · refine focusKinds_end hw ?_ hin
    rw [focusKinds_append, focusKinds_sendVirtual, nil_append]

/-- The events on the window take turns and tell where the focus is, given where
it was when the first of them could come. -/
structure Paired (c : ClientId) (w : XId) (startFocus : XId) (t : FocusSession) : Prop where
  alternates : Alternates (decide (startFocus ≠ w)) (focusKinds w (t.events c))
  turn : next (decide (startFocus ≠ w)) (focusKinds w (t.events c)) =
    decide (t.session.shared.focus ≠ w)

theorem Paired.of_same {startFocus : XId} (h : Paired c w startFocus t) (hevs : t'.events c = t.events c)
    (hfoc : t'.session.shared.focus = t.session.shared.focus ∨
      (t.session.shared.focus ≠ w ∧ t'.session.shared.focus ≠ w)) : Paired c w startFocus t' := by
  refine ⟨hevs ▸ h.alternates, ?_⟩
  rw [hevs, h.turn]
  rcases hfoc with hsame | ⟨hold, hnew⟩
  · rw [hsame]
  · simp [hold, hnew]

variable {conn : Connection}

theorem Unnoticed.cached_iff {newFocus : XId} (h : Unnoticed t c conn newFocus)
    (hsels : selectsFocus conn w = true) : conn.focusWindow = w ↔ t.session.shared.focus = w := by
  rcases h.cached with hsame | ⟨hcachedNot, hshdNot⟩
  · rw [hsame]
  · constructor
    · rintro rfl
      rw [hsels] at hcachedNot
      cases hcachedNot
    · rintro rfl
      rw [hsels] at hshdNot
      cases hshdNot

theorem Unnoticed.not_pointerRoot {newFocus : XId} (h : Unnoticed t c conn newFocus)
    (hsels : selectsFocus conn w = true) (hmvs : conn.focusWindow ≠ newFocus) :
    ¬ (conn.focusWindow = 1 ∧ rootWindow = w) ∧ ¬ (newFocus = 1 ∧ rootWindow = w) := by
  rcases h.pointerRoot with hsame | hnot | ⟨hold, hnew⟩
  · exact absurd hsame hmvs
  · refine ⟨?_, ?_⟩ <;>
    · rintro ⟨-, rfl⟩
      rw [hsels] at hnot
      cases hnot
  · exact ⟨fun hand => hold hand.1, fun hand => hnew hand.1⟩

theorem Paired.own {startFocus newFocus : XId} {s₀ : ClientState} (hw : 1 < w)
    (h : Paired c w startFocus t) (hsels : selectsFocus conn w = true)
    (hqt : Unnoticed t c conn newFocus) (hwins : s₀.windows = conn.windows)
    (hcached : s₀.focusWindow = conn.focusWindow)
    (hevs : t'.events c = t.events c ++ (changeFocus newFocus s₀).2)
    (hfoc : t'.session.shared.focus = newFocus) : Paired c w startFocus t' := by
  have hagr := hqt.cached_iff hsels
  have hturn := h.turn
  simp only [changeFocus, hcached] at hevs
  by_cases hstay : conn.focusWindow = newFocus
  · have hnone : focusEvents (setFocusWindow newFocus s₀) conn.focusWindow newFocus = [] := by
      simp [focusEvents, hstay]
    refine ⟨by simpa [hevs, hnone] using h.alternates, ?_⟩
    rw [hevs, hnone, append_nil, hturn, hfoc, ← hstay]
    simp [hagr]
  · have hroot := hqt.not_pointerRoot hsels hstay
    have hseld : windowSelects (setFocusWindow newFocus s₀) w focusChange = true := by
      rw [windowSelects_setFocusWindow, windowSelects, hwins]
      exact hsels
    have hkinds := focusKinds_focusEvents hw hstay (setFocusWindow newFocus s₀)
    simp only [hroot.1, hroot.2, or_false, hseld, and_true] at hkinds
    by_cases hold : conn.focusWindow = w
    · have hnew : newFocus ≠ w := fun heq => hstay (hold.trans heq.symm)
      rw [if_pos hold, if_neg hnew, append_nil] at hkinds
      rw [hagr.mp hold] at hturn
      refine ⟨?_, ?_⟩
      · rw [hevs, focusKinds_append, hkinds, alternates_concat]
        refine ⟨h.alternates, ?_⟩
        rw [hturn]
        simp
      · rw [hevs, focusKinds_append, hkinds, next_concat, hfoc]
        simp [hnew]
    · have hshd : t.session.shared.focus ≠ w := fun heq => hold (hagr.mpr heq)
      rw [if_neg hold, nil_append] at hkinds
      by_cases hnew : newFocus = w
      · rw [if_pos hnew] at hkinds
        refine ⟨?_, ?_⟩
        · rw [hevs, focusKinds_append, hkinds, alternates_concat]
          refine ⟨h.alternates, ?_⟩
          rw [hturn]
          simp [hshd]
        · rw [hevs, focusKinds_append, hkinds, next_concat, hfoc]
          simp [hnew]
      · rw [if_neg hnew] at hkinds
        refine ⟨?_, ?_⟩
        · rw [hevs, focusKinds_append, hkinds, append_nil]
          exact h.alternates
        · rw [hevs, focusKinds_append, hkinds, append_nil, hturn, hfoc]
          simp [hshd, hnew]

theorem Paired.step {startFocus : XId} (hw : 1 < w) (h : Paired c w startFocus t) (hsels : Selects c w t)
    (hgrd : InTouch t a) (hstep : focusStep t a t') : Paired c w startFocus t' := by
  obtain ⟨conn₀, hconn₀, hseld⟩ := hsels
  cases hstep with
  | connect client msb pid connIndex hostname hnew =>
    have hne : c ≠ client := by
      rintro rfl
      rw [hnew] at hconn₀
      cases hconn₀
    exact h.of_same (update_of_ne hne _ _) (.inl rfl)
  | getInputFocus client conn hconn => exact h.of_same rfl (.inl rfl)
  | other client conn s hconn hcached hshd => exact h.of_same rfl (.inl hshd)
  | disconnect client => exact h.of_same rfl (.inl rfl)
  | request client conn r hconn =>
    cases htgt : r.target (t.session.view conn) with
    | none =>
      have hnothing : handleFocus r (t.session.view conn) = (t.session.view conn, []) := by
        rw [handleFocus, htgt]
      refine h.of_same ?_ (.inl (by rw [hnothing]; rfl))
      simp [hnothing]
    | some newFocus =>
      have hqt := hgrd conn newFocus hconn htgt
      have hchg : handleFocus r (t.session.view conn) =
          changeFocus newFocus (noteRevertTo (t.session.view conn) r) := by
        rw [handleFocus, htgt]
      have hfoc : (t.session.put client (handleFocus r (t.session.view conn)).1).shared.focus = newFocus := by
        rw [hchg]
        exact (setFocusWindow_focus newFocus _).2
      by_cases hsame : c = client
      · subst client
        rw [hconn] at hconn₀
        cases hconn₀
        have hwins : (noteRevertTo (t.session.view conn₀) r).windows = conn₀.windows := by
          cases r <;> rfl
        have hcached : (noteRevertTo (t.session.view conn₀) r).focusWindow = conn₀.focusWindow := by
          cases r <;> rfl
        refine h.own hw hseld hqt hwins hcached ?_ hfoc
        simp [hchg]
      · refine h.of_same (update_of_ne hsame _ _) ?_
        rcases hqt.others c conn₀ hsame hconn₀ with heq | ⟨hold, hnew⟩
        · exact .inl (hfoc.trans heq.symm)
        · refine .inr ⟨?_, ?_⟩
          · rintro rfl
            rw [hold] at hseld
            cases hseld
          · rw [hfoc]
            rintro rfl
            rw [hnew] at hseld
            cases hseld

/-- A client that selects FocusChange on a window throughout a run in which every
change of the focus is its own, from the focus it has cached, or unselected: the
events on the window take turns, and the last one tells whether it has the focus. -/
theorem run_focusEvents {as : List FocusAction} (hw : 1 < w) (hnone : t.events c = [])
    (hrun : Run (guarded (fun t a => Selects c w t ∧ InTouch t a) focusStep) t as t') :
    Alternates (decide (t.session.shared.focus ≠ w)) (focusKinds w (t'.events c)) ∧
      ((focusKinds w (t'.events c)).getLast?.getD (decide (t.session.shared.focus = w)) = true ↔
        t'.session.shared.focus = w) := by
  have hst : Paired c w t.session.shared.focus t := by
    refine ⟨by rw [hnone]; trivial, ?_⟩
    simp [hnone, focusKinds, Alternation.next]
  have hpaired := hrun.invariant (I := Paired c w t.session.shared.focus) ?_ hst
  · refine ⟨hpaired.alternates, ?_⟩
    have hturn := hpaired.turn
    cases hlast : (focusKinds w (t'.events c)).getLast? with
    | none => simpa [Alternation.next, hlast] using hturn
    | some b => cases b <;> simpa [Alternation.next, hlast] using hturn
  · rintro t a t' hpaired ⟨⟨hsels, hgrd⟩, hstep⟩
    exact hpaired.step hw hsels hgrd hstep

def createFocusable (wid : XId) : CreateWindowRequest :=
  { depth := 0, wid := wid, parent := rootWindow, x := 0, y := 0, width := 1, height := 1,
    borderWidth := 0, winClass := 0, visual := 0, eventMask := some focusChange }

def newFirst : ClientState := acceptClient 1 false 0 0 [] (initialShared (fun _ => ∅) ∅)

def first : ClientState := (handleCreateWindow (createFocusable 0x400001) newFirst).1

def newSecond : ClientState := acceptClient 2 false 0 1 [] first.shared

def second : ClientState := (handleCreateWindow (createFocusable 0x800001) newSecond).1

def noClients : FocusSession := ⟨Session.start (fun _ => ∅) ∅, fun _ => []⟩

def twoClients : FocusSession :=
  ⟨(((noClients.session.put 1 newFirst).put 1 first).put 2 newSecond).put 2 second,
    update (update noClients.events 1 []) 2 []⟩

theorem run_twoClients :
    Run focusStep noClients [.connect 1 false 0 0 [], .other 1 first, .connect 2 false 0 1 [],
      .other 2 second] twoClients :=
  .cons (.connect _ 1 false 0 0 [] rfl)
    (.cons (.other _ 1 newFirst.toConnection first (Session.put_connections _ _ _) (by decide +kernel)
      (by decide +kernel))
      (.cons (.connect _ 2 false 0 1 [] rfl)
        (.single (.other _ 2 newSecond.toConnection second (Session.put_connections _ _ _)
          (by decide +kernel) (by decide +kernel)))))

theorem twoClients_first : twoClients.session.connections 1 = some first.toConnection := by
  simp [twoClients, Session.put]

theorem twoClients_second : twoClients.session.connections 2 = some second.toConnection := by
  simp [twoClients, Session.put]

def takeFirst : FocusRequest := .setInputFocus 1 0x400001

def takeSecond : FocusRequest := .setInputFocus 1 0x800001

def firstFocused : ClientState := (handleFocus takeFirst (twoClients.session.view first.toConnection)).1

def oneTaken : FocusSession :=
  ⟨twoClients.session.put 1 firstFocused,
    update twoClients.events 1 (twoClients.events 1 ++
      (handleFocus takeFirst (twoClients.session.view first.toConnection)).2)⟩

theorem takeFirst_step : focusStep twoClients (.request 1 takeFirst) oneTaken :=
  .request twoClients 1 first.toConnection takeFirst twoClients_first

theorem twoClients_selects : Selects 1 0x400001 twoClients :=
  ⟨first.toConnection, twoClients_first, by decide +kernel⟩

theorem twoClients_other {c : ClientId} (hc : c ≠ 1)
    (hconn : twoClients.session.connections c = some conn) : conn = second.toConnection := by
  by_cases h2 : c = 2
  · subst c
    exact (Option.some.inj (twoClients_second.symm.trans hconn)).symm
  · simp [twoClients, Session.put, hc, h2, noClients, Session.start] at hconn

theorem takeFirst_inTouch : InTouch twoClients (.request 1 takeFirst) := by
  intro conn newFocus hconn htgt
  obtain rfl := Option.some.inj (twoClients_first.symm.trans hconn)
  have hfst : takeFirst.target (twoClients.session.view first.toConnection) = some 0x400001 := by
    decide +kernel
  obtain rfl := Option.some.inj (hfst.symm.trans htgt)
  have hcached : first.focusWindow = twoClients.session.shared.focus := by decide +kernel
  have hroot : first.focusWindow ≠ 1 := by decide +kernel
  refine ⟨fun c conn' hc hconn' => .inr ?_, .inl hcached, .inr (.inr ⟨hroot, by decide⟩)⟩
  obtain rfl := twoClients_other hc hconn'
  decide +kernel

/-- One client that takes the focus hears of it. -/
theorem run_focusEvents_takeFirst :
    Run (guarded (fun t a => Selects 1 0x400001 t ∧ InTouch t a) focusStep) twoClients
        [.request 1 takeFirst] oneTaken ∧
      Alternates (decide (twoClients.session.shared.focus ≠ 0x400001))
        (focusKinds 0x400001 (oneTaken.events 1)) ∧
      ((focusKinds 0x400001 (oneTaken.events 1)).getLast?.getD
        (decide (twoClients.session.shared.focus = 0x400001)) = true ↔
        oneTaken.session.shared.focus = 0x400001) := by
  have hrun : Run (guarded (fun t a => Selects 1 0x400001 t ∧ InTouch t a) focusStep) twoClients
      [.request 1 takeFirst] oneTaken :=
    .single ⟨⟨twoClients_selects, takeFirst_inTouch⟩, takeFirst_step⟩
  exact ⟨hrun, run_focusEvents (by decide) (by simp [twoClients]) hrun⟩

/-- The second client takes the focus after the first: the first is not told. -/
theorem second_focus_unnoticed :
    ∃ t, Run focusStep noClients [.connect 1 false 0 0 [], .other 1 first, .connect 2 false 0 1 [],
        .other 2 second] twoClients ∧ twoClients.events 1 = [] ∧
      twoClients.session.shared.focus ≠ 0x400001 ∧
      Run (guarded (fun t _ => Selects 1 0x400001 t) focusStep) twoClients
        [.request 1 takeFirst, .request 2 takeSecond] t ∧ Selects 1 0x400001 t ∧
      ¬ ((focusKinds 0x400001 (t.events 1)).getLast? = some true ↔ t.session.shared.focus = 0x400001) := by
  have hfst : oneTaken.session.connections 1 = some firstFocused.toConnection :=
    Session.put_connections _ _ _
  have hsnd : oneTaken.session.connections 2 = some second.toConnection := by
    simp [oneTaken, twoClients, Session.put]
  have hseld : selectsFocus firstFocused.toConnection 0x400001 = true := by decide +kernel
  have hlast : (focusKinds 0x400001 (handleFocus takeFirst
      (twoClients.session.view first.toConnection)).2).getLast? = some true := by decide +kernel
  have hfoc : (handleFocus takeSecond (oneTaken.session.view second.toConnection)).1.shared.focus =
      0x800001 := by decide +kernel
  refine ⟨_, run_twoClients, by simp [twoClients], by decide +kernel,
    .cons ⟨twoClients_selects, takeFirst_step⟩
      (.single ⟨⟨_, hfst, hseld⟩, .request oneTaken 2 second.toConnection takeSecond hsnd⟩),
    ⟨firstFocused.toConnection, ?_, hseld⟩, fun hiff => ?_⟩
  · simpa [Session.put] using hfst
  · have htold : (focusKinds 0x400001 (oneTaken.events 1)).getLast? = some true := by
      simpa [oneTaken, twoClients] using hlast
    have hthere : (handleFocus takeSecond (oneTaken.session.view second.toConnection)).1.shared.focus =
        0x400001 := by
      simpa [Session.put] using hiff.mp (by simpa using htold)
    rw [hfoc] at hthere
    exact absurd hthere (by decide)

end X11Web.FocusEvents
