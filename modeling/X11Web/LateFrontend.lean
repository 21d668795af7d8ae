import X11Web.LastWrites
import X11Web.Protocol

namespace X11Web.LateFrontend

open HashMaps LastWrites Protocol Option

/-- What the frontend shows of a window, as far as the sidecar's updates decide it. -/
structure WindowRow where
  title : String
  wmState : WindowWmState
  menu : List MenuItem
  focused : Bool

abbrev Rows := String → Option WindowRow

def seedForDescriptor (d : WindowDescriptor) : WindowRow where
  title := if d.command = "" then "PID " ++ toString d.pid.toNat else d.command
  wmState := .normal
  menu := []
  focused := false

/-- The listed windows keep their rows or get new ones; the others lose theirs. -/
def applyWindowList (descriptors : List WindowDescriptor) (rows : Rows) : Rows := fun w =>
  (descriptors.find? (fun d => d.windowId == w)).map (fun d => (rows w).getD (seedForDescriptor d))

def patchWindow (windowId : String) (patch : WindowRow → WindowRow) (rows : Rows) : Rows := fun w =>
  if w = windowId then (rows w).map patch else rows w

def setFocusedWindow (windowId : Option String) (rows : Rows) : Rows := fun w =>
  (rows w).map (fun row => { row with focused := decide (windowId = some w) })

def applyWindowUpdate (rows : Rows) : WindowUpdate → Rows
  | .titleChanged windowId title => patchWindow windowId (fun row => { row with title := title }) rows
  | .focused windowId => setFocusedWindow windowId rows
  | .menuStructure windowId menu => patchWindow windowId (fun row => { row with menu := menu }) rows
  | .stateChanged windowId state => patchWindow windowId (fun row => { row with wmState := state }) rows

def updateToWindowUpdate : DisplayUpdate → Option WindowUpdate
  | .titleChanged windowId title => some (.titleChanged windowId title)
  | .windowStateChanged windowId state => some (.stateChanged windowId state)
  | .windowFocused windowId => some (.focused windowId)
  | .menuStructure windowId menu => some (.menuStructure windowId menu)
  | _ => none

/-- The backend sends the window list whenever it changes, and hands on the updates
of the clients. -/
inductive Event
  | windowList (windows : List WindowDescriptor)
  | display (clientId : String) (update : DisplayUpdate)

structure Backend where
  windows : List WindowDescriptor
  displayBuffers : HashMap String (List WindowUpdate)

def Backend.new : Backend := ⟨[], ∅⟩

def Backend.step (b : Backend) : Event → Backend
  | .windowList windows => { b with windows := windows }
  | .display clientId update =>
    match updateToWindowUpdate update with
    | none => b
    | some u => { b with
        displayBuffers := b.displayBuffers.insert clientId ((b.displayBuffers.lookup clientId).getD [] ++ [u]) }

def backend (events : List Event) : Backend := events.foldl Backend.step Backend.new

def frontendStep (rows : Rows) : Event → Rows
  | .windowList windows => applyWindowList windows rows
  | .display _ update =>
    match updateToWindowUpdate update with
    | none => rows
    | some u => applyWindowUpdate rows u

def live (events : List Event) : Rows := events.foldl frontendStep (fun _ => none)

/-- A frontend connects: it is sent the window list and then the buffered updates,
client by client in the iteration order of the map. -/
def connect (order : List String) (b : Backend) : Rows :=
  (replay order b.displayBuffers).foldl applyWindowUpdate (applyWindowList b.windows (fun _ => none))

/-- Whatever the iteration order, a frontend that connects now sees what the others see. -/
def SeesTheSame (events : List Event) : Prop :=
  ∀ order, IterationOrder order (backend events).displayBuffers → connect order (backend events) = live events

def titleOf (w : String) : WindowUpdate → Option String
  | .titleChanged windowId title => if windowId = w then some title else none
  | _ => none

def stateOf (w : String) : WindowUpdate → Option WindowWmState
  | .stateChanged windowId state => if windowId = w then some state else none
  | _ => none

def menuOf (w : String) : WindowUpdate → Option (List MenuItem)
  | .menuStructure windowId menu => if windowId = w then some menu else none
  | _ => none

def focusOf (w : String) : WindowUpdate → Option Bool
  | .focused windowId => some (decide (windowId = some w))
  | _ => none

/-- One event in the life of a listed window: the descriptor it was first listed with,
and the updates since. -/
def listingStep (w : String) (acc : Option (WindowDescriptor × List WindowUpdate)) :
    Event → Option (WindowDescriptor × List WindowUpdate)
  | .windowList windows => (windows.find? (fun d => d.windowId == w)).map (fun d => acc.getD (d, []))
  | .display _ update =>
    match updateToWindowUpdate update with
    | none => acc
    | some u => acc.map (fun p => (p.1, p.2 ++ [u]))

def listing (w : String) (events : List Event) : Option (WindowDescriptor × List WindowUpdate) :=
  events.foldl (listingStep w) none

/-- Every client that has written the value has, as its last one, the same as the last
of the updates `us` since the window is listed; where no client has, the value that the
window is listed with now is that of then. -/
def Agrees {β : Type} (f : WindowUpdate → Option β) (buffers : HashMap String (List WindowUpdate))
    (us : List WindowUpdate) (first now : β) : Prop :=
  (∀ clientId log, buffers.lookup clientId = some log → ∀ v, lastWrite f log = some v →
      v = (lastWrite f us).getD first) ∧
    ((∀ clientId log, buffers.lookup clientId = some log → lastWrite f log = none) →
      now = (lastWrite f us).getD first)

/-- The condition on one window, for all that its row shows. -/
structure Settled (w : String) (buffers : HashMap String (List WindowUpdate)) (us : List WindowUpdate)
    (first now : WindowDescriptor) : Prop where
  title : Agrees (titleOf w) buffers us (seedForDescriptor first).title (seedForDescriptor now).title
  state : Agrees (stateOf w) buffers us .normal .normal
  menu : Agrees (menuOf w) buffers us [] []
  focus : Agrees (focusOf w) buffers us false false

def patchRow (w : String) (row : WindowRow) (u : WindowUpdate) : WindowRow where
  title := (titleOf w u).getD row.title
  wmState := (stateOf w u).getD row.wmState
  menu := (menuOf w u).getD row.menu
  focused := (focusOf w u).getD row.focused

theorem applyWindowUpdate_apply (rows : Rows) (u : WindowUpdate) (w : String) :
    applyWindowUpdate rows u w = (rows w).map (fun row => patchRow w row u) := by
  cases u with
  | focused windowId =>
    simp [applyWindowUpdate, setFocusedWindow, patchRow, titleOf, stateOf, menuOf, focusOf]
  | titleChanged windowId _ | stateChanged windowId _ | menuStructure windowId _ =>
    by_cases h : w = windowId
    · simp [applyWindowUpdate, patchWindow, patchRow, titleOf, stateOf, menuOf, focusOf, h]
    · have h' : windowId ≠ w := Ne.symm h
      simp [applyWindowUpdate, patchWindow, patchRow, titleOf, stateOf, menuOf, focusOf, h, h']

theorem foldl_applyWindowUpdate (us : List WindowUpdate) (rows : Rows) (w : String) :
    us.foldl applyWindowUpdate rows w = (rows w).map (fun row => us.foldl (patchRow w) row) := by
  induction us generalizing rows with
  | nil => simp
  | cons u us ih =>
    rw [List.foldl_cons, ih, applyWindowUpdate_apply, map_map]
    rfl

theorem foldl_patchRow (us : List WindowUpdate) (row : WindowRow) (w : String) :
    us.foldl (patchRow w) row =
      ⟨(lastWrite (titleOf w) us).getD row.title, (lastWrite (stateOf w) us).getD row.wmState,
        (lastWrite (menuOf w) us).getD row.menu, (lastWrite (focusOf w) us).getD row.focused⟩ := by
  have htitle := foldl_field (f := titleOf w) (g := patchRow w) (p := WindowRow.title) (fun _ _ => rfl) row us
  have hst := foldl_field (f := stateOf w) (g := patchRow w) (p := WindowRow.wmState) (fun _ _ => rfl) row us
  have hmenu := foldl_field (f := menuOf w) (g := patchRow w) (p := WindowRow.menu) (fun _ _ => rfl) row us
  have hfoc := foldl_field (f := focusOf w) (g := patchRow w) (p := WindowRow.focused) (fun _ _ => rfl) row us
  rw [← htitle, ← hst, ← hmenu, ← hfoc]

theorem live_apply (events : List Event) (w : String) :
    live events w = (listing w events).map (fun p => p.2.foldl (patchRow w) (seedForDescriptor p.1)) := by
  induction events using List.reverseRecOn with
  | nil => rfl
  | append_singleton events e ih =>
    rw [live, listing, List.foldl_concat, List.foldl_concat]
    change frontendStep (live events) e w = (listingStep w (listing w events) e).map _
    cases e with
    | windowList windows =>
      simp only [frontendStep, applyWindowList, listingStep, ih]
      cases windows.find? (fun d => d.windowId == w) with
      | none => rfl
      | some d => cases listing w events <;> rfl
    | display clientId update =>
      simp only [frontendStep, listingStep]
      cases updateToWindowUpdate update with
      | none => exact ih
      | some u =>
        simp only [applyWindowUpdate_apply, ih, map_map]
        congr 1
        funext p
        simp

theorem listing_isSome (events : List Event) (w : String) :
    (listing w events).isSome = ((backend events).windows.find? (fun d => d.windowId == w)).isSome := by
  induction events using List.reverseRecOn with
  | nil => rfl
  | append_singleton events e ih =>
    rw [backend, listing, List.foldl_concat, List.foldl_concat]
    change (listingStep w (listing w events) e).isSome = ((((backend events).step e).windows).find? _).isSome
    cases e with
    | windowList windows =>
      simp [listingStep, Backend.step]
    | display clientId update =>
      simp only [listingStep, Backend.step]
      cases updateToWindowUpdate update with
      | none => exact ih
      | some u => simpa using ih

theorem connect_apply (order : List String) (b : Backend) (w : String) :
    connect order b w = (b.windows.find? (fun d => d.windowId == w)).map
      (fun d => (replay order b.displayBuffers).foldl (patchRow w) (seedForDescriptor d)) := by
  rw [connect, foldl_applyWindowUpdate, applyWindowList, map_map]
  rfl

theorem row_agrees_iff (buffers : HashMap String (List WindowUpdate)) (us : List WindowUpdate)
    (first now : WindowDescriptor) (w : String) :
    (∀ order, IterationOrder order buffers → (replay order buffers).foldl (patchRow w) (seedForDescriptor now) =
        us.foldl (patchRow w) (seedForDescriptor first)) ↔ Settled w buffers us first now := by
  simp only [foldl_patchRow, WindowRow.mk.injEq]
  constructor
  · intro h
    exact ⟨forall_replay_iff.mp fun order ho => (h order ho).1, forall_replay_iff.mp fun order ho => (h order ho).2.1,
      forall_replay_iff.mp fun order ho => (h order ho).2.2.1, forall_replay_iff.mp fun order ho => (h order ho).2.2.2⟩
  · intro h order ho
    exact ⟨forall_replay_iff.mpr h.title order ho, forall_replay_iff.mpr h.state order ho,
      forall_replay_iff.mpr h.menu order ho, forall_replay_iff.mpr h.focus order ho⟩

theorem seesTheSame_iff (events : List Event) :
    SeesTheSame events ↔ ∀ w first us now, listing w events = some (first, us) →
      (backend events).windows.find? (fun d => d.windowId == w) = some now →
        Settled w (backend events).displayBuffers us first now := by
  constructor
  · intro h w first us now hlisting hnow
    refine (row_agrees_iff _ us first now w).mp fun order hord => ?_
    have hrow := congrFun (h order hord) w
    rw [connect_apply, live_apply, hlisting, hnow] at hrow
    exact some.inj hrow
  · intro h order hord
    funext w
    have hsome := listing_isSome events w
    rw [connect_apply, live_apply]
    cases hnow : (backend events).windows.find? (fun d => d.windowId == w) with
    | none =>
      rw [hnow, isSome_none, isSome_eq_false_iff, isNone_iff_eq_none] at hsome
      rw [hsome]
      rfl
    | some now =>
      rw [hnow, isSome_some] at hsome
      obtain ⟨⟨first, us⟩, hlisting⟩ := isSome_iff_exists.mp hsome
      rw [hlisting]
      exact congrArg some ((row_agrees_iff _ us first now w).mpr (h w first us now hlisting hnow) order hord)

/-- The windows of two clients, and each of them gets the focus once. -/
def twoFocused : List Event :=
  [.windowList [⟨"u", "s", 1, "xterm", 0, 0, 80, 25, 0, 0, false, true⟩,
      ⟨"v", "s", 2, "xclock", 0, 0, 64, 64, 0, 0, false, true⟩],
    .display "a" (.windowFocused (some "u")), .display "b" (.windowFocused (some "v"))]

/-- The client whose window had the focus first may be replayed last. -/
theorem not_seesTheSame_twoFocused : ¬ ∀ events, SeesTheSame events := by
  intro h
  have hord : IterationOrder ["b", "a"] (backend twoFocused).displayBuffers := by
    refine ⟨by decide, fun k => ?_⟩
    have hbufs : (backend twoFocused).displayBuffers =
        Finmap.insert "b" [.focused (some "v")] (Finmap.insert "a" [.focused (some "u")] ∅) := rfl
    simp [hbufs, Finmap.notMem_empty]
  have hrow := congrArg (Option.map WindowRow.focused) (congrFun (h twoFocused ["b", "a"] hord) "u")
  have hlate : (connect ["b", "a"] (backend twoFocused) "u").map WindowRow.focused = some true := by
    decide +kernel
  have hlive : (live twoFocused "u").map WindowRow.focused = some false := by
    decide +kernel
  rw [hlate, hlive] at hrow
  cases hrow

end X11Web.LateFrontend
