import X11Web.Grabs
import X11Web.Runs

namespace X11Web.FrozenDevices

open Windows Grabs Runs

variable {g g' : GrabState} {dev : Device}

/-- Without a grab no device is held back: no flag is set, no event is queued. -/
def Thawed (g : GrabState) : Prop :=
  g.pointerGrab = none → g.keyboardGrab = none → g.pointer = {} ∧ g.keyboard = {}

/-- The action ends no last grab under which the other device is held back, nor
asks for a re-freeze when there is no grab. -/
def KeepsThawed (g : GrabState) : GrabAction → Prop
  | .ungrabPointer => g.pointerGrab.isSome → g.keyboardGrab = none →
      g.pointer.syncPending = false ∧ g.keyboard = {}
  | .ungrabKeyboard => ∀ grab, g.keyboardGrab = some grab → g.pointerGrab = none →
      grab.pointerMode = 0 ∨ g.pointer = {}
  | .allowEvents mode =>
    match mode with
    | 1 | 4 | 7 => g.pointerGrab.isSome ∨ g.keyboardGrab.isSome
    | 2 => g.pointerGrab.isSome → g.keyboardGrab = none → g.keyboard = {}
    | 5 => g.keyboardGrab.isSome → g.pointerGrab = none → g.pointer = {}
    | _ => True
  | .buttonRelease buttonMask => buttonMask &&& buttonStateMaskAll = 0 →
      g.pointerGrab.isSome → g.keyboardGrab = none → g.keyboard = {}
  | _ => True

theorem thaw_eq_clear (f : Freeze) : { f.thaw with syncPending := false } = ({} : Freeze) := rfl

theorem Thawed.of_held (h : g.pointerGrab.isSome ∨ g.keyboardGrab.isSome) : Thawed g := by
  intro hp hk
  simp [hp, hk] at h

theorem Thawed.of_same (h : Thawed g) (hptr : g'.pointer = g.pointer)
    (hkbd : g'.keyboard = g.keyboard) (hp : g'.pointerGrab = none → g.pointerGrab = none)
    (hk : g'.keyboardGrab = none → g.keyboardGrab = none) : Thawed g' := by
  intro hp' hk'
  rw [hptr, hkbd]
  exact h (hp hp') (hk hk')

variable (s : ClientState)

theorem handleGrabPointer_thawed (now : Nat) (req : GrabPointerRequest)
    (h : Thawed g) : Thawed (handleGrabPointer s now req g).1 := by
  rw [handleGrabPointer]
  split
  · exact h
  · split
    · exact h
    · split
      · exact h
      · exact Thawed.of_held (.inl rfl)

theorem handleGrabKeyboard_thawed (now : Nat) (req : GrabKeyboardRequest)
    (h : Thawed g) : Thawed (handleGrabKeyboard s now req g).1 := by
  rw [handleGrabKeyboard]
  split
  · exact h
  · split
    · exact h
    · exact Thawed.of_held (.inr rfl)

theorem handleUngrabPointer_thawed_iff (h : Thawed g) :
    Thawed (handleUngrabPointer g).1 ↔ KeepsThawed g .ungrabPointer := by
  rw [handleUngrabPointer, KeepsThawed]
  cases hp : g.pointerGrab with
  | none => simpa [hp] using h
  | some grab => simp [Thawed, Freeze.thaw]

theorem handleUngrabKeyboard_thawed_iff (h : Thawed g) :
    Thawed (handleUngrabKeyboard g).1 ↔ KeepsThawed g .ungrabKeyboard := by
  rw [handleUngrabKeyboard, KeepsThawed]
  cases hk : g.keyboardGrab with
  | none => simpa [hk] using h
  | some grab =>
    by_cases hmode : grab.pointerMode = 0 ∧ g.pointerGrab = none
    · simp [hmode, thawKeyboard, thawPointer, Thawed, Freeze.thaw]
    · simp only [hmode, if_false, thawKeyboard, Thawed, thaw_eq_clear]
      grind

theorem handleAllowEvents_thawed_iff (mode : Nat) (h : Thawed g) :
    Thawed (handleAllowEvents mode g).1 ↔ KeepsThawed g (.allowEvents mode) := by
  match mode with
  | 0 | 3 | 6 =>
    refine iff_of_true (fun hp hk => ?_) trivial
    obtain ⟨hptr, hkbd⟩ := h hp hk
    simp [handleAllowEvents, thawPointer, thawKeyboard, thawBoth, thaw_eq_clear, hptr, hkbd]
  | 1 | 4 | 7 =>
    cases hp : g.pointerGrab <;> cases hk : g.keyboardGrab <;>
      simp [handleAllowEvents, KeepsThawed, thawPointer, thawKeyboard, thawBoth, Thawed, hp, hk]
  | 2 =>
    cases hp : g.pointerGrab with
    | none =>
      refine iff_of_true (fun _ hk => ?_) (by simp [KeepsThawed, hp])
      exact ⟨rfl, (h hp hk).2⟩
    | some grab => simp [handleAllowEvents, KeepsThawed, thawPointer, Thawed, thaw_eq_clear, hp]
  | 5 =>
    cases hk : g.keyboardGrab with
    | none =>
      refine iff_of_true (fun hp _ => ?_) (by simp [KeepsThawed, hk])
      exact ⟨(h hp hk).1, rfl⟩
    | some grab => simp [handleAllowEvents, KeepsThawed, thawKeyboard, Thawed, thaw_eq_clear, hk]
  | n + 8 => simpa [handleAllowEvents, KeepsThawed] using h

theorem checkButtonReleaseUngrab_thawed_iff (buttonMask : Nat) (h : Thawed g) :
    Thawed (checkButtonReleaseUngrab buttonMask g).1 ↔ KeepsThawed g (.buttonRelease buttonMask) := by
  rw [checkButtonReleaseUngrab, KeepsThawed]
  cases hp : g.pointerGrab with
  | none => simpa [hp] using h
  | some grab =>
    by_cases hmask : buttonMask &&& buttonStateMaskAll = 0
    · simp [hmask, thawPointer, Thawed, Freeze.thaw]
    · simpa [hmask, hp] using h

theorem checkPassiveButtonGrab_thawed (button modifiers : Nat) (window : XId)
    (h : Thawed g) : Thawed (checkPassiveButtonGrab s button modifiers window g).1 := by
  rw [checkPassiveButtonGrab]
  split
  · exact h
  · exact Thawed.of_held (.inl rfl)

theorem checkPassiveKeyGrab_thawed (keycode modifiers : Nat) (window : XId)
    (h : Thawed g) : Thawed (checkPassiveKeyGrab s keycode modifiers window g).1 := by
  rw [checkPassiveKeyGrab]
  split
  · exact h
  · exact Thawed.of_held (.inr rfl)

theorem check_clear (e : Bytes) : (({} : Freeze).check e).1 = {} := rfl

theorem event_thawed (dev : Device) (e : Bytes) (h : Thawed g) :
    Thawed (act g (.event dev e)).1 := by
  intro hp hk
  cases dev with
  | pointer =>
    obtain ⟨hptr, hkbd⟩ := h hp hk
    refine ⟨?_, hkbd⟩
    change (g.pointer.check e).1 = {}
    rw [hptr, check_clear]
  | keyboard =>
    obtain ⟨hptr, hkbd⟩ := h hp hk
    refine ⟨hptr, ?_⟩
    change (g.keyboard.check e).1 = {}
    rw [hkbd, check_clear]

theorem act_thawed_iff (a : GrabAction) (h : Thawed g) : Thawed (act g a).1 ↔ KeepsThawed g a := by
  cases a with
  | grabPointer s now req => exact iff_of_true (handleGrabPointer_thawed s now req h) trivial
  | ungrabPointer => exact handleUngrabPointer_thawed_iff h
  | grabButton s req =>
    refine iff_of_true ?_ trivial
    dsimp only [act, handleGrabButton]
    split
    · exact h
    · split
      · exact h
      · exact h.of_same rfl rfl id id
  | ungrabButton window button modifiers => exact iff_of_true (h.of_same rfl rfl id id) trivial
  | changeActivePointerGrab s cursor eventMask =>
    refine iff_of_true ?_ trivial
    dsimp only [act, handleChangeActivePointerGrab]
    split
    · exact h
    · exact h.of_same rfl rfl Option.map_eq_none_iff.mp id
  | grabKeyboard s now req => exact iff_of_true (handleGrabKeyboard_thawed s now req h) trivial
  | ungrabKeyboard => exact handleUngrabKeyboard_thawed_iff h
  | grabKey s req =>
    refine iff_of_true ?_ trivial
    dsimp only [act, handleGrabKey]
    split
    · exact h
    · exact h.of_same rfl rfl id id
  | ungrabKey window key modifiers => exact iff_of_true (h.of_same rfl rfl id id) trivial
  | allowEvents mode => exact handleAllowEvents_thawed_iff mode h
  | buttonPress s button modifiers window =>
    exact iff_of_true (checkPassiveButtonGrab_thawed s button modifiers window h) trivial
  | keyPress s keycode modifiers window =>
    exact iff_of_true (checkPassiveKeyGrab_thawed s keycode modifiers window h) trivial
  | buttonRelease buttonMask => exact checkButtonReleaseUngrab_thawed_iff buttonMask h
  | event dev e => exact iff_of_true (event_thawed dev e h) trivial

def GrabStep (g : GrabState) (a : GrabAction) (g' : GrabState) : Prop := g' = (act g a).1

/-- As long as no last grab ends over a device that it leaves held back, a
device is only ever held back under a grab. -/
theorem guardedRun_thawed {actions : List GrabAction}
    (hrun : Run (guarded KeepsThawed GrabStep) {} actions g) : Thawed g := by
  refine hrun.invariant (I := Thawed) ?_ (fun _ _ => ⟨rfl, rfl⟩)
  rintro g a _ h ⟨hgrd, rfl⟩
  exact (act_thawed_iff a h).mpr hgrd

def firstClient : ClientState := acceptClient 1 false 0 0 [] (initialShared (fun _ => ∅) ∅)

/-- A grab of the root that holds back the pointer alone, or the keyboard alone. -/
def grabRoot (pointerMode keyboardMode : Nat) : GrabAction :=
  .grabPointer firstClient 0 ⟨false, rootWindow, 0, pointerMode, keyboardMode, 0, 0, 0⟩

theorem guardedRun_thawed_ungrab :
    Thawed (act (act (act {} (grabRoot 0 1)).1 (.event .pointer [6])).1 .ungrabPointer).1 := by
  have hrun : Run (guarded KeepsThawed GrabStep) {}
      [grabRoot 0 1, .event .pointer [6], .ungrabPointer] _ :=
    .cons ⟨trivial, rfl⟩ (.cons ⟨trivial, rfl⟩ (.single ⟨fun _ _ => by decide +kernel, rfl⟩))
  exact guardedRun_thawed hrun

/-- A pointer grab with a synchronous keyboard leaves the keyboard frozen. -/
theorem ungrabPointer_leaves_frozen :
    ¬ ∀ (actions : List GrabAction) (g : GrabState), Run GrabStep {} actions g → Thawed g := by
  intro h
  have hthawed := h [grabRoot 1 0, .ungrabPointer] _ (.cons rfl (.single rfl))
  obtain ⟨-, hkbd⟩ := hthawed (by decide +kernel) (by decide +kernel)
  revert hkbd
  decide +kernel

end X11Web.FrozenDevices
