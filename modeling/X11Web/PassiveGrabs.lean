import X11Web.Grabs
import X11Web.Runs

namespace X11Web.PassiveGrabs

open Windows WindowTree Grabs Runs List

def passives (g : GrabState) : Device → List PassiveGrab
  | .pointer => g.buttonGrabs.map (·.toPassiveGrab)
  | .keyboard => g.keyGrabs

def ungrab (dev : Device) (window detail modifiers : Nat) (g : GrabState) : GrabState :=
  match dev with
  | .pointer => handleUngrabButton window detail modifiers g
  | .keyboard => handleUngrabKey window detail modifiers g

def activated (dev : Device) (s : ClientState) (detail modifiers : Nat) (window : XId) (g : GrabState) :
    Option PassiveGrab :=
  match dev with
  | .pointer =>
    (findGrab (·.toPassiveGrab) g.buttonGrabs s.windows detail modifiers maxTreeDepth window).map (·.toPassiveGrab)
  | .keyboard => findGrab id g.keyGrabs s.windows detail modifiers maxTreeDepth window

/-- The pattern of an ungrab stands for the button or key and the modifiers of the
grab: 0 for every detail, AnyModifier for every combination. -/
def Covers (detail modifiers : Nat) (e : PassiveGrab) : Prop :=
  (detail = 0 ∨ e.detail = detail) ∧ (modifiers = anyModifier ∨ e.modifiers = modifiers)

/-- The passive grab that a request of the client establishes on buttons, or on keys. -/
def established (dev : Device) (a : GrabAction) : Option PassiveGrab :=
  match dev, a with
  | .pointer, .grabButton _ req => some ⟨req.grabWindow, req.button, req.modifiers, req.pointerMode, req.keyboardMode,
      req.ownerEvents⟩
  | .keyboard, .grabKey _ req => some req
  | _, _ => none

variable {dev : Device} {window detail modifiers : Nat} {g g' : GrabState} {a : GrabAction} {e : PassiveGrab}

def Forgone (dev : Device) (window detail modifiers : Nat) (_ : GrabState) (a : GrabAction) : Prop :=
  ∀ e ∈ established dev a, e.grabWindow = window → ¬Covers detail modifiers e

def Cleared (dev : Device) (window detail modifiers : Nat) (g : GrabState) : Prop :=
  ∀ e ∈ passives g dev, e.grabWindow = window → ¬Covers detail modifiers e

theorem mem_of_findGrab {α : Type} {passive : α → PassiveGrab} {grabs : List α} {m : HashMaps.HashMap XId WindowState}
    {d mods n : Nat} {w : XId} {x : α} (h : findGrab passive grabs m d mods n w = some x) : x ∈ grabs := by
  induction n generalizing w with
  | zero => cases h
  | succ n ih =>
    rw [findGrab] at h
    split at h
    · next hfind => exact Option.some.inj h ▸ mem_of_find?_eq_some hfind
    split at h
    · cases h
    split at h
    · exact ih h
    · cases h

theorem activated_mem {s : ClientState} {d mods : Nat} {w : XId} (h : activated dev s d mods w g = some e) :
    e ∈ passives g dev := by
  cases dev with
  | pointer =>
    obtain ⟨x, hx, rfl⟩ := Option.map_eq_some_iff.mp h
    exact mem_map_of_mem (mem_of_findGrab hx)
  | keyboard => exact mem_of_findGrab h

def Keeps (g g' : GrabState) : Prop := g'.buttonGrabs = g.buttonGrabs ∧ g'.keyGrabs = g.keyGrabs

theorem Keeps.passives (h : Keeps g g') (dev : Device) : passives g' dev = passives g dev := by
  cases dev with
  | pointer => exact congrArg _ h.1
  | keyboard => exact h.2

variable (s : ClientState)

theorem handleGrabPointer_keeps (now : Nat) (req : GrabPointerRequest) (g : GrabState) :
    Keeps g (handleGrabPointer s now req g).1 := by
  rw [handleGrabPointer]
  split
  · exact ⟨rfl, rfl⟩
  split
  · exact ⟨rfl, rfl⟩
  split <;> exact ⟨rfl, rfl⟩

theorem handleGrabKeyboard_keeps (now : Nat) (req : GrabKeyboardRequest) (g : GrabState) :
    Keeps g (handleGrabKeyboard s now req g).1 := by
  rw [handleGrabKeyboard]
  split
  · exact ⟨rfl, rfl⟩
  split <;> exact ⟨rfl, rfl⟩

theorem handleUngrabPointer_keeps (g : GrabState) : Keeps g (handleUngrabPointer g).1 := by
  rw [handleUngrabPointer]
  split <;> exact ⟨rfl, rfl⟩

theorem handleUngrabKeyboard_keeps (g : GrabState) : Keeps g (handleUngrabKeyboard g).1 := by
  rw [handleUngrabKeyboard]
  split
  · exact ⟨rfl, rfl⟩
  · dsimp only
    split <;> exact ⟨rfl, rfl⟩

theorem handleAllowEvents_keeps (mode : Nat) (g : GrabState) : Keeps g (handleAllowEvents mode g).1 := by
  unfold handleAllowEvents
  split <;> exact ⟨rfl, rfl⟩

theorem checkPassiveButtonGrab_keeps (button mods : Nat) (w : XId) (g : GrabState) :
    Keeps g (checkPassiveButtonGrab s button mods w g).1 := by
  rw [checkPassiveButtonGrab]
  split <;> exact ⟨rfl, rfl⟩

theorem checkPassiveKeyGrab_keeps (keycode mods : Nat) (w : XId) (g : GrabState) :
    Keeps g (checkPassiveKeyGrab s keycode mods w g).1 := by
  rw [checkPassiveKeyGrab]
  split <;> exact ⟨rfl, rfl⟩

theorem checkButtonReleaseUngrab_keeps (buttonMask : Nat) (g : GrabState) :
    Keeps g (checkButtonReleaseUngrab buttonMask g).1 := by
  rw [checkButtonReleaseUngrab]
  split
  · exact ⟨rfl, rfl⟩
  split <;> exact ⟨rfl, rfl⟩

theorem handleChangeActivePointerGrab_keeps (cursor eventMask : Nat) (g : GrabState) :
    Keeps g (handleChangeActivePointerGrab s cursor eventMask g).1 := by
  rw [handleChangeActivePointerGrab]
  split <;> exact ⟨rfl, rfl⟩

theorem mem_handleGrabButton {s : ClientState} {req : GrabButtonRequest}
    (h : e ∈ passives (handleGrabButton s req g).1 dev) :
    e ∈ passives g dev ∨ e ∈ established dev (.grabButton s req) := by
  rw [handleGrabButton] at h
  split at h
  · exact .inl h
  split at h
  · exact .inl h
  cases dev with
  | pointer =>
    rcases mem_cons.mp h with rfl | h
    · exact .inr rfl
    · obtain ⟨x, hx, rfl⟩ := mem_map.mp h
      exact .inl (mem_map_of_mem (mem_of_mem_filter hx))
  | keyboard => exact .inl h

theorem mem_handleGrabKey {s : ClientState} {req : PassiveGrab} (h : e ∈ passives (handleGrabKey s req g).1 dev) :
    e ∈ passives g dev ∨ e ∈ established dev (.grabKey s req) := by
  rw [handleGrabKey] at h
  split at h
  · exact .inl h
  cases dev with
  | pointer => exact .inl h
  | keyboard =>
    rcases mem_cons.mp h with rfl | h
    · exact .inr rfl
    · exact .inl (mem_of_mem_filter h)

theorem mem_ungrab : e ∈ passives (ungrab dev window detail modifiers g) dev ↔
    e ∈ passives g dev ∧ e.survives window detail modifiers = true := by
  cases dev with
  | pointer =>
    simp only [passives, ungrab, handleUngrabButton, mem_map, mem_filter]
    constructor
    · rintro ⟨x, ⟨hx, hs⟩, rfl⟩
      exact ⟨⟨x, hx, rfl⟩, hs⟩
    · rintro ⟨⟨x, hx, rfl⟩, hs⟩
      exact ⟨x, ⟨hx, hs⟩, rfl⟩
  | keyboard => exact mem_filter

theorem mem_of_ungrab (d : Device) (h : e ∈ passives (ungrab d window detail modifiers g) dev) :
    e ∈ passives g dev := by
  cases d with
  | pointer =>
    cases dev with
    | pointer => exact (mem_ungrab.mp h).1
    | keyboard => exact h
  | keyboard =>
    cases dev with
    | pointer => exact h
    | keyboard => exact (mem_ungrab.mp h).1

theorem mem_passives_act (h : e ∈ passives (act g a).1 dev) : e ∈ passives g dev ∨ e ∈ established dev a := by
  have hkps : ∀ {g'}, Keeps g g' → e ∈ passives g' dev → e ∈ passives g dev ∨ e ∈ established dev a :=
    fun hk he => .inl (hk.passives dev ▸ he)
  cases a with
  | grabPointer s now req => exact hkps (handleGrabPointer_keeps s now req g) h
  | ungrabPointer => exact hkps (handleUngrabPointer_keeps g) h
  | grabButton s req => exact mem_handleGrabButton h
  | ungrabButton w d m => exact .inl (mem_of_ungrab .pointer h)
  | changeActivePointerGrab s cursor eventMask =>
    exact hkps (handleChangeActivePointerGrab_keeps s cursor eventMask g) h
  | grabKeyboard s now req => exact hkps (handleGrabKeyboard_keeps s now req g) h
  | ungrabKeyboard => exact hkps (handleUngrabKeyboard_keeps g) h
  | grabKey s req => exact mem_handleGrabKey h
  | ungrabKey w d m => exact .inl (mem_of_ungrab .keyboard h)
  | allowEvents mode => exact hkps (handleAllowEvents_keeps mode g) h
  | buttonPress s button mods w => exact hkps (checkPassiveButtonGrab_keeps s button mods w g) h
  | keyPress s keycode mods w => exact hkps (checkPassiveKeyGrab_keeps s keycode mods w g) h
  | buttonRelease mask => exact hkps (checkButtonReleaseUngrab_keeps mask g) h
  | event d e => cases d <;> exact hkps ⟨rfl, rfl⟩ h

theorem cleared_act (h : Cleared dev window detail modifiers g) (ha : Forgone dev window detail modifiers g a) :
    Cleared dev window detail modifiers (act g a).1 := fun e he =>
  (mem_passives_act he).elim (h e) (ha e)

/-- Steps of the grabs at which the client does not ask again for what it released. -/
def LaterStep (dev : Device) (window detail modifiers : Nat) : GrabState → GrabAction → GrabState → Prop :=
  guarded (Forgone dev window detail modifiers) fun g a g' => g' = (act g a).1

/-- The release is complete: however the grabs go on, as long as the client does not ask for
such a grab again, none of the window is left that the pattern covers, and no press
that the pattern stands for activates one. -/
def Complete (dev : Device) (window detail modifiers : Nat) (g : GrabState) : Prop :=
  ∀ actions g', Run (LaterStep dev window detail modifiers) (ungrab dev window detail modifiers g) actions g' →
    Cleared dev window detail modifiers g' ∧
    ∀ (s : ClientState) (d mods : Nat) (w : XId), (detail = 0 ∨ d = detail) →
      (modifiers = anyModifier ∨ mods = modifiers) →
      ∀ e, activated dev s d mods w g' = some e → e.grabWindow = window → ¬Covers detail modifiers e

/-- Any detail is released with any modifiers, or no grab of the window is covered but by
having that very detail and those very modifiers. -/
def Exactly (dev : Device) (window detail modifiers : Nat) (g : GrabState) : Prop :=
  (detail = 0 ∧ modifiers = anyModifier) ∨
    ∀ e ∈ passives g dev, e.grabWindow = window → Covers detail modifiers e →
      e.detail = detail ∧ e.modifiers = modifiers

theorem survives_iff (hw : e.grabWindow = window) : e.survives window detail modifiers = true ↔
    ¬(detail = 0 ∧ modifiers = anyModifier) ∧ ¬(e.detail = detail ∧ e.modifiers = modifiers) := by
  rw [PassiveGrab.survives]
  split
  · next hany => simp [hw, hany]
  · next hany => simp [PassiveGrab.same, hw, hany, imp_iff_not_or]

theorem cleared_ungrab_iff :
    Cleared dev window detail modifiers (ungrab dev window detail modifiers g) ↔
      Exactly dev window detail modifiers g := by
  by_cases hany : detail = 0 ∧ modifiers = anyModifier
  · refine iff_of_true (fun e he hw => ?_) (.inl hany)
    exact absurd hany ((survives_iff hw).mp (mem_ungrab.mp he).2).1
  · rw [Exactly, or_iff_right hany]
    constructor
    · intro h e he hw hc
      by_contra hne
      exact h e (mem_ungrab.mpr ⟨he, (survives_iff hw).mpr ⟨hany, hne⟩⟩) hw hc
    · intro h e he hw hc
      obtain ⟨he, hs⟩ := mem_ungrab.mp he
      exact ((survives_iff hw).mp hs).2 (h e he hw hc)

/-- UngrabButton and UngrabKey release all that their pattern covers exactly when it takes
no wildcard to cover it, or both. -/
theorem ungrab_complete_iff (dev : Device) (window detail modifiers : Nat) (g : GrabState) :
    Complete dev window detail modifiers g ↔ Exactly dev window detail modifiers g := by
  rw [← cleared_ungrab_iff]
  constructor
  · intro h
    exact (h [] _ (.nil _)).1
  · intro hcleared actions g' hrun
    have hlater : Cleared dev window detail modifiers g' := by
      refine hrun.invariant (I := Cleared dev window detail modifiers) ?_ hcleared
      rintro g a _ h ⟨hforgone, rfl⟩
      exact cleared_act h hforgone
    exact ⟨hlater, fun s d mods w _ _ e he => hlater e (activated_mem he)⟩

def grabbedOnce : GrabAction :=
  .grabButton (acceptClient 1 false 0 0 [] (initialShared (fun _ => ∅) ∅)) ⟨false, rootWindow, 4, 1, 1, 0, 0, 1, 1⟩

/-- A button that is released with AnyModifier stays grabbed with the modifier. -/
theorem anyModifier_leaves_grab :
    ¬∀ (actions : List GrabAction) (g : GrabState), Run (fun g a g' => g' = (act g a).1) {} actions g →
      Complete .pointer rootWindow 1 anyModifier g := by
  intro h
  have hcleared := (h [grabbedOnce] _ (.single rfl) [] _ (.nil _)).1
  exact hcleared ⟨rootWindow, 1, 1, 1, 1, false⟩ (by decide +kernel) rfl ⟨.inr rfl, .inl rfl⟩

end X11Web.PassiveGrabs
