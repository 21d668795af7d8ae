import X11Web.Grabs
import X11Web.Runs

namespace X11Web.ExplicitGrabs

open Windows WindowTree Grabs Runs

/-- The grabs of a connection, with a note of whether the pointer grab is one that
GrabPointer established. -/
structure Origin where
  grabs : GrabState
  explicit : Bool

variable {o : Origin} {a : GrabAction}

/-- Whether the pointer grab after the action is an explicit one: GrabPointer puts one in
place, a passive grab that is activated takes its place, and otherwise it stays what it is
as long as there is one. -/
def explicitAfter (o : Origin) : GrabAction → Bool
  | .grabPointer s now req =>
    (handleGrabPointer s now req o.grabs).2 == .reply .success || o.explicit
  | .buttonPress s button modifiers window =>
    !(checkPassiveButtonGrab s button modifiers window o.grabs).2 && o.explicit
  | a => (act o.grabs a).1.pointerGrab.isSome && o.explicit

def next (o : Origin) (a : GrabAction) : Origin := ⟨(act o.grabs a).1, explicitAfter o a⟩

def Releases : GrabAction → Prop
  | .ungrabPointer => True
  | .allowEvents mode => mode = 2
  | _ => False

/-- An explicit grab outlives every action that does not release it. -/
def Held (o : Origin) (a : GrabAction) : Prop := o.explicit = true → ¬Releases a → (next o a).explicit = true

/-- Under an explicit grab no press meets a passive grab, and no release is that of the
last button. -/
def Spared (o : Origin) (a : GrabAction) : Prop :=
  o.explicit = true →
    match a with
    | .buttonPress s button modifiers window =>
      findGrab (·.toPassiveGrab) o.grabs.buttonGrabs s.windows button modifiers maxTreeDepth window = none
    | .buttonRelease buttonMask => buttonMask &&& buttonStateMaskAll ≠ 0
    | _ => True

def Noted (o : Origin) : Prop := o.explicit = true → o.grabs.pointerGrab.isSome = true

theorem grabRefusal_ne_success (s : ClientState) (now : Nat) (window time : Nat) (frozen held : Bool) :
    grabRefusal s now window time frozen held ≠ some .success := by
  rw [grabRefusal]
  split
  · simp
  split
  · simp
  split <;> simp

variable {g : GrabState} {s : ClientState}

theorem handleGrabPointer_grab {now : Nat} {req : GrabPointerRequest}
    (h : g.pointerGrab.isSome = true ∨ (handleGrabPointer s now req g).2 = .reply .success) :
    (handleGrabPointer s now req g).1.pointerGrab.isSome = true := by
  rw [handleGrabPointer] at h ⊢
  split
  · next hw => simpa [hw] using h
  split
  · next hw hc => simpa [hw, hc] using h
  split
  · next hw hc _ status href =>
    have hstatus : status ≠ .success := fun he => grabRefusal_ne_success _ _ _ _ _ _ (he ▸ href)
    simpa [hw, hc, href, hstatus] using h
  · rfl

theorem checkPassiveButtonGrab_unmatched {button modifiers : Nat} {window : XId} :
    (checkPassiveButtonGrab s button modifiers window g).2 = false ↔
      findGrab (·.toPassiveGrab) g.buttonGrabs s.windows button modifiers maxTreeDepth window = none := by
  rw [checkPassiveButtonGrab]
  split
  · next h => exact iff_of_true rfl h
  · next grab h => simp [h]

theorem checkPassiveButtonGrab_grab {button modifiers : Nat} {window : XId}
    (h : g.pointerGrab.isSome = true) :
    (checkPassiveButtonGrab s button modifiers window g).1.pointerGrab.isSome = true := by
  rw [checkPassiveButtonGrab]
  split
  · exact h
  · rfl

theorem checkButtonReleaseUngrab_grab {buttonMask : Nat} (h : g.pointerGrab.isSome = true) :
    (checkButtonReleaseUngrab buttonMask g).1.pointerGrab.isSome = true ↔ buttonMask &&& buttonStateMaskAll ≠ 0 := by
  obtain ⟨grab, hgrab⟩ := Option.isSome_iff_exists.mp h
  rw [checkButtonReleaseUngrab, hgrab]
  dsimp only
  split
  · next hmask => exact iff_of_false (by simp [thawPointer]) (not_not_intro hmask)
  · next hmask => exact iff_of_true h hmask

theorem handleAllowEvents_grab {mode : Nat} (hmode : mode ≠ 2) :
    (handleAllowEvents mode g).1.pointerGrab = g.pointerGrab := by
  unfold handleAllowEvents
  split
  all_goals first | rfl | exact absurd rfl hmode

theorem isSome_act (h : g.pointerGrab.isSome = true) (hrel : ¬Releases a)
    (hbutton : ∀ buttonMask, a ≠ .buttonRelease buttonMask) : (act g a).1.pointerGrab.isSome = true := by
  cases a with
  | grabPointer s now req => exact handleGrabPointer_grab (.inl h)
  | ungrabPointer => exact absurd trivial hrel
  | grabButton s req =>
    simp only [act, handleGrabButton]
    split
    · exact h
    split <;> exact h
  | ungrabButton w d m => exact h
  | changeActivePointerGrab s cursor eventMask =>
    simp only [act, handleChangeActivePointerGrab]
    split
    · exact h
    · rwa [Option.isSome_map]
  | grabKeyboard s now req =>
    simp only [act, handleGrabKeyboard]
    split
    · exact h
    split <;> exact h
  | ungrabKeyboard =>
    simp only [act, handleUngrabKeyboard]
    split
    · exact h
    · split <;> exact h
  | grabKey s req =>
    simp only [act, handleGrabKey]
    split <;> exact h
  | ungrabKey w d m => exact h
  | allowEvents mode =>
    have hgrab : (act g (.allowEvents mode)).1.pointerGrab = g.pointerGrab := handleAllowEvents_grab hrel
    rw [hgrab]
    exact h
  | buttonPress s button modifiers window => exact checkPassiveButtonGrab_grab h
  | keyPress s keycode modifiers window =>
    simp only [act, checkPassiveKeyGrab]
    split <;> exact h
  | buttonRelease mask => exact absurd rfl (hbutton mask)
  | event dev e => cases dev <;> exact h

theorem noted_next (h : Noted o) (a : GrabAction) : Noted (next o a) := by
  intro hexpl
  cases a with
  | grabPointer s now req =>
    refine handleGrabPointer_grab ?_
    rcases Bool.or_eq_true _ _ ▸ hexpl with hsuccess | hheld
    · exact .inr (beq_iff_eq.mp hsuccess)
    · exact .inl (h hheld)
  | buttonPress s button modifiers window =>
    exact checkPassiveButtonGrab_grab (h (Bool.and_eq_true_iff.mp hexpl).2)
  | _ => exact (Bool.and_eq_true_iff.mp hexpl).1

theorem held_iff_spared (h : Noted o) (a : GrabAction) : Held o a ↔ Spared o a := by
  by_cases hexpl : o.explicit = true
  swap
  · exact iff_of_true (fun he => absurd he hexpl) (fun he => absurd he hexpl)
  have hgrab := h hexpl
  cases a with
  | grabPointer s now req =>
    refine iff_of_true (fun _ _ => ?_) fun _ => trivial
    simp [next, explicitAfter, hexpl]
  | buttonPress s button modifiers window =>
    rw [Held, Spared, forall_prop_of_true hexpl, forall_prop_of_true hexpl,
      ← checkPassiveButtonGrab_unmatched]
    simp [Releases, next, explicitAfter, hexpl]
  | buttonRelease buttonMask =>
    rw [Held, Spared, forall_prop_of_true hexpl, forall_prop_of_true hexpl,
      ← checkButtonReleaseUngrab_grab hgrab]
    simp [Releases, next, explicitAfter, hexpl, act]
  | _ =>
    refine iff_of_true (fun _ hrel => ?_) fun _ => trivial
    simpa [next, explicitAfter, hexpl] using isSome_act hgrab hrel (fun _ => GrabAction.noConfusion)

def run (actions : List GrabAction) : Origin := actions.foldl next ⟨{}, false⟩

/-- Along a run an explicit pointer grab is given up only by its client exactly if no
press meets a passive grab and no last button is released under one. -/
theorem explicitGrab_held_iff (actions : List GrabAction) :
    (∀ before a, before ++ [a] <+: actions → Held (run before) a) ↔
      ∀ before a, before ++ [a] <+: actions → Spared (run before) a := by
  refine foldl_steps_iff (I := Noted) (Q := Held) (C := Spared) (fun _ a h _ => noted_next h a)
    (fun _ a h => held_iff_spared h a) ?_ actions
  exact fun h => absurd h Bool.false_ne_true

def grabRoot : GrabAction :=
  .grabPointer (acceptClient 1 false 0 0 [] (initialShared (fun _ => ∅) ∅)) 0 ⟨false, rootWindow, 0, 1, 1, 0, 0, 0⟩

/-- A click ends the grab that the client asked for. -/
theorem click_ends_explicitGrab : ¬∀ (actions : List GrabAction) before a,
    before ++ [a] <+: actions → Held (run before) a := by
  intro h
  have hheld := h [grabRoot, .buttonRelease 0] [grabRoot] (.buttonRelease 0) List.prefix_rfl
  exact absurd (hheld (by decide +kernel) not_false) (by decide +kernel)

end X11Web.ExplicitGrabs
