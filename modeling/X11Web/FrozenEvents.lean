import X11Web.FrozenDevices

namespace X11Web.FrozenEvents

open Windows Grabs Runs FrozenDevices List

/-- The grabs with all device events that have come in and gone out so far. -/
structure Feed where
  grabs : GrabState := {}
  delivered : Released := []
  offered : Released := []

def offer : GrabAction → Released
  | .event dev e => [(dev, e)]
  | _ => []

def feed (f : Feed) (a : GrabAction) : Feed :=
  ⟨(act f.grabs a).1, f.delivered ++ (act f.grabs a).2, f.offered ++ offer a⟩

def FeedStep (f : Feed) (a : GrabAction) (f' : Feed) : Prop := f' = feed f a

/-- What has gone out and then what is held back is what has come in. -/
def InOrder (f : Feed) : Prop :=
  ∀ dev, ofDevice dev f.delivered ++ (f.grabs.freeze dev).events = ofDevice dev f.offered

def HasRoom (f : Feed) : GrabAction → Prop
  | .event dev _ => (f.grabs.freeze dev).frozen →
      (f.grabs.freeze dev).events.length < maxFrozenEvents
  | _ => True

/-- An event comes to a thawed device only when no other event is still held
back there. -/
def KeepsOrder (f : Feed) : GrabAction → Prop
  | .event dev e => (f.grabs.freeze dev).frozen ∨ ∀ q ∈ (f.grabs.freeze dev).events, q = e
  | _ => True

variable {g : GrabState} {f f' : Feed} {dev dev' : Device} {e : Bytes}

@[simp] theorem ofDevice_append (dev : Device) (xs ys : Released) :
    ofDevice dev (xs ++ ys) = ofDevice dev xs ++ ofDevice dev ys := by
  simp [ofDevice]

@[simp] theorem ofDevice_nil (dev : Device) : ofDevice dev [] = [] := rfl

theorem ofDevice_release (dev dev' : Device) (f : Freeze) :
    ofDevice dev (f.release dev') = if dev' = dev then f.events else [] := by
  rw [ofDevice, Freeze.release, filter_map, map_map]
  split
  · next h => simp [h, Function.comp_def]
  · next h => simp [h, Function.comp_def]

def Passes (g : GrabState) (r : GrabState × Released) : Prop :=
  ∀ dev, ofDevice dev r.2 ++ (r.1.freeze dev).events = (g.freeze dev).events

theorem Passes.of_same {g' : GrabState} (hptr : g'.pointer.events = g.pointer.events)
    (hkbd : g'.keyboard.events = g.keyboard.events) : Passes g (g', []) := by
  intro dev
  cases dev with
  | pointer => exact hptr
  | keyboard => exact hkbd

theorem Passes.trans {r : GrabState × Released} {g' : GrabState} {released : Released}
    (h : Passes g r) (h' : Passes r.1 (g', released)) : Passes g (g', r.2 ++ released) := by
  intro dev
  rw [ofDevice_append, append_assoc, h' dev, h dev]

theorem hold_events (mode : Nat) (f : Freeze) : (f.hold mode).events = f.events := by
  rw [Freeze.hold]
  split <;> rfl

theorem thawPointer_passes (sync : Bool) (g : GrabState) : Passes g (thawPointer sync g) := by
  intro dev
  cases dev with
  | pointer => simp [thawPointer, ofDevice_release, GrabState.freeze, Freeze.thaw]
  | keyboard => simp [thawPointer, ofDevice_release, GrabState.freeze]

theorem thawKeyboard_passes (sync : Bool) (g : GrabState) : Passes g (thawKeyboard sync g) := by
  intro dev
  cases dev with
  | pointer => simp [thawKeyboard, ofDevice_release, GrabState.freeze]
  | keyboard => simp [thawKeyboard, ofDevice_release, GrabState.freeze, Freeze.thaw]

theorem thawBoth_passes (sync : Bool) (g : GrabState) : Passes g (thawBoth sync g) :=
  (thawPointer_passes sync g).trans (thawKeyboard_passes sync _)

theorem handleUngrabPointer_passes (g : GrabState) : Passes g (handleUngrabPointer g) := by
  rw [handleUngrabPointer]
  split
  · exact .of_same rfl rfl
  · intro dev
    cases dev with
    | pointer => simp [ofDevice_release, GrabState.freeze, Freeze.thaw]
    | keyboard => simp [ofDevice_release, GrabState.freeze]

theorem handleUngrabKeyboard_passes (g : GrabState) : Passes g (handleUngrabKeyboard g) := by
  rw [handleUngrabKeyboard]
  split
  · exact .of_same rfl rfl
  · next grab _ =>
    have hkbd : Passes g (thawKeyboard false { g with keyboardGrab := none }) :=
      thawKeyboard_passes false { g with keyboardGrab := none }
    dsimp only
    split
    · exact hkbd.trans (thawPointer_passes false _)
    · exact hkbd

theorem handleAllowEvents_passes (mode : Nat) (g : GrabState) :
    Passes g (handleAllowEvents mode g) := by
  match mode with
  | 0 => exact thawPointer_passes false g
  | 1 => exact thawPointer_passes true g
  | 2 => exact thawPointer_passes false { g with pointerGrab := none }
  | 3 => exact thawKeyboard_passes false g
  | 4 => exact thawKeyboard_passes true g
  | 5 => exact thawKeyboard_passes false { g with keyboardGrab := none }
  | 6 => exact thawBoth_passes false g
  | 7 => exact thawBoth_passes true g
  | n + 8 => exact .of_same rfl rfl

/-- No action but an event itself touches the sequence. A grab moves no event,
even where it clears the flag. -/
theorem act_passes (g : GrabState) {a : GrabAction} (h : offer a = []) : Passes g (act g a) := by
  cases a with
  | grabPointer s now req =>
    dsimp only [act, handleGrabPointer]
    split
    · exact .of_same rfl rfl
    · split
      · exact .of_same rfl rfl
      · split
        · exact .of_same rfl rfl
        · exact .of_same rfl (hold_events _ _)
  | ungrabPointer => exact handleUngrabPointer_passes g
  | grabButton s req =>
    dsimp only [act, handleGrabButton]
    split
    · exact .of_same rfl rfl
    · split
      · exact .of_same rfl rfl
      · exact .of_same rfl rfl
  | ungrabButton window button modifiers => exact .of_same rfl rfl
  | changeActivePointerGrab s cursor eventMask =>
    dsimp only [act, handleChangeActivePointerGrab]
    split
    · exact .of_same rfl rfl
    · exact .of_same rfl rfl
  | grabKeyboard s now req =>
    dsimp only [act, handleGrabKeyboard]
    split
    · exact .of_same rfl rfl
    · split
      · exact .of_same rfl rfl
      · exact .of_same (hold_events _ _) rfl
  | ungrabKeyboard => exact handleUngrabKeyboard_passes g
  | grabKey s req =>
    dsimp only [act, handleGrabKey]
    split
    · exact .of_same rfl rfl
    · exact .of_same rfl rfl
  | ungrabKey window key modifiers => exact .of_same rfl rfl
  | allowEvents mode => exact handleAllowEvents_passes mode g
  | buttonPress s button modifiers window =>
    dsimp only [act, checkPassiveButtonGrab]
    split
    · exact .of_same rfl rfl
    · exact .of_same (hold_events _ _) (hold_events _ _)
  | keyPress s keycode modifiers window =>
    dsimp only [act, checkPassiveKeyGrab]
    split
    · exact .of_same rfl rfl
    · exact .of_same (hold_events _ _) (hold_events _ _)
  | buttonRelease buttonMask =>
    dsimp only [act, checkButtonReleaseUngrab]
    split
    · exact .of_same rfl rfl
    · split
      · exact thawPointer_passes false { g with pointerGrab := none }
      · exact .of_same rfl rfl
  | event dev e => simp [offer] at h

theorem cons_eq_concat_iff (e : Bytes) (qs : List Bytes) :
    e :: qs = qs ++ [e] ↔ ∀ q ∈ qs, q = e := by
  induction qs with
  | nil => simp
  | cons q qs ih =>
    rw [cons_append, List.cons.injEq, forall_mem_cons, ← ih]
    constructor
    · rintro ⟨rfl, h⟩
      exact ⟨rfl, h⟩
    · rintro ⟨rfl, h⟩
      exact ⟨rfl, h⟩

theorem check_passes_iff (f : Freeze) (e : Bytes)
    (hroom : f.frozen → f.events.length < maxFrozenEvents) :
    (if (f.check e).2 then [] else [e]) ++ (f.check e).1.events = f.events ++ [e] ↔
      f.frozen ∨ ∀ q ∈ f.events, q = e := by
  rw [Freeze.check]
  by_cases hfrozen : f.frozen
  · have hlen : ¬ maxFrozenEvents ≤ f.events.length := Nat.not_le.mpr (hroom hfrozen)
    simp [hfrozen, hlen]
  · rw [Bool.not_eq_true] at hfrozen
    rw [hfrozen]
    cases f.syncPending with
    | false => simpa using cons_eq_concat_iff e f.events
    | true => simpa using cons_eq_concat_iff e f.events

theorem event_freeze (g : GrabState) (dev dev' : Device) (e : Bytes) :
    (act g (.event dev e)).1.freeze dev' =
      if dev' = dev then ((g.freeze dev).check e).1 else g.freeze dev' := by
  cases dev <;> cases dev' <;> rfl

theorem event_released (g : GrabState) (dev dev' : Device) (e : Bytes) :
    ofDevice dev' (act g (.event dev e)).2 =
      if dev' = dev then (if ((g.freeze dev).check e).2 then [] else [e]) else [] := by
  cases dev with
  | pointer =>
    cases hqd : (g.pointer.check e).2 <;> cases dev' <;>
      simp [act, checkPointerSyncFreeze, GrabState.freeze, ofDevice, hqd]
  | keyboard =>
    cases hqd : (g.keyboard.check e).2 <;> cases dev' <;>
      simp [act, checkKeyboardSyncFreeze, GrabState.freeze, ofDevice, hqd]

theorem feedStep_inOrder_iff {a : GrabAction} (h : InOrder f) (hroom : HasRoom f a)
    (hstep : FeedStep f a f') : InOrder f' ↔ KeepsOrder f a := by
  subst hstep
  have hnext : ∀ dev, ofDevice dev (f.delivered ++ (act f.grabs a).2) ++
      ((act f.grabs a).1.freeze dev).events = ofDevice dev (f.offered ++ offer a) ↔
      ofDevice dev (act f.grabs a).2 ++ ((act f.grabs a).1.freeze dev).events =
        (f.grabs.freeze dev).events ++ ofDevice dev (offer a) := by
    intro dev
    rw [ofDevice_append, ofDevice_append, ← h dev, append_assoc, append_assoc,
      append_cancel_left_eq]
  refine (forall_congr' hnext).trans ?_
  by_cases hoffer : offer a = []
  · have hkps : KeepsOrder f a := by
      cases a with
      | event dev e => simp [offer] at hoffer
      | _ => trivial
    refine iff_of_true (fun dev => ?_) hkps
    rw [hoffer, ofDevice_nil, append_nil]
    exact act_passes f.grabs hoffer dev
  · cases a with
    | event dev e =>
      have hcheck := check_passes_iff (f.grabs.freeze dev) e hroom
      constructor
      · intro hall
        have hdev := hall dev
        rw [event_freeze, event_released, if_pos rfl, if_pos rfl] at hdev
        exact hcheck.mp (by simpa [offer, ofDevice] using hdev)
      · intro hkps dev'
        rw [event_freeze, event_released]
        by_cases hdev : dev' = dev
        · subst hdev
          rw [if_pos rfl, if_pos rfl]
          simpa [offer, ofDevice] using hcheck.mpr hkps
        · simp [hdev, offer, ofDevice, Ne.symm hdev]
    | _ => exact absurd rfl hoffer

/-- As long as no event comes to a thawed device with others still held back,
the events of each device go out in the order in which they came, each once. -/
theorem guardedRun_inOrder {actions : List GrabAction}
    (hrun : Run (guarded (fun f a => HasRoom f a ∧ KeepsOrder f a) FeedStep) {} actions f) :
    InOrder f := by
  refine hrun.invariant (I := InOrder) ?_ (fun dev => by cases dev <;> rfl)
  rintro f a f' h ⟨⟨hroom, hkps⟩, hstep⟩
  exact (feedStep_inOrder_iff h hroom hstep).mpr hkps

def thawedFeed : List GrabAction :=
  [grabRoot 0 1, .event .pointer [6], .allowEvents 0, .event .pointer [7]]

theorem guardedRun_inOrder_thaw : InOrder (thawedFeed.foldl feed {}) ∧
    ofDevice .pointer (thawedFeed.foldl feed {}).delivered = [[6], [7]] := by
  have hrun : Run (guarded (fun f a => HasRoom f a ∧ KeepsOrder f a) FeedStep) {} thawedFeed
      (thawedFeed.foldl feed {}) := by
    refine .cons ⟨⟨trivial, trivial⟩, rfl⟩ (.cons ⟨⟨fun _ => ?_, .inl ?_⟩, rfl⟩
      (.cons ⟨⟨trivial, trivial⟩, rfl⟩ (.single ⟨⟨fun _ => ?_, .inr ?_⟩, rfl⟩)))
    all_goals decide +kernel
  exact ⟨guardedRun_inOrder hrun, by decide +kernel⟩

/-- The same with an asynchronous grab for the thaw: it clears the flag but not
the queue. -/
def regrabbedFeed : List GrabAction :=
  [grabRoot 0 1, .event .pointer [6], grabRoot 1 1, .event .pointer [7]]

theorem event_overtakes_frozen : ¬ ∀ (actions : List GrabAction) (f : Feed),
    Run (guarded HasRoom FeedStep) {} actions f → InOrder f := by
  intro h
  have hrun : Run (guarded HasRoom FeedStep) {} regrabbedFeed (regrabbedFeed.foldl feed {}) := by
    refine .cons ⟨trivial, rfl⟩ (.cons ⟨fun _ => ?_, rfl⟩
      (.cons ⟨trivial, rfl⟩ (.single ⟨fun _ => ?_, rfl⟩)))
    all_goals decide +kernel
  have hord := h _ _ hrun .pointer
  revert hord
  decide +kernel

end X11Web.FrozenEvents
