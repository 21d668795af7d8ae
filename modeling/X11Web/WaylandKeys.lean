import Mathlib.Data.Finset.Basic
import X11Web.Alternation
import X11Web.BitMasks
import X11Web.Runs

namespace X11Web.WaylandKeys

open Alternation BitMasks List

abbrev Mask := BitVec 16

def modShift : Mask := 0x01
def modCtrl : Mask := 0x04
def modAlt : Mask := 0x08
def modSuper : Mask := 0x40

def keycodeShiftL : Nat := 50
def keycodeCtrlL : Nat := 37
def keycodeAltL : Nat := 64
def keycodeSuperL : Nat := 133

/-- The left and the right key of a modifier have one bit between them. -/
def modifierKeycodes : List (Nat × Mask) :=
  [(keycodeShiftL, modShift), (62, modShift), (keycodeCtrlL, modCtrl), (105, modCtrl),
    (keycodeAltL, modAlt), (108, modAlt), (keycodeSuperL, modSuper), (134, modSuper)]

/-- The modifiers that can be synthesised, with the key that is used for it. -/
def synthesisable : List (Mask × Nat) :=
  [(modShift, keycodeShiftL), (modCtrl, keycodeCtrlL), (modAlt, keycodeAltL), (modSuper, keycodeSuperL)]

def modifierBitForKeycode (keycode : Nat) : Option Mask :=
  (modifierKeycodes.find? (fun p => p.1 == keycode)).map Prod.snd

structure SynthKey where
  keycode : Nat
  pressed : Bool
deriving DecidableEq

structure ModifierSynth where
  real : Mask := 0
  synth : Mask := 0
deriving DecidableEq

/-- A real press takes over a synthesised one of the same modifier. -/
def ModifierSynth.observe (m : ModifierSynth) (keycode : Nat) (pressed : Bool) : ModifierSynth :=
  match modifierBitForKeycode keycode with
  | none => m
  | some bit =>
    if pressed then ⟨m.real ||| bit, m.synth &&& ~~~bit⟩ else { m with real := m.real &&& ~~~bit }

/-- One round of the loop in `reconcile`. -/
def ModifierSynth.reconcileOne (mask : Mask) (excluded : Option Mask) (m : ModifierSynth) (p : Mask × Nat) :
    ModifierSynth × List SynthKey :=
  if excluded = some p.1 then (m, [])
  else if Has mask p.1 ∧ ¬ Has m.real p.1 ∧ ¬ Has m.synth p.1 then
    ({ m with synth := m.synth ||| p.1 }, [⟨p.2, true⟩])
  else if ¬ Has mask p.1 ∧ Has m.synth p.1 then
    ({ m with synth := m.synth &&& ~~~p.1 }, [⟨p.2, false⟩])
  else (m, [])

def ModifierSynth.releaseOne (m : ModifierSynth) (p : Mask × Nat) : ModifierSynth × List SynthKey :=
  if Has m.synth p.1 then ({ m with synth := m.synth &&& ~~~p.1 }, [⟨p.2, false⟩]) else (m, [])

def collect (f : ModifierSynth → Mask × Nat → ModifierSynth × List SynthKey) (ps : List (Mask × Nat))
    (m : ModifierSynth) : ModifierSynth × List SynthKey :=
  ps.foldl (fun acc p => ((f acc.1 p).1, acc.2 ++ (f acc.1 p).2)) (m, [])

def ModifierSynth.reconcile (m : ModifierSynth) (mask : Mask) (aboutToSend : Option Nat) :
    ModifierSynth × List SynthKey :=
  collect (ModifierSynth.reconcileOne mask (aboutToSend.bind modifierBitForKeycode)) synthesisable m

def ModifierSynth.releaseSynthetic (m : ModifierSynth) : ModifierSynth × List SynthKey :=
  collect ModifierSynth.releaseOne synthesisable m

/-- The held keys of the seat, and the key events it has been fed. -/
structure SeatState where
  pressedKeys : Finset Nat := ∅
  fed : List SynthKey := []
deriving DecidableEq

def SeatState.keyboardUpdateXkb (seat : SeatState) (key : Nat) (pressed : Bool) : SeatState :=
  { seat with pressedKeys := if pressed then insert key seat.pressedKeys else seat.pressedKeys.erase key }

def SeatState.keyboardKey (seat : SeatState) (key : Nat) (pressed : Bool) : SeatState :=
  { seat with fed := seat.fed ++ [⟨key, pressed⟩] }

def SeatState.feed (seat : SeatState) (k : SynthKey) : SeatState :=
  (seat.keyboardUpdateXkb k.keycode k.pressed).keyboardKey k.keycode k.pressed

/-- What `input::apply` reads and writes for the keyboard: the windows it can find by
their uuid, the modifiers and the seat. -/
structure State where
  windows : Finset String := ∅
  modifiers : ModifierSynth := {}
  seat : SeatState := {}
deriving DecidableEq

inductive InputEvent
  | motionNotify (mask : Mask)
  | buttonPress (button : Nat) (mask : Mask)
  | buttonRelease (button : Nat) (mask : Mask)
  | keyPress (keycode : Nat) (mask : Mask)
  | keyRelease (keycode : Nat) (mask : Mask)
  | other
deriving DecidableEq

def State.reconcileModifiers (s : State) (mask : Mask) (aboutToSend : Option Nat) : State :=
  let synthetic := s.modifiers.reconcile mask aboutToSend
  { s with modifiers := synthetic.1, seat := synthetic.2.foldl SeatState.feed s.seat }

def State.sendKey (s : State) (keycode : Nat) (pressed : Bool) : State :=
  { s with
    modifiers := s.modifiers.observe keycode pressed
    seat := s.seat.feed ⟨keycode, pressed⟩ }

def State.liftSynthetic (s : State) : State :=
  let lifted := s.modifiers.releaseSynthetic
  { s with modifiers := lifted.1, seat := lifted.2.foldl SeatState.feed s.seat }

def State.key (s : State) (keycode : Nat) (mask : Mask) (pressed : Bool) : State :=
  let s := (s.reconcileModifiers mask (some keycode)).sendKey keycode pressed
  if !pressed && (modifierBitForKeycode keycode).isNone then s.liftSynthetic else s

def State.apply (s : State) (windowUuid : String) (event : InputEvent) : State :=
  if windowUuid ∈ s.windows then
    match event with
    | .motionNotify mask => s.reconcileModifiers mask none
    | .buttonPress _ mask => s.reconcileModifiers mask none
    | .buttonRelease _ mask => s.reconcileModifiers mask none
    | .keyPress keycode mask => s.key keycode mask true
    | .keyRelease keycode mask => s.key keycode mask false
    | .other => s
  else s

/-- The frontend's events come in, and between them windows come and go. -/
inductive Input
  | opened (windowUuid : String)
  | closed (windowUuid : String)
  | event (windowUuid : String) (event : InputEvent)
deriving DecidableEq

def State.step (s : State) : Input → State
  | .opened uuid => { s with windows := insert uuid s.windows }
  | .closed uuid => { s with windows := s.windows.erase uuid }
  | .event uuid event => s.apply uuid event

def run (inputs : List Input) : State := inputs.foldl State.step {}

def eventsOf (keycode : Nat) (keys : List SynthKey) : List Bool :=
  (keys.filter (fun k => k.keycode == keycode)).map SynthKey.pressed

/-- The key event of the user that an input brings, if it does. -/
def Input.realKey : Input → Option SynthKey
  | .event _ (.keyPress keycode _) => some ⟨keycode, true⟩
  | .event _ (.keyRelease keycode _) => some ⟨keycode, false⟩
  | _ => none

def realKeys (inputs : List Input) : List SynthKey := inputs.filterMap Input.realKey

def Held (inputs : List Input) (keycode : Nat) : Prop :=
  (eventsOf keycode (realKeys inputs)).getLast? = some true

instance (inputs : List Input) (keycode : Nat) : Decidable (Held inputs keycode) :=
  inferInstanceAs (Decidable (_ = _))

def InputEvent.mask : InputEvent → Option Mask
  | .motionNotify mask | .buttonPress _ mask | .buttonRelease _ mask => some mask
  | .keyPress _ mask | .keyRelease _ mask => some mask
  | .other => none

def NoModifiers (mask : Mask) : Prop := ∀ p ∈ synthesisable, ¬ Has mask p.1

instance (mask : Mask) : Decidable (NoModifiers mask) :=
  inferInstanceAs (Decidable (∀ p ∈ synthesisable, ¬ Has mask p.1))

structure KeysSound (inputs : List Input) : Prop where
  alternate : ∀ keycode, Alternates true (eventsOf keycode (run inputs).seat.fed)
  notReleased : ∀ before e, before ++ [e] <+: inputs → ∀ keycode, Held before keycode →
    ⟨keycode, false⟩ ∈ (run (before ++ [e])).seat.fed.drop (run before).seat.fed.length →
      e.realKey = some ⟨keycode, false⟩
  noneLeft : ∀ before uuid event mask, before ++ [.event uuid event] <+: inputs →
    uuid ∈ (run before).windows → event.mask = some mask → NoModifiers mask →
      (∀ keycode, ¬ Held (before ++ [.event uuid event]) keycode) →
        (run (before ++ [.event uuid event])).seat.pressedKeys = ∅

/-- The key is down only because its modifier has been synthesised. -/
def ModifierSynth.Synthesised (m : ModifierSynth) (keycode : Nat) : Prop :=
  ∃ p ∈ synthesisable, p.2 = keycode ∧ Has m.synth p.1

def ModifierSynth.Free (m : ModifierSynth) (keycode : Nat) : Prop :=
  ∀ bit ∈ modifierBitForKeycode keycode, ¬ Has m.synth bit

instance (m : ModifierSynth) (keycode : Nat) : Decidable (m.Free keycode) :=
  decidable_of_iff ((modifierBitForKeycode keycode).all (fun bit => ¬ Has m.synth bit) = true) (by
    cases h : modifierBitForKeycode keycode <;> simp [ModifierSynth.Free, h])

/-- No modifier of the mask has lost its real bit while the user holds its left key. -/
def MaskAgrees (held : Nat → Prop) (m : ModifierSynth) (mask : Mask) (aboutToSend : Option Nat) : Prop :=
  ∀ p ∈ synthesisable, aboutToSend.bind modifierBitForKeycode ≠ some p.1 → Has mask p.1 →
    ¬ Has m.real p.1 → ¬ held p.2

instance (held : Nat → Prop) [DecidablePred held] (m : ModifierSynth) (mask : Mask) (aboutToSend : Option Nat) :
    Decidable (MaskAgrees held m mask aboutToSend) :=
  inferInstanceAs (Decidable (∀ p ∈ synthesisable, aboutToSend.bind modifierBitForKeycode ≠ some p.1 →
    Has mask p.1 → ¬ Has m.real p.1 → ¬ held p.2))

/-- The condition on an input: its mask agrees with the held keys, a modifier key is
not pressed while its modifier is synthesised, and the last key to go up is not one
of these either. A press and its release are both for windows that are there, or
neither is. -/
def Clear (before : List Input) (s : State) : Input → Prop
  | .event uuid (.keyPress keycode mask) =>
      if uuid ∈ s.windows then
        s.modifiers.Free keycode ∧ MaskAgrees (Held before) s.modifiers mask (some keycode)
      else ¬ s.modifiers.Synthesised keycode
  | .event uuid (.keyRelease keycode mask) =>
      if uuid ∈ s.windows then
        keycode ∈ s.seat.pressedKeys ∧ MaskAgrees (Held before) s.modifiers mask (some keycode) ∧
          (NoModifiers mask → (∀ key, Held before key → key = keycode) → s.modifiers.Free keycode)
      else keycode ∉ s.seat.pressedKeys
  | .event uuid event => ∀ mask ∈ event.mask, uuid ∈ s.windows → MaskAgrees (Held before) s.modifiers mask none
  | _ => True

variable {held held' : Nat → Prop} {m : ModifierSynth} {seat seat' : SeatState} {s : State} {mask : Mask}
  {excluded : Option Mask} {keycode : Nat}

variable {p : Mask × Nat}

theorem isBit_of_mem (hp : p ∈ synthesisable) : IsBit p.1 := by
  revert p
  decide +kernel

theorem modifierBitForKeycode_of_mem (hp : p ∈ synthesisable) : modifierBitForKeycode p.2 = some p.1 := by
  revert p
  decide +kernel

theorem isBit_of_modifierBitForKeycode {bit : Mask} (h : modifierBitForKeycode keycode = some bit) :
    IsBit bit := by
  obtain ⟨p, hfind, rfl⟩ := Option.map_eq_some_iff.mp h
  have hall : ∀ p ∈ modifierKeycodes, IsBit p.2 := by decide +kernel
  exact hall p (mem_of_find?_eq_some hfind)

theorem not_synthesised_of_free (hfree : m.Free keycode) : ¬ m.Synthesised keycode := by
  rintro ⟨p, hp, rfl, hsynth⟩
  exact hfree p.1 (modifierBitForKeycode_of_mem hp) hsynth

theorem releaseSynthetic_eq (m : ModifierSynth) : m.releaseSynthetic = m.reconcile 0 none := by
  have hround : ModifierSynth.releaseOne = ModifierSynth.reconcileOne 0 none := by
    funext m p
    simp [ModifierSynth.releaseOne, ModifierSynth.reconcileOne]
  rw [ModifierSynth.releaseSynthetic, ModifierSynth.reconcile, hround]
  rfl

theorem liftSynthetic_eq (s : State) : s.liftSynthetic = s.reconcileModifiers 0 none := by
  rw [State.liftSynthetic, State.reconcileModifiers, releaseSynthetic_eq]

def feedRound (f : ModifierSynth → Mask × Nat → ModifierSynth × List SynthKey) (acc : ModifierSynth × SeatState)
    (p : Mask × Nat) : ModifierSynth × SeatState :=
  ((f acc.1 p).1, (f acc.1 p).2.foldl SeatState.feed acc.2)

theorem collect_feed (f : ModifierSynth → Mask × Nat → ModifierSynth × List SynthKey) (ps : List (Mask × Nat))
    (m : ModifierSynth) (seat : SeatState) :
    ((collect f ps m).1, (collect f ps m).2.foldl SeatState.feed seat) = ps.foldl (feedRound f) (m, seat) := by
  have key : ∀ (m : ModifierSynth) (out : List SynthKey),
      ((ps.foldl (fun acc p => ((f acc.1 p).1, acc.2 ++ (f acc.1 p).2)) (m, out)).1,
        (ps.foldl (fun acc p => ((f acc.1 p).1, acc.2 ++ (f acc.1 p).2)) (m, out)).2.foldl SeatState.feed seat) =
      ps.foldl (feedRound f) (m, out.foldl SeatState.feed seat) := by
    induction ps with
    | nil => exact fun _ _ => rfl
    | cons p ps ih =>
      intro m out
      rw [foldl_cons, foldl_cons, ih, foldl_append]
      rfl
  exact key m []

/-- Each key's events come in turn, and the seat knows whose turn it is. -/
def Turns (seat : SeatState) : Prop :=
  ∀ keycode, Alternates true (eventsOf keycode seat.fed) ∧
    (next true (eventsOf keycode seat.fed) = true ↔ keycode ∉ seat.pressedKeys)

/-- The seat's keys are the user's and, apart from these, the synthesised ones. -/
structure Sound (held : Nat → Prop) (m : ModifierSynth) (seat : SeatState) : Prop where
  turns : Turns seat
  accounted : ∀ keycode ∈ seat.pressedKeys, held keycode ∨ m.Synthesised keycode
  synthesised : ∀ keycode, m.Synthesised keycode → keycode ∈ seat.pressedKeys ∧ ¬ held keycode

def Spares (held : Nat → Prop) (seat seat' : SeatState) : Prop :=
  ∃ new, seat'.fed = seat.fed ++ new ∧ ∀ keycode, ⟨keycode, false⟩ ∈ new → ¬ held keycode

theorem Spares.refl (held : Nat → Prop) (seat : SeatState) : Spares held seat seat :=
  ⟨[], (append_nil _).symm, by simp⟩

theorem Spares.trans {seat'' : SeatState} (h : Spares held seat seat') (h' : Spares held seat' seat'') :
    Spares held seat seat'' := by
  obtain ⟨new, hfed, hnew⟩ := h
  obtain ⟨new', hfed', hnew'⟩ := h'
  refine ⟨new ++ new', by rw [hfed', hfed, append_assoc], fun keycode hmem => ?_⟩
  rcases mem_append.mp hmem with hmem | hmem
  · exact hnew keycode hmem
  · exact hnew' keycode hmem

theorem Spares.mono (hle : ∀ keycode, held' keycode → held keycode) (h : Spares held seat seat') :
    Spares held' seat seat' := by
  obtain ⟨new, hfed, hnew⟩ := h
  exact ⟨new, hfed, fun keycode hmem hheld => hnew keycode hmem (hle keycode hheld)⟩

theorem eventsOf_concat (keycode : Nat) (keys : List SynthKey) (k : SynthKey) :
    eventsOf keycode (keys ++ [k]) =
      if k.keycode = keycode then eventsOf keycode keys ++ [k.pressed] else eventsOf keycode keys := by
  by_cases h : k.keycode = keycode <;> simp [eventsOf, filter_append, h]

theorem mem_pressedKeys_feed (k : SynthKey) (j : Nat) :
    j ∈ (seat.feed k).pressedKeys ↔ if k.keycode = j then k.pressed = true else j ∈ seat.pressedKeys := by
  obtain ⟨keycode, pressed⟩ := k
  by_cases h : keycode = j
  · cases pressed <;> simp [SeatState.feed, SeatState.keyboardUpdateXkb, SeatState.keyboardKey, h]
  · have h' : j ≠ keycode := Ne.symm h
    cases pressed <;> simp [SeatState.feed, SeatState.keyboardUpdateXkb, SeatState.keyboardKey, h, h']

theorem turns_feed {k : SynthKey} (h : Turns seat) (hturn : k.pressed = true ↔ k.keycode ∉ seat.pressedKeys) :
    Turns (seat.feed k) := by
  intro j
  have hfed : (seat.feed k).fed = seat.fed ++ [k] := rfl
  rw [hfed, eventsOf_concat, mem_pressedKeys_feed]
  by_cases hj : k.keycode = j
  · rw [if_pos hj, if_pos hj, alternates_concat, next_concat]
    have hnext := (h j).2
    rw [← hj, ← hturn, Bool.coe_iff_coe] at hnext
    refine ⟨⟨(h j).1, ?_⟩, by simp⟩
    rw [← hj, hnext]
  · rw [if_neg hj, if_neg hj]
    exact h j

theorem bit_injective {p q : Mask × Nat} (hp : p ∈ synthesisable) (hq : q ∈ synthesisable) :
    p.1 = q.1 ↔ p.2 = q.2 := by
  have hall : ∀ p ∈ synthesisable, ∀ q ∈ synthesisable, p.1 = q.1 ↔ p.2 = q.2 := by decide +kernel
  exact hall p hp q hq

theorem synthesised_iff (hp : p ∈ synthesisable) : m.Synthesised p.2 ↔ Has m.synth p.1 := by
  constructor
  · rintro ⟨q, hq, hkey, hhas⟩
    rwa [← (bit_injective hq hp).mpr hkey]
  · exact fun hhas => ⟨p, hp, rfl, hhas⟩

theorem synthesised_or (hp : p ∈ synthesisable) (real : Mask) (j : Nat) :
    ModifierSynth.Synthesised ⟨real, m.synth ||| p.1⟩ j ↔ if p.2 = j then true = true else m.Synthesised j := by
  by_cases hkey : p.2 = j
  · rw [← hkey, if_pos rfl, synthesised_iff hp]
    exact iff_of_true ((has_or (isBit_of_mem hp) (isBit_of_mem hp)).mpr (.inr rfl)) rfl
  · rw [if_neg hkey]
    refine exists_congr fun q => and_congr_right fun hq => and_congr_right fun hj => ?_
    rw [has_or (isBit_of_mem hp) (isBit_of_mem hq), bit_injective hp hq, hj]
    simp [hkey]

theorem synthesised_and_not (hp : p ∈ synthesisable) (real : Mask) (j : Nat) :
    ModifierSynth.Synthesised ⟨real, m.synth &&& ~~~p.1⟩ j ↔
      if p.2 = j then false = true else m.Synthesised j := by
  by_cases hkey : p.2 = j
  · rw [← hkey, if_pos rfl, synthesised_iff hp, has_and_not (isBit_of_mem hp) (isBit_of_mem hp)]
    simp
  · rw [if_neg hkey]
    refine exists_congr fun q => and_congr_right fun hq => and_congr_right fun hj => ?_
    rw [has_and_not (isBit_of_mem hp) (isBit_of_mem hq), Ne, bit_injective hp hq, hj]
    simp [hkey]

variable {pressed : Bool}

theorem Sound.toggle {m' : ModifierSynth} (h : Sound held m seat)
    (hsynth : ∀ j, m'.Synthesised j ↔ if keycode = j then pressed = true else m.Synthesised j)
    (hturn : pressed = true ↔ ¬ m.Synthesised keycode) (hheld : ¬ held keycode) :
    Sound held m' (seat.feed ⟨keycode, pressed⟩) := by
  have hdown : keycode ∈ seat.pressedKeys ↔ m.Synthesised keycode :=
    ⟨fun hmem => (h.accounted keycode hmem).resolve_left hheld, fun hs => (h.synthesised keycode hs).1⟩
  refine ⟨turns_feed h.turns (hturn.trans (not_congr hdown.symm)), ?_, ?_⟩
  · intro j hj
    rw [mem_pressedKeys_feed] at hj
    rw [hsynth]
    by_cases hkey : keycode = j
    · rw [if_pos hkey] at hj ⊢
      exact .inr hj
    · rw [if_neg hkey] at hj ⊢
      exact h.accounted j hj
  · intro j hj
    rw [hsynth] at hj
    rw [mem_pressedKeys_feed]
    by_cases hkey : keycode = j
    · rw [if_pos hkey] at hj ⊢
      exact ⟨hj, hkey ▸ hheld⟩
    · rw [if_neg hkey] at hj ⊢
      exact h.synthesised j hj

/-- What holds after each round: the real bits are as they were, and so are the keys
that the user holds. -/
structure Rounds (held : Nat → Prop) (m : ModifierSynth) (seat : SeatState)
    (acc : ModifierSynth × SeatState) : Prop where
  sound : Sound held acc.1 acc.2
  real : acc.1.real = m.real
  spares : Spares held seat acc.2
  keeps : ∀ keycode, held keycode → (keycode ∈ acc.2.pressedKeys ↔ keycode ∈ seat.pressedKeys)

theorem Rounds.keeps_feed {acc : ModifierSynth × SeatState} {k : SynthKey} (h : Rounds held m seat acc)
    (hk : ¬ held k.keycode) (j : Nat) (hj : held j) :
    j ∈ (acc.2.feed k).pressedKeys ↔ j ∈ seat.pressedKeys := by
  have hne : k.keycode ≠ j := fun heq => hk (heq ▸ hj)
  rw [mem_pressedKeys_feed, if_neg hne]
  exact h.keeps j hj

theorem rounds_reconcileOne {acc : ModifierSynth × SeatState} (h : Rounds held m seat acc)
    (hp : p ∈ synthesisable)
    (hagrs : excluded ≠ some p.1 → Has mask p.1 → ¬ Has m.real p.1 → ¬ held p.2) :
    Rounds held m seat (feedRound (ModifierSynth.reconcileOne mask excluded) acc p) := by
  by_cases hexcluded : excluded = some p.1
  · simpa [feedRound, ModifierSynth.reconcileOne, hexcluded] using h
  by_cases hpress : Has mask p.1 ∧ ¬ Has acc.1.real p.1 ∧ ¬ Has acc.1.synth p.1
  · have hround : feedRound (ModifierSynth.reconcileOne mask excluded) acc p =
        (⟨acc.1.real, acc.1.synth ||| p.1⟩, acc.2.feed ⟨p.2, true⟩) := by
      simp [feedRound, ModifierSynth.reconcileOne, hexcluded, hpress]
    obtain ⟨hmask, hreal, hsynth⟩ := hpress
    have hheld := hagrs hexcluded hmask (h.real ▸ hreal)
    rw [hround]
    refine ⟨?_, h.real, h.spares.trans ⟨[⟨p.2, true⟩], rfl, by simp⟩, h.keeps_feed hheld⟩
    apply h.sound.toggle (synthesised_or hp acc.1.real)
    · exact iff_of_true rfl fun hs => hsynth ((synthesised_iff hp).mp hs)
    · exact hheld
  by_cases hlift : ¬ Has mask p.1 ∧ Has acc.1.synth p.1
  · have hround : feedRound (ModifierSynth.reconcileOne mask excluded) acc p =
        (⟨acc.1.real, acc.1.synth &&& ~~~p.1⟩, acc.2.feed ⟨p.2, false⟩) := by
      simp [feedRound, ModifierSynth.reconcileOne, hexcluded, hlift]
    have hdown : acc.1.Synthesised p.2 := (synthesised_iff hp).mpr hlift.2
    have hheld := (h.sound.synthesised p.2 hdown).2
    rw [hround]
    refine ⟨?_, h.real, h.spares.trans ⟨[⟨p.2, false⟩], rfl, by simpa using hheld⟩, h.keeps_feed hheld⟩
    apply h.sound.toggle (synthesised_and_not hp acc.1.real)
    · exact iff_of_false Bool.false_ne_true (fun hs => hs hdown)
    · exact hheld
  · have hround : feedRound (ModifierSynth.reconcileOne mask excluded) acc p = acc := by
      simp [feedRound, ModifierSynth.reconcileOne, hexcluded, hpress, hlift]
    rwa [hround]

theorem rounds_reconcileModifiers {aboutToSend : Option Nat} (h : Sound held s.modifiers s.seat)
    (hagrs : MaskAgrees held s.modifiers mask aboutToSend) :
    Rounds held s.modifiers s.seat ((s.reconcileModifiers mask aboutToSend).modifiers,
      (s.reconcileModifiers mask aboutToSend).seat) := by
  have hrounds : Rounds held s.modifiers s.seat (synthesisable.foldl
      (feedRound (ModifierSynth.reconcileOne mask (aboutToSend.bind modifierBitForKeycode)))
      (s.modifiers, s.seat)) := by
    apply List.foldlRecOn
    · exact ⟨h, rfl, Spares.refl held s.seat, fun _ _ => Iff.rfl⟩
    · exact fun acc hacc p hp => rounds_reconcileOne hacc hp (hagrs p hp)
  rw [← collect_feed] at hrounds
  exact hrounds

theorem collect_concat (f : ModifierSynth → Mask × Nat → ModifierSynth × List SynthKey) (ps : List (Mask × Nat))
    (p : Mask × Nat) (m : ModifierSynth) : (collect f (ps ++ [p]) m).1 = (f (collect f ps m).1 p).1 := by
  rw [collect, foldl_concat]
  rfl

theorem reconcileOne_other {bit : Mask} (hp : p ∈ synthesisable) (hbit : IsBit bit)
    (hne : p.1 ≠ bit) : Has (m.reconcileOne mask excluded p).1.synth bit ↔ Has m.synth bit := by
  rw [ModifierSynth.reconcileOne]
  split
  · rfl
  split
  · exact (has_or (isBit_of_mem hp) hbit).trans (by simp [hne])
  split
  · exact (has_and_not (isBit_of_mem hp) hbit).trans (by simp [hne])
  · rfl

theorem reconcileOne_clears (hp : p ∈ synthesisable) (hexcluded : excluded ≠ some p.1)
    (hmask : ¬ Has mask p.1) : ¬ Has (m.reconcileOne mask excluded p).1.synth p.1 := by
  by_cases hsynth : Has m.synth p.1
  · have hround : (m.reconcileOne mask excluded p).1.synth = m.synth &&& ~~~p.1 := by
      simp [ModifierSynth.reconcileOne, hexcluded, hmask, hsynth]
    rw [hround, has_and_not (isBit_of_mem hp) (isBit_of_mem hp)]
    exact fun h => h.2 rfl
  · simp [ModifierSynth.reconcileOne, hexcluded, hmask, hsynth]

theorem reconcile_excluded {bit : Mask} (hkey : modifierBitForKeycode keycode = some bit) :
    Has (m.reconcile mask (some keycode)).1.synth bit ↔ Has m.synth bit := by
  have hbit := isBit_of_modifierBitForKeycode hkey
  have key : ∀ ps : List (Mask × Nat), (∀ p ∈ ps, p ∈ synthesisable) →
      (Has (collect (ModifierSynth.reconcileOne mask (some bit)) ps m).1.synth bit ↔ Has m.synth bit) := by
    intro ps
    induction ps using List.reverseRecOn with
    | nil => exact fun _ => Iff.rfl
    | append_singleton ps p ih =>
      intro hps
      have hp := hps p (by simp)
      rw [collect_concat]
      refine Iff.trans ?_ (ih fun q hq => hps q (mem_append_left _ hq))
      by_cases heq : p.1 = bit
      · simp [ModifierSynth.reconcileOne, heq]
      · exact reconcileOne_other hp hbit heq
  rw [ModifierSynth.reconcile, Option.bind_some, hkey]
  exact key synthesisable fun _ hp => hp

theorem reconcile_clears {aboutToSend : Option Nat} (hmask : NoModifiers mask)
    (hp : p ∈ synthesisable) (hexcluded : aboutToSend.bind modifierBitForKeycode ≠ some p.1) :
    ¬ Has (m.reconcile mask aboutToSend).1.synth p.1 := by
  have key : ∀ ps : List (Mask × Nat), (∀ q ∈ ps, q ∈ synthesisable) → p ∈ ps →
      ¬ Has (collect (ModifierSynth.reconcileOne mask (aboutToSend.bind modifierBitForKeycode)) ps m).1.synth
        p.1 := by
    intro ps
    induction ps using List.reverseRecOn with
    | nil => exact fun _ hmem => absurd hmem not_mem_nil
    | append_singleton ps q ih =>
      intro hps hmem
      have hq := hps q (by simp)
      rw [collect_concat]
      by_cases heq : q.1 = p.1
      · rw [← heq]
        exact reconcileOne_clears hq (heq ▸ hexcluded) (hmask q hq)
      · rw [reconcileOne_other hq (isBit_of_mem hp) heq]
        refine ih (fun r hr => hps r (mem_append_left _ hr)) ?_
        rcases mem_append.mp hmem with hmem | hmem
        · exact hmem
        · exact absurd (congrArg Prod.fst (mem_singleton.mp hmem).symm) heq
  exact key synthesisable (fun _ hq => hq) hp

theorem synthesised_observe (h : pressed = true → m.Free keycode) (j : Nat) :
    (m.observe keycode pressed).Synthesised j ↔ m.Synthesised j := by
  rw [ModifierSynth.observe]
  cases hkey : modifierBitForKeycode keycode with
  | none => rfl
  | some bit =>
    cases pressed with
    | false => rfl
    | true =>
      have hfree := h rfl bit hkey
      refine exists_congr fun q => and_congr_right fun hq => and_congr_right fun _ => ?_
      refine (has_and_not (isBit_of_modifierBitForKeycode hkey) (isBit_of_mem hq)).trans ?_
      refine and_iff_left_of_imp ?_
      rintro hhas rfl
      exact hfree hhas

theorem Sound.sendKey (h : Sound held s.modifiers s.seat)
    (hfree : pressed = true → s.modifiers.Free keycode) (hsynth : ¬ s.modifiers.Synthesised keycode)
    (hturn : pressed = true ↔ keycode ∉ s.seat.pressedKeys)
    (hheld : ∀ j, held' j ↔ if keycode = j then pressed = true else held j) :
    Sound held' (s.sendKey keycode pressed).modifiers (s.sendKey keycode pressed).seat := by
  refine ⟨turns_feed h.turns hturn, ?_, ?_⟩
  · intro j hj
    have hj := (mem_pressedKeys_feed _ _).mp hj
    rw [hheld]
    by_cases hkey : keycode = j
    · rw [if_pos hkey] at hj ⊢
      exact .inl hj
    · rw [if_neg hkey] at hj ⊢
      exact (h.accounted j hj).imp_right (synthesised_observe hfree j).mpr
  · intro j hj
    have hj := (synthesised_observe hfree j).mp hj
    have hkey : keycode ≠ j := by
      rintro rfl
      exact hsynth hj
    refine ⟨(mem_pressedKeys_feed _ _).mpr ?_, ?_⟩
    · rw [if_neg hkey]
      exact (h.synthesised j hj).1
    · rw [hheld, if_neg hkey]
      exact (h.synthesised j hj).2

theorem free_reconcile (h : m.Free keycode) : (m.reconcile mask (some keycode)).1.Free keycode := by
  intro bit hbit hhas
  exact h bit hbit ((reconcile_excluded hbit).mp hhas)

theorem maskAgrees_zero (held : Nat → Prop) (m : ModifierSynth) (aboutToSend : Option Nat) :
    MaskAgrees held m 0 aboutToSend := by
  intro p _ _ hhas
  exact absurd hhas not_has_zero

theorem sound_key (h : Sound held s.modifiers s.seat)
    (hreal : pressed = true ↔ ¬ held keycode) (hagrs : MaskAgrees held s.modifiers mask (some keycode))
    (hpress : pressed = true → s.modifiers.Free keycode) (hrel : pressed = false → keycode ∈ s.seat.pressedKeys)
    (hheld : ∀ j, held' j ↔ if keycode = j then pressed = true else held j) :
    Sound held' (s.key keycode mask pressed).modifiers (s.key keycode mask pressed).seat ∧
      Spares (fun j => held j ∧ ¬ (keycode = j ∧ pressed = false)) s.seat (s.key keycode mask pressed).seat := by
  have hrounds := rounds_reconcileModifiers h hagrs
  have hfree : pressed = true → (s.reconcileModifiers mask (some keycode)).modifiers.Free keycode :=
    fun hp => free_reconcile (hpress hp)
  have hsynth : ¬ (s.reconcileModifiers mask (some keycode)).modifiers.Synthesised keycode := by
    intro hs
    cases hp : pressed with
    | true => exact not_synthesised_of_free (hfree hp) hs
    | false =>
      refine (hrounds.sound.synthesised keycode hs).2 ?_
      by_contra hup
      exact absurd (hreal.mpr hup) (by simp [hp])
  have hturn : pressed = true ↔ keycode ∉ (s.reconcileModifiers mask (some keycode)).seat.pressedKeys := by
    constructor
    · intro hp hdown
      exact (hrounds.sound.accounted keycode hdown).elim (hreal.mp hp) hsynth
    · intro hup
      refine Bool.eq_true_of_not_eq_false fun hp => ?_
      have hdown : held keycode := by
        by_contra hnot
        exact absurd (hreal.mpr hnot) (by simp [hp])
      exact hup ((hrounds.keeps keycode hdown).mpr (hrel hp))
  have hsent := hrounds.sound.sendKey hfree hsynth hturn hheld
  have hspares : Spares (fun j => held j ∧ ¬ (keycode = j ∧ pressed = false)) s.seat
      ((s.reconcileModifiers mask (some keycode)).sendKey keycode pressed).seat := by
    refine (hrounds.spares.mono fun j hj => hj.1).trans ⟨[⟨keycode, pressed⟩], rfl, ?_⟩
    intro j hmem hj
    simp only [mem_singleton, SynthKey.mk.injEq] at hmem
    exact hj.2 ⟨hmem.1.symm, hmem.2.symm⟩
  rw [State.key]
  split
  · rename_i hlift
    have hp : pressed = false := by simpa using (Bool.and_eq_true_iff.mp hlift).1
    rw [liftSynthetic_eq]
    have hlifted := rounds_reconcileModifiers hsent (maskAgrees_zero held' _ none)
    refine ⟨hlifted.sound, hspares.trans (hlifted.spares.mono fun j hj => ?_)⟩
    rw [hheld, if_neg fun heq => hj.2 ⟨heq, hp⟩]
    exact hj.1
  · exact ⟨hsent, hspares⟩

theorem held_concat (before : List Input) (e : Input) (j : Nat) :
    Held (before ++ [e]) j ↔
      match e.realKey with
      | some k => if k.keycode = j then k.pressed = true else Held before j
      | none => Held before j := by
  rw [Held, Held, realKeys, realKeys, filterMap_append]
  cases hkey : e.realKey with
  | none => simp [hkey]
  | some k =>
    have hsingle : List.filterMap Input.realKey [e] = [k] := by simp [hkey]
    rw [hsingle, eventsOf_concat]
    by_cases hj : k.keycode = j <;> simp [hj]

theorem Sound.congr (h : Sound held m seat) (hheld : ∀ j, held' j ↔ held j) : Sound held' m seat := by
  rwa [show held' = held from funext fun j => propext (hheld j)]

variable {before : List Input} {e : Input}

theorem sound_unheard (h : Sound (Held before) m seat)
    (hpress : ∀ keycode, e.realKey = some ⟨keycode, true⟩ → ¬ m.Synthesised keycode)
    (hrel : ∀ keycode, e.realKey = some ⟨keycode, false⟩ → keycode ∉ seat.pressedKeys) :
    Sound (Held (before ++ [e])) m seat := by
  cases hkey : e.realKey with
  | none => exact h.congr fun j => by rw [held_concat, hkey]
  | some k =>
    obtain ⟨keycode, pressed⟩ := k
    have hheld : ∀ j, Held (before ++ [e]) j ↔ if keycode = j then pressed = true else Held before j := by
      intro j
      rw [held_concat, hkey]
    refine ⟨h.turns, ?_, ?_⟩
    · intro j hj
      rw [hheld]
      by_cases heq : keycode = j
      · cases pressed with
        | true => exact .inl (by rw [if_pos heq])
        | false => exact absurd (heq ▸ hj) (hrel keycode hkey)
      · rw [if_neg heq]
        exact h.accounted j hj
    · intro j hj
      refine ⟨(h.synthesised j hj).1, ?_⟩
      rw [hheld]
      by_cases heq : keycode = j
      · rw [if_pos heq]
        rintro rfl
        exact hpress keycode hkey (heq ▸ hj)
      · rw [if_neg heq]
        exact (h.synthesised j hj).2

def Carried (before : List Input) (e : Input) (s s' : State) : Prop :=
  Sound (Held (before ++ [e])) s'.modifiers s'.seat ∧
    Spares (fun j => Held before j ∧ e.realKey ≠ some ⟨j, false⟩) s.seat s'.seat

theorem carried_unheard (h : Sound (Held before) s.modifiers s.seat)
    (hpress : ∀ keycode, e.realKey = some ⟨keycode, true⟩ → ¬ s.modifiers.Synthesised keycode)
    (hrel : ∀ keycode, e.realKey = some ⟨keycode, false⟩ → keycode ∉ s.seat.pressedKeys) :
    Carried before e s s :=
  ⟨sound_unheard h hpress hrel, Spares.refl _ _⟩

theorem carried_pointer (h : Sound (Held before) s.modifiers s.seat)
    (hkey : e.realKey = none) (hagrs : MaskAgrees (Held before) s.modifiers mask none) :
    Carried before e s (s.reconcileModifiers mask none) := by
  have hrounds := rounds_reconcileModifiers h hagrs
  exact ⟨hrounds.sound.congr fun j => by rw [held_concat, hkey], hrounds.spares.mono fun j hj => hj.1⟩

theorem carried_key (h : Sound (Held before) s.modifiers s.seat)
    (hkey : e.realKey = some ⟨keycode, pressed⟩) (hreal : pressed = true ↔ ¬ Held before keycode)
    (hagrs : MaskAgrees (Held before) s.modifiers mask (some keycode))
    (hpress : pressed = true → s.modifiers.Free keycode)
    (hrel : pressed = false → keycode ∈ s.seat.pressedKeys) :
    Carried before e s (s.key keycode mask pressed) := by
  have hheld : ∀ j, Held (before ++ [e]) j ↔ if keycode = j then pressed = true else Held before j := by
    intro j
    rw [held_concat, hkey]
  obtain ⟨hsound, hspares⟩ := sound_key h hreal hagrs hpress hrel hheld
  refine ⟨hsound, hspares.mono fun j hj => ⟨hj.1, ?_⟩⟩
  rintro ⟨rfl, rfl⟩
  exact hj.2 hkey

theorem carried_step (h : Sound (Held before) s.modifiers s.seat)
    (hreal : ∀ k, e.realKey = some k → (k.pressed = true ↔ ¬ Held before k.keycode))
    (hclear : Clear before s e) : Carried before e s (s.step e) := by
  cases e with
  | opened uuid => exact carried_unheard h (by simp [Input.realKey]) (by simp [Input.realKey])
  | closed uuid => exact carried_unheard h (by simp [Input.realKey]) (by simp [Input.realKey])
  | event uuid event =>
    rw [State.step, State.apply.eq_def]
    by_cases hkn : uuid ∈ s.windows
    · rw [if_pos hkn]
      cases event with
      | motionNotify mask => exact carried_pointer h rfl (hclear mask rfl hkn)
      | buttonPress button mask => exact carried_pointer h rfl (hclear mask rfl hkn)
      | buttonRelease button mask => exact carried_pointer h rfl (hclear mask rfl hkn)
      | keyPress keycode mask =>
        simp only [Clear, if_pos hkn] at hclear
        exact carried_key h rfl (hreal _ rfl) hclear.2 (fun _ => hclear.1) (by simp)
      | keyRelease keycode mask =>
        simp only [Clear, if_pos hkn] at hclear
        exact carried_key h rfl (hreal _ rfl) hclear.2.1 (by simp) (fun _ => hclear.1)
      | other => exact carried_unheard h (by simp [Input.realKey]) (by simp [Input.realKey])
    · rw [if_neg hkn]
      apply carried_unheard h
      · intro keycode hkey
        cases event with
        | keyPress j mask =>
          simp only [Clear, if_neg hkn] at hclear
          simp only [Input.realKey, Option.some.injEq, SynthKey.mk.injEq, and_true] at hkey
          rwa [hkey] at hclear
        | _ => simp [Input.realKey] at hkey
      · intro keycode hkey
        cases event with
        | keyRelease j mask =>
          simp only [Clear, if_neg hkn] at hclear
          simp only [Input.realKey, Option.some.injEq, SynthKey.mk.injEq, and_true] at hkey
          rwa [hkey] at hclear
        | _ => simp [Input.realKey] at hkey

theorem step_synthesised {uuid : String} {event : InputEvent} (hkn : uuid ∈ s.windows)
    (hmask : event.mask = some mask) (hnone : NoModifiers mask)
    (hup : ∀ keycode, ¬ Held (before ++ [.event uuid event]) keycode)
    (hclear : Clear before s (.event uuid event)) (j : Nat) :
    ¬ (s.step (.event uuid event)).modifiers.Synthesised j := by
  have hlifted : ∀ (s : State) (mask : Mask), NoModifiers mask →
      ¬ (s.reconcileModifiers mask none).modifiers.Synthesised j := by
    rintro s mask hnone ⟨p, hp, -, hhas⟩
    exact reconcile_clears hnone hp (by simp) hhas
  rw [State.step, State.apply.eq_def, if_pos hkn]
  cases event with
  | other => cases hmask
  | motionNotify mask' =>
    obtain rfl := Option.some.inj hmask
    exact hlifted s mask' hnone
  | buttonPress button mask' =>
    obtain rfl := Option.some.inj hmask
    exact hlifted s mask' hnone
  | buttonRelease button mask' =>
    obtain rfl := Option.some.inj hmask
    exact hlifted s mask' hnone
  | keyPress keycode mask' =>
    refine absurd ?_ (hup keycode)
    rw [held_concat]
    simp [Input.realKey]
  | keyRelease keycode mask' =>
    obtain rfl := Option.some.inj hmask
    simp only [Clear, if_pos hkn] at hclear
    simp only [State.key]
    split
    · rw [liftSynthetic_eq]
      exact hlifted _ 0 fun _ _ => not_has_zero
    · rename_i hmodifier
      -- the key is a modifier itself: its own bit is the one that is not reconciled
      have honly : ∀ key, Held before key → key = keycode := by
        intro key hkey
        by_contra hne
        refine hup key ?_
        rw [held_concat]
        simpa [Input.realKey, Ne.symm hne] using hkey
      have hfree : (s.reconcileModifiers mask' (some keycode)).modifiers.Free keycode :=
        free_reconcile (hclear.2.2 hnone honly)
      rintro hs
      obtain ⟨p, hp, -, hhas⟩ := (synthesised_observe (by simp) j).mp hs
      by_cases hexcluded : (some keycode).bind modifierBitForKeycode = some p.1
      · exact hfree p.1 hexcluded hhas
      · exact reconcile_clears hnone hp hexcluded hhas

theorem run_concat (before : List Input) (e : Input) : run (before ++ [e]) = (run before).step e := by
  rw [run, foldl_concat]
  rfl

def RealTurns (inputs : List Input) : Prop := ∀ keycode, Alternates true (eventsOf keycode (realKeys inputs))

def AllClear (inputs : List Input) : Prop :=
  ∀ before e, before ++ [e] <+: inputs → Clear before (run before) e

theorem realTurns_concat (h : RealTurns (before ++ [e])) (k : SynthKey)
    (hkey : e.realKey = some k) : k.pressed = true ↔ ¬ Held before k.keycode := by
  have hturn := h k.keycode
  have hkeys : realKeys (before ++ [e]) = realKeys before ++ [k] := by
    simp [realKeys, hkey]
  rw [hkeys, eventsOf_concat, if_pos rfl, alternates_concat] at hturn
  rw [hturn.2, Held, ← next_eq_false, Bool.not_eq_false]

theorem realTurns_before {before inputs : List Input} (hbef : before <+: inputs) (h : RealTurns inputs) :
    RealTurns before := by
  obtain ⟨rest, rfl⟩ := hbef
  intro keycode
  have hall := h keycode
  simp only [realKeys, eventsOf, filterMap_append, filter_append, map_append] at hall
  exact hall.of_append

theorem run_sound {inputs : List Input} (hreal : RealTurns inputs) (hclear : AllClear inputs) :
    ∀ before, before <+: inputs → Sound (Held before) (run before).modifiers (run before).seat := by
  intro before
  induction before using List.reverseRecOn with
  | nil =>
    intro _
    refine ⟨fun keycode => ⟨trivial, ?_⟩, ?_, ?_⟩
    · simp [run, eventsOf, Alternation.next]
    · simp [run]
    · rintro keycode ⟨p, hp, -, hhas⟩
      exact absurd hhas not_has_zero
  | append_singleton before e ih =>
    intro hbef
    have hsound := ih ((prefix_append before [e]).trans hbef)
    rw [run_concat]
    exact (carried_step hsound (realTurns_concat (realTurns_before hbef hreal)) (hclear before e hbef)).1

theorem run_keysSound (inputs : List Input) (hreal : RealTurns inputs) (hclear : AllClear inputs) :
    KeysSound inputs where
  alternate keycode := ((run_sound hreal hclear inputs prefix_rfl).turns keycode).1
  notReleased before e hbef keycode hheld hmem := by
    have hsound := run_sound hreal hclear before ((prefix_append before [e]).trans hbef)
    have hstep := carried_step hsound (realTurns_concat (realTurns_before hbef hreal)) (hclear before e hbef)
    obtain ⟨new, hfed, hnew⟩ := hstep.2
    rw [run_concat, hfed, drop_left] at hmem
    by_contra hne
    exact hnew keycode hmem ⟨hheld, hne⟩
  noneLeft before uuid event mask hbef hkn hmask hnone hup := by
    have hsound := run_sound hreal hclear _ hbef
    refine Finset.eq_empty_of_forall_notMem fun keycode hdown => ?_
    rcases hsound.accounted keycode hdown with hheld | hs
    · exact hup keycode hheld
    · rw [run_concat] at hs
      exact step_synthesised hkn hmask hnone hup (hclear before _ hbef) keycode hs

theorem allClear_concat (h : AllClear before)
    (hlast : Clear before (run before) e) : AllClear (before ++ [e]) :=
  Runs.forall_prefix_concat.mpr ⟨h, hlast⟩

theorem realTurns_of_mem {inputs : List Input}
    (h : ∀ k ∈ realKeys inputs, Alternates true (eventsOf k.keycode (realKeys inputs))) : RealTurns inputs := by
  intro keycode
  by_cases hmem : ∃ k ∈ realKeys inputs, k.keycode = keycode
  · obtain ⟨k, hk, rfl⟩ := hmem
    exact h k hk
  · have hnone : (realKeys inputs).filter (fun k => k.keycode == keycode) = [] := by
      rw [filter_eq_nil_iff]
      intro k hk hkey
      exact hmem ⟨k, hk, beq_iff_eq.mp hkey⟩
    rw [eventsOf, hnone]
    trivial

/-- A shifted character whose Shift key never came: Shift goes down before it and
comes up after it. -/
theorem run_keysSound_semicolon :
    RealTurns [.opened "a", .event "a" (.keyPress 47 modShift), .event "a" (.keyRelease 47 modShift)] ∧
    AllClear [.opened "a", .event "a" (.keyPress 47 modShift), .event "a" (.keyRelease 47 modShift)] ∧
    KeysSound [.opened "a", .event "a" (.keyPress 47 modShift), .event "a" (.keyRelease 47 modShift)] := by
  have hreal :
      RealTurns [.opened "a", .event "a" (.keyPress 47 modShift), .event "a" (.keyRelease 47 modShift)] := by
    exact realTurns_of_mem (by decide +kernel)
  have hclear :
      AllClear [.opened "a", .event "a" (.keyPress 47 modShift), .event "a" (.keyRelease 47 modShift)] := by
    have hst : AllClear [] := fun before e h => absurd h (by simp)
    have hopd := allClear_concat (e := .opened "a") hst trivial
    have hpressed := allClear_concat (e := .event "a" (.keyPress 47 modShift)) hopd ⟨by decide +kernel, by decide +kernel⟩
    refine allClear_concat (e := .event "a" (.keyRelease 47 modShift)) hpressed ?_
    exact ⟨by decide +kernel, by decide +kernel, fun hnone => absurd hnone (by decide +kernel)⟩
  exact ⟨hreal, hclear, run_keysSound _ hreal hclear⟩

/-- The user holds the left Shift, taps the right one and types: Shift is pressed a
second time. -/
theorem not_keysSound_bothShifts : ¬ ∀ inputs, RealTurns inputs → KeysSound inputs := by
  intro h
  have hreal : RealTurns [.opened "a", .event "a" (.keyPress 50 modShift), .event "a" (.keyPress 62 modShift),
      .event "a" (.keyRelease 62 modShift), .event "a" (.keyPress 38 modShift)] := by
    exact realTurns_of_mem (by decide +kernel)
  have hturns := (h _ hreal).alternate 50
  revert hturns
  decide +kernel

end X11Web.WaylandKeys
