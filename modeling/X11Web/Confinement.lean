import X11Web.Grabs
import X11Web.PointerBarriers
import X11Web.Runs

namespace X11Web.Confinement

open HashMaps Windows Grabs PointerBarriers Runs List

/-- Input from the browser, but for what only the events built from it carry. -/
inductive InputEvent
  | motionNotify (x y : Int) (state : Nat)
  | buttonPress (button : Nat) (x y : Int) (state : Nat)
  | buttonRelease (button : Nat) (x y : Int) (state : Nat)
  | touch (x y : Int) (state : Nat)
  | keyPress (keycode state : Nat)
  | keyRelease (keycode state : Nat)
  /-- Menus, window management, drag and drop, gestures and composition. -/
  | other
  deriving DecidableEq

/-- An input message for a top-level window. Whether BounceKeys would reject the key of the
message depends on the time at which it is handled, so the message says so. -/
structure InputMessage where
  window : XId
  input : InputEvent
  bounced : Bool
  deriving DecidableEq

def InputMessage.isMotion (m : InputMessage) : Bool :=
  match m.input with
  | .motionNotify .. => true
  | _ => false

/-- Where the pointer is stored: its position and the XI valuators. -/
structure Track where
  pointer : Int × Int
  valuators : Int × Int
  deriving DecidableEq

/-- What the handling of input reads and writes of the client's state to place the pointer. The
barriers come with the order in which their map yields them. -/
structure InputState where
  client : ClientState
  grabs : GrabState
  barriers : HashMap XId PointerBarrier
  order : List XId
  mouseKeys : Bool
  mkMaxSpeed : Nat
  track : Track

/-- The bounds `(x1, y1, x2, y2)` of a confine window. -/
abbrev Bounds := Int × Int × Int × Int

def InputState.confine (s : InputState) : Option Bounds := s.grabs.pointerGrab.bind (·.confineBounds)

def clampToConfine (s : InputState) (p : Int × Int) : Int × Int :=
  match s.confine with
  | some (x1, y1, x2, y2) => (min (max p.1 x1) (saturatingAddI16 x2 (-1)), min (max p.2 y1) (saturatingAddI16 y2 (-1)))
  | none => p

/-- From coordinates of a top-level window to those of the root. -/
def localToRoot (s : InputState) (window : XId) (p : Int × Int) : Int × Int :=
  match s.client.windows.lookup window with
  | some w => (saturatingAddI16 w.x p.1, saturatingAddI16 w.y p.2)
  | none => p

def afterBarriers (s : InputState) (old p : Int × Int) : Int × Int :=
  if s.barriers = ∅ then p else enforceBarriers s.order s.barriers old p

def Track.correct (p clamped : Int × Int) (t : Track) : Track := if clamped ≠ p then ⟨clamped, clamped⟩ else t

/-- A motion that a later one in the batch makes obsolete. -/
def skipMotion (s : InputState) (p : Int × Int) : Track :=
  let final := afterBarriers s s.track.pointer p
  ⟨final, final⟩

/-- A motion that is delivered: the confine window first, then the barriers, then the event. -/
def deliverMotion (s : InputState) (window : XId) (p : Int × Int) : Track :=
  let old := s.track.pointer
  let t := { s.track with valuators := p }
  let confined := clampToConfine s p
  let t := t.correct p confined
  let stopped := afterBarriers s old confined
  let t := t.correct confined stopped
  { t with pointer := localToRoot s window stopped }

def mousekeysMovement : Nat → Option (Int × Int)
  | 79 => some (-1, -1)
  | 80 => some (0, -1)
  | 81 => some (1, -1)
  | 83 => some (-1, 0)
  | 85 => some (1, 0)
  | 87 => some (-1, 1)
  | 88 => some (0, 1)
  | 89 => some (1, 1)
  | _ => none

def mousekeysIsClick (keycode : Nat) : Bool := keycode == 84

def mousekeysTarget (s : InputState) (d : Int × Int) : Int × Int :=
  let speed := asI16 (max s.mkMaxSpeed 1)
  let p := s.track.pointer
  (max (asI16 (p.1 + asI16 (d.1 * speed))) 0, max (asI16 (p.2 + asI16 (d.2 * speed))) 0)

/-- What a message that is not a skipped motion does to the pointer. -/
def handlePointer (s : InputState) (m : InputMessage) : Track :=
  match m.input with
  | .motionNotify x y _ => deliverMotion s m.window (x, y)
  | .buttonPress _ x y _ | .buttonRelease _ x y _ => ⟨localToRoot s m.window (x, y), (x, y)⟩
  | .touch x y _ => { s.track with valuators := (x, y) }
  | .keyPress keycode _ =>
    if m.bounced || !s.mouseKeys then s.track
    else
      match mousekeysMovement (keycode % 256) with
      | some d =>
        let new := mousekeysTarget s d
        ⟨localToRoot s m.window new, new⟩
      | none =>
        if mousekeysIsClick (keycode % 256) then
          { s.track with pointer := localToRoot s m.window s.track.pointer }
        else s.track
  | .keyRelease keycode _ =>
    if s.mouseKeys && mousekeysIsClick (keycode % 256) then
      { s.track with pointer := localToRoot s m.window s.track.pointer }
    else s.track
  | .other => s.track

def lastMotion (messages : List InputMessage) : HashMap XId Nat :=
  messages.zipIdx.foldl (fun last m => if m.1.isMotion then last.insert m.1.window m.2 else last) ∅

def coalesced (messages : List InputMessage) (m : InputMessage × Nat) : Bool :=
  m.1.isMotion && ((lastMotion messages).lookup m.1.window).any (fun last => decide (m.2 < last))

section Batch

-- what the messages do to the windows and the grabs
variable (surroundings : InputState → InputMessage → ClientState × GrabState)

def handleMessage (messages : List InputMessage) (s : InputState) (m : InputMessage × Nat) : InputState :=
  if coalesced messages m then
    match m.1.input with
    | .motionNotify x y _ => { s with track := skipMotion s (x, y) }
    | _ => s
  else
    let (client, grabs) := surroundings s m.1
    { s with client, grabs, track := handlePointer s m.1 }

def handled (messages : List InputMessage) (s : InputState) (before : List (InputMessage × Nat)) : InputState :=
  before.foldl (handleMessage surroundings messages) s

end Batch

def Inside (bounds : Bounds) (p : Int × Int) : Prop :=
  (bounds.1 ≤ p.1 ∧ p.1 < bounds.2.2.1) ∧ bounds.2.1 ≤ p.2 ∧ p.2 < bounds.2.2.2

def nearest (bounds : Bounds) (p : Int × Int) : Int × Int :=
  (min (max p.1 bounds.1) (bounds.2.2.1 - 1), min (max p.2 bounds.2.1) (bounds.2.2.2 - 1))

/-- A barrier holds back a motion to the position. -/
def Stopped (s : InputState) (p : Int × Int) : Prop :=
  ∃ id barrier, s.barriers.lookup id = some barrier ∧ Beyond s.track.pointer barrier p

/-- What the stored pointer would be at a position where a motion ends. -/
def stored (messages : List InputMessage) (s : InputState) (m : InputMessage × Nat) (p : Int × Int) : Int × Int :=
  if coalesced messages m then p else localToRoot s m.1.window p

/-- The message keeps the pointer confined. A skipped motion goes for the position that it requests, a delivered
one for the nearest pixel of the bounds, and that is stored within them. Where a barrier holds the motion back,
it begins within the bounds, and what it begins at is stored within them too. -/
def Kept (bounds : Bounds) (messages : List InputMessage) (s : InputState) (m : InputMessage × Nat) : Prop :=
  ∀ x y mask, m.1.input = .motionNotify x y mask →
    let p := if coalesced messages m then (x, y) else nearest bounds (x, y)
    Inside bounds (stored messages s m p) ∧
      (Stopped s p → Inside bounds s.track.pointer ∧ Inside bounds (stored messages s m s.track.pointer))

variable {surroundings : InputState → InputMessage → ClientState × GrabState} {bounds : Bounds}
  {messages : List InputMessage} {s : InputState} {m : InputMessage × Nat} {p q r : Int × Int} {window : XId}

/-- Bounds, as 16-bit coordinates, that cover a pixel. -/
structure Covering (bounds : Bounds) : Prop where
  x : bounds.1 < bounds.2.2.1
  y : bounds.2.1 < bounds.2.2.2
  left : -2 ^ 15 ≤ bounds.1
  top : -2 ^ 15 ≤ bounds.2.1
  right : bounds.2.2.1 < 2 ^ 15
  bottom : bounds.2.2.2 < 2 ^ 15

theorem nearest_inside (h : Covering bounds) (p : Int × Int) : Inside bounds (nearest bounds p) := by
  obtain ⟨hx, hy, -, -, -, -⟩ := h
  simp only [Inside, nearest]
  omega

theorem clampToConfine_eq (h : Covering bounds) (hs : s.confine = some bounds) :
    clampToConfine s p = nearest bounds p := by
  obtain ⟨x1, y1, x2, y2⟩ := bounds
  obtain ⟨hx, hy, hleft, htop, hright, hbot⟩ := h
  dsimp only at hx hy hleft htop hright hbot
  rw [clampToConfine, hs]
  have hright' : saturatingAddI16 x2 (-1) = x2 - 1 := by
    rw [saturatingAddI16]
    omega
  have hbot' : saturatingAddI16 y2 (-1) = y2 - 1 := by
    rw [saturatingAddI16]
    omega
  simp only [nearest, hright', hbot']

theorem Inside.within (hp : Inside bounds p) (hq : Inside bounds q) (h : Within p q r) : Inside bounds r := by
  simp only [Inside, Within, Between] at *
  omega

theorem saturatingAddI16_le {a b : Int} (k : Int) (h : a ≤ b) : saturatingAddI16 k a ≤ saturatingAddI16 k b := by
  rw [saturatingAddI16, saturatingAddI16]
  omega

theorem between_saturatingAddI16 {a b x : Int} (k : Int) (h : Between a b x) :
    Between (saturatingAddI16 k a) (saturatingAddI16 k b) (saturatingAddI16 k x) := by
  obtain ⟨hlow, hhigh⟩ := h
  rcases Int.le_total a b with hab | hba
  · rw [Int.min_eq_left hab] at hlow
    rw [Int.max_eq_right hab] at hhigh
    exact ⟨(Int.min_le_left _ _).trans (saturatingAddI16_le k hlow),
      (saturatingAddI16_le k hhigh).trans (Int.le_max_right _ _)⟩
  · rw [Int.min_eq_right hba] at hlow
    rw [Int.max_eq_left hba] at hhigh
    exact ⟨(Int.min_le_right _ _).trans (saturatingAddI16_le k hlow),
      (saturatingAddI16_le k hhigh).trans (Int.le_max_left _ _)⟩

theorem within_localToRoot (h : Within p q r) :
    Within (localToRoot s window p) (localToRoot s window q) (localToRoot s window r) := by
  rw [localToRoot, localToRoot, localToRoot]
  split
  · exact ⟨between_saturatingAddI16 _ h.1, between_saturatingAddI16 _ h.2⟩
  · exact h

theorem afterBarriers_within (s : InputState) (old p : Int × Int) : Within old p (afterBarriers s old p) := by
  rw [afterBarriers]
  split
  · simp only [Within, Between]
    omega
  · exact enforceBarriers_within _ _ _ _

theorem afterBarriers_of_clear (h : ¬Stopped s p) : afterBarriers s s.track.pointer p = p := by
  rw [afterBarriers, enforceBarriers]
  split
  · rfl
  · refine List.foldlRecOn (motive := fun q => q = p) _ _ rfl fun q hq barrier hmem => ?_
    obtain ⟨id, -, hlook⟩ := List.mem_filterMap.mp hmem
    subst hq
    exact enforceBarrier_of_not_beyond fun hbyd => h ⟨id, barrier, hlook, hbyd⟩

theorem Track.correct_valuators {t : Track} (h : t.valuators = p) : (t.correct p q).valuators = q := by
  rw [correct]
  split
  · rfl
  · next heq => exact h.trans (not_not.mp heq).symm

theorem deliverMotion_eq (h : Covering bounds) (hs : s.confine = some bounds) :
    deliverMotion s window p =
      ⟨localToRoot s window (afterBarriers s s.track.pointer (nearest bounds p)),
        afterBarriers s s.track.pointer (nearest bounds p)⟩ := by
  rw [deliverMotion, clampToConfine_eq h hs]
  exact congrArg _ (Track.correct_valuators (Track.correct_valuators rfl))

theorem inside_afterBarriers (hp : Inside bounds p) (hq : Stopped s p → Inside bounds s.track.pointer) :
    Inside bounds (afterBarriers s s.track.pointer p) := by
  by_cases hst : Stopped s p
  · exact (hq hst).within hp (afterBarriers_within s _ p)
  · rwa [afterBarriers_of_clear hst]

theorem inside_stored_afterBarriers (hp : Inside bounds (stored messages s m p))
    (hq : Stopped s p → Inside bounds (stored messages s m s.track.pointer)) :
    Inside bounds (stored messages s m (afterBarriers s s.track.pointer p)) := by
  by_cases hst : Stopped s p
  · refine (hq hst).within hp ?_
    simp only [stored]
    split
    · exact afterBarriers_within s _ p
    · exact within_localToRoot (afterBarriers_within s _ p)
  · rwa [afterBarriers_of_clear hst]

/-- After a motion, the pointer and the valuators are within the bounds. -/
def Confined (bounds : Bounds) (m : InputMessage × Nat) (s : InputState) : Prop :=
  m.1.isMotion → Inside bounds s.track.pointer ∧ Inside bounds s.track.valuators

theorem isMotion_iff : m.1.isMotion ↔ ∃ x y mask, m.1.input = .motionNotify x y mask := by
  rw [InputMessage.isMotion]
  split
  · next x y mask h => exact iff_of_true rfl ⟨x, y, mask, h⟩
  · next h => exact iff_of_false Bool.false_ne_true fun ⟨x, y, mask, hm⟩ => h x y mask hm

theorem handleMessage_motion (h : Covering bounds) (hs : s.confine = some bounds) {x y : Int} {mask : Nat}
    (hm : m.1.input = .motionNotify x y mask) :
    let final := afterBarriers s s.track.pointer (if coalesced messages m then (x, y) else nearest bounds (x, y))
    (handleMessage surroundings messages s m).track = ⟨stored messages s m final, final⟩ := by
  rw [handleMessage, handlePointer, hm]
  simp only [stored]
  split
  · rfl
  · exact deliverMotion_eq h hs

section Step

variable (h : Covering bounds) (hs : s.confine = some bounds)

include h hs in
theorem confined_of_kept (hkept : Kept bounds messages s m) :
    Confined bounds m (handleMessage surroundings messages s m) := by
  intro hmotion
  obtain ⟨x, y, mask, hm⟩ := isMotion_iff.mp hmotion
  obtain ⟨hplc, hst⟩ := hkept x y mask hm
  rw [handleMessage_motion h hs hm]
  refine ⟨inside_stored_afterBarriers hplc fun hstop => (hst hstop).2,
    inside_afterBarriers ?_ fun hstop => (hst hstop).1⟩
  split
  · next hskip => simpa only [stored, if_pos hskip] using hplc
  · exact nearest_inside h _

include h hs in
/-- Where no barrier holds back the motion of the message, it is also necessary that it keeps the pointer confined. -/
theorem kept_of_confined (hclear : ∀ p, ¬Stopped s p)
    (hconfined : Confined bounds m (handleMessage surroundings messages s m)) : Kept bounds messages s m := by
  intro x y mask hm
  have hins := (hconfined (isMotion_iff.mpr ⟨x, y, mask, hm⟩)).1
  rw [handleMessage_motion h hs hm, afterBarriers_of_clear (hclear _)] at hins
  exact ⟨hins, fun hst => absurd hst (hclear _)⟩

end Step

theorem handled_barriers (before : List (InputMessage × Nat)) :
    (handled surroundings messages s before).barriers = s.barriers := by
  induction before using List.reverseRecOn with
  | nil => rfl
  | append_singleton before m ih =>
    rw [handled, foldl_concat, handleMessage]
    split
    · split <;> exact ih
    · exact ih

/-- While a pointer grab confines the pointer, a batch of input leaves it confined after every motion
if each message keeps it so, and without barriers only then. -/
theorem motions_confined (h : Covering bounds)
    (hstays : ∀ before, before <+: messages.zipIdx →
      (handled surroundings messages s before).confine = some bounds) :
    ((∀ before m, before ++ [m] <+: messages.zipIdx →
        Kept bounds messages (handled surroundings messages s before) m) →
      ∀ before m, before ++ [m] <+: messages.zipIdx →
        Confined bounds m (handled surroundings messages s (before ++ [m]))) ∧
    (s.barriers = ∅ →
      (∀ before m, before ++ [m] <+: messages.zipIdx →
        Confined bounds m (handled surroundings messages s (before ++ [m]))) →
      ∀ before m, before ++ [m] <+: messages.zipIdx →
        Kept bounds messages (handled surroundings messages s before) m) := by
  constructor
  · intro hkept before m hbef
    have hpre := (prefix_append before [m]).trans hbef
    rw [handled, foldl_concat]
    exact confined_of_kept h (hstays before hpre) (hkept before m hbef)
  · intro hemp hconfined before m hbef
    have hpre := (prefix_append before [m]).trans hbef
    have hclear : ∀ p, ¬Stopped (handled surroundings messages s before) p := by
      rintro p ⟨id, barrier, hlook, -⟩
      rw [handled_barriers, hemp, Finmap.lookup_empty] at hlook
      cases hlook
    have hstep := hconfined before m hbef
    rw [handled, foldl_concat] at hstep
    exact kept_of_confined h (hstays before hpre) hclear hstep

theorem lastMotion_concat (messages : List InputMessage) (m : InputMessage) :
    lastMotion (messages ++ [m]) =
      if m.isMotion then (lastMotion messages).insert m.window messages.length else lastMotion messages := by
  simp [lastMotion, zipIdx_append]

/-- The map's index for a window comes after an index exactly if some motion for the window does. -/
theorem lastMotion_after_iff {i : Nat} :
    ((lastMotion messages).lookup window).any (fun last => decide (i < last)) ↔
      ∃ j m, i < j ∧ messages[j]? = some m ∧ m.isMotion ∧ m.window = window := by
  induction messages using List.reverseRecOn with
  | nil => simp [lastMotion]
  | append_singleton messages m ih =>
    rw [lastMotion_concat]
    by_cases hm : m.isMotion ∧ m.window = window
    · obtain ⟨hmotion, rfl⟩ := hm
      rw [if_pos hmotion, Finmap.lookup_insert]
      simp only [Option.any_some, decide_eq_true_eq]
      constructor
      · exact fun hi => ⟨messages.length, m, hi, List.getElem?_concat_length, hmotion, rfl⟩
      · rintro ⟨j, m', hi, hj, -, -⟩
        have hlt : j < (messages ++ [m]).length := (List.getElem?_eq_some_iff.mp hj).1
        rw [length_append, length_singleton] at hlt
        omega
    · have hlook : (if m.isMotion then (lastMotion messages).insert m.window messages.length
          else lastMotion messages).lookup window = (lastMotion messages).lookup window := by
        split
        · next hmotion => exact Finmap.lookup_insert_of_ne _ fun heq => hm ⟨hmotion, heq.symm⟩
        · rfl
      rw [hlook, ih]
      constructor
      · rintro ⟨j, m', hi, hj, hmotion, hwin⟩
        exact ⟨j, m', hi, List.getElem?_append_left (List.getElem?_eq_some_iff.mp hj).1 ▸ hj, hmotion, hwin⟩
      · rintro ⟨j, m', hi, hj, hmotion, hwin⟩
        refine ⟨j, m', hi, ?_, hmotion, hwin⟩
        have hlt : j < (messages ++ [m]).length := (List.getElem?_eq_some_iff.mp hj).1
        rw [length_append, length_singleton] at hlt
        by_cases hlast : j = messages.length
        · subst hlast
          rw [List.getElem?_concat_length] at hj
          exact absurd ⟨hmotion, hwin⟩ (Option.some.inj hj ▸ hm)
        · rwa [List.getElem?_append_left (by omega)] at hj

theorem coalesced_iff {m : InputMessage} {i : Nat} :
    coalesced messages (m, i) ↔ m.isMotion ∧
      ∃ j m', i < j ∧ messages[j]? = some m' ∧ m'.isMotion ∧ m'.window = m.window := by
  rw [coalesced, Bool.and_eq_true_iff, lastMotion_after_iff]

section Example

def unmoved (s : InputState) (_ : InputMessage) : ClientState × GrabState := (s.client, s.grabs)

theorem handled_unmoved (before : List (InputMessage × Nat)) : (handled unmoved messages s before).grabs = s.grabs := by
  induction before using List.reverseRecOn with
  | nil => rfl
  | append_singleton before m ih =>
    rw [handled, foldl_concat, handleMessage]
    split
    · split <;> exact ih
    · exact ih

/-- A pointer that a grab confines to the top left corner of the root. -/
def cornered : InputState where
  client := acceptClient 1 false 0 0 [] (initialShared (fun _ => ∅) ∅)
  grabs := { pointerGrab := some ⟨rootWindow, 0, 1, 1, rootWindow, 0, false, some (0, 0, 100, 100)⟩ }
  barriers := ∅
  order := []
  mouseKeys := false
  mkMaxSpeed := 30
  track := ⟨(5, 5), (5, 5)⟩

def motionTo (x y : Int) : InputMessage := ⟨1, .motionNotify x y 0, false⟩

theorem covering_corner : Covering (0, 0, 100, 100) := by
  constructor <;> decide

theorem cornered_stays (messages : List InputMessage) (hs : s.grabs = cornered.grabs) :
    ∀ before, before <+: messages.zipIdx → (handled unmoved messages s before).confine = some (0, 0, 100, 100) := by
  intro before _
  rw [InputState.confine, handled_unmoved, hs]
  rfl

def corneredAt (p : Int × Int) : InputState := { cornered with track := ⟨p, p⟩ }

theorem first_coalesced (x y x' y' : Int) : coalesced [motionTo x y, motionTo x' y'] (motionTo x y, 0) = true :=
  coalesced_iff.mpr ⟨rfl, 1, motionTo x' y', by decide, rfl, rfl, rfl⟩

theorem handled_first (x y x' y' : Int) :
    handled unmoved [motionTo x y, motionTo x' y'] cornered [(motionTo x y, 0)] = corneredAt (x, y) := by
  rw [handled, foldl_cons, foldl_nil, handleMessage, if_pos (first_coalesced x y x' y')]
  show { cornered with track := skipMotion cornered (x, y) } = _
  rw [skipMotion, afterBarriers, if_pos (show cornered.barriers = ∅ from rfl)]
  rfl

/-- The pointer with a barrier across the bounds. -/
def walled : InputState := { cornered with barriers := Finmap.singleton 1 ⟨50, 0, 50, 100, 0⟩, order := [1] }

/-- The first motion is skipped, the second one comes up to the barrier. -/
theorem motions_confined_at_wall :
    (handled unmoved [motionTo 20 30, motionTo 400 40] walled [(motionTo 20 30, 0), (motionTo 400 40, 1)]).track =
        ⟨(50, 40), (50, 40)⟩ ∧
      ∀ before m, before ++ [m] <+: [motionTo 20 30, motionTo 400 40].zipIdx → Confined (0, 0, 100, 100) m
        (handled unmoved [motionTo 20 30, motionTo 400 40] walled (before ++ [m])) := by
  refine ⟨by decide +kernel, (motions_confined covering_corner (cornered_stays (s := walled) _ rfl)).1 ?_⟩
  refine forall_prefix_cons.mpr ⟨?_, forall_prefix_cons.mpr ⟨?_, forall_prefix_nil⟩⟩
  · rintro x y mask ⟨⟩
    simp only [stored, first_coalesced, if_true]
    exact ⟨⟨by decide, by decide⟩, fun _ => ⟨⟨by decide, by decide⟩, by decide, by decide⟩⟩
  · have hlast : coalesced [motionTo 20 30, motionTo 400 40] (motionTo 400 40, 1) = false := by decide +kernel
    generalize hs : handled unmoved [motionTo 20 30, motionTo 400 40] walled [(motionTo 20 30, 0)] = s
    have hptr : s.track.pointer = (20, 30) := by
      rw [← hs]
      decide +kernel
    have hroot (p : Int × Int) : localToRoot s (motionTo 400 40).window p = p := by
      have hno : s.client.windows.lookup (motionTo 400 40).window = none := by
        rw [← hs]
        decide +kernel
      rw [localToRoot, hno]
    rintro x y mask ⟨⟩
    simp only [stored, hlast, Bool.false_eq_true, if_false, hroot, hptr]
    exact ⟨nearest_inside covering_corner _, fun _ => ⟨⟨by decide, by decide⟩, by decide, by decide⟩⟩

/-- A motion that is skipped takes the pointer out of the bounds. -/
theorem skipped_motion_escapes : ¬∀ (surroundings : InputState → InputMessage → ClientState × GrabState) (bounds : Bounds)
    (messages : List InputMessage) (s : InputState), Covering bounds → Inside bounds s.track.pointer →
      (∀ before, before <+: messages.zipIdx → (handled surroundings messages s before).confine = some bounds) →
      ∀ before m, before ++ [m] <+: messages.zipIdx →
        Confined bounds m (handled surroundings messages s (before ++ [m])) := by
  intro h
  have hconfined := h unmoved (0, 0, 100, 100) [motionTo 500 500, motionTo 10 10] cornered covering_corner
    ⟨by decide, by decide⟩ (cornered_stays _ rfl) [] (motionTo 500 500, 0) (by decide)
  have hins := (hconfined rfl).1
  rw [nil_append, handled_first] at hins
  exact absurd hins.1.2 (by decide)

end Example

end X11Web.Confinement
