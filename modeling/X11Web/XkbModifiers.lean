import X11Web.HashMaps
import X11Web.Runs

namespace X11Web.XkbModifiers

open HashMaps Runs List

def xkbBounceKeysMask : UInt32 := 4
def xkbStickyKeysMask : UInt32 := 8

/-- What the connection keeps of the modifiers and of the controls that bear on them. -/
structure XkbState where
  baseMods : UInt8
  latchedMods : UInt8
  lockedMods : UInt8
  stickyMods : UInt8
  enabledCtrls : UInt32
  bounceKeyReleaseTime : HashMap UInt8 Nat

/-- The keymap of the server: a bit may belong to several keycodes. -/
structure Keymap where
  keycodeToModifier : UInt8 → UInt8
  isLockKey : UInt8 → Bool

def XkbState.effectiveMods (s : XkbState) : UInt8 := s.baseMods ||| s.latchedMods ||| s.lockedMods

def stickyEnabled (enabledCtrls : UInt32) : Bool := enabledCtrls &&& xkbStickyKeysMask != 0

def XkbState.keyPress (km : Keymap) (keycode : UInt8) (s : XkbState) : UInt8 × XkbState :=
  let modBit := km.keycodeToModifier keycode
  let next :=
    if modBit ≠ 0 then
      if km.isLockKey keycode then { s with lockedMods := s.lockedMods ^^^ modBit }
      else if stickyEnabled s.enabledCtrls then
        { s with stickyMods := s.stickyMods ||| modBit, latchedMods := s.latchedMods ||| modBit }
      else { s with baseMods := s.baseMods ||| modBit }
    else if stickyEnabled s.enabledCtrls && s.stickyMods != 0 then
      { s with stickyMods := 0, latchedMods := 0 }
    else s
  (modBit, next)

def XkbState.keyRelease (km : Keymap) (keycode : UInt8) (now : Nat) (s : XkbState) : XkbState :=
  let modBit := km.keycodeToModifier keycode
  let next :=
    if modBit ≠ 0 ∧ km.isLockKey keycode = false ∧ stickyEnabled s.enabledCtrls = false then
      { s with baseMods := s.baseMods &&& ~~~modBit, latchedMods := s.latchedMods &&& ~~~modBit }
    else s
  if s.enabledCtrls &&& xkbBounceKeysMask ≠ 0 then
    { next with bounceKeyReleaseTime := next.bounceKeyReleaseTime.insert keycode now }
  else next

inductive Act
  | press (keycode : UInt8)
  | release (keycode : UInt8) (now : Nat)
  | setControls (enabledCtrls : UInt32)

/-- The connection, and the keys that are down, each with whether StickyKeys was
off when it was pressed. -/
structure Session where
  xkb : XkbState
  down : List (UInt8 × Bool)

def Session.next (km : Keymap) (s : Session) : Act → Session
  | .press k => ⟨(s.xkb.keyPress km k).2, (k, !stickyEnabled s.xkb.enabledCtrls) :: s.down⟩
  | .release k now => ⟨s.xkb.keyRelease km k now, s.down.filter (fun p => p.1 != k)⟩
  | .setControls ctrls => { s with xkb := { s.xkb with enabledCtrls := ctrls } }

/-- No key is pressed that is down, and none released that is not. -/
def Session.Possible (s : Session) : Act → Prop
  | .press k => ∀ p ∈ s.down, p.1 ≠ k
  | .release k _ => ∃ p ∈ s.down, p.1 = k
  | .setControls _ => True

instance (s : Session) : (a : Act) → Decidable (s.Possible a)
  | .press k => inferInstanceAs (Decidable (∀ p ∈ s.down, p.1 ≠ k))
  | .release k _ => inferInstanceAs (Decidable (∃ p ∈ s.down, p.1 = k))
  | .setControls _ => inferInstanceAs (Decidable True)

def initial (enabledCtrls : UInt32) : Session := ⟨⟨0, 0, 0, 0, enabledCtrls, ∅⟩, []⟩

/-- The union of the bits of the modifier keys pressed while StickyKeys was off. -/
def heldMods (km : Keymap) (down : List (UInt8 × Bool)) : UInt8 :=
  (down.filter (fun p => p.2 && !km.isLockKey p.1)).foldr (fun p m => km.keycodeToModifier p.1 ||| m) 0

structure Session.Sound (km : Keymap) (s : Session) : Prop where
  base : s.xkb.baseMods = heldMods km s.down
  effective : stickyEnabled s.xkb.enabledCtrls = false → s.down = [] → s.xkb.effectiveMods = s.xkb.lockedMods

def XkbState.latchedAfter (km : Keymap) (k : UInt8) (s : XkbState) : UInt8 :=
  if km.isLockKey k then s.latchedMods else s.latchedMods &&& ~~~km.keycodeToModifier k

/-- With StickyKeys off no other key that counts shares a bit of the released
one, with StickyKeys on they share them all if it counted itself; and nothing
stays latched beyond what is locked where StickyKeys is off with the last key up. -/
def Session.Harmless (km : Keymap) (s : Session) : Act → Prop
  | .press _ => True
  | .release k _ =>
    let others := s.down.filter (fun p => p.1 != k)
    (km.isLockKey k = false →
      if stickyEnabled s.xkb.enabledCtrls then
        (k, true) ∈ s.down → km.keycodeToModifier k ||| heldMods km others = heldMods km others
      else km.keycodeToModifier k &&& heldMods km others = 0) ∧
    (stickyEnabled s.xkb.enabledCtrls = false → others = [] →
      s.xkb.latchedAfter km k ||| s.xkb.lockedMods = s.xkb.lockedMods)
  | .setControls ctrls =>
    stickyEnabled ctrls = false → s.down = [] → s.xkb.latchedMods ||| s.xkb.lockedMods = s.xkb.lockedMods

variable {km : Keymap} {s : Session} {k : UInt8}

theorem zero_or (m : UInt8) : 0 ||| m = m := by
  rw [← UInt8.toBitVec_inj]
  simp

theorem eq_iff_bits {m n : UInt8} : m = n ↔ ∀ i, m.toBitVec.getLsbD i = n.toBitVec.getLsbD i := by
  rw [← UInt8.toBitVec_inj]
  exact ⟨fun h i => by rw [h], fun h => BitVec.eq_of_getLsbD_eq fun i _ => h i⟩

theorem getLsbD_of_le (m : UInt8) {i : Nat} (hi : ¬i < 8) : m.toBitVec.getLsbD i = false :=
  BitVec.getLsbD_of_ge _ _ (Nat.not_lt.mp hi)

theorem and_not_eq_iff {m r : UInt8} : r &&& ~~~m = r ↔ m &&& r = 0 := by
  rw [eq_iff_bits, eq_iff_bits]
  refine forall_congr' fun i => ?_
  by_cases hi : i < 8
  · simp only [UInt8.toBitVec_and, UInt8.toBitVec_not, BitVec.getLsbD_and, BitVec.getLsbD_not, hi, decide_true,
      Bool.true_and, UInt8.toBitVec_zero, BitVec.getLsbD_zero]
    grind
  · simp only [getLsbD_of_le _ hi]

theorem or_and_not (m r : UInt8) : (m ||| r) &&& ~~~m = r &&& ~~~m := by
  refine eq_iff_bits.mpr fun i => ?_
  by_cases hi : i < 8
  · simp only [UInt8.toBitVec_and, UInt8.toBitVec_or, UInt8.toBitVec_not, BitVec.getLsbD_and, BitVec.getLsbD_or,
      BitVec.getLsbD_not, hi, decide_true, Bool.true_and]
    grind
  · rw [getLsbD_of_le _ hi, getLsbD_of_le _ hi]

theorem heldMods_cons (p : UInt8 × Bool) (down : List (UInt8 × Bool)) :
    heldMods km (p :: down) =
      (if p.2 && !km.isLockKey p.1 then km.keycodeToModifier p.1 else 0) ||| heldMods km down := by
  rw [heldMods, filter_cons]
  split
  · rfl
  · rw [zero_or]
    rfl

theorem getLsbD_heldMods (down : List (UInt8 × Bool)) (i : Nat) :
    (heldMods km down).toBitVec.getLsbD i = true ↔
      ∃ p ∈ down, p.2 = true ∧ km.isLockKey p.1 = false ∧ (km.keycodeToModifier p.1).toBitVec.getLsbD i = true := by
  induction down with
  | nil => simp [heldMods]
  | cons p down ih =>
    rw [heldMods_cons, UInt8.toBitVec_or, BitVec.getLsbD_or, Bool.or_eq_true, ih, exists_mem_cons_iff]
    refine or_congr_left ?_
    split
    · simp_all
    · simp_all

theorem heldMods_eq_others (k : UInt8) (down : List (UInt8 × Bool)) :
    heldMods km down =
      (if (k, true) ∈ down ∧ km.isLockKey k = false then km.keycodeToModifier k else 0) |||
        heldMods km (down.filter (fun p => p.1 != k)) := by
  refine eq_iff_bits.mpr fun i => Bool.eq_iff_iff.mpr ?_
  rw [UInt8.toBitVec_or, BitVec.getLsbD_or, Bool.or_eq_true, getLsbD_heldMods, getLsbD_heldMods]
  constructor
  · rintro ⟨⟨c, plain⟩, hp, hplain, hlock, hbit⟩
    by_cases hc : c = k
    · left
      subst hc
      obtain rfl : plain = true := hplain
      rw [if_pos ⟨hp, hlock⟩]
      exact hbit
    · exact .inr ⟨_, mem_filter.mpr ⟨hp, bne_iff_ne.mpr hc⟩, hplain, hlock, hbit⟩
  · rintro (hbit | ⟨p, hp, hrest⟩)
    · split at hbit
      · rename_i hk
        exact ⟨_, hk.1, rfl, hk.2, hbit⟩
      · simp at hbit
    · exact ⟨p, (mem_filter.mp hp).1, hrest⟩

theorem and_not_zero (m : UInt8) : m &&& ~~~0 = m := by
  rw [← UInt8.toBitVec_inj]
  simp

theorem baseMods_keyRelease (km : Keymap) (k : UInt8) (now : Nat) (x : XkbState) :
    (x.keyRelease km k now).baseMods =
      if km.isLockKey k = false ∧ stickyEnabled x.enabledCtrls = false then x.baseMods &&& ~~~km.keycodeToModifier k
      else x.baseMods := by
  by_cases hm : km.keycodeToModifier k = 0
  · rw [hm, and_not_zero, ite_self]
    unfold XkbState.keyRelease
    simp only [hm, ne_eq, not_true_eq_false, false_and, if_false]
    split <;> rfl
  · unfold XkbState.keyRelease
    simp only [ne_eq, hm, not_false_eq_true, true_and]
    split <;> split <;> rfl

theorem latchedMods_keyRelease (now : Nat) {x : XkbState} (hsticky : stickyEnabled x.enabledCtrls = false) :
    (x.keyRelease km k now).latchedMods = x.latchedAfter km k := by
  unfold XkbState.latchedAfter
  by_cases hm : km.keycodeToModifier k = 0
  · rw [hm, and_not_zero, ite_self]
    unfold XkbState.keyRelease
    simp only [hm, ne_eq, not_true_eq_false, false_and, if_false]
    split <;> rfl
  · unfold XkbState.keyRelease
    simp only [ne_eq, hm, not_false_eq_true, true_and, hsticky, and_true]
    cases km.isLockKey k <;> simp only [Bool.true_eq_false, if_true, if_false, Bool.false_eq_true] <;> split <;> rfl

theorem kept_keyRelease (km : Keymap) (k : UInt8) (now : Nat) (x : XkbState) :
    (x.keyRelease km k now).lockedMods = x.lockedMods ∧ (x.keyRelease km k now).enabledCtrls = x.enabledCtrls := by
  simp only [XkbState.keyRelease]
  split <;> split <;> exact ⟨rfl, rfl⟩

theorem Session.Sound.press (h : s.Sound km) (k : UInt8) : (s.next km (.press k)).Sound km := by
  refine ⟨?_, fun _ hdown => absurd hdown (cons_ne_nil _ _)⟩
  change (s.xkb.keyPress km k).2.baseMods = heldMods km ((k, !stickyEnabled s.xkb.enabledCtrls) :: s.down)
  rw [heldMods_cons, ← h.base]
  simp only [XkbState.keyPress]
  by_cases hm : km.keycodeToModifier k = 0
  · rw [hm, ite_self, zero_or, if_neg (not_not_intro rfl)]
    split <;> rfl
  · rw [if_pos hm]
    cases km.isLockKey k with
    | true => rw [Bool.not_true, Bool.and_false, if_neg Bool.false_ne_true, zero_or, if_pos rfl]
    | false =>
      cases stickyEnabled s.xkb.enabledCtrls with
      | true => exact (zero_or _).symm
      | false => exact UInt8.or_comm _ _

theorem effectiveMods_eq_iff {x : XkbState} (hbase : x.baseMods = 0) :
    x.effectiveMods = x.lockedMods ↔ x.latchedMods ||| x.lockedMods = x.lockedMods := by
  rw [XkbState.effectiveMods, hbase, zero_or]

theorem Session.Sound.release_iff (h : s.Sound km) (k : UInt8) (now : Nat) :
    (s.next km (.release k now)).Sound km ↔ s.Harmless km (.release k now) := by
  obtain ⟨hlocked, hctrls⟩ := kept_keyRelease km k now s.xkb
  have hbase : (s.xkb.keyRelease km k now).baseMods = heldMods km (s.down.filter (fun p => p.1 != k)) ↔
      (km.isLockKey k = false →
        if stickyEnabled s.xkb.enabledCtrls then (k, true) ∈ s.down →
          km.keycodeToModifier k ||| heldMods km (s.down.filter (fun p => p.1 != k)) =
            heldMods km (s.down.filter (fun p => p.1 != k))
        else km.keycodeToModifier k &&& heldMods km (s.down.filter (fun p => p.1 != k)) = 0) := by
    rw [baseMods_keyRelease, h.base, heldMods_eq_others k s.down]
    generalize heldMods km (s.down.filter (fun p => p.1 != k)) = r
    cases km.isLockKey k with
    | true => simp
    | false =>
      cases stickyEnabled s.xkb.enabledCtrls with
      | true => by_cases hk : (k, true) ∈ s.down <;> simp [hk]
      | false => by_cases hk : (k, true) ∈ s.down <;> simp [hk, or_and_not, and_not_eq_iff]
  constructor
  · intro hnext
    refine ⟨hbase.mp hnext.base, fun hsticky hoths => ?_⟩
    have hzero : (s.xkb.keyRelease km k now).baseMods = 0 := by
      have hb := hnext.base
      simp only [Session.next, hoths] at hb
      exact hb
    have heff := hnext.effective (by rw [Session.next, hctrls]; exact hsticky) hoths
    rw [Session.next, effectiveMods_eq_iff hzero, latchedMods_keyRelease now hsticky, hlocked] at heff
    exact heff
  · rintro ⟨hshd, hlatched⟩
    have hb := hbase.mpr hshd
    refine ⟨hb, fun hsticky hoths => ?_⟩
    rw [Session.next, hctrls] at hsticky
    change s.down.filter (fun p => p.1 != k) = [] at hoths
    rw [hoths] at hb
    rw [Session.next, effectiveMods_eq_iff hb, latchedMods_keyRelease now hsticky, hlocked]
    exact hlatched hsticky hoths

theorem Session.Sound.setControls_iff (h : s.Sound km) (ctrls : UInt32) :
    (s.next km (.setControls ctrls)).Sound km ↔ s.Harmless km (.setControls ctrls) := by
  have hzero : s.down = [] → s.xkb.baseMods = 0 := by
    intro hdown
    rw [h.base, hdown]
    rfl
  constructor
  · intro hnext hsticky hdown
    exact (effectiveMods_eq_iff (hzero hdown)).mp (hnext.effective hsticky hdown)
  · intro hlatched
    exact ⟨h.base, fun hsticky hdown => (effectiveMods_eq_iff (hzero hdown)).mpr (hlatched hsticky hdown)⟩

theorem Session.Sound.next_iff (h : s.Sound km) (a : Act) : (s.next km a).Sound km ↔ s.Harmless km a := by
  cases a with
  | press k => exact iff_of_true (h.press k) trivial
  | release k now => exact h.release_iff k now
  | setControls ctrls => exact h.setControls_iff ctrls

theorem initial_sound (km : Keymap) (ctrls : UInt32) : (initial ctrls).Sound km :=
  ⟨rfl, fun _ _ => (effectiveMods_eq_iff rfl).mpr (zero_or 0)⟩

/-- Along a run no modifier is lost or stuck exactly if every step is harmless. -/
theorem sound_iff_harmless (km : Keymap) (ctrls : UInt32) (as : List Act) :
    (∀ bs, bs <+: as → (bs.foldl (Session.next km) (initial ctrls)).Sound km) ↔
      ∀ bs a, bs ++ [a] <+: as → (bs.foldl (Session.next km) (initial ctrls)).Harmless km a :=
  foldl_stays_iff (I := fun _ => True) (fun _ _ _ _ => trivial) (fun _ a _ h => h.next_iff a) trivial
    (initial_sound km ctrls) as

def shiftKeymap : Keymap where
  keycodeToModifier k := if k = 50 ∨ k = 62 then 1 else if k = 66 then 2 else 0
  isLockKey k := k == 66

/-- With both Shift keys down, letting go of one loses the modifier of the other. -/
theorem shift_lost :
    ¬ ∀ (km : Keymap) (ctrls : UInt32) (as : List Act),
      (∀ bs a, bs ++ [a] <+: as → (bs.foldl (Session.next km) (initial ctrls)).Possible a) →
      ∀ bs, bs <+: as → (bs.foldl (Session.next km) (initial ctrls)).Sound km := by
  intro h
  have hpossible : ∀ bs a, bs ++ [a] <+: [.press 50, .press 62, .release 50 0] →
      (bs.foldl (Session.next shiftKeymap) (initial 1)).Possible a := by
    rw [forall_prefix_cons, forall_prefix_cons, forall_prefix_cons]
    refine ⟨?_, ?_, ?_, forall_prefix_nil⟩
    · decide +kernel
    · decide +kernel
    · decide +kernel
  have hbase := (h shiftKeymap 1 _ hpossible _ prefix_rfl).base
  revert hbase
  decide

end X11Web.XkbModifiers
