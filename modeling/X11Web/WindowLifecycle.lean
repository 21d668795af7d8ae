import X11Web.Runs
import X11Web.WaylandRuns

namespace X11Web.WindowLifecycle

open List Function

open Protocol (WindowWmState)
open WaylandPixels WaylandWindows WaylandSteps

/-- What the frontend knows of a window: nothing yet, whether it is mapped and which size was last
announced, or that it is gone. -/
inductive Life
  | unseen
  | announced (shown : Bool) (width height : Int)
  | gone
deriving DecidableEq

/-- The updates that may come next. A window is created once and first of all, it is mapped and unmapped
in turn, its images lie inside it, and nothing follows its end. -/
def Life.next : Life → DisplayUpdate → Option Life
  | .unseen, .windowCreated _ _ _ width height _ _ => some (.announced false width height)
  | .unseen, _ | .gone, _ | .announced .., .windowCreated .. => none
  | .announced shown width height, .windowMapped .. =>
    if shown then none else some (.announced true width height)
  | .announced shown width height, .windowUnmapped _ =>
    if shown then some (.announced false width height) else none
  | .announced .., .windowDestroyed _ => some .gone
  | .announced shown _ _, .windowConfigured _ _ _ width height => some (.announced shown width height)
  | .announced shown width height, .putImage _ x y w h _ =>
    if 0 ≤ x ∧ 0 ≤ y ∧ 0 < w ∧ 0 < h ∧ x + w ≤ width ∧ y + h ≤ height then some (.announced shown width height)
    else none
  | .announced shown width height, .titleChanged .. | .announced shown width height, .windowStateChanged ..
  | .announced shown width height, .windowRaised _ | .announced shown width height, .windowFocused _ =>
    some (.announced shown width height)

def lifeOf (updates : List (String × DisplayUpdate)) : Option Life :=
  updates.foldlM (fun life x => life.next x.2) .unseen

def WellFormed (s : State) : Prop := ∀ u, (lifeOf (historyOf u s.sent)).isSome = true

/-- Whether the last the frontend heard of a window is that it is mapped. -/
def Life.shown : Life → Bool
  | .announced shown _ _ => shown
  | _ => false

def shown (s : State) (u : Uuid) : Bool := ((lifeOf (historyOf u s.sent)).map Life.shown).getD false

/-- A minimised window is hidden, but stays mapped. The windows that are taken down, hidden or restored
are the ones that this makes sense for; clients ask for states only of windows that exist for the frontend;
and no window is larger than the coordinates of an image reach. -/
def Meets (s : State) : Action → Prop
  | .tick =>
    (∀ id e, s.entries id = some e → e.pendingUnmap = true → e.mapped = true → shown s e.uuid = true) ∧
      Sized (fun geo => geo.w ≤ 32768 ∧ geo.h ≤ 32768) s
  | .destroyed id | .destroyedSurface id _ =>
    ∀ e, s.entries id = some e → e.mapped = true → shown s e.uuid = true
  | .request id request => ∀ e, s.entries id = some e → e.wmState ≠ request.state → e.created = true
  | .manage u .minimized => ∀ id ∈ s.toplevels, ∀ e, s.entries id = some e → e.uuid = u → e.mapped = true →
      shown s u = true
  | .manage u .normal => ∀ id ∈ s.toplevels, ∀ e, s.entries id = some e → e.uuid = u → e.mapped = true →
      e.wmState = .minimized → shown s u = false
  | _ => True

/-- How a window's flags agree with what the frontend knows of it. -/
def Agrees (e : WindowEntry) : Life → Prop
  | .unseen => e.created = false ∧ e.mapped = false
  | .announced shown width height => e.created = true ∧
      (e.mapped = false → shown = false ∧ e.width = 0) ∧ (e.mapped = true → width = e.width ∧ height = e.height)
  | .gone => False

structure InOrder (e : WindowEntry) (updates : List (String × DisplayUpdate)) : Prop where
  life : ∃ life, lifeOf updates = some life ∧ Agrees e life
  wide : e.width ≤ 32768
  high : e.height ≤ 32768

def Over (updates : List (String × DisplayUpdate)) : Prop :=
  lifeOf updates = some .unseen ∨ lifeOf updates = some .gone

theorem lifeOf_append {H : List (String × DisplayUpdate)} {life : Life} (h : lifeOf H = some life)
    (e : WindowEntry) (us : List DisplayUpdate) :
    lifeOf (H ++ tagged e us) = us.foldlM Life.next life := by
  rw [lifeOf, foldlM_append]
  change (lifeOf H >>= _) = _
  rw [h]
  change List.foldlM _ life (us.map _) = _
  rw [foldlM_map]

theorem foldlM_quiet (b : Bool) (w h : Int) {us : List DisplayUpdate} (hqt : ∀ x ∈ us, Quiet x) :
    us.foldlM Life.next (.announced b w h) = some (.announced b w h) := by
  induction us with
  | nil => rfl
  | cons x us ih =>
    have hx : Life.next (.announced b w h) x = some (.announced b w h) := by
      have hquietx := hqt x mem_cons_self
      cases x <;> first | rfl | exact absurd hquietx id
    rw [foldlM_cons, hx]
    exact ih fun y hy => hqt y (mem_cons_of_mem x hy)

variable {e : WindowEntry} {H : List (String × DisplayUpdate)} {us : List DisplayUpdate}

theorem InOrder.created (h : InOrder e H) (hc : e.created = true) :
    ∃ b w' h', lifeOf H = some (.announced b w' h') ∧ Agrees e (.announced b w' h') := by
  obtain ⟨life, hlife, hagrs⟩ := h.life
  match life with
  | .unseen => exact absurd (hc.symm.trans hagrs.1) (by decide)
  | .announced b w' h' => exact ⟨b, w', h', hlife, hagrs⟩
  | .gone => exact hagrs.elim

theorem InOrder.created_of_mapped (h : InOrder e H) (hm : e.mapped = true) : e.created = true := by
  obtain ⟨life, -, hagrs⟩ := h.life
  match life with
  | .unseen => exact absurd (hm.symm.trans hagrs.2) (by decide)
  | .announced b w' h' => exact hagrs.1
  | .gone => exact hagrs.elim

theorem InOrder.quiet (h : InOrder e H) {e' : WindowEntry} (hcrt : e'.created = e.created)
    (hmpd : e'.mapped = e.mapped) (hw : e'.width = e.width) (hh : e'.height = e.height)
    (hqt : ∀ x ∈ us, Quiet x) (hus : us ≠ [] → e.created = true) : InOrder e' (H ++ tagged e us) := by
  refine ⟨?_, hw ▸ h.wide, hh ▸ h.high⟩
  have hagrs : ∀ life, Agrees e life → Agrees e' life := by
    intro life
    cases life <;> simp [Agrees, hcrt, hmpd, hw, hh]
  cases us with
  | nil =>
    obtain ⟨life, hlife, ha⟩ := h.life
    exact ⟨life, by simpa [tagged] using hlife, hagrs life ha⟩
  | cons x us =>
    obtain ⟨b, w', h', hlife, ha⟩ := h.created (hus (by simp))
    exact ⟨_, (lifeOf_append hlife e _).trans (foldlM_quiet b w' h' hqt), hagrs _ ha⟩

structure Ticking (e : WindowEntry) (updates : List (String × DisplayUpdate)) : Prop extends InOrder e updates where
  unmapping : e.pendingUnmap = true → e.mapped = true → ((lifeOf updates).map Life.shown).getD false = true

theorem ticking_announces {geo : Rect} (hgeo : geo.w ≤ 32768 ∧ geo.h ≤ 32768) {e' : Option WindowEntry}
    (h : Announces (paintedSize geo).1 (paintedSize geo).2 e e' us) (hI : Ticking e H) :
    HoldsOf Ticking Over (H ++ tagged e us) e' := by
  have hw : 1 ≤ (paintedSize geo).1 ∧ (paintedSize geo).1 ≤ 32768 := by
    simp only [paintedSize, clampU16]
    omega
  have hh : 1 ≤ (paintedSize geo).2 ∧ (paintedSize geo).2 ≤ 32768 := by
    simp only [paintedSize, clampU16]
    omega
  generalize (paintedSize geo).1 = w at h hw
  generalize (paintedSize geo).2 = h₁ at h hh
  cases h with
  | settled hm =>
    refine ⟨hI.toInOrder.quiet rfl rfl rfl rfl (by simp) (by simp), by simp⟩
  | unmapped fb hp hm =>
    obtain ⟨b, w', h', hlife, -, -, -⟩ := hI.created (hI.created_of_mapped hm)
    obtain rfl : b = true := by simpa [hlife, Life.shown] using hI.unmapping hp hm
    have hnext := lifeOf_append hlife e [.windowUnmapped e.uuid]
    exact ⟨⟨⟨_, hnext, hI.created_of_mapped hm, by simp, by simp⟩, by simp, by simp⟩, by simp⟩
  | created fb damage title quiet hc hqt =>
    obtain ⟨life, hlife, hagrs⟩ := hI.life
    obtain rfl : life = .unseen := by
      match life with
      | .unseen => rfl
      | .announced .. => exact absurd (hc.symm.trans hagrs.1) (by decide)
      | .gone => exact hagrs.elim
    have hnext : lifeOf (H ++ tagged e (.windowCreated e.uuid e.x e.y w h₁ e.kind.flags.1 e.kind.flags.2 ::
        .windowMapped e.uuid e.kind.flags.1 e.kind.flags.2 :: quiet)) = some (.announced true w h₁) :=
      (lifeOf_append hlife e _).trans (foldlM_quiet true w h₁ hqt)
    exact ⟨⟨⟨_, hnext, rfl, by simp, by simp⟩, hw.2, hh.2⟩, fun _ _ => by rw [hnext]; rfl⟩
  | remapped fb damage hc hm =>
    obtain ⟨b, w', h', hlife, -, hunmapped, -⟩ := hI.created hc
    obtain ⟨rfl, hzero⟩ := hunmapped hm
    have hsize : e.width ≠ w ∨ e.height ≠ h₁ := .inl (by omega)
    rw [if_pos hsize]
    have hnext := lifeOf_append hlife e [.windowMapped e.uuid e.kind.flags.1 e.kind.flags.2,
      .windowConfigured e.uuid e.x e.y w h₁]
    exact ⟨⟨⟨.announced true w h₁, hnext, hc, by simp, by simp⟩, hw.2, hh.2⟩, fun _ _ => by rw [hnext]; rfl⟩
  | stayed fb damage hc hm =>
    obtain ⟨b, w', h', hlife, -, -, hsize⟩ := hI.created hc
    obtain ⟨rfl, rfl⟩ := hsize hm
    have hnext : lifeOf (H ++ tagged e (if e.width ≠ w ∨ e.height ≠ h₁ then
        [.windowConfigured e.uuid e.x e.y w h₁] else [])) = some (.announced b w h₁) := by
      rw [lifeOf_append hlife]
      split
      · rfl
      · next heq =>
        obtain ⟨rfl, rfl⟩ : e.width = w ∧ e.height = h₁ := by simpa using heq
        rfl
    refine ⟨⟨⟨_, hnext, hc, fun hm' => ?_, by simp⟩, hw.2, hh.2⟩, fun hp hm => ?_⟩
    · exact absurd (hm.symm.trans hm') (by decide)
    · have hshown := hI.unmapping hp hm
      rw [hlife] at hshown
      rw [hnext]
      exact hshown

theorem ticking_paints {consuming : Bool} {e' : Option WindowEntry} (hm : e.mapped = true)
    (h : Paints consuming e e' us) (hI : Ticking e H) : HoldsOf Ticking Over (H ++ tagged e us) e' := by
  cases h with
  | kept fb =>
    refine ⟨hI.toInOrder.quiet rfl rfl rfl rfl (by simp) (by simp), fun hp hm => ?_⟩
    simpa [tagged] using hI.unmapping hp hm
  | emitted fb rect data hrect hcons =>
    obtain ⟨b, w', h', hlife, hc, -, hsize⟩ := hI.created (hI.created_of_mapped hm)
    obtain ⟨rfl, rfl⟩ := hsize hm
    have hins : 0 ≤ asI16 rect.x ∧ 0 ≤ asI16 rect.y ∧ 0 < asU16 rect.w ∧ 0 < asU16 rect.h ∧
        asI16 rect.x + asU16 rect.w ≤ e.width ∧ asI16 rect.y + asU16 rect.h ≤ e.height := by
      have hwide := hI.wide
      have hhigh := hI.high
      obtain ⟨hleft, htop, hw, hh, hright, hbot⟩ := hrect
      rw [asI16_eq_self hleft (by omega), asI16_eq_self htop (by omega), asU16_eq_self (by omega) (by omega),
        asU16_eq_self (by omega) (by omega)]
      exact ⟨hleft, htop, hw, hh, hright, hbot⟩
    have hnext : lifeOf (H ++ tagged e [.putImage e.uuid (asI16 rect.x) (asI16 rect.y) (asU16 rect.w) (asU16 rect.h)
        data]) = some (.announced b e.width e.height) := by
      rw [lifeOf_append hlife, foldlM_cons, Life.next, if_pos hins]
      rfl
    refine ⟨⟨⟨_, hnext, hc, fun hm' => absurd (hm.symm.trans hm') (by decide), by simp⟩, hI.wide, hI.high⟩,
      fun hp hm => ?_⟩
    have hshown := hI.unmapping hp hm
    rw [hlife] at hshown
    rw [hnext]
    exact hshown

theorem shown_eq {s : State} {b : Bool} {w h : Int} (hlife : lifeOf (historyOf e.uuid (s.sent.drop 0)) = some (.announced b w h)) :
    shown s e.uuid = b := by
  rw [drop_zero] at hlife
  rw [shown, hlife]
  rfl

theorem holds_tick {s : State} (h : Holds 0 InOrder Over s) (hmts : Meets s .tick) :
    Holds 0 InOrder Over (tick s) := by
  have hticking : Holds 0 Ticking Over s :=
    h.mono fun id e he hI => ⟨hI, fun hp hm => by rw [drop_zero]; exact hmts.1 id e he hp hm⟩
  have htick := hticking.tick (Q := fun geo => geo.w ≤ 32768 ∧ geo.h ≤ 32768) hmts.2 (by decide)
    (fun e H hI => ⟨⟨hI.life, hI.wide, hI.high⟩, hI.unmapping⟩)
    (fun geo e e' us H hgeo ha hI => ticking_announces hgeo ha hI)
    (fun consuming e e' us H hm hp hI => ticking_paints hm hp hI)
  exact htick.mono fun _ _ _ hI => hI.toInOrder

variable {s : State} {id : ObjectId}

theorem holds_destroy (h : Holds 0 InOrder Over s)
    (hshown : ∀ e, s.entries id = some e → e.mapped = true → shown s e.uuid = true) :
    Holds 0 InOrder Over (destroy s id) := by
  obtain ⟨s₁, next, hgone, hfoc⟩ := destroy_affects s id
  have h₁ : Holds 0 InOrder Over s₁ := by
    refine h.affects hgone fun e e' us H hH he hp hI => ?_
    obtain ⟨rfl, rfl⟩ := hp
    obtain ⟨life, hlife, hagrs⟩ := hI.life
    match life with
    | .unseen =>
      rw [hagrs.1, hagrs.2]
      exact .inl (by simpa [tagged] using hlife)
    | .announced b w' h' =>
      refine .inr ?_
      rw [lifeOf_append hlife, hagrs.1]
      cases hm : e.mapped with
      | false => rfl
      | true =>
        rw [hH] at hlife
        obtain rfl : true = b := (hshown e he hm).symm.trans (shown_eq hlife)
        rfl
    | .gone => exact hagrs.elim
  refine h₁.affects hfoc fun e e' us H _ _ hp hI => ?_
  obtain ⟨hm, rfl, hqt⟩ := hp
  exact hI.quiet rfl rfl rfl rfl hqt fun _ => hI.created_of_mapped hm

theorem holds_emitState (h : Holds 0 InOrder Over s) (state : WindowWmState)
    (hcrt : ∀ e, s.entries id = some e → e.wmState ≠ state → e.created = true) :
    Holds 0 InOrder Over (emitState s id state) := by
  refine h.affects (emitState_affects state) fun e e' us H _ he hp hI => ?_
  obtain ⟨hst, rfl, rfl⟩ := hp
  exact hI.quiet rfl rfl rfl rfl (by simp [Quiet]) fun _ => hcrt e he hst

theorem holds_emitMinimized (h : Holds 0 InOrder Over s)
    (hshown : ∀ e, s.entries id = some e → e.mapped = true → shown s e.uuid = true) :
    Holds 0 InOrder Over (emitMinimized s id) := by
  refine h.affects emitMinimized_affects fun e e' us H hH he hp hI => ?_
  obtain ⟨hm, rfl, rfl⟩ := hp
  obtain ⟨b, w', h', hlife, hc, -, hsize⟩ := hI.created (hI.created_of_mapped hm)
  have hnext := lifeOf_append hlife e [.windowUnmapped e.uuid]
  rw [hH] at hlife
  obtain rfl : true = b := (hshown e he hm).symm.trans (shown_eq hlife)
  exact ⟨⟨.announced false w' h', hnext, hc, fun hm' => absurd (hm.symm.trans hm') (by decide), hsize⟩, hI.wide, hI.high⟩

theorem holds_emitRestored (h : Holds 0 InOrder Over s)
    (hshown : ∀ e, s.entries id = some e → e.mapped = true → shown s e.uuid = false) :
    Holds 0 InOrder Over (emitRestored s id) := by
  refine h.affects emitRestored_affects fun e e' us H hH he hp hI => ?_
  obtain ⟨hm, rfl, rfl⟩ := hp
  obtain ⟨b, w', h', hlife, hc, -, hsize⟩ := hI.created (hI.created_of_mapped hm)
  have hnext := lifeOf_append hlife e [.windowMapped e.uuid e.kind.flags.1 e.kind.flags.2]
  rw [hH] at hlife
  obtain rfl : false = b := (hshown e he hm).symm.trans (shown_eq hlife)
  exact ⟨⟨.announced true w' h', hnext, hc, fun hm' => absurd (hm.symm.trans hm') (by decide), hsize⟩, hI.wide, hI.high⟩

theorem emitMinimized_entries : (emitMinimized s id).entries = s.entries := by
  unfold emitMinimized
  split
  · rfl
  · split <;> rfl

theorem emitRestored_created {e' : WindowEntry} (h : (emitRestored s id).entries id = some e') :
    ∃ e, s.entries id = some e ∧ e'.created = e.created := by
  have haffects : Affects id _ s (emitRestored s id) := emitRestored_affects
  obtain hu | ⟨e, x, us, ht, -, rfl, -⟩ := haffects
  · exact ⟨e', hu.entries ▸ h, rfl⟩
  · rw [ht.entries_self] at h
    obtain rfl : _ = e' := Option.some.inj h
    exact ⟨e, ht.entry, rfl⟩

theorem holds_manage (h : Holds 0 InOrder Over s) {u : Uuid} (action : WindowWmState)
    (hmts : Meets s (.manage u action)) (he : s.entries id = some e) (hu : e.uuid = u)
    (hlive : s.router.live u = true) : Holds 0 InOrder Over (manage s id action) := by
  have hcrt : ∀ e', s.entries id = some e' → e'.created = true := by
    intro e' he'
    obtain rfl : e = e' := Option.some.inj (he.symm.trans he')
    exact h.created id e he (hu ▸ hlive)
  unfold manage
  by_cases hid : id ∈ s.toplevels
  · rw [if_pos hid]
    cases action with
    | close => exact h
    | maximized => exact holds_emitState h _ fun e he _ => hcrt e he
    | fullscreen => exact holds_emitState h _ fun e he _ => hcrt e he
    | minimized =>
      have hhidden : Holds 0 InOrder Over (emitMinimized s id) := by
        refine holds_emitMinimized h fun e' he' hm => ?_
        obtain rfl : e = e' := Option.some.inj (he.symm.trans he')
        rw [hu]
        exact hmts id hid e he hu hm
      refine holds_emitState hhidden _ fun e' he' _ => hcrt e' ?_
      rwa [emitMinimized_entries] at he'
    | normal =>
      dsimp only
      split
      · next hmin =>
        have hrestored : Holds 0 InOrder Over (emitRestored s id) := by
          refine holds_emitRestored h fun e' he' hm => ?_
          obtain rfl : e = e' := Option.some.inj (he.symm.trans he')
          rw [hu]
          exact hmts id hid e he hu hm (by simpa [he] using hmin)
        refine holds_emitState hrestored _ fun e' he' _ => ?_
        obtain ⟨e₀, he₀, heq⟩ := emitRestored_created he'
        exact heq.trans (hcrt e₀ he₀)
      · exact holds_emitState h _ fun e he _ => hcrt e he
  · rw [if_neg hid]
    exact h

theorem holds_step (h : Holds 0 InOrder Over s) (a : Action) (hmts : Meets s a) :
    Holds 0 InOrder Over (step s a) := by
  have hnew : ∀ u clientId kind x y, InOrder (.new u clientId kind x y) [] :=
    fun u clientId kind x y => ⟨⟨.unseen, rfl, rfl, rfl⟩, by simp [WindowEntry.new], by simp [WindowEntry.new]⟩
  cases a with
  | newToplevel i clientId =>
    rw [step]
    split
    · exact h
    · next hi =>
      have hlstd : Holds 0 InOrder Over { s with toplevels := s.toplevels ++ [i] } := h.congr rfl rfl rfl rfl
      exact hlstd.register (by simpa using hi) _ _ _ _ (hnew _ _ _ _ _)
  | newPopup i clientId x y =>
    rw [step]
    split
    · exact h
    · next hi =>
      have hlstd : Holds 0 InOrder Over { s with popups := s.popups ++ [i] } := h.congr rfl rfl rfl rfl
      exact hlstd.register (by simpa using hi) _ _ _ _ (hnew _ _ _ _ _)
  | repositionRequest i x y =>
    refine h.affects (repositionRequest_affects x y) fun e e' us H _ _ hp hI => ?_
    obtain ⟨rfl, rfl⟩ := hp
    exact hI.quiet rfl rfl rfl rfl (by simp) (by simp)
  | commit i buffer damage tree geometry =>
    refine h.affects (commit_affects buffer damage tree geometry) fun e e' us H _ _ hp hI => ?_
    obtain ⟨⟨pendingUnmap, damage', rfl⟩, rfl⟩ := hp
    exact hI.quiet rfl rfl rfl rfl (by simp) (by simp)
  | destroyedSurface i tree => exact holds_destroy (h.congr rfl rfl rfl rfl) hmts
  | destroyedSubsurface i tree => exact h.congr rfl rfl rfl rfl
  | destroyed i => exact holds_destroy h hmts
  | request i request => exact holds_emitState h _ hmts
  | label i label =>
    refine h.affects (refreshLabel_affects label) fun e e' us H _ _ hp hI => ?_
    obtain ⟨⟨title, rfl⟩, hus, hqt⟩ := hp
    exact hI.quiet rfl rfl rfl rfl hqt hus
  | manage u action =>
    obtain heq | ⟨i, e, he, hu, hlive, heq⟩ := addressed_cases (s := s) u fun id => manage s id action
    · rw [step, heq]
      exact h
    · rw [step, heq]
      exact holds_manage h action hmts he hu hlive
  | focus u =>
    obtain heq | ⟨i, e, he, hu, hlive, heq⟩ := addressed_cases (s := s) u fun id => focusWindow s id
    · rw [step, heq]
      exact h
    · rw [step, heq]
      refine h.affects focusWindow_affects fun e₁ e' us H _ he₁ hp hI => ?_
      obtain ⟨rfl, hqt⟩ := hp
      obtain rfl : e = e₁ := Option.some.inj (he.symm.trans he₁)
      exact hI.quiet rfl rfl rfl rfl hqt fun _ => h.created i e he (hu ▸ hlive)
  | tick => exact holds_tick h hmts

theorem wellFormed_of_holds (h : Holds 0 InOrder Over s) : WellFormed s := by
  intro u
  have hdrop : historyOf u s.sent = historyOf u (s.sent.drop 0) := rfl
  rw [hdrop]
  by_cases hu : s.minted ≤ u
  · rw [h.unminted u hu]
    rfl
  · by_cases hgone : ∀ id e, s.entries id = some e → e.uuid ≠ u
    · obtain hlife | hlife := h.absent u (Nat.lt_of_not_le hu) hgone <;> rw [hlife] <;> rfl
    · push Not at hgone
      obtain ⟨id, e, he, rfl⟩ := hgone
      obtain ⟨life, hlife, -⟩ := (h.present id e he).life
      rw [hlife]
      rfl

def run (actions : List Action) : State := actions.foldl step .new

/-- As long as every action finds the windows as it should, the frontend hears of every window in order. -/
theorem run_wellFormed (actions : List Action)
    (hmts : ∀ before a, before ++ [a] <+: actions → Meets (run before) a) :
    ∀ before, before <+: actions → WellFormed (run before) := by
  intro before hbef
  refine wellFormed_of_holds ?_
  induction before using List.reverseRecOn with
  | nil => exact WaylandRuns.holds_new _ _
  | append_singleton before a ih =>
    rw [run, foldl_concat]
    exact holds_step (ih ((prefix_append before [a]).trans hbef)) a (hmts before a hbef)

def firstBuffer : List Action :=
  [.newToplevel 0 "client", .commit 0 (some (.newBuffer (fun _ _ => opaqueBlack) 2 2)) [] (.node 0 0 0 [] []) none]

theorem run_wellFormed_firstBuffer : WellFormed (run (firstBuffer ++ [.tick])) := by
  have hmts : Meets (run firstBuffer) .tick := by
    constructor
    · have hents : (run firstBuffer).entries = update (update (fun _ => none) 0
          (some (.new 0 "client" .toplevel 0 0))) 0 (some { WindowEntry.new 0 "client" .toplevel 0 0 with
            dirty := true, damage := ⟨none, true⟩ }) := rfl
      intro id e he hp
      rw [hents] at he
      by_cases hid : id = 0
      · rw [hid, update_self] at he
        obtain rfl := Option.some.inj he
        exact absurd hp (by decide)
      · rw [update_of_ne hid, update_of_ne hid] at he
        cases he
    · have hsurfs : (run firstBuffer).surfaces =
          update (fun _ => none) 0 (some ⟨fun _ _ => opaqueBlack, 2, 2, ⟨none, true⟩⟩) := rfl
      have hgeometry : (run firstBuffer).geometry = update (fun _ => none) 0 none := rfl
      intro id sb hsb
      rw [hsurfs] at hsb
      rw [windowRect, hgeometry]
      by_cases hid : id = 0
      · rw [hid, update_self] at hsb
        obtain rfl := Option.some.inj hsb
        rw [hid, update_self]
        decide
      · rw [update_of_ne hid] at hsb
        cases hsb
  refine run_wellFormed _ ?_ _ prefix_rfl
  simp only [firstBuffer, cons_append, nil_append, Runs.forall_prefix_cons]
  exact ⟨trivial, trivial, hmts, Runs.forall_prefix_nil⟩

def minimizedThenClosed : List Action := firstBuffer ++ [.tick, .manage 0 .minimized, .destroyed 0]

theorem not_wellFormed_minimizedThenClosed : ¬∀ actions, WellFormed (run actions) := by
  intro h
  exact absurd (h minimizedThenClosed 0) (by decide)

end X11Web.WindowLifecycle
