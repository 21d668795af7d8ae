import X11Web.FrameCredit

namespace X11Web.Reconnection

open WaylandPixels WaylandWindows WaylandSteps WaylandRuns List Function
open FrameCredit (Link Event)

structure TrackedWindow where
  x : Int
  y : Int
  width : Int
  height : Int
  isTopLevel : Bool
  overrideRedirect : Bool
  mapped : Bool

abbrev WindowKey := String × Uuid

structure Backend where
  windowTrack : WindowKey → Option TrackedWindow
  windowOrder : List WindowKey

structure WindowDescriptor where
  windowId : Uuid
  x : Int
  y : Int
  width : Int
  height : Int
  overrideRedirect : Bool

namespace Backend

def new : Backend := ⟨fun _ => none, []⟩

def pushMissing (k : WindowKey) (order : List WindowKey) : List WindowKey :=
  if k ∈ order then order else order ++ [k]

def getMut (b : Backend) (k : WindowKey) (f : TrackedWindow → TrackedWindow) : Backend :=
  { b with windowTrack := update b.windowTrack k ((b.windowTrack k).map f) }

/-- Whether the update was one of a window's life comes with the registry after it. -/
def applyWindowLifecycle (b : Backend) (clientId : String) : DisplayUpdate → Backend × Bool
  | .windowCreated u x y width height isTopLevel overrideRedirect =>
    (⟨update b.windowTrack (clientId, u) (some ⟨x, y, width, height, isTopLevel, overrideRedirect, false⟩),
      pushMissing (clientId, u) b.windowOrder⟩, true)
  | .windowMapped u isTopLevel overrideRedirect =>
    let entry := (b.windowTrack (clientId, u)).getD ⟨0, 0, 0, 0, isTopLevel, overrideRedirect, false⟩
    (⟨update b.windowTrack (clientId, u) (some { entry with
        isTopLevel := isTopLevel, overrideRedirect := overrideRedirect, mapped := true }),
      pushMissing (clientId, u) b.windowOrder⟩, true)
  | .windowUnmapped u => (b.getMut (clientId, u) fun w => { w with mapped := false }, true)
  | .windowDestroyed u =>
    (⟨update b.windowTrack (clientId, u) none, b.windowOrder.filter (· ≠ (clientId, u))⟩, true)
  | .windowConfigured u x y width height =>
    (b.getMut (clientId, u) fun w => { w with x := x, y := y, width := width, height := height }, true)
  | .windowRaised u => ({ b with windowOrder := b.windowOrder.filter (· ≠ (clientId, u)) ++ [(clientId, u)] }, true)
  | _ => (b, false)

def visible (w : TrackedWindow) : Bool := w.mapped && (w.isTopLevel || w.overrideRedirect)

def buildWindowList (b : Backend) : List WindowDescriptor :=
  b.windowOrder.filterMap fun k => (b.windowTrack k).bind fun w =>
    if visible w then some ⟨k.2, w.x, w.y, w.width, w.height, w.overrideRedirect⟩ else none

def cleanupSidecar (_ : Backend) : Backend := new

def replay (updates : List (String × DisplayUpdate)) : Backend :=
  updates.foldl (fun b x => (b.applyWindowLifecycle x.1 x.2).1) new

end Backend

open Backend

/-- A backend, the sidecar's end of the link to it, and the compositor. -/
structure Hosted where
  link : Link
  backend : Backend

namespace Hosted

def new : Hosted := ⟨.new, .new⟩

def delivered (h : Hosted) : Backend :=
  match h.link.compositor.sent[h.link.shipped]? with
  | some (clientId, update) => (h.backend.applyWindowLifecycle clientId update).1
  | none => h.backend

def step (h : Hosted) (event : Event) : Hosted where
  link := h.link.step event
  backend := match event with
    | .ship =>
      if h.link.compositor.router.consuming ∧ h.link.shipped < h.link.received then h.delivered else h.backend
    | .connect => if h.link.compositor.router.consuming then h.backend else .new
    | .disconnect => if h.link.compositor.router.consuming then h.backend.cleanupSidecar else h.backend
    | .compositor _ | .receive => h.backend

def run (events : List Event) : Hosted := events.foldl step new

end Hosted

/-- Where a session is there and all that was sent has been processed, the window list has the mapped windows,
with their sizes. -/
def Restored (h : Hosted) : Prop :=
  h.link.compositor.router.consuming = true → h.link.shipped = h.link.compositor.sent.length →
    ∀ u width height,
      (∃ d ∈ h.backend.buildWindowList, d.windowId = u ∧ d.width = width ∧ d.height = height) ↔
        ∃ id e, h.link.compositor.entries id = some e ∧ e.mapped = true ∧ e.uuid = u ∧ e.width = width ∧
          e.height = height

section Tracking

def follow (r : Option TrackedWindow) : DisplayUpdate → Option TrackedWindow
  | .windowCreated _ x y width height isTopLevel overrideRedirect =>
    some ⟨x, y, width, height, isTopLevel, overrideRedirect, false⟩
  | .windowMapped _ isTopLevel overrideRedirect =>
    some { r.getD ⟨0, 0, 0, 0, isTopLevel, overrideRedirect, false⟩ with
      isTopLevel := isTopLevel, overrideRedirect := overrideRedirect, mapped := true }
  | .windowUnmapped _ => r.map fun w => { w with mapped := false }
  | .windowDestroyed _ => none
  | .windowConfigured _ x y width height => r.map fun w => { w with x := x, y := y, width := width, height := height }
  | _ => r

def updatesOf (k : WindowKey) (updates : List (String × DisplayUpdate)) : List DisplayUpdate :=
  (updates.filter fun x => x.1 == k.1 && x.2.windowId == some k.2).map (·.2)

theorem updatesOf_append (k : WindowKey) (updates updates' : List (String × DisplayUpdate)) :
    updatesOf k (updates ++ updates') = updatesOf k updates ++ updatesOf k updates' := by
  rw [updatesOf, filter_append, map_append]
  rfl

theorem applyWindowLifecycle_track (b : Backend) (x : String × DisplayUpdate) (k : WindowKey) :
    (b.applyWindowLifecycle x.1 x.2).1.windowTrack k = (updatesOf k [x]).foldl follow (b.windowTrack k) := by
  obtain ⟨c, x⟩ := x
  obtain ⟨c', u'⟩ := k
  by_cases hc : c = c'
  · subst hc
    cases x with
    | windowFocused u => by_cases hu : u = some u' <;> simp [applyWindowLifecycle, updatesOf, DisplayUpdate.windowId, hu, follow]
    | windowCreated u | windowMapped u | windowUnmapped u | windowDestroyed u | windowConfigured u | titleChanged u
    | windowStateChanged u | windowRaised u | putImage u =>
      by_cases hu : u = u'
      · simp [applyWindowLifecycle, getMut, updatesOf, DisplayUpdate.windowId, hu, follow]
      · simp [applyWindowLifecycle, getMut, updatesOf, DisplayUpdate.windowId, hu, Ne.symm hu]
  · have hnone : updatesOf (c', u') [(c, x)] = [] := by simp [updatesOf, hc]
    rw [hnone]
    cases x <;> simp [applyWindowLifecycle, getMut, Ne.symm hc]

theorem replay_track (updates : List (String × DisplayUpdate)) (k : WindowKey) :
    (replay updates).windowTrack k = (updatesOf k updates).foldl follow none := by
  induction updates using List.reverseRecOn with
  | nil => rfl
  | append_singleton updates x ih =>
    rw [replay, foldl_concat, applyWindowLifecycle_track, updatesOf_append, foldl_append]
    exact congrArg (fun r => (updatesOf k [x]).foldl follow r) ih

theorem mem_pushMissing {k k' : WindowKey} {order : List WindowKey} :
    k ∈ pushMissing k' order ↔ k ∈ order ∨ k = k' := by
  unfold pushMissing
  split
  · next hk' =>
    constructor
    · exact .inl
    · rintro (hk | rfl)
      · exact hk
      · exact hk'
  · simp

def Ordered (b : Backend) : Prop := ∀ k w, b.windowTrack k = some w → k ∈ b.windowOrder

variable {b : Backend}

theorem Ordered.update (h : Ordered b) (k : WindowKey) (r : Option TrackedWindow)
    {order : List WindowKey} (hord : ∀ k' ∈ b.windowOrder, k' ≠ k → k' ∈ order) (hk : r ≠ none → k ∈ order) :
    Ordered ⟨update b.windowTrack k r, order⟩ := by
  intro k' w hw
  by_cases heq : k' = k
  · subst heq
    simp only [update_self] at hw
    exact hk (by simp [hw])
  · simp only [update_of_ne heq] at hw
    exact hord k' (h k' w hw) heq

theorem Ordered.getMut (h : Ordered b) (k : WindowKey) (f : TrackedWindow → TrackedWindow) :
    Ordered (b.getMut k f) := by
  refine h.update k _ (fun k' hk' _ => hk') fun hk => ?_
  cases hw : b.windowTrack k with
  | none => simp [hw] at hk
  | some w => exact h k w hw

theorem Ordered.applyWindowLifecycle (h : Ordered b) (c : String) (x : DisplayUpdate) :
    Ordered (b.applyWindowLifecycle c x).1 := by
  cases x with
  | windowCreated u | windowMapped u =>
    exact h.update _ _ (fun k' hk' _ => mem_pushMissing.mpr (.inl hk')) fun _ => mem_pushMissing.mpr (.inr rfl)
  | windowUnmapped u | windowConfigured u => exact h.getMut _ _
  | windowDestroyed u => exact h.update _ _ (fun k' hk' hne => mem_filter.mpr ⟨hk', by simpa using hne⟩) (by simp)
  | windowRaised u =>
    intro k w hw
    by_cases hk : k = (c, u)
    · exact mem_append.mpr (.inr (by simp [hk]))
    · exact mem_append.mpr (.inl (mem_filter.mpr ⟨h k w hw, by simpa using hk⟩))
  | titleChanged u | windowStateChanged u | windowFocused u | putImage u => exact h

theorem replay_ordered (updates : List (String × DisplayUpdate)) : Ordered (replay updates) :=
  List.foldlRecOn (motive := Ordered) _ _ (fun _ _ hw => nomatch hw) fun _ hb x _ => hb.applyWindowLifecycle x.1 x.2

theorem mem_buildWindowList (h : Ordered b) (u : Uuid) (width height : Int) :
    (∃ d ∈ b.buildWindowList, d.windowId = u ∧ d.width = width ∧ d.height = height) ↔
      ∃ c w, b.windowTrack (c, u) = some w ∧ visible w = true ∧ w.width = width ∧ w.height = height := by
  constructor
  · rintro ⟨d, hd, rfl, rfl, rfl⟩
    obtain ⟨⟨c, u⟩, -, hk⟩ := mem_filterMap.mp hd
    obtain ⟨w, hw, hvis⟩ := Option.bind_eq_some_iff.mp hk
    split at hvis
    · next hv =>
      obtain rfl := Option.some.inj hvis
      exact ⟨c, w, hw, hv, rfl, rfl⟩
    · cases hvis
  · rintro ⟨c, w, hw, hv, rfl, rfl⟩
    refine ⟨⟨u, w.x, w.y, w.width, w.height, w.overrideRedirect⟩, ?_, rfl, rfl, rfl⟩
    refine mem_filterMap.mpr ⟨(c, u), h _ w hw, ?_⟩
    simp [hw, hv]

end Tracking

section Suffixes

def isConfigured : DisplayUpdate → Bool
  | .windowConfigured .. => true
  | _ => false

/-- The updates have the creation of the window, or a mapping of it and later a size. -/
def complete : List DisplayUpdate → Bool
  | [] => false
  | .windowCreated .. :: _ => true
  | .windowMapped .. :: us => us.any isConfigured || complete us
  | _ :: us => complete us

theorem complete_append_left {us : List DisplayUpdate} (us' : List DisplayUpdate) (h : complete us = true) :
    complete (us ++ us') = true := by
  induction us with
  | nil => cases h
  | cons x us ih =>
    cases x with
    | windowCreated => rfl
    | windowMapped =>
      simp only [cons_append, complete, any_append, Bool.or_eq_true] at h ⊢
      exact h.imp .inl ih
    | _ => exact ih h

theorem complete_append_right (us : List DisplayUpdate) {us' : List DisplayUpdate} (h : complete us' = true) :
    complete (us ++ us') = true := by
  induction us with
  | nil => exact h
  | cons x us ih =>
    cases x with
    | windowCreated => rfl
    | windowMapped =>
      simp only [cons_append, complete, Bool.or_eq_true]
      exact .inr ih
    | _ => exact ih

/-- Two records of a window that is mapped or not alike, and may differ in place and size. -/
def Near (r r' : Option TrackedWindow) : Prop :=
  r = r' ∨ ∃ w x y width height, r = some w ∧ r' = some { w with x := x, y := y, width := width, height := height }

theorem Near.follow {r r' : Option TrackedWindow} (h : Near r r') (x : DisplayUpdate) :
    Near (follow r x) (follow r' x) := by
  obtain rfl | ⟨w, x', y', width, height, rfl, rfl⟩ := h
  · exact .inl rfl
  · cases x with
    | windowCreated | windowDestroyed | windowConfigured => exact .inl rfl
    | _ => exact .inr ⟨_, x', y', width, height, rfl, rfl⟩

theorem Near.foldl_eq {us : List DisplayUpdate} (hus : us.any isConfigured = true) {r r' : Option TrackedWindow}
    (h : Near r r') : us.foldl Reconnection.follow r = us.foldl Reconnection.follow r' := by
  induction us generalizing r r' with
  | nil => cases hus
  | cons x us ih =>
    rw [any_cons, Bool.or_eq_true] at hus
    obtain hx | hus := hus
    · have heq : Reconnection.follow r x = Reconnection.follow r' x := by
        obtain rfl | ⟨w, x', y', width, height, rfl, rfl⟩ := h
        · rfl
        · cases x with
          | windowConfigured => rfl
          | _ => cases hx
      rw [foldl_cons, foldl_cons, heq]
    · exact ih hus (h.follow x)

theorem foldl_follow_of_complete {us : List DisplayUpdate} (h : complete us = true) (r r' : Option TrackedWindow) :
    us.foldl follow r = us.foldl follow r' := by
  induction us generalizing r r' with
  | nil => cases h
  | cons x us ih =>
    cases x with
    | windowCreated => rfl
    | windowMapped u isTopLevel overrideRedirect =>
      simp only [complete, Bool.or_eq_true] at h
      obtain hconfigured | h := h
      · exact Near.foldl_eq hconfigured (.inr ⟨_, _, _, _, _, rfl, rfl⟩)
      · exact ih h _ _
    | _ => exact ih h _ _

def Below (r r' : Option TrackedWindow) : Prop :=
  ∀ w, r = some w → w.mapped = true →
    ∃ w', r' = some w' ∧ w'.mapped = true ∧ w'.isTopLevel = w.isTopLevel ∧ w'.overrideRedirect = w.overrideRedirect

theorem Below.follow {r r' : Option TrackedWindow} (h : Below r r') (x : DisplayUpdate) :
    Below (follow r x) (follow r' x) := by
  intro w hw hm
  cases x with
  | windowCreated | windowMapped =>
    obtain rfl := Option.some.inj hw
    exact ⟨_, rfl, hm, rfl, rfl⟩
  | windowUnmapped =>
    obtain ⟨w₀, -, rfl⟩ := Option.map_eq_some_iff.mp hw
    cases hm
  | windowDestroyed => cases hw
  | windowConfigured =>
    obtain ⟨w₀, hw₀, rfl⟩ := Option.map_eq_some_iff.mp hw
    obtain ⟨w', hw', hm', ht, ho⟩ := h w₀ hw₀ hm
    subst hw'
    exact ⟨_, rfl, hm', ht, ho⟩
  | _ => exact h w hw hm

theorem visible_foldl {us : List DisplayUpdate} {w : TrackedWindow} (hw : us.foldl follow none = some w)
    (hvis : visible w = true) (r : Option TrackedWindow) :
    ∃ w', us.foldl follow r = some w' ∧ visible w' = true := by
  have hbel : ∀ r r', Below r r' → Below (us.foldl follow r) (us.foldl follow r') := by
    clear hw
    induction us with
    | nil => exact fun _ _ h => h
    | cons x us ih => exact fun _ _ h => ih _ _ (h.follow x)
  simp only [visible, Bool.and_eq_true] at hvis
  obtain ⟨w', hw', hm, ht, ho⟩ := hbel none r (fun _ h => nomatch h) w hw hvis.1
  refine ⟨w', hw', ?_⟩
  simp only [visible, hm, ht, ho, Bool.true_and]
  exact hvis.2

end Suffixes

section Histories

variable {e : WindowEntry} {H : List (String × DisplayUpdate)} {us : List DisplayUpdate}

def record (H : List (String × DisplayUpdate)) : Option TrackedWindow := (H.map (·.2)).foldl follow none

theorem record_append (H : List (String × DisplayUpdate)) (e : WindowEntry) (us : List DisplayUpdate) :
    record (H ++ tagged e us) = us.foldl follow (record H) := by
  rw [record, map_append, foldl_append, tagged, map_map]
  exact congrArg _ (map_id us)

/-- All updates about the window come from its client, and all of them together show it if it is mapped, at
its size. -/
structure Accurate (e : WindowEntry) (H : List (String × DisplayUpdate)) : Prop where
  client : ∀ x ∈ H, x.1 = e.clientId
  shown : e.mapped = true → e.created = true ∧
    ∃ w, record H = some w ∧ visible w = true ∧ w.width = e.width ∧ w.height = e.height
  hidden : e.mapped = false → e.width = 0 ∧ ∀ w, record H = some w → w.mapped = false

structure Absent (H : List (String × DisplayUpdate)) : Prop where
  client : ∃ c, ∀ x ∈ H, x.1 = c
  hidden : ∀ w, record H = some w → w.mapped = false

theorem client_append (hcl : ∀ x ∈ H, x.1 = e.clientId) (us : List DisplayUpdate) :
    ∀ x ∈ H ++ tagged e us, x.1 = e.clientId := by
  intro x hx
  obtain hx | hx := mem_append.mp hx
  · exact hcl x hx
  · obtain ⟨y, -, rfl⟩ := mem_map.mp hx
    rfl

theorem foldl_follow_quiet (hqt : ∀ x ∈ us, Quiet x) (r : Option TrackedWindow) : us.foldl follow r = r := by
  induction us with
  | nil => rfl
  | cons x us ih =>
    have hx : follow r x = r := by
      have hquietx := hqt x mem_cons_self
      cases x <;> first | rfl | exact hquietx.elim
    rw [foldl_cons, hx]
    exact ih fun y hy => hqt y (mem_cons_of_mem x hy)

theorem visible_flags (kind : WindowKind) (x y width height : Int) :
    visible ⟨x, y, width, height, kind.flags.1, kind.flags.2, true⟩ = true := by
  cases kind <;> rfl

theorem one_le_paintedSize (geo : Rect) : 1 ≤ (paintedSize geo).1 ∧ 1 ≤ (paintedSize geo).2 := by
  simp only [paintedSize, clampU16]
  omega

theorem accurate_announced {geo : Rect} {e' : Option WindowEntry}
    (ha : Announces (paintedSize geo).1 (paintedSize geo).2 e e' us) (hI : Accurate e H) :
    HoldsOf Accurate Absent (H ++ tagged e us) e' := by
  have hcl := client_append hI.client us
  obtain ⟨hw, hh⟩ := one_le_paintedSize geo
  generalize (paintedSize geo).1 = w₀ at ha hw
  generalize (paintedSize geo).2 = h₀ at ha hh
  cases ha with
  | settled hm =>
    refine ⟨hcl, fun hm' => absurd (hm.symm.trans hm') (by decide), fun _ => ?_⟩
    rw [record_append]
    exact hI.hidden hm
  | unmapped fb hp hm =>
    obtain ⟨-, w, hrec, -⟩ := hI.shown hm
    refine ⟨hcl, fun hm' => absurd hm' (by simp), fun _ => ⟨rfl, fun w' hw' => ?_⟩⟩
    rw [record_append, hrec] at hw'
    exact Option.some.inj hw' ▸ rfl
  | created fb damage title quiet hc hqt =>
    refine ⟨hcl, fun _ => ⟨rfl, ⟨e.x, e.y, w₀, h₀, e.kind.flags.1, e.kind.flags.2, true⟩, ?_,
      visible_flags _ _ _ _ _, rfl, rfl⟩, fun hm => absurd hm (by simp)⟩
    rw [record_append, foldl_cons, foldl_cons, foldl_follow_quiet hqt]
    rfl
  | remapped fb damage hc hm =>
    have hsize : e.width ≠ w₀ ∨ e.height ≠ h₀ := .inl (by have := (hI.hidden hm).1; omega)
    rw [if_pos hsize] at hcl ⊢
    refine ⟨hcl, fun _ => ⟨hc, ⟨e.x, e.y, w₀, h₀, e.kind.flags.1, e.kind.flags.2, true⟩, ?_,
      visible_flags _ _ _ _ _, rfl, rfl⟩, fun hm => absurd hm (by simp)⟩
    rw [record_append]
    rfl
  | stayed fb damage hc hm =>
    obtain ⟨-, w, hrec, hvis, hwd, hht⟩ := hI.shown hm
    refine ⟨hcl, fun _ => ⟨hc, ?_⟩, fun hm' => absurd (hm.symm.trans hm') (by decide)⟩
    rw [record_append, hrec]
    split
    · exact ⟨_, rfl, hvis, rfl, rfl⟩
    · next heq =>
      obtain ⟨hw₀, hh₀⟩ : e.width = w₀ ∧ e.height = h₀ := by simpa using heq
      exact ⟨w, rfl, hvis, hwd.trans hw₀, hht.trans hh₀⟩

theorem rules_accurate : Rules Accurate Absent where
  alike := by
    intro e e' us H halike hqt hI
    have hrec : record (H ++ tagged e us) = record H := by rw [record_append, foldl_follow_quiet hqt]
    refine ⟨halike.clientId ▸ client_append hI.client us, fun hm => ?_, fun hm => ?_⟩
    · rw [halike.created, halike.width, halike.height, hrec]
      exact hI.shown (halike.mapped ▸ hm)
    · rw [halike.width, hrec]
      exact hI.hidden (halike.mapped ▸ hm)
  restored := by
    intro e H hm hI
    obtain ⟨hc, w, hrec, -, hwd, hht⟩ := hI.shown hm
    refine ⟨client_append hI.client _, fun _ => ⟨hc, ?_⟩, fun hm' => absurd (hm.symm.trans hm') (by decide)⟩
    rw [record_append, hrec]
    exact ⟨_, rfl, visible_flags e.kind w.x w.y w.width w.height, hwd, hht⟩
  destroyed := by
    intro e H hI
    refine ⟨⟨e.clientId, client_append hI.client _⟩, fun w hw => ?_⟩
    rw [record_append] at hw
    cases hm : e.mapped with
    | true =>
      rw [hm, (hI.shown hm).1] at hw
      cases hw
    | false =>
      rw [hm] at hw
      cases hc : e.created with
      | true =>
        rw [hc] at hw
        cases hw
      | false =>
        rw [hc] at hw
        exact (hI.hidden hm).2 w hw
  announced := fun geo e e' us H ha hI => accurate_announced ha hI
  painted := by
    intro consuming e e' us H hm hpnts hI
    cases hpnts with
    | kept fb =>
      refine ⟨client_append hI.client [], fun hm => ?_, fun hm => ?_⟩ <;> rw [record_append]
      · exact hI.shown hm
      · exact hI.hidden hm
    | emitted fb rect data =>
      refine ⟨client_append hI.client _, fun hm => ?_, fun hm => ?_⟩ <;> rw [record_append]
      · exact hI.shown hm
      · exact hI.hidden hm

structure Announced (e : WindowEntry) (H : List (String × DisplayUpdate)) : Prop where
  shown : e.mapped = true → complete (H.map (·.2)) = true
  hidden : e.mapped = false → e.width = 0

theorem complete_tagged (e : WindowEntry) (us : List DisplayUpdate) (h : complete (H.map (·.2)) = true ∨ complete us = true) :
    complete ((H ++ tagged e us).map (·.2)) = true := by
  have hmap : (H ++ tagged e us).map (·.2) = H.map (·.2) ++ us := by
    rw [map_append, tagged, map_map]
    exact congrArg _ (map_id us)
  rw [hmap]
  exact h.elim (complete_append_left us) (complete_append_right _)

theorem rules_announced : Rules Announced fun _ => True where
  alike := by
    intro e e' us H halike _ hI
    refine ⟨fun hm => complete_tagged e us (.inl (hI.shown (halike.mapped ▸ hm))), fun hm => ?_⟩
    rw [halike.width]
    exact hI.hidden (halike.mapped ▸ hm)
  restored := fun e H hm hI => ⟨fun _ => complete_tagged e _ (.inl (hI.shown hm)), hI.hidden⟩
  destroyed := fun _ _ _ => trivial
  announced := by
    intro geo e e' us H ha hI
    obtain ⟨hw, hh⟩ := one_le_paintedSize geo
    cases ha with
    | settled hm => exact ⟨fun hm' => absurd (hm.symm.trans hm') (by decide), hI.hidden⟩
    | unmapped fb hp hm => exact ⟨fun hm' => absurd hm' (by simp), fun _ => rfl⟩
    | created => exact ⟨fun _ => complete_tagged e _ (.inr rfl), fun hm => absurd hm (by simp)⟩
    | remapped fb damage hc hm =>
      have hsize : e.width ≠ (paintedSize geo).1 ∨ e.height ≠ (paintedSize geo).2 := .inl (by have := hI.hidden hm; omega)
      rw [if_pos hsize]
      exact ⟨fun _ => complete_tagged e _ (.inr rfl), fun hm => absurd hm (by simp)⟩
    | stayed fb damage hc hm =>
      exact ⟨fun _ => complete_tagged e _ (.inl (hI.shown hm)), fun hm' => absurd (hm.symm.trans hm') (by decide)⟩
  painted := by
    intro consuming e e' us H hm hpnts hI
    cases hpnts <;> exact ⟨fun _ => complete_tagged e _ (.inl (hI.shown hm)), hI.hidden⟩

end Histories

/-- When a session begins, what announces each mapped window is still in the channel, and the frontend hides no
window that stays mapped. -/
def Meets (h : Hosted) : Event → Prop
  | .connect => h.link.compositor.router.consuming = false → ∀ id e, h.link.compositor.entries id = some e →
      e.mapped = true →
        complete ((historyOf e.uuid (h.link.compositor.sent.drop h.link.received)).map (·.2)) = true
  | .compositor (.manage u .minimized) =>
    ∀ id ∈ h.link.compositor.toplevels, ∀ e, h.link.compositor.entries id = some e → e.uuid = u → e.mapped = false
  | _ => True

namespace Hosted

/-- The backend has processed what the session has shipped so far, and the session gets to see what announces
each mapped window. -/
structure Sound (h : Hosted) : Prop where
  windows : Holds 0 Accurate Absent h.link.compositor
  shipped : h.link.shipped ≤ h.link.received
  received : h.link.received ≤ h.link.compositor.sent.length
  apart : h.link.compositor.router.consuming = false → h.link.shipped = h.link.received
  session : h.link.compositor.router.consuming = true → ∃ base ≤ h.link.shipped,
    h.backend = replay ((h.link.compositor.sent.take h.link.shipped).drop base) ∧
      Holds base Announced (fun _ => True) h.link.compositor

variable {h : Hosted}

theorem holds_compositor {s : State} (hwins : Holds 0 Accurate Absent s) (a : Action)
    (hminimized : ∀ u, a = .manage u .minimized → ∀ id ∈ s.toplevels, ∀ e, s.entries id = some e → e.uuid = u →
      e.mapped = false) : Holds 0 Accurate Absent (WaylandWindows.step s a) := by
  refine rules_accurate.step hwins a (fun _ _ _ _ => ⟨by simp, by simp [WindowEntry.new], fun _ => ⟨rfl, ?_⟩⟩) ?_
  · intro w hw
    cases hw
  · intro u ha id hid e he hu hm
    exact absurd ((hminimized u ha id hid e he hu).symm.trans hm) (by decide)

theorem Sound.compositor (hs : Sound h) (a : Action) (hmts : Meets h (.compositor a)) :
    Sound (h.step (.compositor a)) := by
  have hsent := step_sent h.link.compositor a
  have hcons := FrameCredit.step_consuming h.link.compositor a
  refine ⟨holds_compositor hs.windows a fun u ha => ?_, hs.shipped, hs.received.trans hsent.length_le, fun hfalse => ?_,
    fun htrue => ?_⟩
  · rw [ha] at hmts
    exact hmts
  · exact hs.apart (hcons.symm.trans hfalse)
  · obtain ⟨base, hbase, hbe, hann⟩ := hs.session (hcons.symm.trans htrue)
    refine ⟨base, hbase, ?_, ?_⟩
    · obtain ⟨new, hnew⟩ := hsent
      change h.backend = replay (((WaylandWindows.step h.link.compositor a).sent.take h.link.shipped).drop base)
      rw [← hnew, take_append_of_le_length (hs.shipped.trans hs.received)]
      exact hbe
    · refine rules_announced.step hann a (fun _ _ _ _ => ⟨by simp [WindowEntry.new], fun _ => rfl⟩) ?_
      exact fun u _ id _ e _ _ hm hI => ⟨fun _ => complete_tagged e _ (.inl (hI.shown hm)), hI.hidden⟩

theorem Sound.ship (hs : Sound h) (hcons : h.link.compositor.router.consuming = true)
    (hshipped : h.link.shipped < h.link.received) : Sound ⟨h.link.ship, h.delivered⟩ := by
  have hlen := Nat.lt_of_lt_of_le hshipped hs.received
  obtain ⟨x, hx⟩ : ∃ x, h.link.compositor.sent[h.link.shipped]? = some x := ⟨_, List.getElem?_eq_getElem hlen⟩
  obtain ⟨router, heq, hlive, hcons', -⟩ := FrameCredit.Link.ship_eq hx
  rw [heq]
  obtain ⟨base, hbase, hbe, hann⟩ := hs.session hcons
  refine ⟨hs.windows.congr rfl rfl hlive rfl, hshipped, hs.received, fun hfalse => ?_, fun _ => ⟨base, ?_, ?_, ?_⟩⟩
  · exact absurd (hfalse.symm.trans (hcons'.trans hcons)) (by decide)
  · exact Nat.le_succ_of_le hbase
  · have htake : h.link.compositor.sent.take (h.link.shipped + 1) = h.link.compositor.sent.take h.link.shipped ++ [x] := by
      rw [take_add_one, hx]
      rfl
    change h.delivered = replay ((h.link.compositor.sent.take (h.link.shipped + 1)).drop base)
    rw [htake, drop_append_of_le_length (by simp; omega), replay, foldl_concat]
    unfold delivered
    rw [hx, hbe]
    rfl
  · exact hann.congr rfl rfl hlive rfl

theorem Sound.connect (hs : Sound h) (hcons : h.link.compositor.router.consuming = false)
    (hmts : Meets h .connect) : Sound ⟨h.link.setConsuming true, .new⟩ := by
  refine ⟨hs.windows.congr rfl rfl rfl rfl, hs.shipped, hs.received, (fun hfalse => nomatch hfalse), fun _ => ?_⟩
  have hsame := hs.apart hcons
  refine ⟨h.link.shipped, Nat.le_refl _, ?_, ?_⟩
  · change Backend.new = replay ((h.link.compositor.sent.take h.link.shipped).drop h.link.shipped)
    rw [drop_take_self]
    rfl
  · change Holds h.link.shipped Announced (fun _ => True) { h.link.compositor with router := _ }
    rw [hsame]
    refine Holds.congr (s := h.link.compositor) ?_ rfl rfl rfl rfl
    refine ⟨hs.windows.toRegistry, hs.received, fun id e he => ⟨fun hm => hmts hcons id e he hm, fun hm => ?_⟩,
      fun _ _ _ => trivial, fun u hu => ?_⟩
    · exact ((hs.windows.present id e he).hidden hm).1
    · have hnone := hs.windows.unminted u hu
      rw [drop_zero] at hnone
      rw [historyOf, filter_eq_nil_iff] at hnone ⊢
      exact fun x hx => hnone x (mem_of_mem_drop hx)

theorem Sound.step (hs : Sound h) (event : Event) (hmts : Meets h event) : Sound (h.step event) := by
  cases event with
  | compositor a => exact hs.compositor a hmts
  | receive =>
    unfold Hosted.step Link.step
    dsimp only
    split
    · next hreceive =>
      refine ⟨hs.windows, Nat.le_succ_of_le hs.shipped, hreceive.2, fun hfalse => ?_, hs.session⟩
      exact absurd (hfalse.symm.trans hreceive.1) (by decide)
    · exact hs
  | ship =>
    unfold Hosted.step Link.step
    dsimp only
    split
    · next hship => exact hs.ship hship.1 hship.2
    · exact hs
  | connect =>
    unfold Hosted.step Link.step
    dsimp only
    split
    · exact hs
    · next hcons => exact hs.connect (by simpa using hcons) hmts
  | disconnect =>
    unfold Hosted.step Link.step
    dsimp only
    split
    · refine ⟨hs.windows.congr rfl rfl rfl rfl, Nat.le_refl _, hs.received, fun _ => rfl, fun htrue => nomatch htrue⟩
    · exact hs

variable {updates : List (String × DisplayUpdate)}

theorem updatesOf_eq {u : Uuid} {c : String} (hcl : ∀ x ∈ historyOf u updates, x.1 = c) (c' : String) :
    updatesOf (c', u) updates = if c' = c then (historyOf u updates).map (·.2) else [] := by
  have hfilter : updatesOf (c', u) updates = ((historyOf u updates).filter fun x => x.1 == c').map (·.2) := by
    rw [updatesOf, historyOf, filter_filter]
  rw [hfilter]
  split
  · next hc =>
    rw [filter_eq_self.mpr fun x hx => by simp [hcl x hx, hc]]
  · next hc =>
    rw [filter_eq_nil_iff.mpr fun x hx => by simpa [hcl x hx] using Ne.symm hc]
    rfl

theorem record_split (u : Uuid) (base : Nat) (updates : List (String × DisplayUpdate)) :
    record (historyOf u updates) =
      ((historyOf u (updates.drop base)).map (·.2)).foldl follow (record (historyOf u (updates.take base))) := by
  conv_lhs => rw [← take_append_drop base updates, historyOf_append, record, map_append, foldl_append]
  rfl

theorem replay_drop_track {u : Uuid} {c : String}
    (hcl : ∀ x ∈ historyOf u updates, x.1 = c) (base : Nat) (c' : String) :
    (replay (updates.drop base)).windowTrack (c', u) =
      if c' = c then record (historyOf u (updates.drop base)) else none := by
  have hcl' : ∀ x ∈ historyOf u (updates.drop base), x.1 = c :=
    fun x hx => hcl x (((drop_sublist base updates).filter _).subset hx)
  rw [replay_track, updatesOf_eq hcl']
  split <;> rfl

theorem not_visible_of_hidden {u : Uuid} {c c' : String}
    (hcl : ∀ x ∈ historyOf u updates, x.1 = c) (hhidden : ∀ w, record (historyOf u updates) = some w → w.mapped = false)
    (base : Nat) {w : TrackedWindow} (hw : (replay (updates.drop base)).windowTrack (c', u) = some w) :
    visible w = false := by
  rw [replay_drop_track hcl] at hw
  split at hw
  · by_contra hvis
    obtain ⟨w', hw', hvis'⟩ := visible_foldl hw (by simpa using hvis) (record (historyOf u (updates.take base)))
    rw [← record_split] at hw'
    simp [visible, hhidden w' hw'] at hvis'
  · cases hw

theorem Sound.restored (hs : Sound h) : Restored h := by
  intro hcons hall u width height
  obtain ⟨base, -, hbe, hann⟩ := hs.session hcons
  rw [hall, take_length] at hbe
  rw [hbe, mem_buildWindowList (replay_ordered _)]
  have hpresent : ∀ id e, h.link.compositor.entries id = some e → Accurate e (historyOf e.uuid h.link.compositor.sent) :=
    hs.windows.present
  -- A mapped window's updates of this session leave the same record as all its updates.
  have hrec : ∀ id e, h.link.compositor.entries id = some e → e.mapped = true →
      record (historyOf e.uuid (h.link.compositor.sent.drop base)) = record (historyOf e.uuid h.link.compositor.sent) := by
    intro id e he hm
    rw [record_split e.uuid base h.link.compositor.sent]
    exact foldl_follow_of_complete ((hann.present id e he).shown hm) _ _
  constructor
  · rintro ⟨c, w, hw, hvis, rfl, rfl⟩
    by_cases hgone : ∀ id e, h.link.compositor.entries id = some e → e.uuid ≠ u
    · have habsent : Absent (historyOf u h.link.compositor.sent) := by
        by_cases hu : u < h.link.compositor.minted
        · exact hs.windows.absent u hu hgone
        · rw [← drop_zero (l := h.link.compositor.sent), hs.windows.unminted u (Nat.le_of_not_lt hu)]
          exact ⟨⟨"", by simp⟩, fun w hw => nomatch hw⟩
      obtain ⟨c₀, hcl⟩ := habsent.client
      exact absurd ((not_visible_of_hidden hcl habsent.hidden base hw).symm.trans hvis) (by decide)
    · push Not at hgone
      obtain ⟨id, e, he, rfl⟩ := hgone
      have hacc := hpresent id e he
      cases hm : e.mapped with
      | false =>
        have hinvisible := not_visible_of_hidden hacc.client (hacc.hidden hm).2 base hw
        exact absurd (hinvisible.symm.trans hvis) (by decide)
      | true =>
        obtain ⟨-, w₀, hw₀, -, hwd, hht⟩ := hacc.shown hm
        rw [replay_drop_track hacc.client, hrec id e he hm, hw₀] at hw
        split at hw
        · obtain rfl := Option.some.inj hw
          exact ⟨id, e, he, hm, rfl, hwd.symm, hht.symm⟩
        · cases hw
  · rintro ⟨id, e, he, hm, rfl, rfl, rfl⟩
    have hacc := hpresent id e he
    obtain ⟨-, w, hw, hvis, hwd, hht⟩ := hacc.shown hm
    refine ⟨e.clientId, w, ?_, hvis, hwd, hht⟩
    rw [replay_drop_track hacc.client, if_pos rfl, hrec id e he hm, hw]

theorem sound_new : Sound new :=
  ⟨holds_new _ _, Nat.le_refl _, Nat.le_refl _, fun _ => rfl, fun htrue => nomatch htrue⟩

theorem run_sound (events : List Event)
    (hmts : ∀ before event, before ++ [event] <+: events → Meets (run before) event) : Sound (run events) := by
  induction events using List.reverseRecOn with
  | nil => exact sound_new
  | append_singleton events event ih =>
    obtain ⟨hbef, hlast⟩ := Runs.forall_prefix_concat.mp hmts
    rw [run, foldl_concat]
    exact Sound.step (ih hbef) event hlast

/-- As long as what announces the mapped windows is not lost with a session, and none of them is hidden, every
session gets to the windows that are there. -/
theorem run_restored (events : List Event)
    (hmts : ∀ before event, before ++ [event] <+: events → Meets (run before) event) :
    ∀ before, before <+: events → Restored (run before) :=
  fun before hbef => (run_sound before fun bs b hbs => hmts bs b (hbs.trans hbef)).restored

/-- A window is created in a session that breaks before the sidecar reads of it. -/
def unread : List Event :=
  [.connect, .compositor (.newToplevel 0 "client"), Link.frame, Link.tick, .disconnect]

def allProcessed : List Event :=
  [.receive, .receive, .receive, .receive, .receive, .ship, .ship, .ship, .ship, .ship]

theorem meets_unread : ∀ before event, before ++ [event] <+: unread → Meets (run before) event := by
  simp only [unread, Runs.forall_prefix_cons]
  exact ⟨(fun _ _ _ he => nomatch he), trivial, trivial, trivial, trivial, Runs.forall_prefix_nil⟩

theorem run_restored_unread : (run (unread ++ .connect :: allProcessed)).link.shipped = 5 ∧
    Restored (run (unread ++ .connect :: allProcessed)) := by
  have hconnect : Meets (run unread) .connect := by
    intro _ id e he _
    have hu : e.uuid < 1 := (run_sound unread meets_unread).windows.minted id e he
    rw [Nat.lt_one_iff.mp hu]
    decide +kernel
  refine ⟨by decide +kernel, run_restored _ ?_ _ prefix_rfl⟩
  simp only [unread, allProcessed, cons_append, nil_append, Runs.forall_prefix_cons]
  exact ⟨(fun _ _ _ he => nomatch he), trivial, trivial, trivial, trivial, hconnect, trivial, trivial, trivial, trivial,
    trivial, trivial, trivial, trivial, trivial, trivial, Runs.forall_prefix_nil⟩

/-- The next session finds nothing of a window that the last one has processed. -/
def forgotten : List Event :=
  [.connect, .compositor (.newToplevel 0 "client"), Link.frame, Link.tick] ++ allProcessed ++ [.disconnect, .connect]

theorem not_restored_forgotten : ¬Restored (run forgotten) := by
  intro h
  have hent : ((run forgotten).link.compositor.entries 0).map (fun e => (e.mapped, e.uuid, e.width, e.height)) =
      some (true, 0, 2, 2) := by decide +kernel
  obtain ⟨e, he, heq⟩ := Option.map_eq_some_iff.mp hent
  simp only [Prod.mk.injEq] at heq
  obtain ⟨hm, hu, hw, hh⟩ := heq
  have hemp : (run forgotten).backend.buildWindowList.length = 0 := by decide +kernel
  obtain ⟨d, hd, -⟩ := (h (by decide +kernel) (by decide +kernel) 0 2 2).mpr ⟨0, e, he, hm, hu, hw, hh⟩
  rw [eq_nil_of_length_eq_zero hemp] at hd
  cases hd

end Hosted

end X11Web.Reconnection
