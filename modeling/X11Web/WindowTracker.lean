import X11Web.HashMaps
import X11Web.Protocol
import X11Web.Runs

namespace X11Web.WindowTracker

open HashMaps Protocol List Option Finmap

structure TrackedWindow where
  x : Int16
  y : Int16
  width : UInt16
  height : UInt16
  borderWidth : UInt16
  borderPixel : UInt32
  isTopLevel : Bool
  overrideRedirect : Bool
  mapped : Bool
  resizable : Bool
deriving DecidableEq

abbrev WindowKey := String × String × String

structure Tracker where
  windowTrack : HashMap WindowKey TrackedWindow
  windowOrder : List WindowKey

def Tracker.new : Tracker := ⟨∅, []⟩

def pushMissing (k : WindowKey) (order : List WindowKey) : List WindowKey :=
  if k ∈ order then order else order ++ [k]

/-- The tracker after the update, and whether the update was one of a window's life. -/
def applyWindowLifecycle (sidecarId clientId : String) (t : Tracker) : DisplayUpdate → Tracker × Bool
  | .windowCreated windowId x y width height isTopLevel overrideRedirect borderWidth borderPixel resizable =>
    let k := (sidecarId, clientId, windowId)
    (⟨t.windowTrack.insert k
        ⟨x, y, width, height, borderWidth, borderPixel, isTopLevel, overrideRedirect, false, resizable⟩,
      pushMissing k t.windowOrder⟩, true)
  | .windowMapped windowId isTopLevel overrideRedirect =>
    let k := (sidecarId, clientId, windowId)
    let entry := (t.windowTrack.lookup k).getD ⟨0, 0, 0, 0, 0, 0, isTopLevel, overrideRedirect, false, true⟩
    (⟨t.windowTrack.insert k { entry with isTopLevel, overrideRedirect, mapped := true },
      pushMissing k t.windowOrder⟩, true)
  | .windowUnmapped windowId =>
    ({ t with windowTrack :=
        modify (sidecarId, clientId, windowId) (fun w => { w with mapped := false }) t.windowTrack }, true)
  | .windowDestroyed windowId =>
    let k := (sidecarId, clientId, windowId)
    (⟨t.windowTrack.erase k, t.windowOrder.filter (fun x => x != k)⟩, true)
  | .windowConfigured windowId x y width height borderWidth borderPixel resizable =>
    let configure (w : TrackedWindow) := { w with x, y, width, height, borderWidth, borderPixel, resizable }
    ({ t with windowTrack := modify (sidecarId, clientId, windowId) configure t.windowTrack }, true)
  | .windowRaised windowId =>
    let k := (sidecarId, clientId, windowId)
    ({ t with windowOrder := t.windowOrder.filter (fun x => x != k) ++ [k] }, true)
  | _ => (t, false)

abbrev Processes := HashMap String (List ProcessInfo)

def visible (w : TrackedWindow) : Bool := w.mapped && (w.isTopLevel || w.overrideRedirect)

section Listing

variable (asF64 : Int16 → Float64Bits) (processes : Processes)

def descriptor (k : WindowKey) (w : TrackedWindow) : WindowDescriptor :=
  let process := ((processes.lookup k.1).bind (fun list => list.find? (fun p => p.clientId == k.2.1))).map
    (fun p => (p.pid, p.command))
  let (pid, command) := process.getD (0, "")
  ⟨k.2.2, k.1, pid, command, asF64 w.x, asF64 w.y, w.width, w.height, w.borderWidth, w.borderPixel,
    w.overrideRedirect, w.resizable⟩

def buildWindowList (t : Tracker) : List WindowDescriptor :=
  t.windowOrder.filterMap fun k =>
    match t.windowTrack.lookup k with
    | none => none
    | some w => if visible w then some (descriptor asF64 processes k w) else none

end Listing

/-- The tracker without the windows that `gone` holds of, and whether there were any. -/
def dropWindows (gone : WindowKey → Bool) (t : Tracker) : Tracker × Bool :=
  let windowTrack := retain (fun k _ => !gone k) t.windowTrack
  (⟨windowTrack, t.windowOrder.filter (fun k => !gone k)⟩, windowTrack.keys.card != t.windowTrack.keys.card)

def dropClientWindows (clientId : String) (t : Tracker) : Tracker × Bool :=
  dropWindows (fun k => k.2.1 == clientId) t

def dropSidecarWindows (sidecarId : String) (t : Tracker) : Tracker × Bool :=
  dropWindows (fun k => k.1 == sidecarId) t

inductive TrackerEvent
  | displayUpdate (sidecarId clientId : String) (update : DisplayUpdate)
  | clientGone (clientId : String)
  | sidecarGone (sidecarId : String)

def Tracker.next (t : Tracker) : TrackerEvent → Tracker
  | .displayUpdate sidecarId clientId update => (applyWindowLifecycle sidecarId clientId t update).1
  | .clientGone clientId => (dropClientWindows clientId t).1
  | .sidecarGone sidecarId => (dropSidecarWindows sidecarId t).1

def raises (k : WindowKey) : TrackerEvent → Bool
  | .displayUpdate sidecarId clientId (.windowRaised windowId) => (sidecarId, clientId, windowId) == k
  | _ => false

/-- The tracker, with the time at which each window was last added or raised. A tracked
window that is made again is not added again. -/
structure Watched where
  tracker : Tracker
  now : Nat
  since : WindowKey → Nat

def Watched.new : Watched := ⟨.new, 0, fun _ => 0⟩

def Watched.next (s : Watched) (x : TrackerEvent) : Watched where
  tracker := s.tracker.next x
  now := s.now + 1
  since k :=
    if (k ∉ s.tracker.windowTrack ∧ k ∈ (s.tracker.next x).windowTrack) ∨ raises k x = true then s.now
    else s.since k

def watch (events : List TrackerEvent) : Watched := events.foldl Watched.next .new

/-- The order has each tracked window once and no others, and the list has the visible
ones by the time they were last added or raised. -/
structure Mirrors (s : Watched) : Prop where
  nodup : s.tracker.windowOrder.Nodup
  keys : ∀ k, k ∈ s.tracker.windowOrder ↔ k ∈ s.tracker.windowTrack
  listed : ∀ asF64 processes, ∃ shown : List (WindowKey × TrackedWindow),
    buildWindowList asF64 processes s.tracker = shown.map (fun x => descriptor asF64 processes x.1 x.2) ∧
      (∀ k w, (k, w) ∈ shown ↔ s.tracker.windowTrack.lookup k = some w ∧ visible w = true) ∧
      shown.Pairwise (fun x y => s.since x.1 < s.since y.1)

def RaisesTracked (t : Tracker) (x : TrackerEvent) : Prop := ∀ k, raises k x = true → k ∈ t.windowTrack

variable {s : Watched} {x : TrackerEvent} {k : WindowKey} {t : Tracker}

section Listing

variable (asF64 : Int16 → Float64Bits) (processes : Processes)

def shownOf (t : Tracker) : List (WindowKey × TrackedWindow) :=
  t.windowOrder.filterMap fun k => ((t.windowTrack.lookup k).filter visible).map fun w => (k, w)

theorem buildWindowList_eq (t : Tracker) :
    buildWindowList asF64 processes t = (shownOf t).map (fun x => descriptor asF64 processes x.1 x.2) := by
  rw [buildWindowList, shownOf, map_filterMap]
  congr 1
  funext k
  cases t.windowTrack.lookup k with
  | none => rfl
  | some w => by_cases hw : visible w = true <;> simp [hw]

theorem mem_shownOf {k : WindowKey} {w : TrackedWindow} :
    (k, w) ∈ shownOf t ↔ k ∈ t.windowOrder ∧ t.windowTrack.lookup k = some w ∧ visible w = true := by
  simp only [shownOf, mem_filterMap, map_eq_some_iff, filter_eq_some_iff, Prod.mk.injEq]
  constructor
  · rintro ⟨k, hk, w, hw, rfl, rfl⟩
    exact ⟨hk, hw⟩
  · rintro ⟨hk, hw⟩
    exact ⟨k, hk, w, hw, rfl, rfl⟩

theorem pairwise_shownOf {R : WindowKey → WindowKey → Prop} (h : t.windowOrder.Pairwise R) :
    (shownOf t).Pairwise (fun x y => R x.1 y.1) := by
  refine List.Pairwise.filterMap _ (fun k k' hR x hx y hy => ?_) h
  obtain ⟨w, -, rfl⟩ := map_eq_some_iff.mp hx
  obtain ⟨w', -, rfl⟩ := map_eq_some_iff.mp hy
  exact hR

end Listing

section Steps

structure Timed (s : Watched) : Prop where
  nodup : s.tracker.windowOrder.Nodup
  tracked : ∀ k ∈ s.tracker.windowTrack, k ∈ s.tracker.windowOrder
  times : s.tracker.windowOrder.Pairwise (fun k k' => s.since k < s.since k')
  past : ∀ k ∈ s.tracker.windowOrder, s.since k < s.now

theorem mirrors_iff_keys (h : Timed s) : Mirrors s ↔ ∀ k ∈ s.tracker.windowOrder, k ∈ s.tracker.windowTrack := by
  constructor
  · exact fun hmirs k hk => (hmirs.keys k).mp hk
  · intro hkeys
    refine ⟨h.nodup, fun k => ⟨hkeys k, h.tracked k⟩, fun asF64 processes => ?_⟩
    refine ⟨shownOf s.tracker, buildWindowList_eq asF64 processes _, fun k w => ?_, pairwise_shownOf h.times⟩
    rw [mem_shownOf]
    exact and_iff_right_of_imp fun hw => h.tracked k (mem_iff.mpr ⟨w, hw.1⟩)

/-- What an event makes of the order: some windows go, and one may come last. -/
def kept (x : TrackerEvent) (k : WindowKey) : Bool :=
  match x with
  | .displayUpdate sidecarId clientId (.windowDestroyed windowId)
  | .displayUpdate sidecarId clientId (.windowRaised windowId) => k != (sidecarId, clientId, windowId)
  | .clientGone clientId => !(k.2.1 == clientId)
  | .sidecarGone sidecarId => !(k.1 == sidecarId)
  | _ => true

def entered (t : Tracker) : TrackerEvent → Option WindowKey
  | .displayUpdate sidecarId clientId (.windowCreated windowId ..)
  | .displayUpdate sidecarId clientId (.windowMapped windowId ..) =>
    let k := (sidecarId, clientId, windowId)
    if k ∈ t.windowOrder then none else some k
  | .displayUpdate sidecarId clientId (.windowRaised windowId) => some (sidecarId, clientId, windowId)
  | _ => none

def creates (k : WindowKey) : TrackerEvent → Bool
  | .displayUpdate sidecarId clientId (.windowCreated windowId ..)
  | .displayUpdate sidecarId clientId (.windowMapped windowId ..) => (sidecarId, clientId, windowId) == k
  | _ => false

theorem order_next (t : Tracker) (x : TrackerEvent) :
    (t.next x).windowOrder = t.windowOrder.filter (kept x) ++ (entered t x).toList := by
  have hall (x : TrackerEvent) (h : ∀ k, kept x k = true) : t.windowOrder.filter (kept x) = t.windowOrder :=
    filter_eq_self.mpr fun k _ => h k
  cases x with
  | displayUpdate sidecarId clientId update =>
    cases update with
    | windowCreated windowId | windowMapped windowId =>
      rw [hall _ fun _ => rfl, entered]
      dsimp only [Tracker.next, applyWindowLifecycle]
      rw [pushMissing]
      split
      · exact (append_nil _).symm
      · rfl
    | windowDestroyed => exact (append_nil _).symm
    | windowRaised => rfl
    | _ =>
      rw [hall _ fun _ => rfl]
      exact (append_nil _).symm
  | clientGone | sidecarGone => exact (append_nil _).symm

theorem mem_track_next (t : Tracker) (x : TrackerEvent) (k : WindowKey) : k ∈ (t.next x).windowTrack ↔
    (k ∈ t.windowTrack ∧ (kept x k = true ∨ raises k x = true)) ∨ creates k x = true := by
  have hretain (gone : WindowKey → Bool) :
      k ∈ (dropWindows gone t).1.windowTrack ↔ k ∈ t.windowTrack ∧ (!gone k) = true := by
    rw [dropWindows, mem_iff, mem_iff]
    simp only [lookup_retain, filter_eq_some_iff, exists_and_right]
  cases x with
  | displayUpdate sidecarId clientId update =>
    cases update with
    | windowCreated windowId | windowMapped windowId =>
      dsimp only [Tracker.next, applyWindowLifecycle, kept, creates]
      rw [mem_insert, beq_iff_eq, or_comm, eq_comm]
      simp
    | windowUnmapped windowId | windowConfigured windowId =>
      dsimp only [Tracker.next, applyWindowLifecycle, kept, creates]
      rw [mem_modify]
      simp
    | windowDestroyed windowId =>
      dsimp only [Tracker.next, applyWindowLifecycle, kept, creates, raises]
      rw [mem_erase]
      simp [and_comm]
    | windowRaised windowId =>
      dsimp only [Tracker.next, applyWindowLifecycle, kept, creates, raises]
      by_cases hk : k = (sidecarId, clientId, windowId) <;> simp [hk]
    | _ => simp [Tracker.next, applyWindowLifecycle, kept, creates]
  | clientGone clientId | sidecarGone sidecarId =>
    refine (hretain _).trans ?_
    simp [kept, creates, raises]

theorem entered_eq_some_iff : entered t x = some k ↔
    (creates k x = true ∧ k ∉ t.windowOrder) ∨ raises k x = true := by
  cases x with
  | displayUpdate sidecarId clientId update =>
    cases update with
    | windowCreated windowId | windowMapped windowId =>
      dsimp only [entered, creates, raises]
      by_cases heq : (sidecarId, clientId, windowId) = k
      · simp [heq]
      · simp [heq]
    | windowRaised windowId => simp [entered, creates, raises]
    | _ => simp [entered, creates, raises]
  | clientGone clientId | sidecarGone sidecarId => simp [entered, creates, raises]

theorem kept_of_raises (h : raises k x = true) : kept x k = false := by
  cases x with
  | displayUpdate sidecarId clientId update =>
    cases update with
    | windowRaised windowId =>
      rw [raises, beq_iff_eq] at h
      simp [kept, h]
    | _ => cases h
  | _ => cases h

theorem kept_of_creates (h : creates k x = true) : kept x k = true ∧ raises k x = false := by
  cases x with
  | displayUpdate sidecarId clientId update =>
    cases update with
    | windowCreated | windowMapped => exact ⟨rfl, rfl⟩
    | _ => cases h
  | _ => cases h

theorem since_kept (hkeys : ∀ k ∈ s.tracker.windowOrder, k ∈ s.tracker.windowTrack)
    (hk : k ∈ s.tracker.windowOrder.filter (kept x)) : (s.next x).since k = s.since k := by
  obtain ⟨hk, hkept⟩ := mem_filter.mp hk
  refine if_neg fun h => ?_
  cases h with
  | inl hadded => exact hadded.1 (hkeys k hk)
  | inr hraised =>
    rw [kept_of_raises hraised] at hkept
    cases hkept

theorem since_entered (h : Timed s) (hk : entered s.tracker x = some k) : (s.next x).since k = s.now := by
  refine if_pos ?_
  obtain ⟨hcrt, hnew⟩ | hraised := entered_eq_some_iff.mp hk
  · exact .inl ⟨fun htrkd => hnew (h.tracked k htrkd), (mem_track_next _ _ _).mpr (.inr hcrt)⟩
  · exact .inr hraised

theorem Timed.next (h : Timed s) (hkeys : ∀ k ∈ s.tracker.windowOrder, k ∈ s.tracker.windowTrack)
    (x : TrackerEvent) : Timed (s.next x) := by
  have hord : (s.next x).tracker.windowOrder = _ := order_next s.tracker x
  have hpast (k : WindowKey) (hk : k ∈ s.tracker.windowOrder.filter (kept x)) : (s.next x).since k < s.now := by
    rw [since_kept hkeys hk]
    exact h.past k (mem_filter.mp hk).1
  have hfresh (k : WindowKey) (hk : entered s.tracker x = some k) : k ∉ s.tracker.windowOrder.filter (kept x) := by
    intro hmem
    obtain ⟨hmem, hkept⟩ := mem_filter.mp hmem
    obtain ⟨-, hnew⟩ | hraised := entered_eq_some_iff.mp hk
    · exact hnew hmem
    · rw [kept_of_raises hraised] at hkept
      cases hkept
  have hone (R : WindowKey → WindowKey → Prop) : (entered s.tracker x).toList.Pairwise R := by
    cases entered s.tracker x with
    | none => exact List.Pairwise.nil
    | some k => exact pairwise_singleton R k
  refine ⟨?_, fun k hk => ?_, ?_, fun k hk => ?_⟩
  · rw [hord, nodup_append]
    refine ⟨h.nodup.filter _, hone _, fun k hk k' hk' heq => ?_⟩
    exact hfresh k' (mem_toList.mp hk') (heq ▸ hk)
  · rw [hord, mem_append, mem_filter, mem_toList]
    obtain ⟨htrkd, hkept | hraised⟩ | hcrt := (mem_track_next _ _ _).mp hk
    · exact .inl ⟨h.tracked k htrkd, hkept⟩
    · exact .inr (entered_eq_some_iff.mpr (.inr hraised))
    · by_cases hold : k ∈ s.tracker.windowOrder
      · exact .inl ⟨hold, (kept_of_creates hcrt).1⟩
      · exact .inr (entered_eq_some_iff.mpr (.inl ⟨hcrt, hold⟩))
  · rw [hord, pairwise_append]
    refine ⟨?_, hone _, fun k hk k' hk' => ?_⟩
    · refine (h.times.filter _).imp_of_mem fun hk hk' hlt => ?_
      rw [since_kept hkeys hk, since_kept hkeys hk']
      exact hlt
    · rw [since_entered h (mem_toList.mp hk')]
      exact hpast k hk
  · rw [hord, mem_append, mem_toList] at hk
    cases hk with
    | inl hk => exact Nat.lt_succ_of_lt (hpast k hk)
    | inr hk =>
      rw [since_entered h hk]
      exact Nat.lt_succ_self _

theorem keys_next_iff (hkeys : ∀ k ∈ s.tracker.windowOrder, k ∈ s.tracker.windowTrack) (x : TrackerEvent) :
    (∀ k ∈ (s.next x).tracker.windowOrder, k ∈ (s.next x).tracker.windowTrack) ↔ RaisesTracked s.tracker x := by
  have hord : (s.next x).tracker.windowOrder = _ := order_next s.tracker x
  rw [hord]
  constructor
  · intro h k hraised
    have hmem := h k (mem_append_right _ (mem_toList.mpr (entered_eq_some_iff.mpr (.inr hraised))))
    obtain ⟨htrkd, -⟩ | hcrt := (mem_track_next _ _ _).mp hmem
    · exact htrkd
    · rw [(kept_of_creates hcrt).2] at hraised
      cases hraised
  · intro h k hk
    rw [mem_append, mem_filter, mem_toList, entered_eq_some_iff] at hk
    apply (mem_track_next _ _ _).mpr
    obtain ⟨hold, hkept⟩ | ⟨hcrt, -⟩ | hraised := hk
    · exact .inl ⟨hkeys k hold, .inl hkept⟩
    · exact .inr hcrt
    · exact .inl ⟨h k hraised, .inr hraised⟩

end Steps

theorem timed_new : Timed Watched.new := by
  refine ⟨nodup_nil, fun k hk => ?_, List.Pairwise.nil, fun k hk => nomatch hk⟩
  exact absurd hk notMem_empty

/-- The window list mirrors the tracker throughout exactly if no window is raised that
is not tracked. -/
theorem mirrors_iff (events : List TrackerEvent) :
    (∀ before, before <+: events → Mirrors (watch before)) ↔
      ∀ before x, before ++ [x] <+: events → RaisesTracked (watch before).tracker x := by
  refine Runs.foldl_stays_iff (I := Timed) (P := Mirrors) (C := fun s x => RaisesTracked s.tracker x)
    (fun s x h hmirs => ?_) (fun s x h hmirs => ?_)
    timed_new ((mirrors_iff_keys timed_new).mpr fun k hk => nomatch hk) events
  · exact h.next ((mirrors_iff_keys h).mp hmirs) x
  · have hkeys := (mirrors_iff_keys h).mp hmirs
    exact (mirrors_iff_keys (h.next hkeys x)).trans (keys_next_iff hkeys x)

/-- A window is raised before it is made, and so stays under one that was made before it. -/
def raisedEarly : List TrackerEvent :=
  [.displayUpdate "s" "c" (.windowRaised "w"), .displayUpdate "s" "c" (.windowMapped "v" true false),
    .displayUpdate "s" "c" (.windowMapped "w" true false)]

theorem raisedEarly_unmirrored : (¬ ∀ before, before <+: raisedEarly → Mirrors (watch before)) ∧
    (buildWindowList (fun _ => 0) ∅ (watch raisedEarly).tracker).map (·.windowId) = ["w", "v"] := by
  refine ⟨fun h => ?_, by decide +kernel⟩
  have hkeys := (h (raisedEarly.take 1) (List.take_prefix _ _)).keys ("s", "c", "w")
  exact absurd (hkeys.mp (by decide +kernel)) (by decide +kernel)

end X11Web.WindowTracker
