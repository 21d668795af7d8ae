import X11Web.Runs
import X11Web.WaylandRuns

namespace X11Web.FrameCredit

open List

open Protocol (WindowWmState)
open WaylandPixels WaylandWindows WaylandSteps WaylandRuns

def isImageOf (u : Uuid) (x : String × DisplayUpdate) : Bool := x.2.isPutImage && x.2.windowId == some u

def images (u : Uuid) (updates : List (String × DisplayUpdate)) : Nat := updates.countP (isImageOf u)

/-- The compositor and the sidecar's end of its channel. The updates from `received` on are still in the
channel, those from `shipped` on in the queue of the sidecar's writer. -/
structure Link where
  compositor : State
  received : Nat
  shipped : Nat
  sessionStart : Nat

inductive Event
  | compositor (action : Action)
  | receive
  | ship
  | connect
  | disconnect

namespace Link

def new : Link := ⟨.new, 0, 0, 0⟩

/-- The writer returns the credit of an image once it is on the wire. -/
def ship (l : Link) : Link :=
  let l' := { l with shipped := l.shipped + 1 }
  match l.compositor.sent[l.shipped]? with
  | some (_, .putImage u ..) =>
    { l' with compositor := { l.compositor with router := l.compositor.router.frameShipped u } }
  | _ => l'

def setConsuming (on : Bool) (l : Link) : Link :=
  { l with
    compositor := { l.compositor with router := l.compositor.router.setConsuming on }
    sessionStart := l.compositor.sent.length }

/-- A session lasts from one `set_consuming` to the next. What its writer has not shipped by then is lost. -/
def step (l : Link) : Event → Link
  | .compositor action => { l with compositor := WaylandWindows.step l.compositor action }
  | .receive =>
    if l.compositor.router.consuming ∧ l.received < l.compositor.sent.length then
      { l with received := l.received + 1 }
    else l
  | .ship => if l.compositor.router.consuming ∧ l.shipped < l.received then l.ship else l
  | .connect => if l.compositor.router.consuming then l else l.setConsuming true
  | .disconnect =>
    if l.compositor.router.consuming then { l.setConsuming false with shipped := l.received } else l

def run (events : List Event) : Link := events.foldl step new

def start (l : Link) : Nat := max l.shipped l.sessionStart

/-- The images of a window that were emitted in the current session and are not yet shipped. -/
def outstanding (l : Link) (u : Uuid) : Nat := images u (l.compositor.sent.drop l.start)

end Link

def stalled (s : State) (id : ObjectId) : Bool := stalls (observe s).streaming (observe s) id

/-- No window has more images outstanding than it may, and one that has none is not stalled. -/
def CreditExact (l : Link) : Prop :=
  (∀ u, l.outstanding u ≤ WindowRouter.maxFramesInFlight) ∧
    ∀ id e, l.compositor.entries id = some e → l.outstanding e.uuid = 0 → stalled l.compositor id = false

def pendingOf (s : State) (u : Uuid) : Nat := (s.router.pending u).getD 0

/-- An image of an earlier session is shipped only while the compositor counts none of that window, and a
session begins only when a tick has seen the last one end, or when nothing is counted. -/
def Meets (l : Link) : Event → Prop
  | .ship => ∀ u, (l.compositor.sent[l.shipped]?).any (isImageOf u) = true → l.shipped < l.sessionStart →
      l.compositor.streaming = true → pendingOf l.compositor u = 0
  | .connect => l.compositor.streaming = true → ∀ u, pendingOf l.compositor u = 0
  | _ => True

section Silence

/-- No image has been sent, and the credits and flags are the same. -/
structure Silent (s s' : State) : Prop where
  pending : s'.router.pending = s.router.pending
  consuming : s'.router.consuming = s.router.consuming
  streaming : s'.streaming = s.streaming
  sent : ∃ new, s'.sent = s.sent ++ new ∧ ∀ x ∈ new, x.2.isPutImage = false

variable {s s' s'' : State} {id : ObjectId}

theorem Silent.of_eq (hrouter : s'.router = s.router) (hstrm : s'.streaming = s.streaming)
    (hsent : s'.sent = s.sent) : Silent s s' :=
  ⟨by rw [hrouter], by rw [hrouter], hstrm, [], by simp [hsent], by simp⟩

theorem Silent.refl (s : State) : Silent s s := .of_eq rfl rfl rfl

theorem Silent.trans (h : Silent s s') (h' : Silent s' s'') : Silent s s'' := by
  obtain ⟨new, hnew, himgs⟩ := h.sent
  obtain ⟨new', hnew', himgs'⟩ := h'.sent
  refine ⟨h'.pending.trans h.pending, h'.consuming.trans h.consuming, h'.streaming.trans h.streaming, new ++ new',
    by rw [hnew', hnew, append_assoc], fun x hx => ?_⟩
  exact (mem_append.mp hx).elim (himgs x) (himgs' x)

theorem Silent.send (h : Silent s s') (c : String) {x : DisplayUpdate} (hx : x.isPutImage = false) :
    Silent s (s'.send c x) :=
  h.trans ⟨rfl, rfl, rfl, [(c, x)], rfl, by simpa using hx⟩

theorem Silent.setEntry (h : Silent s s') (id : ObjectId) (e : WindowEntry) : Silent s (s'.setEntry id e) :=
  h.trans (.of_eq rfl rfl rfl)

theorem applyFocus_silent (target : Option ObjectId) : Silent s (applyFocus s target) := by
  have hfoc : Silent s { s with focused := target } := .of_eq rfl rfl rfl
  unfold applyFocus
  split
  · exact .refl s
  · dsimp only
    split
    · exact (hfoc.send _ rfl).send _ rfl
    · exact hfoc.send _ rfl

theorem focusWindow_silent : Silent s (focusWindow s id) := by
  unfold focusWindow
  split
  · exact .refl s
  · split
    · exact .refl s
    · exact applyFocus_silent _

theorem emitState_silent (state : WindowWmState) : Silent s (emitState s id state) := by
  unfold emitState
  split
  · exact .refl s
  · split
    · exact .refl s
    · exact ((Silent.refl s).setEntry _ _).send _ rfl

theorem emitMinimized_silent : Silent s (emitMinimized s id) := by
  unfold emitMinimized
  split
  · exact .refl s
  · split
    · exact (Silent.refl s).send _ rfl
    · exact .refl s

theorem emitRestored_silent : Silent s (emitRestored s id) := by
  unfold emitRestored
  split
  · exact .refl s
  · split
    · exact ((Silent.refl s).setEntry _ _).send _ rfl
    · exact .refl s

theorem manage_silent (action : WindowWmState) : Silent s (manage s id action) := by
  unfold manage
  split
  · cases action with
    | close => exact .refl s
    | maximized => exact emitState_silent _
    | fullscreen => exact emitState_silent _
    | minimized => exact emitMinimized_silent.trans (emitState_silent _)
    | normal =>
      dsimp only
      split
      · exact emitRestored_silent.trans (emitState_silent _)
      · exact emitState_silent _
  · exact .refl s

theorem refreshLabel_silent (label : Option String) : Silent s (refreshLabel s id label) := by
  have hlabels : Silent s { s with labels := Function.update s.labels id label } := .of_eq rfl rfl rfl
  unfold refreshLabel
  dsimp only
  split
  · exact hlabels
  · split
    · exact hlabels
    · split
      · exact (hlabels.setEntry _ _).send _ rfl
      · exact hlabels.setEntry _ _

theorem commit_silent (s : State) (id : ObjectId) (buffer : Option BufferAssignment) (damage : List Rect) (tree : SurfaceTree)
    (geometry : Option Rect) : Silent s (commit s id buffer damage tree geometry) := by
  unfold commit
  dsimp only
  split <;> exact .of_eq rfl rfl rfl

theorem addressed_silent (u : Uuid) {f : ObjectId → State} (hf : ∀ id, Silent s (f id)) :
    Silent s (addressed s u f) := by
  obtain heq | ⟨id, -, -, -, -, heq⟩ := addressed_cases (s := s) u f
  · rw [heq]
    exact .refl s
  · rw [heq]
    exact hf id

theorem emitMap_silent (e : WindowEntry) : Silent s (emitMap s e) := by
  have hmpd := (((Silent.refl s).send e.clientId (x := .windowCreated e.uuid e.x e.y e.width e.height
    e.kind.flags.1 e.kind.flags.2) rfl).send e.clientId
    (x := .windowMapped e.uuid e.kind.flags.1 e.kind.flags.2) rfl)
  unfold emitMap
  dsimp only
  split
  · exact hmpd
  · exact hmpd.send _ rfl

theorem updateWindow_silent (e : WindowEntry) (w h : Int) : Silent s (updateWindow s id e w h) := by
  unfold updateWindow
  dsimp only
  split <;> split
  · exact ((Silent.refl s).setEntry _ _).send _ rfl
  · exact (((Silent.refl s).setEntry _ _).send _ rfl).send _ rfl
  · exact (Silent.refl s).setEntry _ _
  · exact ((Silent.refl s).setEntry _ _).send _ rfl

theorem createWindow_silent (e : WindowEntry) (w h : Int) : Silent s (createWindow s id e w h) := by
  unfold createWindow
  generalize WindowEntry.mk .. = entry
  have hmap := ((Silent.refl s).setEntry id entry).trans (emitMap_silent entry)
  have htrack : Silent s { emitMap (s.setEntry id entry) entry with
      router := (emitMap (s.setEntry id entry) entry).router.track entry.uuid } :=
    ⟨hmap.pending, hmap.consuming, hmap.streaming, hmap.sent⟩
  dsimp only
  split
  · exact htrack.trans (applyFocus_silent _)
  · exact htrack

theorem announce_silent (s : State) (id : ObjectId) : Silent s (announce s id).1 := by
  unfold announce
  split
  · exact .refl s
  · split
    · unfold unmapWindow
      split
      · exact ((Silent.refl s).setEntry _ _).send _ rfl
      · exact (Silent.refl s).setEntry _ _
    · split
      · exact .refl s
      · dsimp only
        split
        · exact updateWindow_silent _ _ _
        · exact createWindow_silent _ _ _

def forget (s : State) (id : ObjectId) (e : WindowEntry) : State :=
  { s with entries := Function.update s.entries id none, router := s.router.untrack e.uuid }

theorem applyFocus_entries (target : Option ObjectId) : (applyFocus s target).entries = s.entries := by
  unfold applyFocus
  split
  · rfl
  · dsimp only
    split <;> rfl

theorem destroy_silent {e : WindowEntry} (he : s.entries id = some e) :
    Silent (forget s id e) (destroy s id) ∧ (destroy s id).entries = (forget s id e).entries := by
  unfold destroy
  rw [he]
  dsimp only
  generalize hs₀ : State.mk .. = s₀
  have h₀ : Silent (forget s id e) s₀ ∧ s₀.entries = (forget s id e).entries := by
    rw [← hs₀]
    exact ⟨.of_eq rfl rfl rfl, rfl⟩
  generalize hs₁ : (if e.mapped = true then s₀.send e.clientId (.windowUnmapped e.uuid) else s₀) = s₁
  have h₁ : Silent (forget s id e) s₁ ∧ s₁.entries = (forget s id e).entries := by
    rw [← hs₁]
    split
    · exact ⟨h₀.1.send _ rfl, h₀.2⟩
    · exact h₀
  generalize hs₂ : (if e.created = true then s₁.send e.clientId (.windowDestroyed e.uuid) else s₁) = s₂
  have h₂ : Silent (forget s id e) s₂ ∧ s₂.entries = (forget s id e).entries := by
    rw [← hs₂]
    split
    · exact ⟨h₁.1.send _ rfl, h₁.2⟩
    · exact h₁
  split
  · exact ⟨h₂.1.trans (applyFocus_silent _), (applyFocus_entries _).trans h₂.2⟩
  · exact h₂

/-- The state in which an image of the window has just been sent, and its credit spent. -/
def afterImage (s : State) (e : WindowEntry) (rect : Rect) (data : Image) : State :=
  { s with router := s.router.frameEmitted e.uuid }.send e.clientId
    (.putImage e.uuid (asI16 rect.x) (asI16 rect.y) (asU16 rect.w) (asU16 rect.h) data)

theorem compositeAndEmit_silent (s : State) (id : ObjectId) (consuming : Bool) (geo : Rect) :
    Silent s (compositeAndEmit consuming s id geo) ∨
      consuming = true ∧ ∃ e rect data, s.entries id = some e ∧
        Silent (afterImage s e rect data) (compositeAndEmit consuming s id geo) := by
  cases he : s.entries id with
  | none =>
    simp only [compositeAndEmit, he]
    exact .inl (.refl s)
  | some e =>
    simp only [compositeAndEmit, he]
    split
    · exact .inl (.refl s)
    · generalize List.foldl _ _ _ = canvas
      cases canvas.2.1.take e.width e.height with
      | none => exact .inl (.of_eq rfl rfl rfl)
      | some rect =>
        cases consuming with
        | false => exact .inl (.of_eq rfl rfl rfl)
        | true => exact .inr ⟨rfl, e, rect, forceOpaque (cropRgba canvas.2.2 rect), rfl, .of_eq rfl rfl rfl⟩

theorem observe_flags : (observe s).streaming = s.router.consuming ∧ (observe s).router.consuming = s.router.consuming := by
  unfold WaylandWindows.observe
  split
  · next hsame => exact ⟨hsame.symm, rfl⟩
  · dsimp only
    split <;> exact ⟨rfl, rfl⟩

def Calm : Action → Prop
  | .tick | .destroyed _ | .destroyedSurface .. => False
  | _ => True

theorem step_silent {a : Action} (ha : Calm a) : Silent s (step s a) := by
  cases a with
  | newToplevel i clientId =>
    rw [step]
    split
    · exact .refl s
    · exact .of_eq rfl rfl rfl
  | newPopup i clientId x y =>
    rw [step]
    split
    · exact .refl s
    · exact .of_eq rfl rfl rfl
  | repositionRequest i x y =>
    rw [step, repositionRequest]
    split
    · exact .refl s
    · exact .of_eq rfl rfl rfl
  | commit i buffer damage tree geometry => exact commit_silent s i buffer damage tree geometry
  | destroyedSubsurface i tree => exact .of_eq rfl rfl rfl
  | request i request => exact emitState_silent _
  | label i label => exact refreshLabel_silent label
  | manage u action => exact addressed_silent u fun id => manage_silent action
  | focus u => exact addressed_silent u fun id => focusWindow_silent
  | tick | destroyed | destroyedSurface => exact ha.elim

theorem destroy_consuming : (destroy s id).router.consuming = s.router.consuming := by
  cases he : s.entries id with
  | none => rw [destroy, he]
  | some e => exact (destroy_silent he).1.consuming

theorem tickWindow_consuming (consuming : Bool) :
    (tickWindow consuming s id).router.consuming = s.router.consuming := by
  have hann := (announce_silent s id).consuming
  unfold tickWindow
  cases hpntd : announce s id with
  | mk s' painted =>
    rw [hpntd] at hann
    cases painted with
    | none => exact hann
    | some p =>
      dsimp only
      split
      · exact hann
      · obtain hsil | ⟨-, e, rect, data, -, hsil⟩ := compositeAndEmit_silent s' id consuming p.1
        · exact hsil.consuming.trans hann
        · exact hsil.consuming.trans hann

theorem step_consuming (s : State) (a : Action) : (step s a).router.consuming = s.router.consuming := by
  by_cases ha : Calm a
  · exact (step_silent ha).consuming
  · cases a with
    | tick =>
      refine List.foldlRecOn (motive := fun s' : State => s'.router.consuming = s.router.consuming) _ _
        observe_flags.2 fun s' hs' i _ => ?_
      exact (tickWindow_consuming _).trans hs'
    | destroyed i => exact destroy_consuming
    | destroyedSurface i tree => exact destroy_consuming
    | _ => exact absurd trivial ha

end Silence

section Counting

variable {u : Uuid} {updates updates' : List (String × DisplayUpdate)}

theorem images_append : images u (updates ++ updates') = images u updates + images u updates' := countP_append

theorem images_eq_zero (h : ∀ x ∈ updates, x.2.isPutImage = false) : images u updates = 0 := by
  refine countP_eq_zero.mpr fun x hx => ?_
  simp [isImageOf, h x hx]

theorem images_historyOf : images u (historyOf u updates) = images u updates := by
  rw [images, historyOf, countP_filter]
  refine countP_congr fun x _ => ?_
  simp [isImageOf]

theorem images_drop_le (u : Uuid) (updates : List (String × DisplayUpdate)) (n : Nat) : images u (updates.drop n) ≤ images u updates :=
  List.Sublist.countP_le (drop_sublist n updates)

theorem images_putImage (c : String) (u' : Uuid) (x y w h : Int) (data : Image) :
    images u [(c, .putImage u' x y w h data)] = if u = u' then 1 else 0 := by
  by_cases hu : u = u'
  · simp [images, isImageOf, DisplayUpdate.isPutImage, DisplayUpdate.windowId, hu]
  · simp [images, isImageOf, DisplayUpdate.isPutImage, DisplayUpdate.windowId, hu, Ne.symm hu]

end Counting

def PaintedLater (e : WindowEntry) (H : List (String × DisplayUpdate)) : Prop :=
  (e.mapped = true → e.created = true) ∧ (e.created = false → ∀ u, images u H = 0)

theorem images_tagged_eq_zero {u : Uuid} (e : WindowEntry) {us : List DisplayUpdate} (h : ∀ x ∈ us, x.isPutImage = false) :
    images u (tagged e us) = 0 := by
  refine images_eq_zero fun x hx => ?_
  obtain ⟨y, hy, rfl⟩ := mem_map.mp hx
  exact h y hy

theorem not_isPutImage_of_quiet {x : DisplayUpdate} (h : Quiet x) : x.isPutImage = false := by
  cases x <;> first | rfl | exact h.elim

theorem rules_paintedLater : Rules PaintedLater fun _ => True where
  alike := by
    intro e e' us H halike hqt ⟨hmpd, himgs⟩
    refine ⟨by rwa [halike.mapped, halike.created], fun hc u => ?_⟩
    rw [images_append, himgs (halike.created ▸ hc) u,
      images_tagged_eq_zero e fun x hx => not_isPutImage_of_quiet (hqt x hx)]
  restored := by
    intro e H hm ⟨hmpd, himgs⟩
    exact ⟨hmpd, fun hc => absurd ((hmpd hm).symm.trans hc) (by decide)⟩
  destroyed := fun _ _ _ => trivial
  announced := by
    intro geo e e' us H ha ⟨hmpd, himgs⟩
    cases ha with
    | settled hm => exact ⟨hmpd, fun hc u => by simpa [tagged] using himgs hc u⟩
    | unmapped fb hp hm => exact ⟨by simp, fun hc => absurd ((hmpd hm).symm.trans hc) (by decide)⟩
    | created => exact ⟨fun _ => rfl, by simp⟩
    | remapped fb damage hcrt hm => exact ⟨fun _ => hcrt, fun hc => absurd (hcrt.symm.trans hc) (by decide)⟩
    | stayed fb damage hcrt hm => exact ⟨fun _ => hcrt, fun hc => absurd (hcrt.symm.trans hc) (by decide)⟩
  painted := by
    intro consuming e e' us H hm hpnts ⟨hmpd, himgs⟩
    cases hpnts <;> exact ⟨hmpd, fun hc => absurd ((hmpd hm).symm.trans hc) (by decide)⟩

/-- While the compositor streams to a session, it counts for each window what was sent from `start` on, and
else nothing was. -/
structure Credited (start : Nat) (s : State) : Prop where
  length : start ≤ s.sent.length
  bounded : ∀ u, images u (s.sent.drop start) ≤ WindowRouter.maxFramesInFlight
  counted : s.streaming = true → s.router.consuming = true → ∀ id e, s.entries id = some e →
    pendingOf s e.uuid = images e.uuid (s.sent.drop start)
  idle : ¬(s.streaming = true ∧ s.router.consuming = true) → ∀ u, images u (s.sent.drop start) = 0
  paid : ∀ u, pendingOf s u ≤ images u s.sent

section Compositor

variable {start : Nat} {s s' : State} {id : ObjectId} {e : WindowEntry}

theorem Silent.images_drop (hs : Silent s s') (hlen : start ≤ s.sent.length) (u : Uuid) :
    images u (s'.sent.drop start) = images u (s.sent.drop start) := by
  obtain ⟨new, hnew, himgs⟩ := hs.sent
  rw [hnew, drop_append_of_le_length hlen, images_append, images_eq_zero himgs, Nat.add_zero]

theorem images_unminted {I : WindowEntry → List (String × DisplayUpdate) → Prop}
    {J : List (String × DisplayUpdate) → Prop} (h : Holds 0 I J s) {u : Uuid} (hu : s.minted ≤ u) :
    images u s.sent = 0 := by
  rw [← images_historyOf, ← drop_zero (l := s.sent), h.unminted u hu]
  rfl

theorem Credited.silent (h : Credited start s) (hs : Silent s s') (hdescends : Descends s s')
    (hunminted : ∀ u, s.minted ≤ u → images u s.sent = 0) : Credited start s' := by
  have hdrop := hs.images_drop h.length
  have hpend : ∀ u, pendingOf s' u = pendingOf s u := fun u => by rw [pendingOf, hs.pending, pendingOf]
  obtain ⟨new, hnew, himgs⟩ := hs.sent
  refine ⟨?_, fun u => hdrop u ▸ h.bounded u, fun hstrm hcons i e' he' => ?_, fun hidle u => ?_, fun u => ?_⟩
  · rw [hnew, length_append]
    exact Nat.le_add_right_of_le h.length
  · rw [hdrop, hpend]
    obtain ⟨i₀, e₀, he₀, hu⟩ | hfresh := hdescends i e' he'
    · rw [← hu]
      exact h.counted (hs.streaming ▸ hstrm) (hs.consuming ▸ hcons) i₀ e₀ he₀
    · have hzero := hunminted e'.uuid hfresh
      have hdropped := images_drop_le e'.uuid s.sent start
      have hpaid := h.paid e'.uuid
      omega
  · rw [hdrop]
    rw [hs.streaming, hs.consuming] at hidle
    exact h.idle hidle u
  · rw [hpend, hnew, images_append]
    exact Nat.le_add_right_of_le (h.paid u)

theorem Credited.forget (h : Credited start s) (hreg : Registry s) (he : s.entries id = some e) :
    Credited start (forget s id e) := by
  refine ⟨h.length, h.bounded, fun hstrm hcons i e' he' => ?_, h.idle, fun u => ?_⟩
  · have hi : i ≠ id := by
      rintro rfl
      simp [FrameCredit.forget] at he'
    have he'' : s.entries i = some e' := by simpa [FrameCredit.forget, Function.update_of_ne hi] using he'
    have hu : e'.uuid ≠ e.uuid := fun heq => hi (hreg.distinct i id e' e he'' he heq)
    have hsame : pendingOf (FrameCredit.forget s id e) e'.uuid = pendingOf s e'.uuid := by
      simp [pendingOf, FrameCredit.forget, WindowRouter.untrack, Function.update_of_ne hu]
    rw [hsame]
    exact h.counted hstrm hcons i e' he''
  · by_cases hu : u = e.uuid
    · simp [pendingOf, FrameCredit.forget, WindowRouter.untrack, hu]
    · simpa [pendingOf, FrameCredit.forget, WindowRouter.untrack, Function.update_of_ne hu] using h.paid u

theorem Credited.destroy (h : Credited start s) (hholds : Holds 0 PaintedLater (fun _ => True) s) :
    Credited start (destroy s id) := by
  cases he : s.entries id with
  | none =>
    have hsame : WaylandWindows.destroy s id = s := by rw [WaylandWindows.destroy, he]
    rwa [hsame]
  | some e =>
    refine (h.forget hholds.toRegistry he).silent (destroy_silent he).1 ?_ fun u hu => images_unminted hholds hu
    intro i e' he'
    rw [(destroy_silent he).2] at he'
    exact .inl ⟨i, e', he', rfl⟩

theorem Credited.afterImage (h : Credited start s) (hstrm : s.streaming = true)
    (hcons : s.router.consuming = true) (he : s.entries id = some e)
    (hroom : pendingOf s e.uuid < WindowRouter.maxFramesInFlight) (rect : Rect) (data : Image) :
    Credited start (afterImage s e rect data) := by
  have hsent : ∀ u, images u ((FrameCredit.afterImage s e rect data).sent.drop start) =
      images u (s.sent.drop start) + if u = e.uuid then 1 else 0 := by
    intro u
    rw [FrameCredit.afterImage, State.send, drop_append_of_le_length h.length, images_append, images_putImage]
  have hpend : ∀ u, pendingOf (FrameCredit.afterImage s e rect data) u =
      pendingOf s u + if u = e.uuid then 1 else 0 := by
    intro u
    by_cases hu : u = e.uuid
    · simp [pendingOf, FrameCredit.afterImage, State.send, WindowRouter.frameEmitted, hu]
    · simp [pendingOf, FrameCredit.afterImage, State.send, WindowRouter.frameEmitted, hu]
  refine ⟨?_, fun u => ?_, fun _ _ i e' he' => ?_, fun hidle => absurd ⟨hstrm, hcons⟩ hidle, fun u => ?_⟩
  · rw [FrameCredit.afterImage, State.send, length_append]
    exact Nat.le_add_right_of_le h.length
  · rw [hsent]
    by_cases hu : u = e.uuid
    · rw [if_pos hu, hu, ← h.counted hstrm hcons id e he]
      exact hroom
    · rw [if_neg hu]
      exact h.bounded u
  · rw [hsent, hpend, h.counted hstrm hcons i e' he']
  · have himgs : images u (FrameCredit.afterImage s e rect data).sent =
        images u s.sent + if u = e.uuid then 1 else 0 := by
      rw [FrameCredit.afterImage, State.send, images_append, images_putImage]
    rw [hpend, himgs]
    exact Nat.add_le_add_right (h.paid u) _

/-- A tick that sees the flag changed forgets the credits, and nothing of the new session has been sent. -/
theorem Credited.observe (h : Credited start s) : Credited start (observe s) := by
  unfold WaylandWindows.observe
  split
  · exact h
  · next hchgd =>
    have hzero : ∀ u, images u (s.sent.drop start) = 0 := by
      refine h.idle fun ⟨hstrm, hcons⟩ => hchgd ?_
      rw [hstrm, hcons]
    have hcleared : ∀ entries, Credited start { s with
        streaming := s.router.consuming, router := s.router.clearPending, entries := entries } := by
      intro entries
      refine ⟨h.length, h.bounded, fun _ _ i e' _ => ?_, fun _ => hzero, fun u => Nat.zero_le _⟩
      rw [hzero]
      rfl
    dsimp only
    split <;> exact hcleared _

theorem created_of_announce {geo : Rect} (h : (announce s id).2 = some (geo, true)) :
    ∃ e, s.entries id = some e ∧ e.created = false := by
  cases he : s.entries id with
  | none => simp [announce, he] at h
  | some e =>
    refine ⟨e, rfl, ?_⟩
    simp only [announce, he] at h
    split at h
    · cases h
    · split at h
      · cases h
      · split at h
        · simp at h
        · next hc => simpa using hc

theorem Credited.compositeAndEmit (h : Credited start s) (id : ObjectId) (hholds : Holds 0 PaintedLater (fun _ => True) s)
    {consuming : Bool} (hstrm : s.streaming = consuming) (hcons : s.router.consuming = consuming)
    (hroom : consuming = true → ∀ e, s.entries id = some e → pendingOf s e.uuid < WindowRouter.maxFramesInFlight)
    (geo : Rect) :
    Credited start (compositeAndEmit consuming s id geo) ∧
      (compositeAndEmit consuming s id geo).streaming = s.streaming ∧
      (compositeAndEmit consuming s id geo).router.consuming = s.router.consuming := by
  have hdescends := descends_of_affects (compositeAndEmit_affects s id consuming geo)
  obtain hsil | ⟨hc, e, rect, data, he, hsil⟩ := compositeAndEmit_silent s id consuming geo
  · exact ⟨h.silent hsil hdescends fun u hu => images_unminted hholds hu, hsil.streaming, hsil.consuming⟩
  · have hsent := h.afterImage (hstrm.trans hc) (hcons.trans hc) he (hroom hc e he) rect data
    refine ⟨hsent.silent hsil hdescends fun u hu => ?_, hsil.streaming, hsil.consuming⟩
    have hne : u ≠ e.uuid := Nat.ne_of_gt (Nat.lt_of_lt_of_le (hholds.minted id e he) hu)
    rw [FrameCredit.afterImage, State.send, images_append, images_putImage, if_neg hne]
    exact images_unminted hholds hu

theorem room_of_announce (h : Credited start s) (hholds : Holds 0 PaintedLater (fun _ => True) s) {geo : Rect}
    {created : Bool} (hannounce : announce s id = (s', some (geo, created)))
    (hcred : ¬(!created && stalls true s' id) = true) (he : s'.entries id = some e) :
    pendingOf s' e.uuid < WindowRouter.maxFramesInFlight := by
  cases created with
  | false =>
    have hmay : s'.router.mayEmit e.uuid = true := by simpa [stalls, he] using hcred
    simpa [WindowRouter.mayEmit, pendingOf] using hmay
  | true =>
    have hnew : (announce s id).2 = some (geo, true) := by rw [hannounce]
    obtain ⟨e₀, he₀, hc⟩ := created_of_announce hnew
    obtain ⟨_, -, haffects, -⟩ := announce_affects s id
    have hsil := announce_silent s id
    rw [hannounce] at haffects hsil
    have hu : e.uuid = e₀.uuid := by
      obtain hun | ⟨e₁, e', us, ht, -⟩ := haffects
      · rw [hun.entries, he₀] at he
        exact congrArg _ (Option.some.inj he).symm
      · obtain rfl : e₀ = e₁ := Option.some.inj (he₀.symm.trans ht.entry)
        exact (ht.same e (ht.entries_self.symm.trans he)).1
    have himgs : images e₀.uuid s.sent = 0 := by
      rw [← images_historyOf]
      exact (hholds.present id e₀ he₀).2 hc e₀.uuid
    have hpaid := h.paid e₀.uuid
    rw [pendingOf, hsil.pending, hu, ← pendingOf]
    exact Nat.lt_of_le_of_lt (himgs ▸ hpaid) (by decide)

theorem Credited.tickWindow (h : Credited start s) (id : ObjectId) (hholds : Holds 0 PaintedLater (fun _ => True) s)
    {consuming : Bool} (hstrm : s.streaming = consuming) (hcons : s.router.consuming = consuming) :
    Credited start (tickWindow consuming s id) ∧ (tickWindow consuming s id).streaming = s.streaming ∧
      (tickWindow consuming s id).router.consuming = s.router.consuming := by
  obtain ⟨geo, -, haffects, -⟩ := announce_affects s id
  have hsil := announce_silent s id
  have hann := h.silent hsil (descends_of_affects haffects) fun u hu => images_unminted hholds hu
  have hholds' := hholds.affects haffects fun e e' us H _ _ ha hI => rules_paintedLater.announced geo e e' us H ha hI
  unfold WaylandWindows.tickWindow
  cases hpntd : announce s id with
  | mk s' painted =>
    rw [hpntd] at hann hsil hholds'
    have hdone : Credited start s' ∧ s'.streaming = s.streaming ∧ s'.router.consuming = s.router.consuming :=
      ⟨hann, hsil.streaming, hsil.consuming⟩
    cases painted with
    | none => exact hdone
    | some p =>
      dsimp only
      split
      · exact hdone
      · next hcred =>
        obtain ⟨hpnt, hs, hc⟩ := hann.compositeAndEmit id hholds' (hsil.streaming.trans hstrm)
          (hsil.consuming.trans hcons)
          (fun htrue e he => room_of_announce h hholds hpntd (htrue ▸ hcred) he) p.1
        exact ⟨hpnt, hs.trans hsil.streaming, hc.trans hsil.consuming⟩

theorem Credited.tick (h : Credited start s) (hholds : Holds 0 PaintedLater (fun _ => True) s) :
    Credited start (tick s) ∧ Holds 0 PaintedLater (fun _ => True) (tick s) := by
  suffices hall : (Credited start (WaylandWindows.tick s) ∧
      Holds 0 PaintedLater (fun _ => True) (WaylandWindows.tick s)) ∧
      (WaylandWindows.tick s).streaming = s.router.consuming ∧
      (WaylandWindows.tick s).router.consuming = s.router.consuming from hall.1
  unfold WaylandWindows.tick
  dsimp only
  rw [observe_flags.1]
  refine List.foldlRecOn (motive := fun s' => (Credited start s' ∧ Holds 0 PaintedLater (fun _ => True) s') ∧
    s'.streaming = s.router.consuming ∧ s'.router.consuming = s.router.consuming) _ _
    ⟨⟨h.observe, hholds.observe rules_paintedLater.damaged⟩, observe_flags⟩ fun s' hs' i _ => ?_
  obtain ⟨⟨hcredited, hholds'⟩, hstrm, hcons⟩ := hs'
  obtain ⟨hnext, hs, hc⟩ := hcredited.tickWindow i hholds' hstrm hcons
  exact ⟨⟨hnext, rules_paintedLater.tickWindow hholds' _⟩, hs.trans hstrm, hc.trans hcons⟩

theorem holds_step (hholds : Holds 0 PaintedLater (fun _ => True) s) (a : Action) :
    Holds 0 PaintedLater (fun _ => True) (step s a) := by
  refine rules_paintedLater.step hholds a (fun _ _ _ _ => ⟨by simp [WindowEntry.new], fun _ _ => rfl⟩) ?_
  intro u _ i _ e he hu hm hI
  exact ⟨hI.1, fun hc => absurd ((hI.1 hm).symm.trans hc) (by decide)⟩

theorem Credited.step (h : Credited start s) (hholds : Holds 0 PaintedLater (fun _ => True) s) (a : Action) :
    Credited start (step s a) := by
  by_cases ha : Calm a
  · exact h.silent (step_silent ha) (step_descends hholds.toRegistry a) fun u hu => images_unminted hholds hu
  · cases a with
    | tick => exact (h.tick hholds).1
    | destroyed i => exact h.destroy hholds
    | destroyedSurface i tree =>
      refine Credited.destroy ?_ (hholds.congr rfl rfl rfl rfl)
      exact ⟨h.length, h.bounded, h.counted, h.idle, h.paid⟩
    | _ => exact absurd trivial ha

end Compositor

namespace Link

/-- What holds of the link as long as its events meet their conditions. -/
structure Sound (l : Link) : Prop where
  windows : Holds 0 PaintedLater (fun _ => True) l.compositor
  credited : Credited l.start l.compositor
  shipped : l.shipped ≤ l.received
  received : l.received ≤ l.compositor.sent.length

variable {l : Link}

/-- Shipping an update returns the credit of an image, and changes nothing else of the compositor. -/
theorem ship_eq {x : String × DisplayUpdate} (hx : l.compositor.sent[l.shipped]? = some x) :
    ∃ router : WindowRouter,
      l.ship = { l with shipped := l.shipped + 1, compositor := { l.compositor with router := router } } ∧
      router.live = l.compositor.router.live ∧ router.consuming = l.compositor.router.consuming ∧
      ∀ u, (router.pending u).getD 0 = pendingOf l.compositor u - images u [x] := by
  obtain ⟨c, update⟩ := x
  unfold Link.ship
  rw [hx]
  cases update with
  | putImage u' =>
    refine ⟨_, rfl, rfl, rfl, fun u => ?_⟩
    rw [images_putImage]
    by_cases hu : u = u'
    · rw [if_pos hu, hu]
      cases hpend : l.compositor.router.pending u' <;> simp [WindowRouter.frameShipped, pendingOf, hpend]
    · simp [WindowRouter.frameShipped, pendingOf, hu]
  | _ => exact ⟨l.compositor.router, rfl, rfl, rfl, fun u => rfl⟩

/-- An image of this session that is shipped is one less in both counts. An older one is in neither. -/
theorem Sound.ship (h : Sound l) (hmts : Meets l .ship) (hshipped : l.shipped < l.received) : Sound l.ship := by
  have hlen := Nat.lt_of_lt_of_le hshipped h.received
  obtain ⟨x, hx⟩ : ∃ x, l.compositor.sent[l.shipped]? = some x := ⟨_, List.getElem?_eq_getElem hlen⟩
  obtain ⟨router, heq, hlive, hcons, hpend⟩ := ship_eq hx
  rw [heq]
  refine ⟨h.windows.congr rfl rfl hlive rfl, ?_, hshipped, h.received⟩
  have hpaid : ∀ u, (router.pending u).getD 0 ≤ images u l.compositor.sent := fun u =>
    (hpend u).trans_le ((Nat.sub_le _ _).trans (h.credited.paid u))
  by_cases hold : l.shipped < l.sessionStart
  · have hst : max (l.shipped + 1) l.sessionStart = l.start := by
      rw [Link.start]
      omega
    change Credited (max (l.shipped + 1) l.sessionStart) _
    rw [hst]
    refine ⟨h.credited.length, h.credited.bounded, fun hstrm hc i e he => ?_, fun hidle => ?_, hpaid⟩
    · refine Eq.trans ?_ (h.credited.counted hstrm (hcons ▸ hc) i e he)
      change (router.pending e.uuid).getD 0 = _
      rw [hpend]
      by_cases himg : isImageOf e.uuid x = true
      · rw [hmts e.uuid (by rw [hx]; exact himg) hold hstrm, Nat.zero_sub]
      · rw [images, countP_singleton, if_neg himg, Nat.sub_zero]
    · exact h.credited.idle fun ⟨hstrm, hc⟩ => hidle ⟨hstrm, hcons.trans hc⟩
  · have hst : l.start = l.shipped := Nat.max_eq_left (Nat.le_of_not_lt hold)
    have hst' : max (l.shipped + 1) l.sessionStart = l.shipped + 1 := by omega
    change Credited (max (l.shipped + 1) l.sessionStart) _
    rw [hst']
    have hdrop : ∀ u, images u (l.compositor.sent.drop l.shipped) =
        images u [x] + images u (l.compositor.sent.drop (l.shipped + 1)) := by
      intro u
      rw [drop_eq_getElem_cons hlen, ← images_append, singleton_append]
      rw [List.getElem?_eq_getElem hlen] at hx
      rw [Option.some.inj hx]
    have hcredited := hst ▸ h.credited
    refine ⟨hlen, fun u => ?_, fun hstrm hc i e he => ?_, fun hidle u => ?_, hpaid⟩
    · exact Nat.le_trans (Nat.le_add_left _ _) ((hdrop u).symm.trans_le (hcredited.bounded u))
    · have hctd := hcredited.counted hstrm (hcons ▸ hc) i e he
      change (router.pending e.uuid).getD 0 = images e.uuid (l.compositor.sent.drop (l.shipped + 1))
      rw [hpend, hctd, hdrop, Nat.add_sub_cancel_left]
    · have hzero := hcredited.idle (fun ⟨hstrm, hc⟩ => hidle ⟨hstrm, hcons.trans hc⟩) u
      rw [hdrop] at hzero
      exact Nat.eq_zero_of_add_eq_zero_left hzero

theorem Sound.setConsuming (h : Sound l) (on : Bool) (shipped : Nat) (hshipped : shipped ≤ l.received)
    (hclear : on = true → l.compositor.streaming = true → ∀ u, pendingOf l.compositor u = 0) :
    Sound { l.setConsuming on with shipped := shipped } := by
  have hst : Link.start { l.setConsuming on with shipped := shipped } = l.compositor.sent.length :=
    Nat.max_eq_right (hshipped.trans h.received)
  have hzero : ∀ u, images u (l.compositor.sent.drop l.compositor.sent.length) = 0 := fun u => by
    rw [drop_length]
    rfl
  refine ⟨h.windows.congr rfl rfl rfl rfl, ?_, hshipped, h.received⟩
  rw [hst]
  refine ⟨Nat.le_refl _, fun u => ?_, fun hstrm hcons i e he => ?_, fun _ u => hzero u, h.credited.paid⟩
  · exact (hzero u).trans_le (Nat.zero_le _)
  · exact (hclear hcons hstrm e.uuid).trans (hzero e.uuid).symm

theorem Sound.step (h : Sound l) (event : Event) (hmts : Meets l event) : Sound (l.step event) := by
  cases event with
  | compositor a =>
    have hlen := (step_sent l.compositor a).length_le
    exact ⟨holds_step h.windows a, h.credited.step h.windows a, h.shipped, h.received.trans hlen⟩
  | receive =>
    rw [Link.step]
    split
    · next hreceive => exact ⟨h.windows, h.credited, Nat.le_succ_of_le h.shipped, hreceive.2⟩
    · exact h
  | ship =>
    rw [Link.step]
    split
    · next hship => exact h.ship hmts hship.2
    · exact h
  | connect =>
    rw [Link.step]
    split
    · exact h
    · exact h.setConsuming true l.shipped h.shipped fun _ hstrm => hmts hstrm
  | disconnect =>
    rw [Link.step]
    split
    · exact h.setConsuming false l.received (Nat.le_refl _) (by simp)
    · exact h

theorem observe_entries {s : State} {id : ObjectId} {e' : WindowEntry} (h : (observe s).entries id = some e') :
    ∃ e, s.entries id = some e ∧ e'.uuid = e.uuid := by
  unfold observe at h
  split at h
  · exact ⟨e', h, rfl⟩
  · dsimp only at h
    split at h
    · obtain ⟨e, he, rfl⟩ := Option.map_eq_some_iff.mp h
      exact ⟨e, he, rfl⟩
    · exact ⟨e', h, rfl⟩

theorem Sound.creditExact (h : Sound l) : CreditExact l := by
  refine ⟨h.credited.bounded, fun id e he hzero => ?_⟩
  have hobs := h.credited.observe
  unfold stalled stalls
  cases hstrm : (observe l.compositor).streaming with
  | false => rfl
  | true =>
    cases he' : (observe l.compositor).entries id with
    | none => rfl
    | some e' =>
      obtain ⟨e₀, he₀, hu⟩ := observe_entries he'
      obtain rfl : e = e₀ := Option.some.inj (he.symm.trans he₀)
      have hcons : (observe l.compositor).router.consuming = true := by
        rw [observe_flags.2, ← observe_flags.1, hstrm]
      have hctd := hobs.counted hstrm hcons id e' he'
      rw [observe_sent, hu] at hctd
      have hpend : pendingOf (observe l.compositor) e.uuid = 0 := hctd.trans hzero
      rw [pendingOf] at hpend
      simp [WindowRouter.mayEmit, hu, hpend, WindowRouter.maxFramesInFlight]

theorem sound_new : Sound new := by
  refine ⟨holds_new _ _, ?_, Nat.le_refl _, Nat.le_refl _⟩
  exact ⟨Nat.le_refl _, fun _ => Nat.zero_le _, by simp [new, State.new], fun _ _ => rfl, fun _ => Nat.zero_le _⟩

/-- As long as no image of an earlier session is shipped while it would count, and no session follows the last
one unnoticed, the credits are exact. -/
theorem run_creditExact (events : List Event)
    (hmts : ∀ before event, before ++ [event] <+: events → Meets (run before) event) :
    ∀ before, before <+: events → CreditExact (run before) := by
  intro before hbef
  refine Sound.creditExact ?_
  induction before using List.reverseRecOn with
  | nil => exact sound_new
  | append_singleton before event ih =>
    rw [run, foldl_concat]
    exact Sound.step (ih ((prefix_append before [event]).trans hbef)) event (hmts before event hbef)

def frame : Event :=
  .compositor (.commit 0 (some (.newBuffer (fun _ _ => opaqueBlack) 2 2)) [⟨0, 0, 2, 2⟩] (.node 0 0 0 [] []) none)

def tick : Event := .compositor .tick

def firstFrame : List Event :=
  [.compositor (.newToplevel 0 "client"), .connect, frame, tick, .receive, .receive, .receive, .receive, .receive,
    .ship, .ship, .ship, .ship, .ship]

theorem run_creditExact_firstFrame : CreditExact (run firstFrame) := by
  have hship : ∀ before, (run before).sessionStart = 0 → Meets (run before) .ship :=
    fun before hzero u _ hold => absurd (hzero ▸ hold) (Nat.not_lt_zero _)
  refine run_creditExact firstFrame ?_ firstFrame prefix_rfl
  simp only [firstFrame, Runs.forall_prefix_cons]
  refine ⟨trivial, fun hstrm => ?_, trivial, trivial, trivial, trivial, trivial, trivial, trivial, hship _ ?_,
    hship _ ?_, hship _ ?_, hship _ ?_, hship _ ?_, Runs.forall_prefix_nil⟩
  · exact absurd hstrm (by decide)
  all_goals decide +kernel

/-- The two frames of a session are with the writer when it breaks, and the next session is there before a
tick. -/
def unnoticed : List Event :=
  [.compositor (.newToplevel 0 "client"), .connect, frame, tick, frame, tick, .receive, .receive, .receive, .receive,
    .receive, .receive, .disconnect, .connect]

/-- The two frames of a session are still in the channel when it breaks, and are shipped in the next one. -/
def leftover : List Event :=
  [.compositor (.newToplevel 0 "client"), .connect, frame, tick, frame, tick, .disconnect, tick, .connect, frame, tick,
    frame, tick, .receive, .receive, .receive, .receive, .receive, .receive, .ship, .ship, .ship, .ship, .ship, .ship,
    frame, tick]

theorem not_creditExact_unnoticed_leftover : ¬CreditExact (run unnoticed) ∧ ¬CreditExact (run leftover) := by
  constructor
  · intro h
    have hent : ((run unnoticed).compositor.entries 0).map (·.uuid) = some 0 := by decide +kernel
    obtain ⟨e, he, hu⟩ := Option.map_eq_some_iff.mp hent
    have hnone : (run unnoticed).outstanding 0 = 0 := by decide +kernel
    have hstalled : stalled (run unnoticed).compositor 0 = true := by decide +kernel
    have hfree := h.2 0 e he (hu ▸ hnone)
    exact absurd (hstalled.symm.trans hfree) (by decide)
  · intro h
    have hthree : (run leftover).outstanding 0 = 3 := by decide +kernel
    exact absurd (hthree ▸ h.1 0) (by decide)

end Link

end X11Web.FrameCredit
