import X11Web.ClientRenderer
import X11Web.Runs
import X11Web.SyncWindows

namespace X11Web.PixelReplay

open HashMaps Windows SyncWindows Runs Layers List Option Function
open ClientRenderer

abbrev PixelBuffers := HashMap ClientId (HashMap WindowId PutImage)

/-- The path of the images to two frontends, one connected from the start and
one whose media channel opens later. The images are logged by what the late one
gets of them: nothing, a copy of the live one, or the one in the buffer. An image
that is in the buffer but not yet handed on is being dispatched. -/
structure PixelState where
  pixelBuffers : PixelBuffers
  dispatching : WindowId → Option PutImage
  dcOpen : Bool
  replayDone : Bool
  missed : List PutImage
  live : List PutImage
  replayed : List PutImage
  liveAfter : List PutImage

def PixelState.new : PixelState where
  pixelBuffers := ∅
  dispatching := fun _ => none
  dcOpen := false
  replayDone := false
  missed := []
  live := []
  replayed := []
  liveAfter := []

def early (s : PixelState) : List PutImage := s.missed ++ s.live ++ s.liveAfter

def late (s : PixelState) : List PutImage := s.live ++ s.replayed ++ s.liveAfter

section Owner

variable (owner : WindowId → ClientId)

def bufferPutImage (u : PutImage) (m : PixelBuffers) : PixelBuffers :=
  m.insert (owner u.windowId) (((m.lookup (owner u.windowId)).getD ∅).insert u.windowId u)

/-- The buffered images, in the iteration orders of the two levels of maps. -/
def replayFrames (clients : List ClientId) (windows : ClientId → List WindowId) (m : PixelBuffers) :
    List PutImage :=
  clients.flatMap (fun c => (windows c).flatMap (fun w =>
    ((m.lookup c).bind (fun wins => wins.lookup w)).toList))

def fanOut (w : WindowId) (u : PutImage) (s : PixelState) : PixelState :=
  let s' := { s with dispatching := update s.dispatching w none }
  if s.dcOpen then
    if s.replayDone then { s' with liveAfter := s.liveAfter ++ [u] }
    else { s' with live := s.live ++ [u] }
  else { s' with missed := s.missed ++ [u] }

inductive PixelAction
  | buffer (u : PutImage)
  | fanOut (w : WindowId)
  | openMedia
  | replay (clients : List ClientId) (windows : ClientId → List WindowId)

/-- The steps, in any order. The images of one window come from one sidecar and
are dispatched one after another. -/
inductive pixelStep : PixelState → PixelAction → PixelState → Prop
  | buffer (s : PixelState) (u : PutImage) (hfree : s.dispatching u.windowId = none) :
      pixelStep s (.buffer u) { s with
        pixelBuffers := bufferPutImage owner u s.pixelBuffers
        dispatching := update s.dispatching u.windowId (some u) }
  | fanOut (s : PixelState) (w : WindowId) (u : PutImage) (hu : s.dispatching w = some u) :
      pixelStep s (.fanOut w) (fanOut w u s)
  | openMedia (s : PixelState) (hcld : s.dcOpen = false) :
      pixelStep s .openMedia { s with dcOpen := true }
  | replay (s : PixelState) (clients : List ClientId) (windows : ClientId → List WindowId)
      (hopen : s.dcOpen = true) (hfst : s.replayDone = false)
      (hcls : Enumerates clients s.pixelBuffers)
      (hwins : ∀ c wins, s.pixelBuffers.lookup c = some wins → Enumerates (windows c) wins) :
      pixelStep s (.replay clients windows) { s with
        replayDone := true
        replayed := replayFrames clients windows s.pixelBuffers }

def buffered (m : PixelBuffers) (w : WindowId) : Option PutImage :=
  (m.lookup (owner w)).bind (fun wins => wins.lookup w)

/-- A window's image stands under the window's client and identifier. -/
def WellKeyed (m : PixelBuffers) : Prop :=
  ∀ c wins w u, m.lookup c = some wins → wins.lookup w = some u → owner w = c ∧ u.windowId = w

/-- The images of a window that have been handed on or are on their way. -/
def history (s : PixelState) (w : WindowId) : List PutImage :=
  ofWindow w (early s) ++ (s.dispatching w).toList

/-- The image that is replayed for a window is its latest by then: the last of
those before, or the one that was on its way and comes again first thing after. -/
def LatestReplayed (s : PixelState) (w : WindowId) : Prop :=
  ofWindow w s.replayed = (ofWindow w (s.missed ++ s.live)).getLast?.toList ∨
    ∃ u, ofWindow w s.replayed = [u] ∧
      (ofWindow w s.liveAfter ++ (s.dispatching w).toList).head? = some u

structure Buffers (s : PixelState) : Prop where
  keyed : WellKeyed owner s.pixelBuffers
  dispatching : ∀ w u, s.dispatching w = some u → u.windowId = w
  latest : ∀ w, buffered owner s.pixelBuffers w = (history s w).getLast?
  closed : s.dcOpen = false → s.replayDone = false ∧ s.live = []
  unreplayed : s.replayDone = false → s.replayed = [] ∧ s.liveAfter = []
  replayed : s.replayDone = true → ∀ w, LatestReplayed s w

variable {owner} {s s' : PixelState} {a : PixelAction}

theorem flatMap_eq_of_nodup {α β : Type} {l : List α} (hl : l.Nodup) {f : α → List β} {a : α}
    (hf : ∀ b, b ≠ a → f b = []) (ha : a ∉ l → f a = []) : l.flatMap f = f a := by
  induction l with
  | nil => exact (ha (by simp)).symm
  | cons b l ih =>
    obtain ⟨hb, hl⟩ := nodup_cons.mp hl
    rw [flatMap_cons]
    by_cases h : b = a
    · subst h
      have hrest : l.flatMap f = [] := by
        rw [flatMap_eq_nil_iff]
        exact fun c hc => hf c (fun hcb => hb (hcb ▸ hc))
      rw [hrest, append_nil]
    · rw [hf b h, nil_append]
      exact ih hl (fun hal => ha (by simp [Ne.symm h, hal]))

theorem ofWindow_flatMap {α : Type} (w : WindowId) (f : α → List PutImage) (l : List α) :
    ofWindow w (l.flatMap f) = l.flatMap (fun a => ofWindow w (f a)) :=
  filter_flatMap

/-- Whatever the iteration orders, a window's share of the replay is the image
that the buffers have of it. -/
theorem ofWindow_replayFrames {m : PixelBuffers} (hkeyed : WellKeyed owner m)
    {clients : List ClientId} {windows : ClientId → List WindowId}
    (hcls : Enumerates clients m)
    (hwins : ∀ c wins, m.lookup c = some wins → Enumerates (windows c) wins) (w : WindowId) :
    ofWindow w (replayFrames clients windows m) = (buffered owner m w).toList := by
  have hinner : ∀ c, ofWindow w ((windows c).flatMap (fun v =>
      ((m.lookup c).bind (fun wins => wins.lookup v)).toList)) =
        ((m.lookup c).bind (fun wins => wins.lookup w)).toList := by
    intro c
    cases hc : m.lookup c with
    | none => simp [ofWindow]
    | some wins =>
      obtain ⟨hnd, hmem⟩ := hwins c wins hc
      have hself : ofWindow w (wins.lookup w).toList = (wins.lookup w).toList := by
        cases hlook : wins.lookup w with
        | none => rfl
        | some u => simp [ofWindow, (hkeyed c wins w u hc hlook).2]
      simp only [bind_some]
      rw [ofWindow_flatMap, flatMap_eq_of_nodup hnd (a := w), hself]
      · intro v hv
        cases hlook : wins.lookup v with
        | none => rfl
        | some u => simp [ofWindow, (hkeyed c wins v u hc hlook).2, hv]
      · intro hw
        rw [Finmap.lookup_eq_none.mpr (fun h => hw ((hmem w).mpr h))]
        rfl
  rw [replayFrames, ofWindow_flatMap]
  simp only [hinner]
  apply flatMap_eq_of_nodup hcls.1 (a := owner w)
  · intro c hc
    cases hlook : m.lookup c with
    | none => rfl
    | some wins =>
      cases hu : wins.lookup w with
      | none => simp [hu]
      | some u => exact absurd (hkeyed c wins w u hlook hu).1 (Ne.symm hc)
  · intro hw
    rw [Finmap.lookup_eq_none.mpr (fun h => hw ((hcls.2 _).mpr h))]
    rfl

theorem lookup_bufferPutImage (u : PutImage) (m : PixelBuffers) (c : ClientId) :
    (bufferPutImage owner u m).lookup c =
      if c = owner u.windowId then some (((m.lookup c).getD ∅).insert u.windowId u)
      else m.lookup c := by
  rw [bufferPutImage, lookup_insert_eq]
  by_cases h : c = owner u.windowId
  · subst h; simp
  · simp [h]

theorem buffered_bufferPutImage (u : PutImage) (m : PixelBuffers) (w : WindowId) :
    buffered owner (bufferPutImage owner u m) w =
      if w = u.windowId then some u else buffered owner m w := by
  rw [buffered, lookup_bufferPutImage]
  by_cases hw : w = u.windowId
  · subst hw; simp
  · rw [if_neg hw, buffered]
    split
    · cases m.lookup (owner w) <;> simp [hw]
    · rfl

theorem WellKeyed.bufferPutImage {m : PixelBuffers} (h : WellKeyed owner m) (u : PutImage) :
    WellKeyed owner (bufferPutImage owner u m) := by
  intro c wins w v hc hw
  rw [lookup_bufferPutImage] at hc
  split at hc
  · rename_i hown
    obtain rfl := some.inj hc
    rw [lookup_insert_eq] at hw
    split at hw
    · rename_i hwu
      obtain rfl := some.inj hw
      exact ⟨by rw [hwu, hown], hwu.symm⟩
    · cases hold : m.lookup c with
      | none => simp [hold] at hw
      | some old => exact h c old w v hold (by simpa [hold] using hw)
  · exact h c wins w v hc hw

theorem new_buffers : Buffers owner PixelState.new := by
  constructor
  · intro c wins w u hc
    simp [PixelState.new] at hc
  · simp [PixelState.new]
  · simp [buffered, history, early, PixelState.new, ofWindow]
  · simp [PixelState.new]
  · simp [PixelState.new]
  · simp [PixelState.new]

theorem Buffers.buffer (h : Buffers owner s) (u : PutImage) (hfree : s.dispatching u.windowId = none) :
    Buffers owner { s with
      pixelBuffers := bufferPutImage owner u s.pixelBuffers
      dispatching := update s.dispatching u.windowId (some u) } := by
  constructor
  · exact h.keyed.bufferPutImage u
  · intro w v hv
    by_cases hw : w = u.windowId
    · subst hw
      obtain rfl : u = v := by simpa using hv
      rfl
    · exact h.dispatching w v (by simpa [hw] using hv)
  · intro w
    rw [buffered_bufferPutImage]
    by_cases hw : w = u.windowId
    · subst hw
      simp [history, early]
    · simpa [hw, history, early] using h.latest w
  · exact h.closed
  · exact h.unreplayed
  · intro hdone w
    rcases h.replayed hdone w with hlast | ⟨v, hv, hhead⟩
    · exact .inl hlast
    · refine .inr ⟨v, hv, ?_⟩
      by_cases hw : w = u.windowId
      · subst hw
        simp only [hfree, toList_none, append_nil] at hhead
        simp [List.head?_append, hhead]
      · simpa [hw] using hhead

theorem Buffers.fanOut (h : Buffers owner s) {w : WindowId} {u : PutImage}
    (hu : s.dispatching w = some u) : Buffers owner (fanOut w u s) := by
  have huw : u.windowId = w := h.dispatching w u hu
  have hself : ofWindow w [u] = [u] := by simp [ofWindow, huw]
  have hoth : ∀ v, v ≠ w → ofWindow v [u] = [] := by
    intro v hv
    simp [ofWindow, huw, Ne.symm hv]
  have hdispatching : ∀ v x, update s.dispatching w none v = some x → x.windowId = v := by
    intro v x hx
    by_cases hv : v = w
    · subst hv; simp at hx
    · exact h.dispatching v x (by simpa [hv] using hx)
  have hlatest : ∀ s₁ : PixelState, s₁.dispatching = update s.dispatching w none →
      (∀ v, ofWindow v (early s₁) = ofWindow v (early s) ++ ofWindow v [u]) →
      ∀ v, buffered owner s.pixelBuffers v = (history s₁ v).getLast? := by
    intro s₁ hd hearly v
    rw [h.latest, history, history, hd, hearly]
    by_cases hv : v = w
    · subst hv
      simp [hu, hself]
    · simp [hv, hoth v hv]
  rw [PixelReplay.fanOut]
  dsimp only
  split
  · rename_i hopen
    split
    · rename_i hdone
      refine ⟨h.keyed, hdispatching, hlatest _ rfl fun v => ?_, ?_, ?_, ?_⟩
      · simp [early, ofWindow_append]
      · simp [hopen]
      · simp [hdone]
      · intro _ v
        rcases h.replayed hdone v with hlast | ⟨x, hx, hhead⟩
        · exact .inl hlast
        · refine .inr ⟨x, hx, ?_⟩
          by_cases hv : v = w
          · subst hv
            simpa [hu, ofWindow_append, hself] using hhead
          · simpa [hv, ofWindow_append, hoth v hv] using hhead
    · rename_i hdone
      obtain ⟨hrpld, haft⟩ := h.unreplayed (by simpa using hdone)
      refine ⟨h.keyed, hdispatching, hlatest _ rfl fun v => ?_, ?_, ?_, ?_⟩
      · simp [early, ofWindow_append, haft]
      · simp [hopen]
      · exact fun _ => ⟨hrpld, haft⟩
      · simp [hdone]
  · rename_i hopen
    obtain ⟨hdone, hlive⟩ := h.closed (by simpa using hopen)
    obtain ⟨hrpld, haft⟩ := h.unreplayed hdone
    refine ⟨h.keyed, hdispatching, hlatest _ rfl fun v => ?_, ?_, ?_, ?_⟩
    · simp [early, ofWindow_append, haft, hlive]
    · exact fun _ => ⟨hdone, hlive⟩
    · exact fun _ => ⟨hrpld, haft⟩
    · simp [hdone]

theorem Buffers.replay (h : Buffers owner s) {clients : List ClientId}
    {windows : ClientId → List WindowId} (hopen : s.dcOpen = true) (hfst : s.replayDone = false)
    (hcls : Enumerates clients s.pixelBuffers)
    (hwins : ∀ c wins, s.pixelBuffers.lookup c = some wins → Enumerates (windows c) wins) :
    Buffers owner { s with
      replayDone := true
      replayed := replayFrames clients windows s.pixelBuffers } := by
  obtain ⟨hrpld, haft⟩ := h.unreplayed hfst
  refine ⟨h.keyed, h.dispatching, h.latest, ?_, by simp, fun _ w => ?_⟩
  · simp [hopen]
  · have hshare := ofWindow_replayFrames h.keyed hcls hwins w
    rw [h.latest, history, early, haft, append_nil] at hshare
    cases hd : s.dispatching w with
    | none =>
      left
      simpa [hd] using hshare
    | some u =>
      right
      refine ⟨u, by simpa [hd] using hshare, ?_⟩
      simp [haft, hd, ofWindow]

theorem pixelStep_buffers (s : PixelState) (a : PixelAction) (s' : PixelState) (h : Buffers owner s)
    (hstep : pixelStep owner s a s') : Buffers owner s' := by
  cases hstep with
  | buffer u hfree => exact h.buffer u hfree
  | fanOut w u hu => exact h.fanOut hu
  | openMedia hcld =>
    refine ⟨h.keyed, h.dispatching, h.latest, by simp, h.unreplayed, h.replayed⟩
  | replay clients windows hopen hfst hcls hwins =>
    exact h.replay hopen hfst hcls hwins

end Owner

section Canvases

variable (br : Browser) (start : WindowId → Option (Nat × Nat))

def blank : Renderers := fun w => (start w).map Renderer.ofSize

def SameCanvases (s : PixelState) : Prop :=
  ∀ w, renderAll br (late s) (blank start) w = renderAll br (early s) (blank start) w

/-- The size of a window's canvas: the one it has, or that of its first image. -/
def canvasSize (us : List PutImage) (w : WindowId) : Option (Nat × Nat) :=
  (start w).or ((ofWindow w us).head?.map freshSize)

/-- Nothing of the images before the channel opened is missing: at each pixel
nothing was painted before and nothing is painted again by the replay, or the
replay or a later image paints it opaquely, or else a live image from before the
replay does. -/
structure Repainted (s : PixelState) : Prop where
  size : ∀ w, canvasSize start (late s) w = canvasSize start (early s) w
  pixel : ∀ w size, canvasSize start (early s) w = some size → ∀ z,
    (coatsAt br size w s.missed z = [] ∧ coatsAt br size w s.replayed z = []) ∨
    (∃ c ∈ coatsAt br size w (s.replayed ++ s.liveAfter) z, c.isOpaque = true) ∨
    (coatsAt br size w s.replayed z = [] ∧ ∃ c ∈ coatsAt br size w s.live z, c.isOpaque = true)

variable {br start} {owner : WindowId → ClientId} {s : PixelState}

theorem renderAll_blank (us : List PutImage) (w : WindowId) :
    renderAll br us (blank start) w = (canvasSize start us w).map (fun size =>
      ⟨size.1, size.2, fun z => blend br.sourceOver transparent (coatsAt br size w us z)⟩) := by
  have hground : ground (blank start w) (ofWindow w us) =
      (canvasSize start us w).map Renderer.ofSize := by
    rw [ground, blank, canvasSize]
    cases start w <;> simp [comp_def]
  cases hsize : canvasSize start us w with
  | none => simp [renderAll_apply, hground, hsize]
  | some size =>
    rw [hsize, map_some] at hground
    rw [renderAll_eq_some br hground, map_some]
    congr 2
    funext z
    exact paintAll_apply br.sourceOver _ _ z

/-- What the replay paints on a point is what the last image before it painted
there, or what the first one after it paints. -/
theorem coatsAt_replayed (br : Browser) {w : WindowId} (h : LatestReplayed s w) (hidle : s.dispatching w = none)
    (size : Nat × Nat) (z : Int × Int) :
    (∃ below, coatsAt br size w s.missed z ++ coatsAt br size w s.live z =
      below ++ coatsAt br size w s.replayed z) ∨
    ∃ above, coatsAt br size w s.liveAfter z = coatsAt br size w s.replayed z ++ above := by
  rcases h with hlast | ⟨u, hu, hhead⟩
  · left
    rw [← coatsAt_append]
    simp only [coatsAt]
    rw [hlast]
    cases hl : (ofWindow w (s.missed ++ s.live)).getLast? with
    | none => exact ⟨_, by simp [coats]; rfl⟩
    | some u =>
      obtain ⟨us, hus⟩ := List.getLast?_eq_some_iff.mp hl
      rw [hus, map_append, coats_append]
      exact ⟨_, rfl⟩
  · right
    simp only [coatsAt, hu]
    rw [hidle, toList_none, append_nil] at hhead
    obtain ⟨us, hus⟩ := List.head?_eq_some_iff.mp hhead
    rw [hus]
    exact ⟨coats (us.map (putLayer br size)) z, by rw [← coats_append]; rfl⟩

theorem coatsAt_late (size : Nat × Nat) (w : WindowId) (z : Int × Int) :
    coatsAt br size w (late s) z = coatsAt br size w s.live z ++
      (coatsAt br size w s.replayed z ++ coatsAt br size w s.liveAfter z) := by
  rw [late, append_assoc, coatsAt_append, coatsAt_append]

theorem coatsAt_early (size : Nat × Nat) (w : WindowId) (z : Int × Int) :
    coatsAt br size w (early s) z = coatsAt br size w s.missed z ++
      (coatsAt br size w s.live z ++ coatsAt br size w s.liveAfter z) := by
  rw [early, append_assoc, coatsAt_append, coatsAt_append]

theorem Repainted.blend_eq (h : Repainted br start s) {w : WindowId} (hlatest : LatestReplayed s w)
    (hidle : s.dispatching w = none) {size : Nat × Nat}
    (hsize : canvasSize start (early s) w = some size) (z : Int × Int) :
    blend br.sourceOver transparent (coatsAt br size w (late s) z) =
      blend br.sourceOver transparent (coatsAt br size w (early s) z) := by
  rw [coatsAt_late, coatsAt_early]
  rcases h.pixel w size hsize z with ⟨hmissed, hrpld⟩ | ⟨c, hc, hsolid⟩ | ⟨hrpld, c, hc, hsolid⟩
  · rw [hmissed, hrpld, nil_append, nil_append]
  · have hhides := hides_of_isOpaque br hsolid
    rw [coatsAt_append] at hc
    rcases coatsAt_replayed br hlatest hidle size z with ⟨below, hbel⟩ | ⟨above, habove⟩
    · rw [← append_assoc (coatsAt br size w s.missed z), hbel, append_assoc]
      exact blend_eq_of_mem_hides hhides hc _ _ _ _
    · have haft : c ∈ coatsAt br size w s.liveAfter z := by
        rcases mem_append.mp hc with hc | hc
        · rw [habove]
          exact mem_append_left _ hc
        · exact hc
      rw [← append_assoc, ← append_assoc]
      exact blend_eq_of_mem_hides hhides haft _ _ _ _
  · rw [hrpld, nil_append]
    exact blend_eq_of_mem_hides (hides_of_isOpaque br hsolid) (mem_append_left _ hc) _ _ []
      (coatsAt br size w s.missed z)

/-- A pixel painted before the channel opened and by nothing that the late
frontend gets is opaque for the one and transparent for the other. -/
theorem repainted_pixel {w : WindowId} (hlatest : LatestReplayed s w)
    (hidle : s.dispatching w = none) (hsolid : ∀ u ∈ early s, IsOpaque br u) {size : Nat × Nat}
    {z : Int × Int}
    (h : blend br.sourceOver transparent (coatsAt br size w (late s) z) =
      blend br.sourceOver transparent (coatsAt br size w (early s) z)) :
    (coatsAt br size w s.missed z = [] ∧ coatsAt br size w s.replayed z = []) ∨
    (∃ c ∈ coatsAt br size w (s.replayed ++ s.liveAfter) z, c.isOpaque = true) ∨
    (coatsAt br size w s.replayed z = [] ∧ ∃ c ∈ coatsAt br size w s.live z, c.isOpaque = true) := by
  have hearly : ∀ c ∈ coatsAt br size w (early s) z, c.isOpaque = true :=
    fun c hc => isOpaque_of_mem_coatsAt br hsolid hc
  rw [coatsAt_late, coatsAt_early] at h
  rw [coatsAt_early] at hearly
  have hrpl : ∀ c ∈ coatsAt br size w s.replayed z, c.isOpaque = true := by
    intro c hc
    rcases coatsAt_replayed br hlatest hidle size z with ⟨below, hbel⟩ | ⟨above, habove⟩
    · apply hearly
      rw [← append_assoc, hbel]
      simp [hc]
    · apply hearly
      simp [habove, hc]
  rw [coatsAt_append]
  cases hrest : coatsAt br size w s.replayed z ++ coatsAt br size w s.liveAfter z with
  | cons c cs =>
    right; left
    have hc : c ∈ coatsAt br size w s.replayed z ++ coatsAt br size w s.liveAfter z := by simp [hrest]
    refine ⟨c, by simp, ?_⟩
    rcases mem_append.mp hc with hc | hc
    · exact hrpl c hc
    · exact hearly c (by simp [hc])
  | nil =>
    obtain ⟨hrpld, haft⟩ := append_eq_nil_iff.mp hrest
    rw [hrpld, haft] at h
    rw [haft] at hearly
    cases hlive : coatsAt br size w s.live z with
    | cons c cs => exact .inr (.inr ⟨hrpld, c, by simp, hearly c (by simp [hlive])⟩)
    | nil =>
      left
      refine ⟨?_, hrpld⟩
      rw [hlive] at h hearly
      simp only [append_nil] at h hearly
      have hhides : ∀ c ∈ coatsAt br size w s.missed z, Hides br.sourceOver c :=
        fun c hc => hides_of_isOpaque br (hearly c hc)
      rw [blend_eq_getLastD hhides] at h
      by_contra hne
      obtain ⟨c, hc⟩ := List.getLast?_isSome.mpr hne |> isSome_iff_exists.mp
      have hlast : transparent = c := by simpa [blend, getLastD_eq_getLast?, hc] using h
      have := hearly c (mem_of_getLast? hc)
      rw [← hlast] at this
      exact absurd this (by decide)

/-- When all images have been handed on and the replay is done: the canvases are
the same if everything has been repainted, and of opaque images only then. -/
theorem run_sameCanvases {actions : List PixelAction}
    (hrun : Run (pixelStep owner) PixelState.new actions s) (hdone : s.replayDone = true)
    (hidle : ∀ w, s.dispatching w = none) :
    (Repainted br start s → SameCanvases br start s) ∧
      ((∀ u ∈ early s, IsOpaque br u) → SameCanvases br start s → Repainted br start s) := by
  have hbufs : Buffers owner s := hrun.invariant (I := Buffers owner) pixelStep_buffers new_buffers
  have hlatest := hbufs.replayed hdone
  constructor
  · intro h w
    rw [renderAll_blank, renderAll_blank, h.size w]
    cases hsize : canvasSize start (early s) w with
    | none => rfl
    | some size =>
      simp only [map_some]
      congr 2
      funext z
      exact h.blend_eq (hlatest w) (hidle w) hsize z
  · intro hsolid hsame
    have hsize : ∀ w, canvasSize start (late s) w = canvasSize start (early s) w := by
      intro w
      have hw := hsame w
      rw [renderAll_blank, renderAll_blank] at hw
      have := congrArg (Option.map (fun r : Renderer => (r.width, r.height))) hw
      simpa [comp_def] using this
    refine ⟨hsize, fun w size hw z => ?_⟩
    apply repainted_pixel (hlatest w) (hidle w) hsolid
    have hcnv := hsame w
    rw [renderAll_blank, renderAll_blank, hsize w, hw, map_some, map_some] at hcnv
    exact congrFun (congrArg Renderer.backBuffer (some.inj hcnv)) z

end Canvases

def redAt (x : Int) : PutImage := ⟨1, x, 0, 1, 1, redWebp⟩

def twoPixels : WindowId → Option (Nat × Nat) := fun w => if w = 1 then some (2, 1) else none

def dispatch (u : PutImage) : List PixelAction := [.buffer u, .fanOut u.windowId]

def openAndReplay : List PixelAction := [.openMedia, .replay [7] (fun _ => [1])]

/-- The late frontend has got nothing but the image `u`, after it missed `us`. -/
structure ReplayedOnly (us : List PutImage) (u : PutImage) (s : PixelState) : Prop where
  replayDone : s.replayDone = true
  idle : ∀ w, s.dispatching w = none
  missed : s.missed = us
  live : s.live = []
  replayed : s.replayed = [u]
  liveAfter : s.liveAfter = []

theorem replay_after_two {x : Int} (hx : x = 0 ∨ x = 1) :
    ∃ s, Run (pixelStep (fun _ => 7)) PixelState.new
        (dispatch (redAt 0) ++ dispatch (redAt x) ++ openAndReplay) s ∧
      ReplayedOnly [redAt 0, redAt x] (redAt x) s := by
  refine ⟨_, .cons (.buffer _ (redAt 0) rfl) (.cons (.fanOut _ 1 (redAt 0) rfl)
    (.cons (.buffer _ (redAt x) rfl) (.cons (.fanOut _ 1 (redAt x) rfl)
    (.cons (.openMedia _ rfl) (.cons (.replay _ [7] (fun _ => [1]) rfl rfl ?_ ?_) (.nil _)))))),
    rfl, fun w => ?_, rfl, rfl, ?_, rfl⟩
  · rcases hx with rfl | rfl <;> decide +kernel
  · intro c wins hc
    obtain rfl : c = 7 := by
      by_contra hne
      simp [fanOut, PixelState.new, lookup_bufferPutImage, hne] at hc
    obtain rfl := some.inj hc
    rcases hx with rfl | rfl <;> decide +kernel
  · by_cases hw : w = 1 <;> simp [fanOut, PixelState.new, redAt, hw]
  · rcases hx with rfl | rfl <;> decide +kernel

/-- Two images over each other before the channel opens: the replay brings the last one. -/
theorem run_sameCanvases_two :
    ∃ s, Run (pixelStep (fun _ => 7)) PixelState.new
        (dispatch (redAt 0) ++ dispatch (redAt 0) ++ openAndReplay) s ∧
      s.replayDone = true ∧ (∀ w, s.dispatching w = none) ∧ early s = [redAt 0, redAt 0] ∧ late s = [redAt 0] ∧
      SameCanvases redBrowser twoPixels s := by
  obtain ⟨s, hrun, hs⟩ := replay_after_two (.inl rfl)
  have hearly : early s = [redAt 0, redAt 0] := by simp [early, hs.missed, hs.live, hs.liveAfter]
  have hlate : late s = [redAt 0] := by simp [late, hs.replayed, hs.live, hs.liveAfter]
  refine ⟨s, hrun, hs.replayDone, hs.idle, hearly, hlate, ?_⟩
  refine (run_sameCanvases hrun hs.replayDone hs.idle).1 ⟨fun w => ?_, fun w size _ z => ?_⟩
  · rw [hearly, hlate]
    by_cases hw : w = 1 <;> simp [canvasSize, ofWindow, redAt, hw, eq_comm]
  · rw [hs.missed, hs.replayed, hs.liveAfter, append_nil, ← singleton_append, coatsAt_append]
    cases hcoats : coatsAt redBrowser size w [redAt 0] z with
    | nil => exact .inl ⟨rfl, rfl⟩
    | cons c cs =>
      exact .inr (.inl ⟨c, by simp, isOpaque_of_mem_coatsAt redBrowser (fun u _ => isOpaque_red u) (by rw [hcoats]; simp)⟩)

/-- Two images side by side before the channel opens: the first is gone. -/
theorem second_image_drops_first :
    ∃ s, Run (pixelStep (fun _ => 7)) PixelState.new
        (dispatch (redAt 0) ++ dispatch (redAt 1) ++ openAndReplay) s ∧
      s.replayDone = true ∧ (∀ w, s.dispatching w = none) ∧ early s = [redAt 0, redAt 1] ∧
      ¬SameCanvases redBrowser twoPixels s := by
  obtain ⟨s, hrun, hs⟩ := replay_after_two (.inr rfl)
  have hearly : early s = [redAt 0, redAt 1] := by simp [early, hs.missed, hs.live, hs.liveAfter]
  have hlate : late s = [redAt 1] := by simp [late, hs.replayed, hs.live, hs.liveAfter]
  refine ⟨s, hrun, hs.replayDone, hs.idle, hearly, fun hsame => ?_⟩
  have hpx := congrArg (Option.map (fun r : Renderer => r.backBuffer (0, 0))) (hsame 1)
  rw [hearly, hlate] at hpx
  revert hpx
  decide +kernel

end X11Web.PixelReplay
