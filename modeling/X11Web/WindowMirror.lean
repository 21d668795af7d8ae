import X11Web.DeclaredDamage
import X11Web.MirrorTicks

namespace X11Web.WindowMirror

open WaylandPixels WaylandWindows WaylandSteps WaylandRuns List Function
open TreePainting DeclaredDamage MirrorTicks

/-- What clients do to the surfaces of their windows, the sidecar's writer to the credits, and the timer.
A subsurface enters and leaves its window's tree at once, everything else of the tree changes with a commit. -/
inductive Event
  | commit (id : ObjectId) (buffer : Option BufferAssignment) (damage : List Rect) (tree : SurfaceTree)
      (geometry : Option Rect)
  | addedSubsurface (parent : ObjectId) (tree : SurfaceTree)
  | destroyedSubsurface (id : ObjectId) (tree : SurfaceTree)
  | destroyedSurface (id : ObjectId) (tree : SurfaceTree)
  | frameShipped (u : Uuid)
  | tick

def addedSubsurface (s : State) (parent : ObjectId) (tree : SurfaceTree) : State :=
  { s with trees := update s.trees (rootSurface s parent) tree }

def step (s : State) : Event → State
  | .commit id buffer damage tree geometry => commit s id buffer damage tree geometry
  | .addedSubsurface parent tree => addedSubsurface s parent tree
  | .destroyedSubsurface id tree => destroyedSubsurface s id tree
  | .destroyedSurface id tree => destroyedSurface s id tree
  | .frameShipped u => { s with router := s.router.frameShipped u }
  | .tick => tick s

def run (s : State) (events : List Event) : State := events.foldl step s

section Conditions

/-- Every pixel of the window in `s'` is still to be sent, or it was there in `s`, was not to be sent and
looks the same. -/
def Covered (root : ObjectId) (s s' : State) : Prop :=
  ∀ e e' geo', s.entries root = some e → s'.entries root = some e' → geometryOf s' root = some geo' →
    ∀ x y, Reaches geo'.w geo'.h x y → Pending s' root e' geo' x y ∨
      ∃ geo, geometryOf s root = some geo ∧ Reaches geo.w geo.h x y ∧ ¬Pending s root e geo x y ∧
        picture s' root geo' x y = picture s root geo x y

structure Elsewhere (root : ObjectId) (s : State) (id : ObjectId) : Prop where
  window : rootSurface s id ≠ root
  surface : id ≠ root
  tree : ∀ v ∈ (s.trees root).visit 0 0, v.1 ≠ id

/-- A commit that leaves the tree and the geometry as they are, and declares what it changes. -/
structure Ordinary (root : ObjectId) (s : State) (id : ObjectId) (buffer : Option BufferAssignment)
    (damage : List Rect) (tree : SurfaceTree) (geometry : Option Rect) : Prop where
  window : rootSurface s id = root
  tree : tree = s.trees root
  geometry : geometry = s.geometry root
  declared : Declared (root == id) (s.surfaces id) damage buffer
  spanned : Spanned (s.surfaces id) damage

/-- The tree is visited from its root, once at each surface, and has no surface of another window's. -/
structure Traversed (root : ObjectId) (s : State) : Prop where
  rooted : (root, 0, 0) ∈ (s.trees root).visit 0 0
  once : (((s.trees root).visit 0 0).map (·.1)).Nodup
  apart : ∀ r ∈ s.roots, r ≠ root → ∀ v ∈ (s.trees root).visit 0 0, v.1 ∉ ((s.trees r).visit 0 0).map (·.1)

/-- What changes of a window without a commit that declares it has to be damaged all the same. -/
def Meets (root : ObjectId) (s : State) : Event → Prop
  | .commit id buffer damage tree geometry =>
    Elsewhere root s id ∨ Ordinary root s id buffer damage tree geometry ∨
      Covered root s (commit s id buffer damage tree geometry)
  | .addedSubsurface parent tree => Covered root s (addedSubsurface s parent tree)
  | .destroyedSubsurface id tree => Covered root s (destroyedSubsurface s id tree)
  | .destroyedSurface id tree => Covered root s (destroyedSurface s id tree)
  | .frameShipped _ => True
  | .tick => Traversed root s ∧ Paintable root s

/-- A session in which the first image of the window is of all of it, as the session has just begun, all of
the window is damaged, or it has no size yet. -/
structure Opens (root : ObjectId) (u : Uuid) (s : State) : Prop extends Registry s where
  consuming : s.router.consuming = true
  window : ∃ e, s.entries root = some e ∧ e.uuid = u ∧
    (s.streaming = false ∨ e.damage.full = true ∨ e.width = 0 ∧ e.damage = .new)

/-- A tick that paints the window: it has a buffer, and is not stalled. -/
structure Painted (root : ObjectId) (u : Uuid) (s : State) : Prop where
  listed : root ∈ s.roots
  buffer : (s.surfaces root).isSome = true
  window : ∃ e, s.entries root = some e ∧ e.uuid = u ∧ e.pendingUnmap = false ∧
    (e.created = true → FrameCredit.stalled s root = false)

end Conditions

variable {root : ObjectId} {u : Uuid} {base : Nat} {before : Image} {s s' s'' : State} {e e' : WindowEntry} {geo : Rect}

section Steps

structure Sound (root : ObjectId) (u : Uuid) (base : Nat) (before : Image) (s : State) : Prop extends
    Registry s, Tracks root u base before s where
  consuming : s.router.consuming = true

theorem Painted.unstalled (h : Painted root u s) (hcons : s.router.consuming = true) :
    Unstalled root (observe s) := by
  obtain ⟨e, he, -, hp, hcred⟩ := h.window
  have hcred' : ∀ e', (observe s).entries root = some e' → e.created = true →
      (observe s).router.mayEmit e'.uuid = true := by
    intro e' he' hc
    have hstalled := hcred hc
    unfold FrameCredit.stalled stalls at hstalled
    rw [FrameCredit.observe_flags.1, hcons, he'] at hstalled
    simpa using hstalled
  cases hstrm : s.streaming with
  | true =>
    have hsame : observe s = s := by simp [observe, hcons, hstrm]
    rw [hsame] at hcred' ⊢
    exact ⟨e, he, h.buffer, hp, hcred' e he⟩
  | false =>
    rw [observe_eq hcons hstrm] at hcred' ⊢
    have he' : (s.entries root).map (fun e => { e with damage := e.damage.markFull }) =
        some { e with damage := e.damage.markFull } := by rw [he]; rfl
    exact ⟨_, he', h.buffer, hp, hcred' _ he'⟩

theorem entry_of_affects {id i : ObjectId} {P : WindowEntry → Option WindowEntry → List DisplayUpdate → Prop}
    (h : Affects id P s s') (he' : s'.entries i = some e') : ∃ e, s.entries i = some e ∧ e'.uuid = e.uuid := by
  obtain hu | ⟨e, e₁, us, ht, -⟩ := h
  · exact ⟨e', hu.entries ▸ he', rfl⟩
  · rw [ht.entries] at he'
    by_cases hi : i = id
    · rw [hi, update_self] at he'
      exact ⟨e, hi ▸ ht.entry, (ht.same e' he').1⟩
    · rw [update_of_ne hi] at he'
      exact ⟨e', he', rfl⟩

theorem entry_of_tick {i : ObjectId} (he' : (tick s).entries i = some e') :
    ∃ e, s.entries i = some e ∧ e'.uuid = e.uuid := by
  refine List.foldlRecOn (motive := fun s' : State => ∀ e', s'.entries i = some e' →
    ∃ e, s.entries i = some e ∧ e'.uuid = e.uuid) _ _ ?_ (fun s' hs' r _ e' he' => ?_) e' he'
  · exact fun e' he' => FrameCredit.Link.observe_entries he'
  · have hann : ∀ e', (announce s' r).1.entries i = some e' → ∃ e, s.entries i = some e ∧ e'.uuid = e.uuid := by
      intro e' he'
      obtain ⟨_, -, haffects, -⟩ := announce_affects s' r
      obtain ⟨e₁, he₁, hu₁⟩ := entry_of_affects haffects he'
      obtain ⟨e, he, hu⟩ := hs' e₁ he₁
      exact ⟨e, he, hu₁.trans hu⟩
    cases hpntd : (announce s' r).2 with
    | none =>
      rw [tickWindow_unpainted hpntd] at he'
      exact hann e' he'
    | some p =>
      rw [tickWindow_painted hpntd] at he'
      split at he'
      · exact hann e' he'
      · obtain ⟨e₁, he₁, hu₁⟩ := entry_of_affects (compositeAndEmit_affects _ _ _ _) he'
        obtain ⟨e, he, hu⟩ := hann e₁ he₁
        exact ⟨e, he, hu₁.trans hu⟩

theorem Sound.ticking (h : Sound root u base before s) (htrvd : Traversed root s) (hpntb : Paintable root s)
    (hpresent : ∃ e, s.entries root = some e ∧ e.uuid = u) : Ticking root u base before (observe s) := by
  have himgs := observe_sameImages s
  have hpresent' : ∃ e, (observe s).entries root = some e ∧ e.uuid = u := by
    obtain ⟨e, he, hu⟩ := hpresent
    unfold observe
    split
    · exact ⟨e, he, hu⟩
    · dsimp only
      split
      · exact ⟨{ e with damage := e.damage.markFull }, by simp [he], hu⟩
      · exact ⟨e, he, hu⟩
  exact ⟨registry_observe h.toRegistry, h.toTracks.observe h.consuming, hpresent',
    FrameCredit.observe_flags.1.trans h.consuming, himgs.trees ▸ htrvd.rooted, himgs.trees ▸ htrvd.once,
    himgs.paintable hpntb⟩

theorem observe_roots (s : State) : (observe s).roots = s.roots := by
  unfold observe
  split
  · rfl
  · dsimp only
    split <;> rfl

theorem Sound.tick (h : Sound root u base before s) (htrvd : Traversed root s) (hpntb : Paintable root s) :
    Tracks root u base before (tick s) ∧ (Painted root u s → Exact root u base before (tick s)) := by
  by_cases hpresent : ∃ e, s.entries root = some e ∧ e.uuid = u
  · have hticking := h.ticking htrvd hpntb hpresent
    have hapart : ∀ r ∈ s.roots, r ≠ root → ∀ v ∈ ((observe s).trees root).visit 0 0,
        v.1 ∉ (((observe s).trees r).visit 0 0).map (·.1) := by
      rw [(observe_sameImages s).trees]
      exact htrvd.apart
    obtain ⟨hlast, hexact⟩ := hticking.foldl s.roots hapart
    have htick : WaylandWindows.tick s = s.roots.foldl (tickWindow true) (observe s) := by
      unfold WaylandWindows.tick
      dsimp only
      rw [FrameCredit.observe_flags.1, h.consuming, observe_roots]
    rw [htick]
    exact ⟨hlast.toTracks, fun hpntd => hexact (.inr ⟨hpntd.listed, hpntd.unstalled h.consuming⟩)⟩
  · have habsent : ∀ e', (WaylandWindows.tick s).entries root = some e' → e'.uuid ≠ u := by
      intro e' he' hu
      obtain ⟨e, he, heq⟩ := entry_of_tick he'
      exact hpresent ⟨e, he, heq.symm.trans hu⟩
    refine ⟨⟨h.length.trans (step_sent s .tick).length_le, fun e' he' hu => absurd hu (habsent e' he'),
      fun e' _ he' hu => absurd hu (habsent e' he')⟩, fun hpntd => ?_⟩
    obtain ⟨e, he, hu, -⟩ := hpntd.window
    exact absurd ⟨e, he, hu⟩ hpresent

theorem Covered.tracks (hcvd : Covered root s s') (h : Tracks root u base before s)
    (hlen : base ≤ s'.sent.length) (hmir : mirror u base before s' = mirror u base before s)
    (hstrm : s'.streaming = s.streaming)
    (hent : ∀ e', s'.entries root = some e' → ∃ e, s.entries root = some e ∧ e'.uuid = e.uuid ∧
      (e'.damage.full = true ∨ e'.damage = e.damage)) : Tracks root u base before s' := by
  refine ⟨hlen, fun e' he' hu => ?_, fun e' geo' he' hu hgeo' x y hxy => ?_⟩
  · obtain ⟨e, he, heq, hfull | hdmg⟩ := hent e' he'
    · exact .inr (.inl hfull)
    · rw [hstrm, hdmg]
      exact h.boxed e he (heq ▸ hu)
  · obtain ⟨e, he, heq, -⟩ := hent e' he'
    obtain hpend | ⟨geo, hgeo, hxy', hnot, hpicture⟩ := hcvd e e' geo' he he' hgeo' x y hxy
    · exact .inr hpend
    · rw [hmir, hpicture]
      exact .inl ((h.mirrored e geo he (heq ▸ hu) hgeo x y hxy').resolve_right hnot)

theorem commit_entries {id : ObjectId} {buffer : Option BufferAssignment} {damage : List Rect} {tree : SurfaceTree}
    {geometry : Option Rect} (he' : (commit s id buffer damage tree geometry).entries root = some e') :
    ∃ e, s.entries root = some e ∧ e' = if rootSurface s id = root then { e with
      dirty := true
      pendingUnmap := e.pendingUnmap || ((commitBuffer (s.surfaces id) buffer damage).2.removed && root == id)
      damage := if (commitBuffer (s.surfaces id) buffer damage).2.resized && root == id
        then e.damage.markFull else e.damage } else e := by
  unfold commit at he'
  dsimp only at he'
  split at he'
  · next hnone =>
    by_cases hr : rootSurface s id = root
    · rw [hr] at hnone
      exact absurd (hnone.symm.trans he') (by simp)
    · exact ⟨e', he', by rw [if_neg hr]⟩
  · next e he =>
    by_cases hr : rootSurface s id = root
    · subst hr
      refine ⟨e, he, ?_⟩
      change update s.entries _ (some _) _ = some e' at he'
      rw [update_self] at he'
      rw [if_pos rfl]
      exact (Option.some.inj he').symm
    · refine ⟨e', ?_, by rw [if_neg hr]⟩
      rw [← he']
      exact (update_of_ne (Ne.symm hr) _ _).symm

theorem commit_scene (s : State) (id : ObjectId) (buffer : Option BufferAssignment) (damage : List Rect)
    (tree : SurfaceTree) (geometry : Option Rect) :
    (commit s id buffer damage tree geometry).trees = update s.trees (rootSurface s id) tree ∧
      (commit s id buffer damage tree geometry).geometry = update s.geometry (rootSurface s id) geometry ∧
      (commit s id buffer damage tree geometry).surfaces =
        update s.surfaces id (commitBuffer (s.surfaces id) buffer damage).1 := by
  unfold commit
  dsimp only
  split <;> exact ⟨rfl, rfl, rfl⟩

theorem geometryOf_congr (hgeometry : s'.geometry root = s.geometry root)
    (hsize : (s'.surfaces root).map (fun b => (b.width, b.height)) = (s.surfaces root).map fun b => (b.width, b.height)) :
    geometryOf s' root = geometryOf s root := by
  have hsizes : ∀ s : State, geometryOf s root =
      ((s.surfaces root).map fun b => (b.width, b.height)).map fun i => windowRect s root i.1 i.2 := by
    intro s
    rw [Option.map_map]
    rfl
  rw [hsizes, hsizes, hsize]
  simp only [windowRect, hgeometry]

theorem picture_congr (htrees : s'.trees root = s.trees root) {x y : Int}
    (hpx : ∀ v ∈ (s.trees root).visit 0 0, pixelAt (s'.surfaces v.1) (x + geo.x - v.2.1) (y + geo.y - v.2.2) =
      pixelAt (s.surfaces v.1) (x + geo.x - v.2.1) (y + geo.y - v.2.2)) :
    picture s' root geo x y = picture s root geo x y := by
  unfold picture composite
  rw [htrees]
  exact congrArg _ (foldl_shade_congr hpx _)

variable {id : ObjectId} {buffer : Option BufferAssignment} {damage : List Rect} {tree : SurfaceTree}
  {geometry : Option Rect}

theorem Elsewhere.covered (h : Elsewhere root s id) : Covered root s (commit s id buffer damage tree geometry) := by
  obtain ⟨htrees, hgeometry, hsurfs⟩ := commit_scene s id buffer damage tree geometry
  have hstrm := (FrameCredit.commit_silent s id buffer damage tree geometry).streaming
  have hgeo : geometryOf (commit s id buffer damage tree geometry) root = geometryOf s root := by
    refine geometryOf_congr ?_ ?_
    · rw [hgeometry, update_of_ne h.window.symm]
    · rw [hsurfs, update_of_ne h.surface.symm]
  have htree : (commit s id buffer damage tree geometry).trees root = s.trees root := by
    rw [htrees, update_of_ne h.window.symm]
  have hsame : ∀ v ∈ (s.trees root).visit 0 0,
      (commit s id buffer damage tree geometry).surfaces v.1 = s.surfaces v.1 := by
    intro v hv
    rw [hsurfs, update_of_ne (h.tree v hv)]
  intro e e' geo' he he' hgeo' x y hxy
  obtain ⟨e₁, he₁, heq⟩ := commit_entries he'
  obtain rfl : e = e₁ := Option.some.inj (he.symm.trans he₁)
  rw [if_neg h.window] at heq
  subst heq
  by_cases hpend : Pending s root e' geo' x y
  · left
    unfold Pending FrameDue at hpend ⊢
    rw [hstrm, htree]
    refine hpend.imp_right fun ⟨hdirty, v, hv, hdmgd⟩ => ⟨hdirty, v, hv, ?_⟩
    rwa [hsame v hv]
  · exact .inr ⟨geo', hgeo ▸ hgeo', hxy, hpend, picture_congr htree fun v hv => by rw [hsame v hv]⟩

theorem Ordinary.covered (h : Ordinary root s id buffer damage tree geometry) :
    Covered root s (commit s id buffer damage tree geometry) := by
  obtain ⟨hwin, rfl, rfl, hdeclared, hspanned⟩ := h
  obtain ⟨htrees', hgeometry', hsurfs'⟩ := commit_scene s id buffer damage (s.trees root) (s.geometry root)
  have hstrm := (FrameCredit.commit_silent s id buffer damage (s.trees root)
    (s.geometry root)).streaming
  rw [hwin, update_eq_self] at htrees'
  rw [hwin, update_eq_self] at hgeometry'
  generalize hs' : commit s id buffer damage (s.trees root) (s.geometry root) = s'
    at htrees' hgeometry' hsurfs' hstrm ⊢
  intro e e' geo he he' hgeo x y hxy
  obtain ⟨e₁, he₁, heq⟩ := commit_entries (hs' ▸ he')
  obtain rfl : e = e₁ := Option.some.inj (he.symm.trans he₁)
  rw [if_pos hwin] at heq
  by_cases hrszd : ((commitBuffer (s.surfaces id) buffer damage).2.resized && root == id) = true
  · refine .inl (.inl (.inr (.inl ?_)))
    rw [heq, if_pos hrszd]
    rfl
  · have hgeo' : geometryOf s' root = geometryOf s root := by
      refine geometryOf_congr (by rw [hgeometry']) ?_
      rw [hsurfs']
      by_cases hid : root = id
      · subst hid
        rw [update_self]
        exact commitBuffer_size hdeclared (by simpa using hrszd)
      · rw [update_of_ne hid]
    have haccounted : ∀ v : ObjectId × Int × Int, Accounted (s.surfaces v.1)
        (s'.surfaces v.1) (x + geo.x - v.2.1) (y + geo.y - v.2.2) := by
      intro v
      rw [hsurfs']
      by_cases hid : v.1 = id
      · rw [hid, update_self]
        exact commitBuffer_accounted hdeclared hspanned (by simpa [Bool.and_comm] using hrszd)
      · rw [update_of_ne hid]
        exact (Classical.em _).imp_right fun hnot => ⟨hnot, rfl⟩
    by_cases hdmgd : ∃ v ∈ (s.trees root).visit 0 0, Damaged (s'.surfaces v.1)
        (x + geo.x - v.2.1) (y + geo.y - v.2.2)
    · refine .inl (.inr ⟨by rw [heq], ?_⟩)
      rwa [htrees']
    · have hold : ∀ v ∈ (s.trees root).visit 0 0, _ := fun v hv =>
        (haccounted v).resolve_left fun hv' => hdmgd ⟨v, hv, hv'⟩
      by_cases hdue : FrameDue s e geo
      · refine .inl (.inl ?_)
        unfold FrameDue at hdue ⊢
        rw [hstrm, heq, if_neg hrszd]
        exact hdue
      · refine .inr ⟨geo, hgeo' ▸ hgeo, hxy, ?_, picture_congr (by rw [htrees']) fun v hv => (hold v hv).2⟩
        rintro (hdue' | ⟨-, v, hv, hdmgd'⟩)
        · exact hdue hdue'
        · exact (hold v hv).1 hdmgd'

theorem destroyedSurface_entries (he' : (destroyedSurface s id tree).entries root = some e') :
    s.entries root = some e' := by
  unfold destroyedSurface at he'
  generalize hs₀ : State.mk .. = s₀ at he'
  have hents : s₀.entries = s.entries := by rw [← hs₀]
  rw [← hents]
  cases he : s₀.entries id with
  | none =>
    rw [destroy, he] at he'
    exact he'
  | some e =>
    rw [(FrameCredit.destroy_silent he).2] at he'
    by_cases hid : root = id
    · simp [FrameCredit.forget, hid] at he'
    · simpa [FrameCredit.forget, update_of_ne hid] using he'

theorem destroyedSurface_sent (s : State) (id : ObjectId) (tree : SurfaceTree) :
    (destroyedSurface s id tree).streaming = s.streaming ∧
      ∃ new, (destroyedSurface s id tree).sent = s.sent ++ new ∧ ∀ x ∈ new, x.2.isPutImage = false := by
  unfold destroyedSurface
  generalize hs₀ : State.mk .. = s₀
  have hstrm : s₀.streaming = s.streaming := by rw [← hs₀]
  have hsent : s₀.sent = s.sent := by rw [← hs₀]
  rw [← hstrm, ← hsent]
  cases he : s₀.entries id with
  | none =>
    rw [destroy, he]
    exact ⟨rfl, [], by simp, by simp⟩
  | some e =>
    have hsil := (FrameCredit.destroy_silent he).1
    exact ⟨hsil.streaming, hsil.sent⟩

theorem Sound.step (h : Sound root u base before s) (event : Event) (hmts : Meets root s event) :
    Sound root u base before (step s event) := by
  cases event with
  | commit id buffer damage tree geometry =>
    have hsil := FrameCredit.commit_silent s id buffer damage tree geometry
    have hcvd : Covered root s (WaylandWindows.commit s id buffer damage tree geometry) := by
      obtain helsewhere | hord | hcvd := hmts
      · exact helsewhere.covered
      · exact hord.covered
      · exact hcvd
    refine ⟨registry_step h.toRegistry (.commit id buffer damage tree geometry), ?_, hsil.consuming.trans h.consuming⟩
    refine hcvd.tracks h.toTracks (length_silent hsil h.length) (mirror_silent hsil h.length)
      hsil.streaming fun e' he' => ?_
    obtain ⟨e, he, rfl⟩ := commit_entries he'
    refine ⟨e, he, ?_⟩
    split
    · dsimp only
      split
      · exact ⟨rfl, .inl rfl⟩
      · exact ⟨rfl, .inr rfl⟩
    · exact ⟨rfl, .inr rfl⟩
  | addedSubsurface parent tree =>
    refine ⟨h.toRegistry.untouched ⟨rfl, rfl, rfl, [], by simp [WindowMirror.step, addedSubsurface], fun _ => rfl⟩, ?_,
      h.consuming⟩
    exact Covered.tracks hmts h.toTracks h.length rfl rfl fun e' he' => ⟨e', he', rfl, .inr rfl⟩
  | destroyedSubsurface id tree =>
    refine ⟨registry_step h.toRegistry (.destroyedSubsurface id tree), ?_, h.consuming⟩
    exact Covered.tracks hmts h.toTracks h.length rfl rfl fun e' he' => ⟨e', he', rfl, .inr rfl⟩
  | destroyedSurface id tree =>
    obtain ⟨hstrm, new, hsent, hnew⟩ := destroyedSurface_sent s id tree
    refine ⟨registry_step h.toRegistry (.destroyedSurface id tree), ?_, ?_⟩
    · have hmir : mirror u base before (destroyedSurface s id tree) = mirror u base before s :=
        mirror_eq_of_silent h.length hsent fun x hx => hnew x (mem_of_mem_filter hx)
      refine Covered.tracks hmts h.toTracks ?_ hmir hstrm
        fun e' he' => ⟨e', destroyedSurface_entries he', rfl, .inr rfl⟩
      exact h.length.trans (step_sent s (.destroyedSurface id tree)).length_le
    · exact (FrameCredit.step_consuming s (.destroyedSurface id tree)).trans h.consuming
  | frameShipped u' =>
    refine ⟨h.toRegistry.untouched ⟨rfl, rfl, rfl, [], by simp [WindowMirror.step], fun _ => rfl⟩, ?_, h.consuming⟩
    exact h.toTracks.keep ⟨rfl, rfl, fun _ => rfl⟩ h.length rfl fun e' he' _ =>
      ⟨e', he', rfl, fun hboxed => hboxed, fun _ _ _ _ hpend => hpend⟩
  | tick =>
    refine ⟨registry_step h.toRegistry .tick, (h.tick hmts.1 hmts.2).1, ?_⟩
    exact (FrameCredit.step_consuming s .tick).trans h.consuming

theorem Opens.sound (h : Opens root u s) (before : Image) : Sound root u s.sent.length before s := by
  obtain ⟨e, he, hu, hopens⟩ := h.window
  refine ⟨h.toRegistry, ⟨Nat.le_refl _, fun e' he' _ => ?_, fun e' geo he' _ _ x y _ => .inr (.inl ?_)⟩, h.consuming⟩
  · obtain rfl : e = e' := Option.some.inj (he.symm.trans he')
    refine hopens.imp_right fun hdmg => hdmg.imp_right fun hnew => ?_
    rw [hnew.2]
    rfl
  · obtain rfl : e = e' := Option.some.inj (he.symm.trans he')
    refine hopens.imp_right fun hdmg => hdmg.imp_right fun hnew heq => ?_
    have hwd : clampU16 geo.w = 0 := (congrArg Prod.fst heq).trans hnew.1
    unfold clampU16 at hwd
    omega

/-- As long as what changes of a window is declared, or damaged for another reason, the frontend has the window
as it is after every tick that paints it. -/
theorem run_exact (root : ObjectId) (u : Uuid) (before : Image) (s : State) (hopens : Opens root u s)
    (events : List Event)
    (hmts : ∀ earlier event, earlier ++ [event] <+: events → Meets root (run s earlier) event) :
    ∀ earlier, earlier ++ [.tick] <+: events → Painted root u (run s earlier) →
      Exact root u s.sent.length before (run s (earlier ++ [.tick])) := by
  have hsound : ∀ earlier, earlier <+: events → Sound root u s.sent.length before (run s earlier) := by
    intro earlier hearlier
    induction earlier using List.reverseRecOn with
    | nil => exact hopens.sound before
    | append_singleton earlier event ih =>
      rw [run, foldl_concat]
      exact (ih ((prefix_append earlier [event]).trans hearlier)).step event (hmts earlier event hearlier)
  intro earlier htick hpntd
  obtain ⟨htrvd, hpntb⟩ := hmts earlier .tick htick
  rw [run, foldl_concat]
  exact ((hsound earlier ((prefix_append earlier [.tick]).trans htick)).tick htrvd hpntb).2 hpntd

end Steps

section Sessions

theorem ordinary_whole {id : ObjectId} {w h : Int} (hwin : rootSurface s id = root) (rgba : Image)
    (hsize : (s.surfaces id).map (fun b => (b.width, b.height, b.damage)) ∈ [none, some (w, h, .new)])
    (hw : 0 < w ∧ w < 2 ^ 31) (hh : 0 < h ∧ h < 2 ^ 31) :
    Ordinary root s id (some (.newBuffer rgba w h)) [⟨0, 0, w, h⟩] (s.trees root) (s.geometry root) := by
  have hold : ∀ b, s.surfaces id = some b → b.width = w ∧ b.height = h ∧ b.damage = .new := by
    intro b hb
    rw [hb] at hsize
    simpa using hsize
  have haround : Span.nonneg.Around ⟨0, 0, w, h⟩ := by
    constructor <;> dsimp only [Span.nonneg] <;> omega
  refine ⟨hwin, rfl, rfl, ⟨⟨hw, hh⟩, fun b hb => ?_⟩, .nonneg, ?_, fun b hb => ?_⟩
  · obtain ⟨hbw, hbh, -⟩ := hold b hb
    rw [if_pos (by rw [hbw, hbh])]
    intro x y hxy
    refine .inr ⟨_, mem_singleton_self _, ?_⟩
    unfold Reaches at hxy
    unfold Rect.Contains
    dsimp only
    omega
  · exact fun r hr => .inr (mem_singleton.mp hr ▸ haround)
  · obtain ⟨hbw, hbh, hdmg⟩ := hold b hb
    rw [hbw, hbh, hdmg]
    exact ⟨⟨hw.2, hh.2⟩, DamageAccumulator.fits_new⟩

theorem paintable_of_all {p : Span} (hgeo : geometryOf s root = some geo) (hsmall : geo.w ≤ 32768 ∧ geo.h ≤ 32768)
    (hall : ∀ v ∈ (s.trees root).visit 0 0,
      ((s.surfaces v.1).all fun sb => decide (p.Around (placement geo v sb))) = true) : Paintable root s := by
  intro geo' hgeo'
  obtain rfl : geo = geo' := Option.some.inj (hgeo.symm.trans hgeo')
  refine ⟨hsmall, p, fun v hv sb hsb => ?_⟩
  have hplcd := hall v hv
  rw [hsb] at hplcd
  simpa using hplcd

theorem painted_of_all (h : root ∈ s.roots ∧ (s.surfaces root).isSome = true ∧ ((s.entries root).any fun e =>
    e.uuid == u && !e.pendingUnmap && !FrameCredit.stalled s root) = true) : Painted root u s := by
  obtain ⟨hlstd, hbuf, hany⟩ := h
  obtain ⟨e, he, hcheck⟩ := (Option.any_eq_true ..).mp hany
  obtain ⟨⟨hu, hp⟩, hstalled⟩ : (e.uuid = u ∧ e.pendingUnmap = false) ∧ FrameCredit.stalled s root = false := by
    simpa using hcheck
  exact ⟨hlstd, hbuf, e, he, hu, hp, fun _ => hstalled⟩

def white : Pixel := ⟨255, 255, 255, 255⟩

def tree : SurfaceTree := .node 0 0 0 [] [.node 1 0 0 [] []]

def opened : State :=
  let s := addedSubsurface (WaylandWindows.step .new (.newToplevel 0 "client")) 0 tree
  { s with router := s.router.setConsuming true }

def background : Event := .commit 0 (some (.newBuffer (fun _ _ => opaqueBlack) 2 2)) [⟨0, 0, 2, 2⟩] tree none

def dot (p : Pixel) : Event := .commit 1 (some (.newBuffer (fun _ _ => p) 1 1)) [⟨0, 0, 1, 1⟩] tree none

theorem opens_opened : Opens 0 0 opened := by
  have hreg := registry_step registry_new (.newToplevel 0 "client")
  refine ⟨hreg.untouched ⟨rfl, rfl, rfl, [], by simp [opened, addedSubsurface], fun _ => rfl⟩, rfl, ?_⟩
  exact ⟨_, rfl, rfl, .inl rfl⟩

def repainted : List Event := [dot white, background, .tick, dot opaqueBlack]

theorem run_exact_repainted :
    Exact 0 0 opened.sent.length (fun _ _ => white) (run opened (repainted ++ [.tick])) := by
  refine run_exact 0 0 _ opened opens_opened (repainted ++ [.tick]) ?_ repainted prefix_rfl ?_
  · simp only [repainted, cons_append, nil_append, Runs.forall_prefix_cons]
    have hpntb : ∀ s, geometryOf s 0 = some ⟨0, 0, 2, 2⟩ → (∀ v ∈ (s.trees 0).visit 0 0,
        ((s.surfaces v.1).all fun sb => decide (Span.nonneg.Around (placement ⟨0, 0, 2, 2⟩ v sb))) = true) →
        Paintable 0 s := fun s hgeo hall => paintable_of_all hgeo (by decide) hall
    refine ⟨.inr (.inl (ordinary_whole ?_ _ ?_ ?_ ?_)), .inr (.inl (ordinary_whole ?_ _ ?_ ?_ ?_)),
      ⟨⟨?_, ?_, ?_⟩, hpntb _ ?_ ?_⟩, .inr (.inl (ordinary_whole ?_ _ ?_ ?_ ?_)),
      ⟨⟨?_, ?_, ?_⟩, hpntb _ ?_ ?_⟩, Runs.forall_prefix_nil⟩
    all_goals decide +kernel
  · refine painted_of_all ?_
    decide +kernel

def shown : List Event := [dot white, background, .tick]

def movedSubsurface : Event := .commit 0 none [] (.node 0 0 0 [] [.node 1 1 0 [] []]) none

def unmappedSubsurface : Event := .commit 1 (some .removed) [] tree none

def destroyedDot : Event := .destroyedSurface 1 (.node 0 0 0 [] [])

/-- The tick after these events paints the window, and leaves the frontend with another picture of it. -/
def Diverges (events : List Event) : Prop :=
  Painted 0 0 (run opened events) ∧
    ¬Exact 0 0 opened.sent.length (fun _ _ => opaqueBlack) (run opened (events ++ [.tick]))

theorem diverges_of_stale {events : List Event} (hpntd : Painted 0 0 (run opened events))
    (hgeo : geometryOf (run opened (events ++ [.tick])) 0 = some ⟨0, 0, 2, 2⟩)
    (hmir : mirror 0 opened.sent.length (fun _ _ => opaqueBlack) (run opened (events ++ [.tick])) 0 0 = white)
    (hpicture : picture (run opened (events ++ [.tick])) 0 ⟨0, 0, 2, 2⟩ 0 0 = opaqueBlack) : Diverges events := by
  refine ⟨hpntd, fun hexact => ?_⟩
  have heq := hexact ⟨0, 0, 2, 2⟩ hgeo 0 0 (by decide)
  rw [hmir, hpicture] at heq
  exact absurd heq (by decide)

/-- The subsurface moves, loses its buffer, or is destroyed. What it covered stays with the frontend. -/
theorem not_exact_undeclared : Opens 0 0 opened ∧ Diverges (shown ++ [movedSubsurface]) ∧
    Diverges (shown ++ [unmappedSubsurface]) ∧ Diverges (shown ++ [destroyedDot]) := by
  refine ⟨opens_opened, diverges_of_stale (painted_of_all ?_) ?_ ?_ ?_, diverges_of_stale (painted_of_all ?_) ?_ ?_ ?_,
    diverges_of_stale (painted_of_all ?_) ?_ ?_ ?_⟩
  all_goals decide +kernel

end Sessions

end X11Web.WindowMirror
