import X11Web.WaylandWindows

namespace X11Web.WaylandSteps

open List Function

open Protocol (WindowWmState)
open WaylandPixels WaylandWindows

def historyOf (u : Uuid) (sent : List (String × DisplayUpdate)) : List (String × DisplayUpdate) :=
  sent.filter fun x => x.2.windowId == some u

theorem historyOf_append (u : Uuid) (sent sent' : List (String × DisplayUpdate)) :
    historyOf u (sent ++ sent') = historyOf u sent ++ historyOf u sent' :=
  filter_append ..

def tagged (e : WindowEntry) (us : List DisplayUpdate) : List (String × DisplayUpdate) :=
  us.map fun x => (e.clientId, x)

/-- Of all windows only the one at `id` has changed, and the updates `us` about it have been sent. -/
structure Touched (s s' : State) (id : ObjectId) (e : WindowEntry) (e' : Option WindowEntry)
    (us : List DisplayUpdate) : Prop where
  entry : s.entries id = some e
  entries : s'.entries = update s.entries id e'
  same : ∀ x, e' = some x → x.uuid = e.uuid ∧ x.clientId = e.clientId ∧ (e.created = true → x.created = true)
  minted : s'.minted = s.minted
  live : ∀ u, s'.router.live u = true → s.router.live u = true ∨ u = e.uuid ∧ ∀ x, e' = some x → x.created = true
  sent : ∃ new, s'.sent = s.sent ++ new ∧ ∀ u, historyOf u new = if u = e.uuid then tagged e us else []

/-- No window has changed, and nothing has been sent that is about one. -/
structure Untouched (s s' : State) : Prop where
  entries : s'.entries = s.entries
  minted : s'.minted = s.minted
  live : s'.router.live = s.router.live
  sent : ∃ new, s'.sent = s.sent ++ new ∧ ∀ u, historyOf u new = []

theorem Untouched.refl (s : State) : Untouched s s := ⟨rfl, rfl, rfl, [], by simp, fun _ => rfl⟩

/-- At most the window at `id` has changed, from `e` to `e'`, and `us` has been sent about it. -/
def Affects (id : ObjectId) (P : WindowEntry → Option WindowEntry → List DisplayUpdate → Prop)
    (s s' : State) : Prop :=
  Untouched s s' ∨ ∃ e e' us, Touched s s' id e e' us ∧ P e e' us

variable {s s' s'' : State} {id : ObjectId} {e e₁ : WindowEntry} {e' e'' : Option WindowEntry}
  {us us' : List DisplayUpdate} {P P' : WindowEntry → Option WindowEntry → List DisplayUpdate → Prop}

theorem Touched.of_entry {i : ObjectId} (h : s.entries i = some e) : Touched s s i e (some e) [] where
  entry := h
  entries := (update_eq_self_iff.mpr h.symm).symm
  same := by
    rintro x ⟨⟩
    exact ⟨rfl, rfl, id⟩
  minted := rfl
  live := fun _ h => .inl h
  sent := ⟨[], by simp, fun u => by simp [historyOf, tagged]⟩

theorem Touched.setEntry (h : Touched s s' id e (some e₁) us) (e₂ : WindowEntry)
    (hu : e₂.uuid = e₁.uuid) (hc : e₂.clientId = e₁.clientId) (hcrt : e₁.created = true → e₂.created = true) :
    Touched s (s'.setEntry id e₂) id e (some e₂) us where
  entry := h.entry
  entries := by
    change update s'.entries id (some e₂) = _
    rw [h.entries, update_idem]
  same := by
    rintro x ⟨⟩
    obtain ⟨hu₁, hc₁, hcreated₁⟩ := h.same e₁ rfl
    exact ⟨hu.trans hu₁, hc.trans hc₁, hcrt ∘ hcreated₁⟩
  minted := h.minted
  live := by
    intro u hu
    obtain hlive | ⟨hu, hx⟩ := h.live u hu
    · exact .inl hlive
    · exact .inr ⟨hu, fun x hx' => Option.some.inj hx' ▸ hcrt (hx e₁ rfl)⟩
  sent := h.sent

theorem Touched.send (h : Touched s s' id e e' us) {c : String} {x : DisplayUpdate} (hc : c = e.clientId)
    (hx : x.windowId = some e.uuid) : Touched s (s'.send c x) id e e' (us ++ [x]) where
  entry := h.entry
  entries := h.entries
  same := h.same
  minted := h.minted
  live := h.live
  sent := by
    obtain ⟨new, hnew, hhist⟩ := h.sent
    refine ⟨new ++ [(c, x)], by simp [State.send, hnew], fun u => ?_⟩
    rw [historyOf_append, hhist]
    by_cases hu : u = e.uuid
    · simp [hu, historyOf, hx, tagged, hc]
    · simp [hu, historyOf, hx, Ne.symm hu]

theorem Touched.congr (h : Touched s s' id e e' us) (hents : s''.entries = s'.entries)
    (hminted : s''.minted = s'.minted) (hlive : s''.router.live = s'.router.live) (hsent : s''.sent = s'.sent) :
    Touched s s'' id e e' us where
  entry := h.entry
  entries := hents.trans h.entries
  same := h.same
  minted := hminted.trans h.minted
  live := hlive ▸ h.live
  sent := hsent ▸ h.sent

theorem Touched.track (h : Touched s s' id e (some e₁) us) (hc : e₁.created = true) :
    Touched s { s' with router := s'.router.track e₁.uuid } id e (some e₁) us where
  entry := h.entry
  entries := h.entries
  same := h.same
  minted := h.minted
  live := by
    intro u hu
    by_cases heq : u = e₁.uuid
    · exact .inr ⟨heq.trans (h.same e₁ rfl).1, fun x hx => Option.some.inj hx ▸ hc⟩
    · refine h.live u ?_
      simpa [WindowRouter.track, heq] using hu
  sent := h.sent

theorem Untouched.touched (h : Untouched s s') (h' : Touched s' s'' id e e' us) : Touched s s'' id e e' us where
  entry := h.entries ▸ h'.entry
  entries := h.entries ▸ h'.entries
  same := h'.same
  minted := h'.minted.trans h.minted
  live := h.live ▸ h'.live
  sent := by
    obtain ⟨new, hnew, hhist⟩ := h.sent
    obtain ⟨new', hnew', hhist'⟩ := h'.sent
    exact ⟨new ++ new', by rw [hnew', hnew, append_assoc], fun u => by rw [historyOf_append, hhist, hhist', nil_append]⟩

theorem Touched.trans (h : Touched s s' id e (some e₁) us) (h' : Touched s' s'' id e₁ e'' us') :
    Touched s s'' id e e'' (us ++ us') where
  entry := h.entry
  entries := by rw [h'.entries, h.entries, update_idem]
  same := by
    intro x hx
    obtain ⟨hu, hc, hcrt⟩ := h'.same x hx
    obtain ⟨hu₁, hc₁, hcreated₁⟩ := h.same e₁ rfl
    exact ⟨hu.trans hu₁, hc.trans hc₁, hcrt ∘ hcreated₁⟩
  minted := h'.minted.trans h.minted
  live := by
    intro u hu
    obtain hlive | ⟨hu', hx⟩ := h'.live u hu
    · obtain hlive | ⟨hu', hcrt⟩ := h.live u hlive
      · exact .inl hlive
      · exact .inr ⟨hu', fun x hx => (h'.same x hx).2.2 (hcrt e₁ rfl)⟩
    · exact .inr ⟨hu'.trans (h.same e₁ rfl).1, hx⟩
  sent := by
    obtain ⟨new, hnew, hhist⟩ := h.sent
    obtain ⟨new', hnew', hhist'⟩ := h'.sent
    obtain ⟨hu₁, hc₁, -⟩ := h.same e₁ rfl
    refine ⟨new ++ new', by rw [hnew', hnew, append_assoc], fun u => ?_⟩
    rw [historyOf_append, hhist, hhist', hu₁]
    by_cases hu : u = e.uuid <;> simp [hu, tagged, hc₁]

def Quiet : DisplayUpdate → Prop
  | .titleChanged .. | .windowStateChanged .. | .windowRaised _ | .windowFocused _ => True
  | _ => False

section Functions

theorem applyFocus_none : Untouched s (applyFocus s none) := by
  rw [applyFocus]
  by_cases h : s.focused = none
  · rw [if_pos h]
    exact .refl s
  · rw [if_neg h]
    exact ⟨rfl, rfl, rfl, [("", .windowFocused none)], rfl, fun u => rfl⟩

theorem applyFocus_touched (h : s.entries id = some e) :
    ∃ us, (∀ x ∈ us, Quiet x) ∧ Touched s (applyFocus s (some id)) id e (some e) us := by
  rw [applyFocus]
  by_cases hf : s.focused = some id
  · rw [if_pos hf]
    exact ⟨[], by simp, .of_entry h⟩
  · rw [if_neg hf]
    have hent : (some id).bind s.entries = some e := h
    refine ⟨[.windowRaised e.uuid, .windowFocused (some e.uuid)], by simp [Quiet], ?_⟩
    simp only [hent]
    have htouched : Touched s { s with focused := some id } id e (some e) [] :=
      (Touched.of_entry h).congr rfl rfl rfl rfl
    exact (htouched.send rfl rfl).send rfl rfl

theorem focusWindow_affects :
    Affects id (fun e e' us => e' = some e ∧ ∀ x ∈ us, Quiet x) s (focusWindow s id) := by
  cases h : s.entries id with
  | none =>
    simp only [focusWindow, h]
    exact .inl (.refl s)
  | some e =>
    simp only [focusWindow, h]
    split
    · exact .inl (.refl s)
    · obtain ⟨us, hqt, ht⟩ := applyFocus_touched h
      exact .inr ⟨e, some e, us, ht, rfl, hqt⟩

theorem repositionRequest_affects (x y : Int) :
    Affects id (fun e e' us => e' = some { e with x := x, y := y } ∧ us = []) s (repositionRequest s id x y) := by
  cases h : s.entries id with
  | none =>
    simp only [repositionRequest, h]
    exact .inl (.refl s)
  | some e =>
    simp only [repositionRequest, h]
    exact .inr ⟨e, _, [], (Touched.of_entry h).setEntry _ rfl rfl (fun h => h), rfl, rfl⟩

theorem emitState_affects (state : WindowWmState) :
    Affects id (fun e e' us => e.wmState ≠ state ∧ e' = some { e with wmState := state } ∧
      us = [.windowStateChanged e.uuid state]) s (emitState s id state) := by
  cases h : s.entries id with
  | none =>
    simp only [emitState, h]
    exact .inl (.refl s)
  | some e =>
    simp only [emitState, h]
    by_cases hst : e.wmState = state
    · rw [if_pos hst]
      exact .inl (.refl s)
    · rw [if_neg hst]
      have ht := (Touched.of_entry h).setEntry { e with wmState := state } rfl rfl fun h => h
      exact .inr ⟨e, _, _, ht.send rfl rfl, hst, rfl, rfl⟩

theorem emitMinimized_affects :
    Affects id (fun e e' us => e.mapped = true ∧ e' = some e ∧ us = [.windowUnmapped e.uuid]) s
      (emitMinimized s id) := by
  cases h : s.entries id with
  | none =>
    simp only [emitMinimized, h]
    exact .inl (.refl s)
  | some e =>
    simp only [emitMinimized, h]
    by_cases hm : e.mapped
    · rw [if_pos hm]
      exact .inr ⟨e, _, _, (Touched.of_entry h).send rfl rfl, hm, rfl, rfl⟩
    · rw [if_neg hm]
      exact .inl (.refl s)

theorem emitRestored_affects :
    Affects id (fun e e' us => e.mapped = true ∧ e' = some { e with damage := e.damage.markFull } ∧
      us = [.windowMapped e.uuid e.kind.flags.1 e.kind.flags.2]) s (emitRestored s id) := by
  cases h : s.entries id with
  | none =>
    simp only [emitRestored, h]
    exact .inl (.refl s)
  | some e =>
    simp only [emitRestored, h]
    by_cases hm : e.mapped
    · rw [if_pos hm]
      have ht := (Touched.of_entry h).setEntry { e with damage := e.damage.markFull } rfl rfl fun h => h
      exact .inr ⟨e, _, _, ht.send rfl rfl, hm, rfl, rfl⟩
    · rw [if_neg hm]
      exact .inl (.refl s)

theorem refreshLabel_affects (label : Option String) :
    Affects id (fun e e' us => (∃ title, e' = some { e with title := title }) ∧ (us ≠ [] → e.created = true) ∧
      ∀ x ∈ us, Quiet x) s (refreshLabel s id label) := by
  have huntouched : Untouched s { s with labels := update s.labels id label } :=
    ⟨rfl, rfl, rfl, [], by simp, fun _ => rfl⟩
  cases h : s.entries id with
  | none =>
    simp only [refreshLabel, h]
    exact .inl huntouched
  | some e =>
    simp only [refreshLabel, h]
    by_cases ht : e.title = label.getD ""
    · rw [if_pos ht]
      exact .inl huntouched
    · rw [if_neg ht]
      have hent : { s with labels := update s.labels id label }.entries id = some e := h
      have htouched := huntouched.touched ((Touched.of_entry hent).setEntry
        { e with title := label.getD "" } rfl rfl fun h => h)
      by_cases hc : e.created
      · rw [if_pos hc]
        exact .inr ⟨e, _, _, htouched.send rfl rfl, ⟨_, rfl⟩, fun _ => hc, by simp [Quiet]⟩
      · rw [if_neg hc]
        exact .inr ⟨e, _, _, htouched, ⟨_, rfl⟩, by simp, by simp⟩

theorem commit_affects (buffer : Option BufferAssignment) (damage : List Rect) (tree : SurfaceTree)
    (geometry : Option Rect) :
    Affects (rootSurface s id) (fun e e' us => (∃ pendingUnmap damage, e' = some { e with
      dirty := true, pendingUnmap := pendingUnmap, damage := damage }) ∧ us = []) s
      (commit s id buffer damage tree geometry) := by
  cases h : s.entries (rootSurface s id) with
  | none =>
    simp only [commit, h]
    exact .inl ⟨rfl, rfl, rfl, [], by simp, fun _ => rfl⟩
  | some e =>
    simp only [commit, h]
    have htouched := ((Touched.of_entry h).setEntry { e with
      dirty := true
      pendingUnmap := e.pendingUnmap || ((commitBuffer (s.surfaces id) buffer damage).2.removed && rootSurface s id == id)
      damage := if (commitBuffer (s.surfaces id) buffer damage).2.resized && rootSurface s id == id
        then e.damage.markFull else e.damage } rfl rfl fun h => h)
    exact .inr ⟨e, _, [], htouched.congr rfl rfl rfl rfl, ⟨_, _, rfl⟩, rfl⟩

theorem addressed_cases (u : Uuid) (f : ObjectId → State) : addressed s u f = s ∨
    ∃ id e, s.entries id = some e ∧ e.uuid = u ∧ s.router.live u = true ∧ addressed s u f = f id := by
  unfold addressed
  split
  · next hlive =>
    cases hid : s.idForUuid u with
    | none => exact .inl rfl
    | some id =>
      rw [State.idForUuid] at hid
      have hany := List.find?_some hid
      obtain ⟨e, he, hu⟩ := (Option.any_eq_true ..).mp hany
      exact .inr ⟨id, e, he, by simpa using hu, hlive, rfl⟩
  · exact .inl rfl

theorem destroy_affects (s : State) (id : ObjectId) : ∃ s₁ next,
    Affects id (fun e e' us => e' = none ∧ us =
      (if e.mapped then [.windowUnmapped e.uuid] else []) ++ (if e.created then [.windowDestroyed e.uuid] else []))
      s s₁ ∧
    Affects next (fun e e' us => e.mapped = true ∧ e' = some e ∧ ∀ x ∈ us, Quiet x) s₁ (destroy s id) := by
  cases h : s.entries id with
  | none =>
    simp only [destroy, h]
    exact ⟨s, id, .inl (.refl s), .inl (.refl s)⟩
  | some e =>
    simp only [destroy, h]
    generalize hs₀ : State.mk .. = s₀
    have h₀ : Touched s s₀ id e none [] := by
      rw [← hs₀]
      refine ⟨h, rfl, by simp, rfl, fun u hu => .inl ?_, [], by simp, fun u => by simp [historyOf, tagged]⟩
      by_cases heq : u = e.uuid
      · simp [WindowRouter.untrack, heq] at hu
      · simpa [WindowRouter.untrack, heq] using hu
    generalize hs₁ : (if e.mapped = true then s₀.send e.clientId (.windowUnmapped e.uuid) else s₀) = s₁
    have h₁ : Touched s s₁ id e none (if e.mapped then [.windowUnmapped e.uuid] else []) := by
      rw [← hs₁]
      split
      · exact h₀.send rfl rfl
      · exact h₀
    generalize hs₂ : (if e.created = true then s₁.send e.clientId (.windowDestroyed e.uuid) else s₁) = s₂
    have h₂ : Touched s s₂ id e none ((if e.mapped then [.windowUnmapped e.uuid] else []) ++
        (if e.created then [.windowDestroyed e.uuid] else [])) := by
      rw [← hs₂]
      split
      · exact h₁.send rfl rfl
      · simpa using h₁
    split
    · cases hnext : s₂.toplevels.find? fun i => (s₂.entries i).any fun e => e.mapped with
      | none => exact ⟨s₂, id, .inr ⟨e, _, _, h₂, rfl, rfl⟩, .inl applyFocus_none⟩
      | some next =>
        have hmpd := List.find?_some hnext
        obtain ⟨e₁, he₁, hm⟩ := (Option.any_eq_true ..).mp hmpd
        obtain ⟨us, hqt, ht⟩ := applyFocus_touched he₁
        exact ⟨s₂, next, .inr ⟨e, _, _, h₂, rfl, rfl⟩, .inr ⟨e₁, _, us, ht, hm, rfl, hqt⟩⟩
    · exact ⟨s₂, id, .inr ⟨e, _, _, h₂, rfl, rfl⟩, .inl (.refl s₂)⟩

/-- What a tick makes of one window before it is painted at `w × h`. -/
inductive Announces (w h : Int) : WindowEntry → Option WindowEntry → List DisplayUpdate → Prop
  | settled (e : WindowEntry) (hm : e.mapped = false) :
    Announces w h e (some { e with pendingUnmap := false }) []
  | unmapped (e : WindowEntry) (fb : Image) (hp : e.pendingUnmap = true) (hm : e.mapped = true) :
    Announces w h e (some { e with
      pendingUnmap := false, mapped := false, damage := .new, fb := fb, width := 0, height := 0 })
      [.windowUnmapped e.uuid]
  | created (e : WindowEntry) (fb : Image) (damage : DamageAccumulator) (title : String)
      (quiet : List DisplayUpdate) (hc : e.created = false) (hqt : ∀ x ∈ quiet, Quiet x) :
    Announces w h e (some { e with
      width := w, height := h, fb := fb, damage := damage, created := true, mapped := true, title := title })
      (.windowCreated e.uuid e.x e.y w h e.kind.flags.1 e.kind.flags.2 ::
        .windowMapped e.uuid e.kind.flags.1 e.kind.flags.2 :: quiet)
  | remapped (e : WindowEntry) (fb : Image) (damage : DamageAccumulator) (hc : e.created = true)
      (hm : e.mapped = false) :
    Announces w h e (some { e with width := w, height := h, fb := fb, damage := damage, mapped := true })
      (.windowMapped e.uuid e.kind.flags.1 e.kind.flags.2 ::
        if e.width ≠ w ∨ e.height ≠ h then [.windowConfigured e.uuid e.x e.y w h] else [])
  | stayed (e : WindowEntry) (fb : Image) (damage : DamageAccumulator) (hc : e.created = true)
      (hm : e.mapped = true) :
    Announces w h e (some { e with width := w, height := h, fb := fb, damage := damage })
      (if e.width ≠ w ∨ e.height ≠ h then [.windowConfigured e.uuid e.x e.y w h] else [])

theorem fit_eq (e : WindowEntry) (w h : Int) :
    ∃ fb damage, e.fit w h = { e with width := w, height := h, fb := fb, damage := damage } := by
  unfold WindowEntry.fit
  split
  · next hsize =>
    obtain ⟨rfl, rfl⟩ := hsize
    exact ⟨e.fb, e.damage, rfl⟩
  · exact ⟨_, _, rfl⟩

theorem emitMap_touched {entry : WindowEntry} (h : Touched s s' id e (some entry) []) :
    ∃ quiet, (∀ x ∈ quiet, Quiet x) ∧ Touched s (emitMap s' entry) id e (some entry)
      (.windowCreated e.uuid entry.x entry.y entry.width entry.height entry.kind.flags.1 entry.kind.flags.2 ::
        .windowMapped e.uuid entry.kind.flags.1 entry.kind.flags.2 :: quiet) := by
  obtain ⟨hu, hc, -⟩ := h.same entry rfl
  have hburst := (h.send (c := entry.clientId) (x := .windowCreated entry.uuid entry.x entry.y entry.width
    entry.height entry.kind.flags.1 entry.kind.flags.2) hc (congrArg some hu)).send (c := entry.clientId)
    (x := .windowMapped entry.uuid entry.kind.flags.1 entry.kind.flags.2) hc (congrArg some hu)
  rw [← hu]
  by_cases ht : entry.title = ""
  · refine ⟨[], by simp, ?_⟩
    simp only [emitMap, if_pos ht]
    exact hburst
  · refine ⟨[.titleChanged entry.uuid entry.title], by simp [Quiet], ?_⟩
    simp only [emitMap, if_neg ht]
    exact hburst.send hc (congrArg some hu)

theorem unmapWindow_affects (w h : Int) (he : s.entries id = some e) (hp : e.pendingUnmap = true) :
    Affects id (Announces w h) s (unmapWindow s id e) := by
  unfold unmapWindow
  by_cases hm : e.mapped = true
  · rw [if_pos hm]
    have ht := (Touched.of_entry he).setEntry { e with
      pendingUnmap := false, mapped := false, damage := .new, fb := fun _ _ => opaqueBlack, width := 0, height := 0 }
      rfl rfl fun h => h
    exact .inr ⟨e, _, _, ht.send rfl rfl, .unmapped e _ hp hm⟩
  · rw [if_neg hm]
    have ht := (Touched.of_entry he).setEntry { e with pendingUnmap := false } rfl rfl fun h => h
    exact .inr ⟨e, _, _, ht, .settled e (by simpa using hm)⟩

theorem Touched.entries_self (h : Touched s s' id e e' us) : s'.entries id = e' := by
  rw [h.entries, update_self]

theorem createWindow_touched (w h : Int) (he : s.entries id = some e) (hc : e.created = false) :
    ∃ e' us, Touched s (createWindow s id e w h) id e (some e') us ∧ Announces w h e (some e') us ∧
      e'.mapped = true := by
  obtain ⟨fb, damage, hfit⟩ := fit_eq e w h
  unfold createWindow
  rw [hfit]
  generalize hent : WindowEntry.mk .. = entry
  have hset : Touched s (s.setEntry id entry) id e (some entry) [] := by
    rw [← hent]
    exact (Touched.of_entry he).setEntry _ rfl rfl fun _ => rfl
  have hcrt : entry.created = true := by rw [← hent]
  obtain ⟨quiet, hqt, hmap⟩ := emitMap_touched hset
  have htrack := hmap.track hcrt
  dsimp only
  generalize { emitMap (s.setEntry id entry) entry with
    router := (emitMap (s.setEntry id entry) entry).router.track entry.uuid } = s' at htrack ⊢
  have hfoc : ∃ us, (∀ x ∈ us, Quiet x) ∧
      Touched s' (if entry.kind = .toplevel then applyFocus s' (some id) else s') id entry (some entry) us := by
    split
    · exact applyFocus_touched htrack.entries_self
    · exact ⟨[], by simp, .of_entry htrack.entries_self⟩
  obtain ⟨us, hus, ht⟩ := hfoc
  refine ⟨entry, _, htrack.trans ht, ?_, by rw [← hent]⟩
  have hboth : ∀ x ∈ quiet ++ us, Quiet x := by
    intro x hx
    exact (mem_append.mp hx).elim (hqt x) (hus x)
  rw [← hent]
  exact .created e fb damage _ (quiet ++ us) hc hboth

theorem updateWindow_touched (w h : Int) (he : s.entries id = some e) (hc : e.created = true) :
    ∃ e' us, Touched s (updateWindow s id e w h) id e (some e') us ∧ Announces w h e (some e') us ∧
      e'.mapped = true := by
  obtain ⟨fb, damage, hfit⟩ := fit_eq e w h
  unfold updateWindow
  rw [hfit]
  dsimp only
  by_cases hm : e.mapped = true
  · rw [if_pos hm]
    have ht := (Touched.of_entry he).setEntry { e with width := w, height := h, fb := fb, damage := damage }
      rfl rfl fun h => h
    have hanns := Announces.stayed (w := w) (h := h) e fb damage hc hm
    by_cases hsize : e.width ≠ w ∨ e.height ≠ h
    · rw [if_pos hsize] at hanns ⊢
      exact ⟨_, _, ht.send rfl rfl, hanns, hm⟩
    · rw [if_neg hsize] at hanns ⊢
      exact ⟨_, _, ht, hanns, hm⟩
  · rw [if_neg hm]
    have ht := ((Touched.of_entry he).setEntry { e with
      width := w, height := h, fb := fb, damage := damage.markFull, mapped := true } rfl rfl fun h => h).send
      (c := e.clientId) (x := .windowMapped e.uuid e.kind.flags.1 e.kind.flags.2) rfl rfl
    have hanns := Announces.remapped (w := w) (h := h) e fb damage.markFull hc (by simpa using hm)
    by_cases hsize : e.width ≠ w ∨ e.height ≠ h
    · rw [if_pos hsize] at hanns ⊢
      exact ⟨_, _, ht.send rfl rfl, hanns, rfl⟩
    · rw [if_neg hsize] at hanns ⊢
      exact ⟨_, _, ht, hanns, rfl⟩

theorem announce_affects (s : State) (id : ObjectId) : ∃ geo : Rect,
    geo = ((s.surfaces id).map fun sb => windowRect s id sb.width sb.height).getD ⟨0, 0, 0, 0⟩ ∧
    Affects id (Announces (paintedSize geo).1 (paintedSize geo).2) s (announce s id).1 ∧
    ∀ p, (announce s id).2 = some p → p.1 = geo ∧ ∃ e, (announce s id).1.entries id = some e ∧ e.mapped = true := by
  refine ⟨_, rfl, ?_⟩
  cases he : s.entries id with
  | none =>
    simp only [announce, he]
    exact ⟨.inl (.refl s), by simp⟩
  | some e =>
    simp only [announce, he]
    by_cases hp : e.pendingUnmap = true
    · rw [if_pos hp]
      exact ⟨unmapWindow_affects _ _ he hp, by simp⟩
    rw [if_neg hp]
    cases hsb : s.surfaces id with
    | none => exact ⟨.inl (.refl s), by simp⟩
    | some sb =>
      by_cases hc : e.created = true
      · simp only [if_pos hc]
        obtain ⟨e', us, ht, hanns, hm⟩ := updateWindow_touched _ _ he hc
        refine ⟨.inr ⟨e, _, us, ht, hanns⟩, ?_⟩
        rintro p ⟨⟩
        exact ⟨rfl, e', ht.entries_self, hm⟩
      · simp only [if_neg hc]
        obtain ⟨e', us, ht, hanns, hm⟩ := createWindow_touched _ _ he (by simpa using hc)
        refine ⟨.inr ⟨e, _, us, ht, hanns⟩, ?_⟩
        rintro p ⟨⟩
        exact ⟨rfl, e', ht.entries_self, hm⟩

theorem asI16_eq_self {n : Int} (hl : 0 ≤ n) (hr : n < 32768) : asI16 n = n := by
  rw [asI16, Int.bmod_def]
  omega

theorem asU16_eq_self {n : Int} (hl : 0 ≤ n) (hr : n < 65536) : asU16 n = n := Int.emod_eq_of_lt hl hr

inductive Paints (consuming : Bool) : WindowEntry → Option WindowEntry → List DisplayUpdate → Prop
  | kept (e : WindowEntry) (fb : Image) :
    Paints consuming e (some { e with dirty := false, damage := .new, fb := fb }) []
  | emitted (e : WindowEntry) (fb : Image) (rect : Rect) (data : Image) (hrect : rect.Within e.width e.height)
      (hcons : consuming = true) :
    Paints consuming e (some { e with dirty := false, damage := .new, fb := fb })
      [.putImage e.uuid (asI16 rect.x) (asI16 rect.y) (asU16 rect.w) (asU16 rect.h) data]

theorem emitImage_touched (fb : Image) (rect : Rect) (h : Touched s s' id e e' []) :
    Touched s (emitImage s' e fb rect) id e e'
      [.putImage e.uuid (asI16 rect.x) (asI16 rect.y) (asU16 rect.w) (asU16 rect.h)
        (forceOpaque (cropRgba fb rect))] := by
  have hspent : Touched s { s' with router := s'.router.frameEmitted e.uuid } id e e' [] := h.congr rfl rfl rfl rfl
  exact hspent.send rfl rfl

theorem compositeAndEmit_affects (s : State) (id : ObjectId) (consuming : Bool) (geo : Rect) :
    Affects id (Paints consuming) s (compositeAndEmit consuming s id geo) := by
  cases he : s.entries id with
  | none =>
    simp only [compositeAndEmit, he]
    exact .inl (.refl s)
  | some e =>
    simp only [compositeAndEmit, he]
    split
    · exact .inl (.refl s)
    · generalize List.foldl _ _ _ = canvas
      have hsame : Touched s { s with surfaces := canvas.1 } id e (some e) [] :=
        (Touched.of_entry he).congr rfl rfl rfl rfl
      have ht := hsame.setEntry { e with dirty := false, damage := .new, fb := canvas.2.2 } rfl rfl fun h => h
      cases htake : canvas.2.1.take e.width e.height with
      | none => exact .inr ⟨e, _, _, ht, .kept e _⟩
      | some rect =>
        cases consuming with
        | false => exact .inr ⟨e, _, _, ht, .kept e _⟩
        | true =>
          refine .inr ⟨e, _, _, emitImage_touched canvas.2.2 rect ht, ?_⟩
          exact .emitted e _ rect _ (DamageAccumulator.within_of_take htake) rfl

end Functions

/-- Every window has a UUID of its own, and only windows that have been created are tracked. -/
structure Registry (s : State) : Prop where
  minted : ∀ id e, s.entries id = some e → e.uuid < s.minted
  distinct : ∀ id id' e e', s.entries id = some e → s.entries id' = some e' → e.uuid = e'.uuid → id = id'
  live : ∀ u, s.router.live u = true → u < s.minted
  created : ∀ id e, s.entries id = some e → s.router.live e.uuid = true → e.created = true

variable {I : WindowEntry → List (String × DisplayUpdate) → Prop} {J : List (String × DisplayUpdate) → Prop}
  {base : Nat}

/-- What holds of each window and of the updates about it that were sent from `base` on: `I` of a window
that is there, `J` of one that is gone. -/
structure Holds (base : Nat) (I : WindowEntry → List (String × DisplayUpdate) → Prop)
    (J : List (String × DisplayUpdate) → Prop) (s : State) : Prop extends Registry s where
  length : base ≤ s.sent.length
  present : ∀ id e, s.entries id = some e → I e (historyOf e.uuid (s.sent.drop base))
  absent : ∀ u < s.minted, (∀ id e, s.entries id = some e → e.uuid ≠ u) → J (historyOf u (s.sent.drop base))
  unminted : ∀ u, s.minted ≤ u → historyOf u (s.sent.drop base) = []

def HoldsOf (I : WindowEntry → List (String × DisplayUpdate) → Prop) (J : List (String × DisplayUpdate) → Prop)
    (H : List (String × DisplayUpdate)) : Option WindowEntry → Prop
  | some e => I e H
  | none => J H

theorem Registry.untouched (h : Registry s) (hu : Untouched s s') : Registry s' where
  minted := hu.entries ▸ hu.minted ▸ h.minted
  distinct := hu.entries ▸ h.distinct
  live := hu.live ▸ hu.minted ▸ h.live
  created := hu.entries ▸ hu.live ▸ h.created

theorem Registry.touched (h : Registry s) (ht : Touched s s' id e e' us) : Registry s' := by
  have hcases : ∀ i x, s'.entries i = some x → i = id ∧ e' = some x ∨ i ≠ id ∧ s.entries i = some x := by
    intro i x hx
    rw [ht.entries] at hx
    by_cases hi : i = id
    · rw [hi, update_self] at hx
      exact .inl ⟨hi, hx⟩
    · rw [update_of_ne hi] at hx
      exact .inr ⟨hi, hx⟩
  have hold : ∀ i x, s'.entries i = some x → ∃ y, s.entries i = some y ∧ x.uuid = y.uuid := by
    intro i x hx
    obtain ⟨rfl, hx⟩ | ⟨-, hx⟩ := hcases i x hx
    · exact ⟨e, ht.entry, (ht.same x hx).1⟩
    · exact ⟨x, hx, rfl⟩
  constructor
  · intro i x hx
    obtain ⟨y, hy, heq⟩ := hold i x hx
    rw [heq, ht.minted]
    exact h.minted i y hy
  · intro i i' x x' hx hx' heq
    obtain ⟨y, hy, hxy⟩ := hold i x hx
    obtain ⟨y', hy', hxy'⟩ := hold i' x' hx'
    exact h.distinct i i' y y' hy hy' (hxy ▸ hxy' ▸ heq)
  · intro u hu
    rw [ht.minted]
    obtain hlive | ⟨rfl, -⟩ := ht.live u hu
    · exact h.live u hlive
    · exact h.minted id e ht.entry
  · intro i x hx hlive
    obtain hlive | ⟨heq, hcrt⟩ := ht.live _ hlive
    · obtain ⟨rfl, hx⟩ | ⟨-, hx⟩ := hcases i x hx
      · rw [(ht.same x hx).1] at hlive
        exact (ht.same x hx).2.2 (h.created i e ht.entry hlive)
      · exact h.created i x hx hlive
    · obtain ⟨-, hx⟩ | ⟨hi, hx⟩ := hcases i x hx
      · exact hcrt x hx
      · exact absurd (h.distinct i id x e hx ht.entry heq) hi

theorem Registry.affects (h : Registry s) (ha : Affects id P s s') : Registry s' := by
  obtain hu | ⟨e, e', us, ht, -⟩ := ha
  · exact h.untouched hu
  · exact h.touched ht

theorem Holds.untouched (h : Holds base I J s) (hu : Untouched s s') : Holds base I J s' := by
  obtain ⟨new, hnew, hhist⟩ := hu.sent
  have hsame : ∀ u, historyOf u (s'.sent.drop base) = historyOf u (s.sent.drop base) := by
    intro u
    rw [hnew, drop_append_of_le_length h.length, historyOf_append, hhist, append_nil]
  refine ⟨h.toRegistry.untouched hu, ?_, ?_, ?_, ?_⟩
  · rw [hnew, length_append]
    exact Nat.le_add_right_of_le h.length
  · rw [hu.entries]
    intro i x hx
    rw [hsame]
    exact h.present i x hx
  · rw [hu.entries, hu.minted]
    intro u
    rw [hsame]
    exact h.absent u
  · rw [hu.minted]
    intro u
    rw [hsame]
    exact h.unminted u

theorem Holds.mono {I' : WindowEntry → List (String × DisplayUpdate) → Prop} (h : Holds base I J s)
    (hI : ∀ id e, s.entries id = some e → I e (historyOf e.uuid (s.sent.drop base)) →
      I' e (historyOf e.uuid (s.sent.drop base))) : Holds base I' J s :=
  ⟨h.toRegistry, h.length, fun id e he => hI id e he (h.present id e he), h.absent, h.unminted⟩

theorem Holds.touched (h : Holds base I J s) (ht : Touched s s' id e e' us)
    (hlocal : I e (historyOf e.uuid (s.sent.drop base)) →
      HoldsOf I J (historyOf e.uuid (s.sent.drop base) ++ tagged e us) e') : Holds base I J s' := by
  obtain ⟨new, hnew, hhist⟩ := ht.sent
  have hsent : ∀ u, historyOf u (s'.sent.drop base) =
      historyOf u (s.sent.drop base) ++ if u = e.uuid then tagged e us else [] := by
    intro u
    rw [hnew, drop_append_of_le_length h.length, historyOf_append, hhist]
  have hlocal' := hlocal (h.present id e ht.entry)
  refine ⟨h.toRegistry.touched ht, ?_, ?_, ?_, ?_⟩
  · rw [hnew, length_append]
    exact Nat.le_add_right_of_le h.length
  · intro i x hx
    rw [ht.entries] at hx
    by_cases hi : i = id
    · rw [hi, update_self] at hx
      rw [hsent, (ht.same x hx).1, if_pos rfl]
      rw [hx] at hlocal'
      exact hlocal'
    · rw [update_of_ne hi] at hx
      rw [hsent, if_neg fun heq => hi (h.distinct i id x e hx ht.entry heq), append_nil]
      exact h.present i x hx
  · intro u hu hgone
    rw [ht.minted] at hu
    rw [hsent]
    by_cases heq : u = e.uuid
    · rw [if_pos heq, heq]
      cases e' with
      | none => exact hlocal'
      | some x => exact absurd ((ht.same x rfl).1.trans heq.symm) (hgone id x ht.entries_self)
    · rw [if_neg heq, append_nil]
      refine h.absent u hu fun i x hx hxu => ?_
      by_cases hi : i = id
      · rw [hi, ht.entry] at hx
        exact heq (Option.some.inj hx ▸ hxu.symm)
      · refine hgone i x ?_ hxu
        rw [ht.entries, update_of_ne hi]
        exact hx
  · intro u hu
    rw [ht.minted] at hu
    have hne : u ≠ e.uuid := Nat.ne_of_gt (Nat.lt_of_lt_of_le (h.minted id e ht.entry) hu)
    rw [hsent, if_neg hne, append_nil]
    exact h.unminted u hu

theorem Holds.affects (h : Holds base I J s) (ha : Affects id P s s')
    (hlocal : ∀ e e' us H, H = historyOf e.uuid (s.sent.drop base) → s.entries id = some e → P e e' us → I e H →
      HoldsOf I J (H ++ tagged e us) e') :
    Holds base I J s' := by
  obtain hu | ⟨e, e', us, ht, hp⟩ := ha
  · exact h.untouched hu
  · exact h.touched ht (hlocal e e' us _ rfl ht.entry hp)

theorem Holds.register (h : Holds base I J s) (hid : s.entries id = none) (clientId : String) (kind : WindowKind)
    (x y : Int) (hI : I (.new s.minted clientId kind x y) []) :
    Holds base I J (WaylandWindows.register s id clientId kind x y) := by
  have hcases : ∀ i z, (WaylandWindows.register s id clientId kind x y).entries i = some z →
      i = id ∧ z = .new s.minted clientId kind x y ∨ i ≠ id ∧ s.entries i = some z := by
    intro i z hz
    by_cases hi : i = id
    · rw [hi] at hz
      exact .inl ⟨hi, by simpa [WaylandWindows.register] using hz.symm⟩
    · exact .inr ⟨hi, by simpa [WaylandWindows.register, update_of_ne hi] using hz⟩
  refine ⟨⟨?_, ?_, ?_, ?_⟩, h.length, ?_, ?_, ?_⟩
  · intro i z hz
    obtain ⟨-, rfl⟩ | ⟨-, hz⟩ := hcases i z hz
    · exact Nat.lt_succ_self _
    · exact Nat.lt_succ_of_lt (h.minted i z hz)
  · intro i i' z z' hz hz' heq
    obtain ⟨hi, rfl⟩ | ⟨-, hz⟩ := hcases i z hz <;> obtain ⟨hi', rfl⟩ | ⟨-, hz'⟩ := hcases i' z' hz'
    · rw [hi, hi']
    · exact absurd heq (Nat.ne_of_gt (h.minted i' z' hz'))
    · exact absurd heq (Nat.ne_of_lt (h.minted i z hz))
    · exact h.distinct i i' z z' hz hz' heq
  · exact fun u hu => Nat.lt_succ_of_lt (h.live u hu)
  · intro i z hz hlive
    obtain ⟨-, rfl⟩ | ⟨-, hz⟩ := hcases i z hz
    · exact absurd (h.live _ hlive) (Nat.lt_irrefl _)
    · exact h.created i z hz hlive
  · intro i z hz
    obtain ⟨-, rfl⟩ | ⟨-, hz⟩ := hcases i z hz
    · change I _ (historyOf s.minted (s.sent.drop base))
      rw [h.unminted s.minted (Nat.le_refl _)]
      exact hI
    · exact h.present i z hz
  · intro u hu hgone
    have hne : u ≠ s.minted := by
      rintro rfl
      exact hgone id (.new s.minted clientId kind x y) (by simp [WaylandWindows.register]) rfl
    refine h.absent u (Nat.lt_of_le_of_ne (Nat.le_of_lt_succ hu) hne) fun i z hz => hgone i z ?_
    have hi : i ≠ id := by
      rintro rfl
      rw [hid] at hz
      cases hz
    simpa [WaylandWindows.register, update_of_ne hi] using hz
  · exact fun u hu => h.unminted u (Nat.le_of_succ_le hu)

theorem Holds.congr (h : Holds base I J s) (hents : s'.entries = s.entries) (hminted : s'.minted = s.minted)
    (hlive : s'.router.live = s.router.live) (hsent : s'.sent = s.sent) : Holds base I J s' :=
  h.untouched ⟨hents, hminted, hlive, [], by simp [hsent], fun _ => rfl⟩

theorem Holds.observe (h : Holds base I J s)
    (hI : ∀ e H, I e H → I { e with damage := e.damage.markFull } H) : Holds base I J (WaylandWindows.observe s) := by
  unfold WaylandWindows.observe
  split
  · exact h
  · generalize hs' : { s with streaming := s.router.consuming, router := s.router.clearPending } = s'
    have h' : Holds base I J s' := by
      rw [← hs']
      exact h.congr rfl rfl rfl rfl
    dsimp only
    split
    · have hcases : ∀ i z, ((s'.entries i).map fun e => { e with damage := e.damage.markFull }) = some z →
          ∃ e, s'.entries i = some e ∧ z = { e with damage := e.damage.markFull } := by
        intro i z hz
        obtain ⟨e, he, hz⟩ := Option.map_eq_some_iff.mp hz
        exact ⟨e, he, hz.symm⟩
      refine ⟨⟨?_, ?_, h'.live, ?_⟩, h'.length, ?_, ?_, h'.unminted⟩
      · intro i z hz
        obtain ⟨e, he, rfl⟩ := hcases i z hz
        exact h'.minted i e he
      · intro i i' z z' hz hz' heq
        obtain ⟨e, he, rfl⟩ := hcases i z hz
        obtain ⟨e', he', rfl⟩ := hcases i' z' hz'
        exact h'.distinct i i' e e' he he' heq
      · intro i z hz hlive
        obtain ⟨e, he, rfl⟩ := hcases i z hz
        exact h'.created i e he hlive
      · intro i z hz
        obtain ⟨e, he, rfl⟩ := hcases i z hz
        exact hI e _ (h'.present i e he)
      · intro u hu hgone
        refine h'.absent u hu fun i e he => hgone i { e with damage := e.damage.markFull } ?_
        change (s'.entries i).map _ = _
        rw [he]
        rfl
    · exact h'

section Ticks

variable {Q : Rect → Prop} {consuming : Bool}

def Sized (Q : Rect → Prop) (s : State) : Prop :=
  ∀ id sb, s.surfaces id = some sb → Q (windowRect s id sb.width sb.height)

/-- The geometries are the same, and so are the sizes of the buffers. -/
structure SameSizes (s s' : State) : Prop where
  geometry : s'.geometry = s.geometry
  surfaces : ∀ id, (s'.surfaces id).map (fun sb => (sb.width, sb.height)) =
    (s.surfaces id).map fun sb => (sb.width, sb.height)

theorem SameSizes.of_eq (hg : s'.geometry = s.geometry) (hs : s'.surfaces = s.surfaces) : SameSizes s s' :=
  ⟨hg, fun _ => by rw [hs]⟩

theorem SameSizes.trans (h : SameSizes s s') (h' : SameSizes s' s'') : SameSizes s s'' :=
  ⟨h'.geometry.trans h.geometry, fun id => (h'.surfaces id).trans (h.surfaces id)⟩

theorem Sized.sameSizes (h : Sized Q s) (hs : SameSizes s s') : Sized Q s' := by
  intro i sb hsb
  have hmap := hs.surfaces i
  rw [hsb] at hmap
  obtain ⟨sb₀, hsb₀, heq⟩ := Option.map_eq_some_iff.mp hmap.symm
  obtain ⟨hw, hh⟩ := Prod.mk.inj heq
  have hold := h i sb₀ hsb₀
  rw [windowRect] at hold ⊢
  rwa [hs.geometry, ← hw, ← hh]

/-- The trees, the geometries and the buffers are the same. -/
structure SameScene (s s' : State) : Prop where
  trees : s'.trees = s.trees
  geometry : s'.geometry = s.geometry
  surfaces : s'.surfaces = s.surfaces

theorem SameScene.refl (s : State) : SameScene s s := ⟨rfl, rfl, rfl⟩

theorem SameScene.trans (h : SameScene s s') (h' : SameScene s' s'') : SameScene s s'' :=
  ⟨h'.trees.trans h.trees, h'.geometry.trans h.geometry, h'.surfaces.trans h.surfaces⟩

theorem applyFocus_sameScene (target : Option ObjectId) : SameScene s (applyFocus s target) := by
  unfold applyFocus
  split
  · exact .refl s
  · dsimp only
    split <;> exact ⟨rfl, rfl, rfl⟩

theorem createWindow_sameScene (w h : Int) : SameScene s (createWindow s id e w h) := by
  have hmap : ∀ entry, SameScene s (emitMap (s.setEntry id entry) entry) := by
    intro entry
    unfold emitMap
    dsimp only
    split <;> exact ⟨rfl, rfl, rfl⟩
  unfold createWindow
  dsimp only
  split
  · refine SameScene.trans ?_ (applyFocus_sameScene _)
    exact ⟨(hmap _).trees, (hmap _).geometry, (hmap _).surfaces⟩
  · exact ⟨(hmap _).trees, (hmap _).geometry, (hmap _).surfaces⟩

theorem announce_sameScene (s : State) (id : ObjectId) : SameScene s (announce s id).1 := by
  unfold announce
  split
  · exact .refl s
  · split
    · unfold unmapWindow
      split <;> exact ⟨rfl, rfl, rfl⟩
    · split
      · exact .refl s
      · dsimp only
        split
        · unfold updateWindow
          dsimp only
          split <;> split <;> exact ⟨rfl, rfl, rfl⟩
        · exact createWindow_sameScene _ _

theorem SameScene.sameSizes (h : SameScene s s') : SameSizes s s' := .of_eq h.geometry h.surfaces

theorem compositeSurface_sizes (root : ObjectId) (geo : Rect) (w h : Int) (canvas : Canvas) (v : ObjectId × Int × Int)
    (i : ObjectId) : ((compositeSurface root geo w h canvas v).1 i).map (fun sb => (sb.width, sb.height)) =
      (canvas.1 i).map fun sb => (sb.width, sb.height) := by
  unfold compositeSurface
  split
  · rfl
  · next sb hsb =>
    by_cases hi : i = v.1
    · simp [hi, hsb]
    · simp [update_of_ne hi]

theorem compositeAndEmit_sameSizes (geo : Rect) : SameSizes s (compositeAndEmit consuming s id geo) := by
  unfold compositeAndEmit
  split
  · exact .of_eq rfl rfl
  · next e he =>
    split
    · exact .of_eq rfl rfl
    · generalize hcnv : List.foldl _ _ _ = canvas
      have hsizes : ∀ i, (canvas.1 i).map (fun sb => (sb.width, sb.height)) =
          (s.surfaces i).map fun sb => (sb.width, sb.height) := by
        rw [← hcnv]
        refine List.foldlRecOn (motive := fun c : Canvas => ∀ i, (c.1 i).map (fun sb => (sb.width, sb.height)) =
          (s.surfaces i).map fun sb => (sb.width, sb.height)) _ _ (fun _ => rfl) fun c hc v _ i => ?_
        rw [compositeSurface_sizes, hc]
      have h' : SameSizes s ({ s with surfaces := canvas.1 }.setEntry id
          { e with dirty := false, damage := .new, fb := canvas.2.2 }) := ⟨rfl, hsizes⟩
      dsimp only
      split
      · exact h'
      · split
        · exact ⟨h'.geometry, h'.surfaces⟩
        · exact h'

theorem Holds.tickWindow (h : Holds base I J s) (id : ObjectId) (hsized : Sized Q s) (hzero : Q ⟨0, 0, 0, 0⟩)
    (hannounce : ∀ geo e e' us H, Q geo → Announces (paintedSize geo).1 (paintedSize geo).2 e e' us → I e H →
      HoldsOf I J (H ++ tagged e us) e')
    (hpnt : ∀ e e' us H, e.mapped = true → Paints consuming e e' us → I e H → HoldsOf I J (H ++ tagged e us) e') :
    Holds base I J (WaylandWindows.tickWindow consuming s id) ∧
      SameSizes s (WaylandWindows.tickWindow consuming s id) := by
  obtain ⟨geo, hgeo, haffects, hmpd⟩ := announce_affects s id
  have hQ : Q geo := by
    rw [hgeo]
    cases hsb : s.surfaces id with
    | none => exact hzero
    | some sb => exact hsized id sb hsb
  have h' := h.affects haffects fun e e' us H _ _ ha hI => hannounce geo e e' us H hQ ha hI
  have hsame := (announce_sameScene s id).sameSizes
  unfold WaylandWindows.tickWindow
  cases hpntd : announce s id with
  | mk s' painted =>
    rw [hpntd] at h' hsame hmpd
    cases painted with
    | none => exact ⟨h', hsame⟩
    | some p =>
      obtain ⟨-, e₁, he₁, hm⟩ := hmpd p rfl
      dsimp only
      split
      · exact ⟨h', hsame⟩
      · refine ⟨h'.affects (compositeAndEmit_affects s' id consuming p.1) fun e e' us H _ he hp hI => ?_,
          hsame.trans (compositeAndEmit_sameSizes p.1)⟩
        obtain rfl : e₁ = e := Option.some.inj (he₁.symm.trans he)
        exact hpnt e₁ e' us H hm hp hI

theorem observe_sameSizes : SameSizes s (observe s) := by
  unfold observe
  split
  · exact .of_eq rfl rfl
  · dsimp only
    split <;> exact .of_eq rfl rfl

theorem Holds.tick (h : Holds base I J s) (hsized : Sized Q s) (hzero : Q ⟨0, 0, 0, 0⟩)
    (hdmg : ∀ e H, I e H → I { e with damage := e.damage.markFull } H)
    (hannounce : ∀ geo e e' us H, Q geo → Announces (paintedSize geo).1 (paintedSize geo).2 e e' us → I e H →
      HoldsOf I J (H ++ tagged e us) e')
    (hpnt : ∀ consuming e e' us H, e.mapped = true → Paints consuming e e' us → I e H →
      HoldsOf I J (H ++ tagged e us) e') :
    Holds base I J (WaylandWindows.tick s) := by
  have hstart := h.observe hdmg
  have hsized' := hsized.sameSizes observe_sameSizes
  have hfold : Holds base I J (WaylandWindows.tick s) ∧ Sized Q (WaylandWindows.tick s) := by
    refine List.foldlRecOn (motive := fun s => Holds base I J s ∧ Sized Q s) _ _ ⟨hstart, hsized'⟩
      fun s' hs' id _ => ?_
    obtain ⟨hw, hsame⟩ := hs'.1.tickWindow id hs'.2 hzero hannounce (hpnt _)
    exact ⟨hw, hs'.2.sameSizes hsame⟩
  exact hfold.1

end Ticks

end X11Web.WaylandSteps
