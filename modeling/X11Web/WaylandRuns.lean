import X11Web.WaylandSteps

namespace X11Web.WaylandRuns

open List Function

open Protocol (WindowWmState)
open WaylandPixels WaylandWindows WaylandSteps

/-- Two entries of one window that differ in nothing a tick announces. -/
structure Alike (e e' : WindowEntry) : Prop where
  uuid : e'.uuid = e.uuid
  clientId : e'.clientId = e.clientId
  kind : e'.kind = e.kind
  width : e'.width = e.width
  height : e'.height = e.height
  created : e'.created = e.created
  mapped : e'.mapped = e.mapped

/-- What the changes of a window keep of it and of the updates about it. Whether minimising keeps it is left
open. -/
structure Rules (I : WindowEntry → List (String × DisplayUpdate) → Prop) (J : List (String × DisplayUpdate) → Prop) :
    Prop where
  alike : ∀ e e' us H, Alike e e' → (∀ x ∈ us, Quiet x) → I e H → I e' (H ++ tagged e us)
  restored : ∀ e H, e.mapped = true → I e H →
    I { e with damage := e.damage.markFull } (H ++ tagged e [.windowMapped e.uuid e.kind.flags.1 e.kind.flags.2])
  destroyed : ∀ e H, I e H → J (H ++ tagged e ((if e.mapped then [.windowUnmapped e.uuid] else []) ++
    (if e.created then [.windowDestroyed e.uuid] else [])))
  announced : ∀ geo e e' us H, Announces (paintedSize geo).1 (paintedSize geo).2 e e' us → I e H →
    HoldsOf I J (H ++ tagged e us) e'
  painted : ∀ consuming e e' us H, e.mapped = true → Paints consuming e e' us → I e H →
    HoldsOf I J (H ++ tagged e us) e'

variable {I : WindowEntry → List (String × DisplayUpdate) → Prop} {J : List (String × DisplayUpdate) → Prop}
  {base : Nat} {s : State} {id : ObjectId}

theorem Rules.damaged (hrules : Rules I J) (e : WindowEntry) (H : List (String × DisplayUpdate)) (hI : I e H) :
    I { e with damage := e.damage.markFull } H := by
  have h := hrules.alike e { e with damage := e.damage.markFull } [] H ⟨rfl, rfl, rfl, rfl, rfl, rfl, rfl⟩ (by simp) hI
  simpa [tagged] using h

theorem Rules.emitState (hrules : Rules I J) (h : Holds base I J s) (state : WindowWmState) :
    Holds base I J (emitState s id state) := by
  refine h.affects (emitState_affects state) fun e e' us H _ _ hp hI => ?_
  obtain ⟨-, rfl, rfl⟩ := hp
  exact hrules.alike e _ _ H ⟨rfl, rfl, rfl, rfl, rfl, rfl, rfl⟩ (by simp [Quiet]) hI

theorem Rules.destroy (hrules : Rules I J) (h : Holds base I J s) : Holds base I J (destroy s id) := by
  obtain ⟨s₁, next, hgone, hfoc⟩ := destroy_affects s id
  have h₁ : Holds base I J s₁ := by
    refine h.affects hgone fun e e' us H _ _ hp hI => ?_
    obtain ⟨rfl, rfl⟩ := hp
    exact hrules.destroyed e H hI
  refine h₁.affects hfoc fun e e' us H _ _ hp hI => ?_
  obtain ⟨-, rfl, hqt⟩ := hp
  exact hrules.alike e e us H ⟨rfl, rfl, rfl, rfl, rfl, rfl, rfl⟩ hqt hI

def KeptMinimized (base : Nat) (I : WindowEntry → List (String × DisplayUpdate) → Prop) (s : State) (u : Uuid) : Prop :=
  ∀ id ∈ s.toplevels, ∀ e, s.entries id = some e → e.uuid = u → e.mapped = true →
    I e (historyOf u (s.sent.drop base)) →
      I e (historyOf u (s.sent.drop base) ++ tagged e [.windowUnmapped u])

theorem Rules.manage (hrules : Rules I J) (h : Holds base I J s) {u : Uuid} {e : WindowEntry}
    (he : s.entries id = some e) (hu : e.uuid = u) (action : WindowWmState)
    (hminimized : action = .minimized → KeptMinimized base I s u) : Holds base I J (manage s id action) := by
  unfold WaylandWindows.manage
  by_cases hid : id ∈ s.toplevels
  · rw [if_pos hid]
    cases action with
    | close => exact h
    | maximized => exact hrules.emitState h _
    | fullscreen => exact hrules.emitState h _
    | minimized =>
      refine hrules.emitState (h.affects emitMinimized_affects fun e₁ e' us H hH he₁ hp hI => ?_) _
      obtain ⟨hm, rfl, rfl⟩ := hp
      obtain rfl : e = e₁ := Option.some.inj (he.symm.trans he₁)
      subst hH hu
      exact hminimized rfl id hid e he rfl hm hI
    | normal =>
      dsimp only
      split
      · refine hrules.emitState (h.affects emitRestored_affects fun e₁ e' us H _ _ hp hI => ?_) _
        obtain ⟨hm, rfl, rfl⟩ := hp
        exact hrules.restored e₁ H hm hI
      · exact hrules.emitState h _
  · rw [if_neg hid]
    exact h

theorem Rules.tick (hrules : Rules I J) (h : Holds base I J s) : Holds base I J (tick s) :=
  h.tick (Q := fun _ => True) (fun _ _ _ => trivial) trivial hrules.damaged
    (fun geo e e' us H _ ha hI => hrules.announced geo e e' us H ha hI) hrules.painted

theorem Rules.tickWindow (hrules : Rules I J) (h : Holds base I J s) (consuming : Bool) :
    Holds base I J (tickWindow consuming s id) :=
  (h.tickWindow (Q := fun _ => True) id (fun _ _ _ => trivial) trivial
    (fun geo e e' us H _ ha hI => hrules.announced geo e e' us H ha hI) (hrules.painted consuming)).1

/-- Every action keeps what the rules keep, if it holds of a new window, and if minimising keeps it. -/
theorem Rules.step (hrules : Rules I J) (h : Holds base I J s) (a : Action)
    (hnew : ∀ clientId kind x y, I (.new s.minted clientId kind x y) [])
    (hminimized : ∀ u, a = .manage u .minimized → KeptMinimized base I s u) : Holds base I J (step s a) := by
  cases a with
  | newToplevel i clientId =>
    rw [WaylandWindows.step]
    split
    · exact h
    · next hi =>
      have hlstd : Holds base I J { s with toplevels := s.toplevels ++ [i] } := h.congr rfl rfl rfl rfl
      exact hlstd.register (by simpa using hi) _ _ _ _ (hnew _ _ _ _)
  | newPopup i clientId x y =>
    rw [WaylandWindows.step]
    split
    · exact h
    · next hi =>
      have hlstd : Holds base I J { s with popups := s.popups ++ [i] } := h.congr rfl rfl rfl rfl
      exact hlstd.register (by simpa using hi) _ _ _ _ (hnew _ _ _ _)
  | repositionRequest i x y =>
    refine h.affects (repositionRequest_affects x y) fun e e' us H _ _ hp hI => ?_
    obtain ⟨rfl, rfl⟩ := hp
    exact hrules.alike e _ [] H ⟨rfl, rfl, rfl, rfl, rfl, rfl, rfl⟩ (by simp) hI
  | commit i buffer damage tree geometry =>
    refine h.affects (commit_affects buffer damage tree geometry) fun e e' us H _ _ hp hI => ?_
    obtain ⟨⟨pendingUnmap, damage', rfl⟩, rfl⟩ := hp
    exact hrules.alike e _ [] H ⟨rfl, rfl, rfl, rfl, rfl, rfl, rfl⟩ (by simp) hI
  | destroyedSurface i tree => exact hrules.destroy (h.congr rfl rfl rfl rfl)
  | destroyedSubsurface i tree => exact h.congr rfl rfl rfl rfl
  | destroyed i => exact hrules.destroy h
  | request i request => exact hrules.emitState h _
  | label i label =>
    refine h.affects (refreshLabel_affects label) fun e e' us H _ _ hp hI => ?_
    obtain ⟨⟨title, rfl⟩, -, hqt⟩ := hp
    exact hrules.alike e _ us H ⟨rfl, rfl, rfl, rfl, rfl, rfl, rfl⟩ hqt hI
  | manage u action =>
    obtain heq | ⟨i, e, he, hu, -, heq⟩ := addressed_cases (s := s) u fun id => WaylandWindows.manage s id action
    · rw [WaylandWindows.step, heq]
      exact h
    · rw [WaylandWindows.step, heq]
      exact hrules.manage h he hu action fun haction => hminimized u (haction ▸ rfl)
  | focus u =>
    obtain heq | ⟨i, e, he, hu, -, heq⟩ := addressed_cases (s := s) u fun id => focusWindow s id
    · rw [WaylandWindows.step, heq]
      exact h
    · rw [WaylandWindows.step, heq]
      refine h.affects focusWindow_affects fun e₁ e' us H _ _ hp hI => ?_
      obtain ⟨rfl, hqt⟩ := hp
      exact hrules.alike e₁ e₁ us H ⟨rfl, rfl, rfl, rfl, rfl, rfl, rfl⟩ hqt hI
  | tick => exact hrules.tick h

theorem holds_new (I : WindowEntry → List (String × DisplayUpdate) → Prop) (J : List (String × DisplayUpdate) → Prop) :
    Holds 0 I J State.new where
  minted := by simp [State.new]
  distinct := by simp [State.new]
  live := by simp [State.new, WindowRouter.new]
  created := by simp [State.new]
  length := Nat.zero_le _
  present := by simp [State.new]
  absent := by simp [State.new]
  unminted := fun _ _ => rfl

/-- A UUID of a window of `s'` is that of a window of `s`, or was minted later. -/
def Descends (s s' : State) : Prop :=
  ∀ id e', s'.entries id = some e' → (∃ i e, s.entries i = some e ∧ e.uuid = e'.uuid) ∨ s.minted ≤ e'.uuid

variable {s' : State} {P : WindowEntry → Option WindowEntry → List DisplayUpdate → Prop}

theorem descends_of_affects (h : Affects id P s s') : Descends s s' := by
  intro i x hx
  obtain hu | ⟨e, e', us, ht, -⟩ := h
  · exact .inl ⟨i, x, hu.entries ▸ hx, rfl⟩
  · rw [ht.entries] at hx
    by_cases hi : i = id
    · rw [hi, update_self] at hx
      exact .inl ⟨id, e, ht.entry, (ht.same x hx).1.symm⟩
    · rw [update_of_ne hi] at hx
      exact .inl ⟨i, x, hx, rfl⟩

theorem rules_of_uuid (p : Uuid → Prop) : Rules (fun e _ => p e.uuid) fun _ => True where
  alike := by
    intro e e' us H halike _ hp
    rw [halike.uuid]
    exact hp
  restored := fun _ _ _ hp => hp
  destroyed := fun _ _ _ => trivial
  announced := by
    intro geo e e' us H ha hp
    cases ha <;> exact hp
  painted := by
    intro consuming e e' us H _ hpnts hp
    cases hpnts <;> exact hp

theorem step_descends (h : Registry s) (a : Action) : Descends s (step s a) := by
  -- Nothing has been sent from here on, so the invariant is about the windows alone.
  have hemp : ∀ u, historyOf u (s.sent.drop s.sent.length) = [] := fun u => by simp [historyOf]
  have hst : Holds s.sent.length (fun e _ => (∃ i e₀, s.entries i = some e₀ ∧ e₀.uuid = e.uuid) ∨ s.minted ≤ e.uuid)
      (fun _ => True) s :=
    ⟨h, Nat.le_refl _, fun i e he => .inl ⟨i, e, he, rfl⟩, fun _ _ _ => trivial, fun u _ => hemp u⟩
  have hstep := (rules_of_uuid fun u => (∃ i e₀, s.entries i = some e₀ ∧ e₀.uuid = u) ∨ s.minted ≤ u).step hst a
    (fun _ _ _ _ => .inr (Nat.le_refl _)) fun _ _ _ _ _ _ _ _ hI => hI
  exact hstep.present

theorem registry_new : Registry State.new := (holds_new (fun _ _ => True) fun _ => True).toRegistry

theorem holds_of_registry (h : Registry s) : Holds s.sent.length (fun _ _ => True) (fun _ => True) s :=
  ⟨h, Nat.le_refl _, fun _ _ _ => trivial, fun _ _ _ => trivial, fun u _ => by simp [historyOf]⟩

theorem registry_step (h : Registry s) (a : Action) : Registry (step s a) :=
  ((rules_of_uuid fun _ => True).step (holds_of_registry h) a (fun _ _ _ _ => trivial)
    fun _ _ _ _ _ _ _ _ hI => hI).toRegistry

theorem registry_tickWindow (h : Registry s) (consuming : Bool) : Registry (tickWindow consuming s id) :=
  ((rules_of_uuid fun _ => True).tickWindow (holds_of_registry h) consuming).toRegistry

theorem registry_observe (h : Registry s) : Registry (observe s) :=
  ((holds_of_registry h).observe fun _ _ hI => hI).toRegistry

section Sent

theorem sent_prefix_of_affects (h : Affects id P s s') : s.sent <+: s'.sent := by
  obtain hu | ⟨e, e', us, ht, -⟩ := h
  · obtain ⟨new, hnew, -⟩ := hu.sent
    exact ⟨new, hnew.symm⟩
  · obtain ⟨new, hnew, -⟩ := ht.sent
    exact ⟨new, hnew.symm⟩

theorem manage_sent (action : WindowWmState) : s.sent <+: (manage s id action).sent := by
  unfold manage
  split
  · cases action with
    | close => exact prefix_rfl
    | maximized => exact sent_prefix_of_affects (emitState_affects _)
    | fullscreen => exact sent_prefix_of_affects (emitState_affects _)
    | minimized =>
      exact (sent_prefix_of_affects emitMinimized_affects).trans (sent_prefix_of_affects (emitState_affects _))
    | normal =>
      dsimp only
      split
      · exact (sent_prefix_of_affects emitRestored_affects).trans (sent_prefix_of_affects (emitState_affects _))
      · exact sent_prefix_of_affects (emitState_affects _)
  · exact prefix_rfl

theorem destroy_sent : s.sent <+: (destroy s id).sent := by
  obtain ⟨s₁, next, hgone, hfoc⟩ := destroy_affects s id
  exact (sent_prefix_of_affects hgone).trans (sent_prefix_of_affects hfoc)

theorem addressed_sent (u : Uuid) {f : ObjectId → State} (hf : ∀ id, s.sent <+: (f id).sent) :
    s.sent <+: (addressed s u f).sent := by
  obtain heq | ⟨i, -, -, -, -, heq⟩ := addressed_cases (s := s) u f
  · exact ⟨[], by rw [heq, append_nil]⟩
  · rw [heq]
    exact hf i

theorem observe_sent (s : State) : (observe s).sent = s.sent := by
  unfold observe
  split
  · rfl
  · dsimp only
    split <;> rfl

theorem tickWindow_sent (consuming : Bool) : s.sent <+: (tickWindow consuming s id).sent := by
  obtain ⟨geo, -, haffects, -⟩ := announce_affects s id
  have hann := sent_prefix_of_affects haffects
  unfold tickWindow
  cases hpntd : announce s id with
  | mk s' painted =>
    rw [hpntd] at hann
    cases painted with
    | none => exact hann
    | some p =>
      dsimp only
      split
      · exact hann
      · exact hann.trans (sent_prefix_of_affects (compositeAndEmit_affects s' id consuming p.1))

theorem step_sent (s : State) (a : Action) : s.sent <+: (step s a).sent := by
  cases a with
  | newToplevel i clientId =>
    rw [step]
    split <;> exact prefix_rfl
  | newPopup i clientId x y =>
    rw [step]
    split <;> exact prefix_rfl
  | repositionRequest i x y => exact sent_prefix_of_affects (repositionRequest_affects x y)
  | commit i buffer damage tree geometry => exact sent_prefix_of_affects (commit_affects buffer damage tree geometry)
  | destroyedSurface i tree =>
    have hsent : s.sent <+: { s with
      surfaces := update s.surfaces i none
      trees := update s.trees (rootSurface s i) tree }.sent := prefix_rfl
    exact hsent.trans destroy_sent
  | destroyedSubsurface i tree => exact prefix_rfl
  | destroyed i => exact destroy_sent
  | request i request => exact sent_prefix_of_affects (emitState_affects _)
  | label i label => exact sent_prefix_of_affects (refreshLabel_affects label)
  | manage u action => exact addressed_sent u fun i => manage_sent action
  | focus u => exact addressed_sent u fun i => sent_prefix_of_affects focusWindow_affects
  | tick =>
    refine List.foldlRecOn (motive := fun s' : State => s.sent <+: s'.sent) _ _ ?_ fun s' hs' i _ => ?_
    · exact ⟨[], by rw [observe_sent, append_nil]⟩
    · exact hs'.trans (tickWindow_sent _)

end Sent

end X11Web.WaylandRuns
