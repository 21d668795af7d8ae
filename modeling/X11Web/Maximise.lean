import X11Web.WindowGeometry

namespace X11Web.Maximise

open HashMaps Runs Windows WindowGeometry List Option

structure Detour (α : Type) where
  current : α
  saved : Option α
deriving DecidableEq

namespace Detour

variable {α : Type}

def original (d : Detour α) : α := d.saved.getD d.current

/-- Put the value aside on entering, and take it back on leaving. -/
def follow (away : Bool) (other : α) (d : Detour α) : Detour α :=
  match away, d.saved with
  | true, none => ⟨other, some d.current⟩
  | false, some value => ⟨value, none⟩
  | _, _ => d

theorem original_follow (away : Bool) (other : α) (d : Detour α) :
    (d.follow away other).original = d.original := by
  obtain ⟨current, saved⟩ := d
  cases away <;> cases saved <;> rfl

theorem saved_follow (away : Bool) (other : α) (d : Detour α) :
    (d.follow away other).saved.isSome = away := by
  obtain ⟨current, saved⟩ := d
  cases away <;> cases saved <;> rfl

theorem current_eq_original {d : Detour α} (h : d.saved = none) : d.current = d.original := by
  simp [original, h]

end Detour

def wmAtoms : HintAtoms where
  netWmState := Predef.netWmState
  fullscreen := 101
  maximizedVert := 95
  maximizedHorz := 96
  hidden := 100
  modal := 93
  above := Predef.netWmStateAbove

/-- A client message to the root window about the state of a window. -/
inductive WmMessage
  | netWmState (event : Bytes)
  | wmChangeState (event : Bytes)
deriving DecidableEq

def WmMessage.action : WmMessage → GeometryAction
  | .netWmState event => .netWmState event
  | .wmChangeState event => .wmChangeState event

def wmStep (s : GeometryState) (m : WmMessage) : GeometryState := geometryStep wmAtoms s m.action

def listedAtoms (w : XId) (s : GeometryState) : List Atom :=
  (((s.windows.lookup w).bind (fun win => win.properties.lookup wmAtoms.netWmState)).map
    (fun pv => leWords pv.data)).getD []

def geometryOf (w : XId) (s : GeometryState) : Option Geometry := (s.windows.lookup w).map (·.geometry)

def savedGeometry (w : XId) (s : GeometryState) : Option Geometry := (s.windows.lookup w).bind (·.savedGeometry)

def Enlarged (w : XId) (s : GeometryState) : Prop := needsResize wmAtoms (listedAtoms w s) = true

instance (w : XId) (s : GeometryState) : Decidable (Enlarged w s) :=
  inferInstanceAs (Decidable (needsResize wmAtoms (listedAtoms w s) = true))

/-- The geometry is saved exactly while the window is enlarged, the window has the original
one when none is saved, and the property lists nothing twice. -/
structure Undoes (original : Option Geometry) (w : XId) (s : GeometryState) : Prop where
  saved : (savedGeometry w s).isSome ↔ Enlarged w s
  geometry : savedGeometry w s = none → geometryOf w s = original
  nodup : (listedAtoms w s).Nodup

def Iconifies (w : XId) (s : GeometryState) : WmMessage → Prop
  | .netWmState _ => False
  | .wmChangeState event => messageWindow s event = w ∧ readU32 s.msbFirst event 12 = 3

/-- The window is not enlarged, nothing is saved for it, and its property lists nothing twice. -/
structure Plain (w : XId) (s : GeometryState) : Prop where
  saved : savedGeometry w s = none
  small : ¬ Enlarged w s
  nodup : (listedAtoms w s).Nodup

def detour (win : DrawnWindow) : Detour Geometry := ⟨win.geometry, win.savedGeometry⟩

def detourOf (w : XId) (s : GeometryState) : Option (Detour Geometry) := (s.windows.lookup w).map detour

def propertyOf (w : XId) (s : GeometryState) : Option (Option PropertyValue) :=
  (s.windows.lookup w).map (fun win => win.properties.lookup wmAtoms.netWmState)

def atomsOf (found : Option (Option PropertyValue)) : List Atom :=
  (found.join.map (fun pv => leWords pv.data)).getD []

variable {s : GeometryState} {w v : XId} {original : Option Geometry}

theorem listedAtoms_eq (w : XId) (s : GeometryState) : listedAtoms w s = atomsOf (propertyOf w s) := by
  rw [listedAtoms, atomsOf, propertyOf]
  cases s.windows.lookup w <;> rfl

theorem savedGeometry_eq (w : XId) (s : GeometryState) : savedGeometry w s = (detourOf w s).bind (·.saved) := by
  rw [savedGeometry, detourOf]
  cases s.windows.lookup w <;> rfl

theorem geometryOf_eq (w : XId) (s : GeometryState) : geometryOf w s = (detourOf w s).map (·.current) := by
  rw [geometryOf, detourOf]
  cases s.windows.lookup w <;> rfl

theorem lookup_editWindow_map {P : Type} {g : DrawnWindow → P} {f : DrawnWindow → DrawnWindow}
    (hf : ∀ win, g (f win) = g win) (s : GeometryState) :
    ((editWindow v f s).windows.lookup w).map g = (s.windows.lookup w).map g :=
  lookup_modify_map g v w f s.windows hf

theorem lookup_editWindow_of_ne (h : w ≠ v) (f : DrawnWindow → DrawnWindow) (s : GeometryState) :
    (editWindow v f s).windows.lookup w = s.windows.lookup w :=
  lookup_modify_of_ne h f s.windows

theorem noteModal_map {P : Type} {g : DrawnWindow → P}
    (hg : ∀ win modal order, g { win with modal := modal, childrenOrder := order } = g win)
    (current : List Atom) (s : GeometryState) :
    ((noteModal wmAtoms v current s).windows.lookup w).map g = (s.windows.lookup w).map g := by
  rw [noteModal]
  cases s.x11ToUuid.lookup v with
  | none => rfl
  | some _ =>
    have hmodal : ((editWindow v (fun win => { win with modal := current.contains wmAtoms.modal })
        s).windows.lookup w).map g = (s.windows.lookup w).map g := by
      apply lookup_editWindow_map
      intro win
      exact hg win _ win.childrenOrder
    dsimp only
    split
    · refine (lookup_editWindow_map (fun win => ?_) _).trans hmodal
      rw [raiseWindow]
      split
      · exact hg win win.modal _
      · rfl
    · exact hmodal

theorem resizeForState_of_ne (h : w ≠ v) (current : List Atom) (s : GeometryState) :
    (resizeForState wmAtoms v current s).windows.lookup w = s.windows.lookup w := by
  rw [resizeForState]
  split
  · rw [fillScreen, (reportGeometry_tables _ _ _).1, lookup_editWindow_of_ne h]
  · split
    · rw [restoreGeometry]
      split
      · rfl
      · rw [(reportGeometry_tables _ _ _).1, lookup_editWindow_of_ne h]
    · rfl

theorem resizeForState_detour (current : List Atom) (s : GeometryState) :
    detourOf v (resizeForState wmAtoms v current s) =
      (detourOf v s).map (Detour.follow (needsResize wmAtoms current) (screenGeometry s)) := by
  rw [resizeForState]
  cases hwin : s.windows.lookup v with
  | none =>
    cases hneeds : needsResize wmAtoms current <;>
      simp [detourOf, hadSaved, fillScreen, (reportGeometry_tables _ _ _).1, lookup_editWindow, hwin]
  | some win =>
    cases hneeds : needsResize wmAtoms current <;> cases hsaved : win.savedGeometry <;>
      simp [detourOf, hadSaved, fillScreen, restoreGeometry, (reportGeometry_tables _ _ _).1, lookup_editWindow, hwin,
        hsaved, detour, Detour.follow, moveTo, DrawnWindow.geometry, screenGeometry]

theorem resizeForState_property (current : List Atom) (s : GeometryState) :
    propertyOf v (resizeForState wmAtoms v current s) = propertyOf v s := by
  rw [resizeForState]
  split
  · rw [fillScreen, propertyOf, (reportGeometry_tables _ _ _).1]
    apply lookup_editWindow_map
    intro win
    rfl
  · split
    · rw [restoreGeometry]
      split
      · rfl
      · rw [propertyOf, (reportGeometry_tables _ _ _).1]
        apply lookup_editWindow_map
        intro win
        rfl
    · rfl

theorem handleNetWmState_map {P : Type} {g : DrawnWindow → P}
    (hg : ∀ win modal order, g { win with modal := modal, childrenOrder := order } = g win)
    (event : Bytes) (s : GeometryState) :
    ((handleNetWmState wmAtoms event s).windows.lookup w).map g =
      ((resizeForState wmAtoms (messageWindow s event) (newAtoms wmAtoms event s)
        (withState wmAtoms event s)).windows.lookup w).map g := by
  refine (noteModal_map hg _ _).trans ?_
  rw [reportWmState_windows]
  rfl

theorem handleNetWmState_of_ne {event : Bytes} (h : w ≠ messageWindow s event) :
    detourOf w (handleNetWmState wmAtoms event s) = detourOf w s ∧
      propertyOf w (handleNetWmState wmAtoms event s) = propertyOf w s := by
  constructor
  · refine (handleNetWmState_map (fun _ _ _ => rfl) event s).trans ?_
    rw [resizeForState_of_ne h, withState, lookup_editWindow_of_ne h]
    rfl
  · refine (handleNetWmState_map (fun _ _ _ => rfl) event s).trans ?_
    rw [resizeForState_of_ne h, withState, lookup_editWindow_of_ne h]
    rfl

variable (event : Bytes)

theorem handleNetWmState_detour (s : GeometryState) :
    detourOf (messageWindow s event) (handleNetWmState wmAtoms event s) =
      (detourOf (messageWindow s event) s).map
        (Detour.follow (needsResize wmAtoms (newAtoms wmAtoms event s)) (screenGeometry s)) := by
  refine (handleNetWmState_map (fun _ _ _ => rfl) event s).trans ?_
  refine (resizeForState_detour _ _).trans (congrArg (Option.map _) ?_)
  apply lookup_editWindow_map
  intro win
  rfl

theorem handleNetWmState_property (s : GeometryState) :
    propertyOf (messageWindow s event) (handleNetWmState wmAtoms event s) =
      (propertyOf (messageWindow s event) s).map
        (fun _ => some (stateProperty (newAtoms wmAtoms event s))) := by
  refine (handleNetWmState_map (fun _ _ _ => rfl) event s).trans ?_
  refine (resizeForState_property _ _).trans ?_
  rw [propertyOf, withState, lookup_editWindow, propertyOf, Option.map_map, Option.map_map]
  apply congrArg (fun f => (s.windows.lookup (messageWindow s event)).map f)
  funext win
  exact Finmap.lookup_insert win.properties

theorem handleWmChangeState_detour (s : GeometryState) :
    detourOf w (handleWmChangeState wmAtoms event s) = detourOf w s := by
  rw [handleWmChangeState]
  split
  · rw [detourOf, reportWmState_windows]
    apply lookup_editWindow_map
    intro win
    rfl
  · rw [detourOf, reportWmState_windows]
    apply lookup_editWindow_map
    intro win
    rfl
  · rfl

/-- What `WM_CHANGE_STATE` makes of the property that it finds. -/
def changedState (desired : Nat) (found : Option PropertyValue) : Option PropertyValue :=
  match desired with
  | 3 => some (stateProperty [wmAtoms.hidden])
  | 1 => found.map (dropAtom wmAtoms.hidden)
  | _ => found

theorem handleWmChangeState_property (s : GeometryState) :
    propertyOf w (handleWmChangeState wmAtoms event s) =
      if w = messageWindow s event then (propertyOf w s).map (changedState (readU32 s.msbFirst event 12))
      else propertyOf w s := by
  by_cases h : w = messageWindow s event
  · rw [if_pos h, handleWmChangeState]
    subst w
    generalize readU32 s.msbFirst event 12 = desired
    split
    · rw [propertyOf, reportWmState_windows, lookup_editWindow, propertyOf, Option.map_map, Option.map_map]
      apply congrArg (fun f => (s.windows.lookup (messageWindow s event)).map f)
      funext win
      exact Finmap.lookup_insert win.properties
    · rw [propertyOf, reportWmState_windows, lookup_editWindow, propertyOf, Option.map_map, Option.map_map]
      apply congrArg (fun f => (s.windows.lookup (messageWindow s event)).map f)
      funext win
      exact lookup_modify_self wmAtoms.netWmState (dropAtom wmAtoms.hidden) win.properties
    · next hiconic hnormal =>
      have hkeep : changedState desired = id := by
        funext found
        rw [changedState.eq_def]
        split
        · exact absurd rfl hiconic
        · exact absurd rfl hnormal
        · rfl
      rw [hkeep, Option.map_id, id]
  · rw [if_neg h, handleWmChangeState]
    split
    · rw [propertyOf, reportWmState_windows, lookup_editWindow_of_ne h]
      rfl
    · rw [propertyOf, reportWmState_windows, lookup_editWindow_of_ne h]
      rfl
    · rfl

theorem changeAtoms_nodup (action : Nat) (changes : List Atom) {current : List Atom} (h : current.Nodup) :
    (changeAtoms action changes current).Nodup := by
  rw [changeAtoms]
  induction changes generalizing current with
  | nil => exact h
  | cons a changes ih =>
    rw [foldl_cons]
    apply ih
    have hadd : ¬ current.contains a = true → (current ++ [a]).Nodup := by
      intro ha
      have ha' : a ∉ current := by simpa using ha
      exact nodup_append.mpr ⟨h, nodup_singleton a, fun b hb c hc => by
        rintro rfl
        exact ha' (mem_singleton.mp hc ▸ hb)⟩
    split
    · exact h.filter _
    · split
      · exact h
      · next ha => exact hadd ha
    · split
      · exact h.filter _
      · next ha => exact hadd ha
    · exact h

theorem mem_changeAtoms {action : Nat} {changes current : List Atom} {b : Atom}
    (hb : b ∈ changeAtoms action changes current) : b ∈ changes ∨ b ∈ current := by
  rw [changeAtoms] at hb
  induction changes generalizing current with
  | nil => exact .inr hb
  | cons a changes ih =>
    rw [foldl_cons] at hb
    rcases ih hb with hb | hb
    · exact .inl (mem_cons_of_mem a hb)
    · grind

theorem atomsOf_lt (found : Option (Option PropertyValue)) : ∀ a ∈ atomsOf found, a < 4294967296 := by
  rw [atomsOf]
  cases found.join with
  | none => simp
  | some pv => exact leWords_lt pv.data

theorem newAtoms_eq (s : GeometryState) : newAtoms wmAtoms event s = changeAtoms (readU32 s.msbFirst event 12)
      (if readU32 s.msbFirst event 20 ≠ 0 then
        [readU32 s.msbFirst event 16, readU32 s.msbFirst event 20] else [readU32 s.msbFirst event 16])
      (atomsOf (propertyOf (messageWindow s event) s)) := by
  rw [← listedAtoms_eq]
  rfl

theorem newAtoms_lt (s : GeometryState) : ∀ a ∈ newAtoms wmAtoms event s, a < 4294967296 := by
  intro a ha
  rw [newAtoms_eq] at ha
  rcases mem_changeAtoms ha with ha | ha
  · have hsome : a = readU32 s.msbFirst event 16 ∨ a = readU32 s.msbFirst event 20 := by
      split at ha
      · simpa using ha
      · exact .inl (by simpa using ha)
    rcases hsome with rfl | rfl
    · exact readU32_lt _ _ _
    · exact readU32_lt _ _ _
  · exact atomsOf_lt _ a ha

theorem atomsOf_stateProperty {atoms : List Atom} (h : ∀ a ∈ atoms, a < 4294967296) :
    atomsOf (some (some (stateProperty atoms))) = atoms :=
  leWords_flatMap h

theorem atomsOf_dropAtom (a : Atom) (found : Option (Option PropertyValue)) :
    atomsOf (found.map (Option.map (dropAtom a))) = (atomsOf found).filter (fun b => b != a) := by
  match found with
  | none => rfl
  | some none => rfl
  | some (some pv) =>
    refine leWords_flatMap fun b hb => ?_
    exact leWords_lt pv.data b (mem_filter.mp hb).1

theorem needsResize_filter (atoms : List Atom) :
    needsResize wmAtoms (atoms.filter (fun b => b != wmAtoms.hidden)) = needsResize wmAtoms atoms := by
  have hfullscreen : (wmAtoms.fullscreen != wmAtoms.hidden) = true := rfl
  have hvert : (wmAtoms.maximizedVert != wmAtoms.hidden) = true := rfl
  have hhorz : (wmAtoms.maximizedHorz != wmAtoms.hidden) = true := rfl
  rw [Bool.eq_iff_iff]
  simp only [needsResize, Bool.or_eq_true, contains_iff_mem, mem_filter, hfullscreen, hvert, hhorz,
    and_true]

/-- The window and the geometry put aside for it still lead back to the original one. -/
def Remembers (original : Option Geometry) (w : XId) (s : GeometryState) : Prop :=
  (detourOf w s).map Detour.original = original

/-- What the three pieces of state must satisfy, read off the window's views. -/
def Linked (original : Option Geometry) (d : Option (Detour Geometry)) (atoms : List Atom) : Prop :=
  ((d.bind (·.saved)).isSome = needsResize wmAtoms atoms) ∧
    (d.bind (·.saved) = none → d.map (·.current) = original) ∧ atoms.Nodup

theorem undoes_iff : Undoes original w s ↔ Linked original (detourOf w s) (atomsOf (propertyOf w s)) := by
  rw [Linked, ← savedGeometry_eq, ← geometryOf_eq, ← listedAtoms_eq]
  constructor
  · rintro ⟨hsaved, hgeo, hnd⟩
    exact ⟨Bool.eq_iff_iff.mpr hsaved, hgeo, hnd⟩
  · rintro ⟨hsaved, hgeo, hnd⟩
    exact ⟨Bool.eq_iff_iff.mp hsaved, hgeo, hnd⟩

theorem current_of_remembers {d : Option (Detour Geometry)} (h : d.map Detour.original = original)
    (hsaved : d.bind (·.saved) = none) : d.map (·.current) = original := by
  rw [← h]
  cases d with
  | none => rfl
  | some d => exact congrArg some (Detour.current_eq_original hsaved)

theorem Remembers.step (h : Remembers original w s) (m : WmMessage) : Remembers original w (wmStep s m) := by
  cases m with
  | netWmState event =>
    by_cases hw : w = messageWindow s event
    · subst w
      rw [Remembers, wmStep, WmMessage.action, geometryStep, handleNetWmState_detour, Option.map_map, ← h]
      apply congrArg (fun f => (detourOf (messageWindow s event) s).map f)
      funext d
      exact Detour.original_follow _ _ d
    · rw [Remembers, wmStep, WmMessage.action, geometryStep, (handleNetWmState_of_ne hw).1]
      exact h
  | wmChangeState event =>
    rw [Remembers, wmStep, WmMessage.action, geometryStep, handleWmChangeState_detour]
    exact h

theorem Undoes.netWmState {event : Bytes} (hkept : Remembers original (messageWindow s event) s)
    (h : Undoes original (messageWindow s event) s) :
    Undoes original (messageWindow s event) (handleNetWmState wmAtoms event s) := by
  have hkept' : Remembers original (messageWindow s event) (handleNetWmState wmAtoms event s) :=
    hkept.step (.netWmState event)
  rw [undoes_iff, Linked]
  refine ⟨?_, current_of_remembers hkept', ?_⟩
  · rw [handleNetWmState_detour, handleNetWmState_property, detourOf, propertyOf]
    cases s.windows.lookup (messageWindow s event) with
    | none => rfl
    | some win =>
      rw [map_some, map_some, map_some, map_some,
        atomsOf_stateProperty (newAtoms_lt event s)]
      exact Detour.saved_follow _ _ _
  · rw [handleNetWmState_property, propertyOf]
    cases s.windows.lookup (messageWindow s event) with
    | none => exact nodup_nil
    | some win =>
      rw [map_some, map_some, atomsOf_stateProperty (newAtoms_lt event s), newAtoms_eq, ← listedAtoms_eq]
      exact changeAtoms_nodup _ _ h.nodup

theorem enlarged_iff : Enlarged w s ↔ needsResize wmAtoms (atomsOf (propertyOf w s)) = true := by
  rw [Enlarged, listedAtoms_eq]

theorem linked_iconify_iff {d : Option (Detour Geometry)} {atoms : List Atom} (h : Linked original d atoms) :
    Linked original d [wmAtoms.hidden] ↔ needsResize wmAtoms atoms = false := by
  obtain ⟨hsaved, hgeo, -⟩ := h
  rw [← hsaved]
  constructor
  · intro haft
    exact haft.1
  · intro hnone
    exact ⟨hnone, hgeo, nodup_singleton _⟩

theorem Undoes.wmChangeState_iff (h : Undoes original w s) (event : Bytes) :
    Undoes original w (handleWmChangeState wmAtoms event s) ↔
      ¬ (Iconifies w s (.wmChangeState event) ∧ Enlarged w s) := by
  have hlinked := undoes_iff.mp h
  rw [undoes_iff, handleWmChangeState_detour, handleWmChangeState_property, enlarged_iff, Iconifies]
  by_cases hw : w = messageWindow s event
  · rw [if_pos hw]
    simp only [hw.symm, true_and]
    generalize readU32 s.msbFirst event 12 = desired
    match desired with
    | 3 =>
      simp only [true_and, Bool.not_eq_true]
      cases hfnd : propertyOf w s with
      | none =>
        rw [hfnd] at hlinked
        exact iff_of_true hlinked rfl
      | some found =>
        rw [hfnd] at hlinked
        rw [← linked_iconify_iff hlinked]
        rfl
    | 1 =>
      refine iff_of_true ?_ (by simp)
      obtain ⟨hsaved, hgeo, hnd⟩ := hlinked
      change Linked original _ (atomsOf ((propertyOf w s).map (Option.map (dropAtom wmAtoms.hidden))))
      rw [atomsOf_dropAtom]
      exact ⟨hsaved.trans (needsResize_filter _).symm, hgeo, hnd.filter _⟩
    | 0 | 2 | n + 4 =>
      refine iff_of_true ?_ (by simp)
      change Linked original _ (atomsOf ((propertyOf w s).map id))
      rw [Option.map_id]
      exact hlinked
  · rw [if_neg hw]
    exact iff_of_true hlinked fun hbad => hw hbad.1.1.symm

theorem Undoes.step_iff (hkept : Remembers original w s) (h : Undoes original w s) (m : WmMessage) :
    Undoes original w (wmStep s m) ↔ ¬ (Iconifies w s m ∧ Enlarged w s) := by
  cases m with
  | netWmState event =>
    refine iff_of_true ?_ fun hbad => hbad.1
    by_cases hw : w = messageWindow s event
    · subst w
      exact h.netWmState hkept
    · obtain ⟨hdetour, hprop⟩ := handleNetWmState_of_ne (s := s) hw
      have hlinked := undoes_iff.mp h
      rw [← hdetour, ← hprop] at hlinked
      exact undoes_iff.mpr hlinked
  | wmChangeState event => exact h.wmChangeState_iff event

theorem Plain.undoes (h : Plain w s) : Undoes (geometryOf w s) w s := by
  refine ⟨?_, fun _ => rfl, h.nodup⟩
  rw [h.saved]
  exact iff_of_false Bool.false_ne_true h.small

theorem Plain.remembers (h : Plain w s) : Remembers (geometryOf w s) w s := by
  have hsaved := h.saved
  rw [savedGeometry_eq] at hsaved
  rw [Remembers, geometryOf_eq]
  exact (current_of_remembers rfl hsaved).symm

theorem maximise_undone_iff (h : Plain w s) (ms : List WmMessage) :
    (∀ bs, bs <+: ms → Undoes (geometryOf w s) w (bs.foldl wmStep s)) ↔
      ∀ bs m, bs ++ [m] <+: ms → ¬ (Iconifies w (bs.foldl wmStep s) m ∧ Enlarged w (bs.foldl wmStep s)) :=
  foldl_stays_iff (fun _ m hkept _ => hkept.step m) (fun _ m hkept h => h.step_iff hkept m) h.remembers h.undoes ms

theorem smallScreen_plain : Plain 7 smallScreen := by
  have hwin : smallScreen.windows.lookup 7 = some smallWindow := Finmap.lookup_insert _
  refine ⟨?_, ?_, ?_⟩
  · rw [savedGeometry, hwin]
    rfl
  · rw [Enlarged, listedAtoms, hwin]
    decide
  · rw [listedAtoms, hwin]
    decide

theorem maximise_undone_fullscreen :
    Undoes (geometryOf 7 smallScreen) 7 ([.netWmState (clientMessage 7 [1, 101, 95, 0, 0]),
      .netWmState (clientMessage 7 [0, 101, 95, 0, 0])].foldl wmStep smallScreen) := by
  refine (maximise_undone_iff smallScreen_plain _).mpr (fun bs m hbs hbad => ?_) _ prefix_rfl
  have hm := hbs.subset (mem_append_right bs (mem_singleton_self m))
  simp only [mem_cons, not_mem_nil, or_false] at hm
  rcases hm with rfl | rfl
  · exact hbad.1
  · exact hbad.1

/-- Made fullscreen and then iconified, the window keeps its saved geometry and no longer
lists that it is fullscreen. -/
theorem iconify_forgets :
    Plain 7 smallScreen ∧ ¬ Undoes (geometryOf 7 smallScreen) 7
      ([.netWmState (clientMessage 7 [1, 101, 0, 0, 0]),
        .wmChangeState (clientMessage 7 [3, 0, 0, 0, 0])].foldl wmStep smallScreen) := by
  refine ⟨smallScreen_plain, fun haft => ?_⟩
  let fullscreen := WmMessage.netWmState (clientMessage 7 [1, 101, 0, 0, 0])
  have hfst : Undoes (geometryOf 7 smallScreen) 7 (wmStep smallScreen fullscreen) :=
    (smallScreen_plain.undoes.step_iff smallScreen_plain.remembers _).mpr fun hbad => hbad.1
  refine (hfst.step_iff (smallScreen_plain.remembers.step fullscreen)
    (.wmChangeState (clientMessage 7 [3, 0, 0, 0, 0]))).mp haft ⟨⟨?_, ?_⟩, ?_⟩
  all_goals decide +kernel

end X11Web.Maximise
