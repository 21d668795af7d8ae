import X11Web.WindowTree

namespace X11Web.SyncWindows

open HashMaps LinkedForest Windows WindowTree Finmap

abbrev WindowMap := HashMap XId WindowState

variable {me : ClientId} {s : ClientState} {order : List XId} {V : Type}

/-- The list `order` is an iteration order of the map. -/
def Enumerates (order : List XId) (m : HashMap XId V) : Prop :=
  order.Nodup ∧ ∀ k, k ∈ order ↔ k ∈ m

theorem enumerates_iff (order : List XId) (m : HashMap XId V) :
    Enumerates order m ↔ order.Nodup ∧ order.toFinset = m.keys := by
  rw [Enumerates]
  refine and_congr_right fun _ => ?_
  rw [Finset.ext_iff]
  simp only [List.mem_toFinset, mem_keys]

theorem exists_enumerates (m : HashMap XId V) : ∃ order, Enumerates order m := by
  refine ⟨m.keys.toList, (enumerates_iff _ _).mpr ⟨Finset.nodup_toList _, ?_⟩⟩
  exact Finset.toList_toFinset m.keys

instance (order : List XId) (m : HashMap XId V) : Decidable (Enumerates order m) :=
  decidable_of_iff _ (enumerates_iff order m).symm

def isMine (me : ClientId) (win : WindowState) : Bool :=
  win.ownerClientId == none || win.ownerClientId == some me

/-- The shared and the local map differ in size, or the first shared key is not
a local one. -/
def needsStep1 (order : List XId) (shared windows : WindowMap) : Bool :=
  shared.keys.card != windows.keys.card || order.head?.any (fun k => decide (k ∉ windows))

def dropForeign (me : ClientId) (shared windows : WindowMap) : WindowMap :=
  retain (fun w win => isMine me win || decide (w ∈ shared)) windows

def mergeForeign (sharedWin localWin : WindowState) : WindowState :=
  { localWin with
    mapped := localWin.mapped || sharedWin.mapped
    redirected := localWin.redirected || sharedWin.redirected
    properties := localWin.properties ∪ sharedWin.properties }

/-- What one round of the pull loop leaves under the key it visits. -/
def pullEntry (me : ClientId) (sharedWin : WindowState) : Option WindowState → WindowState
  | none => sharedWin
  | some localWin => if isMine me localWin then localWin else mergeForeign sharedWin localWin

def pullWindow (me : ClientId) (shared : WindowMap) (windows : WindowMap) (w : XId) : WindowMap :=
  match shared.lookup w with
  | none => windows
  | some sharedWin => windows.insert w (pullEntry me sharedWin (windows.lookup w))

def step1 (me : ClientId) (order : List XId) (shared windows : WindowMap) : WindowMap :=
  order.foldl (pullWindow me shared) (dropForeign me shared windows)

def pushInto (me : ClientId) (localWin sharedWin : WindowState) : WindowState :=
  { sharedWin with
    mapped := if isMine me localWin then localWin.mapped else sharedWin.mapped || localWin.mapped
    redirected := if isMine me localWin then localWin.redirected
      else sharedWin.redirected || localWin.redirected
    properties := localWin.properties ∪ sharedWin.properties
    x := localWin.x
    y := localWin.y
    width := localWin.width
    height := localWin.height }

def pushEntry (me : ClientId) (localWin : WindowState) : Option WindowState → Option WindowState
  | some sharedWin => some (pushInto me localWin sharedWin)
  | none => if isMine me localWin then some localWin else none

def pushWindow (me : ClientId) (windows : WindowMap) (shared : WindowMap) (w : XId) : WindowMap :=
  match windows.lookup w with
  | none => shared
  | some localWin =>
    match pushEntry me localWin (shared.lookup w) with
    | some win => shared.insert w win
    | none => shared

def step2 (me : ClientId) (dirty : List XId) (windows shared : WindowMap) : WindowMap :=
  dirty.foldl (pushWindow me windows) shared

/-- Step 2 after the local map has been brought to `windows`. -/
def flushDirty (windows : WindowMap) (s : ClientState) : ClientState :=
  { s with
    windows := windows
    sharedDirtyWindows := []
    shared := { s.shared with
      windows := step2 s.clientId s.sharedDirtyWindows windows s.shared.windows } }

def syncWindows (order : List XId) (s : ClientState) : ClientState :=
  flushDirty (if needsStep1 order s.shared.windows s.windows then
    step1 s.clientId order s.shared.windows s.windows else s.windows) s

/-- The same without the shortcut: step 1 is always performed. -/
def syncWindowsAlways (order : List XId) (s : ClientState) : ClientState :=
  flushDirty (step1 s.clientId order s.shared.windows s.windows) s

variable (shared windows : WindowMap)

theorem lookup_pullWindow (w a : XId) : (pullWindow me shared windows w).lookup a = if a = w then
      (shared.lookup w).elim (windows.lookup w)
        (fun sw => some (pullEntry me sw (windows.lookup w)))
    else windows.lookup a := by
  rw [pullWindow]
  cases hs : shared.lookup w with
  | none =>
    by_cases ha : a = w
    · subst a; simp
    · simp [ha]
  | some sw => simp [lookup_insert_eq]

theorem lookup_step1 (hnd : order.Nodup) (a : XId) :
    (step1 me order shared windows).lookup a = if a ∈ order then
      (shared.lookup a).elim ((dropForeign me shared windows).lookup a)
        (fun sw => some (pullEntry me sw ((dropForeign me shared windows).lookup a)))
    else (dropForeign me shared windows).lookup a := by
  rw [step1]
  exact lookup_foldl_pointwise (pullWindow me shared)
    (fun k old => (shared.lookup k).elim old (fun sw => some (pullEntry me sw old)))
    (fun m k b => lookup_pullWindow shared m k b) order hnd _ a

theorem lookup_dropForeign (a : XId) : (dropForeign me shared windows).lookup a =
      (windows.lookup a).filter (fun win => isMine me win || decide (a ∈ shared)) :=
  lookup_retain _ windows a

theorem lookup_dropForeign_of_alive {shared windows : WindowMap}
    (h : ∀ w win, windows.lookup w = some win → ¬ isMine me win → w ∈ shared) (a : XId) :
    (dropForeign me shared windows).lookup a = windows.lookup a := by
  rw [lookup_dropForeign]
  cases hwin : windows.lookup a with
  | none => rfl
  | some win =>
    by_cases hm : isMine me win
    · simp [hm]
    · simp [h a win hwin hm]

/-- Nothing is there to pull: the shared keys are local, no foreign local window
is gone, and the shared copy of a foreign window shows nothing new. -/
structure UpToDate (me : ClientId) (shared windows : WindowMap) : Prop where
  known : ∀ w, w ∈ shared → w ∈ windows
  alive : ∀ w win, windows.lookup w = some win → ¬ isMine me win → w ∈ shared
  shown : ∀ w win sw, windows.lookup w = some win → ¬ isMine me win → shared.lookup w = some sw →
    (sw.mapped → win.mapped) ∧ (sw.redirected → win.redirected) ∧
      ∀ a, a ∈ sw.properties → a ∈ win.properties

theorem union_eq_left_iff {K V : Type} [DecidableEq K] (m m' : HashMap K V) :
    m ∪ m' = m ↔ ∀ a, a ∈ m' → a ∈ m := by
  constructor
  · intro h a ha
    rw [← h]
    exact mem_union.mpr (.inr ha)
  · intro h
    apply ext_lookup
    intro a
    by_cases ha : a ∈ m
    · exact lookup_union_left ha
    · rw [lookup_union_right ha, lookup_eq_none.mpr ha,
        lookup_eq_none.mpr (fun ha' => ha (h a ha'))]

theorem mergeForeign_eq_iff (sw win : WindowState) :
    mergeForeign sw win = win ↔ (sw.mapped → win.mapped) ∧ (sw.redirected → win.redirected) ∧
      ∀ a, a ∈ sw.properties → a ∈ win.properties := by
  rw [← union_eq_left_iff]
  constructor
  · intro h
    have hm := congrArg WindowState.mapped h
    have hr := congrArg WindowState.redirected h
    have hp := congrArg WindowState.properties h
    simp only [mergeForeign, Bool.or_eq_left_iff_imp] at hm hr
    exact ⟨hm, hr, hp⟩
  · intro ⟨hm, hr, hp⟩
    rw [mergeForeign]
    rw [hp, Bool.or_eq_left_iff_imp.mpr hm, Bool.or_eq_left_iff_imp.mpr hr]

theorem step1_eq_self_iff (hord : Enumerates order shared) :
    step1 me order shared windows = windows ↔ UpToDate me shared windows := by
  have hlook := @lookup_step1 me order shared windows hord.1
  constructor
  · intro h
    rw [h] at hlook
    refine ⟨?_, ?_, ?_⟩
    · intro w hw
      obtain ⟨sw, hsw⟩ := mem_iff.mp hw
      have hl := hlook w
      rw [if_pos ((hord.2 w).mpr hw), hsw] at hl
      exact mem_of_lookup_eq_some hl
    · intro w win hwin hfor
      by_contra hw
      have hl := hlook w
      rw [if_neg (fun ho => hw ((hord.2 w).mp ho)), lookup_dropForeign, hwin] at hl
      simp [Option.filter, hfor, hw] at hl
    · intro w win sw hwin hfor hsw
      have hw : w ∈ shared := mem_of_lookup_eq_some hsw
      have hl := hlook w
      rw [if_pos ((hord.2 w).mpr hw), hsw, lookup_dropForeign, hwin] at hl
      simp only [Option.filter, hw, decide_true, Bool.or_true, if_true, Option.elim, pullEntry,
        if_neg hfor, Option.some.injEq] at hl
      exact (mergeForeign_eq_iff sw win).mp hl.symm
  · intro h
    apply ext_lookup
    intro a
    rw [hlook, lookup_dropForeign_of_alive h.alive]
    split
    · next ha =>
      have hs := (hord.2 a).mp ha
      obtain ⟨sw, hsw⟩ := mem_iff.mp hs
      obtain ⟨win, hwin⟩ := mem_iff.mp (h.known a hs)
      rw [hsw, hwin]
      simp only [Option.elim, pullEntry, Option.some.injEq]
      split
      · rfl
      · next hm => exact (mergeForeign_eq_iff sw win).mpr (h.shown a win sw hwin hm hsw)
    · rfl

theorem mem_pushWindow {windows shared : WindowMap} {w a : XId}
    (h : a ∈ pushWindow me windows shared w) : a ∈ shared ∨ a ∈ windows := by
  rw [pushWindow] at h
  split at h
  · exact .inl h
  · next win hwin =>
    split at h
    · obtain rfl | h := mem_insert.mp h
      · exact .inr (mem_of_lookup_eq_some hwin)
      · exact .inl h
    · exact .inl h

theorem mem_step2 {dirty : List XId} {windows shared : WindowMap} {a : XId}
    (h : a ∈ step2 me dirty windows shared) : a ∈ shared ∨ a ∈ windows := by
  induction dirty generalizing shared with
  | nil => exact .inl h
  | cons w dirty ih =>
    obtain h | h := ih h
    · exact mem_pushWindow h
    · exact .inr h

theorem mem_pushWindow_of_mem {windows shared : WindowMap} {w a : XId} (h : a ∈ shared) :
    a ∈ pushWindow me windows shared w := by
  rw [pushWindow]
  split
  · exact h
  · split
    · exact mem_insert.mpr (.inr h)
    · exact h

theorem mem_step2_of_mem {dirty : List XId} {windows shared : WindowMap} {a : XId}
    (h : a ∈ shared) : a ∈ step2 me dirty windows shared := by
  induction dirty generalizing shared with
  | nil => exact h
  | cons w dirty ih => exact ih (mem_pushWindow_of_mem h)

/-- A client that is alone: it or the server owns every window it knows, and it
knows every shared one. -/
structure Solo (s : ClientState) : Prop where
  own : ∀ w o, (s.windows.lookup w).map (·.ownerClientId) = some o →
    o = none ∨ o = some s.clientId
  shared : ∀ w, w ∈ s.shared.windows → w ∈ s.windows

theorem Solo.upToDate (h : Solo s) : UpToDate s.clientId s.shared.windows s.windows := by
  have hmine : ∀ w win, s.windows.lookup w = some win → isMine s.clientId win := by
    intro w win hwin
    have ho := h.own w win.ownerClientId (by simp [hwin])
    simpa [isMine] using ho
  refine ⟨h.shared, ?_, ?_⟩
  · intro w win hwin hfor
    exact absurd (hmine w win hwin) hfor
  · intro w win _ hwin hfor
    exact absurd (hmine w win hwin) hfor

theorem Solo.syncWindows_windows (h : Solo s) (hord : Enumerates order s.shared.windows) :
    (syncWindows order s).windows = s.windows := by
  rw [syncWindows, flushDirty]
  dsimp only
  split
  · exact (step1_eq_self_iff _ _ hord).mpr h.upToDate
  · rfl

theorem Solo.syncWindows (h : Solo s) (hord : Enumerates order s.shared.windows) :
    Solo (syncWindows order s) := by
  have hw := h.syncWindows_windows hord
  constructor
  · rw [hw]
    exact h.own
  · intro w hmem
    rw [hw]
    have hmem' : w ∈ step2 s.clientId s.sharedDirtyWindows (SyncWindows.syncWindows order s).windows
      s.shared.windows := hmem
    rw [hw] at hmem'
    obtain hs | hl := mem_step2 hmem'
    · exact h.shared w hs
    · exact hl

/-- The shortcut is taken when the maps have the same size and the first shared
key is a local one. Then it goes unnoticed exactly when nothing is there to pull. -/
theorem syncWindows_shortcut_iff (order : List XId) (s : ClientState)
    (hord : Enumerates order s.shared.windows) :
    ((syncWindows order s).windows = (syncWindowsAlways order s).windows ∧
      (syncWindows order s).shared.windows = (syncWindowsAlways order s).shared.windows) ↔
    (s.shared.windows.keys.card ≠ s.windows.keys.card ∨
      (∃ k, order.head? = some k ∧ k ∉ s.windows) ∨
      UpToDate s.clientId s.shared.windows s.windows) := by
  have hneeds : needsStep1 order s.shared.windows s.windows = true ↔
      s.shared.windows.keys.card ≠ s.windows.keys.card ∨
        ∃ k, order.head? = some k ∧ k ∉ s.windows := by
    cases hhead : order.head? <;> simp [needsStep1, hhead]
  rw [← or_assoc, ← hneeds, ← step1_eq_self_iff s.shared.windows s.windows hord]
  unfold syncWindows syncWindowsAlways flushDirty
  by_cases h : needsStep1 order s.shared.windows s.windows = true
  · simp [h]
  · simp only [h, if_false, false_or, Bool.false_eq_true]
    constructor
    · intro heq
      exact heq.1.symm
    · intro heq
      rw [heq]
      exact ⟨rfl, rfl⟩

/-- Client 1 has cached the unmapped window `0x800000` of client 2, which has
mapped it since. -/
def staleForeign : ClientState :=
  let foreign := { serverWindow 0x800000 ∅ with ownerClientId := some 2 }
  let root := Finmap.singleton rootWindow (rootRecord ∅)
  let shared := { initialShared (fun _ => ∅) ∅ with
    windows := root.insert 0x800000 { foreign with mapped := true } }
  { acceptClient 1 false 0 0 [] shared with windows := root.insert 0x800000 foreign }

theorem staleForeign_enumerates :
    Enumerates [rootWindow, 0x800000] staleForeign.shared.windows := by
  decide

theorem syncWindows_shortcut_visible :
    ¬ ∀ (order : List XId) (s : ClientState), Enumerates order s.shared.windows →
      (syncWindows order s).windows = (syncWindowsAlways order s).windows ∧
        (syncWindows order s).shared.windows = (syncWindowsAlways order s).shared.windows := by
  intro h
  have hmpd := congrArg (fun m => (m.lookup 0x800000).map (·.mapped))
    (h [rootWindow, 0x800000] staleForeign staleForeign_enumerates).1
  revert hmpd
  decide

/-- Client 1 has cached the window of client 2 as it is shared. -/
theorem syncWindows_shortcut_foreign :
    (syncWindows [rootWindow, 0x800000] (acceptClient 1 false 0 0 [] staleForeign.shared)).windows =
      (syncWindowsAlways [rootWindow, 0x800000] (acceptClient 1 false 0 0 [] staleForeign.shared)).windows := by
  have hord : Enumerates [rootWindow, 0x800000] staleForeign.shared.windows := staleForeign_enumerates
  refine ((syncWindows_shortcut_iff _ (acceptClient 1 false 0 0 [] staleForeign.shared) hord).mpr
    (.inr (.inr ⟨fun w hw => hw, ?_, ?_⟩))).1
  · intro w win hwin _
    exact mem_of_lookup_eq_some hwin
  · intro w win sw hwin _ hsw
    obtain rfl : win = sw := Option.some.inj (hwin.symm.trans hsw)
    exact ⟨id, id, fun a ha => ha⟩

end X11Web.SyncWindows
