import X11Web.HashMaps
import Mathlib.Data.List.Dedup

namespace X11Web.Atoms

open HashMaps List

structure AtomManager where
  atoms : HashMap String Nat
  reverse : HashMap Nat String
  nextAtom : Nat

def predefinedAtoms : List (String × Nat) :=
  [("PRIMARY", 1), ("SECONDARY", 2), ("ARC", 3), ("ATOM", 4), ("BITMAP", 5), ("CARDINAL", 6),
    ("COLORMAP", 7), ("CURSOR", 8), ("CUT_BUFFER0", 9), ("CUT_BUFFER1", 10), ("CUT_BUFFER2", 11),
    ("CUT_BUFFER3", 12), ("CUT_BUFFER4", 13), ("CUT_BUFFER5", 14), ("CUT_BUFFER6", 15),
    ("CUT_BUFFER7", 16), ("DRAWABLE", 17), ("FONT", 18), ("INTEGER", 19), ("PIXMAP", 20),
    ("POINT", 21), ("RECTANGLE", 22), ("RESOURCE_MANAGER", 23), ("RGB_COLOR_MAP", 24),
    ("RGB_BEST_MAP", 25), ("RGB_BLUE_MAP", 26), ("RGB_DEFAULT_MAP", 27), ("RGB_GRAY_MAP", 28),
    ("RGB_GREEN_MAP", 29), ("RGB_RED_MAP", 30), ("STRING", 31), ("VISUALID", 32), ("WINDOW", 33),
    ("WM_COMMAND", 34), ("WM_HINTS", 35), ("WM_CLIENT_MACHINE", 36), ("WM_ICON_NAME", 37),
    ("WM_ICON_SIZE", 38), ("WM_NAME", 39), ("WM_NORMAL_HINTS", 40), ("WM_SIZE_HINTS", 41),
    ("WM_ZOOM_HINTS", 42), ("MIN_SPACE", 43), ("NORM_SPACE", 44), ("MAX_SPACE", 45),
    ("END_SPACE", 46), ("SUPERSCRIPT_X", 47), ("SUPERSCRIPT_Y", 48), ("SUBSCRIPT_X", 49),
    ("SUBSCRIPT_Y", 50), ("UNDERLINE_POSITION", 51), ("UNDERLINE_THICKNESS", 52),
    ("STRIKEOUT_ASCENT", 53), ("STRIKEOUT_DESCENT", 54), ("ITALIC_ANGLE", 55), ("X_HEIGHT", 56),
    ("QUAD_WIDTH", 57), ("WEIGHT", 58), ("POINT_SIZE", 59), ("RESOLUTION", 60), ("COPYRIGHT", 61),
    ("NOTICE", 62), ("FONT_NAME", 63), ("FAMILY_NAME", 64), ("FULL_NAME", 65), ("CAP_HEIGHT", 66),
    ("WM_CLASS", 67), ("WM_TRANSIENT_FOR", 68), ("WM_PROTOCOLS", 69), ("WM_DELETE_WINDOW", 70),
    ("WM_TAKE_FOCUS", 71), ("WM_STATE", 72), ("WM_CHANGE_STATE", 73), ("WM_COLORMAP_WINDOWS", 74),
    ("_NET_SUPPORTED", 75), ("_NET_SUPPORTING_WM_CHECK", 76), ("_NET_WM_NAME", 77),
    ("_NET_WM_ICON_NAME", 78), ("_NET_WM_WINDOW_TYPE", 79), ("_NET_WM_WINDOW_TYPE_NORMAL", 80),
    ("_NET_WM_WINDOW_TYPE_DIALOG", 81), ("_NET_WM_WINDOW_TYPE_TOOLBAR", 82),
    ("_NET_WM_WINDOW_TYPE_MENU", 83), ("_NET_WM_WINDOW_TYPE_UTILITY", 84),
    ("_NET_WM_WINDOW_TYPE_SPLASH", 85), ("_NET_WM_WINDOW_TYPE_DOCK", 86),
    ("_NET_WM_WINDOW_TYPE_DESKTOP", 87), ("_NET_WM_WINDOW_TYPE_DROPDOWN_MENU", 88),
    ("_NET_WM_WINDOW_TYPE_POPUP_MENU", 89), ("_NET_WM_WINDOW_TYPE_TOOLTIP", 90),
    ("_NET_WM_WINDOW_TYPE_NOTIFICATION", 91), ("_NET_WM_STATE", 92), ("_NET_WM_STATE_MODAL", 93),
    ("_NET_WM_STATE_STICKY", 94), ("_NET_WM_STATE_MAXIMIZED_VERT", 95),
    ("_NET_WM_STATE_MAXIMIZED_HORZ", 96), ("_NET_WM_STATE_SHADED", 97),
    ("_NET_WM_STATE_SKIP_TASKBAR", 98), ("_NET_WM_STATE_SKIP_PAGER", 99),
    ("_NET_WM_STATE_HIDDEN", 100), ("_NET_WM_STATE_FULLSCREEN", 101), ("_NET_WM_STATE_ABOVE", 102),
    ("_NET_WM_STATE_BELOW", 103), ("_NET_WM_STATE_DEMANDS_ATTENTION", 104),
    ("_NET_WM_STATE_FOCUSED", 105), ("_NET_WM_ALLOWED_ACTIONS", 106), ("_NET_WM_ACTION_MOVE", 107),
    ("_NET_WM_ACTION_RESIZE", 108), ("_NET_WM_ACTION_MINIMIZE", 109),
    ("_NET_WM_ACTION_SHADE", 110), ("_NET_WM_ACTION_STICK", 111),
    ("_NET_WM_ACTION_MAXIMIZE_HORZ", 112), ("_NET_WM_ACTION_MAXIMIZE_VERT", 113),
    ("_NET_WM_ACTION_FULLSCREEN", 114), ("_NET_WM_ACTION_CHANGE_DESKTOP", 115),
    ("_NET_WM_ACTION_CLOSE", 116), ("_NET_ACTIVE_WINDOW", 117), ("_NET_CLIENT_LIST", 118),
    ("_NET_CLIENT_LIST_STACKING", 119), ("_NET_NUMBER_OF_DESKTOPS", 120),
    ("_NET_CURRENT_DESKTOP", 121), ("_NET_DESKTOP_NAMES", 122), ("_NET_WORKAREA", 123),
    ("_NET_DESKTOP_GEOMETRY", 124), ("_NET_DESKTOP_VIEWPORT", 125), ("_NET_FRAME_EXTENTS", 126),
    ("_NET_WM_PID", 127), ("_NET_WM_USER_TIME", 128), ("_NET_WM_STRUT", 129),
    ("_NET_WM_STRUT_PARTIAL", 130), ("_NET_WM_ICON", 131), ("_NET_WM_VISIBLE_NAME", 132),
    ("UTF8_STRING", 133), ("CLIPBOARD", 134), ("TARGETS", 135), ("MULTIPLE", 136),
    ("TIMESTAMP", 137), ("INCR", 138), ("_NET_WM_PING", 139), ("_NET_WM_SYNC_REQUEST", 140),
    ("_MOTIF_WM_HINTS", 141), ("XdndAware", 142), ("XdndSelection", 143), ("XdndEnter", 144),
    ("XdndLeave", 145), ("XdndPosition", 146), ("XdndDrop", 147), ("XdndFinished", 148),
    ("XdndStatus", 149), ("XdndActionCopy", 150), ("XdndActionMove", 151), ("XdndActionLink", 152),
    ("XdndActionAsk", 153), ("XdndActionPrivate", 154), ("XdndTypeList", 155), ("XdndProxy", 156),
    ("_XIM_PROTOCOL", 157), ("_XIM_XCONNECT", 158), ("XIM_SERVERS", 159), ("LOCALES", 160),
    ("TRANSPORT", 161), ("_XIM_MOREDATA", 162), ("_XSETTINGS_SETTINGS", 163),
    ("_XSETTINGS_S0", 164), ("MANAGER", 165), ("_NET_WM_WINDOW_OPACITY", 166),
    ("_NET_WM_MOVERESIZE", 167), ("_NET_REQUEST_FRAME_EXTENTS", 168),
    ("_NET_WM_FULL_PLACEMENT", 169), ("_NET_STARTUP_ID", 170), ("_NET_WM_DESKTOP", 171),
    ("_NET_CLOSE_WINDOW", 172), ("_NET_MOVERESIZE_WINDOW", 173), ("_NET_RESTACK_WINDOW", 174),
    ("_NET_WM_FULLSCREEN_MONITORS", 175), ("_NET_WM_CM_S0", 176), ("_XEMBED", 177),
    ("_XEMBED_INFO", 178), ("CLIPBOARD_MANAGER", 179), ("SAVE_TARGETS", 180),
    ("COMPOUND_TEXT", 181), ("TEXT", 182), ("text/plain", 183), ("text/plain;charset=utf-8", 184),
    ("_XKB_RULES_NAMES", 185), ("_NET_SYSTEM_TRAY_S0", 186), ("_NET_SYSTEM_TRAY_OPCODE", 187),
    ("_NET_SYSTEM_TRAY_ORIENTATION", 188), ("_NET_SYSTEM_TRAY_VISUAL", 189), ("DELETE", 190),
    ("INSERT_SELECTION", 191), ("INSERT_PROPERTY", 192)]

/-- One round of the loop of `new`. -/
def AtomManager.addPredefined (m : AtomManager) (entry : String × Nat) : AtomManager where
  atoms := m.atoms.insert entry.1 entry.2
  reverse := m.reverse.insert entry.2 entry.1
  nextAtom := if entry.2 ≥ m.nextAtom then entry.2 + 1 else m.nextAtom

def AtomManager.new : AtomManager :=
  predefinedAtoms.foldl AtomManager.addPredefined ⟨∅, ∅, 1⟩

/-- The counter is a machine word of 32 bits. -/
def AtomManager.intern (m : AtomManager) (name : String) (onlyIfExists : Bool) : AtomManager × Nat :=
  match m.atoms.lookup name with
  | some id => (m, id)
  | none =>
    if onlyIfExists then (m, 0)
    else
      ({ atoms := m.atoms.insert name m.nextAtom
         reverse := m.reverse.insert m.nextAtom name
         nextAtom := (m.nextAtom + 1) % 4294967296 }, m.nextAtom)

def distinct : List Nat → Nat → Bool
  | [], _ => true
  | n :: ns, mask => !mask.testBit n && distinct ns (mask ||| 1 <<< n)

theorem nodup_of_distinct {ns : List Nat} {mask : Nat} (h : distinct ns mask = true) :
    ns.Nodup ∧ ∀ n ∈ ns, mask.testBit n = false := by
  induction ns generalizing mask with
  | nil => exact ⟨nodup_nil, by simp⟩
  | cons n ns ih =>
    rw [distinct, Bool.and_eq_true, Bool.not_eq_true'] at h
    obtain ⟨hn, hns⟩ := h
    obtain ⟨hnd, hmask⟩ := ih hns
    have hbits : ∀ k ∈ ns, mask.testBit k = false ∧ k ≠ n := by
      intro k hk
      have hor := hmask k hk
      rw [Nat.testBit_or, Bool.or_eq_false_iff] at hor
      refine ⟨hor.1, ?_⟩
      rintro rfl
      have hone := hor.2
      simp at hone
    refine ⟨nodup_cons.mpr ⟨fun hk => (hbits n hk).2 rfl, hnd⟩, ?_⟩
    exact forall_mem_cons.mpr ⟨hn, fun k hk => (hbits k hk).1⟩

/-- A number that tells the predefined names apart; 2927 is the least modulus that does. -/
def nameCode (name : String) : Nat :=
  name.toByteArray.data.toList.foldl (fun code byte => 256 * code + byte.toNat) 0 % 2927

theorem predefinedAtoms_names_nodup : (predefinedAtoms.map Prod.fst).Nodup := by
  have hcodes : distinct ((predefinedAtoms.map Prod.fst).map nameCode) 0 = true := by decide +kernel
  exact (nodup_of_distinct hcodes).1.of_map nameCode

theorem predefinedAtoms_ids : predefinedAtoms.map Prod.snd = List.range' 1 192 := by decide +kernel

/-- What the tables and the counter keep to: the two maps undo each other, and every
id given out is positive and below the next one. -/
structure Consistent (m : AtomManager) : Prop where
  inverse : MutuallyInverse m.atoms m.reverse
  positive : ∀ name id, m.atoms.lookup name = some id → 0 < id
  below : ∀ name id, m.atoms.lookup name = some id → id < m.nextAtom
  next : 0 < m.nextAtom

variable {m : AtomManager}

theorem Consistent.reverse_next (h : Consistent m) : m.reverse.lookup m.nextAtom = none := by
  cases hr : m.reverse.lookup m.nextAtom with
  | none => rfl
  | some name => exact absurd (h.below name _ ((h.inverse name _).mpr hr)) (Nat.lt_irrefl _)

variable {name : String}

theorem Consistent.number (h : Consistent m) (hname : m.atoms.lookup name = none) :
    Consistent ⟨m.atoms.insert name m.nextAtom, m.reverse.insert m.nextAtom name, m.nextAtom + 1⟩ where
  inverse := h.inverse.insert hname h.reverse_next
  positive := by
    intro other id hid
    rw [lookup_insert_eq] at hid
    split at hid
    · exact Option.some.inj hid ▸ h.next
    · exact h.positive other id hid
  below := by
    intro other id hid
    rw [lookup_insert_eq] at hid
    split at hid
    · exact Option.some.inj hid ▸ Nat.lt_succ_self _
    · exact Nat.lt_succ_of_lt (h.below other id hid)
  next := Nat.succ_pos _

theorem Consistent.foldl_addPredefined (h : Consistent m) {entries : List (String × Nat)}
    (hnms : (entries.map Prod.fst).Nodup) (hids : entries.map Prod.snd = List.range' m.nextAtom entries.length)
    (hfresh : ∀ name ∈ entries.map Prod.fst, m.atoms.lookup name = none) :
    Consistent (entries.foldl AtomManager.addPredefined m) ∧
      (entries.foldl AtomManager.addPredefined m).nextAtom = m.nextAtom + entries.length := by
  induction entries generalizing m with
  | nil => exact ⟨h, rfl⟩
  | cons entry entries ih =>
    obtain ⟨name, id⟩ := entry
    obtain ⟨hname, hrest⟩ := nodup_cons.mp hnms
    obtain ⟨hid, htail⟩ := List.cons.inj hids
    subst hid
    have hadd : m.addPredefined (name, m.nextAtom) =
        ⟨m.atoms.insert name m.nextAtom, m.reverse.insert m.nextAtom name, m.nextAtom + 1⟩ := by
      simp [AtomManager.addPredefined]
    rw [foldl_cons, hadd]
    obtain ⟨haft, hnext⟩ := ih (h.number (hfresh name mem_cons_self)) hrest htail (by
      intro other hoth
      have hne : other ≠ name := fun heq => hname (heq ▸ hoth)
      rw [lookup_insert_eq, if_neg hne]
      exact hfresh other (mem_cons_of_mem _ hoth))
    refine ⟨haft, hnext.trans ?_⟩
    simp [Nat.add_assoc, Nat.add_comm 1]

theorem new_consistent : Consistent .new ∧ AtomManager.new.nextAtom = 193 := by
  have hemp : Consistent ⟨∅, ∅, 1⟩ := by
    refine ⟨mutuallyInverse_empty, ?_, ?_, Nat.one_pos⟩ <;> intro name id h <;> simp at h
  have hlen : predefinedAtoms.length = 192 := by decide +kernel
  obtain ⟨hnew, hnext⟩ := hemp.foldl_addPredefined predefinedAtoms_names_nodup
    (hlen ▸ predefinedAtoms_ids) (fun name _ => Finmap.lookup_empty name)
  exact ⟨hnew, hnext.trans (hlen ▸ rfl)⟩

theorem intern_cases (m : AtomManager) (name : String) (onlyIfExists : Bool) :
    (∃ id, m.atoms.lookup name = some id ∧ m.intern name onlyIfExists = (m, id)) ∨
    (m.atoms.lookup name = none ∧ onlyIfExists = true ∧ m.intern name onlyIfExists = (m, 0)) ∨
    (m.atoms.lookup name = none ∧ onlyIfExists = false ∧ m.intern name onlyIfExists =
      (⟨m.atoms.insert name m.nextAtom, m.reverse.insert m.nextAtom name,
        (m.nextAtom + 1) % 4294967296⟩, m.nextAtom)) := by
  rw [AtomManager.intern]
  cases hname : m.atoms.lookup name with
  | some id => exact .inl ⟨id, rfl, rfl⟩
  | none =>
    cases onlyIfExists with
    | true => exact .inr (.inl ⟨rfl, rfl, rfl⟩)
    | false => exact .inr (.inr ⟨rfl, rfl, rfl⟩)

theorem intern_onlyIfExists (m : AtomManager) (name : String) : (m.intern name true).1 = m := by
  obtain ⟨id, _, heq⟩ | ⟨_, _, heq⟩ | ⟨_, hfalse, _⟩ := intern_cases m name true
  · rw [heq]
  · rw [heq]
  · cases hfalse

theorem lookup_intern {id : Nat} (h : m.atoms.lookup name = some id)
    (other : String) (onlyIfExists : Bool) : (m.intern other onlyIfExists).1.atoms.lookup name = some id := by
  obtain ⟨_, _, heq⟩ | ⟨_, _, heq⟩ | ⟨hnone, _, heq⟩ := intern_cases m other onlyIfExists
  · rw [heq]
    exact h
  · rw [heq]
    exact h
  · rw [heq, lookup_insert_eq, if_neg]
    · exact h
    · rintro rfl
      rw [h] at hnone
      cases hnone

theorem intern_of_lookup {id : Nat} (h : m.atoms.lookup name = some id)
    (onlyIfExists : Bool) : m.intern name onlyIfExists = (m, id) := by
  rw [AtomManager.intern, h]

theorem lookup_answer {onlyIfExists : Bool} (h : (m.intern name onlyIfExists).2 ≠ 0) :
    (m.intern name onlyIfExists).1.atoms.lookup name = some (m.intern name onlyIfExists).2 := by
  obtain ⟨_, hsome, heq⟩ | ⟨_, _, heq⟩ | ⟨_, _, heq⟩ := intern_cases m name onlyIfExists
  · rw [heq]
    exact hsome
  · rw [heq] at h
    exact absurd rfl h
  · rw [heq, lookup_insert_eq, if_pos rfl]

/-- The manager after a list of calls, each a name and whether the name must exist. -/
def AtomManager.afterCalls (calls : List (String × Bool)) : AtomManager :=
  calls.foldl (fun m call => (m.intern call.1 call.2).1) .new

def AtomManager.answer (calls : List (String × Bool)) (call : String × Bool) : Nat :=
  ((afterCalls calls).intern call.1 call.2).2

/-- The names numbered so far are names of calls, and the counter tells how many there are. -/
def Counted (names : List String) (m : AtomManager) : Prop :=
  ∃ created : List String, created.Nodup ∧ (∀ name ∈ created, name ∈ names) ∧
    (∀ name ∈ created, (m.atoms.lookup name).isSome) ∧ m.nextAtom = 193 + created.length

variable {names : List String}

theorem Counted.next_le (h : Counted names m) : m.nextAtom ≤ 193 + names.dedup.length := by
  obtain ⟨created, hnd, hsub, _, hnext⟩ := h
  have hperm := hnd.subperm (fun name hname => mem_dedup.mpr (hsub name hname))
  exact hnext ▸ Nat.add_le_add_left hperm.length_le 193

theorem Counted.room (h : Counted names m)
    (hfew : (names ++ [name]).dedup.length < 4294967296 - 193) (hname : m.atoms.lookup name = none) :
    m.nextAtom + 1 < 4294967296 := by
  obtain ⟨created, hnd, hsub, hin, hnext⟩ := h
  have hnew : name ∉ created := fun hmem => by
    have hsome := hin name hmem
    rw [hname] at hsome
    cases hsome
  have hperm : (name :: created).Subperm (names ++ [name]).dedup := by
    refine (nodup_cons.mpr ⟨hnew, hnd⟩).subperm (forall_mem_cons.mpr ⟨?_, fun other hoth => ?_⟩)
    · simp
    · simp [hsub other hoth]
  have hle := hperm.length_le
  rw [length_cons] at hle
  omega

theorem Counted.intern (h : Counted names m)
    (hroom : m.atoms.lookup name = none → m.nextAtom + 1 < 4294967296) (onlyIfExists : Bool) :
    Counted (names ++ [name]) (m.intern name onlyIfExists).1 := by
  obtain ⟨created, hnd, hsub, hin, hnext⟩ := h
  have hsub' : ∀ other ∈ created, other ∈ names ++ [name] := fun other hoth =>
    mem_append_left _ (hsub other hoth)
  obtain ⟨_, _, heq⟩ | ⟨_, _, heq⟩ | ⟨hnone, _, heq⟩ := intern_cases m name onlyIfExists
  · rw [heq]
    exact ⟨created, hnd, hsub', hin, hnext⟩
  · rw [heq]
    exact ⟨created, hnd, hsub', hin, hnext⟩
  · have hnew : name ∉ created := fun hmem => by
      have hsome := hin name hmem
      rw [hnone] at hsome
      cases hsome
    rw [heq]
    refine ⟨name :: created, nodup_cons.mpr ⟨hnew, hnd⟩, ?_, ?_, ?_⟩
    · exact forall_mem_cons.mpr ⟨mem_append_right _ (mem_singleton_self name), hsub'⟩
    · refine forall_mem_cons.mpr ⟨by simp, fun other hoth => ?_⟩
      rw [lookup_insert_eq]
      split
      · rfl
      · exact hin other hoth
    · change (m.nextAtom + 1) % 4294967296 = _
      rw [Nat.mod_eq_of_lt (hroom hnone), hnext, length_cons, Nat.add_assoc]

theorem Consistent.intern (h : Consistent m)
    (hroom : m.atoms.lookup name = none → m.nextAtom + 1 < 4294967296) (onlyIfExists : Bool) :
    Consistent (m.intern name onlyIfExists).1 := by
  obtain ⟨_, _, heq⟩ | ⟨_, _, heq⟩ | ⟨hnone, _, heq⟩ := intern_cases m name onlyIfExists
  · rw [heq]
    exact h
  · rw [heq]
    exact h
  · rw [heq, Nat.mod_eq_of_lt (hroom hnone)]
    exact h.number hnone

theorem dedup_length_le {α : Type} [DecidableEq α] {as bs : List α} (h : as <+: bs) :
    as.dedup.length ≤ bs.dedup.length :=
  ((nodup_dedup as).subperm (fun _ ha => mem_dedup.mpr (h.subset (mem_dedup.mp ha)))).length_le

variable {calls : List (String × Bool)}

theorem afterCalls_consistent (hfew : (calls.map Prod.fst).dedup.length < 4294967296 - 193) :
    Consistent (.afterCalls calls) ∧ Counted (calls.map Prod.fst) (.afterCalls calls) := by
  induction calls using List.reverseRecOn with
  | nil => exact ⟨new_consistent.1, [], nodup_nil, by simp, by simp, new_consistent.2⟩
  | append_singleton calls call ih =>
    have hpre : calls.map Prod.fst <+: (calls ++ [call]).map Prod.fst := by simp
    have hle := dedup_length_le hpre
    obtain ⟨hcons, hcnt⟩ := ih (by omega)
    rw [map_append, map_singleton] at hfew
    rw [AtomManager.afterCalls, foldl_concat, map_append]
    exact ⟨hcons.intern (hcnt.room hfew) call.2, hcnt.intern (hcnt.room hfew) call.2⟩

theorem afterCalls_append (calls more : List (String × Bool)) :
    AtomManager.afterCalls (calls ++ more) =
      more.foldl (fun m call => (m.intern call.1 call.2).1) (.afterCalls calls) :=
  foldl_append

theorem lookup_afterCalls {id : Nat}
    (h : (AtomManager.afterCalls calls).atoms.lookup name = some id) (more : List (String × Bool)) :
    (AtomManager.afterCalls (calls ++ more)).atoms.lookup name = some id := by
  induction more using List.reverseRecOn with
  | nil => rwa [append_nil]
  | append_singleton more call ih =>
    rw [← append_assoc, afterCalls_append]
    exact lookup_intern ih call.1 call.2

theorem afterCalls_concat (calls : List (String × Bool)) (call : String × Bool) :
    AtomManager.afterCalls (calls ++ [call]) = ((AtomManager.afterCalls calls).intern call.1 call.2).1 :=
  afterCalls_append calls [call]

theorem answer_eq_iff {name name' : String} {id : Nat} {onlyIfExists : Bool}
    (h : (AtomManager.afterCalls calls).atoms.lookup name = some id)
    (haft : Consistent (.afterCalls (calls ++ [(name', onlyIfExists)]))) (hid : id ≠ 0) :
    AtomManager.answer calls (name', onlyIfExists) = id ↔ name' = name := by
  constructor
  · intro heq
    have hne : AtomManager.answer calls (name', onlyIfExists) ≠ 0 := heq.symm ▸ hid
    have hname' : (AtomManager.afterCalls (calls ++ [(name', onlyIfExists)])).atoms.lookup name' = some id := by
      rw [afterCalls_concat, ← heq]
      exact lookup_answer hne
    have hname := lookup_afterCalls h [(name', onlyIfExists)]
    exact Option.some.inj (((haft.inverse _ _).mp hname').symm.trans ((haft.inverse _ _).mp hname))
  · rintro rfl
    exact congrArg Prod.snd (intern_of_lookup h onlyIfExists)

theorem atoms_bijective (calls : List (String × Bool))
    (hfew : (calls.map Prod.fst).dedup.length < 4294967296 - 193) :
    (∀ before, before <+: calls →
      MutuallyInverse (AtomManager.afterCalls before).atoms (AtomManager.afterCalls before).reverse ∧
      ∀ name id, (AtomManager.afterCalls before).atoms.lookup name = some id → 0 < id ∧ id < 4294967296) ∧
    (∀ before name, before ++ [(name, false)] <+: calls → AtomManager.answer before (name, false) ≠ 0) ∧
    (∀ before name onlyIfExists between name' onlyIfExists',
      before ++ (name, onlyIfExists) :: between ++ [(name', onlyIfExists')] <+: calls →
      AtomManager.answer before (name, onlyIfExists) ≠ 0 →
      (AtomManager.answer (before ++ (name, onlyIfExists) :: between) (name', onlyIfExists') =
        AtomManager.answer before (name, onlyIfExists) ↔ name' = name)) ∧
    ∀ before name, before ++ [(name, true)] <+: calls →
      AtomManager.afterCalls (before ++ [(name, true)]) = .afterCalls before := by
  have hst : ∀ before, before <+: calls →
      Consistent (.afterCalls before) ∧ Counted (before.map Prod.fst) (.afterCalls before) := by
    intro before hbef
    exact afterCalls_consistent (Nat.lt_of_le_of_lt (dedup_length_le (hbef.map Prod.fst)) hfew)
  refine ⟨?_, ?_, ?_, ?_⟩
  · intro before hbef
    obtain ⟨hcons, hcnt⟩ := hst before hbef
    refine ⟨hcons.inverse, fun name id hid => ⟨hcons.positive name id hid, ?_⟩⟩
    have hle := dedup_length_le (hbef.map Prod.fst)
    have hnext := hcnt.next_le
    have hbel := hcons.below name id hid
    omega
  · intro before name hbef
    obtain ⟨hcons, -⟩ := hst before ((prefix_append _ _).trans hbef)
    rw [AtomManager.answer]
    obtain ⟨id, hid, heq⟩ | ⟨_, htrue, _⟩ | ⟨_, _, heq⟩ := intern_cases (.afterCalls before) name false
    · rw [heq]
      exact Nat.ne_of_gt (hcons.positive name id hid)
    · cases htrue
    · rw [heq]
      exact Nat.ne_of_gt hcons.next
  · intro before name onlyIfExists between name' onlyIfExists' hpre hid
    have hent := lookup_answer hid
    rw [← afterCalls_concat before (name, onlyIfExists)] at hent
    have hlater := lookup_afterCalls hent between
    rw [append_assoc, singleton_append] at hlater
    exact answer_eq_iff hlater (hst _ hpre).1 hid
  · intro before name _
    rw [afterCalls_concat]
    exact intern_onlyIfExists _ name

theorem atoms_bijective_again :
    ([("FOO", false), ("BAR", true), ("FOO", true)].map Prod.fst).dedup.length < 4294967296 - 193 ∧
      AtomManager.answer [("FOO", false), ("BAR", true)] ("FOO", true) =
        AtomManager.answer [] ("FOO", false) := by
  obtain ⟨_, hpos, hforever, _⟩ :=
    atoms_bijective [("FOO", false), ("BAR", true), ("FOO", true)] (by decide)
  exact ⟨by decide, (hforever [] "FOO" false [("BAR", true)] "FOO" true (by simp)
    (hpos [] "FOO" (by simp))).mpr rfl⟩

end X11Web.Atoms
