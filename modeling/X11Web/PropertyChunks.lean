import X11Web.Properties

namespace X11Web.PropertyChunks

open HashMaps Windows WindowTree Ewmh Properties List

variable {atoms : AtomNames} {delete : Bool} {w : XId} {a : Atom} {L k : Nat} {s s' : ClientState}
  {value : PropertyValue} {answers : List (GetPropertyReply × ClientState)}

/-- The request for the chunk `k` of a property that is read in chunks of `L` units. -/
def chunkRequest (delete : Bool) (w : XId) (a : Atom) (L k : Nat) : GetPropertyRequest := ⟨delete, w, a, k * L, L⟩

/-- Chunks are asked for from `k` on until nothing is left after one, with the replies
and the states after them. -/
inductive Reads (atoms : AtomNames) (delete : Bool) (w : XId) (a : Atom) (L : Nat) :
    Nat → ClientState → List (GetPropertyReply × ClientState) → Prop
  | last {k : Nat} {s s' : ClientState} {r : GetPropertyReply} :
      handleGetProperty atoms (chunkRequest delete w a L k) s = (s', .reply r) → r.bytesAfter = 0 →
      Reads atoms delete w a L k s [(r, s')]
  | more {k : Nat} {s s' : ClientState} {r : GetPropertyReply} {rest : List (GetPropertyReply × ClientState)} :
      handleGetProperty atoms (chunkRequest delete w a L k) s = (s', .reply r) → r.bytesAfter ≠ 0 →
      Reads atoms delete w a L (k + 1) s' rest → Reads atoms delete w a L k s ((r, s') :: rest)

/-- The state once the value is taken: the property is removed, and a transfer that waits
for that goes on. -/
def taken (delete : Bool) (w : XId) (a : Atom) (s : ClientState) : ClientState :=
  if delete then advanceIncrTransfer w a (removeBoth w a s) else s

/-- The answers from the chunk `k` on are the rest of the value, each with the right counts
and none deleting the property but the last. -/
structure Reassembles (delete : Bool) (w : XId) (a : Atom) (L : Nat) (s : ClientState) (value : PropertyValue) (k : Nat)
    (answers : List (GetPropertyReply × ClientState)) : Prop where
  data : (answers.flatMap fun x => x.1.value) = value.data.drop (4 * (k * L))
  counts : ∀ i x, answers[i]? = some x →
    4 * ((k + i) * L) + x.1.value.length + x.1.bytesAfter = value.data.length
  units : ∀ x ∈ answers, x.1.valueLen * (value.format / 8) = x.1.value.length
  kept : ∀ i x, answers[i]? = some x → i + 1 < answers.length → x.2 = s
  last : ∀ x, answers.getLast? = some x → x.2 = taken delete w a s
  gone : delete = true → (∀ t ∈ s.incrTransfers, ¬(t.requestor = w ∧ t.property = a)) →
    ∀ x, answers.getLast? = some x → foundProperty x.2 w a = none
  sendable : ∀ i < answers.length, (k + i) * L < 2 ^ 32

/-- The counts of every reply fit its fields of 32 bits. -/
def Fits (value : PropertyValue) (L : Nat) : Prop :=
  value.data.length - 4 * L < 2 ^ 32 ∧ unitsOf value.format (min value.data.length (4 * L)) < 2 ^ 32

/-- A value of one of the three formats that is a whole number of its units. -/
structure Whole (value : PropertyValue) : Prop where
  format : value.format = 8 ∨ value.format = 16 ∨ value.format = 32
  units : value.format / 8 ∣ value.data.length

theorem unitsOf_mul {format bytes : Nat} (hf : format = 8 ∨ format = 16 ∨ format = 32) (h : format / 8 ∣ bytes) :
    unitsOf format bytes * (format / 8) = bytes := by
  rcases hf with rfl | rfl | rfl
  · exact Nat.mul_one bytes
  · exact Nat.div_mul_cancel h
  · exact Nat.div_mul_cancel h

theorem unitsOf_mono (format : Nat) {b c : Nat} (h : b ≤ c) : unitsOf format b ≤ unitsOf format c := by
  rw [unitsOf, unitsOf]
  split
  · exact Nat.div_le_div_right h
  split
  · exact Nat.div_le_div_right h
  · exact h

theorem windowExists_of_found (h : foundProperty s w a = some value) : windowExists s w = true := by
  rw [windowExists, Bool.or_eq_true, decide_eq_true_iff, decide_eq_true_iff]
  by_contra hmissing
  obtain ⟨hlocal, hshd⟩ := not_or.mp hmissing
  rw [foundProperty, cachedProperty, sharedProperty, Finmap.lookup_eq_none.mpr hlocal,
    Finmap.lookup_eq_none.mpr hshd] at h
  cases h

/-- A value that is taken and deleted is not found again, unless a transfer puts another in its place. -/
theorem foundProperty_taken (hno : ∀ t ∈ s.incrTransfers, ¬(t.requestor = w ∧ t.property = a)) :
    foundProperty (taken true w a s) w a = none := by
  have hnone : (removeBoth w a s).incrTransfers.findIdx? (fun t => t.requestor == w && t.property == a) = none := by
    rw [List.findIdx?_eq_none_iff]
    intro t ht
    simpa using hno t ht
  have htkn : taken true w a s = removeBoth w a s := by
    rw [taken, if_pos rfl, advanceIncrTransfer, hnone]
  have hprop : ∀ m : HashMap XId WindowState,
      ((modify w (removeProperty a) m).lookup w).bind (fun win => win.properties.lookup a) = none := by
    intro m
    rw [lookup_modify_self, Option.bind_eq_none_iff]
    intro win hwin
    obtain ⟨old, -, rfl⟩ := Option.map_eq_some_iff.mp hwin
    rw [removeProperty, lookup_erase_eq, if_pos rfl]
  have hcached : cachedProperty (removeBoth w a s) w a = none := hprop s.windows
  have hshd : sharedProperty (removeBoth w a s).shared w a = none := hprop s.shared.windows
  rw [htkn, foundProperty, hcached, hshd]
  rfl

def chunk (value : PropertyValue) (L k : Nat) : Bytes := (value.data.drop (4 * (k * L))).take (4 * L)

def chunkReply (value : PropertyValue) (L k : Nat) : GetPropertyReply :=
  ⟨value.propType, value.format, (value.data.length - 4 * (k * L) - (chunk value L k).length) % 2 ^ 32,
    unitsOf value.format (chunk value L k).length % 2 ^ 32, chunk value L k⟩

theorem length_chunk (value : PropertyValue) (L k : Nat) :
    (chunk value L k).length = min (4 * L) (value.data.length - 4 * (k * L)) := by
  rw [chunk, length_take, length_drop]

variable (delete) in
theorem handle_chunk (hkn : unknownAtom atoms a = false) (hfnd : foundProperty s w a = some value) (k : Nat) :
    handleGetProperty atoms (chunkRequest delete w a L k) s =
      (if value.data.length - 4 * (k * L) ≤ 4 * L then taken delete w a s else s, .reply (chunkReply value L k)) := by
  have hsize : min (value.data.length - 4 * (k * L)) (4 * L) = (chunk value L k).length := by
    rw [length_chunk, Nat.min_comm]
  have hchk : (value.data.drop (4 * (k * L))).take (min (value.data.length - 4 * (k * L)) (4 * L)) =
      chunk value L k := by
    rw [chunk, Nat.min_comm, ← length_drop, ← take_eq_take_min]
  have hrep : (chunkRequest delete w a L k).replyFor (some value) = chunkReply value L k := by
    simp only [GetPropertyRequest.replyFor, chunkRequest, Nat.mul_comm (k * L) 4, Nat.mul_comm L 4, hchk]
    rw [hsize]
    rfl
  rw [handleGetProperty, if_neg (by rw [chunkRequest, hkn]; exact Bool.false_ne_true),
    if_neg (by simp [chunkRequest, windowExists_of_found hfnd])]
  have hfnd' : foundProperty s (chunkRequest delete w a L k).window (chunkRequest delete w a L k).property =
      some value := hfnd
  simp only [hfnd', hrep]
  congr 1
  simp only [GetPropertyRequest.deletes, chunkRequest, taken, Bool.and_eq_true, decide_eq_true_eq,
    Nat.mul_comm (k * L) 4, Nat.mul_comm L 4]
  by_cases hlast : value.data.length - 4 * (k * L) ≤ 4 * L
  · simp [hlast]
  · simp [hlast]

theorem next_start (L k : Nat) : 4 * ((k + 1) * L) = 4 * (k * L) + 4 * L := by
  rw [Nat.add_mul, Nat.one_mul, Nat.mul_add]

section Chunks

variable (hwhole : Whole value) (hL : L < 2 ^ 32) (hfits : Fits value L)
  (hk : k = 0 ∨ 4 * (k * L) < value.data.length)

include hk in
theorem start_le : 4 * (k * L) ≤ value.data.length := by
  rcases hk with rfl | hlt
  · simp
  · exact hlt.le

include hL hfits hk in
theorem offset_lt : k * L < 2 ^ 32 := by
  obtain ⟨hrest, -⟩ := hfits
  cases k with
  | zero => simp
  | succ j =>
    have hst := start_le hk
    have hmul : (j + 1) * L = j * L + L := Nat.succ_mul j L
    rcases Nat.eq_zero_or_pos j with rfl | hj
    · omega
    · have hle : L ≤ j * L := Nat.le_mul_of_pos_left L hj
      omega

include hwhole in
theorem dvd_chunk (L k : Nat) : value.format / 8 ∣ (chunk value L k).length := by
  have hunit : value.format / 8 ∣ 4 := by
    rcases hwhole.format with h | h | h <;> rw [h] <;> decide
  rw [length_chunk]
  rcases Nat.le_total (4 * L) (value.data.length - 4 * (k * L)) with h | h
  · rw [Nat.min_eq_left h]
    exact hunit.mul_right L
  · rw [Nat.min_eq_right h]
    exact Nat.dvd_sub hwhole.units (hunit.mul_right (k * L))

include hwhole hfits in
theorem valueLen_mul : (chunkReply value L k).valueLen * (value.format / 8) = (chunk value L k).length := by
  have hle : (chunk value L k).length ≤ min value.data.length (4 * L) := by
    rw [length_chunk]
    omega
  have hunits := unitsOf_mono value.format hle
  rw [chunkReply, Nat.mod_eq_of_lt (hunits.trans_lt hfits.2), unitsOf_mul hwhole.format (dvd_chunk hwhole L k)]

variable (delete) in
include hwhole hL hfits hk in
theorem reassembles_last (hlast : value.data.length - 4 * (k * L) ≤ 4 * L) :
    (chunkReply value L k).bytesAfter = 0 ∧
      Reassembles delete w a L s value k [(chunkReply value L k, taken delete w a s)] := by
  have hlen := length_chunk value L k
  rw [Nat.min_eq_right hlast] at hlen
  have haft : (chunkReply value L k).bytesAfter = 0 := by
    rw [chunkReply, hlen, Nat.sub_self]
    rfl
  have hst := start_le hk
  refine ⟨haft, ?_, fun i x hx => ?_, fun x hx => ?_, fun i x hx hi => ?_, fun x hx => ?_,
    fun hdel hno x hx => ?_, fun i hi => ?_⟩
  · have hall : (value.data.drop (4 * (k * L))).length ≤ 4 * L := by rwa [length_drop]
    rw [flatMap_singleton, chunkReply, chunk, take_of_length_le hall]
  · cases i with
    | zero =>
      obtain rfl := Option.some.inj hx
      rw [haft, Nat.add_zero, Nat.add_zero]
      exact (congrArg _ hlen).trans (Nat.add_sub_cancel' hst)
    | succ i => cases hx
  · rw [mem_singleton.mp hx]
    exact valueLen_mul hwhole hfits
  · simp at hi
  · exact (congrArg Prod.snd (Option.some.inj hx)).symm
  · obtain rfl := Option.some.inj hx
    rw [hdel]
    exact foundProperty_taken hno
  · rw [Nat.lt_one_iff.mp hi]
    exact offset_lt hL hfits hk

include hwhole hL hfits hk in
theorem reassembles_more (hmore : 4 * L < value.data.length - 4 * (k * L)) (hne : answers ≠ [])
    (hrest : Reassembles delete w a L s value (k + 1) answers) :
    (chunkReply value L k).bytesAfter ≠ 0 ∧
      Reassembles delete w a L s value k ((chunkReply value L k, s) :: answers) := by
  have hlen := length_chunk value L k
  rw [Nat.min_eq_left hmore.le] at hlen
  have haft : (chunkReply value L k).bytesAfter = value.data.length - 4 * (k * L) - 4 * L := by
    rw [chunkReply, hlen]
    exact Nat.mod_eq_of_lt (by have := hfits.1; omega)
  refine ⟨by omega, ?_, fun i x hx => ?_, fun x hx => ?_, fun i x hx hi => ?_, fun x hx => ?_,
    fun hdel hno x hx => ?_, fun i hi => ?_⟩
  · rw [flatMap_cons, hrest.data, next_start, ← drop_drop]
    exact take_append_drop _ _
  · cases i with
    | zero =>
      obtain rfl := Option.some.inj hx
      have hcnt : (chunkReply value L k).value.length = 4 * L := hlen
      rw [haft, hcnt, Nat.add_zero]
      omega
    | succ i =>
      have hcts := hrest.counts i x hx
      rwa [Nat.add_right_comm k 1 i] at hcts
  · rcases mem_cons.mp hx with rfl | hx
    · exact valueLen_mul hwhole hfits
    · exact hrest.units x hx
  · cases i with
    | zero => exact (congrArg Prod.snd (Option.some.inj hx)).symm
    | succ i => exact hrest.kept i x hx (Nat.lt_of_succ_lt_succ hi)
  · rw [List.getLast?_cons_of_ne_nil hne] at hx
    exact hrest.last x hx
  · rw [List.getLast?_cons_of_ne_nil hne] at hx
    exact hrest.gone hdel hno x hx
  · cases i with
    | zero => exact offset_lt hL hfits hk
    | succ i =>
      have hsend := hrest.sendable i (Nat.lt_of_succ_lt_succ hi)
      rwa [Nat.add_right_comm k 1 i] at hsend

end Chunks

theorem reads_last (hkn : unknownAtom atoms a = false) (hfnd : foundProperty s w a = some value)
    (hwhole : Whole value) (hL : L < 2 ^ 32) (hfits : Fits value L) (hk : k = 0 ∨ 4 * (k * L) < value.data.length)
    (hlast : value.data.length - 4 * (k * L) ≤ 4 * L) :
    ∃ answers, answers ≠ [] ∧ Reads atoms delete w a L k s answers ∧ Reassembles delete w a L s value k answers := by
  have hhdl := handle_chunk delete (L := L) hkn hfnd k
  obtain ⟨haft, hchk⟩ := reassembles_last delete (w := w) (a := a) (s := s) hwhole hL hfits hk hlast
  rw [if_pos hlast] at hhdl
  exact ⟨_, cons_ne_nil _ _, .last hhdl haft, hchk⟩

variable (delete) in
theorem reads_from (hkn : unknownAtom atoms a = false) (hfnd : foundProperty s w a = some value)
    (hwhole : Whole value) (hpos : 1 ≤ L) (hL : L < 2 ^ 32) (hfits : Fits value L) (n : Nat)
    (hn : value.data.length - 4 * (k * L) ≤ n) (hk : k = 0 ∨ 4 * (k * L) < value.data.length) :
    ∃ answers, answers ≠ [] ∧ Reads atoms delete w a L k s answers ∧ Reassembles delete w a L s value k answers := by
  induction n generalizing k with
  | zero => exact reads_last hkn hfnd hwhole hL hfits hk (hn.trans (Nat.zero_le _))
  | succ n ih =>
    by_cases hlast : value.data.length - 4 * (k * L) ≤ 4 * L
    · exact reads_last hkn hfnd hwhole hL hfits hk hlast
    · have hhdl := handle_chunk delete (L := L) hkn hfnd k
      have hnext := next_start L k
      obtain ⟨answers, hne, hreads, hrest⟩ := ih (k := k + 1) (by omega) (.inr (by omega))
      obtain ⟨haft, hmore⟩ := reassembles_more hwhole hL hfits hk (Nat.lt_of_not_le hlast) hne hrest
      rw [if_neg hlast] at hhdl
      exact ⟨_, cons_ne_nil _ _, .more hhdl haft hreads, hmore⟩

theorem first_answer (hkn : unknownAtom atoms a = false) (hfnd : foundProperty s w a = some value)
    (h : Reads atoms delete w a L k s answers) : ∃ s', answers[0]? = some (chunkReply value L k, s') := by
  have hhdl := handle_chunk delete (L := L) hkn hfnd k
  cases h with
  | last hlast _ =>
    rw [hhdl] at hlast
    obtain ⟨-, hrep⟩ := Prod.mk.inj hlast
    exact ⟨_, congrArg some (Prod.ext (GetPropertyResponse.reply.inj hrep).symm rfl)⟩
  | more hmore _ _ =>
    rw [hhdl] at hmore
    obtain ⟨-, hrep⟩ := Prod.mk.inj hmore
    exact ⟨_, congrArg some (Prod.ext (GetPropertyResponse.reply.inj hrep).symm rfl)⟩

theorem fits_of_reassembles (hwhole : Whole value) (h : Reassembles delete w a L s value 0 answers)
    (hfst : answers[0]? = some (chunkReply value L 0, s')) : Fits value L := by
  have hcts := h.counts 0 _ hfst
  have hunits := h.units _ (mem_of_getElem? hfst)
  have hlen := length_chunk value L 0
  rw [Nat.zero_mul, Nat.mul_zero, Nat.sub_zero, Nat.min_comm] at hlen
  constructor
  · -- what is left after the chunk is what the field says
    have hval : (chunkReply value L 0).value.length = (chunk value L 0).length := rfl
    have haft : (chunkReply value L 0).bytesAfter < 2 ^ 32 := Nat.mod_lt _ (by decide)
    rw [Nat.zero_add, Nat.zero_mul, Nat.mul_zero, Nat.zero_add] at hcts
    dsimp only at hcts
    omega
  · have hmul := unitsOf_mul hwhole.format (dvd_chunk hwhole L 0)
    have hunit : 0 < value.format / 8 := by
      rcases hwhole.format with h | h | h <;> rw [h] <;> decide
    have heq : (chunkReply value L 0).valueLen = unitsOf value.format (chunk value L 0).length :=
      Nat.eq_of_mul_eq_mul_right hunit (hunits.trans hmul.symm)
    rw [← hlen, ← heq]
    exact Nat.mod_lt _ (by decide)

/-- Reading a property in chunks returns it, with the right counts in every reply and the
deletion with the last one, exactly if the counts fit the fields of the replies. -/
theorem getProperty_reassembles_iff (hkn : unknownAtom atoms a = false)
    (hfnd : foundProperty s w a = some value) (hwhole : Whole value) (hpos : 1 ≤ L) (hL : L < 2 ^ 32) :
    (∃ answers, Reads atoms delete w a L 0 s answers ∧ Reassembles delete w a L s value 0 answers) ↔ Fits value L := by
  constructor
  · rintro ⟨answers, hreads, hchks⟩
    obtain ⟨s', hfst⟩ := first_answer hkn hfnd hreads
    exact fits_of_reassembles hwhole hchks hfst
  · intro hfits
    obtain ⟨answers, -, hreads, hchks⟩ := reads_from delete hkn hfnd hwhole hpos hL hfits
      value.data.length (Nat.sub_le _ _) (.inl rfl)
    exact ⟨answers, hreads, hchks⟩

def holding (value : PropertyValue) : ClientState :=
  updateWindow rootWindow (insertProperty 39 value) (acceptClient 1 false 0 0 [] (initialShared (fun _ => ∅) ∅))

theorem foundProperty_holding (value : PropertyValue) : foundProperty (holding value) rootWindow 39 = some value := by
  have hroot : rootWindow ∈ (acceptClient 1 false 0 0 [] (initialShared (fun _ => ∅) ∅)).windows := by
    decide +kernel
  obtain ⟨root, hroot⟩ := Finmap.mem_iff.mp hroot
  have hcached : cachedProperty (holding value) rootWindow 39 = some value := by
    simp [cachedProperty, holding, updateWindow, hroot, insertProperty]
  rw [foundProperty, hcached]
  rfl

/-- Ten bytes are read two units at a time. -/
theorem getProperty_reassembles_iff_ten :
    (∃ answers, Reads (fun _ => some "") true rootWindow 39 1 0 (holding ⟨31, 16, [1, 2, 3, 4, 5, 6, 7, 8, 9, 10]⟩)
      answers ∧ Reassembles true rootWindow 39 1 (holding ⟨31, 16, [1, 2, 3, 4, 5, 6, 7, 8, 9, 10]⟩)
        ⟨31, 16, [1, 2, 3, 4, 5, 6, 7, 8, 9, 10]⟩ 0 answers) ↔
      Fits ⟨31, 16, [1, 2, 3, 4, 5, 6, 7, 8, 9, 10]⟩ 1 :=
  getProperty_reassembles_iff rfl (foundProperty_holding _) ⟨by decide, by decide⟩ (by decide) (by decide)

/-- A value of four gibibytes and more is told to be at its end after the first chunk. -/
theorem huge_value_cut : ¬∀ (value : PropertyValue) (L : Nat) (s : ClientState), Whole value → 1 ≤ L → L < 2 ^ 32 →
    foundProperty s rootWindow 39 = some value →
      ∃ answers, Reads (fun _ => some "") false rootWindow 39 L 0 s answers ∧
        Reassembles false rootWindow 39 L s value 0 answers := by
  intro h
  obtain ⟨data, hlen⟩ : ∃ data : Bytes, data.length = 2 ^ 32 + 4 := ⟨List.replicate _ 0, length_replicate⟩
  have hfnd := foundProperty_holding ⟨31, 8, data⟩
  have hwhole : Whole ⟨31, 8, data⟩ := ⟨.inl rfl, by simp⟩
  obtain ⟨answers, hreads, hchks⟩ := h _ 1 _ hwhole (by decide) (by decide) hfnd
  obtain ⟨s', hfst⟩ := first_answer rfl hfnd hreads
  have hfits := (fits_of_reassembles hwhole hchks hfst).1
  dsimp only at hfits
  rw [hlen] at hfits
  exact absurd hfits (by decide)

end X11Web.PropertyChunks
