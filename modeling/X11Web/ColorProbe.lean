import X11Web.OpenAddressing
import Mathlib.Data.Nat.Digits.Defs
import Mathlib.Data.Nat.Digits.Lemmas

namespace X11Web.ColorProbe

open OpenAddressing List

def probeMaxSamples : Nat := 2048

def probeTableSlots : Nat := 1024

/-- `u32::from_le_bytes` of the four bytes at `o`; `none` is an access out of bounds. -/
def keyAt (rgba : List UInt8) (o : Nat) : Option Nat := do
  let b0 ← rgba[o]?
  let b1 ← rgba[o + 1]?
  let b2 ← rgba[o + 2]?
  let b3 ← rgba[o + 3]?
  return b0.toNat + 256 * (b1.toNat + 256 * (b2.toNat + 256 * b3.toNat))

def homeSlot (key : Nat) : Nat :=
  (key * 0x9E3779B1 % 4294967296) >>> 22

inductive Probe
  | free (slot : Nat)
  | found
  deriving DecidableEq

/-- The inner loop: it ends at a free slot or at the key. -/
def probe (keys : List Nat) (used : List Bool) (key : Nat) : Nat → Nat → Option Probe
  | 0, _ => none
  | fuel + 1, slot =>
    match used[slot]?, keys[slot]? with
    | some false, some _ => some (.free slot)
    | some true, some stored =>
      if stored = key then some .found else probe keys used key fuel ((slot + 1) % probeTableSlots)
    | _, _ => none

/-- The loop over the samples, with `rounds` left for each inner loop. -/
def countColors (rgba : List UInt8) (cap pixels stride rounds : Nat) :
    Nat → List Nat → List Bool → Nat → Nat → Option Nat
  | 0, _, _, _, _ => none
  | fuel + 1, keys, used, distinct, i =>
    if i < pixels then
      match keyAt rgba (i * 4) with
      | none => none
      | some key =>
        match probe keys used key rounds (homeSlot key) with
        | none => none
        | some .found => countColors rgba cap pixels stride rounds fuel keys used distinct (i + stride)
        | some (.free slot) =>
          if distinct + 1 > cap then some (distinct + 1)
          else
            countColors rgba cap pixels stride rounds fuel (keys.set slot key) (used.set slot true)
              (distinct + 1) (i + stride)
    else some distinct

def samplePixels (rgba : List UInt8) (width height : UInt32) : Nat :=
  min (min (width.toNat * height.toNat) 18446744073709551615) (rgba.length / 4)

def sampleStride (pixels : Nat) : Nat :=
  (pixels + (probeMaxSamples - 1)) / probeMaxSamples

/-- `none` is a loop that outlasts its fuel or an access out of bounds. -/
def probeDistinctColors (fuel : Nat) (rgba : List UInt8) (width height cap : UInt32) : Option Nat :=
  let cap := min cap.toNat (probeTableSlots - 2)
  let pixels := samplePixels rgba width height
  if pixels = 0 then some 0
  else
    countColors rgba cap pixels (sampleStride pixels) fuel fuel (List.replicate probeTableSlots 0)
      (List.replicate probeTableSlots false) 0 0

def slotAt (keys : List Nat) (used : List Bool) (slot : Nat) : Option Nat :=
  if used[slot]? = some true then keys[slot]? else none

theorem homeSlot_lt (key : Nat) : homeSlot key < probeTableSlots := by
  rw [homeSlot, Nat.shiftRight_eq_div_pow, probeTableSlots]
  omega

theorem slotAt_replicate (slot : Nat) :
    slotAt (List.replicate probeTableSlots 0) (List.replicate probeTableSlots false) slot = none := by
  simp [slotAt, List.getElem?_replicate]

theorem slotAt_set {keys : List Nat} {used : List Bool} {slot : Nat} (hkeys : slot < keys.length)
    (hused : slot < used.length) (key : Nat) :
    slotAt (keys.set slot key) (used.set slot true) = Function.update (slotAt keys used) slot (some key) := by
  funext other
  by_cases h : other = slot
  · subst h
    simp [slotAt, List.getElem?_set_self hkeys, List.getElem?_set_self hused]
  · rw [Function.update_of_ne h, slotAt, slotAt, List.getElem?_set_ne (Ne.symm h), List.getElem?_set_ne (Ne.symm h)]

theorem probe_eq {keys : List Nat} {used : List Bool} (hkeys : keys.length = probeTableSlots)
    (hused : used.length = probeTableSlots) (key fuel slot : Nat) (hslot : slot < probeTableSlots) :
    probe keys used key fuel slot =
      (search probeTableSlots (slotAt keys used) key fuel slot).map fun stop =>
        if slotAt keys used stop = none then .free stop else .found := by
  induction fuel generalizing slot with
  | zero => rfl
  | succ fuel ih =>
    have hk : keys[slot]? = some keys[slot] := List.getElem?_eq_getElem (hkeys ▸ hslot)
    have hu : used[slot]? = some used[slot] := List.getElem?_eq_getElem (hused ▸ hslot)
    rw [probe, search, hk, hu]
    cases hbit : used[slot] with
    | false =>
      have hfree : slotAt keys used slot = none := by simp [slotAt, hu, hbit]
      simp [hfree]
    | true =>
      have hfull : slotAt keys used slot = some keys[slot] := by simp [slotAt, hu, hbit, hk]
      by_cases heq : keys[slot] = key
      · simp [hfull, heq]
      · simpa [hfull, heq] using ih ((slot + 1) % probeTableSlots) (Nat.mod_lt _ (by decide))

def pixelAt (rgba : List UInt8) (i : Nat) : List UInt8 :=
  (rgba.drop (4 * i)).take 4

def colorKey (pixel : List UInt8) : Nat :=
  Nat.ofDigits 256 (pixel.map UInt8.toNat)

variable {rgba : List UInt8}

theorem keyAt_eq {i : Nat} (hi : i < rgba.length / 4) :
    keyAt rgba (i * 4) = some (colorKey (pixelAt rgba i)) := by
  have hlen : i * 4 + 3 < rgba.length := by omega
  have hpixel : pixelAt rgba i = [rgba[i * 4], rgba[i * 4 + 1], rgba[i * 4 + 2], rgba[i * 4 + 3]] := by
    rw [pixelAt, Nat.mul_comm 4, drop_eq_getElem_cons (by omega), drop_eq_getElem_cons (by omega),
      drop_eq_getElem_cons (by omega), drop_eq_getElem_cons hlen]
    rfl
  rw [hpixel, keyAt, List.getElem?_eq_getElem (by omega), List.getElem?_eq_getElem (by omega),
    List.getElem?_eq_getElem (by omega), List.getElem?_eq_getElem hlen]
  simp [colorKey, Nat.ofDigits_cons]

theorem pixelAt_length {i : Nat} (hi : i < rgba.length / 4) : (pixelAt rgba i).length = 4 := by
  rw [pixelAt, length_take, length_drop]
  omega

theorem colorKey_injective {p q : List UInt8} (hp : p.length = 4) (hq : q.length = 4)
    (h : colorKey p = colorKey q) : p = q := by
  have hbytes : ∀ (l : List UInt8), ∀ d ∈ l.map UInt8.toNat, d < 256 := by
    intro l d hd
    obtain ⟨byte, _, rfl⟩ := mem_map.mp hd
    exact byte.toNat_lt
  have hdigits := Nat.ofDigits_inj_of_len_eq (by decide) (by simp [hp, hq]) (hbytes p) (hbytes q) h
  exact map_injective_iff.mpr (fun _ _ => UInt8.toNat_inj.mp) hdigits

/-- The arrays hold the keys of the first `j` samples, each once, and `distinct` counts them. -/
structure Counted (sample : Nat → Nat) (keys : List Nat) (used : List Bool) (distinct j : Nat)
    (held : List Nat) : Prop where
  keys_length : keys.length = probeTableSlots
  used_length : used.length = probeTableSlots
  holds : Holds probeTableSlots homeSlot (slotAt keys used) held
  nodup : held.Nodup
  mem : ∀ key, key ∈ held ↔ ∃ i < j, sample i = key
  distinct_eq : distinct = held.length

variable {sample : Nat → Nat} {keys : List Nat} {used : List Bool} {distinct j : Nat} {held : List Nat}

theorem counted_start (sample : Nat → Nat) :
    Counted sample (List.replicate probeTableSlots 0) (List.replicate probeTableSlots false) 0 0 [] where
  keys_length := length_replicate
  used_length := length_replicate
  holds := by
    have hemp := funext slotAt_replicate
    rw [hemp]
    exact holds_empty
  nodup := nodup_nil
  mem := by simp
  distinct_eq := rfl

/-- While the table has a free slot, the inner loop finds the key of the next sample or
the free slot for it. -/
theorem Counted.probe (h : Counted sample keys used distinct j held) (hroom : distinct < probeTableSlots)
    {rounds : Nat} (hrounds : probeTableSlots ≤ rounds) :
    (ColorProbe.probe keys used (sample j) rounds (homeSlot (sample j)) = some .found ∧
      Counted sample keys used distinct (j + 1) held) ∨
    ∃ slot, ColorProbe.probe keys used (sample j) rounds (homeSlot (sample j)) = some (.free slot) ∧
      Counted sample (keys.set slot (sample j)) (used.set slot true) (distinct + 1) (j + 1) (sample j :: held) := by
  have hmore : ∀ key, (∃ i < j + 1, sample i = key) ↔ key = sample j ∨ ∃ i < j, sample i = key := by
    intro key
    constructor
    · rintro ⟨i, hi, rfl⟩
      rcases Nat.lt_succ_iff_lt_or_eq.mp hi with hi | rfl
      · exact .inr ⟨i, hi, rfl⟩
      · exact .inl rfl
    · rintro (rfl | ⟨i, hi, rfl⟩)
      · exact ⟨j, Nat.lt_succ_self j, rfl⟩
      · exact ⟨i, Nat.lt_succ_of_lt hi, rfl⟩
  have hhash := homeSlot_lt (sample j)
  obtain ⟨slot, hsearch⟩ := h.holds.search_isSome (h.distinct_eq ▸ hroom) hhash hrounds
  obtain ⟨i, hslot, hstop, _⟩ := search_eq_some hhash hsearch
  have hlt : slot < probeTableSlots := hslot ▸ Nat.mod_lt _ (by decide)
  have hprobe := probe_eq h.keys_length h.used_length (sample j) rounds _ hhash
  rw [hsearch, Option.map_some] at hprobe
  by_cases hfree : slotAt keys used slot = none
  · rw [if_pos hfree] at hprobe
    refine .inr ⟨slot, hprobe, ?_⟩
    constructor
    · rw [length_set, h.keys_length]
    · rw [length_set, h.used_length]
    · rw [slotAt_set (h.keys_length ▸ hlt) (h.used_length ▸ hlt)]
      exact h.holds.insert hhash hsearch hfree
    · exact nodup_cons.mpr ⟨h.holds.not_mem hhash hsearch hfree, h.nodup⟩
    · intro key
      rw [hmore, mem_cons, h.mem]
    · rw [length_cons, h.distinct_eq]
  · rw [if_neg hfree] at hprobe
    have hin := h.holds.mem_of_found hlt (hstop.resolve_left hfree)
    refine .inl ⟨hprobe, h.keys_length, h.used_length, h.holds, h.nodup, fun key => ?_, h.distinct_eq⟩
    rw [hmore, ← h.mem]
    constructor
    · exact .inr
    · rintro (rfl | hkey)
      · exact hin
      · exact hkey

theorem Counted.distinct_le (h : Counted sample keys used distinct j held) {m : Nat} (hj : j ≤ m) :
    distinct ≤ ((List.range m).map sample).dedup.length := by
  have hsub : held ⊆ ((List.range m).map sample).dedup := by
    intro key hkey
    obtain ⟨i, hi, rfl⟩ := (h.mem key).mp hkey
    exact mem_dedup.mpr (mem_map_of_mem (mem_range.mpr (Nat.lt_of_lt_of_le hi hj)))
  exact h.distinct_eq ▸ (h.nodup.subperm hsub).length_le

theorem Counted.distinct_ge (h : Counted sample keys used distinct j held) :
    ((List.range j).map sample).dedup.length ≤ distinct := by
  have hsub : ((List.range j).map sample).dedup ⊆ held := by
    intro key hkey
    obtain ⟨i, hi, rfl⟩ := mem_map.mp (mem_dedup.mp hkey)
    exact (h.mem _).mpr ⟨i, mem_range.mp hi, rfl⟩
  exact h.distinct_eq ▸ ((nodup_dedup _).subperm hsub).length_le

theorem countColors_eq {cap pixels stride rounds m : Nat} (hcap : cap + 2 ≤ probeTableSlots)
    (hpx : pixels ≤ rgba.length / 4) (hrounds : probeTableSlots ≤ rounds)
    (hm : ∀ j, j * stride < pixels ↔ j < m) (hsample : sample = fun j => colorKey (pixelAt rgba (j * stride)))
    (h : Counted sample keys used distinct j held) (hj : j ≤ m) (hle : distinct ≤ cap) {fuel : Nat}
    (hfuel : m - j < fuel) :
    countColors rgba cap pixels stride rounds fuel keys used distinct (j * stride) =
      some (min ((List.range m).map sample).dedup.length (cap + 1)) := by
  induction fuel generalizing keys used distinct j held with
  | zero => exact absurd hfuel (Nat.not_lt_zero _)
  | succ fuel ih =>
    rw [countColors]
    by_cases hlast : j * stride < pixels
    · have hjm := (hm j).mp hlast
      have hkey : keyAt rgba (j * stride * 4) = some (sample j) := by
        rw [keyAt_eq (Nat.lt_of_lt_of_le hlast hpx), hsample]
      have hnext : j * stride + stride = (j + 1) * stride := (Nat.succ_mul j stride).symm
      rw [if_pos hlast, hkey, hnext]
      obtain ⟨hfnd, h'⟩ | ⟨slot, hfree, h'⟩ := h.probe (by omega) hrounds
      · simp only [hfnd]
        exact ih h' hjm hle (by omega)
      · simp only [hfree]
        split
        · next hover =>
          have hall := h'.distinct_le hjm
          congr 1
          omega
        · next hunder => exact ih h' hjm (Nat.not_lt.mp hunder) (by omega)
    · obtain rfl : j = m := Nat.le_antisymm hj (Nat.not_lt.mp (fun hlt => hlast ((hm j).mpr hlt)))
      have hge := h.distinct_ge
      have hle' := h.distinct_le (Nat.le_refl j)
      rw [if_neg hlast]
      congr 1
      omega

/-- How many different values the pixels at the multiples of `stride` have. -/
def distinctColors (rgba : List UInt8) (pixels stride : Nat) : Nat :=
  (((List.range pixels).filter (fun i => i % stride = 0)).map (pixelAt rgba)).dedup.length

theorem dedup_samples_length {pixels stride m : Nat} (hpx : pixels ≤ rgba.length / 4)
    (hm : ∀ j, j * stride < pixels ↔ j < m) :
    ((List.range m).map fun j => colorKey (pixelAt rgba (j * stride))).dedup.length =
      distinctColors rgba pixels stride := by
  have hlen : ∀ i < pixels, (pixelAt rgba i).length = 4 := fun i hi =>
    pixelAt_length (Nat.lt_of_lt_of_le hi hpx)
  have hpixel : ∀ p, p ∈ (((List.range pixels).filter (fun i => i % stride = 0)).map (pixelAt rgba)).dedup ↔
      ∃ i < pixels, i % stride = 0 ∧ pixelAt rgba i = p := by
    intro p
    simp [and_assoc]
  rw [distinctColors, ← length_map colorKey]
  refine ((perm_ext_iff_of_nodup (nodup_dedup _) ?_).mpr fun key => ?_).length_eq
  · refine (nodup_dedup _).map_on fun p hp q hq heq => ?_
    obtain ⟨i, hi, _, rfl⟩ := (hpixel p).mp hp
    obtain ⟨i', hi', _, rfl⟩ := (hpixel q).mp hq
    exact colorKey_injective (hlen i hi) (hlen i' hi') heq
  · rw [mem_dedup, mem_map, mem_map]
    constructor
    · rintro ⟨j, hj, rfl⟩
      have hlt := (hm j).mpr (mem_range.mp hj)
      exact ⟨_, (hpixel _).mpr ⟨j * stride, hlt, Nat.mul_mod_left j stride, rfl⟩, rfl⟩
    · rintro ⟨p, hp, rfl⟩
      obtain ⟨i, hi, hmult, rfl⟩ := (hpixel p).mp hp
      have hquot : i / stride * stride = i := Nat.div_mul_cancel (Nat.dvd_of_mod_eq_zero hmult)
      refine ⟨i / stride, mem_range.mpr ((hm _).mp (hquot.symm ▸ hi)), ?_⟩
      rw [hquot]

theorem samplePixels_eq (rgba : List UInt8) (width height : UInt32) :
    samplePixels rgba width height = min (width.toNat * height.toNat) (rgba.length / 4) := by
  have hprod : width.toNat * height.toNat ≤ 4294967295 * 4294967295 :=
    Nat.mul_le_mul (Nat.le_of_lt_succ width.toNat_lt) (Nat.le_of_lt_succ height.toNat_lt)
  rw [samplePixels]
  omega

theorem exists_sampleCount {pixels : Nat} (hpos : 0 < pixels) :
    ∃ m ≤ probeMaxSamples, ∀ j, j * sampleStride pixels < pixels ↔ j < m := by
  have hstr : pixels ≤ sampleStride pixels * probeMaxSamples := by
    rw [sampleStride, probeMaxSamples]
    omega
  have hs : 0 < sampleStride pixels := by
    rw [sampleStride, probeMaxSamples]
    omega
  generalize sampleStride pixels = stride at hstr hs
  refine ⟨(pixels + (stride - 1)) / stride, ?_, fun j => ?_⟩
  · refine Nat.le_of_lt_succ (Nat.div_lt_of_lt_mul ?_)
    rw [Nat.succ_eq_add_one, Nat.mul_add_one]
    omega
  · change _ ↔ j + 1 ≤ _
    rw [Nat.le_div_iff_mul_le hs, Nat.succ_mul]
    omega

theorem sampleStride_eq_one {pixels : Nat} (hpos : 0 < pixels) (hfew : pixels ≤ 2048) : sampleStride pixels = 1 := by
  rw [sampleStride, probeMaxSamples]
  omega

theorem distinctColors_zero (rgba : List UInt8) (stride : Nat) : distinctColors rgba 0 stride = 0 := rfl

theorem probeDistinctColors_eq (rgba : List UInt8) (width height cap : UInt32) (fuel : Nat) (hfuel : 2049 ≤ fuel) :
    probeDistinctColors fuel rgba width height cap =
      some (min (distinctColors rgba (samplePixels rgba width height)
        (sampleStride (samplePixels rgba width height))) (min cap.toNat 1022 + 1)) := by
  rw [probeDistinctColors]
  have hpx : samplePixels rgba width height ≤ rgba.length / 4 := Nat.min_le_right ..
  generalize samplePixels rgba width height = pixels at hpx
  split
  · next hzero =>
    subst hzero
    simp [distinctColors_zero]
  · next hzero =>
    obtain ⟨m, hmax, hm⟩ := exists_sampleCount (Nat.pos_of_ne_zero hzero)
    rw [← dedup_samples_length hpx hm]
    have hcap : min cap.toNat 1022 + 2 ≤ probeTableSlots := by
      rw [probeTableSlots]
      omega
    have hrounds : probeTableSlots ≤ fuel := by
      rw [probeTableSlots]
      omega
    have hfuel' : m - 0 < fuel := by
      rw [probeMaxSamples] at hmax
      omega
    have hcnt := countColors_eq hcap hpx hrounds hm rfl (counted_start _) (Nat.zero_le m)
      (Nat.zero_le _) hfuel'
    rw [Nat.zero_mul] at hcnt
    exact hcnt

theorem probeDistinctColors_counts (rgba : List UInt8) (width height cap : UInt32) (fuel : Nat) (hfuel : 2049 ≤ fuel) :
    let pixels := min (width.toNat * height.toNat) (rgba.length / 4)
    let limit := min cap.toNat 1022 + 1
    probeDistinctColors fuel rgba width height cap =
        some (min (distinctColors rgba pixels ((pixels + 2047) / 2048)) limit) ∧
      (pixels ≤ 2048 → probeDistinctColors fuel rgba width height cap =
        some (min (((List.range pixels).map (pixelAt rgba)).dedup.length) limit)) := by
  intro pixels limit
  have heq := probeDistinctColors_eq rgba width height cap fuel hfuel
  rw [samplePixels_eq] at heq
  refine ⟨heq, fun hfew => heq.trans ?_⟩
  change some (min (distinctColors rgba pixels (sampleStride pixels)) limit) = _
  by_cases hzero : pixels = 0
  · rw [hzero]
    rfl
  · rw [sampleStride_eq_one (Nat.pos_of_ne_zero hzero) hfew, distinctColors]
    simp [Nat.mod_one]

theorem probeDistinctColors_counts_three :
    probeDistinctColors 2049 [1, 2, 3, 4, 9, 9, 9, 9, 1, 2, 3, 4] 3 1 40 = some 2 := by
  have hcts := (probeDistinctColors_counts [1, 2, 3, 4, 9, 9, 9, 9, 1, 2, 3, 4] 3 1 40 2049 (Nat.le_refl _)).2
  exact (hcts (by decide)).trans (by decide)

end X11Web.ColorProbe
