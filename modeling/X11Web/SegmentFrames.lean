import X11Web.EventOrder
import Mathlib

namespace X11Web.SegmentFrames

open Windows List

/-- The bytes that are still to come on the stream, and how they are cut into reads: the
next read has at most `cuts 0 + 1` of them. -/
structure RecvStream where
  bytes : Bytes
  cuts : Nat → Nat

/-- Nothing at the end of the stream, and something before. -/
def RecvStream.read (cap : Nat) (s : RecvStream) : Option Bytes × RecvStream :=
  if s.bytes = [] then (none, s)
  else
    let n := min cap (s.cuts 0 + 1)
    (some (s.bytes.take n), ⟨s.bytes.drop n, fun k => s.cuts (k + 1)⟩)

inductive WireError
  | connection (message : String)
deriving DecidableEq

/-- Fill a buffer of `len` bytes; nothing where the stream ends before the first of them. -/
def readExactOrEof (len : Nat) (filled : Bytes) (s : RecvStream) : Except WireError (Option Bytes) × RecvStream :=
  if filled.length < len then
    let (chunk, s) := s.read (len - filled.length)
    match chunk.getD [] with
    | [] =>
      if filled = [] then (.ok none, s)
      else (.error (.connection ("EOF after " ++ toString filled.length ++ "/" ++ toString len ++ " bytes")), s)
    | b :: bs => readExactOrEof len (filled ++ b :: bs) s
  else (.ok (some filled), s)
termination_by len - filled.length
decreasing_by
  rw [length_append, length_cons]
  omega

def fromLeBytes (b : Bytes) (off : Nat) : UInt32 := UInt32.ofNat (readU32 false b off)

def toLeBytes (v : UInt32) : Bytes := toLeBytes32 v.toNat

def paddedTo8 (n : Nat) : Nat := if n % 8 = 0 then n else n + (8 - n % 8)

/-- What is left of the segment table after the first eight bytes. -/
def readRestTable (segCount : Nat) (s : RecvStream) : Except WireError Bytes × RecvStream :=
  if 1 < segCount then
    match readExactOrEof (paddedTo8 ((segCount - 1) * 4)) [] s with
    | (.error e, s) => (.error e, s)
    | (.ok none, s) => (.error (.connection "EOF mid-segment-table"), s)
    | (.ok (some restTable), s) => (.ok restTable, s)
  else (.ok [], s)

/-- The header, the table and the body put together again. -/
def reassemble (header : Bytes) (segSizes : List UInt32) (body : Bytes) : Bytes :=
  let segCount := segSizes.length
  let table :=
    if 1 < segCount then
      let soFar := 8 + (segCount - 1) * 4
      let pad := if soFar % 8 = 0 then 0 else 8 - soFar % 8
      (segSizes.drop 1).flatMap toLeBytes ++ List.replicate pad 0
    else []
  header ++ table ++ body

def readSegmentFramed (s : RecvStream) : Except WireError (Option Bytes) × RecvStream :=
  match readExactOrEof 8 [] s with
  | (.error e, s) => (.error e, s)
  | (.ok none, s) => (.ok none, s)
  | (.ok (some header), s) =>
    let segCount := min ((fromLeBytes header 0).toNat + 1) (2 ^ 32 - 1)
    match readRestTable segCount s with
    | (.error e, s) => (.error e, s)
    | (.ok restTable, s) =>
      let segSizes := fromLeBytes header 4 :: (List.range (segCount - 1)).map (fun i => fromLeBytes restTable (i * 4))
      let totalWords := (segSizes.map UInt32.toUInt64).sum
      let bodyBytes := (totalWords * 8).toNat
      match readExactOrEof bodyBytes [] s with
      | (.error e, s) => (.error e, s)
      | (.ok none, s) => (.error (.connection "EOF mid-message-body"), s)
      | (.ok (some body), s) => (.ok (some (reassemble header segSizes body)), s)

def successive : Nat → RecvStream → List (Except WireError (Option Bytes))
  | 0, _ => []
  | n + 1, s =>
    let (outcome, s) := readSegmentFramed s
    outcome :: successive n s

structure Frame where
  segments : List Bytes
  nonempty : segments ≠ []
  countFits : segments.length ≤ 2 ^ 32
  words : ∀ seg ∈ segments, seg.length % 8 = 0 ∧ seg.length / 8 < 2 ^ 32

def Frame.sizes (f : Frame) : List UInt32 := f.segments.map (fun seg => UInt32.ofNat (seg.length / 8))

/-- The number of segments less one, their lengths in words, zeros to the next word, and
the segments. -/
def Frame.encode (f : Frame) : Bytes :=
  toLeBytes (UInt32.ofNat (f.segments.length - 1)) ++ f.sizes.flatMap toLeBytes ++
    List.replicate (if f.segments.length % 2 = 0 then 4 else 0) 0 ++ f.segments.flatten

/-- The calls return the frames and then nothing, or an error where the stream ends
inside the next frame. -/
def SplitsExactly (frames : List Frame) (cutOff : Bytes) (cuts : Nat → Nat) : Prop :=
  ∃ last, successive (frames.length + 1) ⟨frames.flatMap Frame.encode ++ cutOff, cuts⟩ =
      frames.map (fun f => .ok (some f.encode)) ++ [last] ∧
    if cutOff = [] then last = .ok none else ∃ e, last = .error e

variable {s : RecvStream} {len n : Nat} {filled b : Bytes} {f : Frame}

section Reading

theorem readExactOrEof_full (h : len ≤ filled.length) : readExactOrEof len filled s = (.ok (some filled), s) := by
  rw [readExactOrEof, if_neg (Nat.not_lt.mpr h)]

theorem readExactOrEof_step (h : filled.length < len) (hs : s.bytes ≠ []) :
    ∃ n cuts, 0 < n ∧ n ≤ len - filled.length ∧ n ≤ s.bytes.length ∧
      readExactOrEof len filled s = readExactOrEof len (filled ++ s.bytes.take n) ⟨s.bytes.drop n, cuts⟩ := by
  let cap := min (len - filled.length) (s.cuts 0 + 1)
  have hlength := length_pos_iff.mpr hs
  refine ⟨min cap s.bytes.length, fun k => s.cuts (k + 1), by omega, by omega, by omega, ?_⟩
  have htake : s.bytes.take (min cap s.bytes.length) = s.bytes.take cap := by rw [← take_eq_take_min]
  have hdrop : s.bytes.drop (min cap s.bytes.length) = s.bytes.drop cap := by
    by_cases hcap : cap ≤ s.bytes.length
    · rw [Nat.min_eq_left hcap]
    · rw [Nat.min_eq_right (by omega), drop_length, drop_of_length_le (by omega)]
  rw [htake, hdrop]
  conv => lhs; rw [readExactOrEof, if_pos h, RecvStream.read, if_neg hs]
  dsimp only [Option.getD_some]
  have hne : s.bytes.take cap ≠ [] := by
    rw [← length_pos_iff, length_take]
    omega
  cases hchk : s.bytes.take (min (len - filled.length) (s.cuts 0 + 1)) with
  | nil => exact absurd hchk hne
  | cons b bs => rfl

theorem readExactOrEof_enough (hfilled : filled.length ≤ len) (h : len - filled.length ≤ s.bytes.length) :
    ∃ cuts, readExactOrEof len filled s =
      (.ok (some (filled ++ s.bytes.take (len - filled.length))), ⟨s.bytes.drop (len - filled.length), cuts⟩) := by
  induction hk : len - filled.length using Nat.strong_induction_on generalizing filled s with
  | _ k ih =>
    subst hk
    by_cases hfull : len ≤ filled.length
    · refine ⟨s.cuts, ?_⟩
      rw [readExactOrEof_full hfull, Nat.sub_eq_zero_of_le hfull, take_zero, append_nil, drop_zero]
    · have hs : s.bytes ≠ [] := by
        rw [← length_pos_iff]
        omega
      obtain ⟨n, cuts, hpos, hcap, hthere, hstep⟩ := readExactOrEof_step (Nat.lt_of_not_le hfull) hs
      have hlen : (filled ++ s.bytes.take n).length = filled.length + n := by
        rw [length_append, length_take_of_le hthere]
      have hrest : len - (filled ++ s.bytes.take n).length = len - filled.length - n := by omega
      have hle : (filled ++ s.bytes.take n).length ≤ len := by omega
      have hmore : len - (filled ++ s.bytes.take n).length ≤ (⟨s.bytes.drop n, cuts⟩ : RecvStream).bytes.length := by
        rw [length_drop]
        omega
      obtain ⟨cuts', hread⟩ := ih (len - (filled ++ s.bytes.take n).length) (by omega) hle hmore rfl
      refine ⟨cuts', ?_⟩
      rw [hstep, hread, hrest]
      obtain ⟨m, hm⟩ : ∃ m, len - filled.length = n + m := ⟨len - filled.length - n, by omega⟩
      rw [hm, Nat.add_sub_cancel_left, append_assoc, drop_drop, take_add]

theorem readExactOrEof_short (h : s.bytes.length < len - filled.length) :
    if filled = [] ∧ s.bytes = [] then readExactOrEof len filled s = (.ok none, s)
    else ∃ e s', readExactOrEof len filled s = (.error e, s') := by
  induction hk : len - filled.length using Nat.strong_induction_on generalizing filled s with
  | _ k ih =>
    subst hk
    have hfull : filled.length < len := by omega
    by_cases hs : s.bytes = []
    · rw [readExactOrEof, if_pos hfull, RecvStream.read, if_pos hs]
      dsimp only [Option.getD_none]
      by_cases hfilled : filled = []
      · rw [if_pos ⟨hfilled, hs⟩, if_pos hfilled]
      · rw [if_neg fun hboth => hfilled hboth.1, if_neg hfilled]
        exact ⟨_, _, rfl⟩
    · rw [if_neg fun hboth => hs hboth.2]
      obtain ⟨n, cuts, hpos, hcap, hthere, hstep⟩ := readExactOrEof_step hfull hs
      have hlen : (filled ++ s.bytes.take n).length = filled.length + n := by
        rw [length_append, length_take_of_le hthere]
      have hless : (⟨s.bytes.drop n, cuts⟩ : RecvStream).bytes.length < len - (filled ++ s.bytes.take n).length := by
        rw [length_drop]
        omega
      have hsh := ih (len - (filled ++ s.bytes.take n).length) (by omega) hless rfl
      rw [if_neg fun hboth => absurd (congrArg List.length hboth.1) (by rw [hlen, length_nil]; omega)] at hsh
      rw [hstep]
      exact hsh

theorem readExactOrEof_nil (len : Nat) (s : RecvStream) (h : len ≤ s.bytes.length) :
    ∃ cuts, readExactOrEof len [] s = (.ok (some (s.bytes.take len)), ⟨s.bytes.drop len, cuts⟩) := by
  have henough : len - ([] : Bytes).length ≤ s.bytes.length := h
  exact readExactOrEof_enough (Nat.zero_le len) henough

theorem readExactOrEof_nil_short (len : Nat) (s : RecvStream) (h : s.bytes.length < len) :
    (s.bytes = [] ∧ readExactOrEof len [] s = (.ok none, s)) ∨
      (s.bytes ≠ [] ∧ ∃ e s', readExactOrEof len [] s = (.error e, s')) := by
  have hless : s.bytes.length < len - ([] : Bytes).length := h
  have hsh := readExactOrEof_short hless
  by_cases hs : s.bytes = []
  · rw [if_pos ⟨rfl, hs⟩] at hsh
    exact .inl ⟨hs, hsh⟩
  · rw [if_neg fun hboth => hs hboth.2] at hsh
    exact .inr ⟨hs, hsh⟩

end Reading

section Tables

theorem length_toLeBytes (v : UInt32) : (toLeBytes v).length = 4 := rfl

theorem fromLeBytes_toLeBytes (v : UInt32) : fromLeBytes (toLeBytes v) 0 = v := EventOrder.ofNat_le32 v

theorem fromLeBytes_append_left {l : Bytes} (l' : Bytes) {i : Nat} (h : i + 4 ≤ l.length) :
    fromLeBytes (l ++ l') i = fromLeBytes l i := by
  rw [fromLeBytes, Framing.readU32_append l' h, fromLeBytes]

theorem fromLeBytes_take {l : Bytes} {i k : Nat} (h : i + 4 ≤ k) (hk : k ≤ l.length) :
    fromLeBytes (l.take k) i = fromLeBytes l i := by
  conv => rhs; rw [← take_append_drop k l]
  exact (fromLeBytes_append_left _ (by rw [length_take_of_le hk]; exact h)).symm

theorem fromLeBytes_append_right (l l' : Bytes) (i : Nat) :
    fromLeBytes (l ++ l') (l.length + i) = fromLeBytes l' i := by
  rw [fromLeBytes, fromLeBytes, EventOrder.readU32_false, EventOrder.readU32_false]
  simp only [EventOrder.readU16_false, getD_eq_getElem?_getD, Nat.add_assoc]
  simp only [List.getElem?_append_right (Nat.le_add_right _ _), Nat.add_sub_cancel_left]

theorem length_flatMap_toLeBytes (sizes : List UInt32) : (sizes.flatMap toLeBytes).length = 4 * sizes.length := by
  induction sizes with
  | nil => rfl
  | cons v sizes ih =>
    rw [flatMap_cons, length_append, ih, length_toLeBytes, length_cons]
    omega

theorem fromLeBytes_table {sizes : List UInt32} (rest : Bytes) {i : Nat} (h : i < sizes.length) :
    fromLeBytes (sizes.flatMap toLeBytes ++ rest) (4 * i) = sizes[i] := by
  induction sizes generalizing i with
  | nil => cases h
  | cons v sizes ih =>
    rw [flatMap_cons, append_assoc]
    cases i with
    | zero =>
      rw [Nat.mul_zero, fromLeBytes_append_left _ (by rw [length_toLeBytes])]
      exact fromLeBytes_toLeBytes v
    | succ i =>
      rw [Nat.mul_succ, Nat.add_comm, ← length_toLeBytes v, fromLeBytes_append_right, length_toLeBytes]
      exact ih (Nat.lt_of_succ_lt_succ h)

theorem toNat_sum_toUInt64 (sizes : List UInt32) :
    (sizes.map UInt32.toUInt64).sum.toNat = (sizes.map UInt32.toNat).sum % 2 ^ 64 := by
  induction sizes with
  | nil => rfl
  | cons v sizes ih =>
    rw [map_cons, sum_cons, UInt64.toNat_add, ih, map_cons, sum_cons, UInt32.toNat_toUInt64,
      Nat.add_mod_mod]

theorem bodyBytes_eq {sizes : List UInt32} (h : 8 * (sizes.map UInt32.toNat).sum < 2 ^ 64) :
    ((sizes.map UInt32.toUInt64).sum * 8).toNat = 8 * (sizes.map UInt32.toNat).sum := by
  rw [UInt64.toNat_mul, toNat_sum_toUInt64, Nat.mod_eq_of_lt (a := (sizes.map UInt32.toNat).sum) (by omega)]
  exact (Nat.mod_eq_of_lt (by rw [Nat.mul_comm]; exact h)).trans (Nat.mul_comm _ _)

end Tables

section Frames

/-- The sizes that the reader takes from the table: its count has no room for 2 ^ 32 segments. -/
def Frame.seen (f : Frame) : List UInt32 := f.sizes.take (2 ^ 32 - 1)

def bodyLength (sizes : List UInt32) : Nat := 8 * (sizes.map UInt32.toNat).sum

def tableEnd (sizes : List UInt32) : Nat := 8 + paddedTo8 ((sizes.length - 1) * 4)

def Frame.taken (f : Frame) : Nat := tableEnd f.seen + bodyLength f.seen

theorem length_sizes (f : Frame) : f.sizes.length = f.segments.length := length_map _

theorem length_words {segments : List Bytes} (hwords : ∀ seg ∈ segments, seg.length % 8 = 0 ∧ seg.length / 8 < 2 ^ 32) :
    bodyLength (segments.map fun seg => UInt32.ofNat (seg.length / 8)) = segments.flatten.length := by
  rw [bodyLength, length_flatten]
  induction segments with
  | nil => rfl
  | cons seg segments ih =>
    obtain ⟨hseg, hwords⟩ := forall_mem_cons.mp hwords
    rw [map_cons, map_cons, sum_cons, Nat.mul_add, ih hwords, map_cons, sum_cons,
      UInt32.toNat_ofNat', Nat.mod_eq_of_lt hseg.2, Nat.mul_div_cancel' (Nat.dvd_of_mod_eq_zero hseg.1)]

theorem bodyLength_sizes (f : Frame) : bodyLength f.sizes = f.segments.flatten.length := length_words f.words

theorem paddedTo8_table {count : Nat} (h : 0 < count) :
    paddedTo8 ((count - 1) * 4) = (count - 1) * 4 + if count % 2 = 0 then 4 else 0 := by
  rw [paddedTo8]
  split_ifs <;> omega

theorem segments_pos (f : Frame) : 0 < f.segments.length := length_pos_iff.mpr f.nonempty

theorem length_encode (f : Frame) : f.encode.length = tableEnd f.sizes + bodyLength f.sizes := by
  have hpos := segments_pos f
  rw [Frame.encode, length_append, length_append, length_append, length_toLeBytes,
    length_flatMap_toLeBytes, length_replicate, bodyLength_sizes, tableEnd, length_sizes, paddedTo8_table hpos]
  omega

theorem seen_eq_sizes (h : f.segments.length < 2 ^ 32) : f.seen = f.sizes :=
  take_of_length_le (by rw [length_sizes]; omega)

theorem length_seen (f : Frame) : f.seen.length = min (2 ^ 32 - 1) f.segments.length := by
  rw [Frame.seen, length_take, length_sizes]

theorem bodyLength_seen_le (f : Frame) : bodyLength f.seen ≤ bodyLength f.sizes := by
  have hspl := congrArg bodyLength (take_append_drop (2 ^ 32 - 1) f.sizes)
  rw [bodyLength, map_append, sum_append] at hspl
  rw [bodyLength, Frame.seen, ← hspl]
  exact Nat.mul_le_mul_left 8 (Nat.le_add_right _ _)

theorem seen_pos (f : Frame) : 0 < f.seen.length := by
  have hpos := segments_pos f
  rw [length_seen]
  omega

theorem bodyLength_seen_lt (hfits : f.encode.length < 2 ^ 63) : bodyLength f.seen < 2 ^ 64 := by
  have hle := bodyLength_seen_le f
  have hlength := length_encode f
  omega

theorem encode_eq (f : Frame) (rest : Bytes) : ∃ more, f.encode ++ rest =
    toLeBytes (UInt32.ofNat (f.segments.length - 1)) ++ (f.sizes.flatMap toLeBytes ++ more) := by
  refine ⟨List.replicate (if f.segments.length % 2 = 0 then 4 else 0) 0 ++ f.segments.flatten ++ rest, ?_⟩
  rw [Frame.encode]
  simp only [append_assoc]

theorem fromLeBytes_count (f : Frame) (rest : Bytes) :
    (fromLeBytes (f.encode ++ rest) 0).toNat + 1 = f.segments.length := by
  obtain ⟨more, heq⟩ := encode_eq f rest
  have hpos := segments_pos f
  have hfits := f.countFits
  rw [heq, fromLeBytes_append_left _ (by rw [length_toLeBytes]), fromLeBytes_toLeBytes, UInt32.toNat_ofNat',
    Nat.mod_eq_of_lt (by omega)]
  omega

theorem fromLeBytes_size (rest : Bytes) {i : Nat} (h : i < f.sizes.length) :
    fromLeBytes (f.encode ++ rest) (4 + 4 * i) = f.sizes[i] := by
  obtain ⟨more, heq⟩ := encode_eq f rest
  rw [heq, ← length_toLeBytes (UInt32.ofNat (f.segments.length - 1)), fromLeBytes_append_right]
  exact fromLeBytes_table more h

theorem segSizes_eq (f : Frame) (rest : Bytes) (htable : tableEnd f.seen ≤ (f.encode ++ rest).length) :
    fromLeBytes ((f.encode ++ rest).take 8) 4 :: (List.range (f.seen.length - 1)).map (fun i =>
      fromLeBytes (((f.encode ++ rest).drop 8).take (paddedTo8 ((f.seen.length - 1) * 4))) (i * 4)) = f.seen := by
  have hpos := seen_pos f
  have hseen : f.seen.length ≤ f.sizes.length := by
    rw [Frame.seen, length_take]
    exact Nat.min_le_right _ _
  have hpadded : (f.seen.length - 1) * 4 ≤ paddedTo8 ((f.seen.length - 1) * 4) := by
    rw [paddedTo8]
    split <;> omega
  rw [tableEnd] at htable
  apply ext_getElem
  · rw [length_cons, length_map, length_range]
    omega
  · intro i hi hi'
    have hthere : i < f.sizes.length := by omega
    have hget : f.seen[i] = f.sizes[i] := getElem_take ..
    rw [hget, ← fromLeBytes_size rest]
    cases i with
    | zero => exact fromLeBytes_take (by omega) (by omega)
    | succ i =>
      rw [getElem_cons_succ, getElem_map, getElem_range, fromLeBytes_take (by omega)
        (by rw [length_drop]; omega)]
      have hdrop : f.encode ++ rest = (f.encode ++ rest).take 8 ++ (f.encode ++ rest).drop 8 :=
        (take_append_drop 8 _).symm
      have hright := fromLeBytes_append_right ((f.encode ++ rest).take 8) ((f.encode ++ rest).drop 8) (i * 4)
      rw [← hdrop, length_take_of_le (by omega)] at hright
      rw [← hright]
      congr 1
      omega

end Frames

section Calls

variable {segCount : Nat}

theorem readRestTable_enough (s : RecvStream) (hpos : 0 < segCount)
    (h : paddedTo8 ((segCount - 1) * 4) ≤ s.bytes.length) :
    ∃ cuts, readRestTable segCount s = (.ok (s.bytes.take (paddedTo8 ((segCount - 1) * 4))),
      ⟨s.bytes.drop (paddedTo8 ((segCount - 1) * 4)), cuts⟩) := by
  rw [readRestTable]
  split
  · obtain ⟨cuts, hread⟩ := readExactOrEof_nil _ s h
    rw [hread]
    exact ⟨cuts, rfl⟩
  · have hone : segCount = 1 := by omega
    subst hone
    exact ⟨s.cuts, rfl⟩

theorem readRestTable_short (segCount : Nat) (s : RecvStream) (h : s.bytes.length < paddedTo8 ((segCount - 1) * 4)) :
    ∃ e s', readRestTable segCount s = (.error e, s') := by
  rw [readRestTable]
  split
  · obtain ⟨-, hread⟩ | ⟨-, e, s', hread⟩ := readExactOrEof_nil_short _ s h
    · rw [hread]
      exact ⟨_, _, rfl⟩
    · rw [hread]
      exact ⟨e, s', rfl⟩
  · next hone =>
    have hzero : segCount - 1 = 0 := by omega
    rw [hzero] at h
    exact absurd h (Nat.not_lt_zero _)

def Frame.returned (f : Frame) (rest : Bytes) : Bytes :=
  reassemble ((f.encode ++ rest).take 8) f.seen
    (((f.encode ++ rest).drop (tableEnd f.seen)).take (bodyLength f.seen))

theorem tableEnd_le (sizes : List UInt32) : 8 ≤ tableEnd sizes := Nat.le_add_right 8 _

theorem readSegmentFramed_take (rest : Bytes) (cuts : Nat → Nat) (hfits : f.encode.length < 2 ^ 63)
    (hn : n ≤ (f.encode ++ rest).length) :
    if n = 0 then (readSegmentFramed ⟨(f.encode ++ rest).take n, cuts⟩).1 = .ok none
    else if n < f.taken then ∃ e, (readSegmentFramed ⟨(f.encode ++ rest).take n, cuts⟩).1 = .error e
    else ∃ cuts', readSegmentFramed ⟨(f.encode ++ rest).take n, cuts⟩ =
      (.ok (some (f.returned rest)), ⟨((f.encode ++ rest).take n).drop f.taken, cuts'⟩) := by
  set b := f.encode ++ rest with hb
  have hlength : (b.take n).length = n := length_take_of_le hn
  have htable := tableEnd_le f.seen
  rw [Frame.taken]
  by_cases hhdr : n < 8
  · obtain ⟨hemp, hread⟩ | ⟨hne, e, s', hread⟩ :=
      readExactOrEof_nil_short 8 ⟨b.take n, cuts⟩ (by rw [hlength]; exact hhdr)
    · have hzero : n = 0 := hlength.symm.trans (congrArg List.length hemp)
      rw [if_pos hzero, readSegmentFramed, hread]
    · have hpos : n ≠ 0 := by
        rintro rfl
        exact hne (take_zero (l := b))
      rw [if_neg hpos, if_pos (by omega), readSegmentFramed, hread]
      exact ⟨e, rfl⟩
  rw [if_neg (by omega)]
  obtain ⟨cuts₁, hread₁⟩ := readExactOrEof_nil 8 ⟨b.take n, cuts⟩ (by rw [hlength]; omega)
  have hheader₁ : (b.take n).take 8 = b.take 8 := by rw [take_take, Nat.min_eq_left (by omega)]
  have hcnt : min ((fromLeBytes (b.take 8) 0).toNat + 1) (2 ^ 32 - 1) = f.seen.length := by
    rw [fromLeBytes_take (by omega) (by omega), fromLeBytes_count, length_seen, Nat.min_comm]
  have hrest : ((b.take n).drop 8).length = n - 8 := by rw [length_drop, hlength]
  rw [readSegmentFramed, hread₁]
  dsimp only
  rw [hheader₁, hcnt]
  by_cases hsh : n < tableEnd f.seen
  · rw [if_pos (by omega)]
    obtain ⟨e, s', hread₂⟩ := readRestTable_short f.seen.length ⟨(b.take n).drop 8, cuts₁⟩
      (by rw [hrest]; rw [tableEnd] at hsh; omega)
    rw [hread₂]
    exact ⟨e, rfl⟩
  obtain ⟨cuts₂, hread₂⟩ := readRestTable_enough ⟨(b.take n).drop 8, cuts₁⟩ (seen_pos f)
    (by rw [hrest]; rw [tableEnd] at hsh; omega)
  have htable₂ : ((b.take n).drop 8).take (paddedTo8 ((f.seen.length - 1) * 4)) =
      (b.drop 8).take (paddedTo8 ((f.seen.length - 1) * 4)) := by
    rw [drop_take, take_take, Nat.min_eq_left]
    rw [tableEnd] at hsh
    omega
  rw [hread₂]
  dsimp only
  rw [htable₂, segSizes_eq f rest (by rw [← hb]; omega), bodyBytes_eq (bodyLength_seen_lt hfits)]
  have hdrop : ((b.take n).drop 8).drop (paddedTo8 ((f.seen.length - 1) * 4)) = (b.take n).drop (tableEnd f.seen) :=
    drop_drop
  rw [hdrop]
  have hbody : ((b.take n).drop (tableEnd f.seen)).length = n - tableEnd f.seen := by rw [length_drop, hlength]
  by_cases hend : n < tableEnd f.seen + bodyLength f.seen
  · rw [if_pos hend]
    obtain ⟨-, hread₃⟩ | ⟨-, e, s', hread₃⟩ := readExactOrEof_nil_short (bodyLength f.seen)
      ⟨(b.take n).drop (tableEnd f.seen), cuts₂⟩ (by rw [hbody]; omega)
    · rw [← bodyLength, hread₃]
      exact ⟨_, rfl⟩
    · rw [← bodyLength, hread₃]
      exact ⟨e, rfl⟩
  · rw [if_neg hend]
    obtain ⟨cuts₃, hread₃⟩ := readExactOrEof_nil (bodyLength f.seen)
      ⟨(b.take n).drop (tableEnd f.seen), cuts₂⟩ (by rw [hbody]; omega)
    have hbody₃ : ((b.take n).drop (tableEnd f.seen)).take (bodyLength f.seen) =
        (b.drop (tableEnd f.seen)).take (bodyLength f.seen) := by
      rw [drop_take, take_take, Nat.min_eq_left (by omega)]
    rw [← bodyLength, hread₃]
    dsimp only
    rw [hbody₃, drop_drop]
    exact ⟨cuts₃, rfl⟩

theorem length_reassemble {header body : Bytes} {sizes : List UInt32} (hpos : 0 < sizes.length)
    (hhdr : header.length = 8) :
    (reassemble header sizes body).length = tableEnd sizes + body.length := by
  rw [reassemble, tableEnd, paddedTo8_table hpos]
  dsimp only
  rw [length_append, length_append, hhdr]
  by_cases hone : 1 < sizes.length
  · rw [if_pos hone, length_append, length_flatMap_toLeBytes, length_drop, length_replicate]
    split_ifs <;> omega
  · rw [if_neg hone, if_neg (by omega), length_nil]
    omega

theorem taken_eq (hcnt : f.segments.length < 2 ^ 32) : f.taken = f.encode.length := by
  rw [length_encode, Frame.taken, seen_eq_sizes hcnt]

theorem seen_full (hcnt : f.segments.length = 2 ^ 32) : f.seen = f.sizes.dropLast := by
  rw [Frame.seen, dropLast_eq_take, length_sizes, hcnt]

theorem taken_full (hcnt : f.segments.length = 2 ^ 32) : f.taken = 2 ^ 34 + bodyLength f.sizes.dropLast := by
  have hlength : f.sizes.dropLast.length = 2 ^ 32 - 1 := by rw [length_dropLast, length_sizes, hcnt]
  rw [Frame.taken, seen_full hcnt, tableEnd, hlength]
  rfl

theorem taken_lt_full (hcnt : f.segments.length = 2 ^ 32) : f.taken < f.encode.length := by
  have hle := bodyLength_seen_le f
  have hpos := segments_pos f
  rw [taken_full hcnt, ← seen_full hcnt, length_encode, tableEnd, length_sizes, paddedTo8_table hpos, hcnt]
  omega

theorem taken_le (f : Frame) : f.taken ≤ f.encode.length := by
  by_cases hcnt : f.segments.length < 2 ^ 32
  · exact (taken_eq hcnt).le
  · exact (taken_lt_full (by have := f.countFits; omega)).le

theorem returned_eq (hcnt : f.segments.length < 2 ^ 32) (rest : Bytes) : f.returned rest = f.encode := by
  have hpos := segments_pos f
  have hsizes := length_sizes f
  let pad : Bytes := List.replicate (if f.segments.length % 2 = 0 then 4 else 0) 0
  let table := toLeBytes (UInt32.ofNat (f.segments.length - 1)) ++ f.sizes.flatMap toLeBytes ++ pad
  have htable : table.length = tableEnd f.sizes := by
    rw [length_append, length_append, length_toLeBytes, length_flatMap_toLeBytes, length_replicate,
      tableEnd, hsizes, paddedTo8_table hpos]
    omega
  have hall : f.encode ++ rest = table ++ (f.segments.flatten ++ rest) := append_assoc ..
  have hbody : ((f.encode ++ rest).drop (tableEnd f.sizes)).take (bodyLength f.sizes) = f.segments.flatten := by
    rw [hall, drop_left' htable, bodyLength_sizes, take_left]
  obtain ⟨v, vs, hvs⟩ : ∃ v vs, f.sizes = v :: vs := exists_cons_of_length_pos (by omega)
  have hhdr : (f.encode ++ rest).take 8 = toLeBytes (UInt32.ofNat (f.segments.length - 1)) ++ toLeBytes v := by
    obtain ⟨more, heq⟩ := encode_eq f rest
    rw [heq, hvs, flatMap_cons, append_assoc, ← append_assoc]
    exact take_left' rfl
  rw [Frame.returned, seen_eq_sizes hcnt, hbody, hhdr, reassemble, Frame.encode, hvs]
  rw [hvs, length_cons] at hsizes
  rw [flatMap_cons]
  dsimp only
  rw [length_cons, drop_one, tail_cons]
  simp only [append_assoc, append_cancel_left_eq]
  rw [← append_assoc, append_cancel_right_eq, ← hsizes]
  cases vs with
  | nil => rfl
  | cons w vs =>
    rw [if_pos (by rw [length_cons]; omega)]
    congr 2
    split_ifs <;> omega

theorem returned_ne (hcnt : f.segments.length = 2 ^ 32) (rest : Bytes) : f.returned rest ≠ f.encode := by
  intro heq
  have hlt := taken_lt_full hcnt
  have htkn : f.taken = tableEnd f.seen + bodyLength f.seen := rfl
  have htable := tableEnd_le f.seen
  have hlength := congrArg List.length heq
  rw [Frame.returned, length_reassemble (seen_pos f), length_take_of_le] at hlength
  · omega
  · rw [length_drop, length_append]
    omega
  · rw [length_take_of_le]
    rw [length_append]
    omega

theorem readSegmentFramed_frame (hfits : f.encode.length < 2 ^ 63) (rest : Bytes) (cuts : Nat → Nat) :
    ∃ cuts', readSegmentFramed ⟨f.encode ++ rest, cuts⟩ =
      (.ok (some (f.returned rest)), ⟨(f.encode ++ rest).drop f.taken, cuts'⟩) := by
  have htable := tableEnd_le f.seen
  have htkn : tableEnd f.seen ≤ f.taken := Nat.le_add_right _ _
  have hle := taken_le f
  have hlength : (f.encode ++ rest).length = f.encode.length + rest.length := length_append
  have hread := readSegmentFramed_take rest cuts hfits (Nat.le_refl _)
  rw [take_length, if_neg (by omega), if_neg (by omega)] at hread
  exact hread

theorem splitsExactly_cons (hfits : f.encode.length < 2 ^ 63) (frames : List Frame) (cutOff : Bytes)
    (cuts : Nat → Nat) : ∃ cuts', SplitsExactly (f :: frames) cutOff cuts ↔
      f.segments.length < 2 ^ 32 ∧ SplitsExactly frames cutOff cuts' := by
  obtain ⟨cuts', hread⟩ := readSegmentFramed_frame hfits (frames.flatMap Frame.encode ++ cutOff) cuts
  refine ⟨cuts', ?_⟩
  simp only [SplitsExactly, flatMap_cons, append_assoc, length_cons, successive, hread, map_cons,
    cons_append, List.cons.injEq, Except.ok.injEq, Option.some.injEq]
  by_cases hcnt : f.segments.length < 2 ^ 32
  · rw [returned_eq hcnt, taken_eq hcnt, drop_left]
    simp only [true_and, hcnt]
  · have hfull : f.segments.length = 2 ^ 32 := by
      have hmax := f.countFits
      omega
    simp only [returned_ne hfull, false_and, exists_false, hcnt]

theorem splitsExactly_nil (hfits : f.encode.length < 2 ^ 63) (hn : n < f.encode.length) (cuts : Nat → Nat) :
    SplitsExactly [] (f.encode.take n) cuts ↔
      (f.segments.length = 2 ^ 32 → n < 2 ^ 34 + bodyLength f.sizes.dropLast) := by
  have hread := readSegmentFramed_take (n := n) [] cuts hfits (by rw [append_nil]; exact hn.le)
  rw [append_nil] at hread
  have hlast : SplitsExactly [] (f.encode.take n) cuts ↔
      if f.encode.take n = [] then (readSegmentFramed ⟨f.encode.take n, cuts⟩).1 = .ok none
      else ∃ e, (readSegmentFramed ⟨f.encode.take n, cuts⟩).1 = .error e := by
    simp only [SplitsExactly, length_nil, flatMap_nil, nil_append, successive, map_nil,
      List.cons.injEq, and_true]
    exact exists_eq_left'
  rw [hlast]
  by_cases hzero : n = 0
  · subst hzero
    rw [if_pos rfl] at hread
    rw [if_pos take_zero]
    exact iff_of_true hread fun _ => by omega
  have hne : f.encode.take n ≠ [] := by
    rw [← length_pos_iff, length_take_of_le hn.le]
    omega
  rw [if_neg hzero] at hread
  rw [if_neg hne]
  by_cases hsh : n < f.taken
  · rw [if_pos hsh] at hread
    exact iff_of_true hread fun hcnt => by rw [← taken_full hcnt]; exact hsh
  · rw [if_neg hsh] at hread
    obtain ⟨cuts', hread⟩ := hread
    have hfull : f.segments.length = 2 ^ 32 := by
      by_contra hcnt
      have hmax := f.countFits
      have htkn := taken_eq (f := f) (by omega)
      omega
    refine iff_of_false ?_ fun h => hsh (by rw [taken_full hfull]; exact h hfull)
    rw [hread]
    rintro ⟨e, he⟩
    cases he

/-- The reader splits a stream exactly where no frame of it, and not what has come of the
one that is cut off, has more segments than its count can hold. -/
theorem splitsExactly_iff (frames : List Frame) (hfits : ∀ g ∈ frames, g.encode.length < 2 ^ 63)
    (hlast : f.encode.length < 2 ^ 63) (hn : n < f.encode.length) (cuts : Nat → Nat) :
    SplitsExactly frames (f.encode.take n) cuts ↔ (∀ g ∈ frames, g.segments.length < 2 ^ 32) ∧
      (f.segments.length = 2 ^ 32 → n < 2 ^ 34 + bodyLength f.sizes.dropLast) := by
  induction frames generalizing cuts with
  | nil =>
    rw [splitsExactly_nil hlast hn cuts]
    exact (and_iff_right fun g hg => nomatch hg).symm
  | cons g frames ih =>
    obtain ⟨hg, hfits⟩ := forall_mem_cons.mp hfits
    obtain ⟨cuts', hcons⟩ := splitsExactly_cons hg frames (f.encode.take n) cuts
    rw [hcons, ih hfits cuts', forall_mem_cons, and_assoc]

end Calls

def emptySegments (count : Nat) (hpos : 0 < count) (hcnt : count ≤ 2 ^ 32) : Frame where
  segments := List.replicate count []
  nonempty := by
    rw [← length_pos_iff, length_replicate]
    exact hpos
  countFits := by rw [length_replicate]; exact hcnt
  words seg hseg := by
    rw [eq_of_mem_replicate hseg]
    exact ⟨rfl, Nat.two_pow_pos 32⟩

theorem length_emptySegments {count : Nat} (hpos : 0 < count) (hcnt : count ≤ 2 ^ 32) :
    (emptySegments count hpos hcnt).encode.length < 2 ^ 63 := by
  have hsegments : (emptySegments count hpos hcnt).segments.length = count := length_replicate
  have hflat : (emptySegments count hpos hcnt).segments.flatten = [] := flatten_replicate_nil
  rw [length_encode, bodyLength_sizes, tableEnd, length_sizes, paddedTo8_table (segments_pos _), hflat, length_nil]
  split_ifs <;> omega

/-- A frame of three segments, and all but the last byte of one of two, a byte at a time. -/
theorem splitsExactly_emptySegments :
    SplitsExactly [emptySegments 3 (by decide) (by decide)]
      ((emptySegments 2 (by decide) (by decide)).encode.take 15) (fun _ => 0) := by
  have hlength : (emptySegments 2 (by decide) (by decide)).encode.length = 16 := rfl
  refine (splitsExactly_iff _ (fun g hg => ?_) (length_emptySegments _ _) (by rw [hlength]; decide) _).mpr
    ⟨fun g hg => ?_, fun hfull => ?_⟩
  · rw [mem_singleton.mp hg]
    exact length_emptySegments _ _
  · rw [mem_singleton.mp hg]
    decide
  · exact absurd hfull (by decide)

/-- The count of a frame with all the segments it may have is taken for one less. -/
theorem full_frame_misread : ¬ SplitsExactly [emptySegments (2 ^ 32) (by decide) (by decide)] [] (fun _ => 0) := by
  have hpos : 0 < 2 ^ 32 := by decide
  obtain ⟨cuts, hcons⟩ := splitsExactly_cons (length_emptySegments hpos (Nat.le_refl _)) [] [] (fun _ => 0)
  rw [hcons]
  rintro ⟨hcnt, -⟩
  dsimp only [emptySegments] at hcnt
  rw [length_replicate] at hcnt
  exact absurd hcnt (Nat.lt_irrefl _)

end X11Web.SegmentFrames
