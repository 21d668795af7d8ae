import X11Web.EventWire

namespace X11Web.EventOrder

open Windows Framing EventWire List Option

def swap16 (v : UInt16) : UInt16 := UInt16.ofNat (v.toNat % 256 * 256 + v.toNat / 256)

def swap32 (v : UInt32) : UInt32 :=
  UInt32.ofNat (v.toNat % 256 * 2 ^ 24 + v.toNat / 2 ^ 8 % 256 * 2 ^ 16 +
    v.toNat / 2 ^ 16 % 256 * 2 ^ 8 + v.toNat / 2 ^ 24)

/-- Every field of several bytes with its bytes turned round. -/
def swapHalf : Half → Half
  | .card16 v => .card16 (swap16 v)
  | h => h

def swapWord : Word → Word
  | .card32 v => .card32 (swap32 v)
  | .halves p q => .halves (swapHalf p) (swapHalf q)

def halfNumber : Half → Nat
  | .card16 v => v.toNat
  | .card8s a b => a.toNat + b.toNat * 256
  | .card8 a => a.toNat
  | .unused => 0

/-- The half is read from the bytes of the number `n`, the high one first. -/
def HeldBy (receiver : Bool) (n : Nat) : Half → Prop
  | .card16 v => if receiver then v.toNat = n else v.toNat = n % 256 * 256 + n / 256
  | .card8s a b => a.toNat = n / 256 ∧ b.toNat = n % 256
  | .card8 a => a.toNat = n / 256
  | .unused => True

/-- The word keeps its fields when its four bytes are turned round: its halves
then change places. -/
def KeptReversed (receiver : Bool) : Word → Prop
  | .card32 v => receiver = true ∨ swap32 v = v
  | .halves p q => HeldBy receiver (halfNumber q) p ∧ HeldBy receiver (halfNumber p) q

inductive Origin
  | serialized | laidOut | sent
deriving DecidableEq

/-- The bytes that a request of the sender hands to a route. -/
inductive Outgoing (sender : Bool) : Origin → Event → Bytes → Prop
  | serialized {e : Event} (h : e.LaidOut) : Outgoing sender .serialized e (serializeEvent e sender)
  | laidOut {e : Event} (h : e.LaidOut)
      (hkind : Kind.ofResponseType e.responseType = some .clientMessage)
      (hformat : e.header.first = 8) :
      Outgoing sender .laidOut e (serializeEventWithLayout e sender clientMessageFormat8Layout)
  | sent {raw : Bytes} {e : Event} (hlen : raw.length = 32)
      (h : decode sender (markSynthetic raw) = some e) : Outgoing sender .sent e (markSynthetic raw)

def withSequence (seq : UInt16) (e : Event) : Event :=
  match e.header with
  | .sequenced detail _ => { e with header := .sequenced detail seq }
  | .keys _ _ _ => e

/-- The receiver reads the fields of the event, and gets the sender's bytes where
both have the same order. -/
structure Arrives (sender receiver : Bool) (seq : UInt16) (e : Event) (out written : Bytes) :
    Prop where
  decoded : decode receiver written = some (withSequence seq e)
  unchanged : sender = receiver → written.take 2 = out.take 2 ∧ written.drop 4 = out.drop 4

/-- What is written over the bytes 2 and 3 is what stands there in a KeymapNotify. -/
def KeepsHeader (receiver : Bool) (seq : UInt16) : Header → Prop
  | .sequenced _ _ => True
  | .keys _ b c =>
    if receiver then b.toNat * 256 + c.toNat = seq.toNat else c.toNat * 256 + b.toNat = seq.toNat

def Readable (origin : Origin) (sender receiver : Bool) (e : Event) : Prop :=
  if origin = .serialized ∧ sender = true then ∀ w ∈ e.words, KeptReversed receiver w
  else sender = receiver ∨ ∀ w ∈ e.words, swapWord w = w

variable {e : Event} {msb sender receiver : Bool} {b : Bytes}

theorem readU16_true (b : Bytes) (i : Nat) :
    readU16 true b i = (b.getD i 0).toNat * 256 + (b.getD (i + 1) 0).toNat := rfl

theorem readU16_false (b : Bytes) (i : Nat) :
    readU16 false b i = (b.getD (i + 1) 0).toNat * 256 + (b.getD i 0).toNat := rfl

theorem readU32_false (b : Bytes) (i : Nat) :
    readU32 false b i = readU16 false b (i + 2) * 65536 + readU16 false b i := rfl

theorem ofNat_swap16 {x y : Nat} (hx : x < 256) (hy : y < 256) :
    UInt16.ofNat (x * 256 + y) = swap16 (UInt16.ofNat (y * 256 + x)) := by
  have hlow : (y * 256 + x) % 256 = x := by omega
  have hhigh : (y * 256 + x) / 256 = y := by omega
  have hfit : y * 256 + x < 2 ^ 16 := by omega
  rw [swap16, UInt16.toNat_ofNat', Nat.mod_eq_of_lt hfit, hlow, hhigh]

theorem readU16_not (msb : Bool) (b : Bytes) :
    UInt16.ofNat (readU16 (!msb) b 0) = swap16 (UInt16.ofNat (readU16 msb b 0)) := by
  cases msb with
  | true => exact ofNat_swap16 (UInt8.toNat_lt _) (UInt8.toNat_lt _)
  | false => exact ofNat_swap16 (UInt8.toNat_lt _) (UInt8.toNat_lt _)

theorem swap32_ofNat {n : Nat} (hn : n < 2 ^ 32) :
    swap32 (UInt32.ofNat n) =
      UInt32.ofNat (n % 256 * 2 ^ 24 + n / 2 ^ 8 % 256 * 2 ^ 16 + n / 2 ^ 16 % 256 * 2 ^ 8 +
        n / 2 ^ 24) := by
  rw [swap32, UInt32.toNat_ofNat', Nat.mod_eq_of_lt hn]

theorem ofNat_swap32 {x y z u : Nat} (hx : x < 256) (hy : y < 256) (hz : z < 256) (hu : u < 256) :
    UInt32.ofNat ((x * 256 + y) * 65536 + (z * 256 + u)) =
      swap32 (UInt32.ofNat ((u * 256 + z) * 65536 + (y * 256 + x))) := by
  rw [swap32_ofNat (by omega)]
  refine congrArg UInt32.ofNat ?_
  omega

theorem readU32_not (msb : Bool) (b : Bytes) :
    UInt32.ofNat (readU32 (!msb) b 0) = swap32 (UInt32.ofNat (readU32 msb b 0)) := by
  cases msb with
  | true =>
    exact ofNat_swap32 (UInt8.toNat_lt _) (UInt8.toNat_lt _) (UInt8.toNat_lt _) (UInt8.toNat_lt _)
  | false =>
    exact ofNat_swap32 (UInt8.toNat_lt _) (UInt8.toNat_lt _) (UInt8.toNat_lt _) (UInt8.toNat_lt _)

theorem read_not (msb : Bool) (b : Bytes) (s : WordShape) :
    s.read (!msb) b = swapWord (s.read msb b) := by
  have hhalf : ∀ (s : HalfShape) (b : Bytes), s.read (!msb) b = swapHalf (s.read msb b) := by
    intro s b
    cases s with
    | card16 => exact congrArg Half.card16 (readU16_not msb b)
    | card8s => rfl
    | card8 => rfl
    | unused => rfl
  cases s with
  | card32 => exact congrArg Word.card32 (readU32_not msb b)
  | halves p q => exact congrArg₂ Word.halves (hhalf p b) (hhalf q (b.drop 2))

theorem readWords_not (msb : Bool) (shapes : List WordShape) (b : Bytes) :
    readWords (!msb) shapes b = (readWords msb shapes b).map swapWord := by
  induction shapes generalizing b with
  | nil => rfl
  | cons s shapes ih =>
    rw [readWords, readWords, map_cons, ih, read_not]

theorem readWords_flatMap {f : Word → Bytes} (hf : ∀ w, (f w).length = 4) (msb : Bool)
    (words : List Word) :
    readWords msb (words.map Word.shape) (words.flatMap f) =
      words.map (fun w => w.shape.read msb (f w)) := by
  induction words with
  | nil => rfl
  | cons w words ih =>
    rw [map_cons, flatMap_cons, readWords, take_left' (hf w), drop_left' (hf w),
      ih, map_cons]

variable (words : List Word)

theorem map_eq_self_iff {f : Word → Word} : words.map f = words ↔ ∀ w ∈ words, f w = w := by
  induction words with
  | nil => simp
  | cons w words ih => simp [ih]

theorem length_halfBytes (h : Half) : h.bytes.length = 2 := by
  cases h with
  | card16 v => rfl
  | card8s a b => rfl
  | card8 a => rfl
  | unused => rfl

theorem length_bytes (w : Word) : w.bytes.length = 4 := by
  cases w with
  | card32 v => rfl
  | halves p q => rw [Word.bytes, length_append, length_halfBytes, length_halfBytes]

theorem ofNat_le16 (v : UInt16) : UInt16.ofNat (readU16 false (toLeBytes16 v.toNat) 0) = v := by
  have hv := v.toNat_lt
  apply UInt16.toNat_inj.mp
  rw [UInt16.toNat_ofNat', readU16_false]
  simp only [toLeBytes16, getD_cons_zero, getD_cons_succ, UInt8.toNat_ofNat']
  omega

theorem ofNat_le32 (v : UInt32) : UInt32.ofNat (readU32 false (toLeBytes32 v.toNat) 0) = v := by
  have hv := v.toNat_lt
  apply UInt32.toNat_inj.mp
  rw [UInt32.toNat_ofNat', readU32_false, readU16_false, readU16_false]
  simp only [toLeBytes32, getD_cons_zero, getD_cons_succ, UInt8.toNat_ofNat']
  omega

theorem read_halfBytes (h : Half) (rest : Bytes) : h.shape.read false (h.bytes ++ rest) = h := by
  cases h with
  | card16 v => exact congrArg Half.card16 (ofNat_le16 v)
  | card8s a b => rfl
  | card8 a => rfl
  | unused => rfl

theorem read_bytes (w : Word) : w.shape.read false w.bytes = w := by
  cases w with
  | card32 v => exact congrArg Word.card32 (ofNat_le32 v)
  | halves p q =>
    have hdrop : (p.bytes ++ q.bytes).drop 2 = q.bytes ++ [] := by
      rw [drop_left' (length_halfBytes p), append_nil]
    rw [Word.shape, Word.bytes, WordShape.read, hdrop, read_halfBytes, read_halfBytes]

theorem halfBytes_eq (h : Half) :
    ∃ low high : UInt8, h.bytes = [low, high] ∧
      halfNumber h = low.toNat + high.toNat * 256 := by
  cases h with
  | card16 v =>
    have hv := v.toNat_lt
    refine ⟨_, _, rfl, ?_⟩
    rw [halfNumber, UInt8.toNat_ofNat', UInt8.toNat_ofNat']
    omega
  | card8s a b => exact ⟨a, b, rfl, rfl⟩
  | card8 a => exact ⟨a, 0, rfl, rfl⟩
  | unused => exact ⟨0, 0, rfl, rfl⟩

theorem read_half_iff (receiver : Bool) (h : Half) (low high : UInt8) (rest : Bytes) :
    h.shape.read receiver (high :: low :: rest) = h ↔
      HeldBy receiver (low.toNat + high.toNat * 256) h := by
  have hlow := low.toNat_lt
  have hhigh := high.toNat_lt
  have hn : (low.toNat + high.toNat * 256) / 256 = high.toNat := by omega
  have hm : (low.toNat + high.toNat * 256) % 256 = low.toNat := by omega
  cases h with
  | card16 v =>
    have hv := v.toNat_lt
    simp only [Half.shape, HalfShape.read, Half.card16.injEq, HeldBy, hn, hm]
    rw [← UInt16.toNat_inj, UInt16.toNat_ofNat']
    cases receiver with
    | true =>
      rw [readU16_true, if_pos rfl]
      simp only [getD_cons_zero, getD_cons_succ]
      omega
    | false =>
      rw [readU16_false, if_neg Bool.false_ne_true]
      simp only [getD_cons_zero, getD_cons_succ]
      omega
  | card8s a b =>
    simp only [Half.shape, HalfShape.read, Half.card8s.injEq, HeldBy, hn, hm,
      getD_cons_zero, getD_cons_succ, ← UInt8.toNat_inj, eq_comm]
  | card8 a =>
    simp only [Half.shape, HalfShape.read, Half.card8.injEq, HeldBy, hn,
      getD_cons_zero, ← UInt8.toNat_inj, eq_comm]
  | unused => exact iff_of_true rfl trivial

theorem read_reverse_card32 (receiver : Bool) (v : UInt32) :
    WordShape.card32.read receiver (toLeBytes32 v.toNat).reverse =
      .card32 (if receiver then v else swap32 v) := by
  cases receiver with
  | true => exact congrArg Word.card32 (ofNat_le32 v)
  | false =>
    refine congrArg Word.card32 ?_
    exact (readU32_not false (toLeBytes32 v.toNat)).trans (congrArg swap32 (ofNat_le32 v))

theorem read_reverse_iff (receiver : Bool) (w : Word) :
    w.shape.read receiver w.bytes.reverse = w ↔ KeptReversed receiver w := by
  cases w with
  | card32 v =>
    rw [Word.shape, Word.bytes, read_reverse_card32, KeptReversed]
    cases receiver with
    | true => simp
    | false => simp
  | halves p q =>
    obtain ⟨pl, ph, hp, hpn⟩ := halfBytes_eq p
    obtain ⟨ql, qh, hq, hqn⟩ := halfBytes_eq q
    have hrev : (p.bytes ++ q.bytes).reverse = [qh, ql, ph, pl] := by
      rw [hp, hq]
      rfl
    rw [Word.shape, Word.bytes, WordShape.read, hrev, Word.halves.injEq, KeptReversed, hpn, hqn,
      read_half_iff]
    exact and_congr_right' (read_half_iff receiver q pl ph [])

theorem swapWords_flatMap :
    swapWords (words.flatMap Word.bytes) = words.flatMap (fun w => w.bytes.reverse) := by
  induction words with
  | nil => rfl
  | cons w words ih =>
    obtain ⟨a, b, c, d, hw⟩ : ∃ a b c d, w.bytes = [a, b, c, d] := by
      cases w with
      | card32 v => exact ⟨_, _, _, _, rfl⟩
      | halves p q =>
        obtain ⟨pl, ph, hp, -⟩ := halfBytes_eq p
        obtain ⟨ql, qh, hq, -⟩ := halfBytes_eq q
        exact ⟨pl, ph, ql, qh, by rw [Word.bytes, hp, hq]; rfl⟩
    rw [flatMap_cons, flatMap_cons, hw, ← ih]
    rfl

theorem length_layout {k : Kind} {detail : UInt8} {words : List WordShape}
    (h : k.layout detail = some words) : words.length = 7 := by
  cases k with
  | clientMessage =>
    simp only [Kind.layout] at h
    split at h
    · rw [← some.inj h]
      rfl
    · split at h
      · rw [← some.inj h]
        rfl
      · split at h
        · rw [← some.inj h]
          rfl
        · simp at h
  | _ =>
    rw [← some.inj h]
    rfl

theorem length_words (h : e.LaidOut) : e.words.length = 7 := by
  obtain ⟨k, -, hk⟩ := bind_eq_some_iff.mp h
  obtain ⟨words, hwords, heq⟩ := map_eq_some_iff.mp hk
  have hlen := length_layout hwords
  rwa [(Prod.mk.inj heq).2, length_map] at hlen

theorem length_flatMap_bytes : (words.flatMap Word.bytes).length = 4 * words.length := by
  induction words with
  | nil => rfl
  | cons w words ih =>
    rw [flatMap_cons, length_append, length_bytes, ih, length_cons]
    omega

theorem headerBytes_eq (h : Header) : ∃ x y, h.bytes = [h.first, x, y] := by
  cases h with
  | sequenced detail seq => exact ⟨_, _, rfl⟩
  | keys a b c => exact ⟨b, c, rfl⟩

theorem serializeInto_eq (h : e.LaidOut) :
    e.serializeInto.length = 32 ∧ ∃ x y, e.serializeInto =
      e.responseType :: e.header.first :: x :: y :: e.words.flatMap Word.bytes := by
  obtain ⟨x, y, hhdr⟩ := headerBytes_eq e.header
  have heq : e.serializeInto =
      e.responseType :: e.header.first :: x :: y :: e.words.flatMap Word.bytes := by
    rw [Event.serializeInto, hhdr]
    rfl
  refine ⟨?_, x, y, heq⟩
  rw [heq]
  simp only [length_cons, length_flatMap_bytes, length_words h]

theorem serializeEvent_eq (h : e.LaidOut) (msb : Bool) :
    ∃ x y, serializeEvent e msb = e.responseType :: e.header.first :: x :: y ::
      e.words.flatMap (fun w => if msb then w.bytes.reverse else w.bytes) := by
  obtain ⟨hlen, x, y, heq⟩ := serializeInto_eq h
  have hbytes : e.serializeInto.take 32 ++
      List.replicate (32 - (e.serializeInto.take 32).length) 0 = e.serializeInto := by
    rw [take_of_length_le hlen.le, hlen]
    exact append_nil _
  simp only [serializeEvent, hbytes]
  cases msb with
  | false => exact ⟨x, y, heq⟩
  | true =>
    refine ⟨y, x, ?_⟩
    have hpay : (e.serializeInto.take 32).drop 4 = e.words.flatMap Word.bytes := by
      rw [take_of_length_le hlen.le, heq]
      rfl
    rw [if_pos rfl, byteswapEventInplace, if_neg (by omega), hpay, swapWords_flatMap,
      drop_of_length_le hlen.le, append_nil, heq]
    rfl

theorem clientMessage_words (h : e.LaidOut)
    (hkind : Kind.ofResponseType e.responseType = some .clientMessage)
    (hformat : e.header.first = 8) :
    ∃ (window type : UInt32) (data : List Word), e.words = .card32 window :: .card32 type :: data ∧
      ∀ w ∈ data, swapWord w = w := by
  simp only [Event.LaidOut, layoutOf, hkind, hformat, bind_some, Kind.layout, if_true,
    map_some, some.injEq, Prod.mk.injEq] at h
  obtain ⟨-, hshapes⟩ := h
  obtain ⟨w, rest, hw, hwin, hrest⟩ := map_eq_cons_iff.mp hshapes.symm
  obtain ⟨w', data, hw', htype, hdata⟩ := map_eq_cons_iff.mp hrest
  obtain ⟨window, rfl⟩ : ∃ v, w = .card32 v := by
    cases w with
    | card32 v => exact ⟨v, rfl⟩
    | halves p q => simp [Word.shape] at hwin
  obtain ⟨type, rfl⟩ : ∃ v, w' = .card32 v := by
    cases w' with
    | card32 v => exact ⟨v, rfl⟩
    | halves p q => simp [Word.shape] at htype
  refine ⟨window, type, data, by rw [hw, hw'], fun w hmem => ?_⟩
  have hshape := eq_of_mem_replicate (hdata ▸ mem_map_of_mem hmem)
  have hhalf : ∀ h : Half, h.shape = .card8s → swapHalf h = h := by
    intro h hs
    cases h with
    | card16 v => simp [Half.shape] at hs
    | _ => rfl
  cases w with
  | card32 v => simp [Word.shape] at hshape
  | halves p q =>
    obtain ⟨hp, hq⟩ := WordShape.halves.inj hshape
    rw [swapWord, hhalf p hp, hhalf q hq]

theorem serializeEventWithLayout_eq (h : e.LaidOut)
    (hkind : Kind.ofResponseType e.responseType = some .clientMessage)
    (hformat : e.header.first = 8) (msb : Bool) :
    ∃ x y payload, serializeEventWithLayout e msb clientMessageFormat8Layout =
        e.responseType :: e.header.first :: x :: y :: payload ∧
      readWords msb (e.words.map Word.shape) payload = e.words := by
  obtain ⟨hlen, x, y, heq⟩ := serializeInto_eq h
  have hread : readWords false (e.words.map Word.shape) (e.words.flatMap Word.bytes) = e.words := by
    rw [readWords_flatMap length_bytes]
    exact (map_eq_self_iff _).mpr (fun w _ => read_bytes w)
  have hbytes : e.serializeInto ++ List.replicate (32 - e.serializeInto.length) 0 =
      e.serializeInto := by
    rw [hlen]
    exact append_nil _
  simp only [serializeEventWithLayout, hbytes]
  cases msb with
  | false => exact ⟨x, y, _, heq, hread⟩
  | true =>
    obtain ⟨window, type, data, hwords, hdata⟩ := clientMessage_words h hkind hformat
    refine ⟨y, x, (toLeBytes32 window.toNat).reverse ++ ((toLeBytes32 type.toNat).reverse ++
      data.flatMap Word.bytes), ?_, ?_⟩
    · rw [if_pos rfl, heq, hwords]
      rfl
    · have hbytes : readWords true (data.map Word.shape) (data.flatMap Word.bytes) = data := by
        rw [readWords_flatMap length_bytes]
        refine (map_eq_self_iff _).mpr (fun w hw => ?_)
        rw [← Bool.not_false, read_not, read_bytes, hdata w hw]
      rw [hwords]
      simp only [map_cons, Word.shape, readWords]
      rw [take_left' (by rfl), drop_left' (by rfl), take_left' (by rfl),
        drop_left' (by rfl), read_reverse_card32, read_reverse_card32, hbytes, if_pos rfl,
        if_pos rfl]

theorem sequenceBytes_eq (receiver : Bool) (seq : UInt16) :
    ∃ x y : UInt8, toClientBytes receiver (toLeBytes16 seq.toNat) = [x, y] ∧
      (∀ b c : UInt8, (x = b ∧ y = c) ↔
        if receiver then b.toNat * 256 + c.toNat = seq.toNat
        else c.toNat * 256 + b.toNat = seq.toNat) ∧
      UInt16.ofNat (readU16 receiver [x, y] 0) = seq := by
  have hs := seq.toNat_lt
  have hspl : ∀ b c : UInt8, (UInt8.ofNat seq.toNat = b ∧ UInt8.ofNat (seq.toNat / 2 ^ 8) = c) ↔
      c.toNat * 256 + b.toNat = seq.toNat := by
    intro b c
    have hb := b.toNat_lt
    have hc := c.toNat_lt
    rw [← UInt8.toNat_inj, ← UInt8.toNat_inj, UInt8.toNat_ofNat', UInt8.toNat_ofNat']
    omega
  cases receiver with
  | true =>
    refine ⟨_, _, rfl, fun b c => ?_, ofNat_le16 seq⟩
    rw [and_comm, hspl, if_pos rfl]
  | false =>
    refine ⟨_, _, rfl, fun b c => ?_, ofNat_le16 seq⟩
    rw [hspl, if_neg Bool.false_ne_true]

theorem decode_patchSequence_iff (h : e.LaidOut) (receiver : Bool) (seq : UInt16) (x y : UInt8)
    (payload : Bytes) :
    decode receiver (patchSequence receiver seq
        (e.responseType :: e.header.first :: x :: y :: payload)) = some (withSequence seq e) ↔
      KeepsHeader receiver seq e.header ∧
        readWords receiver (e.words.map Word.shape) payload = e.words := by
  obtain ⟨s, s', hbytes, hiff, hread⟩ := sequenceBytes_eq receiver seq
  have hpatch : patchSequence receiver seq
      (e.responseType :: e.header.first :: x :: y :: payload) =
      e.responseType :: e.header.first :: s :: s' :: payload := by
    rw [patchSequence, if_pos (by simp), hbytes]
    rfl
  rw [hpatch, decode, h, map_some, some.injEq]
  obtain ⟨t, header, words⟩ := e
  cases header with
  | sequenced detail old =>
    simp [withSequence, KeepsHeader, readHeader, Header.first, Header.hasSequence, hread]
  | keys a b c =>
    rw [KeepsHeader, ← hiff b c]
    simp [withSequence, readHeader, Header.first, Header.hasSequence]

theorem map_shape_readWords (msb : Bool) (shapes : List WordShape) (b : Bytes) :
    (readWords msb shapes b).map Word.shape = shapes := by
  have hhalf : ∀ (s : HalfShape) (b : Bytes), (s.read msb b).shape = s := by
    intro s b
    cases s with
    | _ => rfl
  induction shapes generalizing b with
  | nil => rfl
  | cons s shapes ih =>
    rw [readWords, map_cons, ih]
    cases s with
    | card32 => rfl
    | halves p q => rw [WordShape.read, Word.shape, hhalf, hhalf]

theorem laidOut_of_decode (h : decode msb b = some e) :
    e.LaidOut ∧ ∃ x y payload, b = e.responseType :: e.header.first :: x :: y :: payload ∧
      readWords msb (e.words.map Word.shape) payload = e.words := by
  match b, h with
  | t :: a :: x :: y :: payload, h =>
    obtain ⟨⟨sequenced, shapes⟩, hlayout, rfl⟩ := map_eq_some_iff.mp h
    have hfst : (readHeader msb sequenced a x y).first = a := by
      cases sequenced with
      | _ => rfl
    have hsequenced : (readHeader msb sequenced a x y).hasSequence = sequenced := by
      cases sequenced with
      | _ => rfl
    refine ⟨?_, x, y, payload, ?_, ?_⟩
    · rw [Event.LaidOut, hfst, hsequenced, map_shape_readWords]
      exact hlayout
    · rw [hfst]
    · rw [map_shape_readWords]

/-- What the sender hands to a route: its own type and detail, a sequence number,
and words that some receiver can read. -/
theorem outgoing_eq {origin : Origin} {out : Bytes} (h : Outgoing sender origin e out) :
    e.LaidOut ∧ ∃ x y payload, out = e.responseType :: e.header.first :: x :: y :: payload ∧
      ∀ receiver, readWords receiver (e.words.map Word.shape) payload = e.words ↔
        Readable origin sender receiver e := by
  -- bytes in the sender's order are read in it, and by the others with fields turned round
  have hdirect : ∀ {payload : Bytes},
      readWords sender (e.words.map Word.shape) payload = e.words → ∀ receiver,
      readWords receiver (e.words.map Word.shape) payload = e.words ↔
        (sender = receiver ∨ ∀ w ∈ e.words, swapWord w = w) := by
    intro payload hread receiver
    by_cases hsame : sender = receiver
    · subst hsame
      exact iff_of_true hread (.inl rfl)
    · have hnot : receiver = !sender := Bool.eq_not.mpr (Ne.symm hsame)
      rw [hnot, readWords_not, hread, map_eq_self_iff]
      simp [Ne.symm]
  cases h with
  | serialized hlaid =>
    obtain ⟨x, y, heq⟩ := serializeEvent_eq hlaid sender
    refine ⟨hlaid, x, y, _, heq, ?_⟩
    cases sender with
    | true =>
      intro receiver
      simp only [Readable, if_true, and_self]
      rw [readWords_flatMap (by simp [length_bytes]), map_eq_self_iff]
      simp only [read_reverse_iff]
    | false =>
      simp only [Readable, Bool.false_eq_true, and_false, if_false]
      apply hdirect
      rw [readWords_flatMap length_bytes]
      exact (map_eq_self_iff _).mpr (fun w _ => read_bytes w)
  | laidOut hlaid hkind hformat =>
    obtain ⟨x, y, payload, heq, hread⟩ := serializeEventWithLayout_eq hlaid hkind hformat sender
    refine ⟨hlaid, x, y, payload, heq, ?_⟩
    simp only [Readable, reduceCtorEq, false_and, if_false]
    exact hdirect hread
  | sent hlen hdecode =>
    obtain ⟨hlaid, x, y, payload, heq, hread⟩ := laidOut_of_decode hdecode
    refine ⟨hlaid, x, y, payload, heq, ?_⟩
    simp only [Readable, reduceCtorEq, false_and, if_false]
    exact hdirect hread

/-- A client reads an event of another one right exactly if its fields do not
depend on the byte order, or the two have one order and no word was turned round
as a whole that holds smaller fields. -/
theorem deliver_arrives_iff (origin : Origin) (sender receiver : Bool) (e : Event) (out : Bytes)
    (hout : Outgoing sender origin e out) (sh : Shared) (route : Route) (client : ClientId)
    (event : Bytes) (hmem : (client, event) ∈ route.deliver sh out) (seq : UInt16) :
    Arrives sender receiver seq e out (patchSequence receiver seq event) ↔
      KeepsHeader receiver seq e.header ∧ Readable origin sender receiver e := by
  obtain rfl := Route.eq_of_mem_deliver hmem
  obtain ⟨hlaid, x, y, payload, rfl, hread⟩ := outgoing_eq hout
  rw [← hread, ← decode_patchSequence_iff hlaid receiver seq x y payload]
  constructor
  · exact Arrives.decoded
  · intro hdecoded
    refine ⟨hdecoded, fun _ => ?_⟩
    obtain ⟨s, s', hbytes, -, -⟩ := sequenceBytes_eq receiver seq
    rw [patchSequence, if_pos (by simp), hbytes]
    exact ⟨rfl, rfl⟩

/-- A ConfigureNotify of a window at (10, 20), 640 by 480. -/
def configured : Event :=
  ⟨22, .sequenced 0 7, [.card32 0x400001, .card32 0x400001, .card32 0,
    .halves (.card16 10) (.card16 20), .halves (.card16 640) (.card16 480),
    .halves (.card16 0) (.card8 0), .halves .unused .unused]⟩

/-- Two clients that are both LSB-first. -/
theorem deliver_arrives_little : Arrives false false 9 configured (serializeEvent configured false)
    (patchSequence false 9 (serializeEvent configured false)) :=
  (deliver_arrives_iff .serialized false false configured _ (.serialized (by decide))
    (initialShared (fun _ => ∅) ∅) (.selection 2) 2 _ (mem_singleton.mpr rfl) 9).mpr
    ⟨trivial, .inl rfl⟩

/-- Between two MSB-first clients, x and y change places, and width and height. -/
theorem configured_turned_round :
    ¬ ∀ (origin : Origin) (sender receiver : Bool) (e : Event) (out : Bytes),
      Outgoing sender origin e out →
      ∀ (sh : Shared) (route : Route) (client : ClientId) (event : Bytes),
      (client, event) ∈ route.deliver sh out →
      ∀ seq : UInt16, Arrives sender receiver seq e out (patchSequence receiver seq event) := by
  intro h
  have harrives := h .serialized true true configured _ (.serialized (by decide))
    (initialShared (fun _ => ∅) ∅) (.selection 2) 2 _ (mem_singleton.mpr rfl) 9
  have hdecoded := harrives.decoded
  revert hdecoded
  decide +kernel

end X11Web.EventOrder
