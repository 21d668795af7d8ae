import X11Web.ByteLayouts
import X11Web.EventOrder
import Mathlib

namespace X11Web.EventFields

open Windows Framing EventWire EventOrder ByteLayouts List

inductive FieldKind
  | card8 | bool | card16 | int16 | card32 | unused
deriving DecidableEq

inductive Field
  | card8 (v : UInt8)
  | bool (v : Bool)
  | card16 (v : UInt16)
  | int16 (v : Int16)
  | card32 (v : UInt32)
  | unused
deriving DecidableEq

def FieldKind.size : FieldKind → Nat
  | .card8 | .bool | .unused => 1
  | .card16 | .int16 => 2
  | .card32 => 4

def Field.kind : Field → FieldKind
  | .card8 _ => .card8
  | .bool _ => .bool
  | .card16 _ => .card16
  | .int16 _ => .int16
  | .card32 _ => .card32
  | .unused => .unused

/-- A field as the protocol library writes it, in the order of the machine. -/
def Field.bytes : Field → Bytes
  | .card8 v => [v]
  | .bool v => [if v then 1 else 0]
  | .card16 v => toLeBytes16 v.toNat
  | .int16 v => toLeBytes16 v.toUInt16.toNat
  | .card32 v => toLeBytes32 v.toNat
  | .unused => [0]

/-- The field at `off`, in the byte order of a client. -/
def FieldKind.read (msb : Bool) (b : Bytes) (off : Nat) : FieldKind → Field
  | .card8 => .card8 (b.getD off 0)
  | .bool => .bool (b.getD off 0 != 0)
  | .card16 => .card16 (UInt16.ofNat (readU16 msb b off))
  | .int16 => .int16 (UInt16.ofNat (readU16 msb b off)).toInt16
  | .card32 => .card32 (UInt32.ofNat (readU32 msb b off))
  | .unused => .unused

def Aligned : Nat → List FieldKind → Prop
  | _, [] => True
  | off, k :: kinds => off % k.size = 0 ∧ Aligned (off + k.size) kinds

def Aligned.decide : (off : Nat) → (kinds : List FieldKind) → Decidable (Aligned off kinds)
  | _, [] => isTrue trivial
  | off, k :: kinds =>
    @instDecidableAnd _ _ (inferInstanceAs (Decidable (off % k.size = 0))) (Aligned.decide (off + k.size) kinds)

instance (off : Nat) (kinds : List FieldKind) : Decidable (Aligned off kinds) := Aligned.decide off kinds

/-- An event with the fields of its struct, the type of the event first. -/
structure Event where
  fields : List Field
  typed : (fields.map Field.kind).head? = some .card8
  aligned : Aligned 0 (fields.map Field.kind)
  fits : ((fields.map Field.kind).map FieldKind.size).sum ≤ 32

def Event.kinds (e : Event) : List FieldKind := e.fields.map Field.kind

def Event.serializeInto (e : Event) : Bytes := e.fields.flatMap Field.bytes

/-- What `serialize_event` makes of the bytes of an event. -/
def serializeBytes (data : Bytes) (msb : Bool) : Bytes :=
  let bytes := data.take 32 ++ List.replicate (32 - (data.take 32).length) 0
  if msb then byteswapEventInplace bytes else bytes

def serializeEvent (e : Event) (msb : Bool) : Bytes := serializeBytes e.serializeInto msb

/-- What a client of the given byte order reads, field after field. -/
def decodeFrom (msb : Bool) (b : Bytes) : Nat → List FieldKind → List Field
  | _, [] => []
  | off, k :: kinds => k.read msb b off :: decodeFrom msb b (off + k.size) kinds

def decode (msb : Bool) (kinds : List FieldKind) (b : Bytes) : List Field := decodeFrom msb b 0 kinds

def placed : Nat → List Field → List (Nat × Field)
  | _, [] => []
  | off, f :: fields => (off, f) :: placed (off + f.kind.size) fields

/-- The place whose bytes come to stand at `off`: that on the other side of the
middle of the sequence number or of the word. -/
def mirror (size off : Nat) : Nat :=
  if off < 2 then off
  else if off < 4 then 6 - size - off
  else off / 4 * 4 + (4 - size - off % 4)

/-- The field says what the bytes of the event in the mirrored place say. -/
def Symmetric (data : Bytes) (off : Nat) (f : Field) : Prop :=
  f.kind.read false data (mirror f.kind.size off) = f

variable {b : Bytes} {off i : Nat}

theorem getD_swapWords (b : Bytes) (i : Nat) (hi : i / 4 * 4 + 4 ≤ b.length) :
    (swapWords b).getD i 0 = b.getD (i / 4 * 4 + (3 - i % 4)) 0 := by
  match b with
  | a :: b :: c :: d :: rest =>
    have hwords : swapWords (a :: b :: c :: d :: rest) = d :: c :: b :: a :: swapWords rest := rfl
    rw [hwords]
    match i with
    | 0 | 1 | 2 | 3 => rfl
    | i + 4 =>
      have hdiv : (i + 4) / 4 * 4 = i / 4 * 4 + 4 := by omega
      have hmod : (i + 4) % 4 = i % 4 := by omega
      rw [hdiv] at hi
      have hnext := getD_swapWords rest i (by simp only [length_cons] at hi; omega)
      rw [hdiv, hmod, show i / 4 * 4 + 4 + (3 - i % 4) = (i / 4 * 4 + (3 - i % 4)) + 4 by omega]
      simpa only [getD_cons_succ] using hnext
  | [] | [_] | [_, _] | [_, _, _] =>
    simp only [length_nil, length_cons] at hi
    omega

theorem getD_byteswapEventInplace (hb : b.length = 32) (hi : i < 32) :
    (byteswapEventInplace b).getD i 0 = b.getD (mirror 1 i) 0 := by
  obtain ⟨a, c, x, y, rest, rfl⟩ : ∃ a c x y rest, b = a :: c :: x :: y :: rest :=
    match b, hb with
    | a :: c :: x :: y :: rest, _ => ⟨a, c, x, y, rest, rfl⟩
  have hrest : rest.length = 28 := by simpa using hb
  have heq : byteswapEventInplace (a :: c :: x :: y :: rest) = a :: c :: y :: x :: swapWords rest := by
    have htake : (a :: c :: x :: y :: rest).take 32 = a :: c :: x :: y :: rest :=
      take_of_length_le (Nat.le_of_eq hb)
    have hdrop : (a :: c :: x :: y :: rest).drop 32 = [] := drop_of_length_le (Nat.le_of_eq hb)
    rw [byteswapEventInplace, if_neg (by omega), htake, hdrop, append_nil]
    rfl
  rw [heq]
  by_cases hlow : i < 4
  · interval_cases i <;> rfl
  · obtain ⟨i, rfl⟩ := Nat.exists_eq_add_of_le' (Nat.not_lt.mp hlow)
    have hdiv : (i + 4) / 4 * 4 = i / 4 * 4 + 4 := by omega
    have hmir : mirror 1 (i + 4) = i / 4 * 4 + (3 - i % 4) + 4 := by
      rw [mirror, if_neg (by omega), if_neg (by omega)]
      omega
    rw [hmir]
    simpa only [getD_cons_succ] using getD_swapWords rest i (by omega)

theorem readU16_swapped (hb : b.length = 32) (hoff : off + 2 ≤ 32) (heven : off % 2 = 0) (hpos : 2 ≤ off) :
    readU16 true (byteswapEventInplace b) off = readU16 false b (mirror 2 off) := by
  have hhigh : mirror 1 off = mirror 2 off + 1 := by
    unfold mirror
    split_ifs <;> omega
  have hlow : mirror 1 (off + 1) = mirror 2 off := by
    unfold mirror
    split_ifs <;> omega
  rw [readU16_true, readU16_false, getD_byteswapEventInplace hb (by omega),
    getD_byteswapEventInplace hb (by omega), hhigh, hlow]

theorem readU32_swapped (hb : b.length = 32) (hoff : off + 4 ≤ 32) (hword : off % 4 = 0) (hpos : 2 ≤ off) :
    readU32 true (byteswapEventInplace b) off = readU32 false b (mirror 4 off) := by
  have hfour : mirror 4 off = off := by
    unfold mirror
    split_ifs <;> omega
  have hleft : mirror 2 off = off + 2 := by
    unfold mirror
    split_ifs <;> omega
  have hright : mirror 2 (off + 2) = off := by
    unfold mirror
    split_ifs <;> omega
  have htrue : readU32 true (byteswapEventInplace b) off =
      readU16 true (byteswapEventInplace b) off * 65536 + readU16 true (byteswapEventInplace b) (off + 2) := rfl
  rw [htrue, readU16_swapped hb (by omega) (by omega) hpos, readU16_swapped hb (by omega) (by omega) (by omega),
    hfour, hleft, hright, readU32_false]

theorem read_swapped (hb : b.length = 32) (k : FieldKind) (hoff : off + k.size ≤ 32) (haligned : off % k.size = 0)
    (hhead : off < 2 → k.size = 1) :
    k.read true (byteswapEventInplace b) off = k.read false b (mirror k.size off) := by
  have hpos : k.size ≠ 1 → 2 ≤ off := by
    intro hne
    by_contra hlt
    exact hne (hhead (by omega))
  cases k with
  | card8 => exact congrArg Field.card8 (getD_byteswapEventInplace hb hoff)
  | bool => exact congrArg (fun v : UInt8 => Field.bool (v != 0)) (getD_byteswapEventInplace hb hoff)
  | card16 =>
    exact congrArg (fun n => Field.card16 (UInt16.ofNat n)) (readU16_swapped hb hoff haligned (hpos (by decide)))
  | int16 =>
    exact congrArg (fun n => Field.int16 (UInt16.ofNat n).toInt16)
      (readU16_swapped hb hoff haligned (hpos (by decide)))
  | card32 =>
    exact congrArg (fun n => Field.card32 (UInt32.ofNat n)) (readU32_swapped hb hoff haligned (hpos (by decide)))
  | unused => rfl

theorem read_padded (k : FieldKind) (data : Bytes) (n off : Nat) :
    k.read false (data ++ List.replicate n 0) off = k.read false data off := by
  have hget : ∀ i, (data ++ List.replicate n 0).getD i 0 = data.getD i 0 := by
    intro i
    by_cases hi : i < data.length
    · rw [getD_append _ _ _ _ hi]
    · have hout : data.getD i 0 = 0 := getD_eq_default _ _ (Nat.not_lt.mp hi)
      rw [getD_append_right _ _ _ _ (Nat.not_lt.mp hi), hout, getD_eq_getElem?_getD]
      exact List.getElem?_getD_replicate_default_eq _ _ _
  cases k <;> simp only [FieldKind.read, readU32_false, readU16_false, hget]

theorem readU16_of_holds {n : Nat} (h : Holds b off (toLeBytes16 n)) (hn : n < 65536) : readU16 false b off = n := by
  have hlow : b.getD off 0 = UInt8.ofNat n := h.getD (j := 0) (show (0 : Nat) < 2 by decide) 0
  have hhigh : b.getD (off + 1) 0 = UInt8.ofNat (n / 2 ^ 8) := h.getD (j := 1) (show (1 : Nat) < 2 by decide) 0
  rw [readU16_false, hlow, hhigh, UInt8.toNat_ofNat', UInt8.toNat_ofNat']
  omega

theorem readU32_of_holds {n : Nat} (h : Holds b off (toLeBytes32 n)) (hn : n < 4294967296) :
    readU32 false b off = n := by
  have h0 : b.getD off 0 = UInt8.ofNat n := h.getD (j := 0) (show (0 : Nat) < 4 by decide) 0
  have h1 : b.getD (off + 1) 0 = UInt8.ofNat (n / 2 ^ 8) := h.getD (j := 1) (show (1 : Nat) < 4 by decide) 0
  have h2 : b.getD (off + 2) 0 = UInt8.ofNat (n / 2 ^ 16) := h.getD (j := 2) (show (2 : Nat) < 4 by decide) 0
  have h3 : b.getD (off + 3) 0 = UInt8.ofNat (n / 2 ^ 24) := h.getD (j := 3) (show (3 : Nat) < 4 by decide) 0
  rw [readU32_false, readU16_false, readU16_false, h0, h1, h2, h3]
  simp only [UInt8.toNat_ofNat']
  omega

theorem read_of_holds (f : Field) (h : Holds b off f.bytes) : f.kind.read false b off = f := by
  cases f with
  | card8 v => exact congrArg Field.card8 (h.getD (j := 0) (show (0 : Nat) < 1 by decide) 0)
  | bool v =>
    have hbyte : b.getD off 0 = if v then 1 else 0 := h.getD (j := 0) (show (0 : Nat) < 1 by decide) 0
    rw [Field.kind, FieldKind.read, hbyte]
    cases v <;> rfl
  | card16 v =>
    rw [Field.kind, FieldKind.read, readU16_of_holds h v.toNat_lt, UInt16.ofNat_toNat]
  | int16 v =>
    rw [Field.kind, FieldKind.read, readU16_of_holds h v.toUInt16.toNat_lt, UInt16.ofNat_toNat]
    rfl
  | card32 v =>
    rw [Field.kind, FieldKind.read, readU32_of_holds h v.toNat_lt, UInt32.ofNat_toNat]
  | unused => rfl

theorem length_bytes (f : Field) : f.bytes.length = f.kind.size := by
  cases f <;> rfl

theorem decodeFrom_of_holds (fields : List Field) (h : Holds b off (fields.flatMap Field.bytes)) :
    decodeFrom false b off (fields.map Field.kind) = fields := by
  induction fields generalizing off with
  | nil => rfl
  | cons f fields ih =>
    rw [flatMap_cons] at h
    have hrest := h.right
    rw [length_bytes] at hrest
    rw [map_cons, decodeFrom, read_of_holds f h.left, ih hrest]

theorem size_pos (k : FieldKind) : 0 < k.size := by
  cases k <;> decide

theorem size_of_odd {k : FieldKind} (h : 1 % k.size = 0) : k.size = 1 := by
  revert h
  cases k <;> decide

theorem decodeFrom_swapped_iff {data : Bytes} (hb : b.length = 32)
    (hread : ∀ (k : FieldKind) (i : Nat), k.read false b i = k.read false data i) (fields : List Field)
    (haligned : Aligned off (fields.map Field.kind))
    (htyped : off = 0 → (fields.map Field.kind).head? = some .card8)
    (hfits : off + ((fields.map Field.kind).map FieldKind.size).sum ≤ 32) :
    decodeFrom true (byteswapEventInplace b) off (fields.map Field.kind) = fields ↔
      ∀ p ∈ placed off fields, Symmetric data p.1 p.2 := by
  induction fields generalizing off with
  | nil => simp [decodeFrom, placed]
  | cons f fields ih =>
    obtain ⟨hoff, hrest⟩ := haligned
    rw [map_cons, map_cons, sum_cons] at hfits
    have hhead : off < 2 → f.kind.size = 1 := by
      intro hlt
      by_cases hzero : off = 0
      · have hkind := htyped hzero
        rw [map_cons, List.head?_cons, Option.some.injEq] at hkind
        rw [hkind]
        rfl
      · obtain rfl : off = 1 := by omega
        exact size_of_odd hoff
    have hpos := size_pos f.kind
    rw [map_cons, decodeFrom, placed, List.cons.injEq, forall_mem_cons,
      ih hrest (fun h => absurd h (by omega)) (by omega),
      read_swapped hb f.kind (by omega) hoff hhead, hread]
    rfl

theorem length_serializeInto (e : Event) : e.serializeInto.length ≤ 32 := by
  have hlen : e.serializeInto.length = ((e.fields.map Field.kind).map FieldKind.size).sum := by
    rw [Event.serializeInto, length_flatMap, map_map]
    exact congrArg List.sum (map_congr_left (fun f _ => length_bytes f))
  exact hlen ▸ e.fits

theorem serializeEvent_false (e : Event) :
    serializeEvent e false = e.serializeInto ++ List.replicate (32 - e.serializeInto.length) 0 := by
  rw [serializeEvent, serializeBytes, take_of_length_le (length_serializeInto e)]
  rfl

theorem decode_little (e : Event) : decode false e.kinds (serializeEvent e false) = e.fields := by
  refine decodeFrom_of_holds e.fields ?_
  intro j hj
  rw [serializeEvent_false, Nat.zero_add]
  exact List.getElem?_append_left hj

/-- A big-endian client reads what was meant exactly if every field is what
stands in the mirrored place of its word. -/
theorem decode_big_iff (e : Event) :
    decode true e.kinds (serializeEvent e true) = decode false e.kinds (serializeEvent e false) ↔
      ∀ p ∈ placed 0 e.fields, Symmetric e.serializeInto p.1 p.2 := by
  have hlen := length_serializeInto e
  rw [decode_little]
  have htrue : serializeEvent e true = byteswapEventInplace (serializeEvent e false) := rfl
  rw [htrue]
  refine decodeFrom_swapped_iff ?_ ?_ e.fields e.aligned (fun _ => e.typed) ?_
  · rw [serializeEvent_false, length_append, length_replicate]
    omega
  · intro k i
    rw [serializeEvent_false, read_padded]
  · rw [Nat.zero_add]
    exact e.fits

/-- A KeyPress with the pointer at (100, 200) of the root window. -/
def keyPressed : Event where
  fields := [.card8 2, .card8 38, .card16 7, .card32 5000, .card32 0x65, .card32 0x400001, .card32 0,
    .int16 100, .int16 200, .int16 10, .int16 20, .card16 0, .bool true, .unused]
  typed := by decide
  aligned := by decide
  fits := by decide

/-- The big-endian client finds the pointer at (200, 100). -/
theorem keyPressed_turned_round :
    ¬ ∀ e : Event,
      decode true e.kinds (serializeEvent e true) = decode false e.kinds (serializeEvent e false) := by
  intro h
  have hread := h keyPressed
  revert hread
  decide +kernel

end X11Web.EventFields
