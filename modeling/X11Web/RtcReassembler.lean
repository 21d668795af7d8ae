import X11Web.EventOrder
import X11Web.RtcDriver

namespace X11Web.RtcReassembler

open HashMaps Windows Framing EventOrder Overwrites List
open RtcDriver

structure PartialMessage where
  chunks : List (Option Bytes)
  received : Nat
  total : Nat
deriving DecidableEq

structure Reassembler where
  latestSeen : Option UInt32
  partials : HashMap UInt32 PartialMessage

def Reassembler.new : Reassembler := ⟨none, ∅⟩

/-- Serial number order: the distance from `a` up to `b` is less than half of all. -/
def isStrictlyOlder (a b : UInt32) : Bool := a != b && decide ((b - a).toNat < 2 ^ 31)

def isStrictlyNewer (a b : UInt32) : Bool := isStrictlyOlder b a

/-- Move on to a newer message: what is left of older ones is dropped. -/
def noteMessage (msgId : UInt32) (r : Reassembler) : Reassembler :=
  if r.latestSeen.all (fun latest => isStrictlyNewer msgId latest) then
    ⟨some msgId, retain (fun id _ => !isStrictlyOlder id msgId) r.partials⟩
  else r

/-- Enter a chunk in its message, and put the message together once all have come. -/
def storeChunk (msgId : UInt32) (chunkIdx : Nat) (payload : Bytes) (state : PartialMessage)
    (r : Reassembler) : Reassembler × Option Bytes :=
  if (state.chunks.getD chunkIdx none).isSome then
    ({ r with partials := r.partials.insert msgId state }, none)
  else
    let state' : PartialMessage :=
      ⟨state.chunks.set chunkIdx (some payload), state.received + 1, state.total⟩
    if state'.received < state'.total ∨ none ∈ state'.chunks then
      ({ r with partials := r.partials.insert msgId state' }, none)
    else ({ r with partials := r.partials.erase msgId }, some (state'.chunks.filterMap id).flatten)

def onChunk (buf : Bytes) (r : Reassembler) : Reassembler × Option Bytes :=
  if buf.length < headerBytes then (r, none)
  else
    let msgId := UInt32.ofNat (readU32 false buf 0)
    let chunkIdx := readU16 false buf 4
    let totalChunks := readU16 false buf 6
    let payload := buf.drop headerBytes
    if totalChunks = 0 ∨ totalChunks ≤ chunkIdx then (r, none)
    else if r.latestSeen.any (fun latest => isStrictlyOlder msgId latest) then (r, none)
    else
      let noted := noteMessage msgId r
      match noted.partials.lookup msgId with
      | none => storeChunk msgId chunkIdx payload ⟨List.replicate totalChunks none, 0, totalChunks⟩ noted
      | some state =>
        if state.total ≠ totalChunks then
          ({ noted with partials := noted.partials.erase msgId }, none)
        else storeChunk msgId chunkIdx payload state noted

def collected (total : Nat) (got : List Bytes) : PartialMessage :=
  ⟨got.map some ++ List.replicate (total - got.length) none, got.length, total⟩

/-- The receiver has seen no chunk of the message `k` and takes it for a newer one. -/
structure Awaits (r : Reassembler) (k : UInt32) : Prop where
  latest : ∀ latest, r.latestSeen = some latest → isStrictlyOlder latest k = true
  older : ∀ id, id ∈ r.partials → isStrictlyOlder id k = true

/-- The receiver has the first chunks of the message `k`, and nothing else. -/
structure Collects (r : Reassembler) (k : UInt32) (total : Nat) (got : List Bytes) : Prop where
  latest : r.latestSeen = some k
  partials : ∀ id, r.partials.lookup id = if id = k then some (collected total got) else none

structure Completed (r : Reassembler) (k : UInt32) : Prop where
  latest : r.latestSeen = some k
  partials : ∀ id, r.partials.lookup id = none

variable {r : Reassembler} {k : UInt32} {total : Nat} {got : List Bytes}

theorem length_makeChunk (k : UInt32) (idx total : UInt16) (part : Bytes) :
    (makeChunk k idx total part).length = headerBytes + part.length := by
  simp only [makeChunk, toLeBytes32, toLeBytes16, length_append, length_cons,
    length_nil, headerBytes]

theorem readU16_toNat (v : UInt16) (pre post : Bytes) :
    readU16 false (pre ++ toLeBytes16 v.toNat ++ post) pre.length = v.toNat := by
  have hv := v.toNat_lt
  rw [readU16_false]
  simp only [toLeBytes16, append_assoc, cons_append, nil_append,
    getD_eq_getElem?_getD]
  rw [List.getElem?_append_right (by omega), List.getElem?_append_right (by omega)]
  simp only [Nat.sub_self, Nat.add_sub_cancel_left, List.getElem?_cons_zero, List.getElem?_cons_succ,
    Option.getD_some, UInt8.toNat_ofNat']
  omega

theorem makeChunk_header (k : UInt32) (idx total : UInt16) (part : Bytes) :
    UInt32.ofNat (readU32 false (makeChunk k idx total part) 0) = k ∧
      readU16 false (makeChunk k idx total part) 4 = idx.toNat ∧
      readU16 false (makeChunk k idx total part) 6 = total.toNat ∧
      (makeChunk k idx total part).drop headerBytes = part := by
  have hid : UInt32.ofNat (readU32 false (makeChunk k idx total part) 0) = k := by
    rw [makeChunk, append_assoc, append_assoc, readU32_append _ (by simp [toLeBytes32])]
    exact ofNat_le32 k
  refine ⟨hid, ?_, ?_, rfl⟩
  · have := readU16_toNat idx (toLeBytes32 k.toNat) (toLeBytes16 total.toNat ++ part)
    simpa [makeChunk, toLeBytes32] using this
  · have := readU16_toNat total (toLeBytes32 k.toNat ++ toLeBytes16 idx.toNat) part
    simpa [makeChunk, toLeBytes32, toLeBytes16] using this

def Expects (r : Reassembler) (k : UInt32) (total : Nat) (got : List Bytes) : Prop :=
  (got = [] ∧ Awaits r k) ∨ (got ≠ [] ∧ Collects r k total got)

theorem set_collected (got : List Bytes) (part : Bytes) (n : Nat) :
    (got.map some ++ List.replicate (n + 1) none).set got.length (some part) =
      (got ++ [part]).map some ++ List.replicate n none := by
  rw [set_append_right _ _ (by simp)]
  simp [replicate_succ]

theorem storeChunk_collected (hlatest : r.latestSeen = some k)
    (hoths : ∀ id, id ≠ k → r.partials.lookup id = none) (hlt : got.length < total) (part : Bytes) :
    (got.length + 1 < total →
      (storeChunk k got.length part (collected total got) r).2 = none ∧
        Collects (storeChunk k got.length part (collected total got) r).1 k total (got ++ [part])) ∧
    (got.length + 1 = total →
      (storeChunk k got.length part (collected total got) r).2 = some (got ++ [part]).flatten ∧
        Completed (storeChunk k got.length part (collected total got) r).1 k) := by
  obtain ⟨n, rfl⟩ : ∃ n, total = got.length + (n + 1) := ⟨total - got.length - 1, by omega⟩
  have hfree : ((collected (got.length + (n + 1)) got).chunks.getD got.length none).isSome = false := by
    simp [collected]
  have hchks : (collected (got.length + (n + 1)) got).chunks.set got.length (some part) =
      (got ++ [part]).map some ++ List.replicate n none := by
    rw [collected, Nat.add_sub_cancel_left]
    exact set_collected got part n
  rw [storeChunk, hfree]
  simp only [Bool.false_eq_true, if_false, hchks]
  constructor
  · intro hmore
    rw [if_pos (Or.inl (by simpa [collected] using hmore))]
    refine ⟨rfl, hlatest, fun id => ?_⟩
    rw [lookup_insert_eq]
    by_cases hid : id = k
    · subst hid
      simp only [if_true, Option.some.injEq, collected, length_append, length_singleton,
        PartialMessage.mk.injEq, and_true]
      rw [show got.length + (n + 1) - (got.length + 1) = n by omega]
    · simp [hid, hoths id hid]
  · intro hlast
    obtain rfl : n = 0 := by omega
    have hall : ¬((collected (got.length + (0 + 1)) got).received + 1 <
        (collected (got.length + (0 + 1)) got).total ∨
          none ∈ (got ++ [part]).map some ++ List.replicate 0 none) := by
      simp [collected]
    rw [if_neg hall]
    refine ⟨by simp [filterMap_append], hlatest, fun id => ?_⟩
    rw [lookup_erase_eq]
    by_cases hid : id = k
    · simp [hid]
    · simp [hid, hoths id hid]

theorem Awaits.noteMessage (h : Awaits r k) :
    noteMessage k r = ⟨some k, (noteMessage k r).partials⟩ ∧
      ∀ id, (noteMessage k r).partials.lookup id = none := by
  have hnewer : r.latestSeen.all (fun latest => isStrictlyNewer k latest) = true := by
    rw [Option.all_eq_true]
    exact h.latest
  rw [RtcReassembler.noteMessage, if_pos hnewer]
  refine ⟨rfl, fun id => ?_⟩
  rw [lookup_retain, Option.filter_eq_none_iff]
  intro pm hpm
  simp [h.older id (Finmap.lookup_isSome.mp (by simp [hpm]))]

theorem isStrictlyOlder_irrefl (a : UInt32) : isStrictlyOlder a a = false := by
  simp [isStrictlyOlder]

theorem isStrictlyOlder_asymm {a b : UInt32} (h : isStrictlyOlder a b = true) :
    isStrictlyOlder b a = false := by
  simp only [isStrictlyOlder, Bool.and_eq_true, bne_iff_ne, decide_eq_true_eq] at h
  obtain ⟨hne, hlt⟩ := h
  have hsum : (b - a).toNat + (a - b).toNat = 2 ^ 32 := by
    have ha := a.toNat_lt
    have hb := b.toNat_lt
    have hne' : a.toNat ≠ b.toNat := fun h => hne (UInt32.toNat_inj.mp h)
    rw [UInt32.toNat_sub, UInt32.toNat_sub]
    omega
  simp only [isStrictlyOlder, Bool.and_eq_false_iff, decide_eq_false_iff_not]
  right
  omega

theorem onChunk_expected (h : Expects r k total got) (hlt : got.length < total)
    (htotal : total ≤ 65535) (part : Bytes) :
    ∃ noted : Reassembler, noted.latestSeen = some k ∧
      (∀ id, id ≠ k → noted.partials.lookup id = none) ∧
      onChunk (makeChunk k (UInt16.ofNat got.length) (UInt16.ofNat total) part) r =
        storeChunk k got.length part (collected total got) noted := by
  obtain ⟨hid, hidx, htot, hdrop⟩ :=
    makeChunk_header k (UInt16.ofNat got.length) (UInt16.ofNat total) part
  have hsize : UInt16.size = 65536 := rfl
  rw [UInt16.toNat_ofNat_of_lt' (by omega)] at hidx htot
  have hlong : ¬(makeChunk k (UInt16.ofNat got.length) (UInt16.ofNat total) part).length <
      headerBytes := by
    rw [length_makeChunk]
    omega
  have hvalid : ¬(total = 0 ∨ total ≤ got.length) := by omega
  refine ⟨noteMessage k r, ?_⟩
  rw [onChunk, if_neg hlong]
  simp only [hid, hidx, htot, hdrop, if_neg hvalid]
  rcases h with ⟨rfl, hawaits⟩ | ⟨hne, hcols⟩
  · obtain ⟨hntd, hnone⟩ := hawaits.noteMessage
    have hfresh : r.latestSeen.any (fun latest => isStrictlyOlder k latest) = false := by
      rw [Option.any_eq_false]
      intro latest hlatest
      simp [isStrictlyOlder_asymm (hawaits.latest latest hlatest)]
    refine ⟨by rw [hntd], fun id _ => hnone id, ?_⟩
    rw [hfresh, hnone]
    simp [collected]
  · have hsame : noteMessage k r = r := by
      rw [noteMessage, hcols.latest]
      simp [isStrictlyNewer, isStrictlyOlder_irrefl]
    refine ⟨by rw [hsame, hcols.latest], fun id hne => ?_, ?_⟩
    · rw [hsame, hcols.partials, if_neg hne]
    · rw [hsame, hcols.latest, hcols.partials]
      simp [isStrictlyOlder_irrefl, collected, hid]

end X11Web.RtcReassembler
