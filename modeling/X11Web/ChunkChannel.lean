import X11Web.Assembly
import X11Web.FrameCoalescing

namespace X11Web.ChunkChannel

open HashMaps Windows Framing EventOrder Assembly List
open RtcDriver RtcReassembler FrameCoalescing

/-- The chunks of message after message, under one count of identifiers. -/
def sendAll : UInt32 → List Bytes → List (List Bytes)
  | _, [] => []
  | nextMsgId, payload :: payloads =>
    (chunk nextMsgId payload).1 :: sendAll (chunk nextMsgId payload).2 payloads

def sent (payloads : List Bytes) : List (List Bytes) := sendAll 0 payloads

def chunkOf (payloads : List Bytes) (p : Part) : Bytes := ((sent payloads).getD p.message []).getD p.index []

/-- The network may lose, reorder and repeat chunks, but it does not make them up. -/
def FromSent (payloads : List Bytes) (arrivals : List Part) : Prop :=
  ∀ p ∈ arrivals, p.message < payloads.length ∧ p.index < ((sent payloads).getD p.message []).length

instance (payloads : List Bytes) (arrivals : List Part) : Decidable (FromSent payloads arrivals) :=
  inferInstanceAs (Decidable (∀ p ∈ arrivals, _ ∧ _))

def NotTooLate (arrivals : List Part) : Prop :=
  ∀ before p, before ++ [p] <+: arrivals → ∀ q ∈ before, q.message ≤ p.message + (2 ^ 31 - 1)

/-- A message that the reassembler has returned, with the identifier of the chunk
that completed it. -/
def received (buf : Bytes) (out : Option Bytes) : List (UInt32 × Bytes) :=
  (out.map (fun payload => (UInt32.ofNat (readU32 false buf 0), payload))).toList

def receiveChunk (acc : Reassembler × List (UInt32 × Bytes)) (buf : Bytes) :
    Reassembler × List (UInt32 × Bytes) :=
  ((onChunk buf acc.1).1, acc.2 ++ received buf (onChunk buf acc.1).2)

def receive (bufs : List Bytes) : Reassembler × List (UInt32 × Bytes) :=
  bufs.foldl receiveChunk (Reassembler.new, [])

def chunkCount (payloads : List Bytes) (m : Nat) : Nat := (parts (payloads.getD m [])).length

/-- The messages that came through, by their place in what was sent. -/
structure ComeThrough (payloads : List Bytes) (arrivals : List Part) (messages : List Nat) : Prop where
  returned : (receive (arrivals.map (chunkOf payloads))).2 =
    messages.map (fun m => (UInt32.ofNat m, payloads.getD m []))
  sent : ∀ m ∈ messages, m < payloads.length
  inOrder : messages.Pairwise (· < ·)
  serial : (messages.map UInt32.ofNat).IsChain (fun a b => isStrictlyOlder a b = true)
  complete : ∀ m, Completed (chunkCount payloads) m arrivals → m ∈ messages

/-- Each payload that is returned was sent, in order and at most once, and what has
arrived in full before any newer message is returned. -/
def SoundChannel (payloads : List Bytes) (arrivals : List Part) : Prop :=
  ∃ messages, ComeThrough payloads arrivals messages

/-- The condition on an arriving chunk: it does not make its message whole a second
time, and it is less than 2^31 messages ahead of what came before. -/
structure InReach (total : Nat → Nat) (before : List Part) (p : Part) : Prop where
  once : ¬ Again total before p
  ahead : before = [] ∨ ∃ q ∈ before, p.message < q.message + 2 ^ 31
  aheadCompleted : Completed total p.message (before ++ [p]) →
    (∀ m, ¬ Completed total m before) ∨ ∃ m, Completed total m before ∧ p.message < m + 2 ^ 31

section Refinement

variable {payloads : List Bytes} {r : Reassembler} {a : Assembler} {p : Part} {k : UInt32} {ps : List Bytes}
  {got : List Nat} {m n idx : Nat}

theorem sendAll_getElem? (nextMsgId : UInt32) (payloads : List Bytes) (m : Nat) :
    (sendAll nextMsgId payloads)[m]? =
      payloads[m]?.map (fun payload => (chunk (nextMsgId + UInt32.ofNat m) payload).1) := by
  induction payloads generalizing nextMsgId m with
  | nil => rfl
  | cons payload payloads ih =>
    cases m with
    | zero =>
      simp only [sendAll, List.getElem?_cons_zero, Option.map_some]
      rw [show nextMsgId + UInt32.ofNat 0 = nextMsgId from by simp]
    | succ m =>
      have hnext : (chunk nextMsgId payload).2 = nextMsgId + 1 := by
        rw [chunk]
        split <;> rfl
      simp only [sendAll, List.getElem?_cons_succ]
      have hsucc : nextMsgId + 1 + UInt32.ofNat m = nextMsgId + UInt32.ofNat (m + 1) := by
        rw [UInt32.ofNat_add, UInt32.add_assoc, UInt32.add_comm 1]
        rfl
      rw [ih, hnext, hsucc]

theorem sent_getD (hsize : (payloads.getD m []).length ≤ 65535 * chunkPayloadBytes) (hm : m < payloads.length) :
    (sent payloads).getD m [] =
      wire (UInt32.ofNat m) (chunkCount payloads m) 0 (parts (payloads.getD m [])) := by
  rw [getD_eq_getElem?_getD, sent, sendAll_getElem?]
  rw [getD_eq_getElem?_getD, List.getElem?_eq_getElem hm] at hsize ⊢
  simp only [Option.map_some, Option.getD_some] at hsize ⊢
  rw [UInt32.zero_add, chunk_eq _ hsize, chunkCount, getD_eq_getElem?_getD, List.getElem?_eq_getElem hm]
  rfl

theorem chunkCount_pos (payloads : List Bytes) (m : Nat) : 0 < chunkCount payloads m :=
  length_pos_iff.mpr (parts_ne_nil _)

theorem length_wire (k : UInt32) (total i : Nat) (rest : List Bytes) : (wire k total i rest).length = rest.length := by
  simp [wire]

def gathered (ps : List Bytes) (got : List Nat) : PartialMessage :=
  ⟨(List.range ps.length).map (fun i => if i ∈ got then some (ps.getD i []) else none), got.length, ps.length⟩

theorem gathered_received (ps : List Bytes) (got : List Nat) : (gathered ps got).received = got.length := rfl

theorem gathered_total (ps : List Bytes) (got : List Nat) : (gathered ps got).total = ps.length := rfl

theorem gathered_nil (ps : List Bytes) : gathered ps [] = ⟨List.replicate ps.length none, 0, ps.length⟩ := by
  simp [gathered]

theorem gathered_getD (hidx : idx < ps.length) :
    ((gathered ps got).chunks.getD idx none).isSome = decide (idx ∈ got) := by
  rw [getD_eq_getElem?_getD, gathered, List.getElem?_map, List.getElem?_range hidx]
  by_cases h : idx ∈ got <;> simp [h]

theorem gathered_set (hidx : idx < ps.length) :
    (gathered ps got).chunks.set idx (some (ps.getD idx [])) = (gathered ps (idx :: got)).chunks := by
  apply ext_getElem?
  intro i
  rw [List.getElem?_set]
  by_cases hi : i < ps.length
  · by_cases heq : idx = i
    · subst heq
      simp [gathered, hi]
    · have heq' : i ≠ idx := Ne.symm heq
      simp [gathered, hi, heq, heq']
  · have hne : idx ≠ i := by
      rintro rfl
      exact hi hidx
    simp [gathered, hi, hne]

theorem gathered_none : none ∈ (gathered ps got).chunks ↔ ∃ i < ps.length, i ∉ got := by
  simp only [gathered, List.mem_map, List.mem_range]
  refine exists_congr fun i => and_congr_right fun _ => ?_
  by_cases h : i ∈ got <;> simp [h]

theorem gathered_flatten (hall : ∀ i < ps.length, i ∈ got) :
    ((gathered ps got).chunks.filterMap id).flatten = ps.flatten := by
  have hchks : (gathered ps got).chunks = ps.map some := by
    apply ext_getElem?
    intro i
    by_cases hi : i < ps.length
    · simp [gathered, hi, hall i hi]
    · simp [gathered, hi]
  rw [hchks]
  simp [filterMap_map]

theorem storeChunk_gathered (hnd : got.Nodup) (hlt : ∀ i ∈ got, i < ps.length) (hidx : idx < ps.length)
    (k : UInt32) (r : Reassembler) :
    storeChunk k idx (ps.getD idx []) (gathered ps got) r =
      if idx ∈ got then ({ r with partials := r.partials.insert k (gathered ps got) }, none)
      else if got.length + 1 < ps.length then
        ({ r with partials := r.partials.insert k (gathered ps (idx :: got)) }, none)
      else ({ r with partials := r.partials.erase k }, some ps.flatten) := by
  rw [storeChunk, gathered_getD hidx, gathered_set hidx, gathered_received, gathered_total]
  by_cases hdup : idx ∈ got
  · simp [hdup]
  simp only [hdup, decide_false, Bool.false_eq_true, if_false]
  by_cases hmore : got.length + 1 < ps.length
  · rw [if_pos (Or.inl hmore), if_pos hmore]
    rfl
  · have hall : ∀ i < ps.length, i ∈ idx :: got :=
      mem_of_length (nodup_cons.mpr ⟨hdup, hnd⟩) (by simpa using ⟨hidx, hlt⟩) (Nat.not_lt.mp hmore)
    have hnone : ¬ (got.length + 1 < ps.length ∨ none ∈ (gathered ps (idx :: got)).chunks) := by
      rw [gathered_none]
      rintro (h | ⟨i, hi, hnot⟩)
      · exact hmore h
      · exact hnot (hall i hi)
    rw [if_neg hnone, if_neg hmore, gathered_flatten hall]

theorem toNat_ofNat_sub (m d : Nat) (hd : d < 2 ^ 32) :
    (UInt32.ofNat (m + d) - UInt32.ofNat m).toNat = d := by
  rw [UInt32.ofNat_add, UInt32.add_comm, UInt32.add_sub_cancel, UInt32.toNat_ofNat_of_lt' hd]

theorem isStrictlyOlder_ofNat (hlt : m < n) (hnear : n < m + 2 ^ 31) :
    isStrictlyOlder (UInt32.ofNat m) (UInt32.ofNat n) = true := by
  obtain ⟨d, rfl⟩ := Nat.exists_eq_add_of_lt hlt
  have hsub := toNat_ofNat_sub m (d + 1) (by omega)
  rw [← Nat.add_assoc] at hsub
  simp only [isStrictlyOlder, Bool.and_eq_true, bne_iff_ne, decide_eq_true_eq]
  refine ⟨?_, by omega⟩
  intro heq
  rw [heq, UInt32.sub_self] at hsub
  simp at hsub

theorem onChunk_makeChunk (hidx : idx < ps.length) (hps : ps.length ≤ 65535)
    (hnew : r.latestSeen.any (fun latest => isStrictlyOlder k latest) = false)
    (hlook : (noteMessage k r).partials.lookup k = if got = [] then none else some (gathered ps got)) :
    onChunk (makeChunk k (UInt16.ofNat idx) (UInt16.ofNat ps.length) (ps.getD idx [])) r =
      storeChunk k idx (ps.getD idx []) (gathered ps got) (noteMessage k r) := by
  obtain ⟨hid, hi, htotal, hdrop⟩ :=
    makeChunk_header k (UInt16.ofNat idx) (UInt16.ofNat ps.length) (ps.getD idx [])
  have hsize : UInt16.size = 65536 := rfl
  rw [UInt16.toNat_ofNat_of_lt' (by omega)] at hi htotal
  have hlong : ¬ (makeChunk k (UInt16.ofNat idx) (UInt16.ofNat ps.length) (ps.getD idx [])).length <
      headerBytes := by
    rw [length_makeChunk]
    omega
  have hvalid : ¬ (ps.length = 0 ∨ ps.length ≤ idx) := by omega
  rw [onChunk, if_neg hlong]
  simp only [hid, hi, htotal, hdrop, if_neg hvalid, hnew, Bool.false_eq_true, if_false]
  by_cases hgot : got = []
  · rw [hid, hlook, if_pos hgot, hgot, gathered_nil]
  · rw [hid, hlook, if_neg hgot]
    simp [gathered_total]

theorem onChunk_stale (hold : r.latestSeen.any (fun latest => isStrictlyOlder k latest) = true) (idx total : UInt16)
    (part : Bytes) : onChunk (makeChunk k idx total part) r = (r, none) := by
  rw [onChunk, (makeChunk_header k idx total part).1]
  simp only [hold, if_true, ite_self]

/-- The reassembler knows the newest message by its identifier, and has the chunks of
no other one. -/
structure Refines (payloads : List Bytes) (a : Assembler) (r : Reassembler) : Prop where
  latest : r.latestSeen = a.newest.map UInt32.ofNat
  own : ∀ n, a.newest = some n → r.partials.lookup (UInt32.ofNat n) =
    if a.got = [] then none else some (gathered (parts (payloads.getD n [])) a.got)
  others : ∀ id, r.latestSeen ≠ some id → r.partials.lookup id = none

theorem Refines.noteMessage (h : Refines payloads a r)
    (hlate : ∀ n, a.newest = some n → n ≤ m) (hahead : ∀ n, a.newest = some n → m < n + 2 ^ 31) :
    Refines payloads (a.advance m) (noteMessage (UInt32.ofNat m) r) := by
  rw [Assembler.advance, RtcReassembler.noteMessage]
  by_cases heq : a.newest = some m
  · have hsame : r.latestSeen.all (fun latest => isStrictlyNewer (UInt32.ofNat m) latest) = false := by
      simp [h.latest, heq, isStrictlyNewer, isStrictlyOlder_irrefl]
    rw [if_pos heq, hsame]
    exact h
  · have hnewer : r.latestSeen.all (fun latest => isStrictlyNewer (UInt32.ofNat m) latest) = true := by
      rw [h.latest, Option.all_map, Option.all_eq_true]
      intro n hn
      have hne : n ≠ m := by
        rintro rfl
        exact heq hn
      exact isStrictlyOlder_ofNat (lt_of_le_of_ne (hlate n hn) hne) (hahead n hn)
    rw [if_neg heq, if_pos hnewer]
    -- the only message that was being collected is older
    have hnone : ∀ id, (retain (fun id _ => !isStrictlyOlder id (UInt32.ofNat m)) r.partials).lookup id = none := by
      intro id
      rw [lookup_retain, Option.filter_eq_none_iff]
      intro pm hpm
      have hid : r.latestSeen = some id := by
        by_contra hoth
        rw [h.others id hoth] at hpm
        cases hpm
      rw [hid] at hnewer
      simpa [isStrictlyNewer] using hnewer
    refine ⟨rfl, fun n _ => ?_, fun id _ => hnone id⟩
    rw [hnone, if_pos rfl]

theorem Refines.enter (h : Refines payloads a r) (hnewest : a.newest = some p.message)
    (hnd : a.got.Nodup) (hlt : ∀ i ∈ a.got, i < chunkCount payloads p.message)
    (hidx : p.index < chunkCount payloads p.message) :
    Refines payloads (a.enter (chunkCount payloads) p)
        (storeChunk (UInt32.ofNat p.message) p.index ((parts (payloads.getD p.message [])).getD p.index [])
          (gathered (parts (payloads.getD p.message [])) a.got) r).1 ∧
      (a.enter (chunkCount payloads) p).out.map (fun m => (UInt32.ofNat m, payloads.getD m [])) =
        a.out.map (fun m => (UInt32.ofNat m, payloads.getD m [])) ++
          ((storeChunk (UInt32.ofNat p.message) p.index ((parts (payloads.getD p.message [])).getD p.index [])
            (gathered (parts (payloads.getD p.message [])) a.got) r).2.map
              (fun payload => (UInt32.ofNat p.message, payload))).toList := by
  have hlatest : r.latestSeen = some (UInt32.ofNat p.message) := by
    rw [h.latest, hnewest]
    rfl
  have hins : ∀ (got : List Nat) (out : List Nat), got ≠ [] → Refines payloads ⟨a.newest, got, out⟩
      ⟨r.latestSeen, r.partials.insert (UInt32.ofNat p.message)
        (gathered (parts (payloads.getD p.message [])) got)⟩ := by
    intro got out hgot
    refine ⟨h.latest, fun n hn => ?_, fun id hid => ?_⟩
    · obtain rfl : p.message = n := Option.some.inj (hnewest.symm.trans hn)
      rw [lookup_insert_eq, if_pos rfl, if_neg hgot]
    · have hne : id ≠ UInt32.ofNat p.message := by
        rintro rfl
        exact hid hlatest
      rw [lookup_insert_eq, if_neg hne]
      exact h.others id hid
  rw [storeChunk_gathered hnd hlt hidx, Assembler.enter]
  by_cases hdup : p.index ∈ a.got
  · simp only [if_pos hdup]
    exact ⟨hins a.got a.out (ne_nil_of_mem hdup), by simp⟩
  simp only [if_neg hdup]
  by_cases hmore : a.got.length + 1 < (parts (payloads.getD p.message [])).length
  · have hmore' : a.got.length + 1 < chunkCount payloads p.message := hmore
    simp only [if_pos hmore, if_pos hmore']
    exact ⟨hins _ a.out (cons_ne_nil _ _), by simp⟩
  · have hmore' : ¬ a.got.length + 1 < chunkCount payloads p.message := hmore
    simp only [if_neg hmore, if_neg hmore', flatten_parts]
    refine ⟨⟨h.latest, fun n hn => ?_, fun id hid => ?_⟩, by simp⟩
    · obtain rfl : p.message = n := Option.some.inj (hnewest.symm.trans hn)
      rw [lookup_erase_eq, if_pos rfl, if_pos rfl]
    · rw [lookup_erase_eq, h.others id hid, ite_self]

theorem Refines.step (h : Refines payloads a r) (hps : chunkCount payloads p.message ≤ 65535)
    (hnd : a.got.Nodup) (hlt : ∀ n, a.newest = some n → ∀ i ∈ a.got, i < chunkCount payloads n)
    (hidx : p.index < chunkCount payloads p.message)
    (hlate : ∀ n, a.newest = some n → n ≤ p.message + (2 ^ 31 - 1))
    (hahead : ∀ n, a.newest = some n → p.message < n + 2 ^ 31) :
    ∀ buf, buf = makeChunk (UInt32.ofNat p.message) (UInt16.ofNat p.index)
        (UInt16.ofNat (chunkCount payloads p.message)) ((parts (payloads.getD p.message [])).getD p.index []) →
      Refines payloads (a.step (chunkCount payloads) p) (onChunk buf r).1 ∧
        (a.step (chunkCount payloads) p).out.map (fun m => (UInt32.ofNat m, payloads.getD m [])) =
          a.out.map (fun m => (UInt32.ofNat m, payloads.getD m [])) ++ received buf (onChunk buf r).2 := by
  rintro buf rfl
  rw [received, (makeChunk_header _ _ _ _).1, Assembler.step]
  have hstale : r.latestSeen.any (fun latest => isStrictlyOlder (UInt32.ofNat p.message) latest) =
      a.newest.any (fun n => p.message < n) := by
    rw [h.latest]
    cases hn : a.newest with
    | none => rfl
    | some n =>
      have hlate := hlate n hn
      have hahead := hahead n hn
      simp only [Option.map_some, Option.any_some]
      rcases Nat.lt_trichotomy p.message n with hlt | rfl | hlt
      · rw [isStrictlyOlder_ofNat hlt (by omega), decide_eq_true hlt]
      · rw [isStrictlyOlder_irrefl, decide_eq_false (lt_irrefl _)]
      · rw [isStrictlyOlder_asymm (isStrictlyOlder_ofNat hlt hahead), decide_eq_false (by omega)]
  by_cases hold : a.newest.any (fun n => p.message < n) = true
  · rw [onChunk_stale (hstale.trans hold), if_pos hold]
    exact ⟨h, by simp⟩
  · have hle : ∀ n, a.newest = some n → n ≤ p.message := by
      intro n hn
      simpa [hn] using hold
    have hntd := h.noteMessage hle hahead
    have hnewest : (a.advance p.message).newest = some p.message := by
      rw [Assembler.advance]
      split
      · assumption
      · rfl
    have hgot : (a.advance p.message).got = if a.newest = some p.message then a.got else [] := by
      rw [Assembler.advance]
      split <;> rfl
    have hout : (a.advance p.message).out = a.out := by
      rw [Assembler.advance]
      split <;> rfl
    have hown := hntd.own p.message hnewest
    rw [if_neg hold, chunkCount, onChunk_makeChunk hidx hps (hstale.trans (Bool.eq_false_of_not_eq_true hold)) hown,
      ← hout]
    refine hntd.enter hnewest ?_ ?_ hidx
    · rw [hgot]
      split
      · exact hnd
      · exact nodup_nil
    · rw [hgot]
      split
      · rename_i hn
        exact hlt p.message hn
      · simp

theorem chunkOf_eq (hsize : (payloads.getD p.message []).length ≤ 65535 * chunkPayloadBytes)
    (hm : p.message < payloads.length) (hidx : p.index < chunkCount payloads p.message) :
    chunkOf payloads p = makeChunk (UInt32.ofNat p.message) (UInt16.ofNat p.index)
      (UInt16.ofNat (chunkCount payloads p.message)) ((parts (payloads.getD p.message [])).getD p.index []) := by
  have hidx' : p.index < (parts (payloads.getD p.message [])).length := hidx
  have hpiece : (parts (payloads.getD p.message [])).getD p.index [] =
      (parts (payloads.getD p.message [])).get ⟨p.index, hidx'⟩ := by
    rw [getD_eq_getElem?_getD, List.getElem?_eq_getElem hidx']
    rfl
  rw [hpiece, chunkOf, sent_getD hsize hm, wire, getD_eq_getElem?_getD,
    List.getElem?_map, List.getElem?_zipIdx, List.getElem?_eq_getElem hidx']
  simp

end Refinement

section Channel

variable {payloads : List Bytes} {arrivals : List Part}

theorem isChain_concat_ofNat {ms : List Nat} {m : Nat} (hsorted : (ms ++ [m]).Pairwise (· < ·))
    (hchain : (ms.map UInt32.ofNat).IsChain (fun a b => isStrictlyOlder a b = true))
    (hnear : ms = [] ∨ ∃ j ∈ ms, m < j + 2 ^ 31) :
    ((ms ++ [m]).map UInt32.ofNat).IsChain (fun a b => isStrictlyOlder a b = true) := by
  induction ms using List.reverseRecOn with
  | nil => exact isChain_singleton _
  | append_singleton ms last _ =>
    obtain ⟨hms, -, hlt⟩ := pairwise_append.mp hsorted
    have hlast : last < m := hlt last (by simp) m (by simp)
    have hnear' : m < last + 2 ^ 31 := by
      obtain ⟨j, hj, hjm⟩ := hnear.resolve_left (by simp)
      rcases mem_append.mp hj with hj | hj
      · have := (pairwise_append.mp hms).2.2 j hj last (by simp)
        omega
      · rw [← mem_singleton.mp hj]
        exact hjm
    have holder := isStrictlyOlder_ofNat hlast hnear'
    rw [map_append]
    refine hchain.append (isChain_singleton _) ?_
    simpa using holder

theorem receive_concat (bufs : List Bytes) (buf : Bytes) :
    receive (bufs ++ [buf]) = receiveChunk (receive bufs) buf := by
  rw [receive, foldl_concat]
  rfl

theorem receive_refines (hsize : ∀ payload ∈ payloads, payload.length ≤ 65535 * chunkPayloadBytes)
    (hsent : FromSent payloads arrivals) (hlate : NotTooLate arrivals)
    (hrch : ∀ before p, before ++ [p] <+: arrivals → InReach (chunkCount payloads) before p) :
    Tracks (chunkCount payloads) arrivals (assemble (chunkCount payloads) arrivals) ∧
    Refines payloads (assemble (chunkCount payloads) arrivals) (receive (arrivals.map (chunkOf payloads))).1 ∧
    (receive (arrivals.map (chunkOf payloads))).2 =
      (assemble (chunkCount payloads) arrivals).out.map (fun m => (UInt32.ofNat m, payloads.getD m [])) ∧
    ((assemble (chunkCount payloads) arrivals).out.map UInt32.ofNat).IsChain
      (fun a b => isStrictlyOlder a b = true) := by
  have hsize' : ∀ m, (payloads.getD m []).length ≤ 65535 * chunkPayloadBytes := by
    intro m
    rw [getD_eq_getElem?_getD]
    cases hm : payloads[m]? with
    | none => simp
    | some payload => exact hsize payload (mem_of_getElem? hm)
  have hpos := chunkCount_pos payloads
  have hindex : ∀ p ∈ arrivals, p.index < chunkCount payloads p.message := by
    intro p hp
    obtain ⟨hm, hidx⟩ := hsent p hp
    rwa [sent_getD (hsize' _) hm, length_wire] at hidx
  induction arrivals using List.reverseRecOn with
  | nil =>
    refine ⟨.inl ⟨rfl, rfl⟩, ⟨rfl, by simp [assemble], fun id _ => ?_⟩, rfl, isChain_nil⟩
    exact Finmap.lookup_empty id
  | append_singleton before p ih =>
    have hpre := prefix_append before [p]
    obtain ⟨htrks, hrefines, hlog, hchain⟩ := ih (fun q hq => hsent q (List.mem_append_left _ hq))
      (fun b q h => hlate b q (h.trans hpre)) (fun b q h => hrch b q (h.trans hpre))
      (fun q hq => hindex q (List.mem_append_left _ hq))
    have hp := hsent p (by simp)
    have hidx := hindex p (by simp)
    have hin := hrch before p prefix_rfl
    have htrks' := htrks.step hidx hpos hin.once
    have hstep := hrefines.step (length_parts_le (hsize' _)) htrks.nodup
      (fun n hn => (htrks.newest hn).2.2) hidx
      (fun n hn => by
        obtain ⟨-, ⟨k, hk⟩, -⟩ := htrks.newest hn
        exact hlate before p prefix_rfl ⟨n, k⟩ hk)
      (fun n hn => by
        obtain ⟨hupTo, ⟨k, hk⟩, -⟩ := htrks.newest hn
        obtain ⟨q, hq, hnear⟩ := hin.ahead.resolve_left (ne_nil_of_mem hk)
        exact hnear.trans_le (Nat.add_le_add_right (hupTo q hq) _))
      (chunkOf payloads p) (chunkOf_eq (hsize' _) hp.1 hidx)
    rw [assemble_concat, map_append, map_singleton, receive_concat]
    refine ⟨htrks', hstep.1, ?_, ?_⟩
    · rw [hstep.2, receiveChunk, hlog]
    · rcases step_out (chunkCount payloads) (assemble (chunkCount payloads) before) p with hout | hout
      · rw [hout]
        exact hchain
      · -- one more message has come through
        have hsorted := htrks'.sorted
        have hdone := (htrks'.out hpos p.message).mp (by rw [hout]; simp)
        rw [hout] at hsorted ⊢
        refine isChain_concat_ofNat hsorted hchain ?_
        rcases hin.aheadCompleted hdone with hnone | ⟨j, hj, hnear⟩
        · refine .inl (eq_nil_iff_forall_not_mem.mpr fun j hj => ?_)
          exact hnone j ((htrks.out hpos j).mp hj)
        · exact .inr ⟨j, (htrks.out hpos j).mpr hj, hnear⟩

/-- Chunks that arrive within reach make a sound channel. -/
theorem soundChannel_of_inReach (payloads : List Bytes) (arrivals : List Part)
    (hsize : ∀ payload ∈ payloads, payload.length ≤ 65535 * chunkPayloadBytes)
    (hsent : FromSent payloads arrivals) (hlate : NotTooLate arrivals)
    (hrch : ∀ before p, before ++ [p] <+: arrivals → InReach (chunkCount payloads) before p) :
    SoundChannel payloads arrivals := by
  obtain ⟨htrks, -, hlog, hchain⟩ := receive_refines hsize hsent hlate hrch
  have hout := htrks.out (chunkCount_pos payloads)
  refine ⟨_, hlog, fun m hm => ?_, htrks.sorted, hchain, fun m hm => (hout m).mpr hm⟩
  exact (hsent _ (((hout m).mp hm).mem (chunkCount_pos payloads))).1

/-- Two messages of one chunk, and then the first one again: it is stale by then. -/
theorem soundChannel_staleChunk :
    InReach (chunkCount [[1, 2], [3]]) [⟨0, 0⟩, ⟨1, 0⟩] ⟨0, 0⟩ ∧
      SoundChannel [[1, 2], [3]] [⟨0, 0⟩, ⟨1, 0⟩, ⟨0, 0⟩] := by
  have hpos := chunkCount_pos [[1, 2], [3]]
  have hfst : InReach (chunkCount [[1, 2], [3]]) [] ⟨0, 0⟩ := by
    refine ⟨?_, .inl rfl, fun _ => .inl fun m hm => absurd (hm.mem hpos) List.not_mem_nil⟩
    rintro ⟨before, since, heq, hwhole, -⟩
    have hmem := hwhole 0 (hpos 0)
    rw [(append_eq_nil_iff.mp heq.symm).1] at hmem
    exact absurd hmem List.not_mem_nil
  have hdone : Completed (chunkCount [[1, 2], [3]]) 0 [⟨0, 0⟩] := by
    refine ⟨_, prefix_rfl, fun k hk => ?_, by simp [UpTo]⟩
    obtain rfl : k = 0 := Nat.lt_one_iff.mp hk
    simp
  have hsnd : InReach (chunkCount [[1, 2], [3]]) [⟨0, 0⟩] ⟨1, 0⟩ := by
    refine ⟨?_, .inr ⟨⟨0, 0⟩, by simp, by simp⟩, fun _ => .inr ⟨0, hdone, by simp⟩⟩
    rintro ⟨before, since, heq, hwhole, -⟩
    have hmem : (⟨1, 0⟩ : Part) ∈ before ++ since := List.mem_append_left _ (hwhole 0 (hpos 1))
    rw [← heq] at hmem
    simp at hmem
  have hthird : InReach (chunkCount [[1, 2], [3]]) [⟨0, 0⟩, ⟨1, 0⟩] ⟨0, 0⟩ := by
    refine ⟨?_, .inr ⟨⟨0, 0⟩, by simp, by simp⟩, fun _ => .inr ⟨0, ?_, by simp⟩⟩
    · rintro ⟨-, -, -, -, hupTo, -⟩
      exact absurd (hupTo ⟨1, 0⟩ (by simp)) (by simp)
    · exact completed_concat.mpr (.inl hdone)
  refine ⟨hthird, soundChannel_of_inReach _ _ (by decide) (by decide) ?_ ?_⟩
  · intro before p hpre q hq
    have hmem := hpre.subset (List.mem_append_left [p] hq)
    simp only [List.mem_cons, List.not_mem_nil, or_false] at hmem
    rcases hmem with rfl | rfl | rfl <;> simp
  · have hnone : ∀ before p, before ++ [p] <+: [] → InReach (chunkCount [[1, 2], [3]]) before p :=
      fun before p hpre => absurd (prefix_nil.mp hpre) (by simp)
    have htwo := Runs.forall_prefix_concat.mpr ⟨Runs.forall_prefix_concat.mpr ⟨hnone, hfst⟩, hsnd⟩
    exact Runs.forall_prefix_concat.mpr ⟨htwo, hthird⟩

/-- The only chunk of a message arrives twice and the message is returned twice. -/
theorem not_soundChannel_duplicate :
    ¬ ∀ payloads arrivals, (∀ payload ∈ payloads, payload.length ≤ 65535 * chunkPayloadBytes) →
      FromSent payloads arrivals → NotTooLate arrivals → SoundChannel payloads arrivals := by
  intro h
  have hlate : NotTooLate [⟨0, 0⟩, ⟨0, 0⟩] := by
    intro before p hpre q hq
    have hmem := hpre.subset (List.mem_append_left [p] hq)
    simp only [List.mem_cons, List.not_mem_nil, or_false, or_self] at hmem
    simp [hmem]
  obtain ⟨messages, hthrough⟩ := h [[42]] [⟨0, 0⟩, ⟨0, 0⟩] (by decide) (by decide) hlate
  have htwice : (receive ([⟨0, 0⟩, ⟨0, 0⟩].map (chunkOf [[42]]))).2.map Prod.fst = [0, 0] := by decide +kernel
  have hserial := hthrough.serial
  rw [hthrough.returned, List.map_map] at htwice
  have hids : messages.map UInt32.ofNat = [0, 0] := htwice
  rw [hids] at hserial
  revert hserial
  decide

end Channel

end X11Web.ChunkChannel
