import X11Web.CrossingEvents
import X11Web.EventWire

namespace X11Web.GrabCrossings

open Windows Framing EventWire CrossingEvents List

section Chunks

variable {α : Type} {n : Nat} {l : List α} {parts : List (List α)}

/-- Pieces of one length, as `chunks_exact` cuts them; what is left over is not among them. -/
def chunksExact (n : Nat) (l : List α) : List (List α) :=
  (List.range (l.length / n)).map fun i => (l.drop (n * i)).take n

theorem length_of_mem_chunksExact {c : List α} (hc : c ∈ chunksExact n l) : c.length = n := by
  obtain ⟨i, hi, rfl⟩ := mem_map.mp hc
  have hlt : i + 1 ≤ l.length / n := mem_range.mp hi
  have hle : n * (i + 1) ≤ l.length := (Nat.mul_le_mul_left n hlt).trans (Nat.mul_div_le l.length n)
  rw [Nat.mul_succ] at hle
  rw [length_take, length_drop]
  omega

theorem chunksExact_append {c : List α} (hn : 0 < n) (hc : c.length = n) :
    chunksExact n (c ++ l) = c :: chunksExact n l := by
  have hcnt : (c ++ l).length / n = l.length / n + 1 := by
    rw [length_append, hc, Nat.add_comm, Nat.add_div_right _ hn]
  rw [chunksExact, hcnt, range_succ_eq_map, map_cons, map_map]
  congr 1
  · rw [Nat.mul_zero, drop_zero, take_left' hc]
  · refine map_congr_left fun i _ => ?_
    have hdrop : n * (i + 1) = c.length + n * i := by
      rw [hc, Nat.mul_succ, Nat.add_comm]
    rw [Function.comp_apply, Nat.succ_eq_add_one, hdrop, drop_length_add_append]

theorem chunksExact_flatten_iff (hn : 0 < n) :
    chunksExact n parts.flatten = parts ↔ ∀ c ∈ parts, c.length = n := by
  constructor
  · intro h c hc
    rw [← h] at hc
    exact length_of_mem_chunksExact hc
  · intro h
    induction parts with
    | nil =>
      rw [flatten_nil, chunksExact, length_nil, Nat.zero_div]
      rfl
    | cons c parts ih =>
      rw [flatten_cons, chunksExact_append hn (h c mem_cons_self),
        ih fun d hd => h d (mem_cons_of_mem c hd)]

end Chunks

def XI_MAJOR_OPCODE : UInt8 := 131
def MASTER_POINTER_ID : Nat := 2
def GE_GENERIC_EVENT : UInt8 := 35
def ENTER_EVENT : Nat := 7
def LEAVE_EVENT : Nat := 8

def CROSSING_MODE_GRAB : Nat := 1
def CROSSING_MODE_UNGRAB : Nat := 2

/-- A selection of XInput2 events; the mask comes in words. -/
structure XiSelection where
  window : XId
  deviceid : Nat
  mask : List Nat

def XiSelection.wants (s : XiSelection) (evtype : Nat) : Bool := (s.mask[evtype / 32]?).any (·.testBit (evtype % 32))

def XiSelection.deviceMatches (s : XiSelection) : Bool :=
  s.deviceid == 0 || s.deviceid == 1 || s.deviceid == MASTER_POINTER_ID

/-- An XInput2 crossing, without the fields that are the same in all of them. -/
structure XiCrossing where
  eventType : Nat
  sequence : Nat
  time : Nat
  event : XId
  rootX : Int
  rootY : Int
  eventX : Int
  eventY : Int

def fp1616 (v : Int) : Nat := (v * 2 ^ 16 % 2 ^ 32).toNat

/-- The fields of the event in the wire layout of the protocol, whose library writes it. -/
def XiCrossing.fields (e : XiCrossing) : List Bytes :=
  [[GE_GENERIC_EVENT], [XI_MAJOR_OPCODE], toLeBytes16 e.sequence, toLeBytes32 0, toLeBytes16 e.eventType,
    toLeBytes16 MASTER_POINTER_ID, toLeBytes32 e.time, toLeBytes16 MASTER_POINTER_ID, [0],
    [UInt8.ofNat Detail.nonlinear], toLeBytes32 rootWindow, toLeBytes32 e.event, toLeBytes32 0,
    toLeBytes32 (fp1616 e.rootX), toLeBytes32 (fp1616 e.rootY), toLeBytes32 (fp1616 e.eventX),
    toLeBytes32 (fp1616 e.eventY), [1], [0], toLeBytes16 1, List.replicate 16 0, List.replicate 4 0, toLeBytes32 0]

def XiCrossing.serializeInto (e : XiCrossing) : Bytes := e.fields.flatten

/-- Pad the event to whole words and count those after the first 32 bytes. -/
def serializeXiReply (reply : Bytes) (msb : Bool) : Bytes :=
  let buf := reply ++ List.replicate ((4 - reply.length % 4) % 4) 0
  buf.take 4 ++ toClientBytes msb (toLeBytes32 ((buf.length - 32) / 4)) ++ buf.drop 8

inductive Produced
  | core (e : CoreEvent)
  | xi (e : XiCrossing)

/-- The core crossing event as the protocol library lays it out. -/
def wire (e : CrossingEvent) : EventWire.Event where
  responseType := if e.enter then 7 else 8
  header := .sequenced (UInt8.ofNat e.detail) (UInt16.ofNat e.sequence)
  words :=
    [.card32 (UInt32.ofNat e.time), .card32 (UInt32.ofNat e.root), .card32 (UInt32.ofNat e.event),
      .card32 (UInt32.ofNat e.child), .halves (.card16 (UInt16.ofInt e.rootX)) (.card16 (UInt16.ofInt e.rootY)),
      .halves (.card16 (UInt16.ofInt e.eventX)) (.card16 (UInt16.ofInt e.eventY)),
      .halves (.card16 0) (.card8s (UInt8.ofNat e.mode) (UInt8.ofNat e.sameScreenFocus))]

/-- A KeymapNotify is a code and the keys after the first eight, in 32 bytes. -/
def keymapBytes (keys : Bytes) : Bytes := 11 :: (keys.take 31 ++ List.replicate (31 - keys.length) 0)

def Produced.bytes (msb : Bool) : Produced → Bytes
  | .core (.crossing e) => serializeEvent (wire e) msb
  | .core (.keymapNotify keys) => keymapBytes keys
  | .xi e => serializeXiReply e.serializeInto msb

/-- The same event with another sequence number, if it has one. -/
def Produced.withSequence (seq : UInt16) : Produced → Produced
  | .core (.crossing e) => .core (.crossing { e with sequence := seq.toNat })
  | .core (.keymapNotify keys) => .core (.keymapNotify keys)
  | .xi e => .xi { e with sequence := seq.toNat }

/-- What grabs read and write of a connection besides its windows: the pointer, the
selections of XInput2 events and the events to be sent. -/
structure GrabClient extends PointerState where
  pointer : Int × Int
  selections : List XiSelection
  pendingEvents : List Bytes

def xiSelected (s : GrabClient) (evtype : Nat) (window : XId) : Bool :=
  s.selections.any fun sel => decide (sel.window = window) && sel.deviceMatches && sel.wants evtype

def buildXiCrossingEventsFor (s : GrabClient) (leaveChain enterChain : List XId) (x y localX localY : Int) :
    List XiCrossing :=
  let event (evtype : Nat) (window : XId) : XiCrossing :=
    ⟨evtype, s.sequence, s.timestamp, window, x, y, localX, localY⟩
  (leaveChain.filter fun w => !decide (w ∈ enterChain) && xiSelected s LEAVE_EVENT w).map (event LEAVE_EVENT) ++
    (enterChain.filter fun w => !decide (w ∈ leaveChain) && xiSelected s ENTER_EVENT w).map (event ENTER_EVENT)

/-- The events of a crossing: those of the core protocol and then those of XInput2. -/
def produced (newWindow : XId) (x y : Int) (mode : Nat) (s : GrabClient) : List Produced :=
  if s.lastEnteredWindow = newWindow then []
  else
    let oldPath := ancestorPath s.windows s.lastEnteredWindow rootWindow
    let newPath := ancestorPath s.windows newWindow rootWindow
    let (localX, localY) := windowLocalCoords s.windows newWindow rootWindow x y
    (buildCrossingEventsWithMode newWindow x y mode s.toPointerState).2.map .core ++
      (buildXiCrossingEventsFor s oldPath newPath x y localX localY).map .xi

def buildCrossingEvents (newWindow : XId) (x y : Int) (mode : Nat) (s : GrabClient) : GrabClient × Bytes :=
  ({ s with lastEnteredWindow := newWindow }, (produced newWindow x y mode s).flatMap (·.bytes s.msbFirst))

def queueChunks (r : GrabClient × Bytes) : GrabClient :=
  { r.1 with pendingEvents := r.1.pendingEvents ++ chunksExact 32 r.2 }

def emitGrabCrossingEvents (grabWindow : XId) (s : GrabClient) : GrabClient :=
  queueChunks (buildCrossingEvents grabWindow s.pointer.1 s.pointer.2 CROSSING_MODE_GRAB s)

def emitUngrabCrossingEvents (grabWindow : XId) (s : GrabClient) : GrabClient :=
  if grabWindow = rootWindow then s
  else
    queueChunks (buildCrossingEvents rootWindow s.pointer.1 s.pointer.2 CROSSING_MODE_UNGRAB
      { s with lastEnteredWindow := grabWindow })

/-- The elements that are queued are the events, each complete and in order, and to put a sequence
number into their bytes 2 and 3 changes nothing but the sequence number of the event. -/
structure QueuedWhole (before after : GrabClient) (events : List Produced) : Prop where
  whole : after.pendingEvents = before.pendingEvents ++ events.map (·.bytes before.msbFirst)
  patched : ∀ seq : UInt16,
    (after.pendingEvents.drop before.pendingEvents.length).map (patchSequence before.msbFirst seq) =
      events.map fun e => (e.withSequence seq).bytes before.msbFirst

/-- Of the windows that are left and entered none has a selection of the XInput2 crossing, and
the one that the pointer comes to does not ask for the state of the keys. -/
structure PlainCrossing (s : GrabClient) (oldWindow newWindow : XId) : Prop where
  leave : ∀ w ∈ ancestorPath s.windows oldWindow rootWindow, w ∉ ancestorPath s.windows newWindow rootWindow →
    xiSelected s LEAVE_EVENT w = false
  enter : ∀ w ∈ ancestorPath s.windows newWindow rootWindow, w ∉ ancestorPath s.windows oldWindow rootWindow →
    xiSelected s ENTER_EVENT w = false
  keymap : windowSelects s.toClientState newWindow keymapState = false

variable {s : GrabClient} {e : Produced} {events : List Produced} {msb : Bool} {seq : UInt16} {newWindow : XId}
  {x y : Int} {mode : Nat}

def Produced.IsXi : Produced → Prop
  | .xi _ => True
  | .core _ => False

def Produced.IsKeymap : Produced → Prop
  | .core (.keymapNotify _) => True
  | _ => False

theorem length_toClientBytes (msb : Bool) (b : Bytes) : (toClientBytes msb b).length = b.length := by
  cases msb with
  | false => rfl
  | true => exact length_reverse

theorem map_length_fields (e : XiCrossing) :
    e.fields.map List.length =
      [1, 1, 2, 4, 2, 2, 4, 2, 1, 1, 4, 4, 4, 4, 4, 4, 4, 1, 1, 2, 16, 4, 4] := rfl

theorem length_serializeInto (e : XiCrossing) : e.serializeInto.length = 76 := by
  rw [XiCrossing.serializeInto, length_flatten, map_length_fields]
  rfl

theorem length_serializeXiReply (e : XiCrossing) (msb : Bool) : (serializeXiReply e.serializeInto msb).length = 76 := by
  have hbuf : (e.serializeInto ++ List.replicate ((4 - e.serializeInto.length % 4) % 4) 0).length = 76 := by
    rw [length_append, length_replicate, length_serializeInto]
  have hcnt : ∀ n, (toLeBytes32 n).length = 4 := fun n => rfl
  simp only [serializeXiReply, length_append, length_take, length_drop, length_toClientBytes, hcnt]
  rw [← length_append, hbuf]
  rfl

theorem length_bytes_iff (e : Produced) (msb : Bool) : (e.bytes msb).length = 32 ↔ ¬e.IsXi := by
  cases e with
  | core e =>
    refine iff_of_true ?_ (fun h => h)
    cases e with
    | crossing e => cases msb <;> rfl
    | keymapNotify keys =>
      simp only [Produced.bytes, keymapBytes, length_cons, length_append, length_take,
        length_replicate]
      omega
  | xi e =>
    refine iff_of_false ?_ (not_not_intro trivial)
    simp [Produced.bytes, length_serializeXiReply]

theorem patchSequence_crossing (e : CrossingEvent) (msb : Bool) (seq : UInt16) :
    patchSequence msb seq (serializeEvent (wire e) msb) = serializeEvent (wire { e with sequence := seq.toNat }) msb := by
  have hseq : UInt16.ofNat seq.toNat = seq := UInt16.ofNat_toNat
  cases msb with
  | false =>
    simp only [wire, hseq]
    rfl
  | true =>
    simp only [wire, hseq]
    rfl

theorem patchSequence_keymap (keys : Bytes) (msb : Bool) :
    ¬∀ seq : UInt16, patchSequence msb seq (keymapBytes keys) = keymapBytes keys := by
  intro h
  have hlen : 4 ≤ (keymapBytes keys).length := by
    simp only [keymapBytes, length_cons, length_append, length_take, length_replicate]
    omega
  have heq : ∀ seq : UInt16, toClientBytes msb (toLeBytes16 seq.toNat) = ((keymapBytes keys).drop 2).take 2 := by
    intro seq
    have htake : ((keymapBytes keys).take 2).length = 2 := by
      rw [length_take]
      omega
    have hbytes : (toClientBytes msb (toLeBytes16 seq.toNat)).length = 2 := length_toClientBytes msb _
    rw [← h seq, patchSequence, if_pos hlen, append_assoc, drop_left' htake, take_left' hbytes]
  have hzero := (heq 0).trans (heq 1).symm
  cases msb with
  | false => exact absurd hzero (by decide)
  | true => exact absurd hzero (by decide)

theorem patchSequence_iff (he : ¬e.IsXi) (msb : Bool) :
    (∀ seq, patchSequence msb seq (e.bytes msb) = (e.withSequence seq).bytes msb) ↔ ¬e.IsKeymap := by
  cases e with
  | xi e => exact absurd trivial he
  | core e =>
    cases e with
    | crossing e => exact iff_of_true (patchSequence_crossing e msb) (fun h => h)
    | keymapNotify keys => exact iff_of_false (patchSequence_keymap keys msb) (not_not_intro trivial)

/-- The pieces of a buffer of events are the events, and may be patched, exactly if all of them are
core events with a sequence number. -/
theorem queuedWhole_iff {after : GrabClient} (hpend : after.pendingEvents = s.pendingEvents ++
      chunksExact 32 (events.flatMap (·.bytes s.msbFirst))) :
    QueuedWhole s after events ↔ ∀ e ∈ events, ¬e.IsXi ∧ ¬e.IsKeymap := by
  have hchks : chunksExact 32 (events.flatMap (·.bytes s.msbFirst)) = events.map (·.bytes s.msbFirst) ↔
      ∀ e ∈ events, ¬e.IsXi := by
    rw [flatMap_def, chunksExact_flatten_iff (by decide), forall_mem_map]
    exact forall₂_congr fun e _ => length_bytes_iff e s.msbFirst
  have hpatched : (∀ seq, (events.map (·.bytes s.msbFirst)).map (patchSequence s.msbFirst seq) =
      events.map fun e => (e.withSequence seq).bytes s.msbFirst) ↔
      ∀ e ∈ events, ∀ seq, patchSequence s.msbFirst seq (e.bytes s.msbFirst) =
        (e.withSequence seq).bytes s.msbFirst := by
    simp only [map_map, map_inj_left, Function.comp_apply]
    exact ⟨fun h e he seq => h seq e he, fun h seq e he => h e he seq⟩
  constructor
  · rintro ⟨hall, hseq⟩
    have hplain := hchks.mp (append_cancel_left (hpend.symm.trans hall))
    rw [hall, drop_left, hpatched] at hseq
    exact fun e he => ⟨hplain e he, (patchSequence_iff (hplain e he) _).mp (hseq e he)⟩
  · intro h
    have hall := hpend.trans (congrArg _ (hchks.mpr fun e he => (h e he).1))
    refine ⟨hall, ?_⟩
    rw [hall, drop_left, hpatched]
    exact fun e he => (patchSequence_iff (h e he).1 _).mpr (h e he).2

theorem mem_emitCrossing {p : PointerState} {c : CoreEvent} {enter : Bool} {detail : Nat} {w : XId}
    (h : c ∈ emitCrossing p mode x y enter detail w) : ∃ e, c = .crossing e := by
  rw [emitCrossing] at h
  by_cases hsels : windowSelects p.toClientState w (if enter then enterWindow else leaveWindow)
  · rw [if_pos hsels] at h
    exact ⟨_, mem_singleton.mp h⟩
  · rw [if_neg hsels] at h
    exact absurd h not_mem_nil

theorem mem_crossings {p : PointerState} {c : CoreEvent} {oldWindow : XId}
    (h : c ∈ crossings p mode x y oldWindow newWindow) : ∃ e, c = .crossing e := by
  rw [crossings] at h
  dsimp only at h
  split at h
  · simp only [mem_append, mem_flatMap] at h
    rcases h with (h | ⟨w, -, h⟩) | h <;> exact mem_emitCrossing h
  split at h
  · simp only [mem_append, mem_flatMap] at h
    rcases h with (h | ⟨w, -, h⟩) | h <;> exact mem_emitCrossing h
  · simp only [mem_append, mem_flatMap] at h
    rcases h with ((h | ⟨w, -, h⟩) | ⟨w, -, h⟩) | h <;> exact mem_emitCrossing h

theorem buildXiCrossingEventsFor_eq_nil_iff {leaveChain enterChain : List XId} {localX localY : Int} :
    buildXiCrossingEventsFor s leaveChain enterChain x y localX localY = [] ↔
      (∀ w ∈ leaveChain, w ∉ enterChain → xiSelected s LEAVE_EVENT w = false) ∧
        ∀ w ∈ enterChain, w ∉ leaveChain → xiSelected s ENTER_EVENT w = false := by
  simp only [buildXiCrossingEventsFor, append_eq_nil_iff, map_eq_nil_iff, filter_eq_nil_iff,
    Bool.and_eq_true, Bool.not_eq_true', decide_eq_false_iff_not, not_and, Bool.not_eq_true]

theorem produced_plain_iff (hmvd : s.lastEnteredWindow ≠ newWindow) :
    (∀ e ∈ produced newWindow x y mode s, ¬e.IsXi ∧ ¬e.IsKeymap) ↔
      PlainCrossing s s.lastEnteredWindow newWindow := by
  have hcore : (buildCrossingEventsWithMode newWindow x y mode s.toPointerState).2 =
      crossings s.toPointerState mode x y s.lastEnteredWindow newWindow ++ keymapNotify s.toPointerState newWindow := by
    rw [buildCrossingEventsWithMode, if_neg hmvd]
  rw [produced, if_neg hmvd]
  dsimp only
  rw [hcore]
  constructor
  · intro h
    obtain ⟨hplain, hxi⟩ := forall_mem_append.mp h
    have hnone := eq_nil_iff_forall_not_mem.mpr fun e he => (hxi (.xi e) (mem_map_of_mem he)).1 trivial
    obtain ⟨hlv, henter⟩ := buildXiCrossingEventsFor_eq_nil_iff.mp hnone
    refine ⟨hlv, henter, Bool.eq_false_iff.mpr fun hsels => ?_⟩
    have hmem : CoreEvent.keymapNotify ((s.pressedKeys.take 32).drop 1) ∈ keymapNotify s.toPointerState newWindow := by
      rw [keymapNotify, if_pos hsels]
      exact mem_singleton_self _
    exact (hplain (.core _) (mem_map_of_mem (mem_append_right _ hmem))).2 trivial
  · rintro ⟨hlv, henter, hkeymap⟩ e he
    have hkeys : keymapNotify s.toPointerState newWindow = [] := by
      rw [keymapNotify, hkeymap, if_neg Bool.false_ne_true]
    rw [buildXiCrossingEventsFor_eq_nil_iff.mpr ⟨hlv, henter⟩, hkeys, map_nil, append_nil,
      append_nil] at he
    obtain ⟨c, hc, rfl⟩ := mem_map.mp he
    obtain ⟨e, rfl⟩ := mem_crossings hc
    exact ⟨fun h => h, fun h => h⟩

theorem produced_unmoved (h : s.lastEnteredWindow = newWindow) : produced newWindow x y mode s = [] := if_pos h

theorem plainCrossing_from {w oldWindow : XId} :
    PlainCrossing { s with lastEnteredWindow := w } oldWindow newWindow ↔ PlainCrossing s oldWindow newWindow :=
  ⟨fun ⟨hlv, henter, hkeymap⟩ => ⟨hlv, henter, hkeymap⟩,
    fun ⟨hlv, henter, hkeymap⟩ => ⟨hlv, henter, hkeymap⟩⟩

/-- A grab queues its crossing events whole exactly if the pointer was in the grab window already or the
crossing is plain, and an ungrab exactly if the root was grabbed or the crossing to it is plain. -/
theorem grabCrossings_whole_iff (s : GrabClient) (grabWindow : XId) :
    (QueuedWhole s (emitGrabCrossingEvents grabWindow s)
        (produced grabWindow s.pointer.1 s.pointer.2 CROSSING_MODE_GRAB s) ↔
      s.lastEnteredWindow = grabWindow ∨ PlainCrossing s s.lastEnteredWindow grabWindow) ∧
    (QueuedWhole s (emitUngrabCrossingEvents grabWindow s)
        (produced rootWindow s.pointer.1 s.pointer.2 CROSSING_MODE_UNGRAB { s with lastEnteredWindow := grabWindow }) ↔
      grabWindow = rootWindow ∨ PlainCrossing s grabWindow rootWindow) := by
  constructor
  · have hpend : (emitGrabCrossingEvents grabWindow s).pendingEvents = s.pendingEvents ++ chunksExact 32
        ((produced grabWindow s.pointer.1 s.pointer.2 CROSSING_MODE_GRAB s).flatMap (·.bytes s.msbFirst)) := rfl
    rw [queuedWhole_iff hpend]
    by_cases hmvd : s.lastEnteredWindow = grabWindow
    · rw [produced_unmoved hmvd]
      exact iff_of_true (fun e he => absurd he not_mem_nil) (.inl hmvd)
    · rw [produced_plain_iff hmvd]
      exact (or_iff_right hmvd).symm
  · by_cases hroot : grabWindow = rootWindow
    · have hnothing : produced rootWindow s.pointer.1 s.pointer.2 CROSSING_MODE_UNGRAB
          { s with lastEnteredWindow := grabWindow } = [] := produced_unmoved hroot
      rw [hnothing, emitUngrabCrossingEvents, if_pos hroot]
      refine iff_of_true ⟨(append_nil _).symm, fun seq => ?_⟩ (.inl hroot)
      rw [drop_length]
      rfl
    · have hpend : (emitUngrabCrossingEvents grabWindow s).pendingEvents = s.pendingEvents ++ chunksExact 32
          ((produced rootWindow s.pointer.1 s.pointer.2 CROSSING_MODE_UNGRAB
            { s with lastEnteredWindow := grabWindow }).flatMap (·.bytes s.msbFirst)) := by
        rw [emitUngrabCrossingEvents, if_neg hroot]
        rfl
      rw [queuedWhole_iff hpend, produced_plain_iff hroot, plainCrossing_from]
      exact (or_iff_right hroot).symm

/-- A client that selects XInput2 crossings on one of its windows, with the pointer in the root. -/
def xiWatcher : GrabClient where
  toPointerState := { inCousin with lastEnteredWindow := rootWindow, pressedKeys := List.replicate 32 0 }
  pointer := (0, 0)
  selections := [⟨1, MASTER_POINTER_ID, [2 ^ ENTER_EVENT]⟩]
  pendingEvents := []

/-- The XInput2 event of a grab is cut up. -/
theorem grab_cuts_crossing : ¬∀ (s : GrabClient) (grabWindow : XId),
    QueuedWhole s (emitGrabCrossingEvents grabWindow s)
      (produced grabWindow s.pointer.1 s.pointer.2 CROSSING_MODE_GRAB s) := by
  intro h
  have hall := (h xiWatcher 1).whole
  have hlengths := congrArg (List.map List.length) hall
  exact absurd hlengths (by decide +kernel)

end X11Web.GrabCrossings
