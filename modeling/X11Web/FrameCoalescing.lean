import X11Web.ClientRenderer
import X11Web.RtcReassembler

namespace X11Web.FrameCoalescing

open Windows Overwrites Runs Layers List
open ClientRenderer RtcDriver RtcReassembler

structure MediaFrontend where
  reassembler : Reassembler
  renderers : Renderers

section Model

variable (br : Browser) (decodeFrame : Bytes → Option Frame) (start : Renderers)

def onMessage (buf : Bytes) (f : MediaFrontend) : MediaFrontend where
  reassembler := (onChunk buf f.reassembler).1
  renderers := ((onChunk buf f.reassembler).2.bind decodeFrame).elim f.renderers
    (fun frame => routeFrame br frame f.renderers)

def frontend (accepted : List Bytes) : MediaFrontend :=
  accepted.foldl (fun f buf => onMessage br decodeFrame buf f) ⟨.new, start⟩

def images (messages : List Bytes) : List PutImage :=
  (messages.filterMap decodeFrame).filterMap Frame.putImage?

def lastTaken (d : Drive) : Option Bytes :=
  (d.mediaSent.take (d.mediaSent.length - d.dcRx.length)).getLast?

/-- What the next turn to the queue throws away: the message whose chunks are
not all written, and all that is queued before the latest one. -/
def dropped (d : Drive) : List Bytes :=
  (if d.pending = [] then [] else (lastTaken d).toList) ++ d.dcRx.dropLast

/-- The message paints nothing, or the latest one is an image of the same window
that paints opaquely wherever this one paints, on a canvas of the same size. -/
def Superseded (renderers : Renderers) (message latest : Bytes) : Prop :=
  ∀ u, decodeFrame message = some (.putImage u) →
    ∃ v, decodeFrame latest = some (.putImage v) ∧ v.windowId = u.windowId ∧
      ((renderers u.windowId).isSome ∨ freshSize v = freshSize u) ∧
      ∀ size z, (putLayer br size u z).isSome →
        ∃ c, putLayer br size v z = some c ∧ c.isOpaque = true

/-- The channel stays open and takes each chunk or reports that it is full; where
messages are thrown away, the latest one makes up for each of them, and its
identifier is not half of all identifiers ahead of the receiver. -/
def KeepsPixels (d : Drive) : DriveAction → Prop
  | .recvMedia => ∀ latest, d.dcRx.getLast? = some latest →
      latest.length ≤ 65535 * chunkPayloadBytes ∧
      (∀ id, (frontend br decodeFrame start d.mediaAccepted).reassembler.latestSeen = some id →
        isStrictlyOlder id d.nextMsgId = true) ∧
      ∀ message ∈ dropped d,
        Superseded br decodeFrame (frontend br decodeFrame start d.mediaAccepted).renderers message
          latest
  | .drainPending outcome => ∀ i, outcome i ≠ .failed
  | .channelClose id => d.mediaChannelId ≠ some id
  | _ => True

end Model

/-- The media channel has opened and nothing has been sent. -/
structure Opened (d : Drive) : Prop where
  mediaChannelId : d.mediaChannelId.isSome
  dcRx : d.dcRx = []
  pending : d.pending = []
  mediaSent : d.mediaSent = []
  mediaAccepted : d.mediaAccepted = []

def parts (message : Bytes) : List Bytes := if message = [] then [[]] else pieces message

def wire (k : UInt32) (total i : Nat) (rest : List Bytes) : List Bytes :=
  (rest.zipIdx i).map (fun p => makeChunk k (UInt16.ofNat p.2) (UInt16.ofNat total) p.1)

variable (p : Bytes)

theorem flatten_slices (c n : Nat) :
    ((List.range n).map (fun i => slice p (i * c) c)).flatten = p.take (n * c) := by
  induction n with
  | zero => simp
  | succ n ih =>
    rw [range_succ, map_append, flatten_append, ih, Nat.succ_mul, take_add]
    simp [slice]

theorem flatten_pieces : (pieces p).flatten = p := by
  rw [pieces, flatten_slices, take_of_length_le]
  have hpos : 0 < chunkPayloadBytes := by decide
  have := Nat.div_add_mod (p.length + chunkPayloadBytes - 1) chunkPayloadBytes
  have := Nat.mod_lt (p.length + chunkPayloadBytes - 1) hpos
  rw [Nat.mul_comm]
  omega

theorem flatten_parts : (parts p).flatten = p := by
  rw [parts]
  split
  · rename_i h
    simp [h]
  · exact flatten_pieces p

theorem parts_ne_nil : parts p ≠ [] := by
  intro h
  have hflat := flatten_parts p
  rw [h] at hflat
  rw [parts, if_pos (by simpa using hflat.symm)] at h
  cases h

theorem length_parts_le {p : Bytes} (h : p.length ≤ 65535 * chunkPayloadBytes) :
    (parts p).length ≤ 65535 := by
  rw [parts]
  split
  · decide
  · rw [pieces, length_map, length_range]
    have hpos : 0 < chunkPayloadBytes := by decide
    rw [Nat.div_le_iff_le_mul_add_pred hpos]
    omega

theorem chunk_eq {p : Bytes} (k : UInt32) (h : p.length ≤ 65535 * chunkPayloadBytes) :
    (chunk k p).1 = wire k (parts p).length 0 (parts p) := by
  have hle := length_parts_le h
  rw [chunk, wire]
  by_cases hp : p = []
  · simp [hp, parts]
  · simp only [parts, hp, if_false] at hle ⊢
    rw [Nat.min_eq_left hle]

section Painting

variable {br : Browser} {decodeFrame : Bytes → Option Frame} {start renderers : Renderers}

theorem images_append (ms ms' : List Bytes) :
    images decodeFrame (ms ++ ms') = images decodeFrame ms ++ images decodeFrame ms' := by
  simp [images, filterMap_append]

theorem images_singleton (message : Bytes) :
    images decodeFrame [message] = ((decodeFrame message).bind Frame.putImage?).toList := by
  cases h : decodeFrame message with
  | none => simp [images, h]
  | some frame => cases frame <;> simp [images, h, Frame.putImage?, filterMap_cons]

theorem renderAll_append (us us' : List PutImage) (renderers : Renderers) :
    renderAll br (us ++ us') renderers = renderAll br us' (renderAll br us renderers) :=
  foldl_append

theorem route_eq (message : Bytes) (renderers : Renderers) :
    (decodeFrame message).elim renderers (fun frame => routeFrame br frame renderers) =
      renderAll br (images decodeFrame [message]) renderers := by
  rw [images_singleton]
  cases decodeFrame message with
  | none => rfl
  | some frame => cases frame <;> rfl

theorem routePutImage_superseded {u v : PutImage} (hwin : v.windowId = u.windowId)
    (hsize : (renderers u.windowId).isSome ∨ freshSize v = freshSize u)
    (hcvs : ∀ size z, (putLayer br size u z).isSome →
      ∃ c, putLayer br size v z = some c ∧ c.isOpaque = true) :
    routePutImage br v (routePutImage br u renderers) = routePutImage br v renderers := by
  have hpush : ∀ r, pushPutImage br v (pushPutImage br u r) = pushPutImage br v r := by
    intro r
    rw [pushPutImage, pushPutImage, pushPutImage]
    congr 1
    funext z
    simp only [paint]
    cases hu : putLayer br (r.width, r.height) u z with
    | none => rfl
    | some c =>
      obtain ⟨c', hv, hsolid⟩ := hcvs (r.width, r.height) z (by simp [hu])
      simp [hv, br.opaque_over _ _ hsolid]
  rw [routePutImage, routePutImage, routePutImage, hwin, Function.update_self,
    Function.update_idem, Option.getD_some, hpush]
  cases hcnv : renderers u.windowId with
  | some r => rfl
  | none =>
    rw [hcnv] at hsize
    have hfresh : freshSize v = freshSize u := by simpa using hsize
    rw [Option.getD_none, Option.getD_none, hfresh]

theorem routePutImage_isSome {w : WindowId} (u : PutImage) (h : (renderers w).isSome) :
    (routePutImage br u renderers w).isSome := by
  rw [routePutImage]
  by_cases hw : w = u.windowId
  · subst hw; simp
  · simpa [hw] using h

theorem Superseded.mono {renderers' : Renderers} {message latest : Bytes}
    (h : Superseded br decodeFrame renderers message latest)
    (hmono : ∀ w, (renderers w).isSome → (renderers' w).isSome) :
    Superseded br decodeFrame renderers' message latest := by
  intro u hu
  obtain ⟨v, hv, hwin, hsize, hcvs⟩ := h u hu
  exact ⟨v, hv, hwin, hsize.imp_left (hmono _), hcvs⟩

theorem renderAll_superseded {messages : List Bytes} {latest : Bytes}
    (h : ∀ m ∈ messages, Superseded br decodeFrame renderers m latest) :
    renderAll br (images decodeFrame (messages ++ [latest])) renderers =
      renderAll br (images decodeFrame [latest]) renderers := by
  induction messages generalizing renderers with
  | nil => rfl
  | cons m ms ih =>
    rw [cons_append, ← singleton_append, images_append, renderAll_append]
    have hrest : ∀ m' ∈ ms, Superseded br decodeFrame
        (renderAll br (images decodeFrame [m]) renderers) m' latest := by
      intro m' hm'
      refine (h m' (by simp [hm'])).mono fun w hw => ?_
      rw [← route_eq]
      cases hfrm : decodeFrame m with
      | none => exact hw
      | some frame =>
        cases frame with
        | putImage u => exact routePutImage_isSome u hw
        | thumbnail t => exact hw
    rw [ih hrest]
    rw [images_singleton m]
    cases hfrm : decodeFrame m with
    | none => rfl
    | some frame =>
      cases frame with
      | thumbnail t => rfl
      | putImage u =>
        obtain ⟨v, hv, hwin, hsize, hcvs⟩ := h m (by simp) u hfrm
        rw [images_singleton latest, hv]
        exact routePutImage_superseded hwin hsize hcvs

end Painting

section Sending

variable {br : Browser} {decodeFrame : Bytes → Option Frame} {f : MediaFrontend}

def OnlyLatest (r : Reassembler) : Prop := ∀ id, id ∈ r.partials → r.latestSeen = some id

/-- The queued chunks are those of `message` that the receiver expects next. -/
def Sending (r : Reassembler) (pending : List Bytes) (message : Bytes) : Prop :=
  ∃ k got rest, parts message = got ++ rest ∧ rest ≠ [] ∧ (parts message).length ≤ 65535 ∧
    pending = wire k (parts message).length got.length rest ∧
    Expects r k (parts message).length got

variable {r : Reassembler}

theorem onlyLatest_of_collects {k : UInt32} {total : Nat} {got : List Bytes}
    (h : Collects r k total got) : OnlyLatest r := by
  intro id hid
  rw [← Finmap.lookup_isSome, h.partials] at hid
  split at hid
  · rename_i hk
    rw [hk, h.latest]
  · cases hid

theorem onlyLatest_of_completed {k : UInt32} (h : Completed r k) : OnlyLatest r := by
  intro id hid
  rw [← Finmap.lookup_isSome, h.partials] at hid
  cases hid

theorem wire_cons (k : UInt32) (total i : Nat) (part : Bytes) (rest : List Bytes) :
    wire k total i (part :: rest) =
      makeChunk k (UInt16.ofNat i) (UInt16.ofNat total) part :: wire k total (i + 1) rest := rfl

variable {message : Bytes}

theorem Sending.pending_ne_nil {pending : List Bytes} (h : Sending r pending message) : pending ≠ [] := by
  obtain ⟨k, got, rest, -, hrest, -, rfl, -⟩ := h
  obtain ⟨part, rest, rfl⟩ := exists_cons_of_ne_nil hrest
  simp [wire_cons]

theorem Sending.accept (br : Browser) (decodeFrame : Bytes → Option Frame) {c : Bytes} {cs : List Bytes}
    (h : Sending f.reassembler (c :: cs) message) :
    OnlyLatest (onMessage br decodeFrame c f).reassembler ∧
      ((cs = [] ∧ (onMessage br decodeFrame c f).renderers =
          renderAll br (images decodeFrame [message]) f.renderers) ∨
        (Sending (onMessage br decodeFrame c f).reassembler cs message ∧
          (onMessage br decodeFrame c f).renderers = f.renderers)) := by
  obtain ⟨k, got, rest, hpts, hrest, hle, hwire, hexpects⟩ := h
  obtain ⟨part, rest, rfl⟩ := exists_cons_of_ne_nil hrest
  rw [wire_cons, List.cons.injEq] at hwire
  obtain ⟨rfl, rfl⟩ := hwire
  have hlen : (parts message).length = got.length + (rest.length + 1) := by simp [hpts]
  obtain ⟨noted, hlatest, hoths, honChk⟩ :=
    onChunk_expected hexpects (by omega) hle part
  obtain ⟨hmore, hlast⟩ := storeChunk_collected hlatest hoths
    (show got.length < (parts message).length by omega) part
  simp only [onMessage, honChk]
  cases rest with
  | nil =>
    obtain ⟨hout, hcompleted⟩ := hlast (by simp [hlen])
    refine ⟨onlyLatest_of_completed hcompleted, .inl ⟨rfl, ?_⟩⟩
    rw [hout, ← hpts, flatten_parts]
    exact route_eq message f.renderers
  | cons next rest =>
    obtain ⟨hout, hcols⟩ := hmore (by simp [hlen])
    refine ⟨onlyLatest_of_collects hcols, .inr ⟨?_, by rw [hout]; rfl⟩⟩
    refine ⟨k, got ++ [part], next :: rest, by simp [hpts], by simp, hle, by simp, .inr ⟨by simp, ?_⟩⟩
    exact hcols

theorem writeChunks_append (outcome : Nat → WriteOutcome) (h : ∀ i, outcome i ≠ .failed) (i : Nat)
    (pending : List Bytes) :
    (writeChunks outcome i pending).1 ++ (writeChunks outcome i pending).2 = pending := by
  induction pending generalizing i with
  | nil => rfl
  | cons c cs ih =>
    rw [writeChunks]
    cases houtcome : outcome i with
    | accepted => simp [ih]
    | full => rfl
    | failed => exact absurd houtcome (h i)
    | noChannel => rfl

theorem Sending.acceptAll (br : Browser) (decodeFrame : Bytes → Option Frame)
    {acc rest : List Bytes} (honly : OnlyLatest f.reassembler)
    (h : Sending f.reassembler (acc ++ rest) message) :
    OnlyLatest (acc.foldl (fun f c => onMessage br decodeFrame c f) f).reassembler ∧
      ((rest = [] ∧ (acc.foldl (fun f c => onMessage br decodeFrame c f) f).renderers =
          renderAll br (images decodeFrame [message]) f.renderers) ∨
        (Sending (acc.foldl (fun f c => onMessage br decodeFrame c f) f).reassembler rest message ∧
          (acc.foldl (fun f c => onMessage br decodeFrame c f) f).renderers = f.renderers)) := by
  induction acc generalizing f with
  | nil => exact ⟨honly, .inr ⟨h, rfl⟩⟩
  | cons c acc ih =>
    rw [foldl_cons]
    obtain ⟨honly', hdone | ⟨hsndg, hsame⟩⟩ := h.accept br decodeFrame
    · obtain ⟨hnil, hpntd⟩ := hdone
      obtain ⟨rfl, rfl⟩ := append_eq_nil_iff.mp hnil
      exact ⟨honly', .inl ⟨rfl, hpntd⟩⟩
    · rw [← hsame]
      exact ih honly' hsndg

end Sending

section Run

variable (br : Browser) (decodeFrame : Bytes → Option Frame) (start : Renderers)

/-- The frontend has painted the messages `painted` and is receiving `current`,
and these with the queue paint what all messages sent so far would. -/
structure InStep (d : Drive) (painted : List Bytes) (current : Option Bytes) : Prop where
  isOpen : d.mediaChannelId.isSome
  rendered : (frontend br decodeFrame start d.mediaAccepted).renderers =
    renderAll br (images decodeFrame painted) start
  onlyLatest : OnlyLatest (frontend br decodeFrame start d.mediaAccepted).reassembler
  idle : current = none → d.pending = []
  sending : ∀ m, current = some m → lastTaken d = some m ∧
    Sending (frontend br decodeFrame start d.mediaAccepted).reassembler d.pending m
  queued : d.dcRx <:+ d.mediaSent
  complete : renderAll br (images decodeFrame d.mediaSent) start =
    renderAll br (images decodeFrame (painted ++ current.toList ++ d.dcRx)) start

variable {br decodeFrame start} {d d' : Drive} {painted : List Bytes} {current : Option Bytes}

theorem frontend_append (accepted acc : List Bytes) :
    frontend br decodeFrame start (accepted ++ acc) =
      acc.foldl (fun f c => onMessage br decodeFrame c f) (frontend br decodeFrame start accepted) :=
  foldl_append

theorem InStep.sendMedia (h : InStep br decodeFrame start d painted current) (data : Bytes) :
    InStep br decodeFrame start
      { d with dcRx := d.dcRx ++ [data], mediaSent := d.mediaSent ++ [data] } painted current := by
  have htkn : lastTaken { d with dcRx := d.dcRx ++ [data], mediaSent := d.mediaSent ++ [data] } =
      lastTaken d := by
    have hle := h.queued.length_le
    simp only [lastTaken, length_append, length_singleton]
    rw [take_append_of_le_length (by omega)]
    congr 2
    omega
  refine ⟨h.isOpen, h.rendered, h.onlyLatest, h.idle, ?_, ?_, ?_⟩
  · intro m hm
    rw [htkn]
    exact h.sending m hm
  · obtain ⟨taken, htkn⟩ := h.queued
    exact ⟨taken, by simp [← htkn]⟩
  · dsimp only
    rw [← append_assoc, images_append, images_append _ [data], renderAll_append,
      renderAll_append, h.complete]

theorem InStep.drainPending (h : InStep br decodeFrame start d painted current)
    {outcome : Nat → WriteOutcome} (hok : ∀ i, outcome i ≠ .failed) :
    ∃ painted current, InStep br decodeFrame start (drainPending outcome d) painted current := by
  have hspl := writeChunks_append outcome hok 0 d.pending
  rw [RtcDriver.drainPending, if_pos h.isOpen]
  cases current with
  | none =>
    have hidle : d.pending = [] := h.idle rfl
    refine ⟨painted, none, h.isOpen, ?_, ?_, ?_, by simp, h.queued, h.complete⟩
    · simpa [hidle, writeChunks] using h.rendered
    · simpa [hidle, writeChunks] using h.onlyLatest
    · simp [hidle, writeChunks]
  | some m =>
    obtain ⟨htkn, hsndg⟩ := h.sending m rfl
    rw [← hspl] at hsndg
    obtain ⟨honly, ⟨hrest, hpntd⟩ | ⟨hsndg', hsame⟩⟩ :=
      hsndg.acceptAll br decodeFrame h.onlyLatest
    · -- the last chunk is through: the message counts as painted
      refine ⟨painted ++ [m], none, h.isOpen, ?_, ?_, fun _ => hrest, by simp, h.queued, ?_⟩
      · rw [frontend_append, hpntd, h.rendered, images_append, renderAll_append]
      · rw [frontend_append]
        exact honly
      · simpa using h.complete
    · refine ⟨painted, some m, h.isOpen, ?_, ?_, by simp, ?_, h.queued, h.complete⟩
      · rw [frontend_append, hsame, h.rendered]
      · rw [frontend_append]
        exact honly
      · rintro m' ⟨⟩
        rw [frontend_append]
        exact ⟨htkn, hsndg'⟩

theorem InStep.recvMedia (h : InStep br decodeFrame start d painted current) {data : Bytes}
    {rest : List Bytes} (hq : d.dcRx = data :: rest)
    (hkps : KeepsPixels br decodeFrame start d .recvMedia) :
    InStep br decodeFrame start (RtcDriver.recvMedia data rest d) painted
      (some (rest.getLastD data)) := by
  generalize hlatest : rest.getLastD data = latest
  have hlast : d.dcRx.getLast? = some latest := by
    rw [hq, ← hlatest, List.getLast?_cons, getLastD_eq_getLast?]
  obtain ⟨hlong, hserial, hsuperseded⟩ := hkps latest hlast
  obtain ⟨before, hbef⟩ := List.getLast?_eq_some_iff.mp hlast
  have htkn : lastTaken (RtcDriver.recvMedia data rest d) = some latest := by
    obtain ⟨taken, htkn⟩ := h.queued
    rw [RtcDriver.recvMedia, if_pos h.isOpen, lastTaken, ← htkn, hbef, length_nil,
      Nat.sub_zero, take_length]
    simp
  rw [RtcDriver.recvMedia, if_pos h.isOpen] at htkn ⊢
  simp only [hlatest] at htkn ⊢
  refine ⟨h.isOpen, h.rendered, h.onlyLatest, by simp, ?_, nil_suffix, ?_⟩
  · rintro m ⟨⟩
    refine ⟨htkn, d.nextMsgId, [], parts latest, rfl, parts_ne_nil latest, length_parts_le hlong,
      chunk_eq _ hlong, .inl ⟨rfl, hserial, fun id hid => hserial id (h.onlyLatest id hid)⟩⟩
  · rw [h.complete, hbef]
    have hdropped : current.toList ++ before = dropped d := by
      rw [dropped, hbef, dropLast_concat]
      cases current with
      | none => simp [h.idle rfl]
      | some m =>
        obtain ⟨htkn', hsndg⟩ := h.sending m rfl
        simp [hsndg.pending_ne_nil, htkn']
    rw [show painted ++ current.toList ++ (before ++ [latest]) =
        painted ++ (dropped d ++ [latest]) by rw [← hdropped]; simp,
      images_append, renderAll_append, ← h.rendered, renderAll_superseded hsuperseded, h.rendered,
      ← renderAll_append, ← images_append]
    simp

theorem driveStep_inStep {a : DriveAction} (h : ∃ painted current,
      InStep br decodeFrame start d painted current)
    (hstep : guarded (KeepsPixels br decodeFrame start) driveStep d a d') :
    ∃ painted current, InStep br decodeFrame start d' painted current := by
  obtain ⟨painted, current, h⟩ := h
  obtain ⟨hkps, hstep⟩ := hstep
  cases hstep with
  | sendMedia data => exact ⟨painted, current, h.sendMedia data⟩
  | sendControl data => exact ⟨painted, current, ⟨h.isOpen, h.rendered, h.onlyLatest, h.idle,
      h.sending, h.queued, h.complete⟩⟩
  | drainPending outcome => exact h.drainPending hkps
  | channelOpen id label =>
    refine ⟨painted, current, ?_⟩
    rw [channelOpen]
    split
    · exact ⟨h.isOpen, h.rendered, h.onlyLatest, h.idle, h.sending, h.queued, h.complete⟩
    · exact ⟨rfl, h.rendered, h.onlyLatest, h.idle, h.sending, h.queued, h.complete⟩
  | channelClose id =>
    refine ⟨painted, current, ?_⟩
    rw [channelClose, if_neg hkps]
    split
    · exact ⟨h.isOpen, h.rendered, h.onlyLatest, h.idle, h.sending, h.queued, h.complete⟩
    · exact h
  | recvMedia data rest hq => exact ⟨painted, _, h.recvMedia hq hkps⟩
  | recvControl outcome data rest hq =>
    refine ⟨painted, current, ?_⟩
    rw [recvControl]
    split <;>
      exact ⟨h.isOpen, h.rendered, h.onlyLatest, h.idle, h.sending, h.queued, h.complete⟩

theorem Opened.inStep (h : Opened d) : InStep br decodeFrame start d [] none := by
  refine ⟨h.mediaChannelId, ?_, ?_, fun _ => h.pending, by simp, by simp [h.dcRx], ?_⟩
  · rw [h.mediaAccepted]
    rfl
  · rw [h.mediaAccepted]
    intro id hid
    exact absurd hid Finmap.notMem_empty
  · rw [h.mediaSent, h.dcRx]
    rfl

/-- Where every message that is thrown away is made up for, the canvases are
those of all messages as soon as the queues are empty. -/
theorem guardedRun_canvases {actions : List DriveAction} (hopd : Opened d)
    (hrun : Run (guarded (KeepsPixels br decodeFrame start) driveStep) d actions d')
    (hq : d'.dcRx = []) (hpend : d'.pending = []) :
    (frontend br decodeFrame start d'.mediaAccepted).renderers =
      renderAll br (images decodeFrame d'.mediaSent) start := by
  obtain ⟨painted, current, h⟩ := hrun.invariant
    (I := fun d => ∃ painted current, InStep br decodeFrame start d painted current)
    (fun _ _ _ => driveStep_inStep) ⟨[], none, hopd.inStep⟩
  have hidle : current = none := by
    cases current with
    | none => rfl
    | some m => exact absurd hpend (h.sending m rfl).2.pending_ne_nil
  rw [h.rendered, h.complete, hidle, hq]
  simp

end Run

/-- The message of one red pixel at the origin of the window whose name is one
character. -/
def redFrame (name : UInt8) : Bytes :=
  [0, 0, 0, 0, 11, 0, 0, 0, 0, 0, 0, 0, 1, 0, 1, 0, 1, 0, 0, 0, 0, 0, 0, 0, 0, 0, 0, 0, 1, 0, 2, 0, 0,
    0, 0, 0, 1, 0, 1, 0, 5, 0, 0, 0, 18, 0, 0, 0, 5, 0, 0, 0, 2, 1, 0, 0, name, 0, 0, 0, 0, 0, 0, 0] ++
    redWebp

def decodeRed (buf : Bytes) : Option Frame :=
  if buf = redFrame 49 then some (.putImage ⟨1, 0, 0, 1, 1, redWebp⟩)
  else if buf = redFrame 50 then some (.putImage ⟨2, 0, 0, 1, 1, redWebp⟩)
  else none

def opened : Drive := channelOpen 1 "putimage" Drive.new

theorem opened_opened : Opened opened := ⟨rfl, rfl, rfl, rfl, rfl⟩

/-- Messages are sent, the queue is taken, and every chunk is written. -/
def sendAndWrite (messages : List Bytes) : List DriveAction :=
  messages.map .sendMedia ++ [.recvMedia, .drainPending (fun _ => .accepted)]

def noCanvas : Renderers := fun _ => none

def queued : Drive :=
  { opened with dcRx := [redFrame 49, redFrame 49], mediaSent := [redFrame 49, redFrame 49] }

def arrived : Drive := drainPending (fun _ => .accepted) (recvMedia (redFrame 49) [redFrame 49] queued)

theorem queued_keepsPixels : KeepsPixels redBrowser decodeRed noCanvas queued .recvMedia := by
  intro latest hlatest
  obtain rfl : redFrame 49 = latest := by simpa [queued] using hlatest
  refine ⟨by decide +kernel, fun id hid => ?_, fun m hm => ?_⟩
  · cases hid
  · obtain rfl : m = redFrame 49 := by
      simpa [dropped, queued, opened, channelOpen, Drive.new] using hm
    refine fun u hu => ⟨u, hu, rfl, .inr rfl, fun size z hz => ?_⟩
    obtain ⟨c, hc⟩ := Option.isSome_iff_exists.mp hz
    exact ⟨c, hc, isOpaque_of_putLayer redBrowser (isOpaque_red u) hc⟩

/-- Two frames of a window are queued: the first is thrown away, and the second arrives. -/
theorem guardedRun_canvases_latest :
    Run (guarded (KeepsPixels redBrowser decodeRed noCanvas) driveStep) opened
        (sendAndWrite [redFrame 49, redFrame 49]) arrived ∧ arrived.dcRx = [] ∧ arrived.pending = [] ∧
      (frontend redBrowser decodeRed noCanvas arrived.mediaAccepted).renderers =
        renderAll redBrowser (images decodeRed arrived.mediaSent) noCanvas := by
  have hrun : Run (guarded (KeepsPixels redBrowser decodeRed noCanvas) driveStep) opened
      (sendAndWrite [redFrame 49, redFrame 49]) arrived := by
    refine .cons ⟨trivial, .sendMedia opened (redFrame 49)⟩ (.cons ⟨trivial, .sendMedia _ (redFrame 49)⟩
      (.cons ⟨queued_keepsPixels, .recvMedia _ (redFrame 49) [redFrame 49] rfl⟩
        (.cons ⟨?_, .drainPending _ _⟩ (.nil _))))
    exact fun _ h => by cases h
  have hq : arrived.dcRx = [] := by decide +kernel
  have hpend : arrived.pending = [] := by decide +kernel
  exact ⟨hrun, hq, hpend, guardedRun_canvases opened_opened hrun hq hpend⟩

/-- Images of two windows in the queue: the first window stays without a canvas,
though every write is accepted. -/
theorem second_window_drops_first :
    ∃ d, Run driveStep opened (sendAndWrite [redFrame 49, redFrame 50]) d ∧ d.dcRx = [] ∧
      d.pending = [] ∧
      (frontend redBrowser decodeRed noCanvas d.mediaAccepted).renderers ≠
        renderAll redBrowser (images decodeRed d.mediaSent) noCanvas := by
  refine ⟨_, .cons (.sendMedia opened (redFrame 49)) (.cons (.sendMedia _ (redFrame 50))
    (.cons (.recvMedia _ (redFrame 49) [redFrame 50] rfl)
      (.cons (.drainPending _ (fun _ => .accepted)) (.nil _)))), by decide +kernel,
    by decide +kernel, fun hsame => ?_⟩
  have hwin := congrArg (fun renderers : Renderers => (renderers 1).isSome) hsame
  revert hwin
  decide +kernel

end X11Web.FrameCoalescing
