import X11Web.Resumable
import X11Web.Windows

namespace X11Web.Framing

open Windows List

def bigRequestMinBytes : Nat := 8
def bigRequestMaxBytes : Nat := 16 * 1024 * 1024

/-- What the request loop finds at the head of its buffer. -/
inductive Framed
  | wait
  | rejected (opcode : UInt8) (rest : Bytes)
  | invalid
  | extended (raw rest : Bytes)
  | regular (raw rest : Bytes)
deriving DecidableEq

/-- A length of 0 announces a 32-bit length; a client that has not enabled
BIG-REQUESTS is told off instead. -/
def nextFrame (msb big : Bool) (pending : Bytes) : Framed :=
  if pending.length < 4 then .wait
  else if readU16 msb pending 2 * 4 = 0 then
    if big = false then .rejected (pending.getD 0 0) (pending.drop 4)
    else if pending.length < 8 then .wait
    else if readU32 msb pending 4 * 4 < bigRequestMinBytes ∨
        bigRequestMaxBytes < readU32 msb pending 4 * 4 then .invalid
    else if pending.length < readU32 msb pending 4 * 4 then .wait
    else .extended (pending.take (readU32 msb pending 4 * 4))
      (pending.drop (readU32 msb pending 4 * 4))
  else if pending.length < readU16 msb pending 2 * 4 then .wait
  else .regular (pending.take (readU16 msb pending 2 * 4))
    (pending.drop (readU16 msb pending 2 * 4))

def toLeBytes16 (n : Nat) : Bytes := [UInt8.ofNat n, UInt8.ofNat (n / 2 ^ 8)]

/-- Drop the extended length and patch the short one, 0 where it does not fit. -/
def rewriteExtended (raw : Bytes) : Bytes :=
  let words := (raw.length - 4) / 4
  raw.take 2 ++ toLeBytes16 (if words ≤ 65535 then words else 0) ++ raw.drop 8

def lengthError : Nat := 16

def buildError (code seq badValue major minor : Nat) : Bytes :=
  [0, UInt8.ofNat code] ++ toLeBytes16 seq ++ toLeBytes32 badValue ++ toLeBytes16 minor ++
    [UInt8.ofNat major] ++ List.replicate 21 0

def byteswapError (err : Bytes) : Bytes :=
  if err.length < 32 ∨ err.getD 0 0 ≠ 0 then err
  else err.take 2 ++ ((err.drop 2).take 2).reverse ++ ((err.drop 4).take 4).reverse ++
    ((err.drop 8).take 2).reverse ++ err.drop 10

def toClientOrder (msb : Bool) (response : Bytes) : Bytes :=
  if msb && response.head? == some 0 then byteswapError response else response

/-- The part of a connection that the request loops themselves keep. -/
structure Conn (σ : Type) where
  rest : σ
  sequence : Nat
  bigRequestsEnabled : Bool

/-- The handlers, RECORD and the window registry, which act on the rest. -/
structure Server (σ : Type) where
  handleCoreRequest : σ → Nat → Bytes → σ × Bytes
  handleExtension : σ → Nat → Bytes → σ × Bytes
  recordInterceptRequest : σ → Nat → Bytes → σ
  recordInterceptResponse : σ → Nat → Bytes → UInt8 → UInt8 → σ
  syncWindows : σ → σ
  blocked : σ → Bool

variable {σ : Type}

def Conn.count (c : Conn σ) : Conn σ := { c with sequence := (c.sequence + 1) % 2 ^ 16 }

def Conn.update (c : Conn σ) (f : σ → σ) : Conn σ := { c with rest := f c.rest }

def bigRequestsOpcode : UInt8 := 133

def bigRequestsMaxLenWords : Nat := 16 * 1024 * 1024 / 4

def toClientBytes (msb : Bool) (bytes : Bytes) : Bytes := if msb then bytes.reverse else bytes

def enableReply (msb : Bool) (seq : Nat) : Bytes :=
  [1, 0] ++ toClientBytes msb (toLeBytes16 seq) ++ [0, 0, 0, 0] ++
    toClientBytes msb (toLeBytes32 bigRequestsMaxLenWords) ++ List.replicate 20 0

/-- The dispatcher, with the one extension handler that the loops depend on. -/
def handleRequest (srv : Server σ) (msb : Bool) (c : Conn σ) (data : Bytes) : Conn σ × Bytes :=
  if data.length < 4 then (c, [])
  else if data.getD 0 0 ≤ 127 then
    let (rest, response) := srv.handleCoreRequest c.rest c.sequence data
    ({ c with rest := rest }, response)
  else if data.getD 0 0 = bigRequestsOpcode then
    ({ c with bigRequestsEnabled := true }, enableReply msb c.sequence)
  else
    let (rest, response) := srv.handleExtension c.rest c.sequence data
    ({ c with rest := rest }, response)

def interceptRequest (srv : Server σ) (c : Conn σ) (data : Bytes) : Conn σ :=
  c.update fun s => srv.recordInterceptRequest s c.sequence data

def interceptResponse (srv : Server σ) (c : Conn σ) (data response : Bytes) : Conn σ :=
  if response = [] then c
  else c.update fun s =>
    srv.recordInterceptResponse s c.sequence response (data.getD 0 0) (data.getD 1 0)

/-- What a loop does: its calls of `handle_request`, what it writes in each of
its rounds, and what it leaves behind. -/
structure Outcome (σ : Type) where
  calls : List (Nat × Bytes)
  replies : List Bytes
  conn : Conn σ
  pending : Bytes
  blocked : Bool

def Outcome.after (calls : List (Nat × Bytes)) (reply : Bytes) (o : Outcome σ) : Outcome σ :=
  { o with calls := calls ++ o.calls, replies := reply :: o.replies }

def Outcome.written (o : Outcome σ) : Bytes := o.replies.flatten

def rejectExtended (msb : Bool) (c : Conn σ) (opcode : UInt8) : Conn σ × Bytes :=
  (c.count, if msb then byteswapError (buildError lengthError c.count.sequence 0 opcode.toNat 0)
    else buildError lengthError c.count.sequence 0 opcode.toNat 0)

def serveExtended (srv : Server σ) (msb : Bool) (c : Conn σ) (raw : Bytes) : Conn σ × Bytes :=
  let (c', response) := handleRequest srv msb c.count (rewriteExtended raw)
  (c'.update srv.syncWindows, toClientOrder msb response)

def serveRegular (srv : Server σ) (msb : Bool) (c : Conn σ) (raw : Bytes) : Conn σ × Bytes :=
  let (c', response) := handleRequest srv msb (interceptRequest srv c.count raw) raw
  (interceptResponse srv (c'.update srv.syncWindows) raw (toClientOrder msb response),
    toClientOrder msb response)

def deferExtended (srv : Server σ) (msb : Bool) (c : Conn σ) (raw : Bytes) : Conn σ × Bytes :=
  handleRequest srv msb c.count raw

def deferRegular (srv : Server σ) (msb : Bool) (c : Conn σ) (raw : Bytes) : Conn σ × Bytes :=
  let (c', response) := handleRequest srv msb (interceptRequest srv c.count raw) raw
  (interceptResponse srv c' raw response, response)

/-- The request loop of the read path. The fuel is the number of bytes at hand,
of which every round takes some. -/
def readLoop (srv : Server σ) (msb : Bool) : Nat → Conn σ → Bytes → Outcome σ
  | 0, c, pending => ⟨[], [], c, pending, false⟩
  | n + 1, c, pending =>
    if 4 ≤ pending.length ∧ srv.blocked c.rest then ⟨[], [], c, pending, true⟩
    else
      match nextFrame msb c.bigRequestsEnabled pending with
      | .wait => ⟨[], [], c, pending, false⟩
      | .invalid => ⟨[], [], c, [], false⟩
      | .rejected opcode rest =>
        let (c', reply) := rejectExtended msb c opcode
        (readLoop srv msb n c' rest).after [] reply
      | .extended raw rest =>
        let (c', reply) := serveExtended srv msb c raw
        (readLoop srv msb n c' rest).after [(c.count.sequence, rewriteExtended raw)] reply
      | .regular raw rest =>
        let (c', reply) := serveRegular srv msb c raw
        (readLoop srv msb n c' rest).after [(c.count.sequence, raw)] reply

/-- The second copy of the loop, which a frame tick runs after an Await. It
takes every extended request and hands it over as it came. -/
def deferredLoop (srv : Server σ) (msb : Bool) : Nat → Conn σ → Bytes → Outcome σ
  | 0, c, pending => ⟨[], [], c, pending, false⟩
  | n + 1, c, pending =>
    if 4 ≤ pending.length ∧ srv.blocked c.rest then ⟨[], [], c, pending, true⟩
    else
      match nextFrame msb true pending with
      | .wait | .rejected _ _ => ⟨[], [], c, pending, false⟩
      | .invalid => ⟨[], [], c, [], false⟩
      | .extended raw rest =>
        let (c', reply) := deferExtended srv msb c raw
        (deferredLoop srv msb n c' rest).after [(c.count.sequence, raw)] reply
      | .regular raw rest =>
        let (c', reply) := deferRegular srv msb c raw
        (deferredLoop srv msb n c' rest).after [(c.count.sequence, raw)] reply

def readRequests (srv : Server σ) (msb : Bool) (c : Conn σ) (pending : Bytes) : Outcome σ :=
  readLoop srv msb pending.length c pending

def deferredRequests (srv : Server σ) (msb : Bool) (c : Conn σ) (pending : Bytes) : Outcome σ :=
  deferredLoop srv msb pending.length c pending

section Frames

variable {msb big : Bool} {pending raw rest : Bytes} {opcode : UInt8}

theorem readU16_append (b : Bytes) {i : Nat} (h : i + 2 ≤ raw.length) :
    readU16 msb (raw ++ b) i = readU16 msb raw i := by
  simp only [readU16, getD_eq_getElem?_getD]
  rw [List.getElem?_append_left (by omega), List.getElem?_append_left (by omega)]

theorem readU32_append (b : Bytes) {i : Nat} (h : i + 4 ≤ raw.length) :
    readU32 msb (raw ++ b) i = readU32 msb raw i := by
  simp only [readU32]
  rw [readU16_append b (by omega), readU16_append b (by omega), readU16_append b (by omega),
    readU16_append b (by omega)]

theorem take_drop_eq_iff {k : Nat} (hk : k ≤ pending.length) :
    (pending.take k = raw ∧ pending.drop k = rest) ↔ pending = raw ++ rest ∧ raw.length = k := by
  refine ⟨?_, ?_⟩
  · rintro ⟨rfl, rfl⟩
    exact ⟨(take_append_drop k pending).symm, length_take_of_le hk⟩
  · rintro ⟨rfl, rfl⟩
    exact ⟨take_left, drop_left⟩

theorem mul_four_eq_zero {n : Nat} : n * 4 = 0 ↔ n = 0 := by omega

theorem nextFrame_regular_iff : nextFrame msb big pending = .regular raw rest ↔
    pending = raw ++ rest ∧ 4 ≤ raw.length ∧ readU16 msb raw 2 * 4 = raw.length := by
  refine ⟨fun h => ?_, ?_⟩
  · have hfit : 4 ≤ pending.length ∧ readU16 msb pending 2 * 4 ≠ 0 ∧
        readU16 msb pending 2 * 4 ≤ pending.length ∧
        pending.take (readU16 msb pending 2 * 4) = raw ∧
        pending.drop (readU16 msb pending 2 * 4) = rest := by
      simp only [nextFrame] at h
      repeat' split at h
      all_goals simp_all
    obtain ⟨hlen, hzero, hle, hspl⟩ := hfit
    obtain ⟨rfl, hraw⟩ := (take_drop_eq_iff hle).mp hspl
    have hhdr : 2 + 2 ≤ raw.length := by omega
    rw [readU16_append rest hhdr] at hraw
    exact ⟨rfl, hhdr, hraw.symm⟩
  · rintro ⟨rfl, hlen, hfield⟩
    have hread : readU16 msb (raw ++ rest) 2 * 4 = raw.length := by
      rw [readU16_append rest (by omega), hfield]
    have hsh : ¬ (raw ++ rest).length < raw.length := by simp
    have hhdr : ¬ (raw ++ rest).length < 4 := by simp; omega
    have hzero : raw.length ≠ 0 := by omega
    rw [nextFrame, if_neg hhdr, hread, if_neg hzero, if_neg hsh, take_left,
      drop_left]

theorem nextFrame_extended_iff : nextFrame msb big pending = .extended raw rest ↔
    pending = raw ++ rest ∧ big = true ∧ readU16 msb raw 2 = 0 ∧
      readU32 msb raw 4 * 4 = raw.length ∧ bigRequestMinBytes ≤ raw.length ∧
      raw.length ≤ bigRequestMaxBytes := by
  refine ⟨fun h => ?_, ?_⟩
  · have hfit : big = true ∧ readU16 msb pending 2 = 0 ∧
        readU32 msb pending 4 * 4 ≤ pending.length ∧
        bigRequestMinBytes ≤ readU32 msb pending 4 * 4 ∧
        readU32 msb pending 4 * 4 ≤ bigRequestMaxBytes ∧
        pending.take (readU32 msb pending 4 * 4) = raw ∧
        pending.drop (readU32 msb pending 4 * 4) = rest := by
      simp only [nextFrame, mul_four_eq_zero] at h
      repeat' split at h
      all_goals simp_all
    obtain ⟨hbig, hzero, hle, hmin, hmax, hspl⟩ := hfit
    obtain ⟨rfl, hraw⟩ := (take_drop_eq_iff hle).mp hspl
    have hhdr : 4 + 4 ≤ raw.length := hraw ▸ hmin
    rw [readU32_append rest hhdr] at hraw hmin hmax
    rw [readU16_append rest (by omega)] at hzero
    exact ⟨rfl, hbig, hzero, hraw.symm, hraw ▸ hmin, hraw ▸ hmax⟩
  · rintro ⟨rfl, rfl, hzero, hfield, hmin, hmax⟩
    have hhdr : 4 + 4 ≤ raw.length := hmin
    have hread : readU32 msb (raw ++ rest) 4 * 4 = raw.length := by
      rw [readU32_append rest hhdr, hfield]
    have hsh : ∀ k ≤ raw.length, ¬ (raw ++ rest).length < k := by
      intro k hk
      rw [length_append]
      omega
    rw [nextFrame, if_neg (hsh 4 (by omega)), readU16_append rest (by omega), hzero, if_pos rfl,
      if_neg (by simp), if_neg (hsh 8 hhdr), hread, if_neg (by omega),
      if_neg (hsh _ le_rfl), take_left, drop_left]

theorem nextFrame_rejected_iff : nextFrame msb big pending = .rejected opcode rest ↔
    big = false ∧ 4 ≤ pending.length ∧ readU16 msb pending 2 = 0 ∧ pending.getD 0 0 = opcode ∧
      pending.drop 4 = rest := by
  simp only [nextFrame, mul_four_eq_zero]
  repeat' split
  all_goals simp_all

theorem nextFrame_invalid_iff : nextFrame msb big pending = .invalid ↔
    big = true ∧ 8 ≤ pending.length ∧ readU16 msb pending 2 = 0 ∧
      (readU32 msb pending 4 * 4 < bigRequestMinBytes ∨
        bigRequestMaxBytes < readU32 msb pending 4 * 4) := by
  simp only [nextFrame, mul_four_eq_zero]
  repeat' split
  all_goals simp_all
  omega

end Frames

section Rounds

variable {srv : Server σ} {msb : Bool} {n : Nat} {c : Conn σ} {pending raw : Bytes}

def Conn.framing (c : Conn σ) : Bool × Nat := (c.bigRequestsEnabled, c.sequence)

def enables (data : Bytes) : Bool := decide (4 ≤ data.length) && data.getD 0 0 == bigRequestsOpcode

theorem handleRequest_framing (data : Bytes) : (handleRequest srv msb c data).1.framing =
    (c.bigRequestsEnabled || enables data, c.sequence) := by
  simp only [handleRequest, enables, bigRequestsOpcode]
  generalize data.getD 0 0 = opcode
  by_cases hlen : data.length < 4
  · simp [Conn.framing, hlen]
  · by_cases hcore : opcode ≤ 127
    · have hne : opcode ≠ 133 := by
        rintro rfl
        simp at hcore
      simp [Conn.framing, hlen, hcore, hne]
    · by_cases henable : opcode = 133
      · simp [Conn.framing, henable, Nat.le_of_not_lt hlen, hlen]
      · simp [Conn.framing, hlen, hcore, henable]

theorem interceptResponse_framing (data response : Bytes) :
    (interceptResponse srv c data response).framing = c.framing := by
  rw [interceptResponse]
  split
  · rfl
  · rfl

theorem serveRegular_framing : (serveRegular srv msb c raw).1.framing =
    (c.bigRequestsEnabled || enables raw, c.count.sequence) := by
  simp only [serveRegular, interceptResponse_framing]
  exact handleRequest_framing raw

theorem serveExtended_framing : (serveExtended srv msb c raw).1.framing =
    (c.bigRequestsEnabled || enables (rewriteExtended raw), c.count.sequence) :=
  handleRequest_framing (rewriteExtended raw)

theorem deferRegular_framing : (deferRegular srv msb c raw).1.framing =
    (c.bigRequestsEnabled || enables raw, c.count.sequence) := by
  simp only [deferRegular, interceptResponse_framing]
  exact handleRequest_framing raw

theorem readLoop_open (h : (readLoop srv msb (n + 1) c pending).blocked = false) :
    ¬ (4 ≤ pending.length ∧ srv.blocked c.rest) := by
  intro hblock
  rw [readLoop, if_pos hblock] at h
  simp at h

theorem deferredLoop_open (h : (deferredLoop srv msb (n + 1) c pending).blocked = false) :
    ¬ (4 ≤ pending.length ∧ srv.blocked c.rest) := by
  intro hblock
  rw [deferredLoop, if_pos hblock] at h
  simp at h

end Rounds

def requestError : Nat := 1

/-- A server on which NoOperation does nothing and no other request is known. -/
def idleServer : Server Unit where
  handleCoreRequest s seq data :=
    (s, if data.getD 0 0 = 127 then [] else buildError requestError seq 0 (data.getD 0 0).toNat 0)
  handleExtension s seq data :=
    (s, buildError requestError seq (data.getD 0 0).toNat (data.getD 0 0).toNat (data.getD 1 0).toNat)
  recordInterceptRequest s _ _ := s
  recordInterceptResponse s _ _ _ _ := s
  syncWindows s := s
  blocked _ := false

def freshConn : Conn Unit := ⟨(), 0, false⟩

end X11Web.Framing
