import X11Web.Framing

namespace X11Web.DeferredRequests

open Windows Framing List

variable {σ : Type} {srv : Server σ} {msb big : Bool} {n : Nat} {c d : Conn σ}
variable {pending raw rest : Bytes} {opcode : UInt8}

/-- The two loops did the same: the same calls, the same bytes written for each
of them and the same bytes left over. -/
def Agree (o o' : Outcome σ) : Prop :=
  o.calls = o'.calls ∧ o.replies = o'.replies ∧ o.pending = o'.pending

/-- What the handlers answer to one request, RECORD having seen it before. -/
def answer (srv : Server σ) (msb : Bool) (c : Conn σ) (raw : Bytes) : Conn σ × Bytes :=
  handleRequest srv msb (interceptRequest srv c.count raw) raw

def answerOrdered (srv : Server σ) (msb : Bool) (c : Conn σ) (raw : Bytes) : Bytes :=
  toClientOrder msb (answer srv msb c raw).2

/-- The state after an answer, `sync_windows` left out, for RECORD as handed over. -/
def unsynced (srv : Server σ) (msb : Bool) (c : Conn σ) (raw : Bytes) : Conn σ :=
  interceptResponse srv (answer srv msb c raw).1 raw (answer srv msb c raw).2

/-- The state after an answer and `sync_windows`, for RECORD in the client's order. -/
def synced (srv : Server σ) (msb : Bool) (c : Conn σ) (raw : Bytes) : Conn σ :=
  interceptResponse srv ((answer srv msb c raw).1.update srv.syncWindows) raw
    (answerOrdered srv msb c raw)

/-- The buffer holds only requests that both loops take alike: no header to
rewrite, no rejection, and in every round the answer given without the syncs so
far, unswapped, is the one given with them, in the client's order. -/
def KeepsFraming (srv : Server σ) (msb : Bool) : Nat → Conn σ → Conn σ → Bytes → Prop
  | 0, _, _, _ => True
  | n + 1, d, c, pending =>
    match nextFrame msb c.bigRequestsEnabled pending with
    | .wait | .invalid => True
    | .rejected _ _ | .extended _ _ => False
    | .regular raw rest =>
      (answer srv msb d raw).2 = answerOrdered srv msb c raw ∧
        KeepsFraming srv msb n (unsynced srv msb d raw) (synced srv msb c raw) rest

instance decidableKeepsFraming (srv : Server σ) (msb : Bool) :
    (n : Nat) → (d c : Conn σ) → (pending : Bytes) → Decidable (KeepsFraming srv msb n d c pending)
  | 0, _, _, _ => isTrue trivial
  | n + 1, d, c, pending =>
    match h : nextFrame msb c.bigRequestsEnabled pending with
    | .wait | .invalid => isTrue (by simp only [KeepsFraming, h])
    | .rejected _ _ | .extended _ _ => isFalse (by simp only [KeepsFraming, h, not_false_eq_true])
    | .regular raw rest =>
      have := decidableKeepsFraming srv msb n (unsynced srv msb d raw) (synced srv msb c raw) rest
      decidable_of_iff ((answer srv msb d raw).2 = answerOrdered srv msb c raw ∧
        KeepsFraming srv msb n (unsynced srv msb d raw) (synced srv msb c raw) rest)
        (by simp only [KeepsFraming, h])

theorem deferRegular_eq :
    deferRegular srv msb d raw = (unsynced srv msb d raw, (answer srv msb d raw).2) := rfl

theorem serveRegular_eq :
    serveRegular srv msb c raw = (synced srv msb c raw, answerOrdered srv msb c raw) := rfl

theorem agree_after_iff {o o' : Outcome σ} {calls : List (Nat × Bytes)} {reply reply' : Bytes} :
    Agree (o.after calls reply) (o'.after calls reply') ↔ reply = reply' ∧ Agree o o' := by
  simp only [Agree, Outcome.after, append_cancel_left_eq, List.cons.injEq]
  exact ⟨fun ⟨hcalls, ⟨hrep, hreplies⟩, hrest⟩ => ⟨hrep, hcalls, hreplies, hrest⟩,
    fun ⟨hrep, hcalls, hreplies, hrest⟩ => ⟨hcalls, ⟨hrep, hreplies⟩, hrest⟩⟩

theorem nextFrame_true {frame : Framed} (hfrm : nextFrame msb big pending = frame)
    (h : ∀ opcode rest, frame ≠ .rejected opcode rest) : nextFrame msb true pending = frame := by
  cases big with
  | true => exact hfrm
  | false =>
    by_cases hlen : pending.length < 4
    · simpa [nextFrame, hlen] using hfrm
    · by_cases hzero : readU16 msb pending 2 * 4 = 0
      · apply absurd hfrm.symm
        simpa only [nextFrame, hlen, hzero, if_true, if_false] using h _ _
      · simpa [nextFrame, hlen, hzero] using hfrm

theorem count_sequence (h : d.sequence = c.sequence) : d.count.sequence = c.count.sequence := by
  simp only [Conn.count, h]

/-- The fields that the request loop of the read path finds nonzero in the first
request of a client that has not enabled BIG-REQUESTS. -/
theorem readLoop_calls_nonzero (hbig : c.bigRequestsEnabled = false) :
    ∀ call ∈ (readLoop srv msb n c pending).calls.head?, readU16 msb call.2 2 ≠ 0 := by
  induction n generalizing c pending with
  | zero => simp [readLoop]
  | succ n ih =>
    rw [readLoop]
    split
    · simp
    · cases hfrm : nextFrame msb c.bigRequestsEnabled pending with
      | wait => simp
      | invalid => simp
      | rejected opcode rest => exact @ih c.count rest hbig
      | extended raw rest =>
        obtain ⟨-, htrue, -⟩ := nextFrame_extended_iff.mp hfrm
        rw [hbig] at htrue
        simp at htrue
      | regular raw rest =>
        obtain ⟨-, hlen, hfield⟩ := nextFrame_regular_iff.mp hfrm
        rintro call hcall
        obtain rfl := Option.some.inj hcall
        dsimp only
        omega

theorem deferredLoop_extended (hfrm : nextFrame msb true pending = .extended raw rest)
    (hdefer : (deferredLoop srv msb (n + 1) d pending).blocked = false) :
    (deferredLoop srv msb (n + 1) d pending).calls.head? = some (d.count.sequence, raw) := by
  rw [deferredLoop, if_neg (deferredLoop_open hdefer), hfrm]
  rfl

theorem rejected_disagree
    (hfrm : nextFrame msb c.bigRequestsEnabled pending = .rejected opcode rest)
    (hread : (readLoop srv msb (n + 1) c pending).blocked = false)
    (hdefer : (deferredLoop srv msb (n + 1) d pending).blocked = false) :
    ¬ Agree (deferredLoop srv msb (n + 1) d pending) (readLoop srv msb (n + 1) c pending) := by
  rintro ⟨hcalls, hreplies, -⟩
  obtain ⟨hbig, -, hzero, -⟩ := nextFrame_rejected_iff.mp hfrm
  have hwritten : (deferredLoop srv msb (n + 1) d pending).replies ≠ [] := by
    rw [hreplies, readLoop, if_neg (readLoop_open hread), hfrm]
    exact cons_ne_nil _ _
  cases hfrm' : nextFrame msb true pending with
  | wait | invalid =>
    apply hwritten
    rw [deferredLoop, if_neg (deferredLoop_open hdefer), hfrm']
  | rejected opcode' rest' =>
    obtain ⟨hfalse, -⟩ := nextFrame_rejected_iff.mp hfrm'
    simp at hfalse
  | extended raw' rest' =>
    obtain ⟨-, -, hfield, -⟩ := nextFrame_extended_iff.mp hfrm'
    have hcall := deferredLoop_extended hfrm' hdefer
    rw [hcalls] at hcall
    exact readLoop_calls_nonzero hbig _ hcall hfield
  | regular raw' rest' =>
    obtain ⟨rfl, hlen, hfield⟩ := nextFrame_regular_iff.mp hfrm'
    rw [readU16_append rest' (by omega)] at hzero
    omega

theorem rewriteExtended_length (h : bigRequestMinBytes ≤ raw.length) :
    (rewriteExtended raw).length + 4 = raw.length := by
  rw [bigRequestMinBytes] at h
  simp only [rewriteExtended, toLeBytes16, length_append, length_take, length_drop,
    length_cons, length_nil]
  omega

theorem extended_disagree
    (hfrm : nextFrame msb c.bigRequestsEnabled pending = .extended raw rest)
    (hread : (readLoop srv msb (n + 1) c pending).blocked = false)
    (hdefer : (deferredLoop srv msb (n + 1) d pending).blocked = false) :
    ¬ Agree (deferredLoop srv msb (n + 1) d pending) (readLoop srv msb (n + 1) c pending) := by
  rintro ⟨hcalls, -, -⟩
  obtain ⟨-, hbig, -, -, hlen, -⟩ := nextFrame_extended_iff.mp hfrm
  have hcall := deferredLoop_extended (hbig ▸ hfrm) hdefer
  rw [hcalls, readLoop, if_neg (readLoop_open hread), hfrm] at hcall
  have hraw : rewriteExtended raw = raw := congrArg Prod.snd (Option.some.inj hcall)
  have hrewritten := rewriteExtended_length hlen
  rw [hraw] at hrewritten
  omega

theorem loops_agree_iff (hseq : d.sequence = c.sequence)
    (hread : (readLoop srv msb n c pending).blocked = false)
    (hdefer : (deferredLoop srv msb n d pending).blocked = false) :
    Agree (deferredLoop srv msb n d pending) (readLoop srv msb n c pending) ↔
      KeepsFraming srv msb n d c pending := by
  induction n generalizing c d pending with
  | zero => exact iff_of_true ⟨rfl, rfl, rfl⟩ trivial
  | succ n ih =>
    have hopen := readLoop_open hread
    have hopen' := deferredLoop_open hdefer
    rw [KeepsFraming]
    cases hfrm : nextFrame msb c.bigRequestsEnabled pending with
    | rejected opcode rest => exact iff_of_false (rejected_disagree hfrm hread hdefer) id
    | extended raw rest => exact iff_of_false (extended_disagree hfrm hread hdefer) id
    | wait =>
      have hfrm' := nextFrame_true hfrm (by simp)
      refine iff_of_true ?_ trivial
      rw [readLoop, deferredLoop, if_neg hopen, if_neg hopen', hfrm', hfrm]
      exact ⟨rfl, rfl, rfl⟩
    | invalid =>
      have hfrm' := nextFrame_true hfrm (by simp)
      refine iff_of_true ?_ trivial
      rw [readLoop, deferredLoop, if_neg hopen, if_neg hopen', hfrm', hfrm]
      exact ⟨rfl, rfl, rfl⟩
    | regular raw rest =>
      have hfrm' := nextFrame_true hfrm (by simp)
      have hcnt := count_sequence hseq
      have hnext : (deferRegular srv msb d raw).1.sequence =
          (serveRegular srv msb c raw).1.sequence := by
        have hnormal : (serveRegular srv msb c raw).1.sequence = c.count.sequence :=
          congrArg Prod.snd serveRegular_framing
        have hdeferred : (deferRegular srv msb d raw).1.sequence = d.count.sequence :=
          congrArg Prod.snd deferRegular_framing
        rw [hdeferred, hnormal, hcnt]
      rw [readLoop, if_neg hopen, hfrm] at hread ⊢
      rw [deferredLoop, if_neg hopen', hfrm'] at hdefer ⊢
      rw [hcnt]
      rw [deferRegular_eq, serveRegular_eq] at hnext
      exact agree_after_iff.trans (and_congr_right' (ih hnext hread hdefer))

/-- Taken together, the bytes written are then the same too. The converse fails:
handlers that answer otherwise may happen to write the same stream. -/
theorem Agree.written {o o' : Outcome σ} (h : Agree o o') : o.written = o'.written := by
  rw [Outcome.written, h.2.1, Outcome.written]

/-- The deferred loop does what the read path does exactly on the buffers whose
requests need no header rewrite and no rejection, and whose answers need neither
the byte swap nor the windows that `sync_windows` would have brought. -/
theorem deferredRequests_agree_iff (srv : Server σ) (msb : Bool) (c : Conn σ) (pending : Bytes)
    (hread : (readRequests srv msb c pending).blocked = false)
    (hdefer : (deferredRequests srv msb c pending).blocked = false) :
    Agree (deferredRequests srv msb c pending) (readRequests srv msb c pending) ↔
      KeepsFraming srv msb pending.length c c pending :=
  loops_agree_iff rfl hread hdefer

theorem deferredRequests_agree_noOperation :
    Agree (deferredRequests idleServer true freshConn [127, 0, 0, 1, 127, 0, 0, 1])
      (readRequests idleServer true freshConn [127, 0, 0, 1, 127, 0, 0, 1]) ∧
    (deferredRequests idleServer true freshConn [127, 0, 0, 1, 127, 0, 0, 1]).written =
      (readRequests idleServer true freshConn [127, 0, 0, 1, 127, 0, 0, 1]).written := by
  have hagr := (deferredRequests_agree_iff idleServer true freshConn
    [127, 0, 0, 1, 127, 0, 0, 1] (by decide) (by decide)).mpr (by decide +kernel)
  exact ⟨hagr, hagr.written⟩

/-- An extended NoOperation after BigReqEnable: the read path hands over four
bytes, the deferred loop all eight. -/
theorem deferredRequests_disagree_extended :
    ¬ ∀ (srv : Server Unit) (msb : Bool) (c : Conn Unit) (pending : Bytes),
      (readRequests srv msb c pending).blocked = false →
      (deferredRequests srv msb c pending).blocked = false →
      (deferredRequests srv msb c pending).calls = (readRequests srv msb c pending).calls ∧
      (deferredRequests srv msb c pending).pending = (readRequests srv msb c pending).pending ∧
      (deferredRequests srv msb c pending).written = (readRequests srv msb c pending).written := by
  intro h
  have hcalls := (h idleServer false ⟨(), 1, true⟩ [127, 0, 0, 0, 2, 0, 0, 0] (by decide +kernel)
    (by decide +kernel)).1
  revert hcalls
  decide +kernel

end X11Web.DeferredRequests
