import X11Web.Framing

namespace X11Web.Segmentation

open Windows Framing Resumable List

variable {σ : Type} {srv : Server σ} {msb big : Bool} {n seq : Nat} {c : Conn σ}
variable {pending raw rest b more : Bytes} {s s' s'' : Bool × Nat}
variable {calls calls' : List (Nat × Bytes)} {chunks chunks' : List Bytes}

/-- One read from the socket and the request loop over what is then at hand. -/
def readChunk (srv : Server σ) (msb : Bool) (c : Conn σ) (pending chunk : Bytes) : Outcome σ :=
  let o := readRequests srv msb (c.update srv.syncWindows) (pending ++ chunk)
  { o with conn := o.conn.update srv.syncWindows }

/-- The calls of `handle_request` over the reads of a connection. -/
def readChunks (srv : Server σ) (msb : Bool) : Conn σ → Bytes → List Bytes → List (Nat × Bytes)
  | _, _, [] => []
  | c, pending, chunk :: chunks =>
    let o := readChunk srv msb c pending chunk
    o.calls ++ readChunks srv msb o.conn o.pending chunks

def readBufBytes : Nat := 256 * 1024

def Splits (b : Bytes) (chunks : List Bytes) : Prop :=
  chunks.flatten = b ∧ ∀ chunk ∈ chunks, chunk ≠ [] ∧ chunk.length ≤ readBufBytes

/-- The requests of a stream do not depend on how it is cut into reads. -/
def SegmentationIndependent (srv : Server σ) (msb : Bool) (c : Conn σ) (b : Bytes) : Prop :=
  ∀ chunks chunks', Splits b chunks → Splits b chunks' →
    readChunks srv msb c [] chunks = readChunks srv msb c [] chunks'

/-- The framing alone: what the loop takes off the buffer, and with which
sequence number it hands it over. -/
def frame (msb : Bool) (s : Bool × Nat) (b : Bytes) :
    Option ((Bool × Nat) × List (Nat × Bytes) × Bytes) :=
  let seq := (s.2 + 1) % 2 ^ 16
  match nextFrame msb s.1 b with
  | .wait | .invalid => none
  | .rejected _ rest => some ((s.1, seq), [], rest)
  | .extended raw rest =>
    some ((s.1 || enables (rewriteExtended raw), seq), [(seq, rewriteExtended raw)], rest)
  | .regular raw rest => some ((s.1 || enables raw, seq), [(seq, raw)], rest)

theorem frame_local (h : frame msb s b = some (s', calls, rest)) :
    ∃ raw, 0 < raw.length ∧ b = raw ++ rest ∧
      ∀ rest', frame msb s (raw ++ rest') = some (s', calls, rest') := by
  simp only [frame] at h
  cases hfrm : nextFrame msb s.1 b with
  | wait => simp [hfrm] at h
  | invalid => simp [hfrm] at h
  | rejected opcode rest =>
    rw [hfrm] at h
    obtain ⟨rfl, rfl, rfl⟩ : _ ∧ _ ∧ _ := by simpa using h
    obtain ⟨hbig, hlen, hfield, -, hrest⟩ := nextFrame_rejected_iff.mp hfrm
    have hhdr : 2 + 2 ≤ (b.take 4).length := by rw [length_take]; omega
    have happ : b.take 4 ++ rest = b := by rw [← hrest, take_append_drop]
    refine ⟨b.take 4, by omega, happ.symm, fun rest' => ?_⟩
    rw [← happ, readU16_append rest hhdr] at hfield
    have hrejected : nextFrame msb s.1 (b.take 4 ++ rest') =
        .rejected ((b.take 4 ++ rest').getD 0 0) rest' := by
      refine nextFrame_rejected_iff.mpr ⟨hbig, ?_, ?_, rfl, drop_left' ?_⟩
      · rw [length_append]; omega
      · rw [readU16_append rest' hhdr, hfield]
      · rw [length_take]; omega
    simp [frame, hrejected]
  | extended raw rest =>
    rw [hfrm] at h
    obtain ⟨rfl, rfl, rfl⟩ : _ ∧ _ ∧ _ := by simpa using h
    obtain ⟨happ, hvalid⟩ := nextFrame_extended_iff.mp hfrm
    have hlen : 8 ≤ raw.length := hvalid.2.2.2.1
    refine ⟨raw, by omega, happ, fun rest' => ?_⟩
    have hextended : nextFrame msb s.1 (raw ++ rest') = .extended raw rest' :=
      nextFrame_extended_iff.mpr ⟨rfl, hvalid⟩
    simp [frame, hextended]
  | regular raw rest =>
    rw [hfrm] at h
    obtain ⟨rfl, rfl, rfl⟩ : _ ∧ _ ∧ _ := by simpa using h
    obtain ⟨happ, hvalid⟩ := nextFrame_regular_iff.mp hfrm
    refine ⟨raw, by omega, happ, fun rest' => ?_⟩
    have hregular : nextFrame msb s.1 (raw ++ rest') = .regular raw rest' :=
      nextFrame_regular_iff.mpr ⟨rfl, hvalid⟩
    simp [frame, hregular]

def framer (msb : Bool) : Decoder (Bool × Nat) UInt8 (Nat × Bytes) where
  next := frame msb
  suffix h := by
    obtain ⟨raw, -, happ, -⟩ := frame_local h
    exact ⟨raw, happ.symm⟩
  shrinks h := by
    obtain ⟨raw, hlen, rfl, -⟩ := frame_local h
    rw [length_append]
    omega
  stable more h := by
    obtain ⟨raw, -, rfl, hlocal⟩ := frame_local h
    rw [append_assoc]
    exact hlocal _
  causal more h := by
    obtain ⟨raw, -, happ, hlocal⟩ := frame_local h
    rw [← append_assoc] at happ
    rw [append_cancel_right happ]
    exact hlocal _

theorem frame_eq_none_iff : frame msb s b = none ↔
    nextFrame msb s.1 b = .wait ∨ nextFrame msb s.1 b = .invalid := by
  simp only [frame]
  cases nextFrame msb s.1 b <;> simp

theorem invalid_append (h : nextFrame msb big b = .invalid) (more : Bytes) :
    nextFrame msb big (b ++ more) = .invalid := by
  obtain ⟨hbig, hlen, hfield, hbad⟩ := nextFrame_invalid_iff.mp h
  have hbytes : 4 + 4 ≤ b.length := hlen
  refine nextFrame_invalid_iff.mpr ⟨hbig, ?_, ?_, ?_⟩
  · rw [length_append]
    omega
  · rw [readU16_append more (by omega), hfield]
  · rw [readU32_append more hbytes]
    exact hbad

theorem invalid_of_append (more : Bytes) (h : nextFrame msb big (b ++ more) = .invalid)
    (hlen : 8 ≤ b.length) :
    nextFrame msb big b = .invalid := by
  obtain ⟨hbig, -, hfield, hbad⟩ := nextFrame_invalid_iff.mp h
  have hbytes : 4 + 4 ≤ b.length := hlen
  rw [readU16_append more (by omega)] at hfield
  rw [readU32_append more hbytes] at hbad
  exact nextFrame_invalid_iff.mpr ⟨hbig, hlen, hfield, hbad⟩

def kept (msb : Bool) (s : Bool × Nat) (b : Bytes) : Bytes :=
  if nextFrame msb s.1 b = .invalid then [] else b

theorem readLoop_drains (hopen : ∀ s, srv.blocked s = false) (hn : pending.length ≤ n) :
    ∃ rest, Drains (framer msb) c.framing pending (readLoop srv msb n c pending).calls
      (readLoop srv msb n c pending).conn.framing rest ∧
      (readLoop srv msb n c pending).pending =
        kept msb (readLoop srv msb n c pending).conn.framing rest := by
  induction n generalizing c pending with
  | zero =>
    obtain rfl : pending = [] := length_eq_zero_iff.mp (Nat.le_zero.mp hn)
    exact ⟨[], .stop rfl, rfl⟩
  | succ n ih =>
    rw [readLoop, if_neg (by simp [hopen])]
    have hstep : ∀ {c' : Conn σ} {rest : Bytes} {calls : List (Nat × Bytes)} (reply : Bytes),
        frame msb c.framing pending = some (c'.framing, calls, rest) →
        ∃ rest', Drains (framer msb) c.framing pending
          ((readLoop srv msb n c' rest).after calls reply).calls
          ((readLoop srv msb n c' rest).after calls reply).conn.framing rest' ∧
          ((readLoop srv msb n c' rest).after calls reply).pending =
            kept msb ((readLoop srv msb n c' rest).after calls reply).conn.framing rest' := by
      intro c' rest calls reply hfrm
      have hshrinks := (framer msb).shrinks hfrm
      obtain ⟨rest', hdrains, hpend⟩ := @ih c' rest (by omega)
      exact ⟨rest', .step hfrm hdrains, hpend⟩
    cases hfrm : nextFrame msb c.bigRequestsEnabled pending with
    | wait =>
      refine ⟨pending, .stop (frame_eq_none_iff.mpr (.inl hfrm)), ?_⟩
      simp [kept, Conn.framing, hfrm]
    | invalid =>
      refine ⟨pending, .stop (frame_eq_none_iff.mpr (.inr hfrm)), ?_⟩
      simp [kept, Conn.framing, hfrm]
    | rejected opcode rest =>
      apply hstep
      simp [frame, Conn.framing, hfrm, Conn.count]
    | extended raw rest =>
      apply @hstep (serveExtended srv msb c raw).1 rest _ (serveExtended srv msb c raw).2
      rw [serveExtended_framing]
      simp [frame, Conn.framing, hfrm, Conn.count]
    | regular raw rest =>
      apply @hstep (serveRegular srv msb c raw).1 rest _ (serveRegular srv msb c raw).2
      rw [serveRegular_framing]
      simp [frame, Conn.framing, hfrm, Conn.count]

/-- The calls over a sequence of reads, from the framing alone. -/
inductive Feeds (msb : Bool) : Bool × Nat → Bytes → List Bytes → List (Nat × Bytes) →
    Bool × Nat → Bytes → Prop
  | nil (s : Bool × Nat) (pending : Bytes) : Feeds msb s pending [] [] s pending
  | cons {s s' s'' : Bool × Nat} {pending chunk rest pending' : Bytes} {chunks : List Bytes}
      {calls calls' : List (Nat × Bytes)} :
      Drains (framer msb) s (pending ++ chunk) calls s' rest →
      Feeds msb s' (kept msb s' rest) chunks calls' s'' pending' →
      Feeds msb s pending (chunk :: chunks) (calls ++ calls') s'' pending'

variable {pending' : Bytes}

theorem Feeds.unique {t' : Bool × Nat} {r' : Bytes}
    (h : Feeds msb s pending chunks calls s' rest) (h' : Feeds msb s pending chunks calls' t' r') :
    calls = calls' := by
  induction h generalizing calls' with
  | nil s pending =>
    cases h'
    rfl
  | cons hdrains _ ih =>
    cases h' with
    | cons hdrains' hrest' =>
      obtain ⟨rfl, rfl, rfl⟩ := hdrains.unique hdrains'
      rw [ih hrest']

theorem Feeds.append (h : Feeds msb s pending chunks calls s' rest)
    (h' : Feeds msb s' rest chunks' calls' s'' pending') :
    Feeds msb s pending (chunks ++ chunks') (calls ++ calls') s'' pending' := by
  induction h with
  | nil s pending => exact h'
  | cons hdrains _ ih =>
    rw [append_assoc]
    exact .cons hdrains (ih h')

theorem feeds_exists (msb : Bool) (s : Bool × Nat) (pending : Bytes) (chunks : List Bytes) :
    ∃ calls s' rest, Feeds msb s pending chunks calls s' rest := by
  induction chunks generalizing s pending with
  | nil => exact ⟨[], s, pending, .nil s pending⟩
  | cons chunk chunks ih =>
    obtain ⟨calls, s', rest, hdrains⟩ := drains_exists (framer msb) s (pending ++ chunk)
    obtain ⟨calls', s'', pending', hfds⟩ := ih s' (kept msb s' rest)
    exact ⟨calls ++ calls', s'', pending', .cons hdrains hfds⟩

theorem readChunks_feeds (hopen : ∀ s, srv.blocked s = false) (c : Conn σ) (pending : Bytes)
    (chunks : List Bytes) :
    ∃ s rest, Feeds msb c.framing pending chunks (readChunks srv msb c pending chunks) s rest := by
  induction chunks generalizing c pending with
  | nil => exact ⟨c.framing, pending, .nil _ _⟩
  | cons chunk chunks ih =>
    obtain ⟨rest, hdrains, hpend⟩ := @readLoop_drains _ srv msb _ (c.update srv.syncWindows)
      (pending ++ chunk) hopen le_rfl
    obtain ⟨s, rest', hfds⟩ := ih (readChunk srv msb c pending chunk).conn
      (readChunk srv msb c pending chunk).pending
    refine ⟨s, rest', .cons hdrains ?_⟩
    rw [← hpend]
    exact hfds

theorem Drains.feeds (hdrains : Drains (framer msb) s (pending ++ chunks.flatten) calls s' rest)
    (hwait : frame msb s pending = none) (hvalid : nextFrame msb s'.1 rest ≠ .invalid) :
    Feeds msb s pending chunks calls s' rest := by
  induction chunks generalizing s pending calls with
  | nil =>
    rw [flatten_nil, append_nil] at hdrains
    obtain ⟨rfl, rfl, rfl⟩ := hdrains.of_waits hwait
    exact .nil _ _
  | cons chunk chunks ih =>
    obtain ⟨calls₁, s₁, rest₁, hfst⟩ := drains_exists (framer msb) s (pending ++ chunk)
    obtain ⟨calls₂, s₂, rest₂, hsnd⟩ := drains_exists (framer msb) s₁ (rest₁ ++ chunks.flatten)
    have hall := hfst.append hsnd
    rw [append_assoc, ← flatten_cons] at hall
    obtain ⟨rfl, rfl, rfl⟩ := hall.unique hdrains
    have hvalid₁ : nextFrame msb s₁.1 rest₁ ≠ .invalid := by
      intro hinval
      have hinval' := invalid_append hinval chunks.flatten
      obtain ⟨rfl, rfl, rfl⟩ := hsnd.of_waits (frame_eq_none_iff.mpr (.inr hinval'))
      exact hvalid hinval'
    refine .cons hfst ?_
    rw [kept, if_neg hvalid₁]
    exact ih hsnd hfst.waits

def Silent (msb : Bool) (s : Bool × Nat) (v : Bytes) : Prop := ∀ w, w <:+ v → frame msb s w = none

/-- The stream runs into no extended header with an invalid length, or into one
behind whose eight bytes no request begins. -/
def Harmless (msb : Bool) (s : Bool × Nat) (b : Bytes) : Prop :=
  ∀ calls s' rest, Drains (framer msb) s b calls s' rest → nextFrame msb s'.1 rest = .invalid →
    Silent msb s' (rest.drop 8)

variable {v : Bytes}

theorem Silent.feeds (hsil : Silent msb s v) (hv : pending ++ chunks.flatten <:+ v)
    (h : Feeds msb s pending chunks calls s' rest) : calls = [] := by
  induction h with
  | nil s pending => rfl
  | @cons s s₁ _ pending chunk rest₁ _ chunks _ _ hdrains _ ih =>
    rw [flatten_cons, ← append_assoc] at hv
    have hwait : frame msb s (pending ++ chunk) = none := by
      rw [Option.eq_none_iff_forall_ne_some]
      rintro ⟨s', calls, rest⟩ hsome
      have hmore := (framer msb).stable chunks.flatten hsome
      exact Option.some_ne_none _ (hmore.symm.trans (hsil _ hv))
    obtain ⟨rfl, rfl, rfl⟩ := hdrains.of_waits hwait
    rw [nil_append]
    apply ih hsil
    rw [kept]
    split
    · exact (suffix_append _ _).trans hv
    · exact hv

theorem feeds_of_drains (hdrains : Drains (framer msb) s (pending ++ chunks.flatten) calls s' rest)
    (hwait : frame msb s pending = none)
    (hsil : nextFrame msb s'.1 rest = .invalid → Silent msb s' (rest.drop 8))
    (h : Feeds msb s pending chunks calls' s'' pending') : calls' = calls := by
  by_cases hinval : nextFrame msb s'.1 rest = .invalid
  · induction h generalizing calls with
    | nil s pending =>
      rw [flatten_nil, append_nil] at hdrains
      obtain ⟨rfl, -, -⟩ := hdrains.of_waits hwait
      rfl
    | @cons s s₁ _ pending chunk rest₁ _ chunks calls₁ calls₂ hfst hfds ih =>
      obtain ⟨calls₃, s₃, rest₃, hsnd⟩ :=
        drains_exists (framer msb) s₁ (rest₁ ++ chunks.flatten)
      have hall := hfst.append hsnd
      rw [append_assoc, ← flatten_cons] at hall
      obtain ⟨rfl, rfl, rfl⟩ := hall.unique hdrains
      by_cases hinvalid₁ : nextFrame msb s₁.1 rest₁ = .invalid
      · have hstop := frame_eq_none_iff.mpr (.inr (invalid_append hinvalid₁ chunks.flatten))
        obtain ⟨rfl, rfl, rfl⟩ := hsnd.of_waits hstop
        obtain ⟨-, hlen, -⟩ := nextFrame_invalid_iff.mp hinvalid₁
        rw [kept, if_pos hinvalid₁] at hfds
        have hsuffix : [] ++ chunks.flatten <:+ (rest₁ ++ chunks.flatten).drop 8 := by
          rw [nil_append, drop_append_of_le_length hlen]
          exact suffix_append _ _
        rw [(hsil hinval).feeds hsuffix hfds]
      · rw [kept, if_neg hinvalid₁] at hfds ih
        rw [ih hsnd hfst.waits]
  · exact h.unique (Drains.feeds hdrains hwait hinval)

section Shift

variable {t : Bool × Nat}

theorem frame_shift (h : frame msb s b = some (s', calls, rest)) (hst : t.1 = s.1) :
    ∃ t' calls', frame msb t b = some (t', calls', rest) ∧ t'.1 = s'.1 ∧
      calls'.length = calls.length := by
  simp only [frame, hst] at h ⊢
  cases hfrm : nextFrame msb s.1 b with
  | wait => simp [hfrm] at h
  | invalid => simp [hfrm] at h
  | rejected _ _ =>
    obtain ⟨rfl, rfl, rfl⟩ : _ ∧ _ ∧ _ := by simpa [hfrm] using h
    exact ⟨_, _, rfl, rfl, rfl⟩
  | extended _ _ =>
    obtain ⟨rfl, rfl, rfl⟩ : _ ∧ _ ∧ _ := by simpa [hfrm] using h
    exact ⟨_, _, rfl, rfl, rfl⟩
  | regular _ _ =>
    obtain ⟨rfl, rfl, rfl⟩ : _ ∧ _ ∧ _ := by simpa [hfrm] using h
    exact ⟨_, _, rfl, rfl, rfl⟩

theorem Drains.shift (h : Drains (framer msb) s b calls s' rest) (hst : t.1 = s.1) :
    ∃ t' calls', Drains (framer msb) t b calls' t' rest ∧ t'.1 = s'.1 ∧
      calls'.length = calls.length := by
  induction h generalizing t with
  | stop hnone =>
    refine ⟨t, [], .stop ?_, hst, rfl⟩
    rw [framer, frame_eq_none_iff] at hnone ⊢
    rwa [hst]
  | step hnext _ ih =>
    obtain ⟨t₁, calls₁, hnext₁, ht₁, hlen₁⟩ := frame_shift hnext hst
    obtain ⟨t₂, calls₂, hrest, ht₂, hlen₂⟩ := ih ht₁
    refine ⟨t₂, calls₁ ++ calls₂, .step hnext₁ hrest, ht₂, ?_⟩
    rw [length_append, length_append, hlen₁, hlen₂]

theorem Feeds.shift (h : Feeds msb s pending chunks calls s' rest) (hst : t.1 = s.1) :
    ∃ t' calls', Feeds msb t pending chunks calls' t' rest ∧ calls'.length = calls.length := by
  induction h generalizing t with
  | nil s pending => exact ⟨t, [], .nil _ _, rfl⟩
  | cons hdrains _ ih =>
    obtain ⟨t₁, calls₁, hdrains₁, ht₁, hlen₁⟩ := Drains.shift hdrains hst
    obtain ⟨t₂, calls₂, hfds, hlen₂⟩ := ih ht₁
    refine ⟨t₂, calls₁ ++ calls₂, .cons hdrains₁ ?_, ?_⟩
    · rw [kept, ht₁]
      exact hfds
    · rw [length_append, length_append, hlen₁, hlen₂]

end Shift

def singles (b : Bytes) : List Bytes := b.map fun x => [x]

theorem flatten_singles (b : Bytes) : (singles b).flatten = b := by
  induction b with
  | nil => rfl
  | cons x b ih => exact congrArg (x :: ·) ih

theorem splits_singles (b : Bytes) : Splits b (singles b) := by
  refine ⟨flatten_singles b, fun chunk hchk => ?_⟩
  obtain ⟨x, -, rfl⟩ := mem_map.mp hchk
  exact ⟨cons_ne_nil _ _, by simp [readBufBytes]⟩

theorem Splits.append {b' : Bytes} (h : Splits b chunks) (h' : Splits b' chunks') :
    Splits (b ++ b') (chunks ++ chunks') := by
  refine ⟨by rw [flatten_append, h.1, h'.1], fun chunk hchk => ?_⟩
  rcases mem_append.mp hchk with hmem | hmem
  · exact h.2 chunk hmem
  · exact h'.2 chunk hmem

theorem splits_single (hne : b ≠ []) (hlen : b.length ≤ readBufBytes) : Splits b [b] := by
  refine ⟨by simp, fun chunk hchk => ?_⟩
  obtain rfl := mem_singleton.mp hchk
  exact ⟨hne, hlen⟩

/-- The requests are the same wherever within the first read the stream `v` is
taken up, and however it is cut from there on. -/
def Uniform (msb : Bool) (s : Bool × Nat) (v : Bytes) (calls : List (Nat × Bytes)) : Prop :=
  ∀ k < readBufBytes, ∀ chunks calls' s' rest, Splits (v.drop k) chunks →
    Feeds msb s [] chunks calls' s' rest → calls' = calls

theorem frame_enabled (hs : s.1 = true) (h : frame msb s b = some (s', calls, rest)) :
    s'.1 = true ∧ calls.length = 1 := by
  simp only [frame] at h
  cases hfrm : nextFrame msb s.1 b with
  | wait => simp [hfrm] at h
  | invalid => simp [hfrm] at h
  | rejected _ _ =>
    obtain ⟨hfalse, -⟩ := nextFrame_rejected_iff.mp hfrm
    simp [hs] at hfalse
  | extended _ _ =>
    obtain ⟨rfl, rfl, rfl⟩ : _ ∧ _ ∧ _ := by simpa [hfrm] using h
    exact ⟨by simp [hs], rfl⟩
  | regular _ _ =>
    obtain ⟨rfl, rfl, rfl⟩ : _ ∧ _ ∧ _ := by simpa [hfrm] using h
    exact ⟨by simp [hs], rfl⟩

/-- A request that is over within the first read would be called for or left
out, depending on where the stream is taken up. -/
theorem Uniform.no_frame {j : Nat} (h : Uniform msb s v calls) (hs : s.1 = true)
    (hj : v.drop j = raw ++ rest) (hlen : j + raw.length < readBufBytes)
    (hfrm : nextFrame msb s.1 raw = .regular raw []) : False := by
  have hnext : frame msb s raw = some ((s.1 || enables raw, (s.2 + 1) % 2 ^ 16),
      [((s.2 + 1) % 2 ^ 16, raw)], []) := by
    simp [frame, hfrm]
  have hrest : v.drop (j + raw.length) = rest := by
    rw [← drop_drop, hj, drop_left]
  obtain ⟨calls₁, s₁, rest₁, hfds⟩ := feeds_exists msb s [] (singles rest)
  have hcalls₁ := h _ hlen (singles rest) calls₁ s₁ rest₁ (hrest ▸ splits_singles rest) hfds
  obtain ⟨s₂, calls₂, hfeeds₂, hcnt⟩ := hfds.shift
    (t := (s.1 || enables raw, (s.2 + 1) % 2 ^ 16)) (by simp [hs])
  have hwait : frame msb (s.1 || enables raw, (s.2 + 1) % 2 ^ 16) [] = none := rfl
  have hraw : Feeds msb s [] (singles raw) [((s.2 + 1) % 2 ^ 16, raw)]
      (s.1 || enables raw, (s.2 + 1) % 2 ^ 16) [] := by
    refine Drains.feeds ?_ rfl (by simp [nextFrame])
    rw [nil_append, flatten_singles]
    exact .step (o := [((s.2 + 1) % 2 ^ 16, raw)]) hnext (.stop hwait)
  have hcalls₂ := h j (by omega) (singles raw ++ singles rest) _ _ _
    (hj ▸ (splits_singles raw).append (splits_singles rest)) (hraw.append hfeeds₂)
  rw [← hcalls₁] at hcalls₂
  have hlength := congrArg List.length hcalls₂
  rw [length_append, length_singleton, hcnt] at hlength
  omega

theorem readU16_le (b : Bytes) (i : Nat) : readU16 msb b i ≤ 65535 := by
  have hx := (b.getD i 0).toNat_lt
  have hy := (b.getD (i + 1) 0).toNat_lt
  simp only [readU16]
  split <;> omega

theorem readU16_drop (b : Bytes) (i j : Nat) : readU16 msb (b.drop j) i = readU16 msb b (j + i) := by
  simp only [readU16, getD_eq_getElem?_getD, List.getElem?_drop]
  rfl

theorem Uniform.zero_field {j : Nat} (h : Uniform msb s v calls) (hs : s.1 = true)
    (hlen : readBufBytes ≤ v.length) (hj : j + readU16 msb v (j + 2) * 4 < readBufBytes) :
    readU16 msb v (j + 2) = 0 := by
  by_contra hne
  have hfit : readU16 msb v (j + 2) * 4 ≤ (v.drop j).length := by
    rw [length_drop]
    omega
  have hraw : ((v.drop j).take (readU16 msb v (j + 2) * 4)).length = readU16 msb v (j + 2) * 4 :=
    length_take_of_le hfit
  have hspl := (take_append_drop (readU16 msb v (j + 2) * 4) (v.drop j)).symm
  apply h.no_frame hs hspl (by rw [hraw]; exact hj)
  refine nextFrame_regular_iff.mpr ⟨(append_nil _).symm, by omega, ?_⟩
  have hhdr : 2 + 2 ≤ ((v.drop j).take (readU16 msb v (j + 2) * 4)).length := by omega
  rw [← readU16_append ((v.drop j).drop (readU16 msb v (j + 2) * 4)) hhdr, ← hspl, readU16_drop,
    hraw]

theorem Uniform.invalid (h : Uniform msb s v calls) (hs : s.1 = true)
    (hlen : readBufBytes ≤ v.length) : nextFrame msb s.1 v = .invalid := by
  have hzero : ∀ j ≤ 3, readU16 msb v (j + 2) = 0 := by
    intro j hj
    apply h.zero_field hs hlen
    have hle := @readU16_le msb v (j + 2)
    simp only [readBufBytes]
    omega
  have hfield := hzero 0 (by omega)
  have hlow := hzero 2 (by omega)
  have hbyte : (v.getD 6 0).toNat = 0 := by
    have hmid := hzero 3 (by omega)
    simp only [readU16, Nat.reduceAdd] at hmid
    split at hmid <;> omega
  have hhigh : readU16 msb v 6 = 0 := by
    apply h.zero_field (j := 4) hs hlen
    have hnext := (v.getD 7 0).toNat_lt
    simp only [readU16, readBufBytes, Nat.reduceAdd]
    split <;> omega
  have hbig : readU32 msb v 4 = 0 := by
    simp only [readU32]
    cases msb
    · simp [hlow, hhigh]
    · simp [hlow, hhigh]
  rw [readBufBytes] at hlen
  refine nextFrame_invalid_iff.mpr ⟨hs, by omega, hfield, .inl ?_⟩
  rw [hbig, bigRequestMinBytes]
  omega

theorem Uniform.silent_short (h : Uniform msb s v calls) (hs : s.1 = true)
    (hlen : v.length < readBufBytes) : Silent msb s v := by
  intro w hw
  rw [Option.eq_none_iff_forall_ne_some]
  rintro ⟨s₁, calls₁, rest₁⟩ hnext
  obtain ⟨front, rfl⟩ := hw
  rw [length_append] at hlen
  have hnone : [] = calls := by
    refine h (front ++ w).length (by rw [length_append]; exact hlen) [] [] s [] ?_ (.nil s [])
    rw [drop_length]
    exact ⟨rfl, by simp⟩
  have hne : w ≠ [] := by
    rintro rfl
    exact Option.some_ne_none _ hnext.symm
  obtain ⟨calls₂, s₂, rest₂, hdrains⟩ := drains_exists (framer msb) s₁ rest₁
  have hsome := h front.length (by omega) [w] _ _ _
    (by rw [drop_left]; exact splits_single hne (by omega))
    (.cons (.step hnext hdrains) (.nil _ _))
  have hlength := congrArg List.length hsome
  simp only [← hnone, length_append, (frame_enabled hs hnext).2, length_nil] at hlength
  omega

theorem Feeds.cleared {chunk : Bytes} (hinval : nextFrame msb s.1 (pending ++ chunk) = .invalid) :
    Feeds msb s pending [chunk] [] s [] := by
  have hfds := Feeds.cons (Drains.stop (d := framer msb) (frame_eq_none_iff.mpr (.inr hinval)))
    (.nil s (kept msb s (pending ++ chunk)))
  rw [kept, if_pos hinval] at hfds
  exact hfds

theorem Uniform.tail {x : UInt8} (h : Uniform msb s (x :: v) calls) (hs : s.1 = true)
    (hlen : readBufBytes ≤ (x :: v).length) : Uniform msb s v calls := by
  intro k hk chunks calls' s' rest hspls hfds
  have hdrop : v.drop k = (x :: v).drop (k + 1) := rfl
  rw [hdrop] at hspls
  by_cases hlast : k + 1 < readBufBytes
  · exact h (k + 1) hlast chunks calls' s' rest hspls hfds
  · have hk' : k + 1 = readBufBytes := by omega
    rw [hk'] at hspls
    have htake : ((x :: v).take readBufBytes).length = readBufBytes := length_take_of_le hlen
    have hbuf : 8 ≤ readBufBytes := by simp [readBufBytes]
    have hinval : nextFrame msb s.1 ([] ++ (x :: v).take readBufBytes) = .invalid := by
      apply invalid_of_append ((x :: v).drop readBufBytes)
      · rw [nil_append, take_append_drop]
        exact h.invalid hs hlen
      · rw [nil_append, htake]
        exact hbuf
    have hfst : Splits ((x :: v).take readBufBytes) [(x :: v).take readBufBytes] := by
      apply splits_single
      · apply ne_nil_of_length_pos
        omega
      · rw [htake]
    have hspls' := hfst.append hspls
    rw [take_append_drop] at hspls'
    exact h 0 (by omega) _ _ _ _ hspls' ((Feeds.cleared hinval).append hfds)

theorem Uniform.silent (h : Uniform msb s v calls) (hs : s.1 = true) : Silent msb s v := by
  induction v with
  | nil =>
    intro w hw
    rw [suffix_nil.mp hw]
    rfl
  | cons x v ih =>
    by_cases hlen : readBufBytes ≤ (x :: v).length
    · intro w hw
      rcases suffix_cons_iff.mp hw with rfl | hw
      · exact frame_eq_none_iff.mpr (.inr (h.invalid hs hlen))
      · exact ih (h.tail hs hlen) w hw
    · exact h.silent_short hs (by omega)

/-- The reads may be such that the invalid header takes the next `k` bytes with
it and the requests start afresh behind them. -/
theorem exists_reset (hdrains : Drains (framer msb) s b calls s' rest)
    (hinval : nextFrame msb s'.1 rest = .invalid) {k : Nat} (hk : k < readBufBytes) :
    ∃ front chunks, b = front ++ (rest.drop 8).drop k ∧ Splits front chunks ∧
      Feeds msb s [] chunks calls s' [] := by
  obtain ⟨hbig, hlen, hfield, -⟩ := nextFrame_invalid_iff.mp hinval
  have hrest := take_append_drop 7 rest
  have htail := take_append_drop (k + 1) (rest.drop 7)
  have htake : (rest.take 7).length = 7 := length_take_of_le (by omega)
  have hwait : nextFrame msb s'.1 (rest.take 7) = .wait := by
    have hhdr : 2 + 2 ≤ (rest.take 7).length := by omega
    rw [← hrest, readU16_append _ hhdr] at hfield
    rw [nextFrame, hfield, htake, hbig]
    rfl
  obtain ⟨pre, rfl⟩ := hdrains.suffix
  have hpre : Drains (framer msb) s (pre ++ rest.take 7) calls s' (rest.take 7) := by
    apply Drains.prune (rest.drop 7)
    · rw [append_assoc, hrest]
      exact hdrains
    · exact frame_eq_none_iff.mpr (.inl hwait)
  have hfds : Feeds msb s [] (singles (pre ++ rest.take 7)) calls s' (rest.take 7) := by
    apply Drains.feeds _ rfl
    · rw [hwait]
      simp
    · rw [nil_append, flatten_singles]
      exact hpre
  have hcleared : nextFrame msb s'.1 (rest.take 7 ++ (rest.drop 7).take (k + 1)) = .invalid := by
    apply invalid_of_append ((rest.drop 7).drop (k + 1))
    · rw [append_assoc, htail, hrest]
      exact hinval
    · rw [length_append, htake, length_take, length_drop]
      omega
  have hlast : Splits ((rest.drop 7).take (k + 1)) [(rest.drop 7).take (k + 1)] := by
    apply splits_single
    · apply ne_nil_of_length_pos
      rw [length_take, length_drop]
      omega
    · rw [length_take]
      omega
  refine ⟨_, _, ?_, (splits_singles (pre ++ rest.take 7)).append hlast, ?_⟩
  · have hdrop : (rest.drop 8).drop k = (rest.drop 7).drop (k + 1) := by
      rw [drop_drop, drop_drop]
      congr 1
      omega
    rw [hdrop, append_assoc, htail, append_assoc, hrest]
  · have hall := hfds.append (Feeds.cleared hcleared)
    rw [append_nil] at hall
    exact hall

/-- The requests of a stream are independent of how the socket cuts it exactly
when the stream runs into no invalid extended length with a request behind it. -/
theorem segmentationIndependent_iff (srv : Server σ) (hopen : ∀ s, srv.blocked s = false)
    (msb : Bool) (c : Conn σ) (b : Bytes) :
    SegmentationIndependent srv msb c b ↔ Harmless msb c.framing b := by
  refine ⟨fun h calls s' rest hdrains hinval => ?_, fun h chunks chunks' hspls hspls' => ?_⟩
  · obtain ⟨calls₀, s₀, rest₀, hfeeds₀⟩ := feeds_exists msb s' [] (singles (rest.drop 8))
    have huniform : Uniform msb s' (rest.drop 8) calls₀ := by
      intro k hk chunks calls₁ s₁ rest₁ hspls hfds
      obtain ⟨front, chunks', hfront, hspls', hfds'⟩ := exists_reset hdrains hinval hk
      obtain ⟨front₀, chunks₀, hfront₀, hsplits₀, hfeeds₀'⟩ :=
        exists_reset (k := 0) hdrains hinval (by simp [readBufBytes])
      have hb := hspls'.append hspls
      have hb₀ := hsplits₀.append (splits_singles (rest.drop 8))
      rw [drop_zero] at hfront₀
      rw [← hfront] at hb
      rw [← hfront₀] at hb₀
      obtain ⟨t, r, hread⟩ := @readChunks_feeds _ srv msb hopen c [] (chunks' ++ chunks)
      obtain ⟨t₀, r₀, hread₀⟩ :=
        @readChunks_feeds _ srv msb hopen c [] (chunks₀ ++ singles (rest.drop 8))
      have hsame := h _ _ hb hb₀
      rw [hread.unique (hfds'.append hfds), hread₀.unique (hfeeds₀'.append hfeeds₀)] at hsame
      exact append_cancel_left hsame
    exact huniform.silent (nextFrame_invalid_iff.mp hinval).1
  · obtain ⟨calls, s', rest, hdrains⟩ := drains_exists (framer msb) c.framing b
    have heq : ∀ chunks, Splits b chunks → readChunks srv msb c [] chunks = calls := by
      intro chunks hspls
      obtain ⟨t, r, hread⟩ := @readChunks_feeds _ srv msb hopen c [] chunks
      refine feeds_of_drains ?_ rfl (h calls s' rest hdrains) hread
      rw [nil_append, hspls.1]
      exact hdrains
    rw [heq chunks hspls, heq chunks' hspls']

/-- BigReqEnable and then an extended header with length 0, at the end. -/
theorem segmentationIndependent_trailing : SegmentationIndependent idleServer false freshConn
    [133, 0, 1, 0, 127, 0, 0, 0, 0, 0, 0, 0] := by
  refine (segmentationIndependent_iff idleServer (fun _ => rfl) false freshConn _).mpr ?_
  intro calls s' rest hdrains _ w hw
  have hnext : (framer false).next freshConn.framing [133, 0, 1, 0, 127, 0, 0, 0, 0, 0, 0, 0] =
      some ((true, 1), [(1, [133, 0, 1, 0])], [127, 0, 0, 0, 0, 0, 0, 0]) := by decide +kernel
  have hstop : (framer false).next (true, 1) [127, 0, 0, 0, 0, 0, 0, 0] = none := by decide +kernel
  have hframed : Drains (framer false) freshConn.framing [133, 0, 1, 0, 127, 0, 0, 0, 0, 0, 0, 0]
      ([(1, [133, 0, 1, 0])] ++ []) (true, 1) [127, 0, 0, 0, 0, 0, 0, 0] :=
    .step hnext (.stop hstop)
  obtain ⟨-, -, rfl⟩ := hdrains.unique hframed
  rw [suffix_nil.mp hw]
  rfl

/-- The same header and a NoOperation behind it, which one read drops and two
reads serve. -/
theorem segmentation_dependent : ¬ ∀ (srv : Server Unit), (∀ s, srv.blocked s = false) →
    ∀ (msb : Bool) (c : Conn Unit) (b : Bytes), SegmentationIndependent srv msb c b := by
  intro h
  have hsame := h idleServer (fun _ => rfl) false freshConn
    [133, 0, 1, 0, 127, 0, 0, 0, 0, 0, 0, 0, 127, 0, 1, 0]
    [[133, 0, 1, 0, 127, 0, 0, 0, 0, 0, 0, 0, 127, 0, 1, 0]]
    [[133, 0, 1, 0, 127, 0, 0, 0, 0, 0, 0, 0], [127, 0, 1, 0]]
    ⟨rfl, by simp [readBufBytes]⟩ ⟨rfl, by simp [readBufBytes]⟩
  revert hsame
  decide +kernel

end X11Web.Segmentation
