import Mathlib.Data.List.Nodup
import X11Web.CreateDestroy
import X11Web.ResourceIds

namespace X11Web.XcMisc

open Windows WindowTree Ewmh CreateDestroy ResourceIds Runs List

structure XidClient extends ClientState where
  nextXid : Nat

def currentOffset (s : XidClient) : Nat := (s.nextXid + 2 ^ 32 - s.resourceIdBase) % 2 ^ 32 &&& resourceIdMask

def remaining (s : XidClient) : Nat := resourceIdMask - currentOffset s + 1

def advance (n : Nat) (s : XidClient) : XidClient :=
  { s with nextXid := s.resourceIdBase ||| ((currentOffset s + n) &&& resourceIdMask) }

/-- GetXIDRange: the first id of the range, and its length. -/
def getXidRange (s : XidClient) : XidClient × XId × Nat :=
  let rangeSize := min (remaining s) 65536
  let startId := s.resourceIdBase ||| (currentOffset s &&& resourceIdMask)
  (advance rangeSize s, startId, rangeSize)

/-- Recycled ids are taken from the end of their list, as long as there are any. -/
def popFreed : Nat → List XId → List XId × List XId
  | 0, freed => ([], freed)
  | n + 1, freed =>
    match freed.getLast? with
    | none => ([], freed)
    | some id =>
      let (ids, rest) := popFreed n freed.dropLast
      (id :: ids, rest)

/-- GetXIDList: recycled ids first, and then those of the cursor. -/
def getXidList (count : Nat) (s : XidClient) : XidClient × List XId :=
  let idsToReturn := min count 4096
  let (ids, freed) := popFreed idsToReturn s.freedXids
  let s := { s with freedXids := freed }
  if ids.length < idsToReturn then
    let sequentialCount := min (idsToReturn - ids.length) (remaining s)
    let sequential := (List.range sequentialCount).map fun i =>
      s.resourceIdBase ||| ((currentOffset s + i) &&& resourceIdMask)
    (advance sequentialCount s, ids ++ sequential)
  else (s, ids)

/-- The requests of a client. The fuel bounds the loop of a DestroyWindow; what it does not
suffice for leaves the state as it is. -/
inductive XidAction
  | createWindow (req : CreateWindowRequest)
  | destroyWindow (fuel : Nat) (window : XId)
  | getXidRange
  | getXidList (count : Nat)

def handle (s : XidClient) : XidAction → XidClient
  | .createWindow req => { s with toClientState := (handleCreateWindow req s.toClientState).1 }
  | .destroyWindow fuel window =>
    { s with toClientState := (handleDestroyWindow fuel window s.toClientState).elim s.toClientState Prod.fst }
  | .getXidRange => (getXidRange s).1
  | .getXidList count => (getXidList count s).1

def replied (s : XidClient) : XidAction → List XId
  | .createWindow _ | .destroyWindow _ _ => []
  | .getXidRange => (List.range (getXidRange s).2.2).map ((getXidRange s).2.1 + ·)
  | .getXidList count => (getXidList count s).2

def Lives (s : ClientState) (id : XId) : Prop := id ∈ s.windows ∨ id ∈ s.shared.windows

instance (s : ClientState) (id : XId) : Decidable (Lives s id) := inferInstanceAs (Decidable (_ ∨ _))

/-- A client with a note of the ids that were handed out and not destroyed since. -/
structure Ledger where
  client : XidClient
  handed : List XId

def next (l : Ledger) (a : XidAction) : Ledger :=
  let after := handle l.client a
  let destroyed (id : XId) : Bool := Lives l.client.toClientState id ∧ ¬Lives after.toClientState id
  ⟨after, l.handed.filter (!destroyed ·) ++ replied l.client a⟩

/-- The id may be handed out: no window has it, and it is not handed out already. -/
def Free (l : Ledger) (id : XId) : Prop := ¬Lives l.client.toClientState id ∧ id ∉ l.handed

/-- The ids of the reply are the client's own, each of them is free, and none comes twice. -/
structure HandsOutFree (l : Ledger) (a : XidAction) : Prop where
  own : ∀ id ∈ replied l.client a, validateResourceId l.client.toClientState id = true
  free : ∀ id ∈ replied l.client a, Free l id
  once : (replied l.client a).Nodup

def Ahead (s : XidClient) (n : Nat) (id : XId) : Prop :=
  ∃ i < n, id = s.resourceIdBase + (currentOffset s + i)

def recycled (s : XidClient) (n : Nat) : List XId := s.freedXids.drop (s.freedXids.length - n)

/-- Before its end and for as far as the request goes, the cursor has free ids before it. Of the
recycled ids, the last ones are free and different, and the cursor does not come to them. -/
def InOrder (l : Ledger) : XidAction → Prop
  | .createWindow _ | .destroyWindow _ _ => True
  | .getXidRange => ∀ id, Ahead l.client (min (remaining l.client) 65536) id → Free l id
  | .getXidList count =>
    let wanted := min count 4096
    let n := min (wanted - l.client.freedXids.length) (remaining l.client)
    (∀ id, Ahead l.client n id → Free l id ∧ id ∉ recycled l.client wanted) ∧
      (∀ id ∈ recycled l.client wanted, Free l id) ∧ (recycled l.client wanted).Nodup

variable {s : XidClient} {l : Ledger} {a : XidAction} {id : XId} {n : Nat}

/-- The cursor and the recycled ids are within the ids of the client. -/
structure WithinBase (s : XidClient) : Prop where
  aligned : 2 ^ 22 ∣ s.resourceIdBase
  small : s.resourceIdBase < 2 ^ 32
  cursor : ∃ o < 2 ^ 22, s.nextXid = s.resourceIdBase + o
  freed : ∀ id ∈ s.freedXids, validateResourceId s.toClientState id = true

theorem and_mask (n : Nat) : n &&& resourceIdMask = n % 2 ^ 22 := Nat.and_two_pow_sub_one_eq_mod n 22

theorem or_base {b o : Nat} (hb : 2 ^ 22 ∣ b) (ho : o < 2 ^ 22) : b ||| o = b + o := by
  obtain ⟨k, rfl⟩ := hb
  rw [Nat.two_pow_add_eq_or_of_lt ho]

theorem WithinBase.currentOffset_lt (h : WithinBase s) :
    currentOffset s < 2 ^ 22 ∧ s.nextXid = s.resourceIdBase + currentOffset s := by
  obtain ⟨o, ho, hnext⟩ := h.cursor
  have hsmall := h.small
  obtain ⟨k, hk⟩ := h.aligned
  have hoffset : currentOffset s = o := by
    rw [currentOffset, and_mask, hnext]
    omega
  rw [hoffset]
  exact ⟨ho, hnext⟩

theorem validate_base_add (h : WithinBase s) (hn : n < 2 ^ 22) :
    validateResourceId s.toClientState (s.resourceIdBase + n) = true := by
  rw [← mem_idSpace s.toClientState h.aligned]
  exact ⟨n, by rw [resourceIdMask]; omega, (or_base h.aligned hn).symm⟩

theorem remaining_eq (h : WithinBase s) : remaining s = 2 ^ 22 - currentOffset s := by
  have hlt := h.currentOffset_lt.1
  rw [remaining, resourceIdMask]
  omega

theorem sequential_eq (h : WithinBase s) (hn : n ≤ remaining s) :
    ((List.range n).map fun i => s.resourceIdBase ||| ((currentOffset s + i) &&& resourceIdMask)) =
      (List.range n).map fun i => s.resourceIdBase + (currentOffset s + i) := by
  refine map_congr_left fun i hi => ?_
  have hlt : currentOffset s + i < 2 ^ 22 := by
    rw [remaining_eq h] at hn
    have hi := mem_range.mp hi
    omega
  rw [and_mask, Nat.mod_eq_of_lt hlt, or_base h.aligned hlt]

theorem mem_sequential_iff :
    id ∈ (List.range n).map (fun i => s.resourceIdBase + (currentOffset s + i)) ↔ Ahead s n id := by
  simp only [mem_map, mem_range, Ahead]
  exact ⟨fun ⟨i, hi, h⟩ => ⟨i, hi, h.symm⟩, fun ⟨i, hi, h⟩ => ⟨i, hi, h.symm⟩⟩

theorem nodup_sequential : ((List.range n).map fun i => s.resourceIdBase + (currentOffset s + i)).Nodup := by
  refine List.Nodup.map (fun i j hij => ?_) nodup_range
  have : s.resourceIdBase + (currentOffset s + i) = s.resourceIdBase + (currentOffset s + j) := hij
  omega

theorem ahead_own (h : WithinBase s) (hn : n ≤ remaining s) (hid : Ahead s n id) :
    validateResourceId s.toClientState id = true := by
  obtain ⟨i, hi, rfl⟩ := hid
  rw [remaining_eq h] at hn
  exact validate_base_add h (by omega)

theorem popFreed_eq (n : Nat) (freed : List XId) :
    popFreed n freed = ((freed.drop (freed.length - n)).reverse, freed.take (freed.length - n)) := by
  induction n generalizing freed with
  | zero => simp [popFreed]
  | succ n ih =>
    rw [popFreed]
    cases freed using List.reverseRecOn with
    | nil => simp
    | append_singleton freed id =>
      rw [List.getLast?_concat]
      have hlen : (freed ++ [id]).length - (n + 1) = freed.length - n := by
        rw [length_append, length_singleton, Nat.add_sub_add_right]
      have hle : freed.length - n ≤ freed.length := Nat.sub_le _ _
      rw [dropLast_concat, ih, hlen, drop_append_of_le_length hle, take_append_of_le_length hle,
        reverse_append]
      rfl

theorem length_recycled (s : XidClient) (n : Nat) : (recycled s n).length = min n s.freedXids.length := by
  rw [recycled, length_drop]
  omega

theorem replied_getXidList (h : WithinBase s) (count : Nat) :
    replied s (.getXidList count) = (recycled s (min count 4096)).reverse ++
      (List.range (min (min count 4096 - s.freedXids.length) (remaining s))).map
        fun i => s.resourceIdBase + (currentOffset s + i) := by
  have hlen := length_recycled s (min count 4096)
  rw [replied, getXidList, popFreed_eq]
  dsimp only
  rw [length_reverse]
  change (if (recycled s (min count 4096)).length < min count 4096 then _ else _ : XidClient × List XId).2 = _
  split
  · next hlt =>
    have hcnt : min count 4096 - (recycled s (min count 4096)).length = min count 4096 - s.freedXids.length := by
      omega
    have hsequential := sequential_eq h (min_le_right (min count 4096 - s.freedXids.length) (remaining s))
    change (recycled s (min count 4096)).reverse ++ (List.range (min (min count 4096 -
      (recycled s (min count 4096)).length) (remaining s))).map
        (fun i => s.resourceIdBase ||| ((currentOffset s + i) &&& resourceIdMask)) = _
    rw [hcnt, hsequential]
  · next hge =>
    have hzero : min count 4096 - s.freedXids.length = 0 := by omega
    rw [hzero, Nat.zero_min, range_zero, map_nil, append_nil]
    rfl

theorem replied_getXidRange (h : WithinBase s) :
    replied s .getXidRange = (List.range (min (remaining s) 65536)).map
      fun i => s.resourceIdBase + (currentOffset s + i) := by
  have hlt := h.currentOffset_lt.1
  have hst : s.resourceIdBase ||| (currentOffset s &&& resourceIdMask) = s.resourceIdBase + currentOffset s := by
    rw [and_mask, Nat.mod_eq_of_lt hlt, or_base h.aligned hlt]
  rw [replied, getXidRange]
  dsimp only
  rw [hst]
  exact map_congr_left fun i _ => Nat.add_assoc _ _ _

theorem handsOutFree_iff (h : WithinBase l.client) (a : XidAction) : HandsOutFree l a ↔ InOrder l a := by
  cases a with
  | createWindow req =>
    exact iff_of_true ⟨fun _ hid => absurd hid not_mem_nil, fun _ hid => absurd hid not_mem_nil,
      nodup_nil⟩ trivial
  | destroyWindow fuel window =>
    exact iff_of_true ⟨fun _ hid => absurd hid not_mem_nil, fun _ hid => absurd hid not_mem_nil,
      nodup_nil⟩ trivial
  | getXidRange =>
    have hreplied := replied_getXidRange h
    constructor
    · intro hout id hid
      exact hout.free id (hreplied ▸ mem_sequential_iff.mpr hid)
    · intro hord
      refine ⟨fun id hid => ?_, fun id hid => ?_, ?_⟩
      · exact ahead_own h (min_le_left _ _) (mem_sequential_iff.mp (hreplied ▸ hid))
      · exact hord id (mem_sequential_iff.mp (hreplied ▸ hid))
      · rw [hreplied]
        exact nodup_sequential
  | getXidList count =>
    have hreplied := replied_getXidList h count
    have hmem : ∀ id, id ∈ replied l.client (.getXidList count) ↔ id ∈ recycled l.client (min count 4096) ∨
        Ahead l.client (min (min count 4096 - l.client.freedXids.length) (remaining l.client)) id := by
      intro id
      rw [hreplied, mem_append, mem_reverse, mem_sequential_iff]
    have honce : (replied l.client (.getXidList count)).Nodup ↔ (recycled l.client (min count 4096)).Nodup ∧
        ∀ id, Ahead l.client (min (min count 4096 - l.client.freedXids.length) (remaining l.client)) id →
          id ∉ recycled l.client (min count 4096) := by
      rw [hreplied, nodup_append', nodup_reverse]
      refine and_congr_right fun _ => ?_
      rw [and_iff_right nodup_sequential]
      exact ⟨fun hdisj id hid hrec => hdisj (mem_reverse.mpr hrec) (mem_sequential_iff.mpr hid),
        fun hdisj id hrec hid => hdisj id (mem_sequential_iff.mp hid) (mem_reverse.mp hrec)⟩
    constructor
    · intro hout
      obtain ⟨hnd, hdisj⟩ := honce.mp hout.once
      exact ⟨fun id hid => ⟨hout.free id ((hmem id).mpr (.inr hid)), hdisj id hid⟩,
        fun id hid => hout.free id ((hmem id).mpr (.inl hid)), hnd⟩
    · rintro ⟨hahead, hrecycled, hnd⟩
      refine ⟨fun id hid => ?_, fun id hid => ?_, honce.mpr ⟨hnd, fun id hid => (hahead id hid).2⟩⟩
      · rcases (hmem id).mp hid with hid | hid
        · exact h.freed id (mem_of_mem_drop hid)
        · exact ahead_own h (min_le_right _ _) hid
      · rcases (hmem id).mp hid with hid | hid
        · exact hrecycled id hid
        · exact (hahead id hid).1

section Ids

variable {c c' : ClientState} {w : XId}

def idsOf (c : ClientState) : Nat × List XId := (c.resourceIdBase, c.freedXids)

theorem idsOf_registerWindow (w : XId) (c : ClientState) : idsOf (registerWindow w c) = idsOf c := by
  rw [registerWindow, getOrCreateWindowUuid]
  cases c.x11ToUuid.lookup w with
  | none => rfl
  | some uuid => rfl

theorem idsOf_handleCreateWindow (req : CreateWindowRequest) (c : ClientState) :
    idsOf (handleCreateWindow req c).1 = idsOf c := by
  rw [handleCreateWindow]
  cases createWindowError c req with
  | some r => rfl
  | none => exact idsOf_registerWindow req.wid _

theorem idsOf_revertFocusFrom (w : XId) (c : ClientState) : idsOf (revertFocusFrom w c) = idsOf c := by
  rw [revertFocusFrom]
  split
  · rfl
  · rw [setFocusWindow]
    split
    · rfl
    · rfl

theorem idsOf_foldl_revertFocusFrom (ds : List XId) (c : ClientState) :
    idsOf (ds.foldl (fun c d => revertFocusFrom d c) c) = idsOf c := by
  induction ds generalizing c with
  | nil => rfl
  | cons d ds ih =>
    rw [foldl_cons, ih]
    exact idsOf_revertFocusFrom d c

theorem idsOf_updateNetClientList (c : ClientState) : idsOf (updateNetClientList c) = idsOf c := rfl

theorem idsOf_recalculateWorkarea (c : ClientState) : idsOf (recalculateWorkarea c) = idsOf c := rfl

/-- The base stays, and what comes to the recycled ids is the client's own. -/
structure Recycles (c c' : ClientState) : Prop where
  base : c'.resourceIdBase = c.resourceIdBase
  freed : ∀ id ∈ c'.freedXids, id ∈ c.freedXids ∨ validateResourceId c id = true

theorem Recycles.of_idsOf (h : idsOf c' = idsOf c) : Recycles c c' := by
  obtain ⟨hbase, hfreed⟩ := Prod.mk.inj h
  exact ⟨hbase, fun id hid => .inl (hfreed ▸ hid)⟩

theorem Recycles.trans {c'' : ClientState} (h : Recycles c c') (h' : Recycles c' c'') : Recycles c c'' := by
  refine ⟨h'.base.trans h.base, fun id hid => ?_⟩
  rcases h'.freed id hid with hid | hvalid
  · exact h.freed id hid
  · rw [validateResourceId, h.base] at hvalid
    exact .inr hvalid

theorem recycles_updateWindow (w : XId) (f : WindowState → WindowState) (c : ClientState) :
    Recycles c (updateWindow w f c) :=
  .of_idsOf rfl

theorem recycles_destroyOne (c : ClientState) (w : XId) : Recycles c (destroyOne c w) := by
  have hdetach : idsOf (destroyOne c w) = idsOf (recycleXid w (removeLocalWindow w c)) := by
    rw [destroyOne, detachUuid]
    split
    · rfl
    · rfl
  refine Recycles.trans ?_ (.of_idsOf hdetach)
  rw [recycleXid]
  split
  · next hvalid =>
    refine ⟨rfl, fun id hid => ?_⟩
    rcases mem_append.mp hid with hid | hid
    · exact .inl hid
    · rw [mem_singleton.mp hid]
      exact .inr hvalid
  · exact .of_idsOf rfl

theorem recycles_foldl_destroyOne (ds : List XId) (c : ClientState) : Recycles c (ds.foldl destroyOne c) := by
  induction ds generalizing c with
  | nil => exact .of_idsOf rfl
  | cons d ds ih => exact (recycles_destroyOne c d).trans (ih _)

theorem recycles_handleDestroyWindow {fuel : Nat} {r : Response} (h : handleDestroyWindow fuel w c = some (c', r)) :
    Recycles c c' := by
  rw [handleDestroyWindow] at h
  cases hwin : c.windows.lookup w with
  | none =>
    rw [hwin] at h
    obtain rfl := (Prod.mk.inj (Option.some.inj h)).1
    exact .of_idsOf rfl
  | some win =>
    rw [hwin] at h
    dsimp only at h
    split at h
    · exact absurd h (Option.some_ne_none _).symm
    · next descendants _ =>
      obtain rfl := (Prod.mk.inj (Option.some.inj h)).1
      have hfoc := Recycles.of_idsOf ((idsOf_foldl_revertFocusFrom descendants (revertFocusFrom w c)).trans
        (idsOf_revertFocusFrom w c))
      have hbel := hfoc.trans (recycles_foldl_destroyOne descendants.reverse _)
      have hunl := hbel.trans (recycles_updateWindow win.parent (unlistChild w) _)
      have hroot := hunl.trans (recycles_destroyOne _ w)
      have hlstd := hroot.trans (.of_idsOf (idsOf_updateNetClientList _))
      split
      · exact hlstd.trans (.of_idsOf (idsOf_recalculateWorkarea _))
      · exact hlstd

end Ids

theorem withinBase_of_recycles {c : ClientState} (h : WithinBase s) (hc : Recycles s.toClientState c) :
    WithinBase { s with toClientState := c } := by
  have hbase : c.resourceIdBase = s.resourceIdBase := hc.base
  refine ⟨?_, ?_, ?_, fun id hid => ?_⟩
  · show 2 ^ 22 ∣ c.resourceIdBase
    rw [hbase]
    exact h.aligned
  · show c.resourceIdBase < 2 ^ 32
    rw [hbase]
    exact h.small
  · show ∃ o < 2 ^ 22, s.nextXid = c.resourceIdBase + o
    rw [hbase]
    exact h.cursor
  · show validateResourceId c id = true
    rw [validateResourceId, hbase]
    rcases hc.freed id hid with hid | hvalid
    · exact h.freed id hid
    · exact hvalid

theorem withinBase_advance (h : WithinBase s) (n : Nat) : WithinBase (advance n s) := by
  have hlt : (currentOffset s + n) % 2 ^ 22 < 2 ^ 22 := Nat.mod_lt _ (by decide)
  refine ⟨h.aligned, h.small, ⟨(currentOffset s + n) % 2 ^ 22, hlt, ?_⟩, h.freed⟩
  show s.resourceIdBase ||| ((currentOffset s + n) &&& resourceIdMask) = s.resourceIdBase + (currentOffset s + n) % 2 ^ 22
  rw [and_mask, or_base h.aligned hlt]

theorem withinBase_sublist {freed : List XId} (h : WithinBase s) (hfreed : ∀ id ∈ freed, id ∈ s.freedXids) :
    WithinBase { s with freedXids := freed } :=
  ⟨h.aligned, h.small, h.cursor, fun id hid => h.freed id (hfreed id hid)⟩

theorem withinBase_handle (h : WithinBase s) (a : XidAction) : WithinBase (handle s a) := by
  cases a with
  | createWindow req => exact withinBase_of_recycles h (.of_idsOf (idsOf_handleCreateWindow req s.toClientState))
  | destroyWindow fuel window =>
    refine withinBase_of_recycles h ?_
    cases hdst : handleDestroyWindow fuel window s.toClientState with
    | none => exact .of_idsOf rfl
    | some r => exact recycles_handleDestroyWindow hdst
  | getXidRange => exact withinBase_advance h _
  | getXidList count =>
    have hpop : ∀ id ∈ (popFreed (min count 4096) s.freedXids).2, id ∈ s.freedXids := fun id hid => by
      rw [popFreed_eq] at hid
      exact mem_of_mem_take hid
    have hrest := withinBase_sublist h hpop
    rw [handle, getXidList]
    dsimp only
    split
    · exact withinBase_advance hrest _
    · exact hrest

def run (c : ClientState) (actions : List XidAction) : Ledger :=
  actions.foldl next ⟨⟨c, c.resourceIdBase⟩, []⟩

/-- Along a run every reply hands out free ids of the client, each of them once, exactly if with every
request those that come next are in order. -/
theorem handsOutFree_run_iff (me : ClientId) (msb : Bool) (pid connIndex : Nat) (hostname : Bytes) (sh : Shared)
    (actions : List XidAction) :
    (∀ before a, before ++ [a] <+: actions →
        HandsOutFree (run (acceptClient me msb pid connIndex hostname sh) before) a) ↔
      ∀ before a, before ++ [a] <+: actions →
        InOrder (run (acceptClient me msb pid connIndex hostname sh) before) a := by
  refine foldl_steps_iff (I := fun l : Ledger => WithinBase l.client) (fun l a h _ => withinBase_handle h a)
    (fun l a h => handsOutFree_iff h a) ?_ actions
  have hbase := acceptClient_resourceIdBase me msb pid connIndex hostname sh
  refine ⟨?_, ?_, ⟨0, by decide, (Nat.add_zero _).symm⟩, fun id hid => absurd hid not_mem_nil⟩
  · exact hbase ▸ Nat.dvd_mul_left _ _
  · show (acceptClient me msb pid connIndex hostname sh).resourceIdBase < 2 ^ 32
    rw [hbase]
    have := Nat.mod_lt (connIndex + 1) (show 0 < 2 ^ 10 by decide)
    omega

section Example

def newcomer : ClientState := acceptClient 1 false 0 0 [] (initialShared (fun _ => ∅) ∅)

def ownWindow : XidAction :=
  .createWindow
    { depth := 0
      wid := 0x400005
      parent := rootWindow
      x := 0
      y := 0
      width := 1
      height := 1
      borderWidth := 0
      winClass := 0
      visual := 0 }

/-- The cursor hands out the id of a window. -/
theorem handsOut_existing : ¬∀ (actions before : List XidAction) (a : XidAction), before ++ [a] <+: actions →
    HandsOutFree (run newcomer before) a := by
  intro h
  have hfree := (h [ownWindow, .getXidList 6] [ownWindow] (.getXidList 6) prefix_rfl).free 0x400005
    (by decide +kernel)
  exact hfree.1 (by decide +kernel)

end Example

end X11Web.XcMisc
