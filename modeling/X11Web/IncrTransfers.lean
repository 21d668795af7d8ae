import X11Web.Links
import X11Web.Parcels
import X11Web.PropertyChunks
import X11Web.Selections

namespace X11Web.IncrTransfers

open List Finmap

open HashMaps Parcels Windows Properties PropertyChunks Selections
  X11Web.CreateDestroy

def cleanupStaleIncrTransfers (idle : IncrTransfer → Bool) (s : ClientState) : ClientState :=
  { s with incrTransfers := s.incrTransfers.filter (fun t => !idle t) }

def forPair (w : XId) (a : Atom) (t : IncrTransfer) : Bool := t.requestor == w && t.property == a

/-- What the requestor and others do once the transfer has been announced. The first two
take the value of its property. -/
inductive Action
  | takeByGetProperty (longLength : Nat)
  | takeByDeleteProperty
  | getProperty (req : GetPropertyRequest)
  | deleteProperty (w : XId) (a : Atom)
  | serve (env : Surroundings) (req : ConvertSelectionRequest) (property : Atom)
  | cleanup (idle : IncrTransfer → Bool)

/-- The type and the bytes that a GetProperty returns, if there is such a property. -/
def returned (atoms : AtomNames) (req : GetPropertyRequest) (s : ClientState) : Option (Atom × Bytes) :=
  match (handleGetProperty atoms req s).2 with
  | .error _ _ => none
  | .reply r => (foundProperty s req.window req.property).map (fun _ => (r.propType, r.value))

/-- The type and the bytes of the property that is to be deleted. -/
def deleted (atoms : AtomNames) (w : XId) (a : Atom) (s : ClientState) : Option (Atom × Bytes) :=
  match (handleDeleteProperty atoms w a s).2 with
  | .error _ _ _ => none
  | .ok => (foundProperty s w a).map (fun pv => (pv.propType, pv.data))

def Selector.withClient (s : Selector) (client : ClientState) : Selector := { s with client := client }

/-- The state after the action, and what was read by taking the value of `a` on `w`. -/
def incrStep (atoms : AtomNames) (w : XId) (a : Atom) (s : Selector) :
    Action → Selector × List (Option (Atom × Bytes))
  | .takeByGetProperty longLength =>
    let req : GetPropertyRequest := ⟨true, w, a, 0, longLength⟩
    (Selector.withClient s (handleGetProperty atoms req s.client).1, [returned atoms req s.client])
  | .takeByDeleteProperty =>
    (Selector.withClient s (handleDeleteProperty atoms w a s.client).1, [deleted atoms w a s.client])
  | .getProperty req => (Selector.withClient s (handleGetProperty atoms req s.client).1, [])
  | .deleteProperty v b => (Selector.withClient s (handleDeleteProperty atoms v b s.client).1, [])
  | .serve env req property => (((servePersistentClipboard env req property s).map (·.1)).getD s, [])
  | .cleanup idle => (Selector.withClient s (cleanupStaleIncrTransfers idle s.client), [])

def incrRun (atoms : AtomNames) (w : XId) (a : Atom) :
    List Action → Selector → Selector × List (Option (Atom × Bytes))
  | [], s => (s, [])
  | x :: xs, s =>
    let next := incrStep atoms w a s x
    let rest := incrRun atoms w a xs next.1
    (rest.1, next.2 ++ rest.2)

/-- The transfer is not idle when the idle ones are dropped. -/
def Prompt (w : XId) (a : Atom) (idle : IncrTransfer → Bool) : Prop :=
  ∀ t, forPair w a t = true → idle t = false

/-- The value is taken whole and without delay, and the other actions are about other properties. -/
def Proper (w : XId) (a : Atom) : Action → Prop
  | .takeByGetProperty longLength => incrThreshold ≤ 4 * longLength
  | .takeByDeleteProperty => True
  | .getProperty req => (req.window, req.property) ≠ (w, a) ∨ req.delete = false
  | .deleteProperty v b => (v, b) ≠ (w, a)
  | .serve env req property => (req.requestor, property) ≠ (w, a) ∧ Prompt w a env.idle
  | .cleanup idle => Prompt w a idle

/-- The announcement is read first, then the pieces one by one and then an empty value. -/
structure ReadsPieces (pieces : List Bytes) (reads : List (Option (Atom × Bytes))) : Prop where
  announced : ∀ v, reads[0]? = some v → ∃ size, v = some (incr, size)
  pieces : ∀ i x v, (pieces ++ [[]])[i]? = some x → reads[i + 1]? = some v → v.map (·.2) = some x

/-- Whatever happens beside it, the data is read once and whole, and with the empty value
the transfer is over. -/
def Delivered (atoms : AtomNames) (w : XId) (a : Atom) (data : Bytes) (s : Selector) : Prop :=
  ∃ pieces, Cut incrThreshold data pieces ∧ ∀ xs, (∀ x ∈ xs, Proper w a x) →
    ReadsPieces pieces (incrRun atoms w a xs s).2 ∧
    (pieces.length < (incrRun atoms w a xs s).2.length →
      (incrRun atoms w a xs s).1.client.incrTransfers.filter (forPair w a) = [])

def keptTransfers (env : Surroundings) (s : ClientState) : List IncrTransfer :=
  if s.incrTransfers.length ≥ maxIncrTransfers then s.incrTransfers.filter (fun t => !env.idle t)
  else s.incrTransfers

/-- The client has the window and the atom exists, and the transfer is the only one for the
property: it is added and there was none, or it is refused and there was one that has
just this data left. -/
structure Ready (env : Surroundings) (w : XId) (a : Atom) (data : Bytes) (s : ClientState) : Prop where
  known : unknownAtom env.atoms a = false
  window : w ∈ s.windows
  only : (keptTransfers env s).length < maxIncrTransfers ∧ (keptTransfers env s).filter (forPair w a) = [] ∨
    maxIncrTransfers ≤ (keptTransfers env s).length ∧ ∃ t, (keptTransfers env s).filter (forPair w a) = [t] ∧
      t.data.drop t.offset = data ∧ 0 < t.chunkSize ∧ t.chunkSize ≤ incrThreshold

variable {atoms : AtomNames} {w v : XId} {a b : Atom} {s s' : ClientState} {data : Bytes}

def hatchOf (w : XId) (a : Atom) (s : ClientState) : Hatch UInt8 :=
  ⟨(foundProperty s w a).map (·.data),
    (s.incrTransfers.filter (forPair w a)).map (fun t => ⟨t.data.drop t.offset, t.chunkSize⟩)⟩

theorem split_findIdx? {p : IncrTransfer → Bool} {ts : List IncrTransfer} {idx : Nat}
    (h : ts.findIdx? p = some idx) :
    ∃ before t after, ts = before ++ t :: after ∧ before.length = idx ∧ p t = true ∧ ∀ x ∈ before, p x = false := by
  induction ts generalizing idx with
  | nil => cases h
  | cons t ts ih =>
    rw [List.findIdx?_cons] at h
    split at h
    · next hp =>
      cases h
      exact ⟨[], t, ts, rfl, rfl, hp, nofun⟩
    · next hp =>
      obtain ⟨idx', hidx', rfl⟩ := Option.map_eq_some_iff.mp h
      obtain ⟨before, u, after, rfl, rfl, hu, hbef⟩ := ih hidx'
      refine ⟨t :: before, u, after, rfl, rfl, hu, fun x hx => ?_⟩
      rcases mem_cons.mp hx with rfl | hx
      · exact eq_false_of_ne_true hp
      · exact hbef x hx

def propertyIn (m : HashMap XId WindowState) (w : XId) (a : Atom) : Option PropertyValue :=
  (m.lookup w).bind (fun win => win.properties.lookup a)

theorem propertyIn_insert (m : HashMap XId WindowState) (v : XId) (b : Atom) (pv : PropertyValue) (w : XId) (a : Atom) :
    propertyIn (modify v (insertProperty b pv) m) w a =
      if (v, b) = (w, a) then (m.lookup w).map (fun _ => pv) else propertyIn m w a := by
  rw [propertyIn, lookup_modify, propertyIn]
  by_cases hv : w = v
  · subst v
    rw [if_pos rfl]
    by_cases hb : a = b
    · subst b
      rw [if_pos rfl]
      cases m.lookup w with
      | none => rfl
      | some win => exact lookup_insert win.properties
    · rw [if_neg (by simp [Ne.symm hb])]
      cases m.lookup w with
      | none => rfl
      | some win => exact lookup_insert_of_ne win.properties hb
  · rw [if_neg hv, if_neg (by simp [Ne.symm hv])]

theorem propertyIn_remove (m : HashMap XId WindowState) (v : XId) (b : Atom) (w : XId) (a : Atom) :
    propertyIn (modify v (removeProperty b) m) w a = if (v, b) = (w, a) then none else propertyIn m w a := by
  rw [propertyIn, lookup_modify, propertyIn]
  by_cases hv : w = v
  · subst v
    rw [if_pos rfl]
    by_cases hb : a = b
    · subst b
      rw [if_pos rfl]
      cases m.lookup w with
      | none => rfl
      | some win => exact lookup_erase a win.properties
    · rw [if_neg (by simp [Ne.symm hb])]
      cases m.lookup w with
      | none => rfl
      | some win => exact lookup_erase_ne hb
  · rw [if_neg hv, if_neg (by simp [Ne.symm hv])]

theorem foundProperty_eq (s : ClientState) (w : XId) (a : Atom) :
    foundProperty s w a = (propertyIn s.windows w a).orElse (fun _ => propertyIn s.shared.windows w a) := rfl

theorem foundProperty_insert (s : ClientState) (v : XId) (b : Atom) (pv : PropertyValue) (hw : w ∈ s.windows) :
    foundProperty (updateWindow v (insertProperty b pv) s) w a =
      if (v, b) = (w, a) then some pv else foundProperty s w a := by
  have hlocal := propertyIn_insert s.windows v b pv w a
  rw [foundProperty_eq, updateWindow, hlocal, foundProperty_eq]
  split
  · obtain ⟨win, hwin⟩ := mem_iff.mp hw
    rw [hwin]
    rfl
  · rfl

theorem foundProperty_removeBoth (s : ClientState) (v : XId) (b : Atom) (w : XId) (a : Atom) :
    foundProperty (removeBoth v b s) w a = if (v, b) = (w, a) then none else foundProperty s w a := by
  have hlocal := propertyIn_remove s.windows v b w a
  have hshd := propertyIn_remove s.shared.windows v b w a
  rw [foundProperty_eq, removeBoth, updateSharedWindow, updateWindow, hlocal, hshd, foundProperty_eq]
  split
  · rfl
  · rfl

theorem mem_updateWindow (v w : XId) (f : WindowState → WindowState) (s : ClientState) :
    w ∈ (updateWindow v f s).windows ↔ w ∈ s.windows := mem_modify v w f s.windows

/-- What the removal of a property leads to: nothing where no transfer waits for it, else
the next piece and the transfer moved on, or the empty value and the transfer gone. -/
theorem advanceIncrTransfer_cases (w : XId) (a : Atom) (s : ClientState) :
    (s.incrTransfers.filter (forPair w a) = [] ∧ advanceIncrTransfer w a s = s) ∨
      ∃ before t after, s.incrTransfers = before ++ t :: after ∧ forPair w a t = true ∧
        (∀ x ∈ before, forPair w a x = false) ∧
        ((t.data.length - t.offset = 0 ∧ advanceIncrTransfer w a s =
            { updateWindow w (insertProperty a ⟨t.target, 8, []⟩) s with incrTransfers := before ++ after }) ∨
          (t.data.length - t.offset ≠ 0 ∧ advanceIncrTransfer w a s =
            { updateWindow w (insertProperty a ⟨t.target, 8,
                (t.data.drop t.offset).take (min (t.data.length - t.offset) t.chunkSize)⟩) s with
              incrTransfers := before ++
                { t with offset := t.offset + min (t.data.length - t.offset) t.chunkSize } :: after })) := by
  rw [advanceIncrTransfer]
  cases hidx : s.incrTransfers.findIdx? (forPair w a) with
  | none =>
    refine .inl ⟨filter_eq_nil_iff.mpr fun t ht => ?_, ?_⟩
    · rw [List.findIdx?_eq_none_iff.mp hidx t ht]
      exact Bool.false_ne_true
    · rw [show s.incrTransfers.findIdx? (fun t => t.requestor == w && t.property == a) = none from hidx]
  | some idx =>
    obtain ⟨before, t, after, hspl, rfl, ht, hbef⟩ := split_findIdx? hidx
    refine .inr ⟨before, t, after, hspl, ht, hbef, ?_⟩
    have hget : s.incrTransfers[before.length]? = some t := by simp [hspl]
    rw [show s.incrTransfers.findIdx? (fun t => t.requestor == w && t.property == a) = some before.length from hidx]
    simp only [hget]
    by_cases hend : t.data.length - t.offset = 0
    · refine .inl ⟨hend, ?_⟩
      rw [if_pos hend, hspl]
      simp [eraseIdx_append_of_length_le]
    · refine .inr ⟨hend, ?_⟩
      rw [if_neg hend, hspl]
      simp

variable {t : IncrTransfer}

theorem forPair_iff : forPair w a t = true ↔ t.requestor = w ∧ t.property = a := by
  simp [forPair]

theorem forPair_of_ne (h : (v, b) ≠ (w, a)) (ht : forPair v b t = true) : forPair w a t = false := by
  obtain ⟨rfl, rfl⟩ := forPair_iff.mp ht
  rw [← Bool.not_eq_true, forPair_iff]
  rintro ⟨rfl, rfl⟩
  exact h rfl

theorem filter_split {before after : List IncrTransfer} (ht : forPair w a t = true)
    (hbef : ∀ x ∈ before, forPair w a x = false) :
    (before ++ t :: after).filter (forPair w a) = t :: after.filter (forPair w a) := by
  have hnone : before.filter (forPair w a) = [] := by
    rw [filter_eq_nil_iff]
    intro x hx
    rw [hbef x hx]
    exact Bool.false_ne_true
  rw [filter_append, hnone, nil_append, filter_cons_of_pos ht]

theorem filter_split_of_not {before after : List IncrTransfer} (ht : forPair w a t = false) :
    (before ++ t :: after).filter (forPair w a) = (before ++ after).filter (forPair w a) := by
  rw [filter_append, filter_append, filter_cons_of_neg (by rw [ht]; exact Bool.false_ne_true)]

theorem hatchOf_taken (hw : w ∈ s.windows) (a : Atom) :
    hatchOf w a (advanceIncrTransfer w a (removeBoth w a s)) = (hatchOf w a s).take := by
  have hw' : w ∈ (removeBoth w a s).windows := (mem_updateWindow w w _ s).mpr hw
  rw [hatchOf, hatchOf]
  rcases advanceIncrTransfer_cases w a (removeBoth w a s) with ⟨hnone, hsame⟩ | ⟨before, t, after, hspl, ht, hbef, hcase⟩
  · have hnone' : s.incrTransfers.filter (forPair w a) = [] := hnone
    rw [hsame, foundProperty_removeBoth, if_pos rfl, hnone, hnone']
    rfl
  · have hspl' : s.incrTransfers = before ++ t :: after := hspl
    rw [hspl', filter_split ht hbef, map_cons]
    rcases hcase with ⟨hend, hnext⟩ | ⟨hmore, hnext⟩
    · have hrest : t.data.drop t.offset = [] := drop_eq_nil_of_le (Nat.le_of_sub_eq_zero hend)
      have hfnd := foundProperty_insert (a := a) (removeBoth w a s) w a ⟨t.target, 8, []⟩ hw'
      have haft : (before ++ after).filter (forPair w a) = after.filter (forPair w a) := by
        rw [filter_append, filter_eq_nil_iff.mpr fun x hx => by simp [hbef x hx], nil_append]
      rw [if_pos rfl] at hfnd
      rw [hnext, hrest, take_end, haft]
      exact congrArg (fun found : Option PropertyValue => Hatch.mk (found.map (·.data)) _) hfnd
    · have hrest : t.data.drop t.offset ≠ [] := by
        rw [Ne, drop_eq_nil_iff]
        omega
      have hpiece : (t.data.drop t.offset).take (min (t.data.length - t.offset) t.chunkSize) =
          (t.data.drop t.offset).take t.chunkSize := by
        rw [Nat.min_comm, ← length_drop, ← take_eq_take_min]
      have hleft : t.data.drop (t.offset + min (t.data.length - t.offset) t.chunkSize) =
          (t.data.drop t.offset).drop t.chunkSize := by
        rw [drop_drop]
        rcases Nat.le_total t.chunkSize (t.data.length - t.offset) with hle | hle
        · rw [Nat.min_eq_right hle]
        · rw [Nat.min_eq_left hle, drop_eq_nil_of_le (by omega), drop_eq_nil_of_le (by omega)]
      have hfnd := foundProperty_insert (a := a) (removeBoth w a s) w a
        ⟨t.target, 8, (t.data.drop t.offset).take t.chunkSize⟩ hw'
      rw [if_pos rfl] at hfnd
      have hmvd : forPair w a { t with offset := t.offset + min (t.data.length - t.offset) t.chunkSize } = true := ht
      rw [hnext, take_more hrest, hpiece, filter_split hmvd hbef, map_cons, hleft]
      exact congrArg (fun found : Option PropertyValue => Hatch.mk (found.map (·.data)) _) hfnd

theorem hatchOf_taken_of_ne (hw : w ∈ s.windows) (h : (v, b) ≠ (w, a)) :
    foundProperty (advanceIncrTransfer v b (removeBoth v b s)) w a = foundProperty s w a ∧
      (advanceIncrTransfer v b (removeBoth v b s)).incrTransfers.filter (forPair w a) =
        s.incrTransfers.filter (forPair w a) := by
  have hw' : w ∈ (removeBoth v b s).windows := (mem_updateWindow v w _ s).mpr hw
  have hrmd : foundProperty (removeBoth v b s) w a = foundProperty s w a :=
    (foundProperty_removeBoth s v b w a).trans (if_neg h)
  have hins : ∀ pv, foundProperty (updateWindow v (insertProperty b pv) (removeBoth v b s)) w a =
      foundProperty s w a := fun pv => ((foundProperty_insert _ v b pv hw').trans (if_neg h)).trans hrmd
  rcases advanceIncrTransfer_cases v b (removeBoth v b s) with ⟨-, hsame⟩ | ⟨before, t, after, hspl, ht, hbef, hcase⟩
  · rw [hsame]
    exact ⟨hrmd, rfl⟩
  · have hspl' : s.incrTransfers = before ++ t :: after := hspl
    have hoth := forPair_of_ne h ht
    rcases hcase with ⟨-, hnext⟩ | ⟨-, hnext⟩
    · rw [hnext, hspl', filter_split_of_not hoth]
      exact ⟨hins _, rfl⟩
    · rw [hnext, hspl', filter_split_of_not hoth]
      exact ⟨hins _, filter_split_of_not hoth⟩

section Step

variable {s : Selector}

structure Untouched (w : XId) (a : Atom) (s s' : ClientState) : Prop where
  window : w ∈ s.windows → w ∈ s'.windows
  found : w ∈ s.windows → foundProperty s' w a = foundProperty s w a
  transfers : s'.incrTransfers.filter (forPair w a) = s.incrTransfers.filter (forPair w a)

theorem Untouched.refl (s : ClientState) : Untouched w a s s := ⟨id, fun _ => rfl, rfl⟩

theorem Untouched.hatchOf {s s' : ClientState} (h : Untouched w a s s') (hw : w ∈ s.windows) :
    hatchOf w a s' = hatchOf w a s := by
  rw [IncrTransfers.hatchOf, h.found hw, h.transfers, IncrTransfers.hatchOf]

theorem mem_advanceIncrTransfer (v w : XId) (b : Atom) (s : ClientState) :
    w ∈ (advanceIncrTransfer v b (removeBoth v b s)).windows ↔ w ∈ s.windows := by
  have hrmd : w ∈ (removeBoth v b s).windows ↔ w ∈ s.windows := mem_updateWindow v w _ s
  rcases advanceIncrTransfer_cases v b (removeBoth v b s) with ⟨-, hsame⟩ | ⟨_, _, _, -, -, -, ⟨-, hnext⟩ | ⟨-, hnext⟩⟩
  · rw [hsame, hrmd]
  · rw [hnext]
    exact (mem_updateWindow v w _ _).trans hrmd
  · rw [hnext]
    exact (mem_updateWindow v w _ _).trans hrmd

theorem untouched_taken {s : ClientState} (h : (v, b) ≠ (w, a)) (hw : w ∈ s.windows) :
    Untouched w a s (advanceIncrTransfer v b (removeBoth v b s)) := by
  obtain ⟨hfnd, htransfers⟩ := hatchOf_taken_of_ne hw h
  exact ⟨(mem_advanceIncrTransfer v w b s).mpr, fun _ => hfnd, htransfers⟩

theorem untouched_setProperty (h : (v, b) ≠ (w, a)) (pv : PropertyValue) (s : Selector) :
    Untouched w a s.client (s.setProperty v b pv).client :=
  ⟨(mem_updateWindow v w _ s.client).mpr,
    fun hw => (foundProperty_insert s.client v b pv hw).trans (if_neg h), rfl⟩

theorem filter_prompt {idle : IncrTransfer → Bool} (h : Prompt w a idle) (ts : List IncrTransfer) :
    (ts.filter (fun t => !idle t)).filter (forPair w a) = ts.filter (forPair w a) := by
  rw [filter_filter]
  apply filter_congr
  intro t _
  cases ht : forPair w a t with
  | true => rw [h t ht]; rfl
  | false => rfl

theorem pushIncrTransfer_eq (env : Surroundings) (t : IncrTransfer) (s : ClientState) :
    (pushIncrTransfer env t s).incrTransfers =
      if (keptTransfers env s).length ≥ maxIncrTransfers then keptTransfers env s
      else keptTransfers env s ++ [t] := rfl

theorem untouched_pushIncrTransfer {env : Surroundings} (henv : Prompt w a env.idle)
    (ht : forPair w a t = false) (s : ClientState) : Untouched w a s (pushIncrTransfer env t s) := by
  have hkept : (keptTransfers env s).filter (forPair w a) = s.incrTransfers.filter (forPair w a) := by
    rw [keptTransfers]
    split
    · exact filter_prompt henv _
    · rfl
  refine ⟨id, fun _ => rfl, ?_⟩
  rw [pushIncrTransfer_eq]
  split
  · exact hkept
  · rw [filter_append, hkept, filter_singleton, ht]
    exact append_nil _

theorem untouched_startIncrTransfer {env : Surroundings} (henv : Prompt w a env.idle) (h : (v, b) ≠ (w, a))
    (target : Atom) (data : Bytes) (s : Selector) :
    Untouched w a s.client (startIncrTransfer env v b target data s).client := by
  have hset := untouched_setProperty h ⟨incr, 32, toLeBytes32 data.length⟩ s
  have hoth : forPair w a ⟨v, b, target, data, 0, incrThreshold⟩ = false :=
    forPair_of_ne h (forPair_iff.mpr ⟨rfl, rfl⟩)
  have hpush := untouched_pushIncrTransfer henv hoth
    (s.setProperty v b ⟨incr, 32, toLeBytes32 data.length⟩).client
  exact ⟨fun hw => hpush.window (hset.window hw),
    fun hw => (hpush.found (hset.window hw)).trans (hset.found hw), hpush.transfers.trans hset.transfers⟩

theorem untouched_serve {env : Surroundings} {req : ConvertSelectionRequest} {property : Atom}
    (henv : Prompt w a env.idle) (h : (req.requestor, property) ≠ (w, a)) (s : Selector) :
    Untouched w a s.client (((servePersistentClipboard env req property s).map (·.1)).getD s).client := by
  rw [servePersistentClipboard]
  cases s.persistentClipboard.lookup req.selection with
  | none => exact .refl _
  | some entry =>
    dsimp only
    split
    · exact untouched_setProperty h _ s
    · split
      · exact untouched_setProperty h _ s
      · split
        · split
          · exact untouched_startIncrTransfer henv h _ _ s
          · exact untouched_setProperty h _ s
        · split
          · cases textTargets.findSome? entry.targets.lookup with
            | none => exact .refl _
            | some data => exact untouched_setProperty h _ s
          · exact .refl _

theorem handleGetProperty_fst (atoms : AtomNames) (req : GetPropertyRequest) (s : ClientState) :
    (handleGetProperty atoms req s).1 = s ∨ (req.delete = true ∧ (handleGetProperty atoms req s).1 =
      advanceIncrTransfer req.window req.property (removeBoth req.window req.property s)) := by
  rw [handleGetProperty]
  split
  · exact .inl rfl
  split
  · exact .inl rfl
  dsimp only
  split
  · next hdels =>
    refine .inr ⟨?_, rfl⟩
    cases hfnd : foundProperty s req.window req.property with
    | none => rw [hfnd] at hdels; cases hdels
    | some pv =>
      rw [hfnd] at hdels
      exact (Bool.and_eq_true_iff.mp hdels).1
  · exact .inl rfl

theorem handleDeleteProperty_fst (atoms : AtomNames) (v : XId) (b : Atom) (s : ClientState) :
    (handleDeleteProperty atoms v b s).1 = s ∨
      (handleDeleteProperty atoms v b s).1 = advanceIncrTransfer v b (removeBoth v b s) := by
  rw [handleDeleteProperty]
  split
  · exact .inl rfl
  split
  · exact .inl rfl
  · exact .inr rfl

def Takes : Action → Prop
  | .takeByGetProperty _ | .takeByDeleteProperty => True
  | _ => False

/-- What others do, and what the requestor does beside taking the value, leaves it and its
transfers alone. -/
theorem untouched_step (atoms : AtomNames) {x : Action} (hx : Proper w a x) (htakes : ¬ Takes x) (hw : w ∈ s.client.windows) :
    Untouched w a s.client (incrStep atoms w a s x).1.client ∧ (incrStep atoms w a s x).2 = [] := by
  cases x with
  | takeByGetProperty longLength => exact absurd trivial htakes
  | takeByDeleteProperty => exact absurd trivial htakes
  | getProperty req =>
    refine ⟨?_, rfl⟩
    change Untouched w a s.client (handleGetProperty atoms req s.client).1
    rcases handleGetProperty_fst atoms req s.client with hsame | ⟨hdel, hnext⟩
    · rw [hsame]
      exact .refl _
    · rcases hx with hne | hkeep
      · rw [hnext]
        exact untouched_taken hne hw
      · rw [hdel] at hkeep
        cases hkeep
  | deleteProperty v b =>
    refine ⟨?_, rfl⟩
    change Untouched w a s.client (handleDeleteProperty atoms v b s.client).1
    rcases handleDeleteProperty_fst atoms v b s.client with hsame | hnext
    · rw [hsame]
      exact .refl _
    · rw [hnext]
      exact untouched_taken hx hw
  | serve env req property => exact ⟨untouched_serve hx.2 hx.1 s, rfl⟩
  | cleanup idle => exact ⟨⟨id, fun _ => rfl, filter_prompt hx _⟩, rfl⟩

/-- What lies ready can be returned whole, and nothing waits where nothing lies ready. -/
structure Handy (h : Hatch UInt8) : Prop where
  out : ∀ x, h.out = some x → x.length ≤ incrThreshold
  empty : h.out = none → h.queue = []
  size : ∀ p ∈ h.queue, p.size ≤ incrThreshold

theorem Handy.take {h : Hatch UInt8} (hh : Handy h) : Handy h.take := by
  obtain ⟨out, queue⟩ := h
  cases queue with
  | nil => exact ⟨nofun, fun _ => rfl, nofun⟩
  | cons p queue =>
    obtain ⟨rest, size⟩ := p
    have hsize : size ≤ incrThreshold := hh.size ⟨rest, size⟩ mem_cons_self
    cases rest with
    | nil =>
      rw [take_end]
      refine ⟨fun x hx => ?_, nofun, fun q hq => hh.size q (mem_cons_of_mem _ hq)⟩
      cases hx
      exact Nat.zero_le _
    | cons c rest =>
      rw [take_more (cons_ne_nil c rest)]
      refine ⟨fun x hx => ?_, nofun, fun q hq => ?_⟩
      · obtain rfl := Option.some.inj hx
        rw [length_take]
        omega
      · rcases mem_cons.mp hq with rfl | hq
        · exact hsize
        · exact hh.size q (mem_cons_of_mem _ hq)

theorem windowExists_of_mem {s : ClientState} (hw : w ∈ s.windows) : windowExists s w = true := by
  simp [windowExists, hw]

theorem handleDeleteProperty_known {s : ClientState} (hkn : unknownAtom atoms a = false) (hw : w ∈ s.windows) :
    handleDeleteProperty atoms w a s = (advanceIncrTransfer w a (removeBoth w a s), .ok) := by
  simp [handleDeleteProperty, windowExists_of_mem hw, hkn]

theorem handleGetProperty_known {s : ClientState} (hkn : unknownAtom atoms a = false) (hw : w ∈ s.windows)
    {longLength : Nat} {pv : PropertyValue} (hfnd : foundProperty s w a = some pv)
    (hlong : pv.data.length ≤ 4 * longLength) :
    (handleGetProperty atoms ⟨true, w, a, 0, longLength⟩ s).1 = advanceIncrTransfer w a (removeBoth w a s) ∧
      returned atoms ⟨true, w, a, 0, longLength⟩ s = some (pv.propType, pv.data) := by
  have hrep : GetPropertyRequest.replyFor ⟨true, w, a, 0, longLength⟩ (some pv) =
      ⟨pv.propType, pv.format, 0, unitsOf pv.format pv.data.length % 2 ^ 32, pv.data⟩ := by
    simp only [GetPropertyRequest.replyFor, Nat.zero_mul, Nat.sub_zero, drop_zero,
      Nat.min_eq_left (show pv.data.length ≤ longLength * 4 by omega), Nat.sub_self, Nat.zero_mod, take_length]
  have hdels : GetPropertyRequest.deletes ⟨true, w, a, 0, longLength⟩ (some pv) = true := by
    simp only [GetPropertyRequest.deletes, Bool.true_and, decide_eq_true_eq]
    omega
  have hhdl : handleGetProperty atoms ⟨true, w, a, 0, longLength⟩ s = (advanceIncrTransfer w a (removeBoth w a s),
      .reply ⟨pv.propType, pv.format, 0, unitsOf pv.format pv.data.length % 2 ^ 32, pv.data⟩) := by
    simp only [handleGetProperty, hkn, windowExists_of_mem hw, hfnd, hdels, hrep, if_true, Bool.false_eq_true,
      Bool.true_eq_false, if_false]
  refine ⟨by rw [hhdl], ?_⟩
  simp only [returned, hhdl, hfnd, Option.map_some]

theorem take_step {x : Action} (hx : Proper w a x) (htakes : Takes x) (hkn : unknownAtom atoms a = false)
    (hw : w ∈ s.client.windows) (hhandy : x ≠ .takeByDeleteProperty → Handy (hatchOf w a s.client)) :
    w ∈ (incrStep atoms w a s x).1.client.windows ∧
      hatchOf w a (incrStep atoms w a s x).1.client = (hatchOf w a s.client).take ∧
      (incrStep atoms w a s x).2 = [(foundProperty s.client w a).map (fun pv => (pv.propType, pv.data))] := by
  cases x with
  | takeByGetProperty longLength =>
    have hh := hhandy nofun
    have hlong : incrThreshold ≤ 4 * longLength := hx
    cases hfnd : foundProperty s.client w a with
    | none =>
      have hsame : (handleGetProperty atoms ⟨true, w, a, 0, longLength⟩ s.client).1 = s.client := by
        simp [handleGetProperty, hkn, windowExists_of_mem hw, hfnd, GetPropertyRequest.deletes]
      have hout : (hatchOf w a s.client).out = none := by
        rw [hatchOf, hfnd]
        rfl
      have hcl : (incrStep atoms w a s (.takeByGetProperty longLength)).1.client = s.client := hsame
      have hreturned : returned atoms ⟨true, w, a, 0, longLength⟩ s.client = none := by
        simp only [returned, hfnd, Option.map_none]
        split <;> rfl
      rw [hcl]
      refine ⟨hw, ?_, congrArg (fun v => [v]) hreturned⟩
      have hqueue := hh.empty hout
      generalize hatchOf w a s.client = h at hout hqueue ⊢
      obtain ⟨out, queue⟩ := h
      cases hout
      cases hqueue
      rfl
    | some pv =>
      have hlen := hh.out pv.data (by rw [hatchOf, hfnd]; rfl)
      obtain ⟨hnext, hreturned⟩ := handleGetProperty_known hkn hw hfnd (hlen.trans hlong)
      have hcl : (incrStep atoms w a s (.takeByGetProperty longLength)).1.client =
          advanceIncrTransfer w a (removeBoth w a s.client) := hnext
      rw [hcl]
      exact ⟨(mem_advanceIncrTransfer w w a s.client).mpr hw, hatchOf_taken hw a, congrArg (fun v => [v]) hreturned⟩
  | takeByDeleteProperty =>
    have hhdl := handleDeleteProperty_known hkn hw
    have hcl : (incrStep atoms w a s .takeByDeleteProperty).1.client =
        advanceIncrTransfer w a (removeBoth w a s.client) := congrArg Prod.fst hhdl
    have hdeld : deleted atoms w a s.client =
        (foundProperty s.client w a).map (fun pv => (pv.propType, pv.data)) := by
      rw [deleted, hhdl]
    rw [hcl]
    exact ⟨(mem_advanceIncrTransfer w w a s.client).mpr hw, hatchOf_taken hw a, congrArg (fun v => [v]) hdeld⟩
  | getProperty req => exact htakes.elim
  | deleteProperty v b => exact htakes.elim
  | serve env req property => exact htakes.elim
  | cleanup idle => exact htakes.elim

end Step

theorem incrRun_hatch {xs : List Action} (hkn : unknownAtom atoms a = false) {s : Selector}
    (hw : w ∈ s.client.windows) (hproper : ∀ x ∈ xs, Proper w a x)
    (hhandy : (∃ x ∈ xs, x ≠ .takeByDeleteProperty) → Handy (hatchOf w a s.client)) :
    hatchOf w a (incrRun atoms w a xs s).1.client =
        Hatch.take^[(incrRun atoms w a xs s).2.length] (hatchOf w a s.client) ∧
      (∀ i v, (incrRun atoms w a xs s).2[i]? = some v → v.map (·.2) = (Hatch.take^[i] (hatchOf w a s.client)).out) ∧
      ∀ v, (incrRun atoms w a xs s).2[0]? = some v →
        v = (foundProperty s.client w a).map (fun pv => (pv.propType, pv.data)) := by
  induction xs generalizing s with
  | nil => exact ⟨rfl, nofun, nofun⟩
  | cons x xs ih =>
    have hx := hproper x mem_cons_self
    have hxs : ∀ y ∈ xs, Proper w a y := fun y hy => hproper y (mem_cons_of_mem x hy)
    by_cases htakes : Takes x
    · obtain ⟨hw', hhatch, hread⟩ := take_step hx htakes hkn hw fun hne =>
        hhandy ⟨x, mem_cons_self, hne⟩
      obtain ⟨hlast, hreads, -⟩ := ih hw' hxs fun ⟨y, hy, hne⟩ => by
        rw [hhatch]
        exact (hhandy ⟨y, mem_cons_of_mem x hy, hne⟩).take
      simp only [incrRun, hread, singleton_append, length_cons, Function.iterate_succ_apply]
      rw [hhatch] at hlast hreads
      refine ⟨hlast, fun i v hv => ?_, fun v hv => (Option.some.inj hv).symm⟩
      cases i with
      | zero =>
        obtain rfl := Option.some.inj hv
        rw [Function.iterate_zero, id, hatchOf, Option.map_map]
        rfl
      | succ i =>
        rw [Function.iterate_succ_apply]
        exact hreads i v hv
    · obtain ⟨hsame, hread⟩ := untouched_step atoms hx htakes hw
      have hrun := ih (hsame.window hw) hxs fun ⟨y, hy, hne⟩ => by
        rw [hsame.hatchOf hw]
        exact hhandy ⟨y, mem_cons_of_mem x hy, hne⟩
      rw [hsame.hatchOf hw, hsame.found hw] at hrun
      simp only [incrRun, hread, nil_append]
      exact hrun

/-- The server keeps the data for the target of the request, and it is too long for one property. -/
structure Large (req : ConvertSelectionRequest) (data : Bytes) (s : Selector) : Prop where
  kept : ∃ entry, s.persistentClipboard.lookup req.selection = some entry ∧ entry.targets.lookup req.target = some data
  target : req.target ≠ targets ∧ req.target ≠ timestamp
  long : incrThreshold < data.length

section Serving

variable {env : Surroundings} {req : ConvertSelectionRequest} {property : Atom} {s : Selector}

theorem Large.served (h : Large req data s) (env : Surroundings) (property : Atom) :
    servePersistentClipboard env req property s =
      some (startIncrTransfer env req.requestor property req.target data s, [notifyRequestor env req property s]) := by
  obtain ⟨⟨entry, hent, hdata⟩, ⟨htargets, hts⟩, hlong⟩ := h
  simp only [servePersistentClipboard, hent, htargets, hts, if_false, hdata]
  rw [if_pos hlong]

theorem startIncrTransfer_window (hw : req.requestor ∈ s.client.windows) :
    req.requestor ∈ (startIncrTransfer env req.requestor property req.target data s).client.windows :=
  (mem_updateWindow req.requestor req.requestor _ s.client).mpr hw

theorem startIncrTransfer_found (hw : req.requestor ∈ s.client.windows) :
    foundProperty (startIncrTransfer env req.requestor property req.target data s).client req.requestor property =
      some ⟨incr, 32, toLeBytes32 data.length⟩ :=
  (foundProperty_insert s.client req.requestor property _ hw).trans (if_pos rfl)

theorem startIncrTransfer_pending :
    (startIncrTransfer env req.requestor property req.target data s).client.incrTransfers.filter
        (forPair req.requestor property) =
      if (keptTransfers env s.client).length ≥ maxIncrTransfers then
        (keptTransfers env s.client).filter (forPair req.requestor property)
      else (keptTransfers env s.client).filter (forPair req.requestor property) ++
        [⟨req.requestor, property, req.target, data, 0, incrThreshold⟩] := by
  have hpush := pushIncrTransfer_eq env ⟨req.requestor, property, req.target, data, 0, incrThreshold⟩
    (s.setProperty req.requestor property ⟨incr, 32, toLeBytes32 data.length⟩).client
  have hnew : forPair req.requestor property ⟨req.requestor, property, req.target, data, 0, incrThreshold⟩ = true :=
    forPair_iff.mpr ⟨rfl, rfl⟩
  refine (congrArg (List.filter (forPair req.requestor property)) hpush).trans ?_
  rw [apply_ite (List.filter _), filter_append, filter_singleton, hnew]
  rfl

theorem map_parcel_eq_singleton {ts : List IncrTransfer} {size : Nat} :
    ts.map (fun t => (⟨t.data.drop t.offset, t.chunkSize⟩ : Parcel UInt8)) = [⟨data, size⟩] ↔
      ∃ t, ts = [t] ∧ t.data.drop t.offset = data ∧ t.chunkSize = size := by
  constructor
  · intro h
    obtain ⟨t, ts', rfl, ht, hts'⟩ := map_eq_cons_iff.mp h
    obtain rfl := map_eq_nil_iff.mp hts'
    obtain ⟨hdata, hsize⟩ := Parcel.mk.inj ht
    exact ⟨t, rfl, hdata, hsize⟩
  · rintro ⟨t, rfl, hdata, hsize⟩
    rw [map_singleton, hdata, hsize]

/-- The transfer is the only one for the property exactly if a single parcel of the data waits in the hatch. -/
theorem only_iff (data : Bytes) :
    ((keptTransfers env s.client).length < maxIncrTransfers ∧
        (keptTransfers env s.client).filter (forPair req.requestor property) = [] ∨
      maxIncrTransfers ≤ (keptTransfers env s.client).length ∧
        ∃ t, (keptTransfers env s.client).filter (forPair req.requestor property) = [t] ∧
          t.data.drop t.offset = data ∧ 0 < t.chunkSize ∧ t.chunkSize ≤ incrThreshold) ↔
      ∃ size, (hatchOf req.requestor property
          (startIncrTransfer env req.requestor property req.target data s).client).queue = [⟨data, size⟩] ∧
        0 < size ∧ size ≤ incrThreshold := by
  simp only [hatchOf, map_parcel_eq_singleton, startIncrTransfer_pending]
  rcases Nat.lt_or_ge (keptTransfers env s.client).length maxIncrTransfers with hroom | hfull
  · simp only [hroom, Nat.not_le.mpr hroom, true_and, false_and, or_false, if_false]
    constructor
    · intro hnone
      refine ⟨incrThreshold, ⟨⟨req.requestor, property, req.target, data, 0, incrThreshold⟩, ?_, rfl, rfl⟩, by decide,
        Nat.le_refl _⟩
      rw [hnone, nil_append]
    · rintro ⟨size, ⟨t, ht, -⟩, -⟩
      have hlen := congrArg List.length ht
      rw [length_append, length_singleton, length_singleton] at hlen
      exact eq_nil_of_length_eq_zero (Nat.succ.inj hlen)
  · simp only [hfull, Nat.not_lt.mpr hfull, false_and, true_and, false_or, if_true]
    constructor
    · rintro ⟨t, ht, hdata, hsize⟩
      exact ⟨t.chunkSize, ⟨t, ht, hdata, rfl⟩, hsize⟩
    · rintro ⟨size, ⟨t, ht, hdata, rfl⟩, hsize⟩
      exact ⟨t, ht, hdata, hsize⟩

theorem delivered_of_parcel {size : Nat} (hkn : unknownAtom atoms a = false) (hw : w ∈ s.client.windows)
    (hfnd : foundProperty s.client w a = some ⟨incr, 32, toLeBytes32 data.length⟩)
    (hqueue : (hatchOf w a s.client).queue = [⟨data, size⟩]) (hsize : 0 < size ∧ size ≤ incrThreshold)
    (hlong : incrThreshold < data.length) : Delivered atoms w a data s := by
  obtain ⟨pieces, hcut, hsrvs⟩ := (serves_iff hlong (hatchOf w a s.client)).mpr ⟨size, hqueue, hsize⟩
  have hhandy : Handy (hatchOf w a s.client) := by
    refine ⟨fun x hx => ?_, fun hnone => ?_, fun p hp => ?_⟩
    · rw [hatchOf, hfnd] at hx
      cases hx
      exact (by decide : 4 ≤ incrThreshold)
    · rw [hatchOf, hfnd] at hnone
      cases hnone
    · rw [hqueue, List.mem_singleton] at hp
      rw [hp]
      exact hsize.2
  refine ⟨pieces, hcut, fun xs hxs => ?_⟩
  obtain ⟨hlast, hreads, hfst⟩ := incrRun_hatch hkn hw hxs fun _ => hhandy
  refine ⟨⟨fun v hv => ⟨toLeBytes32 data.length, ?_⟩, fun i x v hx hv => ?_⟩, fun hover => ?_⟩
  · rw [hfst v hv, hfnd]
    rfl
  · rw [hreads (i + 1) v hv]
    exact hsrvs.out i x hx
  · have hemp := hsrvs.queue _ hover
    rw [← hlast] at hemp
    exact map_eq_nil_iff.mp hemp

def takes (n : Nat) : List Action := List.replicate n .takeByDeleteProperty

theorem takes_proper (n : Nat) : ∀ x ∈ takes n, Proper w a x := by
  intro x hx
  rw [eq_of_mem_replicate hx]
  trivial

theorem length_incrRun_takes (atoms : AtomNames) (w : XId) (a : Atom) (n : Nat) (s : Selector) : (incrRun atoms w a (takes n) s).2.length = n := by
  induction n generalizing s with
  | zero => rfl
  | succ n ih =>
    have hrest := ih (incrStep atoms w a s .takeByDeleteProperty).1
    have hread : (incrStep atoms w a s .takeByDeleteProperty).2.length = 1 := rfl
    rw [takes, replicate_succ, incrRun]
    dsimp only
    rw [length_append, hread]
    exact (congrArg (1 + ·) hrest).trans (Nat.add_comm 1 n)

theorem Delivered.serves (h : Delivered atoms w a data s) (hkn : unknownAtom atoms a = false)
    (hw : w ∈ s.client.windows) :
    ∃ pieces, Cut incrThreshold data pieces ∧ Serves pieces (hatchOf w a s.client) := by
  obtain ⟨pieces, hcut, hruns⟩ := h
  have hrun : ∀ n, _ := fun n => incrRun_hatch hkn hw (takes_proper n) fun ⟨x, hx, hne⟩ =>
    absurd (eq_of_mem_replicate hx) hne
  refine ⟨pieces, hcut, fun i x hx => ?_, fun n hn => ?_⟩
  · obtain ⟨-, hreads, -⟩ := hrun (i + 2)
    have hlen := length_incrRun_takes atoms w a (i + 2) s
    obtain ⟨v, hv⟩ : ∃ v, (incrRun atoms w a (takes (i + 2)) s).2[i + 1]? = some v :=
      ⟨_, List.getElem?_eq_getElem (by omega)⟩
    rw [← hreads (i + 1) v hv]
    exact (hruns (takes (i + 2)) (takes_proper _)).1.pieces i x v hx hv
  · obtain ⟨hlast, -, -⟩ := hrun n
    have hlen := length_incrRun_takes atoms w a n s
    have hemp := (hruns (takes n) (takes_proper n)).2 (by omega)
    rw [hlen] at hlast
    rw [← hlast, hatchOf, hemp]
    rfl

theorem Delivered.known (h : Delivered atoms w a data s) : unknownAtom atoms a = false := by
  obtain ⟨pieces, -, hruns⟩ := h
  by_contra hunk
  have hfst : (incrRun atoms w a (takes 1) s).2[0]? = some (deleted atoms w a s.client) := rfl
  obtain ⟨size, hsize⟩ := (hruns (takes 1) (takes_proper 1)).1.announced _ hfst
  have hnone : deleted atoms w a s.client = none := by
    rw [deleted, handleDeleteProperty]
    rw [Bool.not_eq_false] at hunk
    split
    · rfl
    · next heq =>
      simp only [hunk, if_true] at heq
      split at heq <;> cases heq
  rw [hnone] at hsize
  cases hsize

theorem Delivered.window (h : Delivered atoms w a data s) (hne : data ≠ []) : w ∈ s.client.windows := by
  have hkn := h.known
  obtain ⟨pieces, hcut, hruns⟩ := h
  by_contra hw
  have hreads := (hruns (takes 2) (takes_proper 2)).1
  cases pieces with
  | nil => exact hne hcut.whole.symm
  | cons c pieces =>
    set next := (incrStep atoms w a s .takeByDeleteProperty).1 with hnext
    have hsnd : (incrRun atoms w a (takes 2) s).2[1]? = some (deleted atoms w a next.client) := rfl
    have hread := hreads.pieces 0 c _ rfl hsnd
    have hnone : deleted atoms w a next.client = none := by
      cases hex : windowExists s.client w with
      | false =>
        have hsame : next.client = s.client := by
          change (handleDeleteProperty atoms w a s.client).1 = s.client
          rw [handleDeleteProperty, if_pos hex]
        rw [hsame, deleted, handleDeleteProperty, if_pos hex]
      | true =>
        have hcl : next.client = advanceIncrTransfer w a (removeBoth w a s.client) := by
          change (handleDeleteProperty atoms w a s.client).1 = _
          rw [handleDeleteProperty, if_neg (by rw [hex]; decide), if_neg (by rw [hkn]; decide)]
        have hlocal : propertyIn next.client.windows w a = none := by
          have hgone : w ∉ next.client.windows := by
            rw [hcl, mem_advanceIncrTransfer]
            exact hw
          rw [propertyIn, lookup_eq_none.mpr hgone]
          rfl
        have hshd : propertyIn next.client.shared.windows w a = none := by
          rw [hcl, (advanceIncrTransfer_localOnly w a _).shared]
          exact (propertyIn_remove s.client.shared.windows w a w a).trans (if_pos rfl)
        rw [deleted, foundProperty_eq, hlocal, hshd]
        split <;> rfl
    rw [hnone] at hread
    cases hread

theorem Large.ready (h : Large req data s)
    (hdlvd : Delivered env.atoms req.requestor property data
      (startIncrTransfer env req.requestor property req.target data s)) :
    Ready env req.requestor property data s.client := by
  have hne : data ≠ [] := ne_nil_of_length_pos ((by decide : 0 < incrThreshold).trans h.long)
  have hw₀ := hdlvd.window hne
  have hw : req.requestor ∈ s.client.windows := (mem_updateWindow req.requestor req.requestor _ s.client).mp hw₀
  refine ⟨hdlvd.known, hw, ?_⟩
  rw [only_iff data]
  exact (serves_iff h.long _).mp (hdlvd.serves hdlvd.known hw₀)

/-- The data is delivered exactly to a client that is ready for it. -/
theorem incr_delivered_iff (h : Large req data s) (env : Surroundings) (property : Atom) :
    (∀ s₀ sent, servePersistentClipboard env req property s = some (s₀, sent) →
      Delivered env.atoms req.requestor property data s₀) ↔ Ready env req.requestor property data s.client := by
  have hsrvd := h.served env property
  constructor
  · intro hall
    exact h.ready (hall _ _ hsrvd)
  · rintro ⟨hkn, hw, honly⟩ s₀ sent hs₀
    obtain ⟨rfl, rfl⟩ := Prod.mk.inj (Option.some.inj (hsrvd.symm.trans hs₀))
    obtain ⟨size, hqueue, hsize⟩ := (only_iff data).mp honly
    exact delivered_of_parcel hkn (startIncrTransfer_window hw) (startIncrTransfer_found hw) hqueue hsize h.long

end Serving

/-- A client with a window and with these transfers, while the server keeps the data as the
text of selection 1. -/
def pasting (ts : List IncrTransfer) (data : Bytes) : Selector where
  client := { (handleCreateWindow (Links.createPlain 0x400001 rootWindow) Links.loneClient).1 with incrTransfers := ts }
  selection := {}
  persistentClipboard := Finmap.singleton 1 ⟨Finmap.singleton Predef.string data, 5⟩

def pasteRequest : ConvertSelectionRequest := ⟨0x400001, 1, Predef.string, 39⟩

def pasteSurroundings : Surroundings := ⟨fun _ => some "", 7, fun _ => false, [Predef.string]⟩

def longText : Bytes := List.replicate 65537 0

theorem pasting_large (ts : List IncrTransfer) : Large pasteRequest longText (pasting ts longText) := by
  refine ⟨⟨_, lookup_singleton_eq, lookup_singleton_eq⟩, by decide, ?_⟩
  rw [longText, length_replicate]
  decide

theorem pasting_window (ts : List IncrTransfer) : 0x400001 ∈ (pasting ts longText).client.windows := by
  have hwindow : 0x400001 ∈ (handleCreateWindow (Links.createPlain 0x400001 rootWindow) Links.loneClient).1.windows := by
    decide +kernel
  exact hwindow

theorem incr_delivered_first : Large pasteRequest longText (pasting [] longText) ∧
    ∀ s₀ sent, servePersistentClipboard pasteSurroundings pasteRequest 39 (pasting [] longText) = some (s₀, sent) →
      Delivered pasteSurroundings.atoms 0x400001 39 longText s₀ :=
  ⟨pasting_large [], (incr_delivered_iff (pasting_large []) pasteSurroundings 39).mpr
    ⟨rfl, pasting_window [], .inl ⟨by decide, rfl⟩⟩⟩

/-- A hundred transfers to another property of the window are under way. -/
def busy : List IncrTransfer := List.replicate 100 ⟨0x400001, 40, Predef.string, [], 0, incrThreshold⟩

/-- The transfer is refused, and the requestor is told that it succeeded. -/
theorem incr_refused : Large pasteRequest longText (pasting busy longText) ∧
    ∃ s₀, servePersistentClipboard pasteSurroundings pasteRequest 39 (pasting busy longText) =
        some (s₀, [(.connection 1, .selectionNotify 7 0x400001 1 Predef.string 39)]) ∧
      ¬ Delivered pasteSurroundings.atoms 0x400001 39 longText s₀ := by
  have hnotice : notifyRequestor pasteSurroundings pasteRequest 39 (pasting busy longText) =
      (.connection 1, .selectionNotify 7 0x400001 1 Predef.string 39) := by decide +kernel
  refine ⟨pasting_large busy, startIncrTransfer pasteSurroundings 0x400001 39 Predef.string longText
    (pasting busy longText), ?_, fun hdlvd => ?_⟩
  · rw [← hnotice]
    exact (pasting_large busy).served pasteSurroundings 39
  · rcases ((pasting_large busy).ready hdlvd).only with ⟨hroom, -⟩ | ⟨-, t, ht, -⟩
    · exact absurd hroom (by decide)
    · have hnone : (keptTransfers pasteSurroundings (pasting busy longText).client).filter (forPair 0x400001 39) = [] := by
        decide +kernel
      exact cons_ne_nil t [] (ht.symm.trans hnone)

end X11Web.IncrTransfers
