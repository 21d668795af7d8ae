import X11Web.Properties
import X11Web.Runs
import X11Web.SyncWindows

namespace X11Web.PropertyVisibility

open HashMaps Windows Properties SyncWindows Runs Option Function

inductive PropertyRequest
  | change (req : ChangePropertyRequest)
  | delete (window : XId) (property : Atom)
  | get (req : GetPropertyRequest)

def PropertyRequest.window : PropertyRequest → XId
  | .change req => req.window
  | .delete window _ => window
  | .get req => req.window

/-- The connections and what they share, with the outcome of the last completed
write or deletion of each property of the window under watch. -/
structure World where
  shared : Shared
  connections : ClientId → Option Connection
  last : Atom → Option (Option PropertyValue)

def World.view (t : World) (conn : Connection) : ClientState := { conn with shared := t.shared }

def handleProperty (atoms : AtomNames) (s : ClientState) : PropertyRequest → ClientState
  | .change req => (handleChangeProperty atoms req s).1
  | .delete window property => (handleDeleteProperty atoms window property s).1
  | .get req => (handleGetProperty atoms req s).1

/-- The property that the request sets or removes, and to what. -/
def PropertyRequest.effect (atoms : AtomNames) (s : ClientState) :
    PropertyRequest → Option (Atom × Option PropertyValue)
  | .change req =>
    if changePropertyError atoms req s = none then
      some (req.property, some (req.combine (cachedProperty s req.window req.property)))
    else none
  | .delete window property =>
    if windowExists s window ∧ unknownAtom atoms property = false then some (property, none)
    else none
  | .get req =>
    if unknownAtom atoms req.property = false ∧ windowExists s req.window ∧
        req.deletes (foundProperty s req.window req.property) then
      some (req.property, none)
    else none

def record (effect : Option (Atom × Option PropertyValue))
    (last : Atom → Option (Option PropertyValue)) : Atom → Option (Option PropertyValue) :=
  match effect with
  | none => last
  | some (a, v) => update last a (some v)

/-- A request of a client and the order in which `sync_windows` after it meets
the shared windows. -/
structure Call where
  client : ClientId
  request : PropertyRequest
  order : List XId

/-- The request and the `sync_windows` after it. -/
def serve (atoms : AtomNames) (call : Call) (conn : Connection) (t : World) : World :=
  let s := syncWindows call.order (handleProperty atoms (t.view conn) call.request)
  { shared := s.shared
    connections := update t.connections call.client (some s.toConnection)
    last := record (call.request.effect atoms (t.view conn)) t.last }

def PropertyStep (atoms : AtomNames) (w : XId) (t : World) (call : Call) (t' : World) : Prop :=
  call.request.window = w ∧ ∃ conn, t.connections call.client = some conn ∧
    Enumerates call.order (handleProperty atoms (t.view conn) call.request).shared.windows ∧
    t' = serve atoms call conn t

/-- The window is shared, every connection is synced and no request has come. -/
structure Ready (w : XId) (t : World) : Prop where
  present : w ∈ t.shared.windows
  synced : ∀ i conn, t.connections i = some conn → conn.sharedDirtyWindows = []
  fresh : t.last = fun _ => none

structure Tracks (atoms : AtomNames) (w : XId) (t : World) : Prop where
  present : w ∈ t.shared.windows
  synced : ∀ i conn, t.connections i = some conn → conn.sharedDirtyWindows = []
  known : ∀ a v, t.last a = some v → unknownAtom atoms a = false
  holds : ∀ a v, t.last a = some v → sharedProperty t.shared w a = v

variable {atoms : AtomNames} {w : XId} {t t' : World} {s : ClientState} {call : Call}

theorem Ready.tracks (h : Ready w t) : Tracks atoms w t := by
  refine ⟨h.present, h.synced, ?_, ?_⟩
  · intro a v hv
    simp [h.fresh] at hv
  · intro a v hv
    simp [h.fresh] at hv

theorem syncWindows_shared (order : List XId) (h : s.sharedDirtyWindows = []) :
    (syncWindows order s).shared = s.shared := by
  simp only [syncWindows, flushDirty, h, step2, List.foldl_nil]

def setProperty (a : Atom) : Option PropertyValue → WindowState → WindowState
  | some v => insertProperty a v
  | none => removeProperty a

theorem lookup_setProperty (a b : Atom) (v : Option PropertyValue) (win : WindowState) :
    (setProperty a v win).properties.lookup b = if b = a then v else win.properties.lookup b := by
  cases v with
  | none => exact lookup_erase_eq win.properties a b
  | some v => exact lookup_insert_eq win.properties a b v

theorem sharedProperty_setProperty (sh : Shared) (a b : Atom) (v : Option PropertyValue)
    (hw : w ∈ sh.windows) :
    sharedProperty { sh with windows := modify w (setProperty a v) sh.windows } w b =
      if b = a then v else sharedProperty sh w b := by
  obtain ⟨win, hwin⟩ := Finmap.mem_iff.mp hw
  simp [sharedProperty, hwin, lookup_setProperty]

theorem handleProperty_effect (atoms : AtomNames) (req : PropertyRequest) (s : ClientState) :
    match req.effect atoms s with
    | none => LocalOnly s (handleProperty atoms s req)
    | some (a, v) => unknownAtom atoms a = false ∧
        Publishes req.window (setProperty a v) s (handleProperty atoms s req) := by
  cases req with
  | change req =>
    by_cases herr : changePropertyError atoms req s = none
    · simp only [PropertyRequest.effect, herr, if_true]
      exact ⟨(changePropertyError_known req herr).1, handleChangeProperty_publishes req herr⟩
    · simp only [PropertyRequest.effect, herr, if_false, handleProperty,
        handleChangeProperty_failed req herr]
      exact .refl s
  | delete window property =>
    by_cases hex : windowExists s window = true
    · by_cases hkn : unknownAtom atoms property = false
      · simp only [PropertyRequest.effect, handleProperty, handleDeleteProperty, hex, hkn]
        exact ⟨hkn, (removeBoth_publishes window property s).trans
          (advanceIncrTransfer_localOnly window property _)⟩
      · simp only [PropertyRequest.effect, handleProperty, handleDeleteProperty, hex, hkn]
        simpa using LocalOnly.refl s
    · simp only [PropertyRequest.effect, handleProperty, handleDeleteProperty, hex]
      simpa using LocalOnly.refl s
  | get req =>
    by_cases hkn : unknownAtom atoms req.property = false
    · by_cases hex : windowExists s req.window = true
      · by_cases hdels : req.deletes (foundProperty s req.window req.property) = true
        · simp only [PropertyRequest.effect, handleProperty, handleGetProperty, hex, hkn,
            hdels]
          exact ⟨hkn, (removeBoth_publishes req.window req.property s).trans
            (advanceIncrTransfer_localOnly req.window req.property _)⟩
        · simp only [PropertyRequest.effect, handleProperty, handleGetProperty, hex, hkn,
            hdels]
          simpa using LocalOnly.refl s
      · simp only [PropertyRequest.effect, handleProperty, handleGetProperty, hex, hkn]
        simpa using LocalOnly.refl s
    · simp only [PropertyRequest.effect, handleProperty, handleGetProperty, hkn]
      simpa using LocalOnly.refl s

theorem serve_shared (h : Tracks atoms w t) (hstep : PropertyStep atoms w t call t') :
    ∃ conn, t.connections call.client = some conn ∧
      t'.last = record (call.request.effect atoms (t.view conn)) t.last ∧
      t'.shared = (handleProperty atoms (t.view conn) call.request).shared ∧
      ∀ i conn', t'.connections i = some conn' → conn'.sharedDirtyWindows = [] := by
  obtain ⟨-, conn, hconn, -, rfl⟩ := hstep
  have hdirty : (handleProperty atoms (t.view conn) call.request).sharedDirtyWindows = [] := by
    have heff := handleProperty_effect atoms call.request (t.view conn)
    have hsynced : (t.view conn).sharedDirtyWindows = [] := h.synced call.client conn hconn
    split at heff
    · exact heff.dirty.trans hsynced
    · exact heff.2.dirty.trans hsynced
  refine ⟨conn, hconn, rfl, syncWindows_shared call.order hdirty, fun i conn' hi => ?_⟩
  simp only [serve, update_apply] at hi
  split at hi
  · obtain rfl := some.inj hi
    rfl
  · exact h.synced i conn' hi

theorem propertyStep_tracks (h : Tracks atoms w t) (hstep : PropertyStep atoms w t call t') :
    Tracks atoms w t' := by
  obtain ⟨conn, -, hlast, hshd, hsynced⟩ := serve_shared h hstep
  obtain ⟨hw, -⟩ := hstep
  have heff := handleProperty_effect atoms call.request (t.view conn)
  cases hkind : call.request.effect atoms (t.view conn) with
  | none =>
    rw [hkind] at heff hlast
    have hsame : t'.shared = t.shared := hshd.trans heff.shared
    refine ⟨hsame ▸ h.present, hsynced, fun a v hv => ?_, fun a v hv => ?_⟩
    · rw [hlast] at hv
      exact h.known a v hv
    · rw [hlast] at hv
      rw [hsame]
      exact h.holds a v hv
  | some effect =>
    obtain ⟨b, u⟩ := effect
    rw [hkind] at heff hlast
    obtain ⟨hkn, hpublishes⟩ := heff
    rw [hw] at hpublishes
    have hset : t'.shared =
        { t.shared with windows := modify w (setProperty b u) t.shared.windows } :=
      hshd.trans hpublishes.shared
    refine ⟨?_, hsynced, fun a v hv => ?_, fun a v hv => ?_⟩
    · rw [hset]
      exact (mem_modify _ _ _ _).mpr h.present
    · rw [hlast, record, update_apply] at hv
      split at hv
      · next heq => rwa [heq]
      · exact h.known a v hv
    · rw [hset, sharedProperty_setProperty _ _ _ _ h.present]
      rw [hlast, record, update_apply] at hv
      split at hv
      · next heq => exact (if_pos heq).trans (some.inj hv)
      · next hne => exact (if_neg hne).trans (h.holds a v hv)

/-- A property that is not there reads as an empty one of no type and no format. -/
def seen (v : Option PropertyValue) : PropertyValue := v.getD ⟨0, 0, []⟩

def asked (req : GetPropertyRequest) (v : Option PropertyValue) : Bytes :=
  ((seen v).data.drop (req.longOffset * 4)).take (req.longLength * 4)

def left (req : GetPropertyRequest) (v : Option PropertyValue) : Nat :=
  ((seen v).data.length - req.longOffset * 4 - req.longLength * 4) % 2 ^ 32

/-- The response is the reply that a property with this value is to get. -/
def Returns (req : GetPropertyRequest) (v : Option PropertyValue) (response : GetPropertyResponse) :
    Prop :=
  response = .reply
    { propType := (seen v).propType
      format := (seen v).format
      bytesAfter := left req v
      valueLen := unitsOf (seen v).format (asked req v).length % 2 ^ 32
      value := asked req v }

instance decidableReturns (req : GetPropertyRequest) (v : Option PropertyValue)
    (response : GetPropertyResponse) : Decidable (Returns req v response) :=
  inferInstanceAs (Decidable (_ = _))

/-- The two have the same type, the same format, the same bytes where the request
asks for them and the same number of bytes left. -/
structure ReadAlike (req : GetPropertyRequest) (u v : Option PropertyValue) : Prop where
  propType : (seen u).propType = (seen v).propType
  format : (seen u).format = (seen v).format
  bytes : asked req u = asked req v
  left : left req u = left req v

/-- The reader has no copy of the property in its own record of the window, or
one that the request cannot tell from the shared one. -/
def ReadsShared (w : XId) (t : World) (conn : Connection) (req : GetPropertyRequest) : Prop :=
  cachedProperty (t.view conn) w req.property = none ∨
    ReadAlike req (cachedProperty (t.view conn) w req.property)
      (sharedProperty t.shared w req.property)

theorem ReadAlike.of_eq {req : GetPropertyRequest} {u v : Option PropertyValue} (h : u = v) :
    ReadAlike req u v := by
  subst h
  exact ⟨rfl, rfl, rfl, rfl⟩

theorem replyFor_returns (req : GetPropertyRequest) (v : Option PropertyValue) :
    Returns req v (.reply (req.replyFor v)) := by
  cases v with
  | none => simp [Returns, GetPropertyRequest.replyFor, seen, asked, left, unitsOf]
  | some value =>
    have hleft : ∀ n m : Nat, n - min n m = n - m := by omega
    have htake : ∀ (l : Bytes) (n : Nat), l.take (min l.length n) = l.take n := by
      intro l n
      rw [Nat.min_comm, ← List.take_take, List.take_length]
    have hasked := htake (value.data.drop (req.longOffset * 4)) (req.longLength * 4)
    rw [List.length_drop] at hasked
    simp only [Returns, GetPropertyRequest.replyFor, seen, asked, left, getD_some, hasked,
      hleft]

theorem returns_replyFor_iff {req : GetPropertyRequest} {u v : Option PropertyValue} :
    Returns req v (.reply (req.replyFor u)) ↔ ReadAlike req u v := by
  have hrep : GetPropertyResponse.reply (req.replyFor u) = .reply _ := replyFor_returns req u
  rw [Returns, hrep]
  constructor
  · intro h
    simp only [GetPropertyResponse.reply.injEq, GetPropertyReply.mk.injEq] at h
    obtain ⟨htype, hformat, hleft, -, hbytes⟩ := h
    exact ⟨htype, hformat, hbytes, hleft⟩
  · rintro ⟨htype, hformat, hbytes, hleft⟩
    rw [htype, hformat, hbytes, hleft]

/-- After any requests of any clients, a GetProperty returns the value last
written, or nothing where the last was a deletion, exactly where the reader reads
what is shared. -/
theorem getProperty_returns_last_iff (atoms : AtomNames) (w : XId) (start t : World)
    (calls : List Call) (hst : Ready w start) (hrun : Run (PropertyStep atoms w) start calls t)
    (conn : Connection) (req : GetPropertyRequest) (hw : req.window = w)
    (v : Option PropertyValue) (hlast : t.last req.property = some v) :
    Returns req v (handleGetProperty atoms req (t.view conn)).2 ↔ ReadsShared w t conn req := by
  have htrks : Tracks atoms w t := hrun.invariant (I := Tracks atoms w)
    (fun t call t' h hstep => propertyStep_tracks h hstep) hst.tracks
  have hex : windowExists (t.view conn) req.window = true := by
    have hshd : w ∈ (t.view conn).shared.windows := htrks.present
    rw [hw, windowExists, decide_eq_true hshd, Bool.or_true]
  have hrep : (handleGetProperty atoms req (t.view conn)).2 =
      .reply (req.replyFor (foundProperty (t.view conn) w req.property)) := by
    rw [handleGetProperty, htrks.known _ _ hlast, hex, ← hw]
    rfl
  have hheld : sharedProperty t.shared w req.property = v := htrks.holds _ _ hlast
  rw [hrep, returns_replyFor_iff, ReadsShared, foundProperty]
  cases hcached : cachedProperty (t.view conn) w req.property with
  | none =>
    have hshd : sharedProperty (t.view conn).shared w req.property = v := hheld
    refine iff_of_true ?_ (.inl rfl)
    exact ReadAlike.of_eq hshd
  | some u => rw [hheld, orElse_some, or_iff_right (some_ne_none u)]

def exec (atoms : AtomNames) (w : XId) (t : World) (call : Call) : Option World :=
  if call.request.window = w then
    (t.connections call.client).bind fun conn =>
      if Enumerates call.order (handleProperty atoms (t.view conn) call.request).shared.windows then
        some (serve atoms call conn t)
      else none
  else none

theorem exec_step (h : exec atoms w t call = some t') : PropertyStep atoms w t call t' := by
  rw [exec] at h
  split at h
  · next hw =>
    obtain ⟨conn, hconn, h⟩ := bind_eq_some_iff.mp h
    split at h
    · next hord => exact ⟨hw, conn, hconn, hord, (some.inj h).symm⟩
    · simp at h
  · simp at h

theorem foldlM_exec_run {calls : List Call} (h : calls.foldlM (exec atoms w) t = some t') :
    Run (PropertyStep atoms w) t calls t' := by
  induction calls generalizing t with
  | nil =>
    obtain rfl := some.inj h
    exact .nil t
  | cons call calls ih =>
    obtain ⟨mid, hmid, hrest⟩ := bind_eq_some_iff.mp h
    exact .cons (exec_step hmid) (ih hrest)

/-- Clients 1 and 2, both just connected. -/
def twoClients (props : XId → HashMap Atom PropertyValue) : World where
  shared := { initialShared props ∅ with allClients := [1, 2] }
  connections := update (update (fun _ => none)
    1 (some (acceptClient 1 false 0 0 [] (initialShared props ∅)).toConnection))
    2 (some (acceptClient 2 false 0 1 [] (initialShared props ∅)).toConnection)
  last := fun _ => none

theorem twoClients_ready (props : XId → HashMap Atom PropertyValue) :
    Ready rootWindow (twoClients props) := by
  refine ⟨?_, fun i conn hconn => ?_, rfl⟩
  · simp [twoClients, initialShared, initialWindows]
  · simp only [twoClients, update_apply] at hconn
    split at hconn
    · obtain rfl := some.inj hconn
      rfl
    · split at hconn
      · obtain rfl := some.inj hconn
        rfl
      · simp at hconn

def wmName : Atom := 39

def rename (client : ClientId) (mode : PropMode) (name : Bytes) : Call where
  client := client
  request := .change ⟨mode, rootWindow, wmName, Predef.string, 8, name⟩
  order := [rootWindow, wmCheckWindow, xsettingsWindow, systemTrayWindow, ximWindow]

def readName : GetPropertyRequest := ⟨false, rootWindow, wmName, 0, 8⟩

def allNamed : AtomNames := fun _ => some ""

theorem getProperty_returns_own_write : ∃ t conn,
    Run (PropertyStep allNamed rootWindow) (twoClients fun _ => ∅) [rename 1 .replace [65]] t ∧
    t.connections 1 = some conn ∧
    Returns readName (some ⟨Predef.string, 8, [65]⟩)
      (handleGetProperty allNamed readName (t.view conn)).2 := by
  have hexec : ((exec allNamed rootWindow (twoClients fun _ => ∅) (rename 1 .replace [65])).bind
      fun t => (t.connections 1).map fun conn => (t.last wmName,
        cachedProperty (t.view conn) rootWindow wmName, sharedProperty t.shared rootWindow wmName)) =
      some (some (some ⟨Predef.string, 8, [65]⟩), some ⟨Predef.string, 8, [65]⟩,
        some ⟨Predef.string, 8, [65]⟩) := by decide +kernel
  obtain ⟨t, ht, hrest⟩ := bind_eq_some_iff.mp hexec
  obtain ⟨conn, hconn, hread⟩ := map_eq_some_iff.mp hrest
  obtain ⟨hlast, hboth⟩ := Prod.mk.inj hread
  obtain ⟨hcached, hshd⟩ := Prod.mk.inj hboth
  have hrun : Run (PropertyStep allNamed rootWindow) (twoClients fun _ => ∅)
      [rename 1 .replace [65]] t := .single (exec_step ht)
  refine ⟨t, conn, hrun, hconn, ?_⟩
  refine (getProperty_returns_last_iff allNamed rootWindow _ t _ (twoClients_ready _) hrun conn
    readName rfl _ hlast).mpr (.inr ?_)
  exact ReadAlike.of_eq (hcached.trans hshd.symm)

/-- Client 2 names the root, client 1 renames it, and client 2 still reads the
name it gave. -/
theorem getProperty_returns_stale : ¬ ∀ (atoms : AtomNames) (w : XId) (start t : World)
    (calls : List Call), Ready w start → Run (PropertyStep atoms w) start calls t →
    ∀ (i : ClientId) (conn : Connection), t.connections i = some conn →
    ∀ (req : GetPropertyRequest) (v : Option PropertyValue), req.window = w →
    t.last req.property = some v → Returns req v (handleGetProperty atoms req (t.view conn)).2 := by
  intro h
  have hexec : (([rename 2 .replace [66], rename 1 .replace [65]].foldlM (exec allNamed rootWindow)
      (twoClients fun _ => ∅)).bind fun t => (t.connections 2).map fun conn =>
        (t.last wmName, (handleGetProperty allNamed readName (t.view conn)).2)) =
      some (some (some ⟨Predef.string, 8, [65]⟩),
        .reply (readName.replyFor (some ⟨Predef.string, 8, [66]⟩))) := by decide +kernel
  obtain ⟨t, ht, hrest⟩ := bind_eq_some_iff.mp hexec
  obtain ⟨conn, hconn, hread⟩ := map_eq_some_iff.mp hrest
  obtain ⟨hlast, hrep⟩ := Prod.mk.inj hread
  have hright := h allNamed rootWindow _ t _ (twoClients_ready _) (foldlM_exec_run ht) 2 conn hconn
    readName _ rfl hlast
  rw [hrep] at hright
  revert hright
  decide +kernel

end X11Web.PropertyVisibility
