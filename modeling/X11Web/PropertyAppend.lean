import Mathlib.Algebra.GroupWithZero.Nat
import X11Web.PropertyVisibility

namespace X11Web.PropertyAppend

open Windows Properties SyncWindows Runs Option
open PropertyVisibility

/-- The world and what the completed requests have put in front of the property
or behind it, in their order. -/
structure Ledger where
  world : World
  contributed : List (PropMode × Bytes)

def contribute (data : Bytes) : PropMode × Bytes → Bytes
  | (.prepend, new) => new ++ data
  | (_, new) => data ++ new

def assemble (data : Bytes) (contributed : List (PropMode × Bytes)) : Bytes :=
  contributed.foldl contribute data

def completed (atoms : AtomNames) (req : ChangePropertyRequest) (s : ClientState) :
    List (PropMode × Bytes) :=
  if changePropertyError atoms req s = none then [(req.mode, req.data)] else []

/-- An Append or Prepend to the property `a` of type `ty` and format `format`. -/
def AppendStep (atoms : AtomNames) (w : XId) (a ty : Atom) (format : Nat) (l : Ledger) (call : Call)
    (l' : Ledger) : Prop :=
  ∃ conn req, l.world.connections call.client = some conn ∧ call.request = .change req ∧
    (req.mode = .append ∨ req.mode = .prepend) ∧ req.property = a ∧ req.propType = ty ∧
    req.format = format ∧ PropertyStep atoms w l.world call l'.world ∧
    l'.contributed = l.contributed ++ completed atoms req (l.world.view conn)

/-- The client's copy of the property, if it has the window, is the shared one. -/
def Current (w : XId) (a : Atom) (l : Ledger) (call : Call) : Prop :=
  ∀ conn, l.world.connections call.client = some conn → w ∈ conn.windows →
    cachedProperty (l.world.view conn) w a = sharedProperty l.world.shared w a

structure Kept (atoms : AtomNames) (w : XId) (value : PropertyValue) (a : Atom) (l : Ledger) :
    Prop where
  tracks : Tracks atoms w l.world
  holds : sharedProperty l.world.shared w a =
    some { value with data := assemble value.data l.contributed }

variable {atoms : AtomNames} {w : XId} {a ty : Atom} {format : Nat} {data : Bytes} {l l' : Ledger}
variable {call : Call} {contributed : List (PropMode × Bytes)}

theorem length_assemble (data : Bytes) (contributed : List (PropMode × Bytes)) :
    (assemble data contributed).length =
      data.length + (contributed.map (fun c => c.2.length)).sum := by
  induction contributed generalizing data with
  | nil => simp [assemble]
  | cons c contributed ih =>
    have hstep : (contribute data c).length = data.length + c.2.length := by
      obtain ⟨mode, new⟩ := c
      cases mode <;> simp [contribute]
      omega
    rw [assemble, List.foldl_cons, ← assemble, ih, hstep, List.map_cons, List.sum_cons, Nat.add_assoc]

theorem combine_eq_contribute (req : ChangePropertyRequest)
    (hmode : req.mode = .append ∨ req.mode = .prepend) :
    req.combine (some ⟨req.propType, req.format, data⟩) =
      ⟨req.propType, req.format, contribute data (req.mode, req.data)⟩ := by
  rcases hmode with hmode | hmode
  · simp [ChangePropertyRequest.combine, contribute, hmode]
  · simp [ChangePropertyRequest.combine, contribute, hmode]

theorem appendStep_kept (h : Kept atoms w ⟨ty, format, data⟩ a l) (hcur : Current w a l call)
    (hstep : AppendStep atoms w a ty format l call l') :
    Kept atoms w ⟨ty, format, data⟩ a l' := by
  obtain ⟨conn, req, hconn, hreq, hmode, rfl, rfl, rfl, hstep, hcontributed⟩ := hstep
  refine ⟨propertyStep_tracks h.tracks hstep, ?_⟩
  obtain ⟨conn', hconn', -, hshd, -⟩ := serve_shared h.tracks hstep
  obtain rfl : conn = conn' := some.inj (hconn.symm.trans hconn')
  obtain ⟨hw, -⟩ := hstep
  rw [hreq] at hw hshd
  rw [hshd, hcontributed, completed]
  by_cases herr : changePropertyError atoms req (l.world.view conn) = none
  · have hlocal : w ∈ conn.windows := hw ▸ (changePropertyError_known req herr).2
    have hpubd := (handleChangeProperty_publishes req herr).shared
    rw [show req.window = w from hw, hcur conn hconn hlocal, h.holds,
      combine_eq_contribute req hmode] at hpubd
    rw [if_pos herr, handleProperty, hpubd]
    refine (sharedProperty_setProperty _ req.property req.property (some _) h.tracks.present).trans ?_
    rw [if_pos rfl, assemble, assemble, List.foldl_append]
    rfl
  · rw [if_neg herr, List.append_nil, handleProperty, handleChangeProperty_failed req herr]
    exact h.holds

/-- Where each Append and Prepend starts from the shared value, the shared
property ends up with every contribution in it once. -/
theorem guardedRun_keeps_contributions (atoms : AtomNames) (w : XId) (a : Atom) (value : PropertyValue)
    (start : World) (l : Ledger) (calls : List Call) (hst : Ready w start)
    (hval : sharedProperty start.shared w a = some value)
    (hrun : Run (guarded (Current w a) (AppendStep atoms w a value.propType value.format))
      ⟨start, []⟩ calls l) :
    ∃ data, sharedProperty l.world.shared w a = some { value with data := data } ∧
      data = assemble value.data l.contributed ∧
      data.length = value.data.length + (l.contributed.map (fun c => c.2.length)).sum := by
  have hkept : Kept atoms w value a l := hrun.invariant (I := Kept atoms w value a)
    (fun l call l' h hstep => appendStep_kept h hstep.1 hstep.2) ⟨hst.tracks, hval⟩
  exact ⟨_, hkept.holds, rfl, length_assemble _ _⟩

def rootName : PropertyValue := ⟨Predef.string, 8, [77]⟩

def namedRoot : World :=
  twoClients fun id => if id = rootWindow then Finmap.singleton wmName rootName else ∅

theorem exec_appendStep (l l' : Ledger) {client : ClientId} {mode : PropMode} {new : Bytes}
    {conn : Connection}
    (hexec : exec atoms rootWindow l.world (rename client mode new) = some l'.world)
    (hconn : l.world.connections client = some conn) (hmode : mode = .append ∨ mode = .prepend)
    (hcontributed : l'.contributed = l.contributed ++ completed atoms
      ⟨mode, rootWindow, wmName, Predef.string, 8, new⟩ (l.world.view conn)) :
    AppendStep atoms rootWindow wmName Predef.string 8 l (rename client mode new) l' :=
  ⟨conn, _, hconn, rfl, hmode, rfl, rfl, rfl, exec_step hexec, hcontributed⟩

theorem guardedRun_keeps_prepend : ∃ l : Ledger,
    Run (guarded (Current rootWindow wmName)
      (AppendStep allNamed rootWindow wmName Predef.string 8)) ⟨namedRoot, []⟩
      [rename 1 .prepend [65]] l ∧
    ∃ data, sharedProperty l.world.shared rootWindow wmName = some { rootName with data := data } ∧
      data = assemble [77] l.contributed ∧
      data.length = 1 + (l.contributed.map (fun c => c.2.length)).sum := by
  have hexec : (exec allNamed rootWindow namedRoot (rename 1 .prepend [65])).isSome := by
    decide +kernel
  obtain ⟨t, ht⟩ := isSome_iff_exists.mp hexec
  have hstep := exec_appendStep ⟨namedRoot, []⟩ ⟨t, _⟩ ht rfl (.inr rfl) rfl
  have hcur : Current rootWindow wmName ⟨namedRoot, []⟩ (rename 1 .prepend [65]) := by
    intro conn hconn _
    obtain rfl := some.inj hconn
    rfl
  have hrun : Run (guarded (Current rootWindow wmName)
      (AppendStep allNamed rootWindow wmName Predef.string 8)) ⟨namedRoot, []⟩
      [rename 1 .prepend [65]] _ := .single ⟨hcur, hstep⟩
  refine ⟨_, hrun, ?_⟩
  exact guardedRun_keeps_contributions allNamed rootWindow wmName rootName namedRoot _ _
    (twoClients_ready _) (by decide +kernel) hrun

/-- Client 1 appends to the name, then client 2 appends to the copy it had. -/
theorem append_lost : ¬ ∀ (atoms : AtomNames) (w : XId) (a : Atom) (value : PropertyValue)
    (start : World) (l : Ledger) (calls : List Call), Ready w start →
    sharedProperty start.shared w a = some value →
    Run (AppendStep atoms w a value.propType value.format) ⟨start, []⟩ calls l →
    ∃ data, sharedProperty l.world.shared w a = some { value with data := data } ∧
      data.length = value.data.length + (l.contributed.map (fun c => c.2.length)).sum := by
  intro h
  let appends := fun new => (⟨.append, rootWindow, wmName, Predef.string, 8, new⟩ :
    ChangePropertyRequest)
  have hexec : ((namedRoot.connections 1).bind fun conn =>
      (exec allNamed rootWindow namedRoot (rename 1 .append [65])).bind fun t =>
      (t.connections 2).bind fun conn' =>
      (exec allNamed rootWindow t (rename 2 .append [66])).map fun t' =>
        (completed allNamed (appends [65]) (namedRoot.view conn),
          completed allNamed (appends [66]) (t.view conn'),
          sharedProperty t'.shared rootWindow wmName)) =
      some ([(.append, [65])], [(.append, [66])], some ⟨Predef.string, 8, [77, 66]⟩) := by
    decide +kernel
  obtain ⟨conn, hconn, hrest⟩ := bind_eq_some_iff.mp hexec
  obtain ⟨t, ht, hrest⟩ := bind_eq_some_iff.mp hrest
  obtain ⟨conn', hconn', hrest⟩ := bind_eq_some_iff.mp hrest
  obtain ⟨t', ht', hfinal⟩ := map_eq_some_iff.mp hrest
  obtain ⟨hfst, hfinal⟩ := Prod.mk.inj hfinal
  obtain ⟨hsnd, hlost⟩ := Prod.mk.inj hfinal
  have hstep := exec_appendStep ⟨namedRoot, []⟩ ⟨t, [(.append, [65])]⟩ ht hconn (.inl rfl)
    hfst.symm
  have hstep' := exec_appendStep ⟨t, [(.append, [65])]⟩
    ⟨t', [(.append, [65]), (.append, [66])]⟩ ht' hconn' (.inl rfl)
    (congrArg ([(PropMode.append, [65])] ++ ·) hsnd.symm)
  obtain ⟨data, hdata, hlen⟩ := h allNamed rootWindow wmName rootName namedRoot _ _
    (twoClients_ready _) (by decide +kernel) (.cons hstep (.single hstep'))
  rw [hlost] at hdata
  obtain rfl := congrArg PropertyValue.data (some.inj hdata)
  simp [rootName] at hlen

end X11Web.PropertyAppend
