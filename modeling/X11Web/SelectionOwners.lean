import X11Web.Runs
import X11Web.Selections

namespace X11Web.SelectionOwners

open HashMaps Windows Selections Runs Function Finmap

structure SelectionConnection where
  connection : Connection
  selection : SelectionState

/-- The connections and what they share, with the client and the owner window of
the last SetSelectionOwner for each selection. -/
structure SelectionWorld where
  shared : Shared
  persistentClipboard : HashMap Atom PersistentClipboardEntry
  connections : ClientId → Option SelectionConnection
  last : Atom → Option (ClientId × XId)

def SelectionWorld.view (t : SelectionWorld) (conn : SelectionConnection) : Selector :=
  ⟨{ conn.connection with shared := t.shared }, conn.selection, t.persistentClipboard⟩

def SelectionWorld.put (t : SelectionWorld) (client : ClientId) (s : Selector) : SelectionWorld :=
  { t with
    shared := s.client.shared
    persistentClipboard := s.persistentClipboard
    connections := update t.connections client (some ⟨s.client.toConnection, s.selection⟩) }

def Ordinary (target : Atom) : Prop := target ≠ delete ∧ target ≠ timestamp ∧ target ≠ multiple

def recordOwner (env : Surroundings) (client : ClientId) (req : SetSelectionOwnerRequest)
    (last : Atom → Option (ClientId × XId)) : Atom → Option (ClientId × XId) :=
  if Properties.unknownAtom env.atoms req.selection then last
  else update last req.selection (some (client, req.owner))

inductive SelectionAction
  | connect (client : ClientId) (msb : Bool) (pid connIndex : Nat) (hostname : Bytes)
  | set (client : ClientId) (env : Surroundings) (req : SetSelectionOwnerRequest)
  | get (client : ClientId) (selection : Atom)
  | convert (client : ClientId) (env : Surroundings) (req : ConvertSelectionRequest)

inductive SelectionStep : SelectionWorld → SelectionAction → SelectionWorld → Prop
  | connect {t : SelectionWorld} {client : ClientId} {msb : Bool} {pid connIndex : Nat}
      {hostname : Bytes} (hnew : t.connections client = none) :
      SelectionStep t (.connect client msb pid connIndex hostname)
        (t.put client ⟨acceptClient client msb pid connIndex hostname t.shared, {},
          t.persistentClipboard⟩)
  | set {t : SelectionWorld} {client : ClientId} {conn : SelectionConnection} {env : Surroundings}
      {req : SetSelectionOwnerRequest} (hconn : t.connections client = some conn) :
      SelectionStep t (.set client env req)
        { t.put client (handleSetSelectionOwner env req (t.view conn)).1 with
          last := recordOwner env client req t.last }
  | get {t : SelectionWorld} {client : ClientId} {conn : SelectionConnection} {selection : Atom}
      (hconn : t.connections client = some conn) : SelectionStep t (.get client selection) t
  | convert {t : SelectionWorld} {client : ClientId} {conn : SelectionConnection}
      {env : Surroundings} {req : ConvertSelectionRequest}
      (hconn : t.connections client = some conn) (hord : Ordinary req.target) :
      SelectionStep t (.convert client env req)
        (t.put client (handleConvertSelection env req (t.view conn)).1)

def SelectionWorld.start (props : XId → HashMap Atom PropertyValue)
    (selections : HashMap Atom SelectionOwner)
    (persistent : HashMap Atom PersistentClipboardEntry) : SelectionWorld :=
  ⟨initialShared props selections, persistent, fun _ => none, fun _ => none⟩

def isRequest : SelectionEvent → Bool
  | .selectionRequest .. => true
  | _ => false

def requestsOf (sent : Deliveries) : Deliveries := sent.filter (fun d => isRequest d.2)

/-- What the client sees of the selection is what was last set: it is told the
owner, and its conversions go there. -/
structure SeesOwner (s : Selector) (a : Atom) (setter : ClientId) (owner : XId) : Prop where
  get : handleGetSelectionOwner a s = owner
  convert : ∀ env req, req.selection = a → Ordinary req.target →
    convertSelectionError env req = none →
    requestsOf (handleConvertSelection env req s).2.1 =
      if owner = 0 then []
      else [(.connection setter,
        .selectionRequest env.now owner req.requestor a req.target req.property)]

/-- The shared entry, and that of the client itself, are those of the last
SetSelectionOwner. -/
structure Entered (t : SelectionWorld) (a : Atom) (setter : ClientId) (owner : XId) : Prop where
  free : owner = 0 → t.shared.selections.lookup a = none
  entry : owner ≠ 0 → ∃ time, t.shared.selections.lookup a = some ⟨owner, .connection setter, time⟩
  notKept : owner ≠ 0 → t.persistentClipboard.lookup a = none
  own : ∃ conn, t.connections setter = some conn ∧
    conn.selection.owners.lookup a = if owner = 0 then none else some owner

structure Consistent (t : SelectionWorld) : Prop where
  clientId : ∀ c conn, t.connections c = some conn → conn.connection.clientId = c
  entered : ∀ a setter owner, t.last a = some (setter, owner) → Entered t a setter owner

variable {t t' : SelectionWorld} {s : Selector} {a : Atom} {c client setter : ClientId} {owner : XId}
variable {conn : SelectionConnection} {env : Surroundings} {req : ConvertSelectionRequest}

/-- An ordinary conversion without kept data: a request to whom the client takes
for the owner, or a refusal. -/
theorem convert_requests (hord : Ordinary req.target) (herr : convertSelectionError env req = none)
    (hsrvd : s.serverOwned req.selection → s.persistentClipboard.lookup req.selection = none) :
    requestsOf (handleConvertSelection env req s).2.1 =
      (s.requestTo req.selection).elim []
        (fun dest => [selectionRequest env req req.target req.property dest]) := by
  obtain ⟨hdel, hts, hmultiple⟩ := hord
  have hnone : (if s.serverOwned req.selection then
      servePersistentClipboard env req req.effectiveProperty s else none) = none := by
    split
    · next h => simp only [servePersistentClipboard, hsrvd h]
    · rfl
  simp only [handleConvertSelection, herr, hdel, hts, hmultiple, if_false, convertSingle,
    hnone]
  cases s.requestTo req.selection with
  | none => rfl
  | some dest => rfl

/-- A client sees the owner exactly if it takes the right window and connection for
the owner: any conversion at all shows where it would send its requests. -/
theorem seesOwner_iff_known
    (hsrvd : s.serverOwned a → s.persistentClipboard.lookup a = none) :
    SeesOwner s a setter owner ↔ s.knownOwner a = owner ∧
      s.requestTo a = if owner = 0 then none else some (.connection setter, owner) := by
  constructor
  · intro hsees
    refine ⟨hsees.get, ?_⟩
    have hord : Ordinary 0 := ⟨by decide, by decide, by decide⟩
    have hsound : convertSelectionError ⟨fun _ => some "", 0, fun _ => false, []⟩ ⟨0, a, 0, 0⟩ =
        none := by
      simp [convertSelectionError, Properties.unknownAtom]
    have hsent := hsees.convert ⟨fun _ => some "", 0, fun _ => false, []⟩ ⟨0, a, 0, 0⟩ rfl hord
      hsound
    rw [convert_requests hord hsound hsrvd] at hsent
    revert hsent
    dsimp only
    cases s.requestTo a with
    | none =>
      intro hsent
      split at hsent
      · next hzero => rw [if_pos hzero]
      · simp at hsent
    | some dest =>
      intro hsent
      split at hsent
      · simp at hsent
      · next hne =>
        simp only [Option.elim_some, selectionRequest, List.cons.injEq, Prod.mk.injEq,
          SelectionEvent.selectionRequest.injEq] at hsent
        rw [if_neg hne, ← hsent.1.1, ← hsent.1.2.2.1]
  · rintro ⟨hget, hto⟩
    refine ⟨hget, ?_⟩
    rintro env req rfl hord herr
    rw [convert_requests hord herr hsrvd, hto]
    split
    · rfl
    · rfl

/-- A client sees the owner exactly if it has no entry of its own beside that of
the last SetSelectionOwner, and another client is not shown the server's own
window. -/
theorem Entered.seesOwner_iff (h : Entered t a setter owner) (hconn : t.connections c = some conn)
    (hid : conn.connection.clientId = c) :
    SeesOwner (t.view conn) a setter owner ↔
      (conn.selection.owners.lookup a = none ∨ c = setter) ∧
        (c = setter ∨ owner ≠ clipboardManagerWindow) := by
  have hsrvd : (t.view conn).serverOwned a → (t.view conn).persistentClipboard.lookup a = none := by
    intro hserver
    apply h.notKept
    intro hzero
    simp [Selector.serverOwned, Selector.sharedOwner, SelectionWorld.view, h.free hzero] at hserver
  have hself : c = setter → conn.selection.owners.lookup a =
      if owner = 0 then none else some owner := by
    rintro rfl
    obtain ⟨conn', hconn', hown⟩ := h.own
    rw [Option.some.inj (hconn.symm.trans hconn')]
    exact hown
  rw [seesOwner_iff_known hsrvd]
  simp only [Selector.knownOwner, Selector.requestTo, Selector.remoteOwner, Selector.sharedOwner,
    SelectionWorld.view, hid]
  cases howner : conn.selection.owners.lookup a with
  | some v =>
    -- its own entry decides, which is right only for the client that made the last request
    rw [howner] at hself
    have hmine : c = setter → owner ≠ 0 ∧ v = owner := by
      intro hc
      have hv := hself hc
      split at hv
      · simp at hv
      · next hne => exact ⟨hne, Option.some.inj hv⟩
    simp only [reduceCtorEq, false_or]
    constructor
    · rintro ⟨-, hto⟩
      split at hto
      · simp at hto
      · simp only [Option.some.injEq, Prod.mk.injEq, SelectionTx.connection.injEq] at hto
        exact ⟨hto.1, .inl hto.1⟩
    · rintro ⟨hc, -⟩
      obtain ⟨hne, rfl⟩ := hmine hc
      rw [if_neg hne, hc]
      exact ⟨rfl, rfl⟩
  | none =>
    by_cases hzero : owner = 0
    · have hmanager : (0 : XId) ≠ clipboardManagerWindow := by decide
      simp [h.free hzero, hzero, hmanager]
    · obtain ⟨time, hent⟩ := h.entry hzero
      have hoth : c ≠ setter := by
        intro hc
        have hv := hself hc
        rw [howner, if_neg hzero] at hv
        simp at hv
      by_cases hmanager : owner = clipboardManagerWindow
      · have hserver : clipboardManagerWindow ≠ 0 := by decide
        simp [hent, hoth, hmanager, hserver]
      · simp [hent, hzero, hoth, hmanager]

theorem servePersistentClipboard_fields {property : Atom} {served : Selector × Deliveries}
    (h : servePersistentClipboard env req property s = some served) :
    served.1.client.shared = s.client.shared ∧ served.1.client.clientId = s.client.clientId ∧
      served.1.selection = s.selection ∧
      served.1.persistentClipboard = s.persistentClipboard := by
  rw [servePersistentClipboard] at h
  split at h
  · simp at h
  · dsimp only at h
    split at h
    · rw [← Option.some.inj h]
      exact ⟨rfl, rfl, rfl, rfl⟩
    · split at h
      · rw [← Option.some.inj h]
        exact ⟨rfl, rfl, rfl, rfl⟩
      · split at h
        · split at h
          · rw [← Option.some.inj h]
            exact ⟨rfl, rfl, rfl, rfl⟩
          · rw [← Option.some.inj h]
            exact ⟨rfl, rfl, rfl, rfl⟩
        · split at h
          · obtain ⟨data, -, rfl⟩ := Option.map_eq_some_iff.mp h
            exact ⟨rfl, rfl, rfl, rfl⟩
          · simp at h

theorem handleConvertSelection_fields (env : Surroundings) (hord : Ordinary req.target) (s : Selector) :
    (handleConvertSelection env req s).1.client.shared = s.client.shared ∧
      (handleConvertSelection env req s).1.client.clientId = s.client.clientId ∧
      (handleConvertSelection env req s).1.selection = s.selection ∧
      (handleConvertSelection env req s).1.persistentClipboard = s.persistentClipboard := by
  obtain ⟨hdel, hts, hmultiple⟩ := hord
  rw [handleConvertSelection]
  split
  · exact ⟨rfl, rfl, rfl, rfl⟩
  · simp only [hdel, hts, hmultiple, if_false, convertSingle]
    split
    · next served hsrvd =>
      split at hsrvd
      · exact servePersistentClipboard_fields hsrvd
      · simp at hsrvd
    · split
      · exact ⟨rfl, rfl, rfl, rfl⟩
      · exact ⟨rfl, rfl, rfl, rfl⟩

theorem put_connections (t : SelectionWorld) (client : ClientId) (s : Selector) :
    (t.put client s).connections client = some ⟨s.client.toConnection, s.selection⟩ :=
  update_self _ _ _

theorem Consistent.put_clientId (h : Consistent t) (hs : s.client.clientId = client) (c : ClientId)
    (conn : SelectionConnection) (hconn : (t.put client s).connections c = some conn) :
    conn.connection.clientId = c := by
  by_cases hc : c = client
  · subst hc
    rw [← Option.some.inj ((put_connections t c s).symm.trans hconn)]
    exact hs
  · exact h.clientId c conn ((update_of_ne hc _ _).symm.trans hconn)

theorem Entered.put (h : Entered t a setter owner) (client : ClientId)
    (hshd : s.client.shared.selections.lookup a = t.shared.selections.lookup a)
    (hkept : s.persistentClipboard.lookup a = t.persistentClipboard.lookup a)
    (hself : ∀ conn, t.connections client = some conn →
      s.selection.owners.lookup a = conn.selection.owners.lookup a) :
    Entered (t.put client s) a setter owner := by
  obtain ⟨conn, hconn, hown⟩ := h.own
  refine ⟨fun hzero => hshd.trans (h.free hzero), fun hne => ?_,
    fun hne => hkept.trans (h.notKept hne), ?_⟩
  · obtain ⟨time, hent⟩ := h.entry hne
    exact ⟨time, hshd.trans hent⟩
  · by_cases hc : setter = client
    · subst hc
      exact ⟨_, put_connections t setter s, (hself conn hconn).trans hown⟩
    · exact ⟨conn, (update_of_ne hc _ _).trans hconn, hown⟩

theorem takeOwner_entered (env : Surroundings) {req : SetSelectionOwnerRequest} (hne : req.owner ≠ 0)
    (hid : s.client.clientId = client) (last : Atom → Option (ClientId × XId)) :
    Entered { t.put client (takeOwner env req s) with last := last } req.selection client
      req.owner := by
  refine ⟨fun hzero => absurd hzero hne, fun _ => ⟨env.now, ?_⟩, fun _ => ?_,
    _, put_connections t client _, ?_⟩
  · rw [← hid]
    exact lookup_insert _
  · exact lookup_erase _ _
  · rw [if_neg hne]
    exact lookup_insert _

theorem releaseOwner_entered (a : Atom) (s : Selector) (last : Atom → Option (ClientId × XId)) :
    Entered { t.put client (releaseOwner a s) with last := last } a client 0 :=
  ⟨fun _ => lookup_erase _ _, fun hne => absurd rfl hne, fun hne => absurd rfl hne,
    _, put_connections t client _, lookup_erase _ _⟩

theorem setOwner_other (env : Surroundings) (req : SetSelectionOwnerRequest) (s : Selector)
    (hne : a ≠ req.selection) :
    let s' := if req.owner = 0 then releaseOwner req.selection s else takeOwner env req s
    s'.client.shared.selections.lookup a = s.client.shared.selections.lookup a ∧
      s'.persistentClipboard.lookup a = s.persistentClipboard.lookup a ∧
      s'.selection.owners.lookup a = s.selection.owners.lookup a := by
  dsimp only
  split
  · exact ⟨lookup_erase_ne hne, rfl, lookup_erase_ne hne⟩
  · exact ⟨lookup_insert_of_ne _ hne, lookup_erase_ne hne,
      lookup_insert_of_ne _ hne⟩

theorem selectionStep_consistent {action : SelectionAction} (h : Consistent t)
    (hstep : SelectionStep t action t') : Consistent t' := by
  cases hstep with
  | @connect client msb pid connIndex hostname hnew =>
    refine ⟨h.put_clientId rfl, fun a setter owner hlast => ?_⟩
    refine (h.entered a setter owner hlast).put client rfl rfl ?_
    intro conn hconn
    rw [hnew] at hconn
    simp at hconn
  | @set client conn env req hconn =>
    have hid := h.clientId client conn hconn
    rw [handleSetSelectionOwner, recordOwner]
    split
    · refine ⟨h.put_clientId hid, fun a setter owner hlast => ?_⟩
      refine (h.entered a setter owner hlast).put client rfl rfl ?_
      intro conn' hconn'
      rw [Option.some.inj (hconn'.symm.trans hconn)]
      rfl
    · refine ⟨?_, ?_⟩
      · refine h.put_clientId ?_
        dsimp only
        split
        · exact hid
        · exact hid
      · intro a setter owner hlast
        dsimp only at hlast ⊢
        rw [update_apply] at hlast
        split at hlast
        · next ha =>
          subst ha
          obtain ⟨rfl, rfl⟩ := Prod.mk.inj (Option.some.inj hlast)
          split
          · next hzero =>
            rw [hzero]
            exact releaseOwner_entered _ _ _
          · next hne => exact takeOwner_entered env hne hid _
        · next ha =>
          obtain ⟨hshd, hkept, hown⟩ := setOwner_other env req (t.view conn) ha
          have hput := (h.entered a setter owner hlast).put client hshd hkept (by
            intro conn' hconn'
            rw [hown, Option.some.inj (hconn'.symm.trans hconn)]
            rfl)
          exact ⟨hput.free, hput.entry, hput.notKept, hput.own⟩
  | get hconn => exact h
  | @convert client conn env req hconn hord =>
    obtain ⟨hshd, hid, hsel, hkept⟩ :=
      handleConvertSelection_fields env hord (t.view conn)
    refine ⟨h.put_clientId (hid.trans (h.clientId client conn hconn)), fun a setter owner hlast => ?_⟩
    refine (h.entered a setter owner hlast).put client (by rw [hshd]; rfl) (by rw [hkept]; rfl) ?_
    intro conn' hconn'
    rw [hsel, Option.some.inj (hconn'.symm.trans hconn)]
    rfl

/-- In every state that is reached, a client sees the last SetSelectionOwner
exactly if it has no entry of its own left from before, or made that request
itself. -/
theorem selectionRun_seesOwner_iff (props : XId → HashMap Atom PropertyValue)
    (selections : HashMap Atom SelectionOwner)
    (persistent : HashMap Atom PersistentClipboardEntry) (as : List SelectionAction)
    (t : SelectionWorld)
    (hrun : Run SelectionStep (SelectionWorld.start props selections persistent) as t) (a : Atom)
    (setter : ClientId) (owner : XId) (hlast : t.last a = some (setter, owner)) (c : ClientId)
    (conn : SelectionConnection) (hconn : t.connections c = some conn) :
    SeesOwner (t.view conn) a setter owner ↔
      (conn.selection.owners.lookup a = none ∨ c = setter) ∧
        (c = setter ∨ owner ≠ clipboardManagerWindow) := by
  have hst : Consistent (SelectionWorld.start props selections persistent) := by
    refine ⟨fun c conn hconn => ?_, fun a setter owner hlast => ?_⟩
    · simp [SelectionWorld.start] at hconn
    · simp [SelectionWorld.start] at hlast
  have h : Consistent t := Run.invariant (I := Consistent)
    (fun _ _ _ hc hs => selectionStep_consistent hc hs) hst hrun
  exact (h.entered a setter owner hlast).seesOwner_iff hconn (h.clientId c conn hconn)

def quiet : Surroundings := ⟨fun _ => some "", 0, fun _ => false, []⟩

def joined : SelectionWorld :=
  let start := SelectionWorld.start (fun _ => ∅) ∅ ∅
  let first := start.put 1 ⟨acceptClient 1 false 0 0 [] start.shared, {}, ∅⟩
  first.put 2 ⟨acceptClient 2 false 0 1 [] first.shared, {}, ∅⟩

/-- The world after the client has made its window the owner of PRIMARY. -/
def claimPrimary (client : ClientId) (w : XId) (t : SelectionWorld) : SelectionWorld :=
  (t.connections client).elim t (fun conn =>
    { t.put client (handleSetSelectionOwner quiet ⟨w, 1⟩ (t.view conn)).1 with
      last := recordOwner quiet client ⟨w, 1⟩ t.last })

theorem claimPrimary_step {client : ClientId} {conn : SelectionConnection}
    (h : t.connections client = some conn) (w : XId) :
    SelectionStep t (.set client quiet ⟨w, 1⟩) (claimPrimary client w t) := by
  rw [claimPrimary, h]
  exact .set h

theorem joined_run : Run SelectionStep (SelectionWorld.start (fun _ => ∅) ∅ ∅)
    [.connect 1 false 0 0 [], .connect 2 false 0 1 []] joined :=
  .cons (.connect rfl) (.cons (.connect rfl) (.nil _))

theorem selectionRun_seesOwner_other :
    ∃ conn, (claimPrimary 1 0x400001 joined).connections 2 = some conn ∧
      SeesOwner ((claimPrimary 1 0x400001 joined).view conn) 1 1 0x400001 := by
  refine ⟨_, rfl, (selectionRun_seesOwner_iff (fun _ => ∅) ∅ ∅ _ _
    (joined_run.append (.single (claimPrimary_step rfl 0x400001))) 1 1 0x400001 rfl 2 _ rfl).mpr
    ⟨.inl ?_, .inr (by decide)⟩⟩
  decide +kernel

/-- The first owner goes on seeing itself as the owner. -/
theorem former_owner_sees_itself :
    ¬ ∀ (props : XId → HashMap Atom PropertyValue) (selections : HashMap Atom SelectionOwner)
      (persistent : HashMap Atom PersistentClipboardEntry) (as : List SelectionAction)
      (t : SelectionWorld),
      Run SelectionStep (SelectionWorld.start props selections persistent) as t →
      ∀ (a : Atom) (setter : ClientId) (owner : XId), t.last a = some (setter, owner) →
      ∀ (c : ClientId) (conn : SelectionConnection), t.connections c = some conn →
        SeesOwner (t.view conn) a setter owner := by
  intro h
  have hsees := h (fun _ => ∅) ∅ ∅ _ (claimPrimary 2 0x800001 (claimPrimary 1 0x400001 joined))
    (joined_run.append (.cons (claimPrimary_step rfl 0x400001)
      (.single (claimPrimary_step rfl 0x800001)))) 1 2 0x800001 rfl 1 _ rfl
  have hget := hsees.get
  revert hget
  decide +kernel

end X11Web.SelectionOwners
