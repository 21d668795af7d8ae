import X11Web.SelectionOwners
import X11Web.SendEvent

namespace X11Web.ClipboardTransfers

open Option Function Finmap

open HashMaps Windows Properties Selections SelectionOwners SendEvent
  X11Web.EventWire X11Web.Teardown X11Web.TeardownFrame X11Web.CreateDestroy X11Web.Links X11Web.Runs

/-- The world with what each client has put into properties, and with what the owner of the
clipboard has given for each target since it became the owner. -/
structure ClipboardWorld where
  world : SelectionWorld
  written : ClientId → XId × Atom → Option PropertyValue
  delivered : Atom → Option Bytes

/-- What the client has written into a property counts until a later request of its own
changes the property. -/
def stillWritten (s : ClientState) (written : XId × Atom → Option PropertyValue) (x : XId × Atom) :
    Option PropertyValue :=
  (written x).filter (fun v => cachedProperty s x.1 x.2 == some v)

/-- A request of the client has led to its state `s`. -/
def ClipboardWorld.served (t : ClipboardWorld) (client : ClientId) (s : Selector)
    (written : XId × Atom → Option PropertyValue) (last : Atom → Option (ClientId × XId))
    (delivered : Atom → Option Bytes) : ClipboardWorld :=
  ⟨{ t.world.put client s with last := last },
    update t.written client (stillWritten s.client written), delivered⟩

/-- The client has gone and leaves the registries `sh`. -/
def ClipboardWorld.without (t : ClipboardWorld) (client : ClientId) (sh : Shared) : ClipboardWorld :=
  { t with
    world := { t.world with
      shared := sh
      connections := update t.world.connections client none
      last := fun a => (t.world.last a).filter (fun owner => owner.1 != client) } }

def becomesOwner (env : Surroundings) (req : SetSelectionOwnerRequest) : Prop :=
  unknownAtom env.atoms req.selection = false ∧ req.selection = Predef.clipboard ∧ req.owner ≠ 0

instance (env : Surroundings) (req : SetSelectionOwnerRequest) : Decidable (becomesOwner env req) :=
  inferInstanceAs (Decidable (_ ∧ _))

/-- A value is written whole, or made of what the client has written there before. -/
def recordWritten (atoms : AtomNames) (req : ChangePropertyRequest) (s : ClientState)
    (written : XId × Atom → Option PropertyValue) : XId × Atom → Option PropertyValue :=
  if changePropertyError atoms req s = none then
    update written (req.window, req.property)
      (if req.mode = .replace then some req.newValue
        else (written (req.window, req.property)).map fun old => req.combine (some old))
  else written

/-- A transfer is completed when the event that announces it is sent. -/
def recordDelivered (fuel : Nat) (env : Scene) (req : SendEventRequest) (s : Selector)
    (written : XId × Atom → Option PropertyValue) (delivered : Atom → Option Bytes) : Atom → Option Bytes :=
  match clipboardNotice (markSynthetic req.event) s.client with
  | none => delivered
  | some n =>
    if copies fuel env req s = [] then delivered
    else update delivered n.target ((written (n.requestor, n.property)).map (·.data))

inductive ClipboardAction
  | connect (client : ClientId) (msb : Bool) (pid connIndex : Nat) (hostname : Bytes)
  | setOwner (client : ClientId) (env : Surroundings) (req : SetSelectionOwnerRequest)
  | convert (client : ClientId) (env : Surroundings) (req : ConvertSelectionRequest)
  | changeProperty (client : ClientId) (atoms : AtomNames) (req : ChangePropertyRequest)
  | sendEvent (client : ClientId) (fuel : Nat) (env : Scene) (req : SendEventRequest)
  | other (client : ClientId)
  | close (client : ClientId) (order : IterationOrder) (timestamp : Nat)
  | abort (client : ClientId)

/-- The teardown is told whether there is data of the clipboard. -/
def teardownState (t : SelectionWorld) (conn : SelectionConnection) : ClientState :=
  { (t.view conn).client with
    shared := { t.shared with clipboardPersistent := decide (Predef.clipboard ∈ t.persistentClipboard) } }

/-- A connection ends by a read of zero bytes or by an error. What else a client is served
leaves the owners of the selections and the kept data alone. -/
inductive ClipboardStep : ClipboardWorld → ClipboardAction → ClipboardWorld → Prop
  | connect {t : ClipboardWorld} {client : ClientId} {msb : Bool} {pid connIndex : Nat} {hostname : Bytes}
      (hnew : t.world.connections client = none) :
      ClipboardStep t (.connect client msb pid connIndex hostname)
        (t.served client ⟨acceptClient client msb pid connIndex hostname t.world.shared, {},
          t.world.persistentClipboard⟩ (fun _ => none) t.world.last t.delivered)
  | setOwner {t : ClipboardWorld} {client : ClientId} {conn : SelectionConnection} {env : Surroundings}
      {req : SetSelectionOwnerRequest} (hconn : t.world.connections client = some conn) :
      ClipboardStep t (.setOwner client env req)
        (t.served client (handleSetSelectionOwner env req (t.world.view conn)).1 (t.written client)
          (recordOwner env client req t.world.last)
          (if becomesOwner env req then fun _ => none else t.delivered))
  | convert {t : ClipboardWorld} {client : ClientId} {conn : SelectionConnection} {env : Surroundings}
      {req : ConvertSelectionRequest} (hconn : t.world.connections client = some conn) :
      ClipboardStep t (.convert client env req)
        (t.served client (handleConvertSelection env req (t.world.view conn)).1 (t.written client)
          t.world.last t.delivered)
  | changeProperty {t : ClipboardWorld} {client : ClientId} {conn : SelectionConnection} {atoms : AtomNames}
      {req : ChangePropertyRequest} (hconn : t.world.connections client = some conn) :
      ClipboardStep t (.changeProperty client atoms req)
        (t.served client
          { t.world.view conn with client := (handleChangeProperty atoms req (t.world.view conn).client).1 }
          (recordWritten atoms req (t.world.view conn).client (t.written client)) t.world.last t.delivered)
  | sendEvent {t : ClipboardWorld} {client : ClientId} {conn : SelectionConnection} {fuel : Nat} {env : Scene}
      {req : SendEventRequest} {s : Selector} {sent : List (ClientId × Bytes)} {r : Response}
      (hconn : t.world.connections client = some conn)
      (hsent : handleSendEvent fuel env req (t.world.view conn) = some (s, sent, r)) :
      ClipboardStep t (.sendEvent client fuel env req)
        (t.served client s (t.written client) t.world.last
          (recordDelivered fuel env req (t.world.view conn) (t.written client) t.delivered))
  | other {t : ClipboardWorld} {client : ClientId} {s : Selector}
      (hsels : s.client.shared.selections = t.world.shared.selections)
      (hkept : s.persistentClipboard = t.world.persistentClipboard) :
      ClipboardStep t (.other client) (t.served client s (t.written client) t.world.last t.delivered)
  | close {t : ClipboardWorld} {client : ClientId} {conn : SelectionConnection} {order : IterationOrder}
      {timestamp : Nat} (hconn : t.world.connections client = some conn)
      (hord : order.Fits (teardownState t.world conn)) :
      ClipboardStep t (.close client order timestamp)
        (t.without client (eofTeardown order timestamp (teardownState t.world conn)).shared)
  | abort {t : ClipboardWorld} {client : ClientId} {sh : Shared}
      (hsels : sh.selections = t.world.shared.selections) :
      ClipboardStep t (.abort client) (t.without client sh)

def ClipboardWorld.start (props : XId → HashMap Atom PropertyValue) (selections : HashMap Atom SelectionOwner) :
    ClipboardWorld :=
  ⟨SelectionWorld.start props selections ∅, fun _ _ => none, fun _ => none⟩

/-- Only the owner announces data of the clipboard, and in a property that it has written
and whose type is not INCR. -/
def OwnTransfers (t : ClipboardWorld) : ClipboardAction → Prop
  | .sendEvent client fuel env req => ∀ conn n, t.world.connections client = some conn →
      clipboardNotice (markSynthetic req.event) (t.world.view conn).client = some n →
      copies fuel env req (t.world.view conn) ≠ [] →
      (∃ w, w ≠ 0 ∧ t.world.last Predef.clipboard = some (client, w)) ∧
        ∃ v, t.written client (n.requestor, n.property) = some v ∧ v.propType ≠ incr
  | _ => True

/-- The requestor is given the data, in pieces if there is much of it. -/
def given (env : Surroundings) (req : ConvertSelectionRequest) (property : Atom) (s : Selector) (data : Bytes) :
    Selector × Deliveries :=
  (if data.length > incrThreshold then startIncrTransfer env req.requestor property req.target data s
    else s.setProperty req.requestor property ⟨req.target, 8, data⟩,
    [notifyRequestor env req property s])

/-- What has been written is in the client's own copy of the window, and the data that is kept
for an owner of the clipboard is what it has given. -/
structure KeepsDelivered (t : ClipboardWorld) : Prop where
  written : ∀ c conn x v, t.world.connections c = some conn → t.written c x = some v →
    cachedProperty (t.world.view conn).client x.1 x.2 = some v
  kept : Predef.clipboard ∈ t.world.shared.selections → ∀ a,
    (t.world.persistentClipboard.lookup Predef.clipboard).bind (·.targets.lookup a) = t.delivered a

variable {t t' : ClipboardWorld} {client : ClientId} {conn : SelectionConnection} {s : Selector} {env : Surroundings}
  {w v : XId} {a : Atom}

theorem foldl_saveWindow_selections (ws : List XId) (acc : ClientState × List XId) :
    (ws.foldl saveWindow acc).1.shared.selections = acc.1.shared.selections ∧
      (ws.foldl saveWindow acc).1.shared.clipboardPersistent = acc.1.shared.clipboardPersistent := by
  induction ws generalizing acc with
  | nil => exact ⟨rfl, rfl⟩
  | cons w ws ih =>
    have hstep : (saveWindow acc w).1.shared.selections = acc.1.shared.selections ∧
        (saveWindow acc w).1.shared.clipboardPersistent = acc.1.shared.clipboardPersistent := by
      rw [saveWindow]
      split
      · exact ⟨rfl, rfl⟩
      · split
        · exact ⟨rfl, rfl⟩
        · exact ⟨rfl, rfl⟩
    rw [List.foldl_cons]
    exact ⟨(ih _).1.trans hstep.1, (ih _).2.trans hstep.2⟩

theorem eofTeardown_selections (order : IterationOrder) (timestamp : Nat) (s : ClientState) :
    (eofTeardown order timestamp s).shared.selections =
      releaseSelections order.x11ToUuid timestamp s.shared.clipboardPersistent s.shared.selections := by
  obtain ⟨hsels, hpers⟩ :=
    foldl_saveWindow_selections s.saveSet ({ releaseServerGrab s with saveSet := [] }, [])
  have hclosing : (closing order timestamp s).shared.selections =
      releaseSelections order.x11ToUuid timestamp s.shared.clipboardPersistent s.shared.selections := by
    rw [closing, (dropFocus_fields _).2.2.2]
    simp only [unsubscribe, unsubscribeClient, dropSelections, processSaveSet]
    rw [show (releaseServerGrab s).saveSet = s.saveSet from rfl, hsels, hpers]
    rfl
  have hclose : ∀ saved s', (closeDown order saved s').shared.selections = s'.shared.selections := by
    intro saved s'
    rw [closeDown]
    split
    · rfl
    · rfl
    · rfl
    · rfl
  exact (hclose (processSaveSet (releaseServerGrab s)).2 (closing order timestamp s)).trans hclosing

theorem mem_of_mem_releaseSelections {mine : List XId} {timestamp : Nat} {persistent : Bool}
    {sels : HashMap Atom SelectionOwner} (h : Predef.clipboard ∈ releaseSelections mine timestamp persistent sels) :
    Predef.clipboard ∈ sels := by
  rw [← lookup_isSome] at h ⊢
  rw [releaseSelections] at h
  split at h
  · next howns =>
    cases hent : sels.lookup Predef.clipboard with
    | none => simp [hent] at howns
    | some e => rfl
  · rw [lookup_retain] at h
    cases hent : sels.lookup Predef.clipboard with
    | none => simp [hent] at h
    | some e => rfl

def Leaves (s s' : Selector) : Prop :=
  Predef.clipboard ∈ s'.client.shared.selections → Predef.clipboard ∈ s.client.shared.selections ∧
    s'.persistentClipboard.lookup Predef.clipboard = s.persistentClipboard.lookup Predef.clipboard

theorem Leaves.of_eq {s s' : Selector} (hshd : s'.client.shared.selections = s.client.shared.selections)
    (hkept : s'.persistentClipboard = s.persistentClipboard) : Leaves s s' := by
  intro h
  rw [hshd] at h
  exact ⟨h, by rw [hkept]⟩

theorem convertPair_fields (env : Surroundings) (req : ConvertSelectionRequest) (dest : Option (SelectionTx × XId))
    (time : Option Nat) (server : Bool) (acc : Selector × Deliveries × List (Atom × Atom)) (pair : Atom × Atom) :
    (convertPair env req dest time server acc pair).1.client.shared = acc.1.client.shared ∧
      (convertPair env req dest time server acc pair).1.persistentClipboard = acc.1.persistentClipboard := by
  unfold convertPair
  dsimp only
  split
  · split
    · exact ⟨rfl, rfl⟩
    · exact ⟨rfl, rfl⟩
  · split
    · split
      · next served hsrvd =>
        obtain ⟨hshd, -, -, hkept⟩ := servePersistentClipboard_fields hsrvd
        exact ⟨hshd, hkept⟩
      · exact ⟨rfl, rfl⟩
    · split
      · exact ⟨rfl, rfl⟩
      · exact ⟨rfl, rfl⟩

theorem foldl_convertPair_fields (env : Surroundings) (req : ConvertSelectionRequest)
    (dest : Option (SelectionTx × XId)) (time : Option Nat) (server : Bool) (pairs : List (Atom × Atom))
    (acc : Selector × Deliveries × List (Atom × Atom)) :
    (pairs.foldl (convertPair env req dest time server) acc).1.client.shared = acc.1.client.shared ∧
      (pairs.foldl (convertPair env req dest time server) acc).1.persistentClipboard =
        acc.1.persistentClipboard := by
  induction pairs generalizing acc with
  | nil => exact ⟨rfl, rfl⟩
  | cons pair pairs ih =>
    obtain ⟨hshd, hkept⟩ := convertPair_fields env req dest time server acc pair
    rw [List.foldl_cons]
    exact ⟨(ih _).1.trans hshd, (ih _).2.trans hkept⟩

theorem handleConvertSelection_leaves (req : ConvertSelectionRequest) :
    Leaves s (handleConvertSelection env req s).1 := by
  rw [handleConvertSelection]
  split
  · exact .of_eq rfl rfl
  · dsimp only
    split
    · intro h
      change Predef.clipboard ∈ s.client.shared.selections.erase req.selection at h
      obtain ⟨hne, hmem⟩ := mem_erase.mp h
      refine ⟨hmem, ?_⟩
      change (s.persistentClipboard.erase req.selection).lookup Predef.clipboard = _
      rw [lookup_erase_eq, if_neg hne]
    · split
      · rw [convertTimestamp]
        split
        · exact .of_eq rfl rfl
        · exact .of_eq rfl rfl
      · split
        · rw [convertMultiple]
          dsimp only
          split
          · exact .of_eq rfl rfl
          · obtain ⟨hshd, hkept⟩ := foldl_convertPair_fields env req (s.requestTo req.selection) _ _
              (multiplePairs req s) (s, [], [])
            exact .of_eq (congrArg Shared.selections hshd) hkept
        · rw [convertSingle]
          split
          · next served hsrvd =>
            split at hsrvd
            · obtain ⟨hshd, -, -, hkept⟩ := servePersistentClipboard_fields hsrvd
              exact .of_eq (congrArg Shared.selections hshd) hkept
            · cases hsrvd
          · split
            · exact .of_eq rfl rfl
            · exact .of_eq rfl rfl

theorem handleChangeProperty_leaves (atoms : AtomNames) (req : ChangePropertyRequest) :
    Leaves s { s with client := (handleChangeProperty atoms req s.client).1 } := by
  refine .of_eq ?_ rfl
  cases herr : changePropertyError atoms req s.client with
  | none =>
    change (handleChangeProperty atoms req s.client).1.shared.selections = _
    rw [(handleChangeProperty_publishes req herr).shared]
  | some r =>
    rw [handleChangeProperty, herr]

theorem KeepsDelivered.served (h : KeepsDelivered t) {written : XId × Atom → Option PropertyValue}
    {last : Atom → Option (ClientId × XId)} {delivered : Atom → Option Bytes}
    (hkept : Predef.clipboard ∈ s.client.shared.selections → ∀ a,
      (s.persistentClipboard.lookup Predef.clipboard).bind (·.targets.lookup a) = delivered a) :
    KeepsDelivered (t.served client s written last delivered) := by
  refine ⟨?_, hkept⟩
  intro c conn x v hconn hwritten
  by_cases hc : c = client
  · subst hc
    change update t.world.connections c _ c = some conn at hconn
    rw [update_self] at hconn
    change update t.written c _ c x = some v at hwritten
    rw [update_self, stillWritten, filter_eq_some_iff] at hwritten
    rw [← some.inj hconn]
    exact beq_iff_eq.mp hwritten.2
  · change update t.world.connections client _ c = some conn at hconn
    rw [update_of_ne hc] at hconn
    change update t.written client _ c x = some v at hwritten
    rw [update_of_ne hc] at hwritten
    exact h.written c conn x v hconn hwritten

theorem KeepsDelivered.served_leaves (h : KeepsDelivered t) {s' : Selector}
    (hs : s.client.shared.selections = t.world.shared.selections)
    (hpc : s.persistentClipboard = t.world.persistentClipboard) (hlvs : Leaves s s')
    (written : XId × Atom → Option PropertyValue) (last : Atom → Option (ClientId × XId)) :
    KeepsDelivered (t.served client s' written last t.delivered) := by
  refine h.served fun hmem a => ?_
  obtain ⟨howned, hsame⟩ := hlvs hmem
  rw [hsame, hpc]
  exact h.kept (hs ▸ howned) a

theorem KeepsDelivered.without (h : KeepsDelivered t) {sh : Shared}
    (hsh : Predef.clipboard ∈ sh.selections → Predef.clipboard ∈ t.world.shared.selections) :
    KeepsDelivered (t.without client sh) := by
  refine ⟨?_, fun hmem => h.kept (hsh hmem)⟩
  intro c conn x v hconn hwritten
  change update t.world.connections client none c = some conn at hconn
  by_cases hc : c = client
  · subst hc
    rw [update_self] at hconn
    cases hconn
  · rw [update_of_ne hc] at hconn
    exact h.written c conn x v hconn hwritten

variable {atoms : AtomNames} {change : ChangePropertyRequest}

theorem setOwner_kept (h : KeepsDelivered t) {req : SetSelectionOwnerRequest} 
    (hmem : Predef.clipboard ∈ (handleSetSelectionOwner env req (t.world.view conn)).1.client.shared.selections) :
    ∀ a, ((handleSetSelectionOwner env req (t.world.view conn)).1.persistentClipboard.lookup Predef.clipboard).bind
        (·.targets.lookup a) = (if becomesOwner env req then fun _ => none else t.delivered) a := by
  rw [handleSetSelectionOwner] at hmem ⊢
  by_cases hunk : unknownAtom env.atoms req.selection = true
  · rw [if_pos hunk] at hmem ⊢
    rw [if_neg (fun hbecomes => Bool.false_ne_true (hbecomes.1.symm.trans hunk))]
    exact h.kept hmem
  · rw [if_neg hunk] at hmem ⊢
    rw [Bool.not_eq_true] at hunk
    dsimp only at hmem ⊢
    by_cases hzero : req.owner = 0
    · rw [if_pos hzero] at hmem ⊢
      rw [if_neg (fun hbecomes => hbecomes.2.2 hzero)]
      change Predef.clipboard ∈ t.world.shared.selections.erase req.selection at hmem
      exact h.kept (mem_erase.mp hmem).2
    · rw [if_neg hzero] at hmem ⊢
      change Predef.clipboard ∈ t.world.shared.selections.insert req.selection _ at hmem
      intro a
      change ((t.world.persistentClipboard.erase req.selection).lookup Predef.clipboard).bind _ = _
      rw [lookup_erase_eq]
      by_cases hclip : req.selection = Predef.clipboard
      · rw [if_pos hclip.symm, if_pos ⟨hunk, hclip, hzero⟩]
        rfl
      · rw [if_neg (Ne.symm hclip), if_neg (fun hbecomes => hclip hbecomes.2.1)]
        exact h.kept ((mem_insert.mp hmem).resolve_left (Ne.symm hclip)) a

variable {req : SendEventRequest} {scene : Scene}

theorem handleSendEvent_cases {fuel : Nat} {s' : Selector}
    {sent : List (ClientId × Bytes)} {r : Response} (h : handleSendEvent fuel scene req s = some (s', sent, r)) :
    copies fuel scene req s = sent ∧
      (sent = [] ∧ s' = s ∨ sent ≠ [] ∧ s' = captureClipboard scene (markSynthetic req.event) s) := by
  refine ⟨by rw [copies, h]; rfl, ?_⟩
  obtain ⟨target, -, h⟩ := bind_eq_some_iff.mp h
  rw [sendToTarget] at h
  split at h
  · obtain ⟨rfl, rfl, -⟩ := Prod.mk.inj (some.inj h)
    exact .inl ⟨rfl, rfl⟩
  · split at h
    · cases h
    · split at h
      · obtain ⟨rfl, rfl, -⟩ := Prod.mk.inj (some.inj h)
        exact .inl ⟨rfl, rfl⟩
      · simp only [some.injEq, Prod.mk.injEq] at h
        obtain ⟨rfl, rfl, -⟩ := h
        refine .inr ⟨?_, rfl⟩
        rw [deliverTo_eq]
        exact List.cons_ne_nil _ _

theorem captureClipboard_targets {event : Bytes} {n : ClipboardNotice} {data : Bytes}
    (hnotice : clipboardNotice event s.client = some n) (hdata : announcedData n s.client = some data) (a : Atom) :
    ((captureClipboard scene event s).persistentClipboard.lookup Predef.clipboard).bind (·.targets.lookup a) =
      update (fun a => (s.persistentClipboard.lookup Predef.clipboard).bind (·.targets.lookup a))
        n.target (some data) a := by
  rw [captureClipboard, hnotice]
  dsimp only
  rw [hdata]
  simp only [lookup_insert_eq, if_true, bind_some, update_apply]
  split
  · rfl
  · cases s.persistentClipboard.lookup Predef.clipboard with
    | none => rfl
    | some entry => rfl

theorem captureClipboard_client (scene : Scene) (event : Bytes) (s : Selector) :
    (captureClipboard scene event s).client = s.client := by
  rw [captureClipboard]
  split
  · rfl
  · split
    · rfl
    · rfl

theorem sendEvent_kept (h : KeepsDelivered t) (hconn : t.world.connections client = some conn) {fuel : Nat}
    {s' : Selector} {sent : List (ClientId × Bytes)} {r : Response}
    (hown : OwnTransfers t (.sendEvent client fuel scene req))
    (hsent : handleSendEvent fuel scene req (t.world.view conn) = some (s', sent, r))
    (hmem : Predef.clipboard ∈ s'.client.shared.selections) :
    ∀ a, (s'.persistentClipboard.lookup Predef.clipboard).bind (·.targets.lookup a) =
      recordDelivered fuel scene req (t.world.view conn) (t.written client) t.delivered a := by
  obtain ⟨hcopies, ⟨rfl, rfl⟩ | ⟨hsome, rfl⟩⟩ := handleSendEvent_cases hsent
  · have hrec : recordDelivered fuel scene req (t.world.view conn) (t.written client) t.delivered = t.delivered := by
      rw [recordDelivered]
      split
      · rfl
      · exact if_pos hcopies
    rw [hrec]
    exact h.kept hmem
  · rw [captureClipboard_client] at hmem
    have hkept := h.kept hmem
    cases hnotice : clipboardNotice (markSynthetic req.event) (t.world.view conn).client with
    | none =>
      rw [recordDelivered, captureClipboard, hnotice]
      exact hkept
    | some n =>
      obtain ⟨-, v, hwritten, -⟩ := hown conn n hconn hnotice (hcopies ▸ hsome)
      have hdata : announcedData n (t.world.view conn).client = some v.data := by
        rw [announcedData, h.written client conn (n.requestor, n.property) v hconn hwritten]
        rfl
      have hrec : recordDelivered fuel scene req (t.world.view conn) (t.written client) t.delivered =
          update t.delivered n.target (some v.data) := by
        rw [recordDelivered, hnotice]
        dsimp only
        rw [if_neg (hcopies ▸ hsome), hwritten]
        rfl
      intro a
      rw [captureClipboard_targets hnotice hdata, hrec, ← funext hkept]
      rfl

theorem clipboardStep_keepsDelivered {action : ClipboardAction} (h : KeepsDelivered t) (hown : OwnTransfers t action)
    (hstep : ClipboardStep t action t') : KeepsDelivered t' := by
  cases hstep with
  | connect hnew => exact h.served h.kept
  | setOwner hconn => exact h.served (setOwner_kept h)
  | @convert client conn env req hconn =>
    exact h.served_leaves (s := t.world.view conn) rfl rfl (handleConvertSelection_leaves req) _ _
  | @changeProperty client conn atoms req hconn =>
    exact h.served_leaves (s := t.world.view conn) rfl rfl (handleChangeProperty_leaves atoms req) _ _
  | sendEvent hconn hsent => exact h.served (sendEvent_kept h hconn hown hsent)
  | @other client s hsels hkept =>
    refine h.served fun hmem => ?_
    rw [hkept]
    exact h.kept (hsels ▸ hmem)
  | @close client conn order timestamp hconn hord =>
    refine h.without fun hmem => ?_
    rw [eofTeardown_selections] at hmem
    exact mem_of_mem_releaseSelections hmem
  | abort hsels => exact h.without fun hmem => hsels ▸ hmem

theorem guardedRun_keepsDelivered {props : XId → HashMap Atom PropertyValue} {selections : HashMap Atom SelectionOwner}
    {as : List ClipboardAction}
    (hrun : Run (guarded OwnTransfers ClipboardStep) (ClipboardWorld.start props selections) as t) :
    KeepsDelivered t := by
  refine Run.invariant (I := KeepsDelivered) ?_ ⟨?_, ?_⟩ hrun
  · intro t action t' h ⟨hown, hstep⟩
    exact clipboardStep_keepsDelivered h hown hstep
  · intro c conn x v hconn _
    cases hconn
  · intro _ a
    rfl

theorem serve_ordinary {req : ConvertSelectionRequest} {property : Atom} {offers : Atom → Option Bytes}
    (hoffers : ∀ a, (s.persistentClipboard.lookup req.selection).bind (·.targets.lookup a) = offers a)
    (htgt : req.target ≠ targets ∧ req.target ≠ timestamp) :
    servePersistentClipboard env req property s =
      match offers req.target with
      | some data => some (given env req property s data)
      | none =>
        if req.target ∈ textTargets then
          (textTargets.findSome? offers).map fun data =>
            (s.setProperty req.requestor property ⟨req.target, 8, data⟩, [notifyRequestor env req property s])
        else none := by
  obtain rfl := funext hoffers
  rw [servePersistentClipboard]
  cases s.persistentClipboard.lookup req.selection with
  | none => simp [textTargets]
  | some entry =>
    dsimp only
    rw [if_neg htgt.1, if_neg htgt.2, bind_some]
    cases entry.targets.lookup req.target with
    | none => simp only [List.contains_iff_mem, bind_some]
    | some data =>
      unfold given
      dsimp only
      split
      · rfl
      · rfl

/-- What the server serves once the clipboard is its own: the data that the last owner has given
for the target, for a text target without data that of the first one with data, and nothing else. -/
theorem guardedRun_servesDelivered (props : XId → HashMap Atom PropertyValue)
    (selections : HashMap Atom SelectionOwner) (as : List ClipboardAction) (t : ClipboardWorld)
    (hrun : Run (guarded OwnTransfers ClipboardStep) (ClipboardWorld.start props selections) as t)
    (hserver : (t.world.shared.selections.lookup Predef.clipboard).map (·.window) = some clipboardManagerWindow)
    (conn : SelectionConnection) (env : Surroundings) (req : ConvertSelectionRequest) (property : Atom)
    (hsel : req.selection = Predef.clipboard) (htgt : req.target ≠ targets ∧ req.target ≠ timestamp) :
    (∀ data, t.delivered req.target = some data →
        servePersistentClipboard env req property (t.world.view conn) =
          some (given env req property (t.world.view conn) data)) ∧
      (t.delivered req.target = none →
        (req.target ∈ textTargets → servePersistentClipboard env req property (t.world.view conn) =
          (textTargets.findSome? t.delivered).map fun data =>
            ((t.world.view conn).setProperty req.requestor property ⟨req.target, 8, data⟩,
              [notifyRequestor env req property (t.world.view conn)])) ∧
        (req.target ∉ textTargets → servePersistentClipboard env req property (t.world.view conn) = none)) := by
  have hmem : Predef.clipboard ∈ t.world.shared.selections := by
    obtain ⟨e, hent, -⟩ := map_eq_some_iff.mp hserver
    exact mem_of_lookup_eq_some hent
  have hkept := (guardedRun_keepsDelivered hrun).kept hmem
  rw [serve_ordinary (s := t.world.view conn) (by rw [hsel]; exact hkept) htgt]
  refine ⟨?_, ?_⟩
  · intro data hdata
    rw [hdata]
  · intro hnone
    rw [hnone]
    refine ⟨fun htext => ?_, fun htext => ?_⟩
    · exact if_pos htext
    · exact if_neg htext

theorem handleSendEvent_of_target {fuel : Nat} {target : XId}
    (hres : resolveDestination fuel scene req.destination s.client = some target)
    (htype : eventType (markSynthetic req.event) = selectionNotifyEvent)
    (htgt : deliveryTarget scene target req (markSynthetic req.event) s.client = some w) :
    handleSendEvent fuel scene req s = some (captureClipboard scene (markSynthetic req.event) s,
      deliverTo w (markSynthetic req.event) s.client, .ok) := by
  rw [handleSendEvent, hres, bind_some, sendToTarget]
  simp only [htype, ximMessage, interceptedRootMessage, htgt]
  rfl

theorem view_served (t : ClipboardWorld) (s : Selector) (written : XId × Atom → Option PropertyValue)
    (last : Atom → Option (ClientId × XId)) (delivered : Atom → Option Bytes) :
    (t.served client s written last delivered).world.view ⟨s.client.toConnection, s.selection⟩ = s := rfl

theorem setOwner_served (t : ClipboardWorld) (s : Selector) (written : XId × Atom → Option PropertyValue)
    (last : Atom → Option (ClientId × XId)) (delivered : Atom → Option Bytes) (env : Surroundings)
    (req : SetSelectionOwnerRequest) :
    ClipboardStep (t.served client s written last delivered) (.setOwner client env req)
      ((t.served client s written last delivered).served client (handleSetSelectionOwner env req s).1
        ((t.served client s written last delivered).written client) (recordOwner env client req last)
        (if becomesOwner env req then fun _ => none else delivered)) := by
  have hstep := @ClipboardStep.setOwner (t.served client s written last delivered) client _ env req
    (put_connections t.world client s)
  rw [view_served] at hstep
  exact hstep

theorem changeProperty_served (t : ClipboardWorld) (s : Selector) (written : XId × Atom → Option PropertyValue)
    (last : Atom → Option (ClientId × XId)) (delivered : Atom → Option Bytes) (atoms : AtomNames)
    (req : ChangePropertyRequest) :
    ClipboardStep (t.served client s written last delivered) (.changeProperty client atoms req)
      ((t.served client s written last delivered).served client
        { s with client := (handleChangeProperty atoms req s.client).1 }
        (recordWritten atoms req s.client ((t.served client s written last delivered).written client)) last
        delivered) := by
  have hstep := @ClipboardStep.changeProperty (t.served client s written last delivered) client _ atoms req
    (put_connections t.world client s)
  rw [view_served] at hstep
  exact hstep

def plainEnv : Surroundings := ⟨fun _ => some "", 0, fun _ => false, []⟩

def copied : Bytes := [104, 105]

/-- The client sets itself up as the owner, and gives the clipboard as a string. -/
def ownerSetUp : Selector := ⟨(handleCreateWindow (createPlain 0x400001 rootWindow) loneClient).1, {}, ∅⟩

def ownRequest : SetSelectionOwnerRequest := ⟨0x400001, Predef.clipboard⟩

def ownerKnown : Selector := (handleSetSelectionOwner plainEnv ownRequest ownerSetUp).1

def writeString : ChangePropertyRequest where
  mode := .replace
  window := 0x400001
  property := Predef.clipboard
  propType := Predef.string
  format := 8
  data := copied

def ownerWritten : Selector :=
  { ownerKnown with client := (handleChangeProperty plainEnv.atoms writeString ownerKnown.client).1 }

def announceString : SendEventRequest :=
  ⟨false, 0x400001, 0, [31, 0, 0, 0] ++ toLeBytes32 0 ++ toLeBytes32 0x400001 ++ toLeBytes32 Predef.clipboard ++
    toLeBytes32 Predef.string ++ toLeBytes32 Predef.clipboard ++ List.replicate 8 0⟩

def ownerSent : Selector := captureClipboard quietScene (markSynthetic announceString.event) ownerWritten

def openWorld : ClipboardWorld :=
  (ClipboardWorld.start (fun _ => ∅) ∅).served 1 ⟨loneClient, {}, ∅⟩ (fun _ => none) (fun _ => none) fun _ => none

def setUpWorld : ClipboardWorld :=
  openWorld.served 1 ownerSetUp (openWorld.written 1) openWorld.world.last openWorld.delivered

def ownedWorld : ClipboardWorld :=
  setUpWorld.served 1 ownerKnown (setUpWorld.written 1) (recordOwner plainEnv 1 ownRequest setUpWorld.world.last)
    (if becomesOwner plainEnv ownRequest then fun _ => none else setUpWorld.delivered)

def writtenWorld : ClipboardWorld :=
  ownedWorld.served 1 ownerWritten
    (recordWritten plainEnv.atoms writeString ownerKnown.client (ownedWorld.written 1)) ownedWorld.world.last
    ownedWorld.delivered

def sentWorld : ClipboardWorld :=
  writtenWorld.served 1 ownerSent (writtenWorld.written 1) writtenWorld.world.last
    (recordDelivered 1 quietScene announceString ownerWritten (writtenWorld.written 1) writtenWorld.delivered)

def leaving : ClientState :=
  teardownState sentWorld.world ⟨ownerSent.client.toConnection, ownerSent.selection⟩

def leavingOrder : IterationOrder := ⟨[0x400001], [rootWindow, wmCheckWindow, xsettingsWindow, systemTrayWindow, ximWindow, 0x400001]⟩

def leftWorld : ClipboardWorld := sentWorld.without 1 (eofTeardown leavingOrder 0 leaving).shared

theorem leftWorld_run : Run (guarded OwnTransfers ClipboardStep) (ClipboardWorld.start (fun _ => ∅) ∅)
    [.connect 1 false 0 0 [], .other 1, .setOwner 1 plainEnv ownRequest,
      .changeProperty 1 plainEnv.atoms writeString, .sendEvent 1 1 quietScene announceString,
      .close 1 leavingOrder 0] leftWorld := by
  have hconn : ∀ (t : ClipboardWorld) s written last delivered,
      (t.served 1 s written last delivered).world.connections 1 = some ⟨s.client.toConnection, s.selection⟩ :=
    fun t s _ _ _ => put_connections t.world 1 s
  have hopen : ClipboardStep (ClipboardWorld.start (fun _ => ∅) ∅) (.connect 1 false 0 0 []) openWorld := .connect rfl
  have hsetUp : ClipboardStep openWorld (.other 1) setUpWorld := .other (by decide +kernel) rfl
  have howned : ClipboardStep setUpWorld (.setOwner 1 plainEnv ownRequest) ownedWorld :=
    setOwner_served openWorld ownerSetUp _ _ _ plainEnv ownRequest
  have hwritten : ClipboardStep ownedWorld (.changeProperty 1 plainEnv.atoms writeString) writtenWorld :=
    changeProperty_served setUpWorld ownerKnown _ _ _ plainEnv.atoms writeString
  have hsent : ClipboardStep writtenWorld (.sendEvent 1 1 quietScene announceString) sentWorld :=
    .sendEvent (hconn _ _ _ _ _) (handleSendEvent_of_target (s := ownerWritten) rfl (by decide +kernel) rfl)
  have hleft : ClipboardStep sentWorld (.close 1 leavingOrder 0) leftWorld :=
    .close (hconn _ _ _ _ _) ⟨by decide +kernel, by decide +kernel⟩
  have hown : OwnTransfers writtenWorld (.sendEvent 1 1 quietScene announceString) := by
    intro conn n hconn' hnotice _
    obtain rfl := some.inj ((hconn ownedWorld ownerWritten _ _ _).symm.trans hconn')
    have hn : n = ⟨0x400001, Predef.string, Predef.clipboard⟩ := by
      have hread : clipboardNotice (markSynthetic announceString.event) ownerWritten.client =
          some ⟨0x400001, Predef.string, Predef.clipboard⟩ := by decide +kernel
      exact some.inj (hnotice.symm.trans hread)
    subst hn
    have howner : writtenWorld.world.last Predef.clipboard = some (1, 0x400001) := by decide +kernel
    have hval : writtenWorld.written 1 (0x400001, Predef.clipboard) = some writeString.newValue := by decide +kernel
    exact ⟨⟨0x400001, by decide, howner⟩, writeString.newValue, hval, by decide⟩
  have hlast : Run (guarded OwnTransfers ClipboardStep) writtenWorld
      [.sendEvent 1 1 quietScene announceString, .close 1 leavingOrder 0] leftWorld :=
    .cons ⟨hown, hsent⟩ (.cons ⟨trivial, hleft⟩ (.nil leftWorld))
  exact .cons ⟨trivial, hopen⟩ (.cons ⟨trivial, hsetUp⟩ (.cons ⟨trivial, howned⟩ (.cons ⟨trivial, hwritten⟩ hlast)))

def asker : SelectionConnection := ⟨(acceptClient 2 false 0 1 [] leftWorld.world.shared).toConnection, {}⟩

theorem guardedRun_servesDelivered_string :
    servePersistentClipboard plainEnv ⟨rootWindow, Predef.clipboard, Predef.string, 0⟩ Predef.string
        (leftWorld.world.view asker) =
      some (given plainEnv ⟨rootWindow, Predef.clipboard, Predef.string, 0⟩ Predef.string
        (leftWorld.world.view asker) copied) :=
  (guardedRun_servesDelivered (fun _ => ∅) ∅ _ leftWorld leftWorld_run (by decide +kernel) asker plainEnv
    ⟨rootWindow, Predef.clipboard, Predef.string, 0⟩ Predef.string rfl (by decide)).1 copied (by decide +kernel)

/-- The string that was given is served as UTF-8 text, too. -/
theorem server_converts_text :
    ¬ ∀ (props : XId → HashMap Atom PropertyValue) (selections : HashMap Atom SelectionOwner)
      (as : List ClipboardAction) (t : ClipboardWorld),
      Run (guarded OwnTransfers ClipboardStep) (ClipboardWorld.start props selections) as t →
      (t.world.shared.selections.lookup Predef.clipboard).map (·.window) = some clipboardManagerWindow →
      ∀ (conn : SelectionConnection) (env : Surroundings) (req : ConvertSelectionRequest) (property : Atom),
        req.selection = Predef.clipboard →
        (∀ data, t.delivered req.target = some data →
          servePersistentClipboard env req property (t.world.view conn) =
            some (given env req property (t.world.view conn) data)) ∧
          (t.delivered req.target = none → servePersistentClipboard env req property (t.world.view conn) = none) := by
  intro h
  have hnone := (h (fun _ => ∅) ∅ _ leftWorld leftWorld_run (by decide +kernel) asker plainEnv
    ⟨rootWindow, Predef.clipboard, utf8String, 0⟩ utf8String rfl).2 (by decide +kernel)
  have hsrvd : (servePersistentClipboard plainEnv ⟨rootWindow, Predef.clipboard, utf8String, 0⟩ utf8String
      (leftWorld.world.view asker)).isSome = true := by decide +kernel
  rw [hnone] at hsrvd
  cases hsrvd

end X11Web.ClipboardTransfers
