import X11Web.Properties

namespace X11Web.Selections

open HashMaps Windows Properties

def utf8String : Atom := 133
def targets : Atom := 135
def multiple : Atom := 136
def timestamp : Atom := 137
def incr : Atom := 138
def compoundText : Atom := 181
def text : Atom := 182
def delete : Atom := 190

def incrThreshold : Nat := 65536
def maxIncrTransfers : Nat := 100
def textTargets : List Atom := [Predef.string, utf8String, compoundText, text]

structure PersistentClipboardEntry where
  targets : HashMap Atom Bytes
  timestamp : Nat

/-- What a connection keeps about selections: those it owns by its own account,
since when, and those whose changes XFIXES reports to it. -/
structure SelectionState where
  owners : HashMap Atom XId := ∅
  timestamps : HashMap Atom Nat := ∅
  selectionEventSubscribers : HashMap Atom Nat := ∅

structure Selector where
  client : ClientState
  selection : SelectionState
  persistentClipboard : HashMap Atom PersistentClipboardEntry

inductive SelectionEvent
  | selectionClear (time : Nat) (owner : XId) (selection : Atom)
  | selectionRequest (time : Nat) (owner requestor : XId) (selection target property : Atom)
  | selectionNotify (time : Nat) (requestor : XId) (selection target property : Atom)
  | xfixesSelectionNotify (time : Nat) (owner : XId) (selection : Atom)
deriving DecidableEq

/-- The events that a request sends, each with the connection it goes to. -/
abbrev Deliveries := List (SelectionTx × SelectionEvent)

/-- What the handlers read beside the state: the atom table, the server's clock,
which incremental transfers have been idle for too long, and the order in which
the targets of a kept selection come. -/
structure Surroundings where
  atoms : AtomNames
  now : Nat
  idle : IncrTransfer → Bool
  targetOrder : List Atom

structure SetSelectionOwnerRequest where
  owner : XId
  selection : Atom

structure ConvertSelectionRequest where
  requestor : XId
  selection : Atom
  target : Atom
  property : Atom

def Selector.toSelf (s : Selector) (event : SelectionEvent) : SelectionTx × SelectionEvent :=
  (.connection s.client.clientId, event)

/-- Over the route of the window, or else to the client itself. -/
def Selector.toWindow (s : Selector) (w : XId) (event : SelectionEvent) :
    SelectionTx × SelectionEvent :=
  (.connection ((s.client.shared.eventRoutes.lookup w).getD s.client.clientId), event)

def Selector.setProperty (w : XId) (a : Atom) (v : PropertyValue) (s : Selector) : Selector :=
  { s with client := updateWindow w (insertProperty a v) s.client }

def Selector.setShared (sels : HashMap Atom SelectionOwner) (s : Selector) : Selector :=
  { s with client := { s.client with shared := { s.client.shared with selections := sels } } }

def Selector.sharedOwner (s : Selector) (a : Atom) : Option SelectionOwner :=
  s.client.shared.selections.lookup a

/-- The owner by the client's own account, or else by that of all. -/
def Selector.knownOwner (s : Selector) (a : Atom) : XId :=
  ((s.selection.owners.lookup a).or ((s.sharedOwner a).map (·.window))).getD 0

/-- SelectionClear to the owner that loses the selection. -/
def clearPrevious (env : Surroundings) (req : SetSelectionOwnerRequest) (s : Selector) :
    Deliveries :=
  let previous := s.knownOwner req.selection
  if previous ≠ 0 ∧ previous ≠ req.owner ∧ previous ≠ clipboardManagerWindow then
    let event := .selectionClear env.now previous req.selection
    if previous ∈ s.client.x11ToUuid then [s.toSelf event]
    else ((s.client.shared.eventRoutes.lookup previous).map
      (fun client => (.connection client, event))).toList
  else []

/-- The client forgets the selection, and with it everybody. -/
def releaseOwner (a : Atom) (s : Selector) : Selector :=
  { s.setShared (s.client.shared.selections.erase a) with
    selection := { s.selection with
      owners := s.selection.owners.erase a
      timestamps := s.selection.timestamps.erase a } }

def takeOwner (env : Surroundings) (req : SetSelectionOwnerRequest) (s : Selector) : Selector :=
  { s.setShared (s.client.shared.selections.insert req.selection
      ⟨req.owner, .connection s.client.clientId, env.now⟩) with
    selection := { s.selection with
      owners := s.selection.owners.insert req.selection req.owner
      timestamps := s.selection.timestamps.insert req.selection env.now }
    persistentClipboard := s.persistentClipboard.erase req.selection }

def reportOwner (env : Surroundings) (req : SetSelectionOwnerRequest) (s : Selector) : Deliveries :=
  if (s.selection.selectionEventSubscribers.lookup req.selection).any (fun mask => mask.testBit 0)
  then [s.toSelf (.xfixesSelectionNotify env.now req.owner req.selection)]
  else []

def handleSetSelectionOwner (env : Surroundings) (req : SetSelectionOwnerRequest) (s : Selector) :
    Selector × Deliveries × Response :=
  if unknownAtom env.atoms req.selection then (s, [], .error .atom req.selection 22)
  else
    (if req.owner = 0 then releaseOwner req.selection s else takeOwner env req s,
      clearPrevious env req s ++ reportOwner env req s, .ok)

def handleGetSelectionOwner (selection : Atom) (s : Selector) : XId := s.knownOwner selection

def ConvertSelectionRequest.effectiveProperty (req : ConvertSelectionRequest) : Atom :=
  if req.property = 0 then req.target else req.property

def convertSelectionError (env : Surroundings) (req : ConvertSelectionRequest) : Option Response :=
  if unknownAtom env.atoms req.selection then some (.error .atom req.selection 24)
  else if unknownAtom env.atoms req.target then some (.error .atom req.target 24)
  else none

def notifyRequestor (env : Surroundings) (req : ConvertSelectionRequest) (property : Atom)
    (s : Selector) : SelectionTx × SelectionEvent :=
  s.toWindow req.requestor
    (.selectionNotify env.now req.requestor req.selection req.target property)

def convertDelete (env : Surroundings) (req : ConvertSelectionRequest) (s : Selector) :
    Selector × Deliveries :=
  ({ releaseOwner req.selection s with
      persistentClipboard := s.persistentClipboard.erase req.selection },
    [notifyRequestor env req req.effectiveProperty s])

def toBytes32 (msb : Bool) (n : Nat) : Bytes :=
  if msb then (toLeBytes32 n).reverse else toLeBytes32 n

def storeTimestamp (w : XId) (property : Atom) (time : Nat) (s : Selector) : Selector :=
  s.setProperty w property ⟨Predef.cardinal, 32, toBytes32 s.client.msbFirst time⟩

def convertTimestamp (env : Surroundings) (req : ConvertSelectionRequest) (s : Selector) :
    Selector × Deliveries :=
  match (s.selection.timestamps.lookup req.selection).or
      ((s.sharedOwner req.selection).map (·.timestamp)) with
  | some time => (storeTimestamp req.requestor req.effectiveProperty time s,
      [notifyRequestor env req req.effectiveProperty s])
  | none => (s, [notifyRequestor env req 0 s])

def pushIncrTransfer (env : Surroundings) (t : IncrTransfer) (s : ClientState) : ClientState :=
  let kept := if s.incrTransfers.length ≥ maxIncrTransfers then
    s.incrTransfers.filter (fun t => !env.idle t) else s.incrTransfers
  { s with incrTransfers := if kept.length ≥ maxIncrTransfers then kept else kept ++ [t] }

def startIncrTransfer (env : Surroundings) (requestor : XId) (property target : Atom) (data : Bytes)
    (s : Selector) : Selector :=
  let marked := s.setProperty requestor property ⟨incr, 32, toLeBytes32 data.length⟩
  { marked with client :=
      pushIncrTransfer env ⟨requestor, property, target, data, 0, incrThreshold⟩ marked.client }

/-- The list that answers TARGETS: what is kept, all text targets if one of them
is, and the two that the server answers by itself. -/
def offeredTargets (order : List Atom) : List Atom :=
  let texts := if order.any (fun a => textTargets.contains a) then
    order ++ textTargets.filter (fun a => !order.contains a) else order
  let listed := if texts.contains targets then texts else texts ++ [targets]
  if listed.contains timestamp then listed else listed ++ [timestamp]

/-- The server answers for the owner that has gone; `none` if it has not kept the
target. -/
def servePersistentClipboard (env : Surroundings) (req : ConvertSelectionRequest) (property : Atom)
    (s : Selector) : Option (Selector × Deliveries) :=
  match s.persistentClipboard.lookup req.selection with
  | none => none
  | some entry =>
    let notice := [notifyRequestor env req property s]
    if req.target = targets then
      some (s.setProperty req.requestor property
        ⟨Predef.atom, 32, (offeredTargets env.targetOrder).flatMap toLeBytes32⟩, notice)
    else if req.target = timestamp then
      some (storeTimestamp req.requestor property entry.timestamp s, notice)
    else match entry.targets.lookup req.target with
      | some data =>
        if data.length > incrThreshold then
          some (startIncrTransfer env req.requestor property req.target data s, notice)
        else some (s.setProperty req.requestor property ⟨req.target, 8, data⟩, notice)
      | none =>
        if textTargets.contains req.target then
          (textTargets.findSome? entry.targets.lookup).map (fun data =>
            (s.setProperty req.requestor property ⟨req.target, 8, data⟩, notice))
        else none

/-- The entry of another connection, the server's own apart. -/
def Selector.remoteOwner (s : Selector) (a : Atom) : Option SelectionOwner :=
  (s.sharedOwner a).filter (fun e => e.window != clipboardManagerWindow)

def Selector.serverOwned (s : Selector) (a : Atom) : Bool :=
  (s.sharedOwner a).any (fun e => e.window == clipboardManagerWindow)

def atomPairs (data : Bytes) : List (Atom × Atom) := go (leWords data)
where
  go : List Nat → List (Nat × Nat)
    | t :: p :: rest => (t, p) :: go rest
    | _ => []

def multiplePairs (req : ConvertSelectionRequest) (s : Selector) : List (Atom × Atom) :=
  (((s.client.windows.lookup req.requestor).bind (fun win =>
    win.properties.lookup req.effectiveProperty)).filter (fun v => v.format == 32)).elim []
    (fun v => atomPairs v.data)

/-- The owner that a SelectionRequest goes to: the client itself by its own
account, or else the entry that all see. -/
def Selector.requestTo (s : Selector) (a : Atom) : Option (SelectionTx × XId) :=
  match s.selection.owners.lookup a with
  | some owner => some (.connection s.client.clientId, owner)
  | none => (s.remoteOwner a).map (fun e => (e.tx, e.window))

def selectionRequest (env : Surroundings) (req : ConvertSelectionRequest) (target property : Atom)
    (dest : SelectionTx × XId) : SelectionTx × SelectionEvent :=
  (dest.1, .selectionRequest env.now dest.2 req.requestor req.selection target property)

/-- One pair of MULTIPLE. The owner is looked up once, before the first pair. -/
def convertPair (env : Surroundings) (req : ConvertSelectionRequest)
    (dest : Option (SelectionTx × XId)) (time : Option Nat) (server : Bool)
    (acc : Selector × Deliveries × List (Atom × Atom)) (pair : Atom × Atom) :
    Selector × Deliveries × List (Atom × Atom) :=
  let failed := (acc.1, acc.2.1, acc.2.2 ++ [(pair.1, 0)])
  if pair.1 = timestamp then
    let kept := if server then
      (acc.1.persistentClipboard.lookup req.selection).map (·.timestamp) else none
    match (time.or kept) with
    | some time =>
      (storeTimestamp req.requestor pair.2 time acc.1, acc.2.1, acc.2.2 ++ [pair])
    | none => failed
  else if server then
    match servePersistentClipboard env { req with target := pair.1 } pair.2 acc.1 with
    | some (s, sent) => (s, acc.2.1 ++ sent, acc.2.2 ++ [pair])
    | none => failed
  else
    match dest with
    | some dest =>
      (acc.1, acc.2.1 ++ [selectionRequest env req pair.1 pair.2 dest], acc.2.2 ++ [pair])
    | none => failed

def convertMultiple (env : Surroundings) (req : ConvertSelectionRequest) (s : Selector) :
    Selector × Deliveries :=
  let pairs := multiplePairs req s
  if pairs.isEmpty then (s, [notifyRequestor env req 0 s])
  else
    let dest := s.requestTo req.selection
    let time := (s.selection.timestamps.lookup req.selection).or
      (if s.selection.owners.lookup req.selection = none then
        (s.remoteOwner req.selection).map (·.timestamp) else none)
    let server := dest.isNone && s.serverOwned req.selection
    let (s', sent, results) := pairs.foldl (convertPair env req dest time server) (s, [], [])
    (s'.setProperty req.requestor req.effectiveProperty
      ⟨Predef.atom, 32, results.flatMap (fun p => toLeBytes32 p.1 ++ toLeBytes32 p.2)⟩,
      sent ++ [notifyRequestor env req req.effectiveProperty s'])

def convertSingle (env : Surroundings) (req : ConvertSelectionRequest) (s : Selector) :
    Selector × Deliveries :=
  match (if s.serverOwned req.selection then
      servePersistentClipboard env req req.effectiveProperty s else none) with
  | some served => served
  | none =>
    match s.requestTo req.selection with
    | some dest => (s, [selectionRequest env req req.target req.property dest])
    | none => (s, [notifyRequestor env req 0 s])

def handleConvertSelection (env : Surroundings) (req : ConvertSelectionRequest) (s : Selector) :
    Selector × Deliveries × Response :=
  match convertSelectionError env req with
  | some r => (s, [], r)
  | none =>
    let (s', sent) :=
      if req.target = delete then convertDelete env req s
      else if req.target = timestamp then convertTimestamp env req s
      else if req.target = multiple then convertMultiple env req s
      else convertSingle env req s
    (s', sent, .ok)

end X11Web.Selections
