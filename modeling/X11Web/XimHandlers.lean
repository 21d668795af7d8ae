import Mathlib.Data.UInt
import X11Web.HashMaps

namespace X11Web.XimPreedit

open HashMaps

abbrev Ic := UInt16 × UInt16

structure XimInputContext where
  inputStyle : UInt32
  clientWindow : UInt32
  focusWindow : UInt32
  preeditActive : Bool
  spotX : Int16
  spotY : Int16

structure XimConnection where
  clientWindow : UInt32
  contexts : HashMap UInt16 XimInputContext

structure XimServer where
  nextImId : UInt16
  nextIcId : UInt16
  connections : HashMap UInt16 XimConnection

def newServer : XimServer := ⟨1, 1, ∅⟩

/-- The messages of the server, with the input method and the context they name. -/
inductive Message
  | setEventMask (ic : Ic)
  | openReply (imId : UInt16)
  | closeReply (imId : UInt16)
  | createIcReply (ic : Ic)
  | destroyIcReply (ic : Ic)
  | setIcValuesReply (ic : Ic)
  | resetIcReply (ic : Ic)
  | forwardEvent (ic : Ic)
  | commit (ic : Ic) (text : String)
  | preeditStart (ic : Ic)
  | preeditDraw (ic : Ic) (text : String) (caret : Nat)
  | preeditDone (ic : Ic)
  deriving DecidableEq

structure ClientState where
  xim : XimServer
  sent : List Message

def XIM_PREEDIT_CALLBACKS : UInt32 := 0x0002
def XIM_PREEDIT_POSITION : UInt32 := 0x0004

def XimInputContext.supportsPreedit (c : XimInputContext) : Bool :=
  c.inputStyle &&& (XIM_PREEDIT_CALLBACKS ||| XIM_PREEDIT_POSITION) != 0

namespace XimServer

def context (x : XimServer) (ic : Ic) : Option XimInputContext :=
  (x.connections.lookup ic.1).bind fun conn => conn.contexts.lookup ic.2

def preeditActive (x : XimServer) (ic : Ic) : Bool := ((x.context ic).map XimInputContext.preeditActive).getD false

def modifyContexts (x : XimServer) (imId : UInt16)
    (f : HashMap UInt16 XimInputContext → HashMap UInt16 XimInputContext) : XimServer :=
  { x with connections := modify imId (fun conn => { conn with contexts := f conn.contexts }) x.connections }

def modifyContext (x : XimServer) (ic : Ic) (f : XimInputContext → XimInputContext) : XimServer :=
  x.modifyContexts ic.1 (modify ic.2 f)

def setPreeditActive (x : XimServer) (ic : Ic) (active : Bool) : XimServer :=
  x.modifyContext ic fun c => { c with preeditActive := active }

end XimServer

/-- Replies to an input method whose client window is not known are dropped. -/
def sendXimReply (s : ClientState) (imId : UInt16) (msg : Message) : ClientState :=
  if ((s.xim.connections.lookup imId).map XimConnection.clientWindow).getD 0 = 0 then s
  else { s with sent := s.sent ++ [msg] }

def sendXimPreeditStart (s : ClientState) (ic : Ic) : ClientState :=
  let s := sendXimReply s ic.1 (.preeditStart ic)
  { s with xim := s.xim.setPreeditActive ic true }

def sendXimPreeditDraw (s : ClientState) (ic : Ic) (text : String) (caret : Nat) : ClientState :=
  sendXimReply s ic.1 (.preeditDraw ic text caret)

def sendXimPreeditDone (s : ClientState) (ic : Ic) : ClientState :=
  let s := sendXimReply s ic.1 (.preeditDone ic)
  { s with xim := s.xim.setPreeditActive ic false }

def sendXimCommit (s : ClientState) (ic : Ic) (text : String) : ClientState :=
  sendXimReply s ic.1 (.commit ic text)

def handleXimOpen (s : ClientState) : ClientState :=
  let imId := s.xim.nextImId
  let s := { s with xim := { s.xim with
    nextImId := imId + 1
    connections := s.xim.connections.insert imId ⟨0, ∅⟩ } }
  sendXimReply (sendXimReply s imId (.setEventMask (imId, 0))) imId (.openReply imId)

def handleXimClose (s : ClientState) (imId : UInt16) : ClientState :=
  sendXimReply { s with xim := { s.xim with connections := s.xim.connections.erase imId } } imId (.closeReply imId)

/-- What `parse_ic_attributes` reads, over the values that it is given. -/
structure IcAttributes where
  inputStyle : UInt32
  clientWindow : UInt32
  focusWindow : UInt32
  spotX : Int16
  spotY : Int16

def newContext (a : IcAttributes) : XimInputContext where
  inputStyle := a.inputStyle
  clientWindow := a.clientWindow
  focusWindow := if a.focusWindow = 0 then a.clientWindow else a.focusWindow
  preeditActive := false
  spotX := a.spotX
  spotY := a.spotY

def XimServer.createIc (x : XimServer) (imId : UInt16) (a : IcAttributes) : XimServer where
  nextImId := x.nextImId
  nextIcId := x.nextIcId + 1
  connections :=
    if a.clientWindow ≠ 0 then
      modify imId (fun conn =>
        { clientWindow := if conn.clientWindow = 0 then a.clientWindow else conn.clientWindow
          contexts := conn.contexts.insert x.nextIcId (newContext a) }) x.connections
    else x.connections

/-- The context that is created, where there is the input method and a client window. -/
def XimServer.createdIc (x : XimServer) (imId : UInt16) (a : IcAttributes) : Option Ic :=
  if a.clientWindow ≠ 0 ∧ (x.connections.lookup imId).isSome then some (imId, x.nextIcId) else none

def handleXimCreateIc (s : ClientState) (imId : UInt16) (a : IcAttributes) : ClientState :=
  sendXimReply { s with xim := s.xim.createIc imId a } imId (.createIcReply (imId, s.xim.nextIcId))

def handleXimDestroyIc (s : ClientState) (ic : Ic) : ClientState :=
  sendXimReply { s with xim := s.xim.modifyContexts ic.1 fun contexts => contexts.erase ic.2 } ic.1 (.destroyIcReply ic)

def XimInputContext.setValues (c : XimInputContext) (a : IcAttributes) : XimInputContext where
  inputStyle := if a.inputStyle ≠ 0 then a.inputStyle else c.inputStyle
  clientWindow := if a.clientWindow ≠ 0 then a.clientWindow else c.clientWindow
  focusWindow := if a.focusWindow ≠ 0 then a.focusWindow else c.focusWindow
  preeditActive := c.preeditActive
  spotX := if a.spotX ≠ 0 ∨ a.spotY ≠ 0 then a.spotX else c.spotX
  spotY := if a.spotX ≠ 0 ∨ a.spotY ≠ 0 then a.spotY else c.spotY

def handleXimSetIcValues (s : ClientState) (ic : Ic) (a : IcAttributes) : ClientState :=
  sendXimReply { s with xim := s.xim.modifyContext ic fun c => c.setValues a } ic.1 (.setIcValuesReply ic)

def handleXimResetIc (s : ClientState) (ic : Ic) : ClientState :=
  let s := if s.xim.preeditActive ic then sendXimPreeditDone s ic else s
  sendXimReply s ic.1 (.resetIcReply ic)

inductive ComposeResult
  | pass (keysym : UInt32)
  | consumed
  | composed (text : String)
  | cancelled (keysyms : List UInt32)

section Keys

-- `keysym_to_string`, which asks libxkbcommon
variable (keysymToString : UInt32 → String)

def commitKeysym (s : ClientState) (ic : Ic) (ks : UInt32) : ClientState :=
  if (keysymToString ks).isEmpty then s else sendXimCommit s ic (keysymToString ks)

/-- A key press that reaches the compose state, with what that makes of it. -/
def handleXimForwardEvent (s : ClientState) (ic : Ic) : ComposeResult → ClientState
  | .pass ks =>
    if ks ≥ 0xff00 then sendXimReply s ic.1 (.forwardEvent ic) else commitKeysym keysymToString s ic ks
  | .consumed =>
    if ((s.xim.context ic).map XimInputContext.supportsPreedit).getD false then
      let s := if s.xim.preeditActive ic then s else sendXimPreeditStart s ic
      sendXimPreeditDraw s ic "·" 1
    else s
  | .composed text =>
    let s := if s.xim.preeditActive ic then sendXimPreeditDone s ic else s
    sendXimCommit s ic text
  | .cancelled keysyms =>
    let s := if s.xim.preeditActive ic then sendXimPreeditDone s ic else s
    keysyms.foldl (fun s ks => commitKeysym keysymToString s ic ks) s

/-- The loops of `find_focused_ic` over the contexts in the order in which they are met. -/
def findFocused (x : XimServer) : Option Ic → List Ic → Option Ic
  | fallback, [] => fallback
  | fallback, ic :: ics =>
    match x.context ic with
    | some c => if c.supportsPreedit then some ic else findFocused x (fallback.or (some ic)) ics
    | none => findFocused x fallback ics

def findFocusedIc (x : XimServer) (order : List (UInt16 × List UInt16)) : Option Ic :=
  findFocused x none (order.flatMap fun conn => conn.2.map fun icId => (conn.1, icId))

inductive Phase
  | start
  | update
  | finish
  | unknown
  deriving DecidableEq

def handleCompositionEvent (s : ClientState) (order : List (UInt16 × List UInt16)) (phase : Phase) (text : String) :
    ClientState :=
  match findFocusedIc s.xim order with
  | none => s
  | some ic =>
    match phase with
    | .start => sendXimPreeditStart s ic
    | .update => sendXimPreeditDraw s ic text text.length
    | .finish => sendXimPreeditDone (if text.isEmpty then s else sendXimCommit s ic text) ic
    | .unknown => s

/-- The messages of the client, and the composition events of the frontends. -/
inductive Event (F : Type)
  | openIm
  | closeIm (imId : UInt16)
  | createIc (imId : UInt16) (a : IcAttributes)
  | destroyIc (ic : Ic)
  | setIcValues (ic : Ic) (a : IcAttributes)
  | resetIc (ic : Ic)
  | forwardEvent (ic : Ic) (outcome : ComposeResult)
  | composition (frontend : F) (phase : Phase) (text : String) (order : List (UInt16 × List UInt16))

variable {F : Type}

def handle (s : ClientState) : Event F → ClientState
  | .openIm => handleXimOpen s
  | .closeIm imId => handleXimClose s imId
  | .createIc imId a => handleXimCreateIc s imId a
  | .destroyIc ic => handleXimDestroyIc s ic
  | .setIcValues ic a => handleXimSetIcValues s ic a
  | .resetIc ic => handleXimResetIc s ic
  | .forwardEvent ic outcome => handleXimForwardEvent keysymToString s ic outcome
  | .composition _ phase text order => handleCompositionEvent s order phase text

end Keys

section Contexts

variable {x : XimServer} {ic : Ic}

theorem context_modifyContexts (x : XimServer) (imId : UInt16)
    (f : HashMap UInt16 XimInputContext → HashMap UInt16 XimInputContext) (ic : Ic) :
    (x.modifyContexts imId f).context ic =
      if ic.1 = imId then (x.connections.lookup imId).bind fun conn => (f conn.contexts).lookup ic.2
      else x.context ic := by
  rw [XimServer.context, XimServer.modifyContexts, lookup_modify]
  split
  · rw [Option.bind_map]
    rfl
  · rfl

theorem context_modifyContext (x : XimServer) (ic : Ic) (f : XimInputContext → XimInputContext) (ic' : Ic) :
    (x.modifyContext ic f).context ic' = if ic' = ic then (x.context ic).map f else x.context ic' := by
  obtain ⟨imId, icId⟩ := ic
  obtain ⟨imId', icId'⟩ := ic'
  rw [XimServer.modifyContext, context_modifyContexts]
  by_cases him : imId' = imId
  · subst him
    simp only [XimServer.context, if_pos, Prod.mk.injEq, true_and]
    cases x.connections.lookup imId' with
    | none => simp
    | some conn => simp [lookup_modify]
  · rw [if_neg him, if_neg fun h => him (Prod.mk.inj h).1]

theorem preeditActive_setPreeditActive (x : XimServer) (ic : Ic) (active : Bool) (ic' : Ic) :
    (x.setPreeditActive ic active).preeditActive ic' =
      if ic' = ic then (x.context ic).isSome && active else x.preeditActive ic' := by
  rw [XimServer.preeditActive, XimServer.setPreeditActive, context_modifyContext]
  split
  · cases x.context ic <;> simp
  · rfl

theorem exists_context_of_active (h : x.preeditActive ic = true) : ∃ c, x.context ic = some c := by
  cases hc : x.context ic with
  | none => simp [XimServer.preeditActive, hc] at h
  | some c => exact ⟨c, rfl⟩

def XimServer.Reaches (x : XimServer) : Prop :=
  ∀ ic c, x.context ic = some c → ((x.connections.lookup ic.1).map XimConnection.clientWindow).getD 0 ≠ 0

theorem clientWindow_modifyContexts (x : XimServer) (imId imId' : UInt16)
    (f : HashMap UInt16 XimInputContext → HashMap UInt16 XimInputContext) :
    ((x.modifyContexts imId f).connections.lookup imId').map XimConnection.clientWindow =
      (x.connections.lookup imId').map XimConnection.clientWindow :=
  lookup_modify_map XimConnection.clientWindow imId imId' _ x.connections fun _ => rfl

theorem reaches_modifyContext (h : x.Reaches) (ic : Ic) (f : XimInputContext → XimInputContext) :
    (x.modifyContext ic f).Reaches := by
  intro ic' c hc
  rw [XimServer.modifyContext, clientWindow_modifyContexts]
  rw [context_modifyContext] at hc
  split at hc
  · next heq =>
    subst heq
    obtain ⟨c', hc', -⟩ := Option.map_eq_some_iff.mp hc
    exact h ic' c' hc'
  · exact h ic' c hc

end Contexts

end X11Web.XimPreedit
