import Mathlib.Data.Finset.SDiff
import Mathlib.Data.Set.Lattice
import Mathlib.Order.CompletePartialOrder
import X11Web.Runs

namespace X11Web.WorkspaceSync

open List Function

/-- The part of the Automerge library that the workspaces use. What a document, a message and a sync state are
is left open; the sets say which changes are in them. -/
structure Automerge (Doc SyncState Message Change : Type) where
  init : Doc
  initSyncState : SyncState
  change : Doc → Change → Doc
  generateSyncMessage : Doc → SyncState → SyncState × Option Message
  receiveSyncMessage : Doc → SyncState → Message → Doc × SyncState
  changes : Doc → Set Change
  /-- The changes the sender of a message has, by the heads in it. -/
  heads : Message → Set Change
  /-- The changes behind the heads that were last sent to the peer. -/
  lastSentHeads : SyncState → Set Change
  /-- The changes behind the heads that the peer last sent. -/
  theirHeads : SyncState → Set Change
  inFlight : SyncState → Bool
  haveResponded : SyncState → Bool
  /-- How many messages can still be generated. -/
  offers : Doc → SyncState → Nat
  offers_lt : ∀ doc state state' message,
    generateSyncMessage doc state = (state', some message) → offers doc state' < offers doc state

variable {Doc SyncState Message Change : Type}

/-- What is taken of the library: a message tells the heads; there is no message only as long as the peer owes an
answer, or where it has the same heads. -/
structure Automerge.Lawful (am : Automerge Doc SyncState Message Change) : Prop where
  change : ∀ doc c, am.changes (am.change doc c) = insert c (am.changes doc)
  init : am.theirHeads am.initSyncState = ∅ ∧ am.inFlight am.initSyncState = false ∧
    am.haveResponded am.initSyncState = false
  generated : ∀ doc state state' message, am.generateSyncMessage doc state = (state', some message) →
    am.heads message = am.changes doc ∧ am.lastSentHeads state' = am.changes doc ∧
      am.theirHeads state' = am.theirHeads state
  exhausted : ∀ doc state state', am.generateSyncMessage doc state = (state', none) → state' = state ∧
    am.haveResponded state = true ∧ am.changes doc ⊆ am.lastSentHeads state ∧
      (am.inFlight state = false → am.theirHeads state = am.changes doc)
  received : ∀ doc state message, am.changes doc ⊆ am.changes (am.receiveSyncMessage doc state message).1 ∧
    am.theirHeads (am.receiveSyncMessage doc state message).2 = am.heads message ∧
      am.inFlight (am.receiveSyncMessage doc state message).2 = false ∧
      am.haveResponded (am.receiveSyncMessage doc state message).2 = am.haveResponded state

abbrev WorkspaceId := Nat

structure PerWorkspace (Doc SyncState : Type) where
  doc : Doc
  syncState : SyncState

/-- One workspace: the frontend's document, once there is one, the backend's with its state for this frontend,
and the frames on their way. `edits` are the changes made in the frontend. -/
structure Line (Doc SyncState Message Change : Type) where
  entry : Option (PerWorkspace Doc SyncState)
  peer : PerWorkspace Doc SyncState
  toBackend : List Message
  toFrontend : List Message
  edits : List Change

inductive ReadyState
  | connecting
  | opened
  | closing
  | closed
deriving DecidableEq

structure World (Doc SyncState Message Change : Type) where
  lines : WorkspaceId → Line Doc SyncState Message Change
  dirtyShipWorkspaces : List WorkspaceId
  rafScheduled : Bool
  controlDc : Option ReadyState

namespace Automerge

variable (am : Automerge Doc SyncState Message Change)

/-- All messages there are for now, and the state after them. -/
def drainOutbound (doc : Doc) (state : SyncState) : SyncState × List Message :=
  match _h : am.generateSyncMessage doc state with
  | (state', none) => (state', [])
  | (state', some message) =>
    let rest := drainOutbound doc state'
    (rest.1, message :: rest.2)
termination_by am.offers doc state
decreasing_by exact am.offers_lt doc state _ _ ‹_›

section Lines

variable (l : Line Doc SyncState Message Change)

def ensure : PerWorkspace Doc SyncState := l.entry.getD ⟨am.init, am.initSyncState⟩

def edit (c : Change) : Line Doc SyncState Message Change :=
  let entry := am.ensure l
  { l with entry := some { entry with doc := am.change entry.doc c }, edits := l.edits ++ [c] }

def applyInbound (message : Message) : Line Doc SyncState Message Change :=
  let entry := am.ensure l
  let (doc, syncState) := am.receiveSyncMessage entry.doc entry.syncState message
  { l with entry := some ⟨doc, syncState⟩ }

/-- The messages are drained in any case, and written only to an open channel. -/
def ship (isOpen : Bool) : Line Doc SyncState Message Change :=
  match l.entry with
  | none => l
  | some entry =>
    let (syncState, messages) := am.drainOutbound entry.doc entry.syncState
    { l with
      entry := some { entry with syncState := syncState }
      toBackend := l.toBackend ++ if isOpen then messages else [] }

def reply : Line Doc SyncState Message Change :=
  let (syncState, messages) := am.drainOutbound l.peer.doc l.peer.syncState
  { l with peer := { l.peer with syncState := syncState }, toFrontend := l.toFrontend ++ messages }

def receiveSync (message : Message) : Line Doc SyncState Message Change :=
  let (doc, syncState) := am.receiveSyncMessage l.peer.doc l.peer.syncState message
  am.reply { l with peer := ⟨doc, syncState⟩ }

end Lines

end Automerge

inductive Event (Change : Type)
  | edit (w : WorkspaceId) (c : Change)
  | controlOpen
  | controlState (state : ReadyState)
  | controlClose
  | animationFrame
  | inbound (w : WorkspaceId)
  | outbound (w : WorkspaceId)
  | kick (w : WorkspaceId)
  | backendEdit (w : WorkspaceId) (c : Change)
  | forgetPeer

namespace World

variable (am : Automerge Doc SyncState Message Change) (s : World Doc SyncState Message Change)

/-- A page that has just been loaded, and the backend with its documents. -/
def new (seed : WorkspaceId → Doc) : World Doc SyncState Message Change where
  lines w := ⟨none, ⟨seed w, am.initSyncState⟩, [], [], []⟩
  dirtyShipWorkspaces := []
  rafScheduled := false
  controlDc := none

def isOpen : Bool := s.controlDc = some .opened

def setLine (w : WorkspaceId) (l : Line Doc SyncState Message Change) : World Doc SyncState Message Change :=
  { s with lines := update s.lines w l }

def scheduleFlush (w : WorkspaceId) : World Doc SyncState Message Change :=
  { s with
    dirtyShipWorkspaces := if w ∈ s.dirtyShipWorkspaces then s.dirtyShipWorkspaces else s.dirtyShipWorkspaces ++ [w]
    rafScheduled := true }

def flushShip : World Doc SyncState Message Change :=
  { s with
    lines := s.dirtyShipWorkspaces.foldl
      (fun lines w => update lines w (am.ship (lines w) s.isOpen)) s.lines
    dirtyShipWorkspaces := []
    rafScheduled := false }

def step : Event Change → World Doc SyncState Message Change
  | .edit w c => (s.setLine w (am.edit (s.lines w) c)).scheduleFlush w
  | .controlOpen => { s with controlDc := some .opened }
  | .controlState state => { s with controlDc := s.controlDc.map fun _ => state }
  | .controlClose => { s with controlDc := none }
  | .animationFrame => if s.rafScheduled then s.flushShip am else s
  | .inbound w =>
    match (s.lines w).toFrontend with
    | [] => s
    | message :: rest => (s.setLine w (am.applyInbound { s.lines w with toFrontend := rest } message)).scheduleFlush w
  | .outbound w =>
    match (s.lines w).toBackend with
    | [] => s
    | message :: rest => s.setLine w (am.receiveSync { s.lines w with toBackend := rest } message)
  | .kick w => s.setLine w (am.reply (s.lines w))
  | .backendEdit w c =>
    s.setLine w { s.lines w with peer := { (s.lines w).peer with doc := am.change (s.lines w).peer.doc c } }
  | .forgetPeer =>
    { s with lines := fun w => { s.lines w with peer := { (s.lines w).peer with syncState := am.initSyncState } } }

def run (seed : WorkspaceId → Doc) (events : List (Event Change)) : World Doc SyncState Message Change :=
  events.foldl (step am) (new am seed)

/-- Nothing of the workspace is on its way, no flush is due, and neither side has a message. -/
structure Quiesced (w : WorkspaceId) : Prop where
  flushed : s.rafScheduled = false
  toBackend : (s.lines w).toBackend = []
  toFrontend : (s.lines w).toFrontend = []
  backend : (am.generateSyncMessage (s.lines w).peer.doc (s.lines w).peer.syncState).2 = none
  frontend : ∀ entry, (s.lines w).entry = some entry → (am.generateSyncMessage entry.doc entry.syncState).2 = none

/-- With an open channel and nothing more to exchange, the backend has every edit. -/
def NothingLost : Prop :=
  s.isOpen = true → ∀ w, Quiesced am s w → ∀ c ∈ (s.lines w).edits, c ∈ am.changes (s.lines w).peer.doc

/-- A flush that finds the channel not open has no message to send. -/
def Meets : Event Change → Prop
  | .animationFrame => s.isOpen = false → ∀ w ∈ s.dirtyShipWorkspaces, ∀ entry, (s.lines w).entry = some entry →
      (am.generateSyncMessage entry.doc entry.syncState).2 = none
  | _ => True

end World

section Drains

variable {am : Automerge Doc SyncState Message Change} (hlaw : am.Lawful)
include hlaw

theorem drainOutbound_cases (doc : Doc) (state : SyncState) :
    am.drainOutbound doc state = (state, []) ∨
      (am.generateSyncMessage doc state).2 ≠ none ∧ (am.drainOutbound doc state).2 ≠ [] ∧
      (∀ message ∈ (am.drainOutbound doc state).2, am.heads message = am.changes doc) ∧
      am.lastSentHeads (am.drainOutbound doc state).1 = am.changes doc ∧
      am.theirHeads (am.drainOutbound doc state).1 = am.theirHeads state := by
  fun_induction am.drainOutbound doc state with
  | case1 state state' hnone =>
    obtain ⟨rfl, -⟩ := hlaw.exhausted doc state state' hnone
    exact .inl rfl
  | case2 state state' message hsome rest ih =>
    obtain ⟨hheads, hlast, htheirs⟩ := hlaw.generated doc state state' message hsome
    refine .inr ⟨by simp [hsome], by simp, ?_⟩
    obtain hnil | ⟨-, -, hheads', hlast', htheirs'⟩ := ih
    · have hrest : rest = (state', []) := hnil
      rw [hrest]
      refine ⟨fun m hm => ?_, hlast, htheirs⟩
      rw [mem_singleton.mp hm]
      exact hheads
    · refine ⟨fun m hm => ?_, hlast', htheirs'.trans htheirs⟩
      obtain rfl | hm := mem_cons.mp hm
      · exact hheads
      · exact hheads' m hm

end Drains

/-- What holds of a workspace whose messages all get through: the sides know nothing false of each other, and
where the frontend waits for an answer, its heads have reached the backend, or are on the way, or an answer is. -/
structure Sound (am : Automerge Doc SyncState Message Change) (l : Line Doc SyncState Message Change) : Prop where
  edits : ∀ c ∈ l.edits, ∃ entry, l.entry = some entry ∧ c ∈ am.changes entry.doc
  theirHeads : ∀ entry, l.entry = some entry → am.theirHeads entry.syncState ⊆ am.changes l.peer.doc
  inbound : ∀ message ∈ l.toFrontend, am.heads message ⊆ am.changes l.peer.doc
  turn : ∀ entry, l.entry = some entry → am.inFlight entry.syncState = true →
    l.toFrontend ≠ [] ∨ am.haveResponded l.peer.syncState = false ∨
      match l.toBackend.getLast? with
      | some message => am.heads message = am.lastSentHeads entry.syncState
      | none => am.inFlight l.peer.syncState = false ∧
          am.theirHeads l.peer.syncState = am.lastSentHeads entry.syncState

section Lines

variable {am : Automerge Doc SyncState Message Change} (hlaw : am.Lawful) {l : Line Doc SyncState Message Change}
include hlaw

theorem Sound.edit (h : Sound am l) (c : Change) : Sound am (am.edit l c) := by
  obtain ⟨htheirs, hinFlight, -⟩ := hlaw.init
  refine ⟨fun c' hc' => ⟨_, rfl, ?_⟩, ?_, h.inbound, ?_⟩
  · rw [hlaw.change]
    obtain hc' | hc' := mem_append.mp hc'
    · obtain ⟨entry, hent, hmem⟩ := h.edits c' hc'
      rw [Automerge.ensure, hent]
      exact Set.mem_insert_of_mem c hmem
    · exact .inl (mem_singleton.mp hc')
  · rintro entry ⟨⟩
    rw [Automerge.ensure]
    cases hent : l.entry with
    | none => exact htheirs.trans_subset (Set.empty_subset _)
    | some entry => exact h.theirHeads entry hent
  · rintro entry ⟨⟩ hwtg
    rw [Automerge.ensure] at hwtg ⊢
    cases hent : l.entry with
    | none =>
      rw [hent] at hwtg
      exact absurd (hinFlight.symm.trans hwtg) (by decide)
    | some entry =>
      rw [hent] at hwtg
      exact h.turn entry hent hwtg

theorem Sound.applyInbound {message : Message} {rest : List Message} (h : Sound am l)
    (hq : l.toFrontend = message :: rest) : Sound am (am.applyInbound { l with toFrontend := rest } message) := by
  obtain ⟨hchgs, htheirs, hinFlight, -⟩ := hlaw.received (am.ensure l).doc (am.ensure l).syncState message
  refine ⟨fun c hc => ⟨_, rfl, ?_⟩, ?_, fun m hm => h.inbound m (hq ▸ mem_cons_of_mem message hm), ?_⟩
  · obtain ⟨entry, hent, hmem⟩ := h.edits c hc
    refine hchgs ?_
    rw [Automerge.ensure, hent]
    exact hmem
  · rintro entry ⟨⟩
    exact htheirs.trans_subset (h.inbound message (hq ▸ mem_cons_self))
  · rintro entry ⟨⟩ hwtg
    exact absurd (hinFlight.symm.trans hwtg) (by decide)

theorem ship_eq_self {isOpen : Bool}
    (hnone : ∀ entry, l.entry = some entry → (am.generateSyncMessage entry.doc entry.syncState).2 = none) :
    am.ship l isOpen = l := by
  unfold Automerge.ship
  cases hent : l.entry with
  | none => rfl
  | some entry =>
    obtain hnil | ⟨hsome, -⟩ := drainOutbound_cases hlaw entry.doc entry.syncState
    · dsimp only
      rw [hnil, ite_self, append_nil, ← hent]
    · exact absurd (hnone entry hent) hsome

theorem Sound.ship (h : Sound am l) : Sound am (am.ship l true) := by
  unfold Automerge.ship
  cases hent : l.entry with
  | none => exact h
  | some entry =>
    obtain hnil | ⟨-, hne, hheads, hlast, htheirs⟩ :=
      drainOutbound_cases hlaw entry.doc entry.syncState
    · dsimp only
      rw [hnil, ite_self, append_nil, ← hent]
      exact h
    · dsimp only
      rw [if_pos rfl]
      refine ⟨fun c hc => ⟨_, rfl, ?_⟩, ?_, h.inbound, ?_⟩
      · obtain ⟨entry', hent', hmem⟩ := h.edits c hc
        obtain rfl : entry = entry' := Option.some.inj (hent.symm.trans hent')
        exact hmem
      · rintro entry' ⟨⟩
        exact htheirs.trans_subset (h.theirHeads entry hent)
      · rintro entry' ⟨⟩ -
        obtain ⟨message, hmsg⟩ := Option.ne_none_iff_exists'.mp (mt List.getLast?_eq_none_iff.mp hne)
        refine .inr (.inr ?_)
        rw [List.getLast?_append_of_ne_nil _ hne, hmsg]
        exact (hheads message (mem_of_getLast? hmsg)).trans hlast.symm

theorem Sound.reply (h : Sound am l) : Sound am (am.reply l) := by
  unfold Automerge.reply
  obtain hnil | ⟨-, hne, hheads, -, -⟩ := drainOutbound_cases hlaw l.peer.doc l.peer.syncState
  · rw [hnil]
    dsimp only
    rw [append_nil]
    exact h
  · refine ⟨h.edits, h.theirHeads, fun m hm => ?_, fun _ _ _ => .inl ?_⟩
    · obtain hm | hm := mem_append.mp hm
      · exact h.inbound m hm
      · exact (hheads m hm).subset
    · exact append_ne_nil_of_right_ne_nil _ hne

theorem Sound.receiveSync {message : Message} {rest : List Message} (h : Sound am l)
    (hq : l.toBackend = message :: rest) : Sound am (am.receiveSync { l with toBackend := rest } message) := by
  obtain ⟨hchgs, htheirs, hinFlight, hresponded⟩ := hlaw.received l.peer.doc l.peer.syncState message
  refine Sound.reply hlaw ⟨h.edits, fun entry hent => ?_, fun m hm => ?_, fun entry hent hwtg => ?_⟩
  · exact (h.theirHeads entry hent).trans hchgs
  · exact (h.inbound m hm).trans hchgs
  · obtain hans | hfresh | htold := h.turn entry hent hwtg
    · exact .inl hans
    · exact .inr (.inl (hresponded.trans hfresh))
    · refine .inr (.inr ?_)
      rw [hq] at htold
      cases hrest : rest with
      | nil =>
        subst hrest
        exact ⟨hinFlight, htheirs.trans htold⟩
      | cons m rest' =>
        rw [hrest, List.getLast?_cons_cons] at htold
        exact htold

end Lines

namespace World

section Steps

variable {am : Automerge Doc SyncState Message Change} (hlaw : am.Lawful) {s : World Doc SyncState Message Change}

theorem sound_update {lines : WorkspaceId → Line Doc SyncState Message Change} (h : ∀ w, Sound am (lines w))
    {w : WorkspaceId} {l : Line Doc SyncState Message Change} (hl : Sound am l) :
    ∀ w', Sound am (update lines w l w') := by
  intro w'
  by_cases hw : w' = w
  · rw [hw, update_self]
    exact hl
  · rw [update_of_ne hw]
    exact h w'

include hlaw

theorem sound_flushShip (h : ∀ w, Sound am (s.lines w)) (hmts : Meets am s .animationFrame) :
    ∀ w, Sound am ((s.flushShip am).lines w) := by
  cases hopen : s.isOpen with
  | true =>
    unfold flushShip
    rw [hopen]
    exact List.foldlRecOn (motive := fun lines : WorkspaceId → _ => ∀ w, Sound am (lines w)) _ _ h
      fun lines hlines w _ => sound_update hlines ((hlines w).ship hlaw)
  | false =>
    have hsame : (s.flushShip am).lines = s.lines := by
      refine List.foldlRecOn (motive := fun lines : WorkspaceId → _ => lines = s.lines) _ _ rfl fun lines hlines w hw => ?_
      rw [hlines, ship_eq_self hlaw (hmts hopen w hw), update_eq_self]
    rw [hsame]
    exact h

theorem sound_step (h : ∀ w, Sound am (s.lines w)) (event : Event Change) (hmts : Meets am s event) :
    ∀ w, Sound am ((s.step am event).lines w) := by
  cases event with
  | edit w c => exact sound_update h ((h w).edit hlaw c)
  | controlOpen => exact h
  | controlState state => exact h
  | controlClose => exact h
  | animationFrame =>
    rw [step]
    split
    · exact sound_flushShip hlaw h hmts
    · exact h
  | inbound w =>
    rw [step]
    split
    · exact h
    · next message rest hq => exact sound_update h ((h w).applyInbound hlaw hq)
  | outbound w =>
    rw [step]
    split
    · exact h
    · next message rest hq => exact sound_update h ((h w).receiveSync hlaw hq)
  | kick w => exact sound_update h ((h w).reply hlaw)
  | backendEdit w c =>
    have hmore : am.changes (s.lines w).peer.doc ⊆ am.changes (am.change (s.lines w).peer.doc c) := by
      rw [hlaw.change]
      exact Set.subset_insert _ _
    refine sound_update h ⟨(h w).edits, fun entry hent => ?_, fun m hm => ?_, (h w).turn⟩
    · exact ((h w).theirHeads entry hent).trans hmore
    · exact ((h w).inbound m hm).trans hmore
  | forgetPeer =>
    exact fun w => ⟨(h w).edits, (h w).theirHeads, (h w).inbound, fun _ _ _ => .inr (.inl hlaw.init.2.2)⟩

theorem nothingLost_of_sound (h : ∀ w, Sound am (s.lines w)) : NothingLost am s := by
  intro _ w hqt c hc
  obtain ⟨entry, hent, hmem⟩ := (h w).edits c hc
  have hfe := hlaw.exhausted entry.doc entry.syncState _ (Prod.ext rfl (hqt.frontend entry hent))
  have hbe := hlaw.exhausted (s.lines w).peer.doc (s.lines w).peer.syncState _ (Prod.ext rfl hqt.backend)
  obtain ⟨-, -, htold, hsame⟩ := hfe
  obtain ⟨-, hresponded, -, hsame'⟩ := hbe
  cases hwtg : am.inFlight entry.syncState with
  | false =>
    refine (h w).theirHeads entry hent ?_
    rw [hsame hwtg]
    exact hmem
  | true =>
    obtain hans | hfresh | hheads := (h w).turn entry hent hwtg
    · exact absurd hqt.toFrontend hans
    · exact absurd (hresponded.symm.trans hfresh) (by decide)
    · rw [hqt.toBackend] at hheads
      obtain ⟨hidle, htheirs⟩ := hheads
      rw [← hsame' hidle, htheirs]
      exact htold hmem

/-- As long as no flush drains a message that the channel does not take, no edit is lost. -/
theorem run_nothingLost (seed : WorkspaceId → Doc) (events : List (Event Change))
    (hmts : ∀ before event, before ++ [event] <+: events → Meets am (run am seed before) event) :
    ∀ before, before <+: events → NothingLost am (run am seed before) := by
  intro before hbef
  refine nothingLost_of_sound hlaw ?_
  induction before using List.reverseRecOn with
  | nil =>
    exact fun w => ⟨by simp [run, new], by simp [run, new], by simp [run, new], by simp [run, new]⟩
  | append_singleton before event ih =>
    rw [run, foldl_concat]
    exact sound_step hlaw (ih ((prefix_append before [event]).trans hbef)) event (hmts before event hbef)

end Steps

end World

section Plain

/-- The sync state of a protocol that sends sets of changes as they are. -/
structure PlainState where
  sentHashes : Finset Nat
  lastSentHeads : Finset Nat
  theirHeads : Option (Finset Nat)
  inFlight : Bool
  haveResponded : Bool

structure PlainMessage where
  heads : Finset Nat
  changes : Finset Nat

def silent (doc : Finset Nat) (state : PlainState) : Bool :=
  state.lastSentHeads = doc && state.haveResponded && (state.theirHeads = some doc || state.inFlight)

/-- The changes that the peer lacks, without those that were offered before. -/
def toSend (doc : Finset Nat) (state : PlainState) : Finset Nat :=
  ((state.theirHeads.map (doc \ ·)).getD ∅) \ state.sentHashes

def generatePlain (doc : Finset Nat) (state : PlainState) : PlainState × Option PlainMessage :=
  if silent doc state then (state, none)
  else
    ({ state with
      sentHashes := state.sentHashes ∪ toSend doc state, lastSentHeads := doc, inFlight := true, haveResponded := true },
      some ⟨doc, toSend doc state⟩)

def receivePlain (doc : Finset Nat) (state : PlainState) (message : PlainMessage) : Finset Nat × PlainState :=
  (doc ∪ message.changes, { state with theirHeads := some message.heads, inFlight := false })

theorem generatePlain_some {doc : Finset Nat} {state state' : PlainState} {message : PlainMessage}
    (h : generatePlain doc state = (state', some message)) :
    silent doc state = false ∧ message = ⟨doc, toSend doc state⟩ ∧ state' = { state with
      sentHashes := state.sentHashes ∪ toSend doc state, lastSentHeads := doc, inFlight := true, haveResponded := true } := by
  unfold generatePlain at h
  split at h
  · cases h
  · next hsil =>
    obtain ⟨rfl, hmsg⟩ := Prod.mk.inj h
    exact ⟨by simpa using hsil, (Option.some.inj hmsg).symm, rfl⟩

def plain : Automerge (Finset Nat) PlainState PlainMessage Nat where
  init := ∅
  initSyncState := ⟨∅, ∅, none, false, false⟩
  change doc c := insert c doc
  generateSyncMessage := generatePlain
  receiveSyncMessage := receivePlain
  changes doc := doc
  heads message := message.heads
  lastSentHeads state := state.lastSentHeads
  theirHeads state := state.theirHeads.getD ∅
  inFlight state := state.inFlight
  haveResponded state := state.haveResponded
  offers doc state := if silent doc state then 0 else 1
  offers_lt := by
    intro doc state state' message h
    obtain ⟨hsil, -, rfl⟩ := generatePlain_some h
    have haft : silent doc { state with
        sentHashes := state.sentHashes ∪ toSend doc state, lastSentHeads := doc, inFlight := true,
        haveResponded := true } = true := by simp [silent]
    rw [haft, hsil]
    decide

theorem plain_lawful : plain.Lawful where
  change doc c := Finset.coe_insert c doc
  init := ⟨Finset.coe_empty, rfl, rfl⟩
  generated := by
    intro doc state state' message h
    obtain ⟨-, rfl, rfl⟩ := generatePlain_some h
    exact ⟨rfl, rfl, rfl⟩
  exhausted := by
    intro doc state state' h
    change generatePlain doc state = (state', none) at h
    unfold generatePlain at h
    split at h
    · next hsil =>
      obtain ⟨rfl, -⟩ := Prod.mk.inj h
      simp only [silent, Bool.and_eq_true, Bool.or_eq_true, decide_eq_true_eq] at hsil
      obtain ⟨⟨hlast, hresponded⟩, hidle⟩ := hsil
      refine ⟨rfl, hresponded, ?_, fun hfalse => ?_⟩
      · exact Finset.coe_subset.mpr hlast.symm.subset
      · have hheads := hidle.resolve_right (by simpa [plain] using hfalse)
        simp [plain, hheads]
    · cases h
  received := by
    intro doc state message
    exact ⟨Finset.coe_subset.mpr Finset.subset_union_left, rfl, rfl, rfl⟩

end Plain

namespace World

def greeting : List (Event Nat) :=
  [.controlOpen, .kick 0, .inbound 0, .animationFrame, .outbound 0, .inbound 0, .animationFrame, .outbound 0]

def edited : List (Event Nat) := greeting ++ [.edit 0 1, .animationFrame, .outbound 0, .inbound 0, .animationFrame]

def offline : List (Event Nat) := greeting ++ [.controlClose, .edit 0 1, .animationFrame, .controlOpen, .kick 0]

theorem run_nothingLost_edited : NothingLost plain (run plain (fun _ => {0}) edited) := by
  have hflush : ∀ before, (run plain (fun _ => {0}) before).isOpen = true →
      Meets plain (run plain (fun _ => {0}) before) .animationFrame :=
    fun before hopen hcld => absurd (hopen.symm.trans hcld) (by decide)
  refine run_nothingLost plain_lawful _ _ ?_ _ prefix_rfl
  simp only [edited, greeting, cons_append, nil_append, Runs.forall_prefix_cons]
  refine ⟨trivial, trivial, trivial, hflush _ ?_, trivial, trivial, hflush _ ?_, trivial, trivial, hflush _ ?_, trivial,
    trivial, hflush _ ?_, Runs.forall_prefix_nil⟩
  all_goals decide +kernel

theorem not_nothingLost_offline : plain.Lawful ∧ ¬NothingLost plain (run plain (fun _ => {0}) offline) := by
  refine ⟨plain_lawful, fun h => ?_⟩
  generalize hs : run plain (fun _ => {0}) offline = s at h
  have hent : (s.lines 0).entry.all fun e => (generatePlain e.doc e.syncState).2.isNone := by
    subst hs
    decide +kernel
  have hpeer : (generatePlain (s.lines 0).peer.doc (s.lines 0).peer.syncState).2.isNone = true := by
    subst hs
    decide +kernel
  have hemp : s.rafScheduled = false ∧ (s.lines 0).toBackend.isEmpty = true ∧ (s.lines 0).toFrontend.isEmpty = true := by
    subst hs
    decide +kernel
  have hqt : Quiesced plain s 0 := by
    refine ⟨hemp.1, isEmpty_iff.mp hemp.2.1, isEmpty_iff.mp hemp.2.2, Option.isNone_iff_eq_none.mp hpeer,
      fun e he => ?_⟩
    rw [he] at hent
    exact Option.isNone_iff_eq_none.mp hent
  have hedit : s.isOpen = true ∧ 1 ∈ (s.lines 0).edits ∧ 1 ∉ (s.lines 0).peer.doc := by
    subst hs
    decide +kernel
  exact hedit.2.2 (h hedit.1 0 hqt 1 hedit.2.1)

end World

end X11Web.WorkspaceSync
