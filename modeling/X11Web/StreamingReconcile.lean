import X11Web.Workspaces
import X11Web.Runs

namespace X11Web.StreamingReconcile

open HashMaps Windows ClientRenderer Workspaces

inductive Capture
  | start (w : WindowId)
  | stop (w : WindowId)
deriving DecidableEq

def Capture.window : Capture → WindowId
  | .start w => w
  | .stop w => w

def Capture.isStart : Capture → Bool
  | .start _ => true
  | .stop _ => false

/-- In how many workspaces each window has a node; a window without one has no
entry in the map, here a count of zero. -/
def newCounts (docs : WorkspaceDocs) (w : WindowId) : Nat :=
  (docs.keys.filter (fun ws => shows docs ws w = true)).card

/-- A call of `reconcile_streaming_after_change` that has read the counts. The
handler of a destroyed window removes the owner once its call returns. -/
structure Counted where
  destroyed : Option WindowId
  counts : WindowId → Nat
  version : Nat

/-- A call that has replaced the cached counts and has messages left to send, to
the owners that it looks up first. -/
structure Sending where
  destroyed : Option WindowId
  owners : Option (HashMap WindowId SidecarId)
  messages : List Capture

/-- A sidecar gets a new identifier with each connection. -/
inductive SidecarPhase
  | unseen
  | connected
  | gone
deriving DecidableEq

/-- The tables of the backend and the reconcile calls under way: those that have
yet to read the documents, those that have read them, and those that have
replaced the counts, the last ones in the order in which they did so. `version`
numbers the changes of the documents, `applied` is the version that the cached
counts were read from, `created` has every window there has been, and `sent` the
messages so far. -/
structure Streaming where
  workspaceDocs : WorkspaceDocs
  version : Nat
  streamingRefcount : WindowId → Nat
  applied : Nat
  windowOwner : HashMap WindowId SidecarId
  created : HashMap WindowId SidecarId
  sidecars : SidecarId → SidecarPhase
  called : List (Option WindowId)
  counted : List Counted
  sending : List Sending
  sent : List Capture

def Streaming.new : Streaming where
  workspaceDocs := ∅
  version := 0
  streamingRefcount := fun _ => 0
  applied := 0
  windowOwner := ∅
  created := ∅
  sidecars := fun _ => .unseen
  called := []
  counted := []
  sending := []
  sent := []

inductive Action
  | connect (sidecar : SidecarId)
  | disconnect (sidecar : SidecarId)
  | openWorkspace (ws : WorkspaceId)
  | sync (ws : WorkspaceId) (changes : List (NodeId × Option OcifNode))
  | attach (ws : WorkspaceId) (sidecar : SidecarId) (w : WindowId)
  | create (w : WindowId) (sidecar : SidecarId)
  | destroy (w : WindowId)
  | count (caller : Option WindowId)
  | apply (t : Counted) (starts stops : List WindowId)
  | lookUp (earlier : List Sending) (t : Sending)
  | send (earlier : List Sending) (t : Sending)
  | finish (t : Sending)

/-- A changed document, with the reconcile call that follows. -/
def changeDocs (docs : WorkspaceDocs) (caller : Option WindowId) (s : Streaming) : Streaming :=
  { s with
    workspaceDocs := docs
    version := s.version + 1
    called := s.called ++ [caller] }

def readCounts (caller : Option WindowId) (s : Streaming) : Counted :=
  ⟨caller, newCounts s.workspaceDocs, s.version⟩

def IsStarts (starts : List WindowId) (old new : WindowId → Nat) : Prop :=
  starts.Nodup ∧ ∀ w, w ∈ starts ↔ old w = 0 ∧ 0 < new w

def IsStops (stops : List WindowId) (old new : WindowId → Nat) : Prop :=
  stops.Nodup ∧ ∀ w, w ∈ stops ↔ 0 < old w ∧ new w = 0

/-- The sidecar that a message is sent to: the owner as looked up, if it is still
connected. -/
def recipient (owners : HashMap WindowId SidecarId) (c : Capture) (s : Streaming) : Option SidecarId :=
  (owners.lookup c.window).filter (fun sidecar => s.sidecars sidecar = .connected)

def sendToSidecar (owners : HashMap WindowId SidecarId) (c : Capture) (s : Streaming) : List Capture :=
  if (recipient owners c s).isSome then [c] else []

/-- The sections under a lock, in any order of the tasks. -/
inductive reconcileStep : Streaming → Action → Streaming → Prop
  | connect (s : Streaming) (sidecar : SidecarId) (hnew : s.sidecars sidecar = .unseen) :
      reconcileStep s (.connect sidecar)
        { s with sidecars := Function.update s.sidecars sidecar .connected }
  | disconnect (s : Streaming) (sidecar : SidecarId) (hthere : s.sidecars sidecar = .connected) :
      reconcileStep s (.disconnect sidecar)
        { s with sidecars := Function.update s.sidecars sidecar .gone }
  | openWorkspace (s : Streaming) (ws : WorkspaceId) (hnew : ws ∉ s.workspaceDocs) :
      reconcileStep s (.openWorkspace ws) { s with workspaceDocs := s.workspaceDocs.insert ws ∅ }
  | sync (s : Streaming) (ws : WorkspaceId) (changes : List (NodeId × Option OcifNode))
      (hws : ws ∈ s.workspaceDocs) :
      reconcileStep s (.sync ws changes)
        (changeDocs (modify ws (receiveSync changes) s.workspaceDocs) none s)
  | attach (s : Streaming) (ws : WorkspaceId) (sidecar : SidecarId) (w : WindowId) (doc : WorkspaceDoc)
      (hdoc : s.workspaceDocs.lookup ws = some doc)
      (hchgd : (attachWindowNode w sidecar doc).2 = true) :
      reconcileStep s (.attach ws sidecar w)
        (changeDocs (s.workspaceDocs.insert ws (attachWindowNode w sidecar doc).1) none s)
  | create (s : Streaming) (w : WindowId) (sidecar : SidecarId) (hnew : w ∉ s.created)
      (hconn : s.sidecars sidecar = .connected) :
      reconcileStep s (.create w sidecar) { s with
        windowOwner := s.windowOwner.insert w sidecar
        created := s.created.insert w sidecar }
  | destroy (s : Streaming) (w : WindowId) (hlive : w ∈ s.windowOwner) :
      reconcileStep s (.destroy w)
        (changeDocs (mapValues (fun doc => (detachWindowNode w doc).1) s.workspaceDocs) (some w) s)
  | count (s : Streaming) (caller : Option WindowId) (before after : List (Option WindowId))
      (hcalled : s.called = before ++ caller :: after) :
      reconcileStep s (.count caller) { s with
        called := before ++ after
        counted := s.counted ++ [readCounts caller s] }
  | apply (s : Streaming) (t : Counted) (starts stops : List WindowId) (before after : List Counted)
      (hctd : s.counted = before ++ t :: after)
      (hsts : IsStarts starts s.streamingRefcount t.counts)
      (hstops : IsStops stops s.streamingRefcount t.counts) :
      reconcileStep s (.apply t starts stops) { s with
        counted := before ++ after
        streamingRefcount := t.counts
        applied := t.version
        sending := s.sending ++ [⟨t.destroyed, none, starts.map .start ++ stops.map .stop⟩] }
  | lookUp (s : Streaming) (t : Sending) (earlier later : List Sending)
      (hsndg : s.sending = earlier ++ t :: later) (hfst : t.owners = none) :
      reconcileStep s (.lookUp earlier t) { s with
        sending := earlier ++ { t with owners := some s.windowOwner } :: later }
  | send (s : Streaming) (t : Sending) (earlier later : List Sending)
      (owners : HashMap WindowId SidecarId) (c : Capture) (rest : List Capture)
      (hsndg : s.sending = earlier ++ t :: later) (howners : t.owners = some owners)
      (hmsgs : t.messages = c :: rest) :
      reconcileStep s (.send earlier t) { s with
        sending := earlier ++ { t with messages := rest } :: later
        sent := s.sent ++ sendToSidecar owners c s }
  | finish (s : Streaming) (t : Sending) (earlier later : List Sending)
      (hsndg : s.sending = earlier ++ t :: later) (howners : t.owners ≠ none)
      (hdone : t.messages = []) :
      reconcileStep s (.finish t) { s with
        sending := earlier ++ later
        windowOwner := t.destroyed.elim s.windowOwner (fun w => s.windowOwner.erase w) }

def Quiescent (s : Streaming) : Prop := s.called = [] ∧ s.counted = [] ∧ s.sending = []

def kinds (w : WindowId) (cs : List Capture) : List Bool :=
  (cs.filter (fun c => c.window == w)).map Capture.isStart

theorem kinds_append (w : WindowId) (cs cs' : List Capture) :
    kinds w (cs ++ cs') = kinds w cs ++ kinds w cs' := by
  simp [kinds]

theorem newCounts_pos {docs : WorkspaceDocs} {w : WindowId} :
    0 < newCounts docs w ↔ attached docs w = true := by
  simp [newCounts, attached, Finset.card_pos, Finset.Nonempty]

theorem attached_openWorkspace {docs : WorkspaceDocs} {ws : WorkspaceId} (hnew : ws ∉ docs) (w : WindowId) :
    attached (docs.insert ws ∅) w = attached docs w := by
  rw [Bool.eq_iff_iff, attached_iff, attached_iff]
  simp only [nodeAt_openWorkspace hnew]

end X11Web.StreamingReconcile
