import X11Web.AutoAttach
import X11Web.CanvasDocs
import X11Web.WindowTracker

namespace X11Web.SidecarCleanup

open HashMaps Protocol CanvasDocs WindowTracker List Finmap
open AutoAttach (SidecarKind)

structure SidecarConnection where
  info : SidecarInfo
  kind : SidecarKind
deriving DecidableEq

/-- The latest frame of each window, by client. A frame is kept as what it encodes. -/
abbrev FramesByClient := HashMap String (HashMap String DisplayUpdate)

abbrev WorkspaceDocs := HashMap String WorkspaceDoc

/-- The registries of the backend, without the frontends' connections. -/
structure AppState where
  sidecars : HashMap String SidecarConnection
  workspaces : HashMap String Workspace
  processes : Processes
  tracker : Tracker
  displayBuffers : HashMap String (List WindowUpdate)
  pixelBuffers : FramesByClient
  thumbnailBuffers : FramesByClient
  streamingRefcount : HashMap String Nat
  windowOwner : HashMap String String
  pendingSpawns : HashMap String String
  spawnOrigin : HashMap (String × UInt32) String
  workspaceDocs : WorkspaceDocs

def AppState.new : AppState := ⟨∅, ∅, ∅, .new, ∅, ∅, ∅, ∅, ∅, ∅, ∅, ∅⟩

def attachedIds (docs : WorkspaceDocs) : List String :=
  (docs.keys.sort (· ≤ ·)).flatMap (fun ws => ((docs.lookup ws).map windowNodeIds).getD [])

def countIds (ids : List String) : HashMap String Nat :=
  ids.foldl (fun counts w => counts.insert w ((counts.lookup w).getD 0 + 1)) ∅

def reconcileStreamingAfterChange (s : AppState) : AppState :=
  { s with streamingRefcount := countIds (attachedIds s.workspaceDocs) }

/-- Attach a window that is tracked, to a workspace that has a document. -/
def backendAttachWindow (workspaceId sidecarId windowId : String) (s : AppState) : AppState :=
  if ∃ k ∈ s.tracker.windowTrack.keys, k.2.2 = windowId then
    match s.workspaceDocs.lookup workspaceId with
    | none => s
    | some entry =>
      let (nodes, changed) := attachWindowNode windowId sidecarId entry
      if changed then
        reconcileStreamingAfterChange { s with workspaceDocs := s.workspaceDocs.insert workspaceId nodes }
      else s
  else s

def autoStreams (sidecarId : String) (s : AppState) : Bool :=
  (((s.sidecars.lookup sidecarId).map SidecarConnection.kind).getD .unknown).autoStreams

def attached (w : String) (s : AppState) : Bool := decide (w ∈ attachedIds s.workspaceDocs)

/-- `order` is the iteration order of the tracker. -/
def attachWindowsForNewClient (order : List WindowKey) (sidecarId clientId : String) (pid : UInt32)
    (s : AppState) : AppState :=
  if autoStreams sidecarId s then
    match s.spawnOrigin.lookup (sidecarId, pid) with
    | none => s
    | some workspaceId =>
      let unattached := order.filter (fun k => k.1 == sidecarId && k.2.1 == clientId &&
        (s.tracker.windowTrack.lookup k).any (fun w => !w.overrideRedirect) && !attached k.2.2 s)
      unattached.foldl (fun s k => backendAttachWindow workspaceId sidecarId k.2.2 s) s
  else s

def onWindowCreated (sidecarId clientId windowId : String) (overrideRedirect : Bool) (s : AppState) : AppState :=
  let s := { s with windowOwner := s.windowOwner.insert windowId sidecarId }
  if !overrideRedirect && autoStreams sidecarId s then
    let pid := (s.processes.lookup sidecarId).bind
      (fun list => (list.find? (fun p => p.clientId == clientId)).map (·.pid))
    match pid.bind (fun pid => s.spawnOrigin.lookup (sidecarId, pid)) with
    | none => s
    | some workspaceId => backendAttachWindow workspaceId sidecarId windowId s
  else s

def onWindowDestroyed (windowId : String) (s : AppState) : AppState :=
  let s := reconcileStreamingAfterChange
    { s with workspaceDocs := mapValues (fun nodes => (detachWindowNode windowId nodes).1) s.workspaceDocs }
  { s with windowOwner := s.windowOwner.erase windowId }

/-- A configured window changes the geometry of its nodes only. -/
def onWindowLifecycleAfter (sidecarId clientId : String) (update : DisplayUpdate) (s : AppState) : AppState :=
  match update with
  | .windowCreated windowId _ _ _ _ _ overrideRedirect _ _ _ =>
    onWindowCreated sidecarId clientId windowId overrideRedirect s
  | .windowDestroyed windowId => onWindowDestroyed windowId s
  | _ => s

def bufferFrame (clientId windowId : String) (frame : DisplayUpdate) (bufs : FramesByClient) : FramesByClient :=
  bufs.insert clientId (((bufs.lookup clientId).getD ∅).insert windowId frame)

def pushUpdate (clientId : String) (msg : WindowUpdate) (s : AppState) : AppState :=
  { s with displayBuffers :=
      s.displayBuffers.insert clientId ((s.displayBuffers.lookup clientId).getD [] ++ [msg]) }

def bufferUpdate (clientId : String) (update : DisplayUpdate) (s : AppState) : AppState :=
  match update with
  | .putImage windowId .. => { s with pixelBuffers := bufferFrame clientId windowId update s.pixelBuffers }
  | .windowThumbnail windowId .. =>
    { s with thumbnailBuffers := bufferFrame clientId windowId update s.thumbnailBuffers }
  | .titleChanged windowId title => pushUpdate clientId (.titleChanged windowId title) s
  | .windowStateChanged windowId state => pushUpdate clientId (.stateChanged windowId state) s
  | .windowFocused windowId => pushUpdate clientId (.focused windowId) s
  | .menuStructure windowId menu => pushUpdate clientId (.menuStructure windowId menu) s
  | _ => s

def displayUpdate (sidecarId clientId : String) (update : DisplayUpdate) (s : AppState) : AppState :=
  let (tracker, absorbed) := applyWindowLifecycle sidecarId clientId s.tracker update
  if absorbed then onWindowLifecycleAfter sidecarId clientId update { s with tracker }
  else bufferUpdate clientId update s

def connectProcess (sidecarId : String) (pid : UInt32) (clientId command : String) (s : AppState) : AppState :=
  let list := ((s.processes.lookup sidecarId).getD []).filter (fun p => p.clientId != clientId)
  { s with processes := s.processes.insert sidecarId (list ++ [⟨pid, clientId, command⟩]) }

def dispatchSidecarMsg (order : List WindowKey) (sidecarId : String) (s : AppState) : SidecarToBackend → AppState
  | .processSpawned requestId pid =>
    match s.pendingSpawns.lookup requestId with
    | none => s
    | some workspaceId => { s with
        pendingSpawns := s.pendingSpawns.erase requestId
        spawnOrigin := s.spawnOrigin.insert (sidecarId, pid) workspaceId }
  | .processConnected pid clientId command =>
    attachWindowsForNewClient order sidecarId clientId pid (connectProcess sidecarId pid clientId command s)
  | .displayUpdate clientId update => displayUpdate sidecarId clientId update s
  | .heartbeat | .processKilled .. | .processExited .. | .processList .. | .error .. => s

/-- `newId` is the identifier of the workspace that is made. -/
def openOrCreateWorkspace (newId : String) (requestedId : Option String) (s : AppState) : AppState :=
  if requestedId.any (fun id => decide (id ∈ s.workspaces)) then s
  else
    let name := "Workspace " ++ toString (s.workspaces.keys.card + 1)
    { s with
      workspaces := s.workspaces.insert newId ⟨newId, name⟩
      workspaceDocs := if newId ∈ s.workspaceDocs then s.workspaceDocs else s.workspaceDocs.insert newId ∅ }

def handleFrontendMsg (newId : String) (s : AppState) : FrontendToBackend → AppState
  | .openWorkspace id => openOrCreateWorkspace newId id s
  | .spawnProcess requestId _ workspaceId _ _ =>
    { s with pendingSpawns := s.pendingSpawns.insert requestId workspaceId }
  | _ => s

def workspaceSync (workspaceId : String) (changes : List (NodeId × Option OcifNode)) (s : AppState) : AppState :=
  if workspaceId ∈ s.workspaceDocs then
    reconcileStreamingAfterChange
      { s with workspaceDocs := modify workspaceId (receiveSync changes) s.workspaceDocs }
  else s

def cleanupSidecar (sidecarId : String) (s : AppState) : AppState :=
  let clientIds := ((s.processes.lookup sidecarId).getD []).map (·.clientId)
  { s with
    sidecars := s.sidecars.erase sidecarId
    processes := s.processes.erase sidecarId
    displayBuffers := eraseAll clientIds s.displayBuffers
    pixelBuffers := eraseAll clientIds s.pixelBuffers
    thumbnailBuffers := eraseAll clientIds s.thumbnailBuffers
    tracker := (dropSidecarWindows sidecarId s.tracker).1 }

inductive Event
  | connected (sidecarId : String) (connection : SidecarConnection)
  | message (sidecarId : String) (order : List WindowKey) (msg : SidecarToBackend)
  | disconnected (sidecarId : String)
  | frontend (newId : String) (msg : FrontendToBackend)
  | sync (workspaceId : String) (changes : List (NodeId × Option OcifNode))

def AppState.next (s : AppState) : Event → AppState
  | .connected sidecarId connection => { s with sidecars := s.sidecars.insert sidecarId connection }
  | .message sidecarId order msg => dispatchSidecarMsg order sidecarId s msg
  | .disconnected sidecarId => cleanupSidecar sidecarId s
  | .frontend newId msg => handleFrontendMsg newId s msg
  | .sync workspaceId changes => workspaceSync workspaceId changes s

def reached (events : List Event) : AppState := events.foldl AppState.next .new

def clientOf : SidecarToBackend → Option String
  | .processConnected _ clientId _ | .displayUpdate clientId _ => some clientId
  | _ => none

def ClientOf (sidecarId : String) (events : List Event) (clientId : String) : Prop :=
  ∃ order msg, Event.message sidecarId order msg ∈ events ∧ clientOf msg = some clientId

def NodeOf (sidecarId : String) (owner : HashMap String String) (id : NodeId) (n : OcifNode) : Prop :=
  ∃ ext, n.window = some ext ∧
    (ext.sidecarId = sidecarId ∨ owner.lookup ext.windowId = some sidecarId ∨ owner.lookup id = some sidecarId)

def nodeAt (docs : WorkspaceDocs) (ws : String) (id : NodeId) : Option OcifNode :=
  (docs.lookup ws).bind (fun nodes => nodes.lookup id)

def shownIn (docs : WorkspaceDocs) (w : String) : Nat :=
  (docs.keys.filter (fun ws => (nodeAt docs ws w).any (fun n => n.window.isSome) = true)).card

def CountsAgree (s : AppState) : Prop :=
  ∀ w, s.streamingRefcount.lookup w = if shownIn s.workspaceDocs w = 0 then none else some (shownIn s.workspaceDocs w)

/-- No registry refers to the sidecar, after these events. -/
structure NothingLeft (sidecarId : String) (events : List Event) (owner : HashMap String String)
    (s : AppState) : Prop where
  sidecars : sidecarId ∉ s.sidecars
  processes : sidecarId ∉ s.processes
  windowTrack : ∀ k ∈ s.tracker.windowTrack, k.1 ≠ sidecarId
  windowOrder : ∀ k ∈ s.tracker.windowOrder, k.1 ≠ sidecarId
  windowOwner : ∀ w, s.windowOwner.lookup w ≠ some sidecarId
  spawnOrigin : ∀ pid, (sidecarId, pid) ∉ s.spawnOrigin
  buffers : ∀ c, ClientOf sidecarId events c →
    c ∉ s.displayBuffers ∧ c ∉ s.pixelBuffers ∧ c ∉ s.thumbnailBuffers
  nodes : ∀ ws id n, nodeAt s.workspaceDocs ws id = some n → ¬ NodeOf sidecarId owner id n
  counts : CountsAgree s

structure OthersKept (sidecarId : String) (events : List Event) (s s' : AppState) : Prop where
  sidecars : ∀ s₀, s₀ ≠ sidecarId → s'.sidecars.lookup s₀ = s.sidecars.lookup s₀
  processes : ∀ s₀, s₀ ≠ sidecarId → s'.processes.lookup s₀ = s.processes.lookup s₀
  windowTrack : ∀ k, k.1 ≠ sidecarId → s'.tracker.windowTrack.lookup k = s.tracker.windowTrack.lookup k
  windowOrder : s'.tracker.windowOrder.filter (fun k => k.1 != sidecarId) =
    s.tracker.windowOrder.filter (fun k => k.1 != sidecarId)
  windowOwner : ∀ w, s.windowOwner.lookup w ≠ some sidecarId → s'.windowOwner.lookup w = s.windowOwner.lookup w
  spawnOrigin : ∀ k, k.1 ≠ sidecarId → s'.spawnOrigin.lookup k = s.spawnOrigin.lookup k
  buffers : ∀ c, ¬ ClientOf sidecarId events c → s'.displayBuffers.lookup c = s.displayBuffers.lookup c ∧
    s'.pixelBuffers.lookup c = s.pixelBuffers.lookup c ∧ s'.thumbnailBuffers.lookup c = s.thumbnailBuffers.lookup c
  nodes : ∀ ws id n, nodeAt s.workspaceDocs ws id = some n → ¬ NodeOf sidecarId s.windowOwner id n →
    nodeAt s'.workspaceDocs ws id = some n
  rest : s'.workspaces = s.workspaces ∧ s'.pendingSpawns = s.pendingSpawns

def LeavesNothing (sidecarId : String) (events : List Event) : Prop :=
  NothingLeft sidecarId events (reached events).windowOwner (reached (events ++ [.disconnected sidecarId])) ∧
    OthersKept sidecarId events (reached events) (reached (events ++ [.disconnected sidecarId]))

/-- The sidecar that last created the window, unless it was destroyed since. -/
def creator (w : String) (owner : Option String) : Event → Option String
  | .message sidecarId _ (.displayUpdate _ (.windowCreated windowId ..)) =>
    if windowId = w then some sidecarId else owner
  | .message _ _ (.displayUpdate _ (.windowDestroyed windowId)) => if windowId = w then none else owner
  | _ => owner

/-- No window that the sidecar created is left to it, no process of it was spawned for a
workspace, no document has a node of it, and its clients with buffers are all in its
list of processes. -/
structure Leavable (sidecarId : String) (events : List Event) : Prop where
  windows : ∀ w, events.foldl (creator w) none ≠ some sidecarId
  spawns : ∀ before order requestId pid,
    before ++ [.message sidecarId order (.processSpawned requestId pid)] <+: events →
      requestId ∉ (reached before).pendingSpawns
  nodes : ∀ ws id n, nodeAt (reached events).workspaceDocs ws id = some n →
    n.window.any (fun ext => ext.sidecarId == sidecarId) = false
  buffers : ∀ c, ClientOf sidecarId events c →
    c ∈ (reached events).displayBuffers ∨ c ∈ (reached events).pixelBuffers ∨ c ∈ (reached events).thumbnailBuffers →
      ∃ list, (reached events).processes.lookup sidecarId = some list ∧ ∃ p ∈ list, p.clientId = c

variable {s s' s'' : AppState} {sidecarId : String} {events : List Event} {docs : WorkspaceDocs} {w : String}

section Counting

theorem lookup_countIds (ids : List String) (w : String) :
    (countIds ids).lookup w = if ids.count w = 0 then none else some (ids.count w) := by
  induction ids using List.reverseRecOn with
  | nil => rfl
  | append_singleton ids id ih =>
    rw [countIds, foldl_concat, lookup_insert_eq, count_append, count_singleton]
    by_cases hw : w = id
    · subst hw
      rw [if_pos rfl, beq_self_eq_true, if_pos rfl, if_neg (Nat.succ_ne_zero _), Option.some.injEq]
      change ((countIds ids).lookup w).getD 0 + 1 = _
      rw [ih]
      split
      · next hzero => rw [hzero]; rfl
      · rfl
    · rw [if_neg hw, beq_false_of_ne (Ne.symm hw)]
      exact ih

theorem count_windowNodeIds (nodes : WorkspaceDoc) (w : String) :
    (windowNodeIds nodes).count w = if (nodes.lookup w).any (fun n => n.window.isSome) = true then 1 else 0 := by
  have hnd : (windowNodeIds nodes).Nodup := (Finset.sort_nodup _ _).filter _
  rw [hnd.count, windowNodeIds]
  simp only [List.mem_filter, Finset.mem_sort, Finmap.mem_keys]
  congr 1
  refine propext (and_iff_right_of_imp fun hw => ?_)
  cases hn : nodes.lookup w with
  | none => simp [hn] at hw
  | some n => exact mem_iff.mpr ⟨n, hn⟩

theorem count_attachedIds (docs : WorkspaceDocs) (w : String) : (attachedIds docs).count w = shownIn docs w := by
  have hone (ws : String) : (((docs.lookup ws).map windowNodeIds).getD []).count w =
      if (nodeAt docs ws w).any (fun n => n.window.isSome) = true then 1 else 0 := by
    rw [nodeAt]
    cases docs.lookup ws with
    | none => rfl
    | some nodes => exact count_windowNodeIds nodes w
  rw [attachedIds, count_flatMap, shownIn]
  have hsum (l : List String) :
      (l.map fun ws => (((docs.lookup ws).map windowNodeIds).getD []).count w).sum =
        (l.filter fun ws => (nodeAt docs ws w).any fun n => n.window.isSome).length := by
    induction l with
    | nil => rfl
    | cons ws l ih =>
      rw [map_cons, sum_cons, ih, hone, filter_cons]
      split
      · rw [length_cons, Nat.add_comm]
      · exact Nat.zero_add _
  refine (hsum _).trans ?_
  rw [← toFinset_card_of_nodup ((Finset.sort_nodup _ _).filter _), toFinset_filter, Finset.sort_toFinset]

theorem countsAgree_reconcile (s : AppState) : CountsAgree (reconcileStreamingAfterChange s) := by
  intro w
  dsimp only [reconcileStreamingAfterChange]
  rw [lookup_countIds, count_attachedIds]
  rfl

end Counting

section Attaching

structure Attaches (s s' : AppState) : Prop where
  rest : ∃ streamingRefcount workspaceDocs, s' = { s with streamingRefcount, workspaceDocs }
  counts : CountsAgree s → CountsAgree s'

theorem Attaches.refl (s : AppState) : Attaches s s := ⟨⟨_, _, rfl⟩, id⟩

theorem Attaches.trans (h : Attaches s s') (h' : Attaches s' s'') : Attaches s s'' := by
  obtain ⟨counts, docs, rfl⟩ := h.rest
  obtain ⟨counts', docs', rfl⟩ := h'.rest
  exact ⟨⟨counts', docs', rfl⟩, h'.counts ∘ h.counts⟩

theorem attaches_backendAttachWindow (workspaceId sidecarId windowId : String) (s : AppState) :
    Attaches s (backendAttachWindow workspaceId sidecarId windowId s) := by
  rw [backendAttachWindow]
  split
  · cases s.workspaceDocs.lookup workspaceId with
    | none => exact .refl s
    | some entry =>
      dsimp only
      split
      · exact ⟨⟨_, _, rfl⟩, fun _ => countsAgree_reconcile _⟩
      · exact .refl s
  · exact .refl s

theorem attaches_attachWindowsForNewClient (order : List WindowKey) (sidecarId clientId : String) (pid : UInt32)
    (s : AppState) : Attaches s (attachWindowsForNewClient order sidecarId clientId pid s) := by
  rw [attachWindowsForNewClient]
  split
  · cases s.spawnOrigin.lookup (sidecarId, pid) with
    | none => exact .refl s
    | some workspaceId =>
      dsimp only
      refine List.foldlRecOn (motive := Attaches s) _ _ (.refl s) fun s' h k _ => ?_
      exact h.trans (attaches_backendAttachWindow workspaceId sidecarId k.2.2 s')
  · exact .refl s

theorem attaches_onWindowCreated (sidecarId clientId windowId : String) (overrideRedirect : Bool) (s : AppState) :
    Attaches { s with windowOwner := s.windowOwner.insert windowId sidecarId }
      (onWindowCreated sidecarId clientId windowId overrideRedirect s) := by
  rw [onWindowCreated]
  dsimp only
  split
  · split
    · exact .refl _
    · exact attaches_backendAttachWindow _ _ _ _
  · exact .refl _

end Attaching

section Steps

theorem processConnected_fields (order : List WindowKey) (sidecarId clientId command : String) (pid : UInt32)
    (s : AppState) :
    let s' := attachWindowsForNewClient order sidecarId clientId pid (connectProcess sidecarId pid clientId command s)
    s'.processes = (connectProcess sidecarId pid clientId command s).processes ∧ s'.spawnOrigin = s.spawnOrigin ∧
      s'.windowOwner = s.windowOwner := by
  obtain ⟨_, _, heq⟩ := (attaches_attachWindowsForNewClient order sidecarId clientId pid
    (connectProcess sidecarId pid clientId command s)).rest
  rw [heq]
  exact ⟨rfl, rfl, rfl⟩

theorem displayUpdate_fields (sidecarId clientId : String) (order : List WindowKey) (update : DisplayUpdate)
    (s : AppState) :
    let s' := displayUpdate sidecarId clientId update s
    s'.processes = s.processes ∧ s'.spawnOrigin = s.spawnOrigin ∧ ∀ w, s'.windowOwner.lookup w =
      creator w (s.windowOwner.lookup w) (.message sidecarId order (.displayUpdate clientId update)) := by
  cases update with
  | windowCreated windowId x y width height isTopLevel overrideRedirect =>
    obtain ⟨_, _, heq⟩ := (attaches_onWindowCreated sidecarId clientId windowId overrideRedirect
      { s with tracker := (applyWindowLifecycle sidecarId clientId s.tracker (.windowCreated windowId x y width height
        isTopLevel overrideRedirect _ _ _)).1 }).rest
    have hfields := congrArg (fun s : AppState => (s.processes, s.spawnOrigin)) heq
    refine ⟨(Prod.mk.inj hfields).1, (Prod.mk.inj hfields).2, fun w => ?_⟩
    refine (congrArg (fun s : AppState => s.windowOwner.lookup w) heq).trans ?_
    dsimp only [creator]
    rw [lookup_insert_eq]
    simp only [eq_comm]
  | windowDestroyed windowId =>
    refine ⟨rfl, rfl, fun w => (lookup_erase_eq _ _ _).trans ?_⟩
    dsimp only [creator, reconcileStreamingAfterChange]
    simp only [eq_comm]
  | _ => exact ⟨rfl, rfl, fun _ => rfl⟩

theorem windowOwner_next (s : AppState) (e : Event) (w : String) :
    (s.next e).windowOwner.lookup w = creator w (s.windowOwner.lookup w) e := by
  cases e with
  | message sidecarId order msg =>
    cases msg with
    | processSpawned requestId pid =>
      dsimp only [AppState.next, dispatchSidecarMsg, creator]
      split <;> rfl
    | processConnected pid clientId command =>
      rw [AppState.next, dispatchSidecarMsg, (processConnected_fields order sidecarId clientId command pid s).2.2]
      rfl
    | displayUpdate clientId update => exact (displayUpdate_fields sidecarId clientId order update s).2.2 w
    | _ => rfl
  | frontend newId msg =>
    cases msg with
    | openWorkspace id =>
      dsimp only [AppState.next, handleFrontendMsg, openOrCreateWorkspace, creator]
      split <;> rfl
    | _ => rfl
  | sync workspaceId changes =>
    dsimp only [AppState.next, workspaceSync, creator]
    split <;> rfl
  | _ => rfl

theorem mem_spawnOrigin_next (s : AppState) (e : Event) (sidecarId : String) (pid : UInt32) :
    (sidecarId, pid) ∈ (s.next e).spawnOrigin ↔ (sidecarId, pid) ∈ s.spawnOrigin ∨
      ∃ order requestId, e = .message sidecarId order (.processSpawned requestId pid) ∧
        requestId ∈ s.pendingSpawns := by
  have hsame (s' : AppState) (heq : s'.spawnOrigin = s.spawnOrigin)
      (hoth : ∀ order requestId, e ≠ .message sidecarId order (.processSpawned requestId pid)) :
      (sidecarId, pid) ∈ s'.spawnOrigin ↔ (sidecarId, pid) ∈ s.spawnOrigin ∨
        ∃ order requestId, e = .message sidecarId order (.processSpawned requestId pid) ∧
          requestId ∈ s.pendingSpawns := by
    rw [heq, or_iff_left]
    rintro ⟨order, requestId, he, -⟩
    exact hoth order requestId he
  cases e with
  | message sidecarId' order msg =>
    cases msg with
    | processSpawned requestId pid' =>
      dsimp only [AppState.next, dispatchSidecarMsg]
      cases hpend : s.pendingSpawns.lookup requestId with
      | none =>
        refine (or_iff_left ?_).symm
        rintro ⟨order', requestId', he, hmem⟩
        cases he
        exact lookup_eq_none.mp hpend hmem
      | some workspaceId =>
        dsimp only
        have hmem : requestId ∈ s.pendingSpawns := mem_iff.mpr ⟨workspaceId, hpend⟩
        rw [mem_insert, or_comm]
        refine or_congr_right ?_
        constructor
        · intro heq
          cases heq
          exact ⟨order, requestId, rfl, hmem⟩
        · rintro ⟨order', requestId', he, -⟩
          cases he
          rfl
    | processConnected pid' clientId command =>
      exact hsame _ (processConnected_fields order sidecarId' clientId command pid' s).2.1 fun _ _ h => by cases h
    | displayUpdate clientId update =>
      exact hsame _ (displayUpdate_fields sidecarId' clientId [] update s).2.1 fun _ _ h => by cases h
    | _ => exact hsame _ rfl fun _ _ h => by cases h
  | frontend newId msg =>
    refine hsame _ ?_ fun _ _ h => by cases h
    cases msg with
    | openWorkspace id =>
      dsimp only [AppState.next, handleFrontendMsg, openOrCreateWorkspace]
      split <;> rfl
    | _ => rfl
  | sync workspaceId changes =>
    refine hsame _ ?_ fun _ _ h => by cases h
    dsimp only [AppState.next, workspaceSync]
    split <;> rfl
  | _ => exact hsame _ rfl fun _ _ h => by cases h

theorem processes_next {e : Event} {list : List ProcessInfo} {p : ProcessInfo}
    (hlist : (s.next e).processes.lookup sidecarId = some list) (hp : p ∈ list) :
    (∃ list', s.processes.lookup sidecarId = some list' ∧ p ∈ list') ∨
      ∃ order, e = .message sidecarId order (.processConnected p.pid p.clientId p.command) := by
  cases e with
  | message sidecarId' order msg =>
    cases msg with
    | processSpawned requestId pid =>
      dsimp only [AppState.next, dispatchSidecarMsg] at hlist
      split at hlist
      · exact .inl ⟨list, hlist, hp⟩
      · exact .inl ⟨list, hlist, hp⟩
    | processConnected pid clientId command =>
      dsimp only [AppState.next, dispatchSidecarMsg] at hlist
      rw [(processConnected_fields order sidecarId' clientId command pid s).1, connectProcess, lookup_insert_eq]
        at hlist
      split at hlist
      · next hsc =>
        subst hsc
        rw [← Option.some.inj hlist, List.mem_append, List.mem_filter, List.mem_singleton] at hp
        obtain ⟨hp, -⟩ | rfl := hp
        · cases hold : s.processes.lookup sidecarId with
          | none => simp [hold] at hp
          | some list' =>
            rw [hold] at hp
            exact .inl ⟨list', rfl, hp⟩
        · exact .inr ⟨order, rfl⟩
      · exact .inl ⟨list, hlist, hp⟩
    | displayUpdate clientId update =>
      dsimp only [AppState.next, dispatchSidecarMsg] at hlist
      rw [(displayUpdate_fields sidecarId' clientId [] update s).1] at hlist
      exact .inl ⟨list, hlist, hp⟩
    | _ => exact .inl ⟨list, hlist, hp⟩
  | disconnected sidecarId' =>
    dsimp only [AppState.next, cleanupSidecar] at hlist
    rw [lookup_erase_eq] at hlist
    split at hlist
    · cases hlist
    · exact .inl ⟨list, hlist, hp⟩
  | frontend newId msg =>
    cases msg with
    | openWorkspace id =>
      dsimp only [AppState.next, handleFrontendMsg, openOrCreateWorkspace] at hlist
      split at hlist
      · exact .inl ⟨list, hlist, hp⟩
      · exact .inl ⟨list, hlist, hp⟩
    | _ => exact .inl ⟨list, hlist, hp⟩
  | sync workspaceId changes =>
    dsimp only [AppState.next, workspaceSync] at hlist
    split at hlist
    · exact .inl ⟨list, hlist, hp⟩
    · exact .inl ⟨list, hlist, hp⟩
  | connected sidecarId' connection => exact .inl ⟨list, hlist, hp⟩

theorem shownIn_congr {docs' : WorkspaceDocs} (h : ∀ ws, nodeAt docs' ws w = nodeAt docs ws w) :
    shownIn docs' w = shownIn docs w := by
  have hpresent (docs : WorkspaceDocs) (ws : String)
      (hnode : (nodeAt docs ws w).any (fun n => n.window.isSome) = true) : ws ∈ docs.keys := by
    cases hdoc : docs.lookup ws with
    | none => simp [nodeAt, hdoc] at hnode
    | some nodes => exact Finmap.mem_keys.mpr (mem_iff.mpr ⟨nodes, hdoc⟩)
  rw [shownIn, shownIn]
  congr 1
  ext ws
  rw [Finset.mem_filter, Finset.mem_filter, h ws]
  refine and_congr_left fun hnode => iff_of_true (hpresent docs' ws ?_) (hpresent docs ws hnode)
  rw [h ws]
  exact hnode

theorem countsAgree_displayUpdate (sidecarId clientId : String) (update : DisplayUpdate) (h : CountsAgree s) :
    CountsAgree (displayUpdate sidecarId clientId update s) := by
  cases update with
  | windowCreated => exact (attaches_onWindowCreated _ _ _ _ _).counts h
  | windowDestroyed => exact countsAgree_reconcile _
  | _ => exact h

theorem countsAgree_next (h : CountsAgree s) (e : Event) : CountsAgree (s.next e) := by
  cases e with
  | message sidecarId order msg =>
    cases msg with
    | processSpawned requestId pid =>
      dsimp only [AppState.next, dispatchSidecarMsg]
      split
      · exact h
      · exact h
    | processConnected => exact (attaches_attachWindowsForNewClient _ _ _ _ _).counts h
    | displayUpdate clientId update => exact countsAgree_displayUpdate sidecarId clientId update h
    | _ => exact h
  | frontend newId msg =>
    cases msg with
    | openWorkspace id =>
      dsimp only [AppState.next, handleFrontendMsg, openOrCreateWorkspace]
      split
      · exact h
      · refine fun w => (h w).trans ?_
        suffices hshown : shownIn (if newId ∈ s.workspaceDocs then s.workspaceDocs
            else s.workspaceDocs.insert newId ∅) w = shownIn s.workspaceDocs w by rw [hshown]
        split
        · rfl
        · next hnew =>
          refine shownIn_congr fun ws => ?_
          rw [nodeAt, nodeAt, lookup_insert_eq]
          split
          · next hws =>
            rw [hws, lookup_eq_none.mpr hnew]
            rfl
          · rfl
    | _ => exact h
  | sync workspaceId changes =>
    dsimp only [AppState.next, workspaceSync]
    split
    · exact countsAgree_reconcile _
    · exact h
  | _ => exact h

end Steps

section Runs

theorem reached_concat (events : List Event) (e : Event) : reached (events ++ [e]) = (reached events).next e :=
  foldl_concat ..

theorem countsAgree_reached (events : List Event) : CountsAgree (reached events) := by
  induction events using List.reverseRecOn with
  | nil => exact fun w => rfl
  | append_singleton events e ih =>
    rw [reached_concat]
    exact countsAgree_next ih e

theorem windowOwner_reached (events : List Event) (w : String) :
    (reached events).windowOwner.lookup w = events.foldl (creator w) none := by
  induction events using List.reverseRecOn with
  | nil => rfl
  | append_singleton events e ih => rw [reached_concat, windowOwner_next, ih, foldl_concat]

theorem spawnOrigin_reached (sidecarId : String) (events : List Event) :
    (∀ pid, (sidecarId, pid) ∉ (reached events).spawnOrigin) ↔ ∀ before e, before ++ [e] <+: events →
      ∀ order requestId pid, e = .message sidecarId order (.processSpawned requestId pid) →
        requestId ∉ (reached before).pendingSpawns := by
  induction events using List.reverseRecOn with
  | nil => exact iff_of_true (fun pid => notMem_empty) Runs.forall_prefix_nil
  | append_singleton events e ih =>
    rw [Runs.forall_prefix_concat, ← ih, reached_concat]
    simp only [mem_spawnOrigin_next, not_or, forall_and, not_exists, not_and]
    refine and_congr_right fun _ => ?_
    refine ⟨fun h order requestId pid => h pid order requestId, fun h pid order requestId => ?_⟩
    exact h order requestId pid

theorem processes_reached (sidecarId : String) (events : List Event) {list : List ProcessInfo} {p : ProcessInfo}
    (hlist : (reached events).processes.lookup sidecarId = some list) (hp : p ∈ list) :
    ClientOf sidecarId events p.clientId := by
  induction events using List.reverseRecOn generalizing list with
  | nil => cases hlist
  | append_singleton events e ih =>
    rw [reached_concat] at hlist
    obtain ⟨list', hlist', hp'⟩ | ⟨order, rfl⟩ := processes_next hlist hp
    · obtain ⟨order, msg, hmem, hcl⟩ := ih hlist' hp'
      exact ⟨order, msg, mem_append_left _ hmem, hcl⟩
    · exact ⟨order, _, mem_append_right _ (mem_singleton_self _), rfl⟩

theorem mem_buffers_iff {V : Type} (c : String) (bufs : HashMap String V) :
    c ∈ eraseAll ((((reached events).processes.lookup sidecarId).getD []).map (·.clientId)) bufs ↔
      (¬ ∃ list, (reached events).processes.lookup sidecarId = some list ∧ ∃ p ∈ list, p.clientId = c) ∧ c ∈ bufs := by
  rw [mem_eraseAll, mem_map]
  cases (reached events).processes.lookup sidecarId with
  | none => simp
  | some list => simp

theorem othersKept (sidecarId : String) (events : List Event) :
    OthersKept sidecarId events (reached events) (cleanupSidecar sidecarId (reached events)) := by
  have hbufs {V : Type} (bufs : HashMap String V) (c : String) (hc : ¬ ClientOf sidecarId events c) :
      (eraseAll ((((reached events).processes.lookup sidecarId).getD []).map (·.clientId)) bufs).lookup c =
        bufs.lookup c := by
    rw [lookup_eraseAll, if_neg]
    rw [mem_map]
    rintro ⟨p, hp, rfl⟩
    cases hlist : (reached events).processes.lookup sidecarId with
    | none => simp [hlist] at hp
    | some list =>
      rw [hlist] at hp
      exact hc (processes_reached sidecarId events hlist hp)
  refine ⟨fun s₀ hne => ?_, fun s₀ hne => ?_, fun k hne => ?_, ?_, fun _ _ => rfl, fun _ _ => rfl,
    fun c hc => ⟨hbufs _ c hc, hbufs _ c hc, hbufs _ c hc⟩, fun _ _ _ hnode _ => hnode, rfl, rfl⟩
  · exact (lookup_erase_eq _ _ _).trans (if_neg hne)
  · exact (lookup_erase_eq _ _ _).trans (if_neg hne)
  · refine (lookup_retain _ _ _).trans ?_
    cases (reached events).tracker.windowTrack.lookup k with
    | none => rfl
    | some w => simp [Option.filter_some, hne]
  · exact (filter_filter ..).trans (filter_congr fun k _ => Bool.and_self _)

/-- A sidecar leaves nothing behind exactly if all that the cleanup does not look for is gone. -/
theorem leavesNothing_iff (events : List Event) (sidecarId : String) :
    LeavesNothing sidecarId events ↔ Leavable sidecarId events := by
  rw [LeavesNothing, reached_concat]
  change NothingLeft _ _ _ (cleanupSidecar sidecarId (reached events)) ∧
    OthersKept _ _ _ (cleanupSidecar sidecarId (reached events)) ↔ _
  rw [and_iff_left (othersKept sidecarId events)]
  constructor
  · intro h
    refine ⟨fun w => ?_, fun before order requestId pid hbef => ?_, fun ws id n hnode => ?_, fun c hc hbuf => ?_⟩
    · rw [← windowOwner_reached]
      exact h.windowOwner w
    · exact (spawnOrigin_reached sidecarId events).mp h.spawnOrigin before _ hbef order requestId pid rfl
    · cases hwin : n.window with
      | none => rfl
      | some ext =>
        refine Bool.eq_false_iff.mpr fun heq => ?_
        exact h.nodes ws id n hnode ⟨ext, hwin, .inl (beq_iff_eq.mp heq)⟩
    · by_contra hunl
      obtain ⟨hdisplay, hpx, hthumbnail⟩ := h.buffers c hc
      obtain hbuf | hbuf | hbuf := hbuf
      · exact hdisplay ((mem_buffers_iff c _).mpr ⟨hunl, hbuf⟩)
      · exact hpx ((mem_buffers_iff c _).mpr ⟨hunl, hbuf⟩)
      · exact hthumbnail ((mem_buffers_iff c _).mpr ⟨hunl, hbuf⟩)
  · intro h
    have hown (w : String) : (reached events).windowOwner.lookup w ≠ some sidecarId := by
      rw [windowOwner_reached]
      exact h.windows w
    refine ⟨notMem_erase_self, notMem_erase_self, fun k hk => ?_, fun k hk => ?_, hown, ?_,
      fun c hc => ?_, fun ws id n hnode => ?_, countsAgree_reached events⟩
    · obtain ⟨w, hw⟩ := mem_iff.mp hk
      rw [show (cleanupSidecar sidecarId (reached events)).tracker.windowTrack.lookup k = _ from lookup_retain _ _ _,
        Option.filter_eq_some_iff] at hw
      simpa using hw.2
    · simpa using (List.mem_filter.mp hk).2
    · refine (spawnOrigin_reached sidecarId events).mpr fun before e hbef order requestId pid he => ?_
      rw [he] at hbef
      exact h.spawns before order requestId pid hbef
    · refine ⟨fun hmem => ?_, fun hmem => ?_, fun hmem => ?_⟩
      · obtain ⟨hunl, hbuf⟩ := (mem_buffers_iff c _).mp hmem
        exact hunl (h.buffers c hc (.inl hbuf))
      · obtain ⟨hunl, hbuf⟩ := (mem_buffers_iff c _).mp hmem
        exact hunl (h.buffers c hc (.inr (.inl hbuf)))
      · obtain ⟨hunl, hbuf⟩ := (mem_buffers_iff c _).mp hmem
        exact hunl (h.buffers c hc (.inr (.inr hbuf)))
    · rintro ⟨ext, hext, hsc | hwin | hnodeOwn⟩
      · have hnone := h.nodes ws id n hnode
        rw [hext, Option.any_some, hsc, beq_self_eq_true] at hnone
        cases hnone
      · exact hown _ hwin
      · exact hown _ hnodeOwn

end Runs

def oneWindow : List Event :=
  [.connected "s" ⟨⟨"s", "desk"⟩, .x11⟩,
    .message "s" [] (.displayUpdate "c" (.windowCreated "w" 0 0 80 60 true false 0 0 true))]

theorem oneWindow_leaves_owner : ¬ LeavesNothing "s" oneWindow := by
  intro h
  exact h.1.windowOwner "w" (by decide +kernel)

end X11Web.SidecarCleanup
