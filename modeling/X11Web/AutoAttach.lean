import X11Web.Workspaces
import X11Web.Runs

namespace X11Web.AutoAttach

open HashMaps Windows ClientRenderer Workspaces Runs List Option Finmap

abbrev RequestId := Uuid
abbrev Pid := Nat

inductive SidecarKind
  | unknown
  | x11
  | macos
  | wayland
deriving DecidableEq

structure ProcessInfo where
  pid : Pid
  clientId : Uuid
deriving DecidableEq

abbrev WindowKey := SidecarId × Uuid × WindowId

structure TrackedWindow where
  overrideRedirect : Bool
deriving DecidableEq

/-- What the backend knows of the sidecars' processes and windows. -/
structure Backend where
  sidecars : HashMap SidecarId SidecarKind
  processes : HashMap SidecarId (List ProcessInfo)
  windowTrack : HashMap WindowKey TrackedWindow
  windowOwner : HashMap WindowId SidecarId
  pendingSpawns : HashMap RequestId WorkspaceId
  spawnOrigin : HashMap (SidecarId × Pid) WorkspaceId
  workspaceDocs : WorkspaceDocs

/-- The messages of the sidecars, and what frontends do in between. -/
inductive Message
  | openWorkspace (ws : WorkspaceId)
  | spawnProcess (request : RequestId) (ws : WorkspaceId)
  | sync (ws : WorkspaceId) (changes : List (NodeId × Option OcifNode))
  | processSpawned (sidecar : SidecarId) (request : RequestId) (pid : Pid)
  | processConnected (sidecar : SidecarId) (pid : Pid) (client : Uuid)
  | windowCreated (sidecar : SidecarId) (client : Uuid) (w : WindowId) (overrideRedirect : Bool)
  | windowMapped (sidecar : SidecarId) (client : Uuid) (w : WindowId) (overrideRedirect : Bool)
deriving DecidableEq

def kindOf (sidecar : SidecarId) (s : Backend) : SidecarKind := (s.sidecars.lookup sidecar).getD .unknown

/-- The sidecars whose windows are attached without the user. -/
def SidecarKind.autoStreams : SidecarKind → Bool
  | .x11 | .unknown | .wayland => true
  | .macos => false

def pidOf (sidecar : SidecarId) (client : Uuid) (s : Backend) : Option Pid :=
  (s.processes.lookup sidecar).bind (fun list =>
    (list.find? (fun p => p.clientId == client)).map ProcessInfo.pid)

def tracked (w : WindowId) (s : Backend) : Bool := decide (∃ k ∈ s.windowTrack.keys, k.2.2 = w)

def backendAttachWindow (ws : WorkspaceId) (sidecar : SidecarId) (w : WindowId) (s : Backend) : Backend :=
  if tracked w s then
    { s with workspaceDocs :=
        modify ws (fun doc => (attachWindowNode w sidecar doc).1) s.workspaceDocs }
  else s

/-- The windows of a client that no workspace shows yet, in the tracker's order. -/
def unattached (order : List WindowKey) (sidecar : SidecarId) (client : Uuid) (s : Backend) :
    List WindowId :=
  (order.filter (fun k => k.1 == sidecar && k.2.1 == client &&
    (s.windowTrack.lookup k).any (fun t => !t.overrideRedirect) &&
    !attached s.workspaceDocs k.2.2)).map (fun k => k.2.2)

def attachAll (ws : WorkspaceId) (sidecar : SidecarId) (windows : List WindowId) (s : Backend) : Backend :=
  windows.foldl (fun s w => backendAttachWindow ws sidecar w s) s

def attachWindowsForNewClient (order : List WindowKey) (sidecar : SidecarId) (client : Uuid) (pid : Pid)
    (s : Backend) : Backend :=
  if (kindOf sidecar s).autoStreams then
    match s.spawnOrigin.lookup (sidecar, pid) with
    | some ws => attachAll ws sidecar (unattached order sidecar client s) s
    | none => s
  else s

def connectProcess (sidecar : SidecarId) (pid : Pid) (client : Uuid) (s : Backend) : Backend :=
  let list := ((s.processes.lookup sidecar).getD []).filter (fun p => p.clientId != client)
  { s with processes := s.processes.insert sidecar (list ++ [⟨pid, client⟩]) }

/-- `apply_window_lifecycle` and the owner that is noted after it. -/
def trackWindow (sidecar : SidecarId) (client : Uuid) (w : WindowId) (overrideRedirect : Bool)
    (s : Backend) : Backend :=
  { s with
    windowTrack := s.windowTrack.insert (sidecar, client, w) ⟨overrideRedirect⟩
    windowOwner := s.windowOwner.insert w sidecar }

def originOf (sidecar : SidecarId) (client : Uuid) (s : Backend) : Option WorkspaceId :=
  (pidOf sidecar client s).bind (fun pid => s.spawnOrigin.lookup (sidecar, pid))

def onWindowCreated (sidecar : SidecarId) (client : Uuid) (w : WindowId) (overrideRedirect : Bool)
    (s : Backend) : Backend :=
  if !overrideRedirect && (kindOf sidecar s).autoStreams then
    match originOf sidecar client s with
    | some ws => backendAttachWindow ws sidecar w s
    | none => s
  else s

def onProcessSpawned (sidecar : SidecarId) (request : RequestId) (pid : Pid) (s : Backend) : Backend :=
  match s.pendingSpawns.lookup request with
  | some ws => { s with
      pendingSpawns := s.pendingSpawns.erase request
      spawnOrigin := s.spawnOrigin.insert (sidecar, pid) ws }
  | none => s

/-- `order` is the iteration order of the tracker. -/
def dispatch (order : List WindowKey) (s : Backend) : Message → Backend
  | .openWorkspace ws =>
      if ws ∈ s.workspaceDocs then s else { s with workspaceDocs := s.workspaceDocs.insert ws ∅ }
  | .spawnProcess request ws => { s with pendingSpawns := s.pendingSpawns.insert request ws }
  | .sync ws changes => { s with workspaceDocs := modify ws (receiveSync changes) s.workspaceDocs }
  | .processSpawned sidecar request pid => onProcessSpawned sidecar request pid s
  | .processConnected sidecar pid client =>
      attachWindowsForNewClient order sidecar client pid (connectProcess sidecar pid client s)
  | .windowCreated sidecar client w overrideRedirect =>
      onWindowCreated sidecar client w overrideRedirect
        (trackWindow sidecar client w overrideRedirect s)
  | .windowMapped sidecar client w overrideRedirect =>
      { s with windowTrack := s.windowTrack.insert (sidecar, client, w) ⟨overrideRedirect⟩ }

inductive dispatchStep : Backend → Message → Backend → Prop
  | dispatch (s : Backend) (m : Message) (order : List WindowKey) (hnd : order.Nodup)
      (hord : ∀ k, k ∈ order ↔ k ∈ s.windowTrack) : dispatchStep s m (dispatch order s m)

/-- A program started from the dock of a workspace: the request, the process and
client it becomes, and the client's windows. -/
structure DockSpawn where
  workspace : WorkspaceId
  sidecar : SidecarId
  request : RequestId
  pid : Pid
  client : Uuid
  windows : List WindowId

namespace DockSpawn

variable (d : DockSpawn)

def requested : Message := .spawnProcess d.request d.workspace

def spawned : Message := .processSpawned d.sidecar d.request d.pid

def connected : Message := .processConnected d.sidecar d.pid d.client

def created (w : WindowId) : Message := .windowCreated d.sidecar d.client w false

/-- The message is about other requests, processes, clients and windows. The
server may map the client's windows at any time. -/
def Foreign : Message → Prop
  | .openWorkspace _ => True
  | .spawnProcess request _ => request ≠ d.request
  | .sync _ changes => ∀ c ∈ changes, c.1 ∉ d.windows
  | .processSpawned sidecar request pid => request ≠ d.request ∧ (sidecar, pid) ≠ (d.sidecar, d.pid)
  | .processConnected sidecar _ client => (sidecar, client) ≠ (d.sidecar, d.client)
  | .windowCreated _ _ w _ => w ∉ d.windows
  | .windowMapped sidecar client w overrideRedirect =>
      w ∈ d.windows → sidecar = d.sidecar ∧ client = d.client ∧ overrideRedirect = false

inductive Mixed : Message → Prop
  | spawned : Mixed d.spawned
  | connected : Mixed d.connected
  | created {w : WindowId} (hw : w ∈ d.windows) : Mixed (d.created w)
  | other {m : Message} (hm : d.Foreign m) : Mixed m

/-- All messages of the spawn, in any order, with others in between. -/
structure Interleaves (ms : List Message) : Prop where
  spawned : d.spawned ∈ ms
  connected : d.connected ∈ ms
  created : ∀ w ∈ d.windows, d.created w ∈ ms
  mixed : ∀ m ∈ ms, d.Mixed m

/-- The backend before the request. The process, its client and its windows have
new identifiers. -/
structure Ready (s : Backend) : Prop where
  kind : (kindOf d.sidecar s).autoStreams = true
  workspace : d.workspace ∈ s.workspaceDocs
  origin : s.spawnOrigin.lookup (d.sidecar, d.pid) = none
  client : pidOf d.sidecar d.client s = none
  untracked : ∀ w ∈ d.windows, ∀ k ∈ s.windowTrack, k.2.2 ≠ w
  detached : ∀ w ∈ d.windows, ∀ ws, nodeAt s.workspaceDocs ws w = none

end DockSpawn

section Attach

variable {s : Backend} {ws ws' : WorkspaceId} {sidecar : SidecarId} {w : WindowId} {id : NodeId}

theorem attachAll_cons (windows : List WindowId) :
    attachAll ws sidecar (w :: windows) s =
      attachAll ws sidecar windows (backendAttachWindow ws sidecar w s) :=
  rfl

theorem backendAttachWindow_tables (ws : WorkspaceId) (sidecar : SidecarId) (w : WindowId) (s : Backend) :
    ∃ docs, backendAttachWindow ws sidecar w s = { s with workspaceDocs := docs } ∧
      ∀ ws', ws' ∈ docs ↔ ws' ∈ s.workspaceDocs := by
  rw [backendAttachWindow]
  cases tracked w s with
  | true => exact ⟨_, rfl, fun ws' => mem_modify ws ws' _ _⟩
  | false => exact ⟨s.workspaceDocs, rfl, fun _ => Iff.rfl⟩

theorem attachAll_tables (ws : WorkspaceId) (sidecar : SidecarId) (windows : List WindowId) (s : Backend) :
    ∃ docs, attachAll ws sidecar windows s = { s with workspaceDocs := docs } ∧
      ∀ ws', ws' ∈ docs ↔ ws' ∈ s.workspaceDocs := by
  induction windows generalizing s with
  | nil => exact ⟨s.workspaceDocs, rfl, fun _ => Iff.rfl⟩
  | cons w windows ih =>
    obtain ⟨docs, hone, hmem⟩ := backendAttachWindow_tables ws sidecar w s
    obtain ⟨docs', hrest, hmem'⟩ := ih { s with workspaceDocs := docs }
    refine ⟨docs', ?_, fun ws' => (hmem' ws').trans (hmem ws')⟩
    rw [attachAll_cons, hone, hrest]

theorem nodeAt_backendAttachWindow (ws' : WorkspaceId) (id : NodeId) :
    nodeAt (backendAttachWindow ws sidecar w s).workspaceDocs ws' id =
      if ws' = ws ∧ ws ∈ s.workspaceDocs ∧ id = w ∧ tracked w s = true ∧
          nodeAt s.workspaceDocs ws w = none then
        some (windowNode w sidecar)
      else nodeAt s.workspaceDocs ws' id := by
  rw [backendAttachWindow]
  cases htrkd : tracked w s with
  | false => simp
  | true =>
    by_cases hsame : ws' = ws
    · subst ws'
      cases hdoc : s.workspaceDocs.lookup ws with
      | none =>
        have hws : ws ∉ s.workspaceDocs := lookup_eq_none.mp hdoc
        simp [hdoc, hws, nodeAt]
      | some doc =>
        have hws : ws ∈ s.workspaceDocs := Finmap.mem_iff.mpr ⟨doc, hdoc⟩
        simp [hdoc, hws, lookup_attachWindowNode, nodeAt]
    · simp [nodeAt_modify, hsame]

theorem nodeAt_attachAll (windows : List WindowId) (ws' : WorkspaceId) (id : NodeId) :
    nodeAt (attachAll ws sidecar windows s).workspaceDocs ws' id =
      if ws' = ws ∧ ws ∈ s.workspaceDocs ∧ id ∈ windows ∧ tracked id s = true ∧
          nodeAt s.workspaceDocs ws id = none then
        some (windowNode id sidecar)
      else nodeAt s.workspaceDocs ws' id := by
  induction windows generalizing s with
  | nil => simp [attachAll]
  | cons w windows ih =>
    obtain ⟨docs, hone, hmem⟩ := backendAttachWindow_tables ws sidecar w s
    have hnode : ∀ ws' id, nodeAt (backendAttachWindow ws sidecar w s).workspaceDocs ws' id = _ :=
      nodeAt_backendAttachWindow
    rw [attachAll_cons, hone, ih]
    rw [hone] at hnode
    have htrkd : tracked id { s with workspaceDocs := docs } = tracked id s := rfl
    simp only [hnode, htrkd, hmem, mem_cons]
    grind

theorem mem_unattached {order : List WindowKey} (hord : ∀ k, k ∈ order ↔ k ∈ s.windowTrack)
    {client : Uuid} :
    w ∈ unattached order sidecar client s ↔
      (∃ t, s.windowTrack.lookup (sidecar, client, w) = some t ∧ t.overrideRedirect = false) ∧
        attached s.workspaceDocs w = false := by
  simp only [unattached, List.mem_map, List.mem_filter, Bool.and_eq_true, beq_iff_eq,
    Bool.not_eq_true', hord]
  constructor
  · rintro ⟨⟨sc, c, w'⟩, ⟨-, ⟨⟨rfl, rfl⟩, ht⟩, hatt⟩, rfl⟩
    refine ⟨?_, hatt⟩
    cases hlook : s.windowTrack.lookup (sc, c, w') with
    | none => simp [hlook] at ht
    | some t => exact ⟨t, rfl, by simpa [hlook] using ht⟩
  · rintro ⟨⟨t, hlook, ht⟩, hatt⟩
    exact ⟨(sidecar, client, w), ⟨Finmap.mem_iff.mpr ⟨t, hlook⟩, by simp [hlook, ht], hatt⟩, rfl⟩

theorem tracked_iff : tracked w s = true ↔ ∃ k ∈ s.windowTrack, k.2.2 = w := by
  simp [tracked, Finmap.mem_keys]

end Attach

/-- What a message does to the tables other than the documents. -/
def record (s : Backend) : Message → Backend
  | .openWorkspace _ => s
  | .spawnProcess request ws => { s with pendingSpawns := s.pendingSpawns.insert request ws }
  | .sync _ _ => s
  | .processSpawned sidecar request pid => onProcessSpawned sidecar request pid s
  | .processConnected sidecar pid client => connectProcess sidecar pid client s
  | .windowCreated sidecar client w overrideRedirect => trackWindow sidecar client w overrideRedirect s
  | .windowMapped sidecar client w overrideRedirect =>
      { s with windowTrack := s.windowTrack.insert (sidecar, client, w) ⟨overrideRedirect⟩ }

theorem dispatch_tables (order : List WindowKey) (s : Backend) (m : Message) :
    ∃ docs, dispatch order s m = { record s m with workspaceDocs := docs } ∧
      ∀ ws, ws ∈ s.workspaceDocs → ws ∈ docs := by
  cases m with
  | openWorkspace ws =>
    rw [dispatch]
    by_cases hws : ws ∈ s.workspaceDocs
    · exact ⟨s.workspaceDocs, by simp [hws, record], fun _ => id⟩
    · exact ⟨s.workspaceDocs.insert ws ∅, by simp [hws, record], fun ws' h => by simp [h]⟩
  | spawnProcess request ws => exact ⟨s.workspaceDocs, rfl, fun _ => id⟩
  | sync ws changes => exact ⟨_, rfl, fun ws' => (mem_modify ws ws' _ _).mpr⟩
  | processSpawned sidecar request pid =>
    refine ⟨s.workspaceDocs, ?_, fun _ => id⟩
    simp only [dispatch, record, onProcessSpawned]
    cases s.pendingSpawns.lookup request <;> rfl
  | processConnected sidecar pid client =>
    simp only [dispatch, record, attachWindowsForNewClient]
    cases (kindOf sidecar (connectProcess sidecar pid client s)).autoStreams with
    | false => exact ⟨s.workspaceDocs, rfl, fun _ => id⟩
    | true =>
      cases (connectProcess sidecar pid client s).spawnOrigin.lookup (sidecar, pid) with
      | none => exact ⟨s.workspaceDocs, rfl, fun _ => id⟩
      | some ws =>
        obtain ⟨docs, heq, hmem⟩ := attachAll_tables ws sidecar
          (unattached order sidecar client (connectProcess sidecar pid client s))
          (connectProcess sidecar pid client s)
        exact ⟨docs, heq, fun ws' => (hmem ws').mpr⟩
  | windowCreated sidecar client w overrideRedirect =>
    simp only [dispatch, record, onWindowCreated]
    cases !overrideRedirect &&
        (kindOf sidecar (trackWindow sidecar client w overrideRedirect s)).autoStreams with
    | false => exact ⟨s.workspaceDocs, rfl, fun _ => id⟩
    | true =>
      cases originOf sidecar client (trackWindow sidecar client w overrideRedirect s) with
      | none => exact ⟨s.workspaceDocs, rfl, fun _ => id⟩
      | some ws =>
        obtain ⟨docs, heq, hmem⟩ := backendAttachWindow_tables ws sidecar w
          (trackWindow sidecar client w overrideRedirect s)
        exact ⟨docs, heq, fun ws' => (hmem ws').mpr⟩
  | windowMapped sidecar client w overrideRedirect => exact ⟨s.workspaceDocs, rfl, fun _ => id⟩

theorem pidOf_connectProcess (sidecar sidecar' : SidecarId) (pid : Pid) (client client' : Uuid)
    (s : Backend) :
    pidOf sidecar' client' (connectProcess sidecar pid client s) =
      if sidecar' = sidecar ∧ client' = client then some pid else pidOf sidecar' client' s := by
  simp only [pidOf, connectProcess, lookup_insert_eq]
  by_cases hs : sidecar' = sidecar
  · subst sidecar'
    by_cases hc : client' = client
    · subst client'
      have hnone : (((s.processes.lookup sidecar).getD []).filter (fun p => p.clientId != client)).find?
          (fun p => p.clientId == client) = none := by
        simp [List.find?_eq_none]
      simp only [if_true, bind_some, List.find?_append, hnone, none_or]
      simp
    · have hlast : ([⟨pid, client⟩] : List ProcessInfo).find? (fun p => p.clientId == client') = none := by
        simp [Ne.symm hc]
      have hoths (list : List ProcessInfo) :
          (list.filter (fun p => p.clientId != client)).find? (fun p => p.clientId == client') =
            list.find? (fun p => p.clientId == client') := by
        rw [List.find?_filter]
        congr 1
        funext p
        by_cases hp : p.clientId = client' <;> simp [hp, hc]
      simp only [if_true, bind_some, hc, and_false, if_false, List.find?_append, hlast,
        or_none, hoths]
      cases s.processes.lookup sidecar <;> rfl
  · simp [hs]

namespace DockSpawn

variable (d : DockSpawn)

def key (w : WindowId) : WindowKey := (d.sidecar, d.client, w)

/-- What the backend has recorded of the spawn after the messages `ms`. -/
structure Recorded (ms : List Message) (s : Backend) : Prop where
  kind : (kindOf d.sidecar s).autoStreams = true
  workspace : d.workspace ∈ s.workspaceDocs
  pending : s.pendingSpawns.lookup d.request = if d.spawned ∈ ms then none else some d.workspace
  origin : s.spawnOrigin.lookup (d.sidecar, d.pid) = if d.spawned ∈ ms then some d.workspace else none
  client : pidOf d.sidecar d.client s = if d.connected ∈ ms then some d.pid else none
  tracks : ∀ k t, s.windowTrack.lookup k = some t → k.2.2 ∈ d.windows →
    k = d.key k.2.2 ∧ t.overrideRedirect = false
  created : ∀ w ∈ d.windows, d.created w ∈ ms → d.key w ∈ s.windowTrack

/-- Some message of the spawn that attaches the window came after its origin
was known. -/
def InTime (ms : List Message) (w : WindowId) : Prop :=
  Before d.spawned d.connected ms ∨ Before d.spawned (d.created w) ms

structure Placed (ms : List Message) (s : Backend) : Prop where
  only : ∀ w ∈ d.windows, ∀ ws n, nodeAt s.workspaceDocs ws w = some n →
    ws = d.workspace ∧ n.isWindow = true ∧ d.InTime ms w
  joined : ∀ w ∈ d.windows, d.created w ∈ ms → d.connected ∈ ms → d.InTime ms w →
    nodeAt s.workspaceDocs d.workspace w ≠ none

variable {d} {ms : List Message} {m : Message} {s s' : Backend} {order : List WindowKey}

theorem Foreign.ne (h : d.Foreign m) :
    m ≠ d.spawned ∧ m ≠ d.connected ∧ ∀ w ∈ d.windows, m ≠ d.created w := by
  refine ⟨?_, ?_, ?_⟩
  · rintro rfl
    exact h.1 rfl
  · rintro rfl
    exact h rfl
  · rintro w hw rfl
    exact h hw

theorem Recorded.of_record (h : d.Recorded ms (record s m)) (order : List WindowKey) :
    d.Recorded ms (dispatch order s m) := by
  obtain ⟨docs, heq, hmem⟩ := dispatch_tables order s m
  rw [heq]
  have hdocs : (record s m).workspaceDocs = s.workspaceDocs := by
    cases m <;> first | rfl | skip
    simp only [record, onProcessSpawned]
    split <;> rfl
  exact ⟨h.kind, hmem _ (hdocs ▸ h.workspace), h.pending, h.origin, h.client, h.tracks, h.created⟩

theorem Recorded.foreign (h : d.Recorded ms s) (hm : d.Foreign m) :
    d.Recorded (ms ++ [m]) (record s m) := by
  obtain ⟨hspd, hconn, hcrt⟩ := hm.ne
  have hold : d.spawned ∈ ms ++ [m] ↔ d.spawned ∈ ms := by simp [hspd.symm]
  have hold' : d.connected ∈ ms ++ [m] ↔ d.connected ∈ ms := by simp [hconn.symm]
  have hold'' : ∀ w ∈ d.windows, (d.created w ∈ ms ++ [m] ↔ d.created w ∈ ms) :=
    fun w hw => by simp [(hcrt w hw).symm]
  suffices hfields : d.Recorded ms (record s m) by
    refine ⟨hfields.kind, hfields.workspace, ?_, ?_, ?_, hfields.tracks, ?_⟩
    · simpa only [hold] using hfields.pending
    · simpa only [hold] using hfields.origin
    · simpa only [hold'] using hfields.client
    · exact fun w hw hmem => hfields.created w hw ((hold'' w hw).mp hmem)
  cases m with
  | openWorkspace ws => exact h
  | spawnProcess request ws =>
    refine { h with pending := ?_ }
    exact (lookup_insert_of_ne _ (Ne.symm hm)).trans h.pending
  | sync ws changes => exact h
  | processSpawned sidecar request pid =>
    simp only [record, onProcessSpawned]
    cases s.pendingSpawns.lookup request with
    | none => exact h
    | some ws =>
      refine { h with pending := ?_, origin := ?_ }
      · exact (lookup_erase_ne (Ne.symm hm.1)).trans h.pending
      · exact (lookup_insert_of_ne _ (Ne.symm hm.2)).trans h.origin
  | processConnected sidecar pid client =>
    refine { h with client := ?_ }
    have hne : ¬ (d.sidecar = sidecar ∧ d.client = client) := by
      rintro ⟨rfl, rfl⟩
      exact hm rfl
    simp only [record, pidOf_connectProcess, hne, if_false, h.client]
  | windowCreated sidecar client w overrideRedirect =>
    refine { h with tracks := fun k t hk hw => ?_, created := fun w' hw' hmem => ?_ }
    · simp only [record, trackWindow, lookup_insert_eq] at hk
      split at hk
      · next hkey => exact absurd (by simpa [hkey] using hw) hm
      · exact h.tracks k t hk hw
    · exact mem_insert.mpr (.inr (h.created w' hw' hmem))
  | windowMapped sidecar client w overrideRedirect =>
    refine { h with tracks := fun k t hk hw => ?_, created := fun w' hw' hmem => ?_ }
    · simp only [record, lookup_insert_eq] at hk
      split at hk
      · next hkey =>
        obtain ⟨rfl, rfl, rfl⟩ := hm (by simpa [hkey] using hw)
        cases hk
        simp [hkey, key]
      · exact h.tracks k t hk hw
    · exact mem_insert.mpr (.inr (h.created w' hw' hmem))

theorem Recorded.spawned (h : d.Recorded ms s) : d.Recorded (ms ++ [d.spawned]) (record s d.spawned) := by
  have hconn : d.connected ∈ ms ++ [d.spawned] ↔ d.connected ∈ ms := by
    simp [DockSpawn.connected, DockSpawn.spawned]
  have hcrt : ∀ w, d.created w ∈ ms ++ [d.spawned] ↔ d.created w ∈ ms := by
    simp [DockSpawn.created, DockSpawn.spawned]
  have hin : d.spawned ∈ ms ++ [d.spawned] := by simp
  have hpend := h.pending
  have horig := h.origin
  change d.Recorded _ (onProcessSpawned d.sidecar d.request d.pid s)
  by_cases hbef : d.spawned ∈ ms
  · rw [if_pos hbef] at hpend horig
    rw [onProcessSpawned, hpend]
    refine ⟨h.kind, h.workspace, by rw [if_pos hin, hpend], by rw [if_pos hin, horig], ?_,
      h.tracks, fun w hw hmem => h.created w hw ((hcrt w).mp hmem)⟩
    simpa only [hconn] using h.client
  · rw [if_neg hbef] at hpend
    rw [onProcessSpawned, hpend]
    refine ⟨h.kind, h.workspace, ?_, ?_, ?_, h.tracks,
      fun w hw hmem => h.created w hw ((hcrt w).mp hmem)⟩
    · simp
    · simp
    · simp only [hconn]
      exact h.client

theorem Recorded.connected (h : d.Recorded ms s) :
    d.Recorded (ms ++ [d.connected]) (record s d.connected) := by
  have hspd : d.spawned ∈ ms ++ [d.connected] ↔ d.spawned ∈ ms := by
    simp [DockSpawn.connected, DockSpawn.spawned]
  have hcrt : ∀ w, d.created w ∈ ms ++ [d.connected] ↔ d.created w ∈ ms := by
    simp [DockSpawn.created, DockSpawn.connected]
  refine ⟨h.kind, h.workspace, ?_, ?_, ?_, h.tracks, fun w hw hmem => ?_⟩
  · simp only [hspd]
    exact h.pending
  · simp only [hspd]
    exact h.origin
  · simp [record, DockSpawn.connected, pidOf_connectProcess]
  · exact h.created w hw ((hcrt w).mp hmem)

theorem Recorded.windowCreated (h : d.Recorded ms s) (w : WindowId) :
    d.Recorded (ms ++ [d.created w]) (record s (d.created w)) := by
  have hspd : d.spawned ∈ ms ++ [d.created w] ↔ d.spawned ∈ ms := by
    simp [DockSpawn.created, DockSpawn.spawned]
  have hconn : d.connected ∈ ms ++ [d.created w] ↔ d.connected ∈ ms := by
    simp [DockSpawn.created, DockSpawn.connected]
  refine ⟨h.kind, h.workspace, ?_, ?_, ?_, fun k t hk hw' => ?_, fun w' hw' hmem => ?_⟩
  · simp only [hspd]
    exact h.pending
  · simp only [hspd]
    exact h.origin
  · simp only [hconn]
    exact h.client
  · simp only [record, DockSpawn.created, trackWindow, lookup_insert_eq] at hk
    split at hk
    · next hkey =>
      cases hk
      simp [hkey, key]
    · exact h.tracks k t hk hw'
  · refine mem_insert.mpr ?_
    by_cases hsame : w' = w
    · exact .inl (by rw [hsame]; rfl)
    · exact .inr (h.created w' hw' (by simpa [DockSpawn.created, hsame] using hmem))

theorem Recorded.step (h : d.Recorded ms s) (hm : d.Mixed m) : d.Recorded (ms ++ [m]) (record s m) := by
  cases hm with
  | other hm => exact h.foreign hm
  | spawned => exact h.spawned
  | connected => exact h.connected
  | @created w hw => exact h.windowCreated w

theorem nodeAt_foreign (h : d.Recorded ms s) (hm : d.Foreign m)
    (hord : ∀ k, k ∈ order ↔ k ∈ s.windowTrack) {w : WindowId} (hw : w ∈ d.windows)
    (ws : WorkspaceId) :
    nodeAt (dispatch order s m).workspaceDocs ws w = nodeAt s.workspaceDocs ws w := by
  cases m with
  | openWorkspace ws' =>
    rw [dispatch]
    by_cases hin : ws' ∈ s.workspaceDocs
    · simp [hin]
    · simp [hin, nodeAt_openWorkspace hin]
  | spawnProcess request ws' => rfl
  | sync ws' changes =>
    have huntouched : ∀ c ∈ changes, c.1 ≠ w := fun c hc heq => hm c hc (heq ▸ hw)
    simp only [dispatch, nodeAt_modify, lookup_receiveSync huntouched]
    by_cases hsame : ws = ws'
    · subst ws
      simp [nodeAt]
    · simp [hsame]
  | processSpawned sidecar request pid =>
    simp only [dispatch, onProcessSpawned]
    cases s.pendingSpawns.lookup request <;> rfl
  | processConnected sidecar pid client =>
    -- another client's windows are tracked under that client
    have hnot : w ∉ unattached order sidecar client (connectProcess sidecar pid client s) := by
      intro hmem
      obtain ⟨⟨t, hlook, -⟩, -⟩ := (mem_unattached hord).mp hmem
      obtain ⟨hkey, -⟩ := h.tracks _ t hlook hw
      apply hm
      simpa [key] using hkey
    simp only [dispatch, attachWindowsForNewClient]
    cases (kindOf sidecar (connectProcess sidecar pid client s)).autoStreams with
    | false => rfl
    | true =>
      cases (connectProcess sidecar pid client s).spawnOrigin.lookup (sidecar, pid) with
      | none => rfl
      | some ws' =>
        simp only [if_true, nodeAt_attachAll, hnot, false_and, and_false, if_false]
        rfl
  | windowCreated sidecar client w' overrideRedirect =>
    have hne : w ≠ w' := fun heq => hm (heq ▸ hw)
    simp only [dispatch, onWindowCreated]
    cases !overrideRedirect &&
        (kindOf sidecar (trackWindow sidecar client w' overrideRedirect s)).autoStreams with
    | false => rfl
    | true =>
      cases originOf sidecar client (trackWindow sidecar client w' overrideRedirect s) with
      | none => rfl
      | some ws' =>
        simp only [if_true, nodeAt_backendAttachWindow, hne, false_and, and_false, if_false]
        rfl
  | windowMapped sidecar client w' overrideRedirect => rfl

theorem nodeAt_connected (h : d.Recorded ms s) (hord : ∀ k, k ∈ order ↔ k ∈ s.windowTrack)
    {w : WindowId} (hw : w ∈ d.windows)
    (honly : attached s.workspaceDocs w = true → nodeAt s.workspaceDocs d.workspace w ≠ none)
    (ws : WorkspaceId) :
    nodeAt (dispatch order s d.connected).workspaceDocs ws w =
      if ws = d.workspace ∧ d.spawned ∈ ms ∧ d.key w ∈ s.windowTrack ∧
          nodeAt s.workspaceDocs d.workspace w = none then
        some (windowNode w d.sidecar)
      else nodeAt s.workspaceDocs ws w := by
  have hkind : (kindOf d.sidecar (connectProcess d.sidecar d.pid d.client s)).autoStreams = true := h.kind
  have horig : (connectProcess d.sidecar d.pid d.client s).spawnOrigin.lookup (d.sidecar, d.pid) = _ :=
    h.origin
  simp only [dispatch, DockSpawn.connected, attachWindowsForNewClient, hkind, horig, if_true]
  by_cases hspd : d.spawned ∈ ms
  · rw [if_pos hspd, nodeAt_attachAll]
    refine if_congr ?_ rfl rfl
    refine and_congr_right fun _ => ?_
    constructor
    · rintro ⟨-, hmem, -, hnone⟩
      obtain ⟨⟨t, hlook, -⟩, -⟩ := (mem_unattached hord).mp hmem
      exact ⟨hspd, Finmap.mem_iff.mpr ⟨t, hlook⟩, hnone⟩
    · rintro ⟨-, htrack, hnone⟩
      obtain ⟨t, hlook⟩ := Finmap.mem_iff.mp htrack
      refine ⟨h.workspace, (mem_unattached hord).mpr ⟨⟨t, hlook, (h.tracks _ t hlook hw).2⟩, ?_⟩,
        tracked_iff.mpr ⟨d.key w, htrack, rfl⟩, hnone⟩
      cases hatt : attached s.workspaceDocs w with
      | false => rfl
      | true => exact absurd hnone (honly hatt)
  · rw [if_neg hspd]
    simp [hspd, connectProcess]

theorem nodeAt_created (h : d.Recorded ms s) {w w' : WindowId} (ws : WorkspaceId) :
    nodeAt (dispatch order s (d.created w')).workspaceDocs ws w =
      if ws = d.workspace ∧ w = w' ∧ d.spawned ∈ ms ∧ d.connected ∈ ms ∧
          nodeAt s.workspaceDocs d.workspace w' = none then
        some (windowNode w' d.sidecar)
      else nodeAt s.workspaceDocs ws w := by
  have hkind : (kindOf d.sidecar (trackWindow d.sidecar d.client w' false s)).autoStreams = true := h.kind
  have horig : originOf d.sidecar d.client (trackWindow d.sidecar d.client w' false s) =
      if d.spawned ∈ ms ∧ d.connected ∈ ms then some d.workspace else none := by
    have hpid : pidOf d.sidecar d.client (trackWindow d.sidecar d.client w' false s) = _ := h.client
    rw [originOf, hpid]
    by_cases hconn : d.connected ∈ ms
    · simp only [hconn, if_true, bind_some, and_true]
      exact h.origin
    · simp [hconn]
  simp only [dispatch, DockSpawn.created, onWindowCreated, hkind, horig, Bool.not_false, Bool.true_and,
    if_true]
  by_cases hboth : d.spawned ∈ ms ∧ d.connected ∈ ms
  · have htrkd : tracked w' (trackWindow d.sidecar d.client w' false s) = true :=
      tracked_iff.mpr ⟨(d.sidecar, d.client, w'), mem_insert.mpr (.inl rfl), rfl⟩
    have hdocs : d.workspace ∈ (trackWindow d.sidecar d.client w' false s).workspaceDocs := h.workspace
    rw [if_pos hboth, nodeAt_backendAttachWindow]
    simp only [htrkd, hdocs, hboth.1, hboth.2, true_and]
    rfl
  · rw [if_neg hboth]
    have hnot : ¬ (ws = d.workspace ∧ w = w' ∧ d.spawned ∈ ms ∧ d.connected ∈ ms ∧
        nodeAt s.workspaceDocs d.workspace w' = none) :=
      fun hall => hboth ⟨hall.2.2.1, hall.2.2.2.1⟩
    rw [if_neg hnot]
    rfl

theorem InTime.append {w : WindowId} (h : d.InTime ms w) : d.InTime (ms ++ [m]) w := by
  rcases h with h | h
  · exact .inl ((before_concat ms).mpr (.inl h))
  · exact .inr ((before_concat ms).mpr (.inl h))

theorem Placed.of_same (h : d.Placed ms s)
    (hsame : ∀ w ∈ d.windows, ∀ ws, nodeAt s'.workspaceDocs ws w = nodeAt s.workspaceDocs ws w)
    (hdue : ∀ w ∈ d.windows, d.created w ∈ ms ++ [m] → d.connected ∈ ms ++ [m] →
      d.InTime (ms ++ [m]) w → d.created w ∈ ms ∧ d.connected ∈ ms ∧ d.InTime ms w) :
    d.Placed (ms ++ [m]) s' := by
  refine ⟨fun w hw ws n hn => ?_, fun w hw hcrt hconn hin => ?_⟩
  · rw [hsame w hw] at hn
    obtain ⟨hws, hn, hin⟩ := h.only w hw ws n hn
    exact ⟨hws, hn, hin.append⟩
  · obtain ⟨hcrt, hconn, hin⟩ := hdue w hw hcrt hconn hin
    rw [hsame w hw]
    exact h.joined w hw hcrt hconn hin

theorem Placed.connected (h : d.Placed ms s) (hrec : d.Recorded ms s)
    (hord : ∀ k, k ∈ order ↔ k ∈ s.windowTrack) :
    d.Placed (ms ++ [d.connected]) (dispatch order s d.connected) := by
  have honly : ∀ w ∈ d.windows, attached s.workspaceDocs w = true →
      nodeAt s.workspaceDocs d.workspace w ≠ none := by
    intro w hw hatt
    obtain ⟨ws', n, hn, -⟩ := attached_iff.mp hatt
    rw [(h.only w hw ws' n hn).1] at hn
    simp [hn]
  have hlast : d.spawned ∈ ms → ∀ w, d.InTime (ms ++ [d.connected]) w :=
    fun hspd w => .inl ((before_concat ms).mpr (.inr ⟨rfl, hspd⟩))
  refine ⟨fun w hw ws n hn => ?_, fun w hw hcrt _ hin => ?_⟩
  · rw [nodeAt_connected hrec hord hw (honly w hw)] at hn
    split at hn
    · next hnew =>
      cases hn
      exact ⟨hnew.1, rfl, hlast hnew.2.1 w⟩
    · obtain ⟨hws, hn, hin⟩ := h.only w hw ws n hn
      exact ⟨hws, hn, hin.append⟩
  · have hcrt : d.created w ∈ ms := by
      simpa [DockSpawn.created, DockSpawn.connected] using hcrt
    have hspd : d.spawned ∈ ms := by
      rcases hin with hin | hin
      · rcases (before_concat ms).mp hin with hin | ⟨-, hmem⟩
        · exact hin.left_mem
        · exact hmem
      · rcases (before_concat ms).mp hin with hin | ⟨heq, -⟩
        · exact hin.left_mem
        · simp [DockSpawn.created, DockSpawn.connected] at heq
    rw [nodeAt_connected hrec hord hw (honly w hw)]
    by_cases hnone : nodeAt s.workspaceDocs d.workspace w = none
    · simp [hspd, hrec.created w hw hcrt, hnone]
    · simp [hnone]

theorem Placed.created (h : d.Placed ms s) (hrec : d.Recorded ms s) (w₀ : WindowId) :
    d.Placed (ms ++ [d.created w₀]) (dispatch order s (d.created w₀)) := by
  refine ⟨fun w hw ws n hn => ?_, fun w hw hcrt hconn hin => ?_⟩
  · rw [nodeAt_created hrec] at hn
    split at hn
    · next hnew =>
      obtain ⟨hws, rfl, hspd, -, -⟩ := hnew
      cases hn
      exact ⟨hws, rfl, .inr ((before_concat ms).mpr (.inr ⟨rfl, hspd⟩))⟩
    · obtain ⟨hws, hn, hin⟩ := h.only w hw ws n hn
      exact ⟨hws, hn, hin.append⟩
  · have hconn : d.connected ∈ ms := by
      simpa [DockSpawn.created, DockSpawn.connected] using hconn
    rw [nodeAt_created hrec]
    by_cases hsame : w = w₀
    · subst w
      have hspd : d.spawned ∈ ms := by
        rcases hin with hin | hin
        · rcases (before_concat ms).mp hin with hin | ⟨heq, -⟩
          · exact hin.left_mem
          · simp [DockSpawn.created, DockSpawn.connected] at heq
        · rcases (before_concat ms).mp hin with hin | ⟨-, hmem⟩
          · exact hin.left_mem
          · exact hmem
      by_cases hnone : nodeAt s.workspaceDocs d.workspace w₀ = none
      · simp [hspd, hconn, hnone]
      · simp [hnone]
    · have hcrt : d.created w ∈ ms := by simpa [DockSpawn.created, hsame] using hcrt
      have hin : d.InTime ms w := by
        simpa [InTime, before_concat, DockSpawn.created, DockSpawn.connected, hsame] using hin
      simpa [hsame] using h.joined w hw hcrt hconn hin

theorem Placed.step (h : d.Placed ms s) (hrec : d.Recorded ms s) (hm : d.Mixed m)
    (hord : ∀ k, k ∈ order ↔ k ∈ s.windowTrack) :
    d.Placed (ms ++ [m]) (dispatch order s m) := by
  cases hm with
  | spawned =>
    refine h.of_same (fun w _ ws => ?_) (fun w _ hcrt hconn hin => ?_)
    · simp only [dispatch, DockSpawn.spawned, onProcessSpawned]
      cases s.pendingSpawns.lookup d.request <;> rfl
    · simpa [InTime, before_concat, DockSpawn.created, DockSpawn.connected, DockSpawn.spawned] using
        And.intro hcrt (And.intro hconn hin)
  | connected => exact h.connected hrec hord
  | @created w hw => exact h.created hrec w
  | other hm =>
    obtain ⟨-, hconn, hcrt⟩ := hm.ne
    refine h.of_same (fun w hw ws => nodeAt_foreign hrec hm hord hw ws) (fun w hw hc hp hin => ?_)
    have hcrt := (hcrt w hw).symm
    refine ⟨by simpa [hcrt] using hc, by simpa [hconn.symm] using hp, ?_⟩
    simpa [InTime, before_concat, hcrt, hconn.symm] using hin

theorem Ready.requested (h : d.Ready s) (order : List WindowKey) :
    d.Recorded [] (dispatch order s d.requested) ∧ d.Placed [] (dispatch order s d.requested) := by
  constructor
  · refine ⟨h.kind, h.workspace, ?_, ?_, ?_, fun k t hk hw => ?_, ?_⟩
    · simp [dispatch, DockSpawn.requested]
    · exact h.origin
    · exact h.client
    · exact absurd rfl (h.untracked _ hw k (Finmap.mem_iff.mpr ⟨t, hk⟩))
    · simp
  · refine ⟨fun w hw ws n hn => ?_, ?_⟩
    · have hnone := h.detached w hw ws
      change nodeAt s.workspaceDocs ws w = some n at hn
      rw [hn] at hnone
      cases hnone
    · simp

theorem run_placed (hrec : d.Recorded [] s) (hplcd : d.Placed [] s) (hmixed : ∀ m ∈ ms, d.Mixed m)
    (hrun : Run dispatchStep s ms s') : d.Placed ms s' := by
  have key := hrun.history
    (P := fun ms s => (∀ m ∈ ms, d.Mixed m) → d.Recorded ms s ∧ d.Placed ms s) ?_
    (fun _ => ⟨hrec, hplcd⟩)
  · exact (key hmixed).2
  · rintro ms s m s' ih hstep hmixed
    obtain ⟨hrec, hplcd⟩ := ih (fun m hm => hmixed m (mem_append_left _ hm))
    have hm : d.Mixed m := hmixed m (by simp)
    cases hstep with
    | dispatch order hnd hord =>
      exact ⟨(hrec.step hm).of_record order, hplcd.step hrec hm hord⟩

end DockSpawn

/-- Every order of the messages: each window has its node in the workspace of the
dock and nowhere else exactly if the process was announced before its connection
or before the window. -/
theorem run_attached_iff {d : DockSpawn} {ms : List Message} {s s' : Backend} (hready : d.Ready s)
    (hmsgs : d.Interleaves ms) (hrun : Run dispatchStep s (d.requested :: ms) s') :
    (∀ w ∈ d.windows, shows s'.workspaceDocs d.workspace w = true ∧
      ∀ ws, ws ≠ d.workspace → shows s'.workspaceDocs ws w = false) ↔
      ∀ w ∈ d.windows, Before d.spawned d.connected ms ∨ Before d.spawned (d.created w) ms := by
  have hplcd : d.Placed ms s' := by
    cases hrun with
    | cons hstep hrun =>
      cases hstep with
      | dispatch order hnd hord =>
        obtain ⟨hrec, hplcd⟩ := hready.requested order
        exact DockSpawn.run_placed hrec hplcd hmsgs.mixed hrun
  have hshows : ∀ ws w, shows s'.workspaceDocs ws w = true → nodeAt s'.workspaceDocs ws w ≠ none := by
    intro ws w hshown hnone
    simp [shows, hnone] at hshown
  constructor
  · intro hall w hw
    obtain ⟨n, hn⟩ := ne_none_iff_exists'.mp (hshows _ w (hall w hw).1)
    exact (hplcd.only w hw _ n hn).2.2
  · intro hin w hw
    have hnode := hplcd.joined w hw (hmsgs.created w hw) hmsgs.connected (hin w hw)
    obtain ⟨n, hn⟩ := ne_none_iff_exists'.mp hnode
    refine ⟨?_, fun ws hne => ?_⟩
    · simpa [shows, hn] using (hplcd.only w hw _ n hn).2.1
    · cases hoth : nodeAt s'.workspaceDocs ws w with
      | none => simp [shows, hoth]
      | some n' => exact absurd (hplcd.only w hw ws n' hoth).1 hne

theorem dispatchStep_of_keys {s : Backend} {order : List WindowKey} (hnd : order.Nodup)
    (hkeys : s.windowTrack.keys = order.toFinset) (m : Message) :
    dispatchStep s m (dispatch order s m) := by
  refine .dispatch s m order hnd fun k => ?_
  rw [← Finmap.mem_keys, hkeys, List.mem_toFinset]

/-- Workspaces 1 and 2, and an X11 sidecar without clients. -/
def twoWorkspaces : Backend where
  sidecars := (∅ : HashMap SidecarId SidecarKind).insert 7 .x11
  processes := ∅
  windowTrack := ∅
  windowOwner := ∅
  pendingSpawns := ∅
  spawnOrigin := ∅
  workspaceDocs := ((∅ : WorkspaceDocs).insert 1 ∅).insert 2 ∅

def oneWindow : DockSpawn := ⟨1, 7, 100, 4242, 200, [300]⟩

/-- The order in which a sidecar sends the messages of a slow program. -/
def usualOrder : List Message := [oneWindow.spawned, oneWindow.connected, oneWindow.created 300]

/-- The connection and the window reach the backend before the reply to the request. -/
def lateReply : List Message := [oneWindow.connected, oneWindow.created 300, oneWindow.spawned]

theorem oneWindow_ready : oneWindow.Ready twoWorkspaces := by
  refine ⟨by decide +kernel, by decide +kernel, by decide +kernel, by decide +kernel, ?_, ?_⟩
  · intro w hw k hk
    exact absurd hk notMem_empty
  · intro w hw ws
    simp only [nodeAt, twoWorkspaces, lookup_insert_eq]
    by_cases h2 : ws = 2
    · simp [h2]
    · by_cases h1 : ws = 1 <;> simp [h1, h2]

theorem oneWindow_interleaves {ms : List Message}
    (h : ms.Perm [oneWindow.spawned, oneWindow.connected, oneWindow.created 300]) :
    oneWindow.Interleaves ms := by
  have hw : 300 ∈ oneWindow.windows := by decide
  refine ⟨h.mem_iff.mpr (by simp), h.mem_iff.mpr (by simp), fun w hw => h.mem_iff.mpr ?_, fun m hm => ?_⟩
  · simp [oneWindow] at hw
    simp [hw]
  · simp only [h.mem_iff, mem_cons, not_mem_nil, or_false] at hm
    rcases hm with rfl | rfl | rfl
    · exact .spawned
    · exact .connected
    · exact .created hw

theorem run_attached_usualOrder :
    oneWindow.Ready twoWorkspaces ∧ oneWindow.Interleaves usualOrder ∧
      ∃ s, Run dispatchStep twoWorkspaces (oneWindow.requested :: usualOrder) s ∧
        shows s.workspaceDocs 1 300 = true ∧ ∀ ws, ws ≠ 1 → shows s.workspaceDocs ws 300 = false := by
  have hmsgs : oneWindow.Interleaves usualOrder := oneWindow_interleaves (.refl _)
  refine ⟨oneWindow_ready, hmsgs, ?_⟩
  obtain ⟨s, hrun⟩ : ∃ s, Run dispatchStep twoWorkspaces (oneWindow.requested :: usualOrder) s :=
    ⟨_, .cons (dispatchStep_of_keys nodup_nil (by decide +kernel) oneWindow.requested)
      (.cons (dispatchStep_of_keys nodup_nil (by decide +kernel) oneWindow.spawned)
        (.cons (dispatchStep_of_keys nodup_nil (by decide +kernel) oneWindow.connected)
          (.single (dispatchStep_of_keys nodup_nil (by decide +kernel) (oneWindow.created 300)))))⟩
  exact ⟨s, hrun, (run_attached_iff oneWindow_ready hmsgs hrun).mpr
    (fun w _ => .inl (by decide)) 300 (by decide)⟩

/-- Connection and window come first: the reply to the request makes up for
neither, and the window stays without a node. -/
theorem lateReply_stays_detached :
    oneWindow.Ready twoWorkspaces ∧ oneWindow.Interleaves lateReply ∧
      ∃ s, Run dispatchStep twoWorkspaces (oneWindow.requested :: lateReply) s ∧
        ¬ ∀ w ∈ oneWindow.windows, shows s.workspaceDocs oneWindow.workspace w = true ∧
          ∀ ws, ws ≠ oneWindow.workspace → shows s.workspaceDocs ws w = false := by
  have hperm : lateReply.Perm [oneWindow.spawned, oneWindow.connected, oneWindow.created 300] := by
    decide
  refine ⟨oneWindow_ready, oneWindow_interleaves hperm, ?_⟩
  refine ⟨_, .cons (dispatchStep_of_keys nodup_nil (by decide +kernel) oneWindow.requested)
    (.cons (dispatchStep_of_keys nodup_nil (by decide +kernel) oneWindow.connected)
      (.cons (dispatchStep_of_keys nodup_nil (by decide +kernel) (oneWindow.created 300))
        (.single (dispatchStep_of_keys (nodup_singleton (oneWindow.key 300)) (by decide +kernel)
          oneWindow.spawned)))), fun hall => ?_⟩
  have hshown := (hall 300 (by decide)).1
  revert hshown
  decide +kernel

end X11Web.AutoAttach
