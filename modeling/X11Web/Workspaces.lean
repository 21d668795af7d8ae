import X11Web.ClientRenderer

namespace X11Web.Workspaces

open HashMaps Windows ClientRenderer Finmap

abbrev NodeId := Uuid
abbrev SidecarId := Uuid
abbrev WorkspaceId := Uuid

structure WindowExt where
  windowId : WindowId
  sidecarId : SidecarId
deriving DecidableEq

structure EdgeExt where
  start : Option NodeId
  finish : Option NodeId
deriving DecidableEq

/-- A node of the canvas, without its geometry and its drawing. -/
structure OcifNode where
  window : Option WindowExt
  edge : Option EdgeExt
deriving DecidableEq

/-- The nodes of a workspace. The node of a window has the window's identifier. -/
abbrev WorkspaceDoc := HashMap NodeId OcifNode

def windowNode (w : WindowId) (sidecar : SidecarId) : OcifNode := ⟨some ⟨w, sidecar⟩, none⟩

def OcifNode.isWindow (n : OcifNode) : Bool := n.window.isSome

def OcifNode.refersTo (w : WindowId) (n : OcifNode) : Bool :=
  n.edge.any (fun e => e.start == some w || e.finish == some w)

def attachWindowNode (w : WindowId) (sidecar : SidecarId) (doc : WorkspaceDoc) : WorkspaceDoc × Bool :=
  if w ∈ doc then (doc, false) else (doc.insert w (windowNode w sidecar), true)

def detachWindowNode (w : WindowId) (doc : WorkspaceDoc) : WorkspaceDoc × Bool :=
  if w ∈ doc then (retain (fun _ n => !n.refersTo w) (doc.erase w), true) else (doc, false)

/-- What a frontend's changes come to: nodes written and nodes deleted. -/
def receiveSync (changes : List (NodeId × Option OcifNode)) (doc : WorkspaceDoc) : WorkspaceDoc :=
  changes.foldl (fun doc c => c.2.elim (doc.erase c.1) (fun n => doc.insert c.1 n)) doc

abbrev WorkspaceDocs := HashMap WorkspaceId WorkspaceDoc

def nodeAt (docs : WorkspaceDocs) (ws : WorkspaceId) (id : NodeId) : Option OcifNode :=
  (docs.lookup ws).bind (fun doc => doc.lookup id)

def shows (docs : WorkspaceDocs) (ws : WorkspaceId) (w : WindowId) : Bool :=
  (nodeAt docs ws w).any OcifNode.isWindow

def attached (docs : WorkspaceDocs) (w : WindowId) : Bool :=
  decide (∃ ws ∈ docs.keys, shows docs ws w = true)

variable {docs : WorkspaceDocs}

theorem shows_iff {ws : WorkspaceId} {w : WindowId} :
    shows docs ws w = true ↔ ∃ n, nodeAt docs ws w = some n ∧ n.isWindow = true := by
  cases hnode : nodeAt docs ws w <;> simp [shows, hnode]

theorem attached_iff_shows {w : WindowId} : attached docs w = true ↔ ∃ ws, shows docs ws w = true := by
  rw [attached, decide_eq_true_iff]
  refine exists_congr fun ws => and_iff_right_of_imp fun hshown => ?_
  rw [mem_keys, ← lookup_isSome]
  cases hdoc : docs.lookup ws with
  | none => simp [shows, nodeAt, hdoc] at hshown
  | some doc => rfl

theorem attached_iff {w : WindowId} :
    attached docs w = true ↔ ∃ ws n, nodeAt docs ws w = some n ∧ n.isWindow = true := by
  simp only [attached_iff_shows, shows_iff]

theorem lookup_attachWindowNode (w : WindowId) (sidecar : SidecarId) (doc : WorkspaceDoc) (id : NodeId) :
    (attachWindowNode w sidecar doc).1.lookup id =
      if id = w ∧ doc.lookup w = none then some (windowNode w sidecar) else doc.lookup id := by
  rw [attachWindowNode]
  by_cases hw : w ∈ doc
  · have hne : doc.lookup w ≠ none := by
      rw [← Option.isSome_iff_ne_none, lookup_isSome]
      exact hw
    simp [hw, hne]
  · have hnone : doc.lookup w = none := lookup_eq_none.mpr hw
    simp [hw, hnone, lookup_insert_eq]

theorem lookup_receiveSync {changes : List (NodeId × Option OcifNode)} {id : NodeId}
    (h : ∀ c ∈ changes, c.1 ≠ id) (doc : WorkspaceDoc) :
    (receiveSync changes doc).lookup id = doc.lookup id := by
  induction changes generalizing doc with
  | nil => rfl
  | cons c changes ih =>
    have hc : id ≠ c.1 := (h c List.mem_cons_self).symm
    change (receiveSync changes (c.2.elim (doc.erase c.1) (fun n => doc.insert c.1 n))).lookup id = _
    rw [ih (fun c hc => h c (List.mem_cons_of_mem _ hc))]
    cases c.2 with
    | none => exact lookup_erase_ne hc
    | some n => exact lookup_insert_of_ne doc hc

theorem nodeAt_modify (docs : WorkspaceDocs) (ws ws' : WorkspaceId) (f : WorkspaceDoc → WorkspaceDoc)
    (id : NodeId) :
    nodeAt (modify ws f docs) ws' id =
      if ws' = ws then (docs.lookup ws).bind (fun doc => (f doc).lookup id) else nodeAt docs ws' id := by
  rw [nodeAt, lookup_modify]
  by_cases hws : ws' = ws
  · simp [hws, Option.bind_map]
  · simp [hws, nodeAt]

theorem nodeAt_openWorkspace {ws : WorkspaceId} (hnew : ws ∉ docs)
    (ws' : WorkspaceId) (id : NodeId) : nodeAt (docs.insert ws ∅) ws' id = nodeAt docs ws' id := by
  have hnone : docs.lookup ws = none := lookup_eq_none.mpr hnew
  by_cases hsame : ws' = ws
  · subst ws'
    simp [nodeAt, hnone]
  · simp [nodeAt, hsame]

end X11Web.Workspaces
