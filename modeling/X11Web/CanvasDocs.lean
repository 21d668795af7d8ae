import X11Web.HashMaps
import Mathlib.Data.Finset.Sort
import Mathlib.Data.String.Basic

namespace X11Web.CanvasDocs

open HashMaps Option Finmap

abbrev NodeId := String

structure WindowExt where
  windowId : String
  sidecarId : String
deriving DecidableEq

structure EdgeExt where
  start : Option NodeId
  finish : Option NodeId
  directed : Bool
deriving DecidableEq

/-- A node of the canvas, without its geometry and its drawing. -/
structure OcifNode where
  window : Option WindowExt
  edge : Option EdgeExt
deriving DecidableEq

/-- The nodes of a workspace document. The node of a window has the window's identifier. -/
abbrev WorkspaceDoc := HashMap NodeId OcifNode

def OcifNode.refersTo (id : NodeId) (n : OcifNode) : Bool :=
  n.edge.any (fun e => e.start == some id || e.finish == some id)

def attachWindowNode (windowId sidecarId : String) (nodes : WorkspaceDoc) : WorkspaceDoc × Bool :=
  if windowId ∈ nodes then (nodes, false)
  else (nodes.insert windowId ⟨some ⟨windowId, sidecarId⟩, none⟩, true)

/-- The new document, and whether it has changed. The edges at the window are collected first. -/
def detachWindowNode (windowId : String) (nodes : WorkspaceDoc) : WorkspaceDoc × Bool :=
  if windowId ∈ nodes then
    let nodes := nodes.erase windowId
    let toDelete := (nodes.keys.sort (· ≤ ·)).filter
      (fun other => (nodes.lookup other).any (OcifNode.refersTo windowId))
    (eraseAll toDelete nodes, true)
  else (nodes, false)

/-- The frontend's own deletion. `entries` is the order in which it comes to the other nodes. -/
def deleteOcifNode (entries : List NodeId) (id : NodeId) (nodes : WorkspaceDoc) : WorkspaceDoc :=
  if id ∈ nodes then
    entries.foldl
      (fun nodes otherId => if (nodes.lookup otherId).any (OcifNode.refersTo id) then nodes.erase otherId else nodes)
      (nodes.erase id)
  else nodes

def windowNodeIds (nodes : WorkspaceDoc) : List String :=
  (nodes.keys.sort (· ≤ ·)).filter (fun id => (nodes.lookup id).any (fun n => n.window.isSome))

/-- What a frontend's changes come to: nodes written and nodes deleted. -/
def receiveSync (changes : List (NodeId × Option OcifNode)) (nodes : WorkspaceDoc) : WorkspaceDoc :=
  changes.foldl (fun nodes c => c.2.elim (nodes.erase c.1) (fun n => nodes.insert c.1 n)) nodes

def EdgesClosed (nodes : WorkspaceDoc) : Prop :=
  ∀ k n id, nodes.lookup k = some n → n.refersTo id = true → id ∈ nodes

/-- The node itself, the edges at it, the edges at these, and so on. -/
inductive DependsOn (nodes : WorkspaceDoc) (id : NodeId) : NodeId → Prop
  | self : DependsOn nodes id id
  | edge {k j : NodeId} {n : OcifNode} (hk : nodes.lookup k = some n) (hj : n.refersTo j = true)
      (h : DependsOn nodes id j) : DependsOn nodes id k

/-- The node is gone, every edge that stays ends at nodes that are there, and nothing is
lost but what depended on the node. -/
structure Sweeps (id : NodeId) (nodes nodes' : WorkspaceDoc) : Prop where
  gone : id ∉ nodes'
  closed : EdgesClosed nodes'
  kept : ∀ k n, nodes'.lookup k = some n → nodes.lookup k = some n
  only : ∀ k, k ∈ nodes → k ∉ nodes' → DependsOn nodes id k

/-- An edge at another edge that ends at the node ends at the node itself. -/
def OneLevel (id : NodeId) (nodes : WorkspaceDoc) : Prop :=
  ∀ k n j m, nodes.lookup k = some n → n.refersTo j = true → nodes.lookup j = some m → m.refersTo id = true →
    k = id ∨ n.refersTo id = true

variable {nodes nodes' : WorkspaceDoc} {id : NodeId} {entries : List NodeId}

def Swept (id : NodeId) (nodes nodes' : WorkspaceDoc) : Prop :=
  ∀ k, nodes'.lookup k = if k = id then none else (nodes.lookup k).filter fun n => !n.refersTo id

theorem swept_absent (hcld : EdgesClosed nodes) (hid : id ∉ nodes) : Swept id nodes nodes := by
  intro k
  split
  · next hk => exact lookup_eq_none.mpr (hk ▸ hid)
  · cases hn : nodes.lookup k with
    | none => rfl
    | some n =>
      have hrefers : n.refersTo id = false := Bool.eq_false_iff.mpr fun h => hid (hcld k n id hn h)
      simp [filter_some, hrefers]

theorem swept_detachWindowNode (hcld : EdgesClosed nodes) (id : NodeId) :
    Swept id nodes (detachWindowNode id nodes).1 := by
  rw [detachWindowNode]
  split
  · intro k
    simp only [lookup_eraseAll, List.mem_filter, Finset.mem_sort, mem_keys, lookup_erase_eq]
    by_cases hk : k = id
    · simp [hk]
    · cases hn : nodes.lookup k with
      | none => simp [hk]
      | some n =>
        have hmem : k ∈ nodes := Finmap.mem_iff.mpr ⟨n, hn⟩
        by_cases hrefers : n.refersTo id = true <;>
          simp [hk, hrefers, hmem, filter_some]
  · next hid => exact swept_absent hcld hid

theorem lookup_sweep (id : NodeId) (entries : List NodeId) (nodes : WorkspaceDoc) (k : NodeId) :
    (entries.foldl
      (fun nodes otherId => if (nodes.lookup otherId).any (OcifNode.refersTo id) then nodes.erase otherId else nodes)
      nodes).lookup k = if k ∈ entries then (nodes.lookup k).filter fun n => !n.refersTo id else nodes.lookup k := by
  induction entries generalizing nodes with
  | nil => rfl
  | cons other entries ih =>
    rw [List.foldl_cons, ih]
    have hstep : (if (nodes.lookup other).any (OcifNode.refersTo id) then nodes.erase other else nodes).lookup k =
        if k = other then (nodes.lookup k).filter fun n => !n.refersTo id else nodes.lookup k := by
      by_cases hk : k = other
      · subst hk
        cases hn : nodes.lookup k with
        | none => simp [hn]
        | some n => by_cases hrefers : n.refersTo id = true <;> simp [hrefers, hn, filter_some]
      · rw [if_neg hk]
        split
        · rw [lookup_erase_eq, if_neg hk]
        · rfl
    rw [hstep]
    by_cases hk : k = other
    · subst hk
      by_cases hmem : k ∈ entries
      · simp [hmem, filter_filter]
      · simp [hmem]
    · simp [hk]

theorem swept_deleteOcifNode (hcld : EdgesClosed nodes) (hord : IterationOrder entries (nodes.erase id)) :
    Swept id nodes (deleteOcifNode entries id nodes) := by
  rw [deleteOcifNode]
  split
  · intro k
    rw [lookup_sweep]
    simp only [hord.2 k, lookup_erase_eq, mem_erase]
    by_cases hk : k = id
    · simp [hk]
    · cases hn : nodes.lookup k with
      | none => simp [hk]
      | some n =>
        have hmem : k ∈ nodes := Finmap.mem_iff.mpr ⟨n, hn⟩
        simp [hk, hmem]
  · next hid => exact swept_absent hcld hid

variable {k : NodeId}

theorem Swept.lookup_eq_some_iff (h : Swept id nodes nodes') {n : OcifNode} :
    nodes'.lookup k = some n ↔ k ≠ id ∧ nodes.lookup k = some n ∧ n.refersTo id = false := by
  rw [h k]
  by_cases hk : k = id
  · simp [hk]
  · simp [hk, filter_eq_some_iff]

theorem Swept.mem_iff (h : Swept id nodes nodes') :
    k ∈ nodes' ↔ k ≠ id ∧ ∃ n, nodes.lookup k = some n ∧ n.refersTo id = false := by
  rw [Finmap.mem_iff]
  simp only [h.lookup_eq_some_iff, exists_and_left]

theorem Swept.sweeps_iff_oneLevel (h : Swept id nodes nodes') (hcld : EdgesClosed nodes) :
    Sweeps id nodes nodes' ↔ OneLevel id nodes := by
  constructor
  · intro hsweeps k n j m hk hj hm hmid
    by_contra hnot
    obtain ⟨hkid, hnid⟩ := not_or.mp hnot
    have hj' : j ∈ nodes' :=
      hsweeps.closed k n j (h.lookup_eq_some_iff.mpr ⟨hkid, hk, Bool.eq_false_iff.mpr hnid⟩) hj
    obtain ⟨-, m', hm', hm'id⟩ := h.mem_iff.mp hj'
    rw [hm, some.injEq] at hm'
    rw [← hm', hmid] at hm'id
    cases hm'id
  · intro hlevel
    refine ⟨fun hid => (h.mem_iff.mp hid).1 rfl, fun k n j hk hj => ?_,
      fun k n hk => (h.lookup_eq_some_iff.mp hk).2.1, fun k hk hgone => ?_⟩
    · obtain ⟨hkid, hk, hnid⟩ := h.lookup_eq_some_iff.mp hk
      obtain ⟨m, hm⟩ := Finmap.mem_iff.mp (hcld k n j hk hj)
      refine h.mem_iff.mpr ⟨?_, m, hm, Bool.eq_false_iff.mpr fun hmid => ?_⟩
      · rintro rfl
        rw [hj] at hnid
        cases hnid
      · obtain heq | hrefers := hlevel k n j m hk hj hm hmid
        · exact hkid heq
        · rw [hrefers] at hnid
          cases hnid
    · by_cases hkid : k = id
      · rw [hkid]
        exact .self
      · obtain ⟨n, hn⟩ := Finmap.mem_iff.mp hk
        refine .edge hn ?_ .self
        by_contra hnid
        exact hgone (h.mem_iff.mpr ⟨hkid, n, hn, Bool.eq_false_iff.mpr hnid⟩)

/-- The backend and the frontend both sweep one level of edges. -/
theorem deletions_sweep_iff (hcld : EdgesClosed nodes) (id : NodeId)
    (hord : IterationOrder entries (nodes.erase id)) :
    (Sweeps id nodes (detachWindowNode id nodes).1 ↔ OneLevel id nodes) ∧
      (Sweeps id nodes (deleteOcifNode entries id nodes) ↔ OneLevel id nodes) ∧
      deleteOcifNode entries id nodes = (detachWindowNode id nodes).1 := by
  have hbe := swept_detachWindowNode hcld id
  have hfe := swept_deleteOcifNode hcld hord
  refine ⟨hbe.sweeps_iff_oneLevel hcld, hfe.sweeps_iff_oneLevel hcld, ?_⟩
  apply ext_lookup
  intro k
  rw [hfe k, hbe k]

def window : OcifNode := ⟨some ⟨"w", "s"⟩, none⟩

def edgeFrom (id : NodeId) : OcifNode := ⟨none, some ⟨some id, none, true⟩⟩

theorem edgeFrom_refersTo {id j : NodeId} : (edgeFrom id).refersTo j = true ↔ id = j := by
  simp [edgeFrom, OcifNode.refersTo]

def labelled : WorkspaceDoc := (∅ : WorkspaceDoc).insert "w" window |>.insert "e" (edgeFrom "w")

def chained : WorkspaceDoc := labelled.insert "f" (edgeFrom "e")

theorem lookup_labelled {n : OcifNode} (h : labelled.lookup k = some n) :
    (k = "w" ∧ n = window) ∨ (k = "e" ∧ n = edgeFrom "w") := by
  simp only [labelled, lookup_insert_eq, lookup_empty] at h
  split at h
  · next hk => exact .inr ⟨hk, (some.inj h).symm⟩
  · split at h
    · next hk => exact .inl ⟨hk, (some.inj h).symm⟩
    · cases h

theorem labelled_closed : EdgesClosed labelled := by
  intro k n id hk hrefers
  obtain ⟨rfl, rfl⟩ | ⟨rfl, rfl⟩ := lookup_labelled hk
  · cases hrefers
  · obtain rfl := edgeFrom_refersTo.mp hrefers
    decide +kernel

theorem deletions_sweep_labelled : Sweeps "w" labelled (detachWindowNode "w" labelled).1 ∧
    Sweeps "w" labelled (deleteOcifNode ["e"] "w" labelled) := by
  have hord : IterationOrder ["e"] (labelled.erase "w") := by
    refine ⟨List.nodup_singleton _, fun k => ?_⟩
    rw [List.mem_singleton, mem_erase]
    constructor
    · rintro rfl
      decide +kernel
    · rintro ⟨hne, hk⟩
      obtain ⟨n, hn⟩ := Finmap.mem_iff.mp hk
      obtain ⟨hw, -⟩ | ⟨he, -⟩ := lookup_labelled hn
      · exact absurd hw hne
      · exact he
  obtain ⟨hbe, hfe, -⟩ := deletions_sweep_iff labelled_closed "w" hord
  have hlevel : OneLevel "w" labelled := by
    intro k n j m hk hj hm hmw
    obtain ⟨rfl, rfl⟩ | ⟨rfl, rfl⟩ := lookup_labelled hk
    · exact .inl rfl
    · exact .inr (edgeFrom_refersTo.mpr rfl)
  exact ⟨hbe.mpr hlevel, hfe.mpr hlevel⟩

theorem lookup_chained {n : OcifNode} (h : chained.lookup k = some n) :
    (k = "f" ∧ n = edgeFrom "e") ∨ labelled.lookup k = some n := by
  rw [chained, lookup_insert_eq] at h
  split at h
  · next hk => exact .inl ⟨hk, (some.inj h).symm⟩
  · exact .inr h

/-- The edge from the edge stays, without the edge it was from. -/
theorem chained_dangles : EdgesClosed chained ∧ ¬ Sweeps "w" chained (detachWindowNode "w" chained).1 ∧
    ∀ entries, IterationOrder entries (chained.erase "w") →
      ¬ Sweeps "w" chained (deleteOcifNode entries "w" chained) := by
  have hcld : EdgesClosed chained := by
    intro k n id hk hrefers
    obtain ⟨rfl, rfl⟩ | hk := lookup_chained hk
    · obtain rfl := edgeFrom_refersTo.mp hrefers
      decide +kernel
    · exact mem_insert.mpr (.inr (labelled_closed k n id hk hrefers))
  have hlevel : ¬ OneLevel "w" chained := by
    intro h
    obtain hfw | hrefers := h "f" (edgeFrom "e") "e" (edgeFrom "w") (by decide +kernel) (edgeFrom_refersTo.mpr rfl)
      (by decide +kernel) (edgeFrom_refersTo.mpr rfl)
    · exact absurd hfw (by decide)
    · exact absurd (edgeFrom_refersTo.mp hrefers) (by decide)
  refine ⟨hcld, ?_, fun entries hord => ?_⟩
  · rw [(swept_detachWindowNode hcld "w").sweeps_iff_oneLevel hcld]
    exact hlevel
  · rw [(swept_deleteOcifNode hcld hord).sweeps_iff_oneLevel hcld]
    exact hlevel

end X11Web.CanvasDocs
