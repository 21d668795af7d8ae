import Mathlib.Data.Finmap
import Mathlib.Data.Finset.Sort
import Mathlib.Data.String.Basic

namespace X11Web.HashMaps

open Option Finmap

/-- A hash map up to its iteration order. Code that iterates over a map takes
the order of the keys as a list of its own. -/
abbrev HashMap (K V : Type) := Finmap (fun _ : K => V)

instance isTrans_le : IsTrans String (· ≤ ·) := inferInstance

instance antisymm_le : Std.Antisymm (α := String) (· ≤ ·) := inferInstance

variable {K V : Type} [DecidableEq K]

theorem lookup_insert_eq (m : HashMap K V) (k a : K) (v : V) :
    (m.insert k v).lookup a = if a = k then some v else m.lookup a := by
  by_cases h : a = k
  · subst a; simp
  · simp [h, lookup_insert_of_ne m h]

theorem lookup_erase_eq (m : HashMap K V) (k a : K) :
    (m.erase k).lookup a = if a = k then none else m.lookup a := by
  by_cases h : a = k
  · subst a; simp
  · simp [h, lookup_erase_ne h]

/-- Change the entry of a key in place; an absent key stays absent. -/
def modify (k : K) (f : V → V) (m : HashMap K V) : HashMap K V :=
  match m.lookup k with
  | some v => m.insert k (f v)
  | none => m

variable {m : HashMap K V}

theorem modify_of_lookup {k : K} {v : V} (h : m.lookup k = some v) (f : V → V) :
    modify k f m = m.insert k (f v) := by
  rw [modify, h]

theorem modify_of_lookup_none {k : K} (h : m.lookup k = none) (f : V → V) : modify k f m = m := by
  rw [modify, h]

theorem lookup_modify (k a : K) (f : V → V) (m : HashMap K V) :
    (modify k f m).lookup a = if a = k then (m.lookup k).map f else m.lookup a := by
  rw [modify]
  cases h : m.lookup k with
  | none =>
    by_cases ha : a = k
    · subst a; simp [h]
    · simp [ha]
  | some v => simp [lookup_insert_eq]

@[simp] theorem lookup_modify_self (k : K) (f : V → V) (m : HashMap K V) :
    (modify k f m).lookup k = (m.lookup k).map f := by
  simp [lookup_modify]

theorem lookup_modify_of_ne {k a : K} (h : a ≠ k) (f : V → V) (m : HashMap K V) :
    (modify k f m).lookup a = m.lookup a := by
  simp [lookup_modify, h]

theorem mem_modify (k a : K) (f : V → V) (m : HashMap K V) : a ∈ modify k f m ↔ a ∈ m := by
  rw [← lookup_isSome, ← lookup_isSome, lookup_modify]
  split
  · subst a; simp
  · rfl

theorem modify_eq_self_iff (k : K) (f : V → V) (m : HashMap K V) :
    modify k f m = m ↔ ∀ v, m.lookup k = some v → f v = v := by
  constructor
  · intro h v hv
    have hk := congrArg (Finmap.lookup k) h
    rw [lookup_modify_self, hv] at hk
    exact some.inj hk
  · intro h
    apply ext_lookup
    intro a
    rw [lookup_modify]
    split
    · next ha =>
      subst ha
      cases hv : m.lookup a with
      | none => rfl
      | some v => rw [map_some, h v hv]
    · rfl

theorem lookup_modify_map {P : Type} (g : V → P) (k a : K) (f : V → V) (m : HashMap K V)
    (h : ∀ v, g (f v) = g v) :
    ((modify k f m).lookup a).map g = (m.lookup a).map g := by
  rw [lookup_modify]
  split
  · subst a
    cases m.lookup k <;> simp [h]
  · rfl

def eraseAll (ks : List K) (m : HashMap K V) : HashMap K V :=
  ks.foldl (fun m k => m.erase k) m

theorem lookup_eraseAll (ks : List K) (m : HashMap K V) (a : K) :
    (eraseAll ks m).lookup a = if a ∈ ks then none else m.lookup a := by
  induction ks generalizing m with
  | nil => simp [eraseAll]
  | cons k ks ih =>
    change (eraseAll ks (m.erase k)).lookup a = _
    rw [ih, lookup_erase_eq]
    by_cases hm : a ∈ ks <;> by_cases hk : a = k <;> simp [hm, hk]

theorem mem_eraseAll (ks : List K) (m : HashMap K V) (a : K) :
    a ∈ eraseAll ks m ↔ a ∉ ks ∧ a ∈ m := by
  rw [← lookup_isSome, ← lookup_isSome, lookup_eraseAll]
  by_cases h : a ∈ ks <;> simp [h]

/-- Keep the entries that satisfy a test, as `HashMap::retain` does. -/
def retain (p : K → V → Bool) (m : HashMap K V) : HashMap K V where
  entries := m.entries.filter (fun e => p e.1 e.2)
  nodupKeys := by
    rw [← Multiset.nodup_keys]
    exact Multiset.nodup_of_le (Multiset.map_le_map (Multiset.filter_le _ _))
      m.nodupKeys.nodup_keys

theorem lookup_retain (p : K → V → Bool) (m : HashMap K V) (a : K) :
    (retain p m).lookup a = (m.lookup a).filter (p a) := by
  apply Option.ext
  intro v
  change v ∈ (retain p m).lookup a ↔ v ∈ (m.lookup a).filter (p a)
  rw [mem_lookup_iff]
  change (⟨a, v⟩ : Sigma fun _ : K => V) ∈ m.entries.filter _ ↔ _
  rw [Multiset.mem_filter, ← mem_lookup_iff]
  simp [filter_eq_some_iff]

/-- Rewrite every value, as a loop over `HashMap::values_mut` does. -/
def mapValues (f : V → V) (m : HashMap K V) : HashMap K V where
  entries := m.entries.map (fun e => ⟨e.1, f e.2⟩)
  nodupKeys := by
    rw [← Multiset.nodup_keys]
    simpa [Multiset.keys, Function.comp_def] using m.nodupKeys.nodup_keys

theorem lookup_mapValues (f : V → V) (m : HashMap K V) (a : K) :
    (mapValues f m).lookup a = (m.lookup a).map f := by
  apply Option.ext
  intro v
  change v ∈ (mapValues f m).lookup a ↔ v ∈ (m.lookup a).map f
  rw [mem_lookup_iff]
  change (⟨a, v⟩ : Sigma fun _ : K => V) ∈ m.entries.map _ ↔ _
  rw [Multiset.mem_map, Option.mem_map]
  constructor
  · rintro ⟨⟨k, u⟩, hmem, heq⟩
    obtain ⟨rfl, hv⟩ := Sigma.mk.inj heq
    exact ⟨u, mem_lookup_iff.mpr hmem, eq_of_heq hv⟩
  · rintro ⟨u, hmem, rfl⟩
    exact ⟨⟨a, u⟩, mem_lookup_iff.mp hmem, rfl⟩

/-- The keys that are in both maps, with their values combined. -/
def zipWith {W U : Type} (f : V → W → U) (m : HashMap K V) (n : HashMap K W) : HashMap K U where
  entries := m.entries.filterMap (fun e => (n.lookup e.1).map (fun w => ⟨e.1, f e.2 w⟩))
  nodupKeys := by
    have hkeys : (m.entries.filterMap (fun e => (n.lookup e.1).map
        (fun w => (⟨e.1, f e.2 w⟩ : Sigma fun _ : K => U)))).keys =
          m.entries.keys.filter (fun k => (n.lookup k).isSome) := by
      rw [Multiset.keys, Multiset.map_filterMap, Multiset.keys, ← Multiset.filterMap_eq_filter,
        Multiset.filterMap_map]
      congr 1
      funext e
      cases h : n.lookup e.1 <;> simp [Option.guard, h]
    rw [← Multiset.nodup_keys, hkeys]
    exact m.nodupKeys.nodup_keys.filter _

theorem lookup_zipWith {W U : Type} (f : V → W → U) (m : HashMap K V) (n : HashMap K W) (a : K) :
    (zipWith f m n).lookup a = (m.lookup a).bind (fun v => (n.lookup a).map (f v)) := by
  apply Option.ext
  intro u
  change u ∈ (zipWith f m n).lookup a ↔ _
  rw [mem_lookup_iff]
  change (⟨a, u⟩ : Sigma fun _ : K => U) ∈ m.entries.filterMap _ ↔ _
  rw [Multiset.mem_filterMap, bind_eq_some_iff]
  constructor
  · rintro ⟨⟨k, v⟩, hmem, heq⟩
    obtain ⟨w, hw, hpair⟩ := map_eq_some_iff.mp heq
    obtain ⟨rfl, hu⟩ := Sigma.mk.inj hpair
    exact ⟨v, mem_lookup_iff.mpr hmem, map_eq_some_iff.mpr ⟨w, hw, eq_of_heq hu⟩⟩
  · rintro ⟨v, hv, hu⟩
    obtain ⟨w, hw, rfl⟩ := map_eq_some_iff.mp hu
    refine ⟨⟨a, v⟩, mem_lookup_iff.mp hv, ?_⟩
    rw [hw]
    rfl

theorem lookup_foldl_pointwise (body : HashMap K V → K → HashMap K V) (g : K → Option V → Option V)
    (hbody : ∀ m k a, (body m k).lookup a = if a = k then g k (m.lookup k) else m.lookup a)
    (ks : List K) (hnd : ks.Nodup) (m : HashMap K V) (a : K) :
    (ks.foldl body m).lookup a = if a ∈ ks then g a (m.lookup a) else m.lookup a := by
  induction ks generalizing m with
  | nil => simp
  | cons k ks ih =>
    obtain ⟨hk, hks⟩ := List.nodup_cons.mp hnd
    rw [List.foldl_cons, ih hks, hbody]
    by_cases ha : a = k
    · subst a; simp [hk]
    · simp [ha]

def IterationOrder (order : List K) (m : HashMap K V) : Prop := order.Nodup ∧ ∀ k, k ∈ order ↔ k ∈ m

theorem exists_iterationOrder_last {k : K} (hk : k ∈ m) : ∃ order, IterationOrder (order ++ [k]) m := by
  refine ⟨(m.keys.erase k).toList, ?_, fun j => ?_⟩
  · refine List.nodup_append.mpr ⟨Finset.nodup_toList _, List.nodup_singleton k, ?_⟩
    rintro a ha b hb rfl
    rw [List.mem_singleton.mp hb, Finset.mem_toList] at ha
    exact Finset.notMem_erase k m.keys ha
  · rw [List.mem_append, Finset.mem_toList, Finset.mem_erase, List.mem_singleton, Finmap.mem_keys]
    by_cases hj : j = k
    · subst hj
      exact iff_of_true (.inr rfl) hk
    · simp [hj]

omit [DecidableEq K] in
theorem exists_iterationOrder (m : HashMap K V) : ∃ order, IterationOrder order m := by
  refine ⟨m.keys.toList, Finset.nodup_toList _, fun k => ?_⟩
  rw [Finset.mem_toList, Finmap.mem_keys]

def MutuallyInverse [DecidableEq V] (m : HashMap K V) (n : HashMap V K) : Prop :=
  ∀ k v, m.lookup k = some v ↔ n.lookup v = some k

theorem mutuallyInverse_empty [DecidableEq V] : MutuallyInverse (∅ : HashMap K V) (∅ : HashMap V K) := by
  intro k v
  simp

theorem MutuallyInverse.insert [DecidableEq V] {n : HashMap V K} (h : MutuallyInverse m n)
    {k : K} {v : V} (hk : m.lookup k = none) (hv : n.lookup v = none) :
    MutuallyInverse (m.insert k v) (n.insert v k) := by
  intro a b
  rw [lookup_insert_eq, lookup_insert_eq]
  by_cases ha : a = k <;> by_cases hb : b = v
  · simp [ha, hb]
  · subst ha
    have hn : n.lookup b ≠ some a := fun hab => by rw [(h a b).mpr hab] at hk; cases hk
    simp [hb, hn, Ne.symm hb]
  · subst hb
    have hm : m.lookup a ≠ some b := fun hab => by rw [(h a b).mp hab] at hv; cases hv
    simp [ha, hm, Ne.symm ha]
  · simpa [ha, hb] using h a b

end X11Web.HashMaps
