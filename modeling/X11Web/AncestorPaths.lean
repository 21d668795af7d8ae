import X11Web.Descents

namespace X11Web.AncestorPaths

open LinkedForest RootedForest Descents List

variable {ι : Type} {t : Links ι} {a b c v : ι} {path : List ι}

/-- The nodes from `a` up to `b`, both included. -/
inductive PathTo (t : Links ι) : ι → List ι → ι → Prop
  | here (a : ι) : PathTo t a [a] a
  | up {a p b : ι} {path : List ι} :
      parentOf t a = some p → PathTo t p path b → PathTo t a (a :: path) b

theorem PathTo.head_eq {rest : List ι} (h : PathTo t a (v :: rest) b) : v = a := by
  cases h with
  | here => rfl
  | up _ _ => rfl

theorem PathTo.tail {rest : List ι} (h : PathTo t a (v :: rest) b) (hrest : rest ≠ []) :
    ∃ p, parentOf t a = some p ∧ PathTo t p rest b := by
  cases h with
  | here => exact absurd rfl hrest
  | up hp h => exact ⟨_, hp, h⟩

theorem PathTo.take {below above : List ι} (h : PathTo t a (below ++ v :: above) b) :
    PathTo t a (below ++ [v]) v := by
  induction below generalizing a with
  | nil =>
    obtain rfl := h.head_eq
    exact .here v
  | cons d below ih =>
    obtain rfl := h.head_eq
    obtain ⟨p, hp, h⟩ := h.tail (by simp)
    exact .up hp (ih h)

theorem PathTo.drop {below above : List ι} (h : PathTo t a (below ++ v :: above) b) :
    PathTo t v (v :: above) b := by
  induction below generalizing a with
  | nil =>
    obtain rfl := h.head_eq
    exact h
  | cons d below ih =>
    obtain ⟨p, -, h⟩ := h.tail (by simp)
    exact ih h

theorem PathTo.end_mem (h : PathTo t a path b) : b ∈ path := by
  induction h with
  | here a => exact mem_singleton_self a
  | up _ _ ih => exact mem_cons_of_mem _ ih

theorem PathTo.ancestor_of_mem (h : PathTo t a path b) (hv : v ∈ path) :
    ∃ k, ancestor t k a = some v := by
  induction h with
  | here a => exact ⟨0, by rw [mem_singleton.mp hv]; rfl⟩
  | @up a p b path hp _ ih =>
    obtain rfl | hv := mem_cons.mp hv
    · exact ⟨0, rfl⟩
    · obtain ⟨k, hk⟩ := ih hv
      exact ⟨k + 1, ancestor_succ.mpr ⟨p, hp, hk⟩⟩

theorem PathTo.mem_or_above (h : PathTo t a path b) {k : Nat} (hk : ancestor t k a = some v) :
    v ∈ path ∨ ∃ j, ancestor t (j + 1) b = some v := by
  induction h generalizing k with
  | here a =>
    cases k with
    | zero => exact .inl (by simp [Option.some.inj hk])
    | succ k => exact .inr ⟨k, hk⟩
  | @up a p b path hp _ ih =>
    cases k with
    | zero => exact .inl (by simp [Option.some.inj hk])
    | succ k =>
      obtain ⟨q, hq, hk⟩ := ancestor_succ.mp hk
      obtain rfl := Option.some.inj (hp.symm.trans hq)
      obtain hmem | habove := ih hk
      · exact .inl (mem_cons_of_mem a hmem)
      · exact .inr habove

theorem PathTo.nodup (hacyc : NoCycle t) (h : PathTo t a path b) : path.Nodup := by
  induction h with
  | here a => exact nodup_singleton a
  | @up a p b path hp hpath ih =>
    refine nodup_cons.mpr ⟨fun hmem => ?_, ih⟩
    obtain ⟨k, hk⟩ := hpath.ancestor_of_mem hmem
    exact hacyc a k (ancestor_succ.mpr ⟨p, hp, hk⟩)

def ProperAncestor (t : Links ι) (a b : ι) : Prop := ∃ k, ancestor t (k + 1) b = some a

/-- The nodes strictly between `a` and its ancestor-or-self `b`, from `a` upwards. -/
def Inner (t : Links ι) (a : ι) (inner : List ι) (b : ι) : Prop :=
  a = b ∧ inner = [] ∨ PathTo t a (a :: inner ++ [b]) b

/-- The lowest common ancestor, where each node counts among its own ancestors. -/
structure IsLca (t : Links ι) (a b c : ι) : Prop where
  left : ∃ k, ancestor t k a = some c
  right : ∃ k, ancestor t k b = some c
  lowest : ∀ d i j, ancestor t i a = some d → ancestor t j b = some d →
    ∃ k, ancestor t k c = some d

theorem IsLca.of_above (h : ∃ k, ancestor t k b = some a) : IsLca t a b a :=
  ⟨⟨0, rfl⟩, h, fun _ i _ hi _ => ⟨i, hi⟩⟩

theorem IsLca.symm (h : IsLca t a b c) : IsLca t b a c :=
  ⟨h.right, h.left, fun d i j hi hj => h.lowest d j i hj hi⟩

theorem PathTo.climbs (h : PathTo t a path b) : ∃ k, ancestor t k a = some b := by
  induction h with
  | here a => exact ⟨0, rfl⟩
  | @up a p b path hp _ ih =>
    obtain ⟨k, hk⟩ := ih
    exact ⟨k + 1, ancestor_succ.mpr ⟨p, hp, hk⟩⟩

theorem IsLca.of_first (hacyc : NoCycle t) {below : List ι} {root : ι}
    (h : PathTo t a path root) (hb : PathTo t b (below ++ [c]) c) (hc : c ∈ path)
    (hbel : ∀ d ∈ below, d ∉ path) : IsLca t a b c := by
  refine ⟨h.ancestor_of_mem hc, hb.climbs, ?_⟩
  intro d i j hi hj
  obtain hd | ⟨k, hk⟩ := hb.mem_or_above hj
  · obtain hd | hd := mem_append.mp hd
    · obtain hpath | ⟨k, hk⟩ := h.mem_or_above hi
      · exact absurd hpath (hbel d hd)
      · -- above the root and below `c` at once: a cycle
        obtain ⟨l, r, hlr⟩ := append_of_mem (mem_append_left [c] hd)
        obtain ⟨l', r', rfl⟩ := append_of_mem hc
        rw [hlr] at hb
        obtain ⟨i', hi'⟩ := hb.drop.climbs
        obtain ⟨j', hj'⟩ := h.drop.climbs
        refine absurd ?_ (hacyc d (i' + (j' + k)))
        rw [Nat.add_assoc, ancestor_add _ hi', Nat.add_assoc, ancestor_add _ hj', hk]
    · exact ⟨0, by rw [mem_singleton.mp hd]; rfl⟩
  · exact ⟨k + 1, hk⟩

theorem PathTo.climbs_length {rest : List ι} (h : PathTo t a (a :: rest) b) : ancestor t rest.length a = some b := by
  induction rest generalizing a with
  | nil =>
    cases h with
    | here => rfl
    | up _ h => cases h
  | cons p rest ih =>
    obtain ⟨q, hq, h⟩ := h.tail (cons_ne_nil p rest)
    obtain rfl := h.head_eq
    exact ancestor_succ.mpr ⟨p, hq, ih h⟩

theorem PathTo.climbs_of_mem (h : PathTo t a path b) (hv : v ∈ path) : ∃ k, ancestor t k v = some b := by
  obtain ⟨below, above, rfl⟩ := append_of_mem hv
  exact h.drop.climbs

theorem ancestor_antisymm (hacyc : NoCycle t) {i j : Nat} (h : ancestor t i a = some b)
    (h' : ancestor t j b = some a) : a = b := by
  cases i with
  | zero => exact Option.some.inj h
  | succ i =>
    refine absurd ?_ (hacyc a (i + j))
    rw [Nat.add_right_comm, ancestor_add _ h, h']

theorem PathTo.mem_of_between (hacyc : NoCycle t) (h : PathTo t a path b) {i j : Nat}
    (hi : ancestor t i a = some v) (hj : ancestor t j v = some b) : v ∈ path := by
  obtain hmem | ⟨k, hk⟩ := h.mem_or_above hi
  · exact hmem
  · exact ancestor_antisymm hacyc hk hj ▸ h.end_mem

theorem IsLca.unique (hacyc : NoCycle t) {d : ι} (h : IsLca t a b c) (h' : IsLca t a b d) : c = d := by
  obtain ⟨⟨i, hi⟩, ⟨j, hj⟩⟩ := And.intro h.left h.right
  obtain ⟨⟨i', hi'⟩, ⟨j', hj'⟩⟩ := And.intro h'.left h'.right
  obtain ⟨k, hk⟩ := h'.lowest c i j hi hj
  obtain ⟨k', hk'⟩ := h.lowest d i' j' hi' hj'
  exact ancestor_antisymm hacyc hk' hk

/-- The nodes between one of the two and their lowest common ancestor, all ends included. -/
def OnTheWay (t : Links ι) (a b v : ι) : Prop :=
  ∃ c, IsLca t a b c ∧ (∃ k, ancestor t k v = some c) ∧
    ((∃ k, ancestor t k a = some v) ∨ ∃ k, ancestor t k b = some v)

theorem Inner.mem_iff (hacyc : NoCycle t) {inner : List ι} (h : Inner t a inner c) :
    ((∃ k, ancestor t k v = some c) ∧ ∃ k, ancestor t k a = some v) ↔ v = a ∨ v = c ∨ v ∈ inner := by
  obtain ⟨rfl, rfl⟩ | hpath := h
  · constructor
    · rintro ⟨⟨k, hk⟩, ⟨j, hj⟩⟩
      exact .inl (ancestor_antisymm hacyc hk hj)
    · rintro (rfl | rfl | hv)
      · exact ⟨⟨0, rfl⟩, ⟨0, rfl⟩⟩
      · exact ⟨⟨0, rfl⟩, ⟨0, rfl⟩⟩
      · cases hv
  · constructor
    · rintro ⟨⟨k, hk⟩, ⟨j, hj⟩⟩
      simpa [or_assoc, or_comm (a := v = c)] using hpath.mem_of_between hacyc hj hk
    · intro hv
      have hmem : v ∈ a :: inner ++ [c] := by
        rcases hv with rfl | rfl | hv <;> simp [*]
      exact ⟨hpath.climbs_of_mem hmem, hpath.ancestor_of_mem hmem⟩

end X11Web.AncestorPaths
