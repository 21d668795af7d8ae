import Mathlib.Data.List.Count
import Mathlib.Logic.Function.Basic
import Mathlib.Logic.Relation

namespace X11Web.LinkedForest

open List Function

variable {ι : Type} [DecidableEq ι]

/-- A forest node that stores both directions of its links. -/
@[ext] structure Node (ι : Type) where
  parent : ι
  children : List ι

abbrev Links (ι : Type) := ι → Option (Node ι)

variable {root off : ι} {t : Links ι}

def edit (k : ι) (f : Node ι → Node ι) (t : Links ι) : Links ι :=
  update t k ((t k).map f)

def addChild (w : ι) (n : Node ι) : Node ι := { n with children := n.children ++ [w] }

def dropChild (w : ι) (n : Node ι) : Node ι :=
  { n with children := n.children.filter (fun c => decide (c ≠ w)) }

def setParent (q : ι) (n : Node ι) : Node ι := { n with parent := q }

def mapChildren (f : List ι → List ι) (n : Node ι) : Node ι := { n with children := f n.children }

/-- The two link directions say the same thing: a node is listed exactly once
by its parent, and a listed node is a child of the one that lists it. -/
structure Agree (root : ι) (t : Links ι) : Prop where
  up : ∀ w n, t w = some n → w ≠ root → ∃ p, t n.parent = some p ∧ p.children.count w = 1
  down : ∀ p n, t p = some n → ∀ c ∈ n.children, ∃ m, t c = some m ∧ m.parent = p

def parentOf (t : Links ι) (w : ι) : Option ι := (t w).map Node.parent

def childrenIn (t : Links ι) (w : ι) : List ι := (t w).elim [] Node.children

/-- How often `p` lists `c` among its children. -/
def listings (t : Links ι) (p c : ι) : Nat := (childrenIn t p).count c

variable {w p : ι}

omit [DecidableEq ι] in
theorem parentOf_eq_some : parentOf t w = some p ↔ ∃ n, t w = some n ∧ n.parent = p := by
  simp [parentOf]

omit [DecidableEq ι] in
theorem mem_childrenIn {w c : ι} : c ∈ childrenIn t w ↔ ∃ n, t w = some n ∧ c ∈ n.children := by
  cases h : t w <;> simp [childrenIn, h]

theorem listings_some {p : ι} {n : Node ι} (h : t p = some n) (c : ι) :
    listings t p c = n.children.count c := by
  simp [listings, childrenIn, h]

variable (k v : ι) (f : Node ι → Node ι)

theorem edit_apply (t : Links ι) : edit k f t v = if v = k then (t k).map f else t v := by
  simp [edit, update_apply]

@[simp] theorem isSome_edit (t : Links ι) : (edit k f t v).isSome = (t v).isSome := by
  rw [edit_apply]
  split
  · subst v
    exact Option.isSome_map
  · rfl

theorem edit_eq_none (t : Links ι) : edit k f t v = none ↔ t v = none := by
  rw [← Option.not_isSome_iff_eq_none, isSome_edit, Option.not_isSome_iff_eq_none]

theorem parentOf_edit (t : Links ι)
    (h : ∀ n, (f n).parent = n.parent) : parentOf (edit k f t) v = parentOf t v := by
  unfold parentOf
  rw [edit_apply]
  split
  · subst v
    cases t k <;> simp [h]
  · rfl

@[simp] theorem parentOf_addChild (k w v : ι) (t : Links ι) :
    parentOf (edit k (addChild w) t) v = parentOf t v :=
  parentOf_edit k v (addChild w) t (fun _ => rfl)

@[simp] theorem parentOf_dropChild (k w v : ι) (t : Links ι) :
    parentOf (edit k (dropChild w) t) v = parentOf t v :=
  parentOf_edit k v (dropChild w) t (fun _ => rfl)

@[simp] theorem parentOf_mapChildren (f : List ι → List ι) (t : Links ι) :
    parentOf (edit k (mapChildren f) t) v = parentOf t v :=
  parentOf_edit k v (mapChildren f) t (fun _ => rfl)

theorem parentOf_setParent (w q v : ι) (t : Links ι) :
    parentOf (edit w (setParent q) t) v =
      if v = w then (parentOf t w).map (fun _ => q) else parentOf t v := by
  unfold parentOf
  rw [edit_apply]
  split
  · cases t w <;> simp [setParent]
  · rfl

theorem parentOf_update (w v : ι) (n : Option (Node ι)) (t : Links ι) :
    parentOf (update t w n) v = if v = w then n.map Node.parent else parentOf t v := by
  rw [parentOf]
  rw [update_apply]
  split <;> rfl

theorem listings_edit (k p c : ι) (f : Node ι → Node ι) (t : Links ι) :
    listings (edit k f t) p c =
      if p = k then (t k).elim 0 (fun n => (f n).children.count c) else listings t p c := by
  rw [listings, childrenIn]
  rw [edit_apply]
  split
  · cases t k <;> simp
  · rfl

theorem listings_addChild (k w p c : ι) (t : Links ι) :
    listings (edit k (addChild w) t) p c =
      listings t p c + if p = k ∧ c = w ∧ (t k).isSome then 1 else 0 := by
  rw [listings_edit]
  by_cases hp : p = k
  · subst p
    cases h : t k with
    | none => simp [listings, childrenIn, h]
    | some n =>
      by_cases hc : c = w
      · subst c; simp [listings, childrenIn, h, addChild]
      · simp [listings, childrenIn, h, addChild, hc, Ne.symm hc]
  · simp [hp]

theorem listings_dropChild (k w p c : ι) (t : Links ι) :
    listings (edit k (dropChild w) t) p c = if p = k ∧ c = w then 0 else listings t p c := by
  rw [listings_edit]
  by_cases hp : p = k
  · subst p
    cases h : t k with
    | none => simp [listings, childrenIn, h]
    | some n =>
      by_cases hc : c = w
      · subst c; simp [dropChild, count_eq_zero]
      · simp [listings, childrenIn, h, dropChild, hc, count_filter]
  · simp [hp]

theorem listings_setParent (k q p c : ι) (t : Links ι) :
    listings (edit k (setParent q) t) p c = listings t p c := by
  rw [listings_edit]
  split
  · subst p
    cases h : t k <;> simp [listings, childrenIn, h, setParent]
  · rfl

theorem listings_update (w p c : ι) (n : Option (Node ι)) (t : Links ι) :
    listings (update t w n) p c =
      if p = w then n.elim 0 (fun n => n.children.count c) else listings t p c := by
  rw [listings, childrenIn]
  rw [update_apply]
  split
  · cases n <;> rfl
  · rfl

theorem parentOf_attach (w p v : ι) (t : Links ι) :
    parentOf (edit p (addChild w) (update t w (some ⟨p, []⟩))) v =
      if v = w then some p else parentOf t v := by
  rw [parentOf_addChild, parentOf_update]
  rfl

theorem listings_attach (hw : t w = none) (hwp : p ≠ w) (q c : ι) :
    listings (edit p (addChild w) (update t w (some ⟨p, []⟩))) q c =
      listings t q c + if q = p ∧ c = w ∧ (t p).isSome then 1 else 0 := by
  rw [listings_addChild, listings_update, update_of_ne hwp]
  by_cases hq : q = w
  · subst q
    simp [listings, childrenIn, hw, Ne.symm hwp]
  · simp [hq]

theorem parentOf_relink (hw : parentOf t w = some p) (q v : ι) :
    parentOf (edit q (addChild w) (edit w (setParent q) (edit p (dropChild w) t))) v =
      if v = w then some q else parentOf t v := by
  rw [parentOf_addChild, parentOf_setParent, parentOf_dropChild, parentOf_dropChild, hw]
  rfl

theorem listings_relink {q : ι} (hq : (t q).isSome) (w p r c : ι) :
    listings (edit q (addChild w) (edit w (setParent q) (edit p (dropChild w) t))) r c =
      (if r = p ∧ c = w then 0 else listings t r c) + if r = q ∧ c = w then 1 else 0 := by
  rw [listings_addChild, listings_setParent, listings_dropChild]
  simp [hq]

/-- `Agree` counted: how often a node lists another one is fixed by the parent
links alone. Every edit below is checked in this form. -/
structure Counted (root : ι) (t : Links ι) : Prop where
  count : ∀ p c, c ≠ root → listings t p c = if parentOf t c = some p then 1 else 0
  rootListed : ∀ p, listings t p root ≠ 0 → parentOf t root = some p

theorem Counted.agree (h : Counted root t) : Agree root t := by
  constructor
  · intro w n hw hroot
    have hpar : parentOf t w = some n.parent := by simp [parentOf, hw]
    have hone : listings t n.parent w = 1 := by rw [h.count _ _ hroot, if_pos hpar]
    cases hp : t n.parent with
    | none => simp [listings, childrenIn, hp] at hone
    | some p => exact ⟨p, rfl, by rwa [listings_some hp] at hone⟩
  · intro p n hp c hc
    have hpos : listings t p c ≠ 0 := by
      rw [listings_some hp]
      exact Nat.ne_of_gt (count_pos_iff.mpr hc)
    apply parentOf_eq_some.mp
    by_cases hroot : c = root
    · subst c
      exact h.rootListed p hpos
    · by_contra hne
      rw [h.count p c hroot, if_neg hne] at hpos
      exact hpos rfl

theorem Agree.parentOf_listed (h : Agree root t) {p c : ι} (hl : listings t p c ≠ 0) :
    parentOf t c = some p := by
  obtain ⟨n, hn, hc⟩ := mem_childrenIn.mp (count_pos_iff.mp (Nat.pos_of_ne_zero hl))
  exact parentOf_eq_some.mpr (h.down p n hn c hc)

theorem Agree.counted (h : Agree root t) : Counted root t := by
  refine ⟨?_, fun p hl => h.parentOf_listed hl⟩
  intro p c hroot
  split
  · next hpar =>
    obtain ⟨m, hm, rfl⟩ := parentOf_eq_some.mp hpar
    obtain ⟨q, hq, hc⟩ := h.up c m hm hroot
    rw [listings_some hq, hc]
  · next hpar =>
    by_contra hk
    exact hpar (h.parentOf_listed hk)

theorem Agree.attach (h : Agree root t) (hw : t w = none) (hp : (t p).isSome) :
    Agree root (edit p (addChild w) (update t w (some ⟨p, []⟩))) := by
  obtain ⟨hcnt, hroot⟩ := h.counted
  have hnone : parentOf t w = none := by simp [parentOf, hw]
  have hwp : p ≠ w := by
    rintro rfl
    simp [hw] at hp
  apply Counted.agree
  constructor
  · intro q c hc
    have hqc := hcnt q c hc
    rw [parentOf_attach, listings_attach hw hwp]
    grind
  · intro q hq
    rw [listings_attach hw hwp] at hq
    rw [parentOf_attach]
    grind

def Restacked (w : ι) (cs cs' : List ι) : Prop :=
  cs'.count w = 1 ∧ ∀ v, v ≠ w → cs'.count v = cs.count v

theorem Restacked.insertIdx (w : ι) (cs : List ι) (i : Nat)
    (hi : i ≤ (cs.filter (fun c => decide (c ≠ w))).length) :
    Restacked w cs ((cs.filter (fun c => decide (c ≠ w))).insertIdx i w) := by
  have hperm := perm_insertIdx w (cs.filter (fun c => decide (c ≠ w))) hi
  constructor
  · rw [hperm.count_eq, count_cons_self, count_eq_zero_of_not_mem (by simp)]
  · intro v hv
    rw [hperm.count_eq, count_cons_of_ne (Ne.symm hv), count_filter (by simpa using hv)]

theorem listings_restack (f : List ι → List ι)
    (hf : ∀ n, t p = some n → Restacked w n.children (f n.children)) (q c : ι) :
    listings (edit p (mapChildren f) t) q c =
      if q = p ∧ c = w ∧ (t p).isSome then 1 else listings t q c := by
  rw [listings_edit]
  by_cases hq : q = p
  · subst q
    cases hp : t p with
    | none => simp [listings, childrenIn, hp]
    | some n =>
      obtain ⟨hone, hoth⟩ := hf n hp
      by_cases hc : c = w
      · subst c; simp [mapChildren, hone]
      · simp [listings, childrenIn, hp, mapChildren, hc, hoth c hc]
  · simp [hq]

theorem Agree.restack (h : Agree root t) (hw : parentOf t w = some p)
    (f : List ι → List ι) (hf : ∀ n, t p = some n → Restacked w n.children (f n.children)) :
    Agree root (edit p (mapChildren f) t) := by
  obtain ⟨hcnt, hroot⟩ := h.counted
  have hlist := listings_restack f hf
  have hsome : w ≠ root → (t p).isSome := by
    intro hne
    obtain ⟨m, hm, rfl⟩ := parentOf_eq_some.mp hw
    obtain ⟨q, hq, -⟩ := h.up w m hm hne
    simp [hq]
  apply Counted.agree
  constructor
  · intro q c hc
    simp only [parentOf_mapChildren, hlist]
    grind
  · intro q hq
    simp only [parentOf_mapChildren, hlist] at hq ⊢
    grind

theorem Agree.relink (h : Agree root t) {w p q : ι} (hw : parentOf t w = some p)
    (hq : (t q).isSome) :
    Agree root (edit q (addChild w) (edit w (setParent q) (edit p (dropChild w) t))) := by
  obtain ⟨hcnt, hroot⟩ := h.counted
  apply Counted.agree
  constructor
  · intro r c hc
    have hrc := hcnt r c hc
    rw [parentOf_relink hw, listings_relink hq]
    grind
  · intro r hr
    rw [listings_relink hq] at hr
    rw [parentOf_relink hw]
    grind

/-- A set of nodes that holds the children of its members and whose members,
the top one aside, are listed by other members. -/
structure Subtree (t : Links ι) (w : ι) (r : List ι) : Prop where
  closed : ∀ d n, d ∈ r ∨ d = w → t d = some n → ∀ c ∈ n.children, c ∈ r
  listed : ∀ d ∈ r, ∃ e n, (e ∈ r ∨ e = w) ∧ t e = some n ∧ d ∈ n.children

def prune (w p : ι) (r : List ι) (t : Links ι) : Links ι :=
  update (edit p (dropChild w) (fun v => if v ∈ r then none else t v)) w none

theorem prune_apply (w p v : ι) (r : List ι) (t : Links ι) :
    prune w p r t v = if v ∈ r ∨ v = w then none else
      if v = p then (t v).map (dropChild w) else t v := by
  simp only [prune, update_apply, edit_apply]
  by_cases hw : v = w <;> by_cases hr : v ∈ r <;> by_cases hp : v = p <;> simp [*]
  all_goals grind

theorem parentOf_prune (w p v : ι) (r : List ι) (t : Links ι) :
    parentOf (prune w p r t) v = if v ∈ r ∨ v = w then none else parentOf t v := by
  unfold parentOf
  rw [prune_apply]
  split
  · rfl
  · split
    · cases t v <;> simp [dropChild]
    · rfl

theorem listings_prune (w p q c : ι) (r : List ι) (t : Links ι) :
    listings (prune w p r t) q c =
      if q ∈ r ∨ q = w ∨ (q = p ∧ c = w) then 0 else listings t q c := by
  unfold listings childrenIn
  rw [prune_apply]
  by_cases hr : q ∈ r ∨ q = w
  · simp [hr, ← or_assoc]
  · by_cases hp : q = p
    · subst q
      cases ht : t p with
      | none => simp [hr]
      | some n =>
        by_cases hc : c = w
        · subst c; simp [hr, dropChild, count_eq_zero]
        · simp [hr, hc, dropChild, count_filter]
    · simp [hr, hp]

omit [DecidableEq ι] in
theorem Subtree.parent_mem {w : ι} {r : List ι} (hs : Subtree t w r)
    (hdown : ∀ p n, t p = some n → ∀ c ∈ n.children, ∃ m, t c = some m ∧ m.parent = p)
    {d p : ι} (hd : d ∈ r) (hp : parentOf t d = some p) : p ∈ r ∨ p = w := by
  obtain ⟨e, n, he, hn, hc⟩ := hs.listed d hd
  obtain ⟨m, hm, rfl⟩ := hdown e n hn d hc
  rw [parentOf, hm, Option.map_some, Option.some.injEq] at hp
  exact hp ▸ he

theorem Agree.prune (h : Agree root t) {r : List ι} (hw : parentOf t w = some p)
    (hs : Subtree t w r) : Agree root (prune w p r t) := by
  obtain ⟨hcnt, hroot⟩ := h.counted
  have hmem : ∀ d q, d ∈ r → parentOf t d = some q → q ∈ r ∨ q = w :=
    fun d q hd hq => hs.parent_mem h.down hd hq
  have hkept : ∀ c q, c ≠ root → parentOf t c = some q → q ∈ r ∨ q = w → c ∈ r := by
    intro c q hc hq hqr
    obtain ⟨m, hm, rfl⟩ := parentOf_eq_some.mp hq
    obtain ⟨n, hn, hone⟩ := h.up c m hm hc
    exact hs.closed m.parent n hqr hn c (count_pos_iff.mp (by omega))
  apply Counted.agree
  constructor
  · intro q c hc
    have hqc := hcnt q c hc
    simp only [parentOf_prune, listings_prune]
    grind
  · intro q hq
    simp only [parentOf_prune, listings_prune] at hq ⊢
    grind

/-- Depth-first collection without a visited set: pop a node, record it, push
its children. The list holds the stack with its top first. -/
def collect (children : ι → List ι) : Nat → List ι → List ι → Option (List ι)
  | _, [], acc => some acc
  | 0, _ :: _, _ => none
  | n + 1, c :: stack, acc => collect children n ((children c).reverse ++ stack) (acc ++ [c])

omit [DecidableEq ι] in
theorem collect_spec (children : ι → List ι) (n : Nat) (stack acc r : List ι)
    (h : collect children n stack acc = some r) :
    (∀ c ∈ acc, c ∈ r) ∧ (∀ c ∈ stack, c ∈ r) ∧
      (∀ d ∈ r, d ∉ acc → ∀ c ∈ children d, c ∈ r) ∧
      (∀ d ∈ r, d ∉ acc → d ∈ stack ∨ ∃ e ∈ r, d ∈ children e) := by
  induction n, stack, acc using collect.induct children with
  | case1 n acc =>
    simp only [collect, Option.some.injEq] at h
    subst r
    simp +contextual
  | case2 c stack acc => simp [collect] at h
  | case3 n c stack acc ih =>
    obtain ⟨hacc, hstack, hcld, hlstd⟩ := ih h
    have hc : c ∈ r := hacc c (by simp)
    have hkids : ∀ d ∈ children c, d ∈ r := fun d hd => hstack d (by simp [hd])
    refine ⟨fun d hd => hacc d (by simp [hd]), ?_, ?_, ?_⟩
    · intro d hd
      rcases mem_cons.mp hd with rfl | hd
      · exact hc
      · exact hstack d (by simp [hd])
    · intro d hd hnacc e he
      by_cases hdc : d = c
      · subst d; exact hkids e he
      · exact hcld d hd (by simp [hnacc, hdc]) e he
    · intro d hd hnacc
      by_cases hdc : d = c
      · simp [hdc]
      · rcases hlstd d hd (by simp [hnacc, hdc]) with hm | hm
        · rcases mem_append.mp hm with hm | hm
          · exact .inr ⟨c, hc, mem_reverse.mp hm⟩
          · exact .inl (by simp [hm])
        · exact .inr hm

omit [DecidableEq ι] in
theorem mem_collect_iff {children : ι → List ι} {n : Nat} {stack r : List ι}
    (h : collect children n stack [] = some r) (d : ι) :
    d ∈ r ↔ ∃ c ∈ stack, Relation.ReflTransGen (fun p q => q ∈ children p) c d := by
  constructor
  · have hrch : ∀ n stack acc, collect children n stack acc = some r → d ∈ r →
        d ∈ acc ∨ ∃ c ∈ stack, Relation.ReflTransGen (fun p q => q ∈ children p) c d := by
      intro n stack acc h hd
      induction n, stack, acc using collect.induct children with
      | case1 n acc =>
        simp only [collect, Option.some.injEq] at h
        exact .inl (h ▸ hd)
      | case2 c stack acc => simp [collect] at h
      | case3 n c stack acc ih =>
        obtain hmem | ⟨e, he, hpath⟩ := ih h
        · obtain hacc | hc := mem_append.mp hmem
          · exact .inl hacc
          · rw [mem_singleton.mp hc]
            exact .inr ⟨c, mem_cons_self, .refl⟩
        · obtain hch | hstack := mem_append.mp he
          · exact .inr ⟨c, mem_cons_self, .head (mem_reverse.mp hch) hpath⟩
          · exact .inr ⟨e, mem_cons_of_mem c hstack, hpath⟩
    intro hd
    exact (hrch n stack [] h hd).resolve_left (by simp)
  · rintro ⟨c, hc, hpath⟩
    obtain ⟨-, hstack, hcld, -⟩ := collect_spec _ _ _ _ _ h
    induction hpath with
    | refl => exact hstack c hc
    | tail _ hstep ih => exact hcld _ ih (by simp) _ hstep

omit [DecidableEq ι] in
theorem collect_subtree {w : ι} {n : Nat} {r : List ι}
    (h : collect (childrenIn t) n (childrenIn t w).reverse [] = some r) : Subtree t w r := by
  obtain ⟨-, hstack, hcld, hlstd⟩ := collect_spec _ _ _ _ _ h
  constructor
  · intro d n hd hn c hc
    have hm : c ∈ childrenIn t d := mem_childrenIn.mpr ⟨n, hn, hc⟩
    rcases hd with hd | rfl
    · exact hcld d hd (by simp) c hm
    · exact hstack c (by simpa using hm)
  · intro d hd
    rcases hlstd d hd (by simp) with hm | ⟨e, he, hm⟩
    · obtain ⟨n, hn, hc⟩ := mem_childrenIn.mp (mem_reverse.mp hm)
      exact ⟨w, n, .inr rfl, hn, hc⟩
    · obtain ⟨n, hn, hc⟩ := mem_childrenIn.mp hm
      exact ⟨e, n, .inl he, hn, hc⟩

end X11Web.LinkedForest
