import Mathlib.Order.Bounds.Basic
import Mathlib.Data.Set.Finite.Lattice
import X11Web.LinkedForest

namespace X11Web.RootedForest

open LinkedForest List Function

variable {ι : Type} [DecidableEq ι] {root off : ι} {t t' : Links ι}

def ancestor (t : Links ι) : Nat → ι → Option ι
  | 0, w => some w
  | k + 1, w => (parentOf t w).bind (ancestor t k)

omit [DecidableEq ι] in
theorem ancestor_succ {k : Nat} {w v : ι} :
    ancestor t (k + 1) w = some v ↔ ∃ p, parentOf t w = some p ∧ ancestor t k p = some v := by
  simp [ancestor, Option.bind_eq_some_iff]

omit [DecidableEq ι] in
theorem ancestor_mono (h : ∀ v p, parentOf t v = some p → parentOf t' v = some p)
    {k : Nat} {w r : ι} (hk : ancestor t k w = some r) : ancestor t' k w = some r := by
  induction k generalizing w with
  | zero => exact hk
  | succ k ih =>
    obtain ⟨p, hp, hk⟩ := ancestor_succ.mp hk
    exact ancestor_succ.mpr ⟨p, h w p hp, ih hk⟩

omit [DecidableEq ι] in
theorem ancestor_avoid {w : ι} (h : ∀ v, v ≠ w → parentOf t' v = parentOf t v) {q : ι}
    (hq : ∀ k, ancestor t k q ≠ some w) (k : Nat) : ancestor t' k q = ancestor t k q := by
  induction k generalizing q with
  | zero => rfl
  | succ k ih =>
    have hne : q ≠ w := fun he => hq 0 (by simp [ancestor, he])
    rw [ancestor, ancestor, h q hne]
    cases hp : parentOf t q with
    | none => rfl
    | some p => exact ih (fun j hj => hq (j + 1) (ancestor_succ.mpr ⟨p, hp, hj⟩))

omit [DecidableEq ι] in
theorem climbs_of_closed {K : ι → Prop} (hkeep : ∀ v, K v → parentOf t' v = parentOf t v)
    (hcld : ∀ v u, K v → v ≠ root → parentOf t v = some u → K u) {k : Nat} {v : ι} (hv : K v)
    (hk : ancestor t k v = some root) : ∃ j, ancestor t' j v = some root := by
  induction k generalizing v with
  | zero => exact ⟨0, hk⟩
  | succ k ih =>
    by_cases hvr : v = root
    · exact ⟨0, by rw [hvr]; rfl⟩
    · obtain ⟨u, hu, hk⟩ := ancestor_succ.mp hk
      obtain ⟨j, hj⟩ := ih (hcld v u hv hvr hu) hk
      exact ⟨j + 1, ancestor_succ.mpr ⟨u, by rw [hkeep v hv, hu], hj⟩⟩

/-- Every node climbs to the root, which itself hangs off an absent node; the
child lists follow the parent links. The root may be absent, and then nothing
lists its children. -/
structure Rooted (root off : ι) (t : Links ι) : Prop where
  down : ∀ p c, listings t p c ≠ 0 → parentOf t c = some p
  listed : ∀ c p, c ≠ root → parentOf t c = some p → (t p).isSome → listings t p c ≠ 0
  climbs : ∀ w, (t w).isSome → ∃ k, ancestor t k w = some root
  top : ∀ p, parentOf t root = some p → p = off
  absent : t off = none
  apart : off ≠ root

omit [DecidableEq ι] in
theorem ancestor_present {k : Nat} {w v : ι} (hk : ancestor t (k + 1) w = some v) :
    (t w).isSome := by
  obtain ⟨p, hp, -⟩ := ancestor_succ.mp hk
  obtain ⟨n, hn, -⟩ := parentOf_eq_some.mp hp
  simp [hn]

theorem Rooted.parent_present (h : Rooted root off t) {c p : ι} (hc : c ≠ root)
    (hp : parentOf t c = some p) : (t p).isSome ∨ p = root := by
  obtain ⟨n, hn, -⟩ := parentOf_eq_some.mp hp
  obtain ⟨k, hk⟩ := h.climbs c (by simp [hn])
  cases k with
  | zero => exact absurd (Option.some.inj hk) hc
  | succ k =>
    obtain ⟨q, hq, hk⟩ := ancestor_succ.mp hk
    obtain rfl := Option.some.inj (hp.symm.trans hq)
    cases k with
    | zero => exact .inr (Option.some.inj hk)
    | succ k => exact .inl (ancestor_present hk)

theorem Rooted.attach (h : Rooted root off t) {w p : ι} (hw : t w = none) (hroot : w ≠ root)
    (hoff : w ≠ off) (hp : (t p).isSome ∨ p = root) :
    Rooted root off (edit p (addChild w) (update t w (some ⟨p, []⟩))) := by
  have hwp : p ≠ w := by
    rintro rfl
    rcases hp with hp | hp
    · simp [hw] at hp
    · exact hroot hp
  have hnone : parentOf t w = none := by simp [parentOf, hw]
  have hpar := parentOf_attach w p
  have hlist := listings_attach hw hwp
  have hsome : ∀ v, (edit p (addChild w) (update t w (some ⟨p, []⟩)) v).isSome =
      if v = w then true else (t v).isSome := by
    intro v
    rw [isSome_edit, update_apply]
    split <;> rfl
  have hmono : ∀ v q, parentOf t v = some q →
      parentOf (edit p (addChild w) (update t w (some ⟨p, []⟩))) v = some q := by
    intro v q hv
    rw [hpar, if_neg (by rintro rfl; simp [hnone] at hv), hv]
  refine ⟨?_, ?_, ?_, ?_, ?_, h.apart⟩
  · intro q c hc
    have hold := h.down q c
    grind
  · intro c q hc hq hs
    have hold := h.listed c q hc
    have hpresent := h.parent_present (p := q) hc
    grind
  · intro v hv
    by_cases hvw : v = w
    · subst v
      obtain ⟨k, hk⟩ : ∃ k, ancestor t k p = some root := by
        rcases hp with hp | rfl
        · exact h.climbs p hp
        · exact ⟨0, rfl⟩
      exact ⟨k + 1, ancestor_succ.mpr ⟨p, by simp [hpar], ancestor_mono hmono hk⟩⟩
    · rw [hsome, if_neg hvw] at hv
      obtain ⟨k, hk⟩ := h.climbs v hv
      exact ⟨k, ancestor_mono hmono hk⟩
  · intro q hq
    rw [hpar, if_neg (Ne.symm hroot)] at hq
    exact h.top q hq
  · rw [edit_eq_none, update_of_ne (Ne.symm hoff)]
    exact h.absent

theorem Rooted.relink (h : Rooted root off t) {w p q : ι} (hw : parentOf t w = some p)
    (hq : (t q).isSome) (hbel : ∀ k, ancestor t k q ≠ some w) :
    Rooted root off (edit q (addChild w) (edit w (setParent q) (edit p (dropChild w) t))) := by
  have hroot : w ≠ root := by
    rintro rfl
    obtain ⟨k, hk⟩ := h.climbs q hq
    exact hbel k hk
  have hpar := parentOf_relink hw q
  have hlist := listings_relink hq w p
  have hsome : ∀ v, (edit q (addChild w) (edit w (setParent q) (edit p (dropChild w) t)) v).isSome =
      (t v).isSome := by
    intro v
    rw [isSome_edit, isSome_edit, isSome_edit]
  have havoid : ∀ k, ancestor (edit q (addChild w) (edit w (setParent q)
      (edit p (dropChild w) t))) k q = ancestor t k q :=
    ancestor_avoid (fun v hv => by rw [hpar, if_neg hv]) hbel
  refine ⟨?_, ?_, ?_, ?_, ?_, h.apart⟩
  · intro r c hc
    have hold := h.down r c
    grind
  · intro c r hc hr hs
    have hold := h.listed c r hc
    grind
  · intro v hv
    rw [hsome] at hv
    obtain ⟨k, hk⟩ := h.climbs v hv
    clear hv
    induction k generalizing v with
    | zero => exact ⟨0, hk⟩
    | succ k ih =>
      by_cases hvw : v = w
      · subst v
        obtain ⟨j, hj⟩ := h.climbs q hq
        exact ⟨j + 1, ancestor_succ.mpr ⟨q, by simp [hpar], by rw [havoid, hj]⟩⟩
      · obtain ⟨u, hu, hk⟩ := ancestor_succ.mp hk
        obtain ⟨j, hj⟩ := ih u hk
        exact ⟨j + 1, ancestor_succ.mpr ⟨u, by rw [hpar, if_neg hvw, hu], hj⟩⟩
  · intro r hr
    rw [hpar, if_neg (Ne.symm hroot)] at hr
    exact h.top r hr
  · rw [edit_eq_none, edit_eq_none, edit_eq_none]
    exact h.absent

theorem Rooted.restack (h : Rooted root off t) {w p : ι} (hw : parentOf t w = some p)
    (f : List ι → List ι) (hf : ∀ n, t p = some n → Restacked w n.children (f n.children)) :
    Rooted root off (edit p (mapChildren f) t) := by
  have hlist := listings_restack f hf
  refine ⟨?_, ?_, ?_, ?_, ?_, h.apart⟩
  · intro q c hc
    have hold := h.down q c
    rw [parentOf_mapChildren]
    grind
  · intro c q hc hq hs
    have hold := h.listed c q hc
    rw [parentOf_mapChildren] at hq
    rw [isSome_edit] at hs
    grind
  · intro v hv
    rw [isSome_edit] at hv
    obtain ⟨k, hk⟩ := h.climbs v hv
    exact ⟨k, ancestor_mono (fun u q hu => by rwa [parentOf_mapChildren]) hk⟩
  · intro q hq
    rw [parentOf_mapChildren] at hq
    exact h.top q hq
  · rw [edit_eq_none]
    exact h.absent

theorem Rooted.child_node (h : Rooted root off t) {q : ι} {n : Node ι} (hq : t q = some n) {c : ι}
    (hc : c ∈ n.children) : ∃ m, t c = some m ∧ m.parent = q := by
  apply parentOf_eq_some.mp
  apply h.down
  rw [listings_some hq]
  exact Nat.ne_of_gt (count_pos_iff.mpr hc)

theorem Rooted.prune (h : Rooted root off t) {w p : ι} {r : List ι} (hw : parentOf t w = some p)
    (hs : Subtree t w r) : Rooted root off (prune w p r t) := by
  have hmem : ∀ d q, d ∈ r → parentOf t d = some q → q ∈ r ∨ q = w :=
    fun d q hd hq => hs.parent_mem (fun _ _ hq _ hc => h.child_node hq hc) hd hq
  have hpresent : ∀ d, d ∈ r ∨ d = w → (t d).isSome := by
    intro d hd
    rcases hd with hd | rfl
    · obtain ⟨e, n, -, hn, hc⟩ := hs.listed d hd
      obtain ⟨m, hm, -⟩ := h.child_node hn hc
      simp [hm]
    · obtain ⟨n, hn, -⟩ := parentOf_eq_some.mp hw
      simp [hn]
  have hkept : ∀ c q, c ≠ root → parentOf t c = some q → q ∈ r ∨ q = w → c ∈ r := by
    intro c q hc hq hqr
    have hl := h.listed c q hc hq (hpresent q hqr)
    obtain ⟨n, hn, hcn⟩ := mem_childrenIn.mp (count_pos_iff.mp (Nat.pos_of_ne_zero hl))
    exact hs.closed q n hqr hn c hcn
  have hsome : ∀ v, (LinkedForest.prune w p r t v).isSome → (v ∉ r ∧ v ≠ w) ∧ (t v).isSome := by
    intro v hv
    rw [prune_apply] at hv
    grind
  refine ⟨?_, ?_, ?_, ?_, ?_, h.apart⟩
  · intro q c hc
    have hold := h.down q c
    rw [listings_prune] at hc
    rw [parentOf_prune]
    grind
  · intro c q hc hq hqs
    have hold := h.listed c q hc
    have hkeep := hsome q hqs
    rw [parentOf_prune] at hq
    rw [listings_prune]
    grind
  · intro v hv'
    obtain ⟨hout, hv⟩ := hsome v hv'
    obtain ⟨k, hk⟩ := h.climbs v hv
    refine climbs_of_closed (K := fun v => v ∉ r ∧ v ≠ w) (fun v hv => ?_) (fun v u hv hvr hu => ?_) hout hk
    · rw [parentOf_prune, if_neg (not_or.mpr hv)]
    · rw [← not_or]
      exact fun hur => hv.1 (hkept v u hvr hu hur)
  · intro q hq
    rw [parentOf_prune] at hq
    split at hq
    · simp at hq
    · exact h.top q hq
  · rw [prune_apply, h.absent]
    simp

theorem Rooted.ancestor_root (h : Rooted root off t) {k : Nat}
    (hk : ancestor t k root = some root) : k = 0 := by
  cases k with
  | zero => rfl
  | succ k =>
    obtain ⟨p, hp, hk⟩ := ancestor_succ.mp hk
    obtain rfl := h.top p hp
    cases k with
    | zero => exact absurd (Option.some.inj hk) h.apart
    | succ k =>
      have hp := ancestor_present hk
      simp [h.absent] at hp

theorem Rooted.depth_unique (h : Rooted root off t) {j k : Nat} {w : ι}
    (hj : ancestor t j w = some root) (hk : ancestor t k w = some root) : j = k := by
  induction j generalizing k w with
  | zero =>
    obtain rfl : w = root := Option.some.inj hj
    exact (h.ancestor_root hk).symm
  | succ j ih =>
    cases k with
    | zero =>
      obtain rfl : w = root := Option.some.inj hk
      exact h.ancestor_root hj
    | succ k =>
      obtain ⟨p, hp, hj⟩ := ancestor_succ.mp hj
      obtain ⟨q, hq, hk⟩ := ancestor_succ.mp hk
      obtain rfl := Option.some.inj (hp.symm.trans hq)
      rw [ih hj hk]

theorem Rooted.depth_bounded (h : Rooted root off t) (hfin : {w | (t w).isSome}.Finite) :
    ∃ D, ∀ w k, (t w).isSome → ancestor t k w = some root → k ≤ D := by
  choose depth hdepth using h.climbs
  have hbound : (Set.range fun w : {w | (t w).isSome} => depth w.1 w.2).Finite := by
    have : Finite {w | (t w).isSome} := hfin
    exact Set.finite_range _
  obtain ⟨D, hD⟩ := hbound.bddAbove
  refine ⟨D, fun w k hw hk => ?_⟩
  rw [h.depth_unique hk (hdepth w hw)]
  exact hD ⟨⟨w, hw⟩, rfl⟩

inductive Finishes (children : ι → List ι) : List ι → Prop
  | nil : Finishes children []
  | cons {c : ι} {stack : List ι} :
      Finishes children ((children c).reverse ++ stack) → Finishes children (c :: stack)

omit [DecidableEq ι] in
theorem Finishes.append {children : ι → List ι} {s s' : List ι} (hs : Finishes children s)
    (hs' : Finishes children s') : Finishes children (s ++ s') := by
  induction hs with
  | nil => exact hs'
  | cons _ ih => exact .cons (by rwa [append_assoc] at ih)

omit [DecidableEq ι] in
theorem Finishes.of_forall {children : ι → List ι} {s : List ι}
    (hs : ∀ c ∈ s, Finishes children [c]) : Finishes children s := by
  induction s with
  | nil => exact .nil
  | cons c s ih =>
    exact (hs c (by simp)).append (ih fun d hd => hs d (by simp [hd]))

omit [DecidableEq ι] in
theorem Finishes.collect {children : ι → List ι} {s : List ι} (hs : Finishes children s)
    (acc : List ι) : ∃ n r, collect children n s acc = some r := by
  induction hs generalizing acc with
  | nil => exact ⟨0, acc, by simp [LinkedForest.collect]⟩
  | @cons c stack _ ih =>
    obtain ⟨n, r, hr⟩ := ih (acc ++ [c])
    exact ⟨n + 1, r, by rw [LinkedForest.collect, hr]⟩

/-- In a finite rooted forest the children are deeper than their parent, so the
collection below any node comes to an end. -/
theorem Rooted.finishes (h : Rooted root off t) (hfin : {w | (t w).isSome}.Finite) (w : ι) :
    Finishes (childrenIn t) (childrenIn t w).reverse := by
  obtain ⟨D, hD⟩ := h.depth_bounded hfin
  have hch : ∀ v k c, ancestor t k v = some root → c ∈ childrenIn t v →
      (t c).isSome ∧ ancestor t (k + 1) c = some root := by
    intro v k c hk hc
    have hp := h.down v c (Nat.ne_of_gt (count_pos_iff.mpr hc))
    have hk' : ancestor t (k + 1) c = some root := ancestor_succ.mpr ⟨v, hp, hk⟩
    exact ⟨ancestor_present hk', hk'⟩
  have hnode : ∀ n v k, D - k < n → (t v).isSome → ancestor t k v = some root →
      Finishes (childrenIn t) [v] := by
    intro n
    induction n with
    | zero => omega
    | succ n ih =>
      intro v k hn hv hk
      apply Finishes.cons
      rw [append_nil]
      apply Finishes.of_forall
      intro c hc
      obtain ⟨hcs, hck⟩ := hch v k c hk (mem_reverse.mp hc)
      have := hD c (k + 1) hcs hck
      exact ih c (k + 1) (by omega) hcs hck
  apply Finishes.of_forall
  intro c hc
  have hw : (t w).isSome := by
    obtain ⟨n, hn, -⟩ := mem_childrenIn.mp (mem_reverse.mp hc)
    simp [hn]
  obtain ⟨k, hk⟩ := h.climbs w hw
  obtain ⟨hcs, hck⟩ := hch w k c hk (mem_reverse.mp hc)
  exact hnode _ c (k + 1) (Nat.lt_succ_self _) hcs hck

end X11Web.RootedForest
