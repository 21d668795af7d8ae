import Mathlib.Data.List.Basic
import Mathlib.Data.List.Induction
import Mathlib.Data.List.Nodup
import Mathlib.Data.List.Perm.Basic
import Mathlib.Data.Set.Defs
import Mathlib.Logic.Function.Basic

namespace X11Web.Copying

open List

variable {N P C : Type} [DecidableEq N]

/-- Where a node is copied to, and which of its points each point there is copied
from. -/
structure Copier (N P : Type) where
  dest : N → Option N
  source : N → P → Option P

def copy (k : Copier N P) (σ : N → P → C) (c : N) : N → P → C :=
  match k.dest c with
  | none => σ
  | some t => Function.update σ t (fun z => (k.source c z).elim (σ t z) (σ c))

def copyAll (k : Copier N P) (σ : N → P → C) (l : List N) : N → P → C := l.foldl (copy k) σ

/-- The node `c`, one of those to be copied, is copied onto the point `z` of `t` from
its point `y`. -/
structure Covers (k : Copier N P) (S : Set N) (t : N) (z : P) (c : N) (y : P) : Prop where
  mem : c ∈ S
  dest : k.dest c = some t
  source : k.source c z = some y

/-- The values that a point may come to have while the nodes are copied in some
order. -/
inductive Carries (k : Copier N P) (σ : N → P → C) (S : Set N) : N → P → C → Prop
  | own (c : N) (y : P) : Carries k σ S c y (σ c y)
  | via {c d : N} {y z : P} {v : C} : Covers k S c y d z → Carries k σ S d z v → Carries k σ S c y v

def Brings (k : Copier N P) (σ : N → P → C) (S : Set N) (t : N) (z : P) (v : C) : Prop :=
  ∃ c y, Covers k S t z c y ∧ Carries k σ S c y v

variable {k : Copier N P} {σ σ' : N → P → C} {l : List N} {S : Set N} {c d t : N} {y z : P} {v : C}

theorem copy_apply_of_dest (h : k.dest c = some t) (z : P) :
    copy k σ c t z = (k.source c z).elim (σ t z) (σ c) := by
  rw [copy, h]
  exact congrFun (Function.update_self t _ σ) z

theorem copy_of_dest_ne (h : k.dest c ≠ some t) : copy k σ c t = σ t := by
  rw [copy]
  cases hd : k.dest c with
  | none => rfl
  | some d =>
    have hne : t ≠ d := by
      rintro rfl
      exact h hd
    exact Function.update_of_ne hne _ σ

theorem copyAll_concat (σ : N → P → C) (l : List N) (c : N) :
    copyAll k σ (l ++ [c]) = copy k (copyAll k σ l) c :=
  foldl_concat ..

theorem copyAll_append (σ : N → P → C) (l l' : List N) :
    copyAll k σ (l ++ l') = copyAll k (copyAll k σ l) l' :=
  foldl_append

theorem copyAll_of_dest_ne (h : ∀ c ∈ l, k.dest c ≠ some t) : copyAll k σ l t = σ t := by
  induction l using List.reverseRecOn with
  | nil => rfl
  | append_singleton l c ih =>
    rw [copyAll_concat, copy_of_dest_ne (h c (by simp))]
    exact ih fun d hd => h d (by simp [hd])

theorem copyAll_of_not_covered (hl : ∀ c ∈ l, c ∈ S) (h : ∀ c y, ¬ Covers k S t z c y) :
    copyAll k σ l t z = σ t z := by
  induction l using List.reverseRecOn with
  | nil => rfl
  | append_singleton l c ih =>
    have hrest := ih fun d hd => hl d (by simp [hd])
    rw [copyAll_concat]
    by_cases hdest : k.dest c = some t
    · rw [copy_apply_of_dest hdest]
      cases hsrc : k.source c z with
      | none => exact hrest
      | some y => exact absurd ⟨hl c (by simp), hdest, hsrc⟩ (h c y)
    · rw [copy_of_dest_ne hdest, hrest]

theorem copyAll_carries (hl : ∀ c ∈ l, c ∈ S) (c : N) (y : P) : Carries k σ S c y (copyAll k σ l c y) := by
  induction l using List.reverseRecOn generalizing c y with
  | nil => exact .own c y
  | append_singleton l d ih =>
    have hrest := ih fun e he => hl e (by simp [he])
    rw [copyAll_concat]
    by_cases hdest : k.dest d = some c
    · rw [copy_apply_of_dest hdest]
      cases hsrc : k.source d y with
      | none => exact hrest c y
      | some z => exact .via ⟨hl d (by simp), hdest, hsrc⟩ (hrest d z)
    · rw [copy_of_dest_ne hdest]
      exact hrest c y

theorem copyAll_brings (hl : ∀ c ∈ l, c ∈ S) (hc : c ∈ l) (hcvs : Covers k S t z c y) :
    Brings k σ S t z (copyAll k σ l t z) := by
  induction l using List.reverseRecOn with
  | nil => cases hc
  | append_singleton l d ih =>
    have hrest : ∀ e ∈ l, e ∈ S := fun e he => hl e (by simp [he])
    rw [copyAll_concat]
    by_cases hd : ∃ x, k.dest d = some t ∧ k.source d z = some x
    · obtain ⟨x, hdest, hsrc⟩ := hd
      rw [copy_apply_of_dest hdest, hsrc]
      exact ⟨d, x, ⟨hl d (by simp), hdest, hsrc⟩, copyAll_carries hrest d x⟩
    · have hkept : copy k (copyAll k σ l) d t z = copyAll k σ l t z := by
        by_cases hdest : k.dest d = some t
        · cases hsrc : k.source d z with
          | none => rw [copy_apply_of_dest hdest, hsrc, Option.elim_none]
          | some x => exact absurd ⟨x, hdest, hsrc⟩ hd
        · rw [copy_of_dest_ne hdest]
      rw [hkept]
      rcases mem_append.mp hc with hmem | hmem
      · exact ih hrest hmem
      · obtain rfl := mem_singleton.mp hmem
        exact absurd ⟨y, hcvs.dest, hcvs.source⟩ hd

inductive Reaches (k : Copier N P) (t : N) : Nat → N → Prop
  | here : Reaches k t 0 t
  | step {n : Nat} {c d : N} : k.dest d = some c → Reaches k t n c → Reaches k t (n + 1) d

omit [DecidableEq N] in
theorem Reaches.unique (ht : k.dest t = none) {n m : Nat} (h : Reaches k t n c) (h' : Reaches k t m c) :
    n = m := by
  induction h generalizing m with
  | here =>
    cases h' with
    | here => rfl
    | step hdest _ =>
      rw [ht] at hdest
      cases hdest
  | step hdest _ ih =>
    cases h' with
    | here =>
      rw [ht] at hdest
      cases hdest
    | step hdest' h' =>
      cases hdest.symm.trans hdest'
      rw [ih h']

theorem Carries.exists_way (ht : k.dest t = none) (h : Carries k σ S c y v) {n : Nat}
    (hc : Reaches k t n c) :
    ∃ way : List N, way.Nodup ∧ (∀ d ∈ way, d ∈ S) ∧ (∀ d ∈ way, ∃ m, n < m ∧ Reaches k t m d) ∧
      ∀ σ' : N → P → C, (∀ m d, n ≤ m → Reaches k t m d → σ' d = σ d) → copyAll k σ' way c y = v := by
  induction h generalizing n with
  | own c y => exact ⟨[], nodup_nil, by simp, by simp, fun σ' h => congrFun (h n c (Nat.le_refl n) hc) y⟩
  | @via c d y z v hd _ ih =>
    have hrch := Reaches.step hd.dest hc
    obtain ⟨way, hnd, hsub, hranks, hbrings⟩ := ih hrch
    have hfresh : d ∉ way := by
      intro hmem
      obtain ⟨m, hm, hrank⟩ := hranks d hmem
      have := hrank.unique ht hrch
      omega
    refine ⟨way ++ [d], ?_, ?_, ?_, ?_⟩
    · exact nodup_append.mpr ⟨hnd, nodup_singleton d, by grind⟩
    · intro e he
      rcases mem_append.mp he with he | he
      · exact hsub e he
      · exact mem_singleton.mp he ▸ hd.mem
    · intro e he
      rcases mem_append.mp he with he | he
      · obtain ⟨m, hm, hrank⟩ := hranks e he
        exact ⟨m, by omega, hrank⟩
      · rw [mem_singleton.mp he]
        exact ⟨n + 1, by omega, hrch⟩
    · intro σ' h
      rw [copyAll_concat, copy_apply_of_dest hd.dest, hd.source]
      exact hbrings σ' fun m e hm => h m e (by omega)

/-- A list in four parts: those with `p` but for `c`, a way of some without, `c`, and
the others. -/
theorem perm_parts {p : N → Prop} [DecidablePred p] {way : List N} (hl : l.Nodup) (hc : c ∈ l) (hp : p c)
    (hnd : way.Nodup) (hway : ∀ d ∈ way, d ∈ l ∧ ¬ p d) :
    (l.filter (fun d => p d ∧ d ≠ c) ++ (way ++ [c]) ++ l.filter (fun d => ¬ p d ∧ d ∉ way)).Perm l := by
  have hcway : c ∉ way := fun hmem => (hway c hmem).2 hp
  have hwayc : (way ++ [c]).Nodup :=
    nodup_append.mpr ⟨hnd, nodup_singleton c, fun d hd e he hde =>
      hcway (mem_singleton.mp he ▸ hde ▸ hd)⟩
  have hbef : ∀ d, d ∈ l.filter (fun d => p d ∧ d ≠ c) ↔ d ∈ l ∧ p d ∧ d ≠ c := by simp
  have haft : ∀ d, d ∈ l.filter (fun d => ¬ p d ∧ d ∉ way) ↔ d ∈ l ∧ ¬ p d ∧ d ∉ way := by simp
  refine (perm_ext_iff_of_nodup ?_ hl).mpr fun d => ?_
  · refine nodup_append.mpr ⟨nodup_append.mpr ⟨hl.filter _, hwayc, ?_⟩, hl.filter _, ?_⟩
    · rintro d hd e he rfl
      obtain ⟨-, hpd, hne⟩ := (hbef d).mp hd
      rcases mem_append.mp he with he | he
      · exact (hway d he).2 hpd
      · exact hne (mem_singleton.mp he)
    · rintro d hd e he rfl
      obtain ⟨-, hnot, hfresh⟩ := (haft d).mp he
      rcases mem_append.mp hd with hd | hd
      · exact hnot ((hbef d).mp hd).2.1
      · rcases mem_append.mp hd with hd | hd
        · exact hfresh hd
        · exact hnot (mem_singleton.mp hd ▸ hp)
  · simp only [mem_append, mem_singleton, hbef, haft]
    have hdl : d ∈ way → d ∈ l := fun h => (hway d h).1
    by_cases hdc : d = c
    · subst hdc
      simp [hc]
    · by_cases hpd : p d <;> by_cases hdw : d ∈ way <;> simp_all

theorem Brings.exists_order (ht : k.dest t = none) (hl : l.Nodup) (hS : ∀ c, c ∈ l ↔ c ∈ S)
    (h : Brings k σ S t z v) : ∃ l', l'.Perm l ∧ copyAll k σ l' t z = v := by
  obtain ⟨c, y, hc, hv⟩ := h
  have hrch : Reaches k t 1 c := .step hc.dest .here
  obtain ⟨way, hnd, hsub, hranks, hbrings⟩ := hv.exists_way ht hrch
  have hway : ∀ d ∈ way, d ∈ l ∧ ¬ k.dest d = some t := by
    intro d hd
    refine ⟨(hS d).mpr (hsub d hd), fun hdest => ?_⟩
    obtain ⟨m, hm, hrank⟩ := hranks d hd
    have := hrank.unique ht (.step hdest .here)
    omega
  -- The others that cover go first, and those that do not touch `t` last.
  refine ⟨_, perm_parts hl ((hS c).mpr hc.mem) hc.dest hnd hway, ?_⟩
  have haft : ∀ d ∈ l.filter (fun d => ¬ k.dest d = some t ∧ d ∉ way), k.dest d ≠ some t := by
    intro d hd
    exact (by simpa using hd : d ∈ l ∧ ¬ k.dest d = some t ∧ d ∉ way).2.1
  rw [copyAll_append, copyAll_of_dest_ne haft, copyAll_append, copyAll_concat,
    copy_apply_of_dest hc.dest, hc.source]
  apply hbrings
  intro m d hm hrank
  apply copyAll_of_dest_ne
  intro e he hdest
  have htd : k.dest e = some t := (by simpa using he : e ∈ l ∧ k.dest e = some t ∧ ¬ e = c).2.1
  cases hdest.symm.trans htd
  have := hrank.unique ht .here
  omega

/-- The order does not matter at a point exactly if all values that can be brought
there are the same. -/
theorem copyAll_order_iff (ht : k.dest t = none) (hl : l.Nodup) (hS : ∀ c, c ∈ l ↔ c ∈ S) (z : P) :
    (∀ l₁ l₂, l₁.Perm l → l₂.Perm l → copyAll k σ l₁ t z = copyAll k σ l₂ t z) ↔
      ∀ v w, Brings k σ S t z v → Brings k σ S t z w → v = w := by
  constructor
  · intro h v w hv hw
    obtain ⟨l₁, hl₁, rfl⟩ := hv.exists_order ht hl hS
    obtain ⟨l₂, hl₂, rfl⟩ := hw.exists_order ht hl hS
    exact h l₁ l₂ hl₁ hl₂
  · intro h l₁ l₂ hl₁ hl₂
    have hmem : ∀ l' : List N, l'.Perm l → ∀ c, c ∈ l' ↔ c ∈ S := fun l' hl' c => hl'.mem_iff.trans (hS c)
    by_cases hcvd : ∃ c y, Covers k S t z c y
    · obtain ⟨c, y, hc⟩ := hcvd
      have hbrings : ∀ l', l'.Perm l → Brings k σ S t z (copyAll k σ l' t z) := fun l' hl' =>
        copyAll_brings (fun d => (hmem l' hl' d).mp) ((hmem l' hl' c).mpr hc.mem) hc
      exact h _ _ (hbrings l₁ hl₁) (hbrings l₂ hl₂)
    · have hkept : ∀ l', l'.Perm l → copyAll k σ l' t z = σ t z := fun l' hl' =>
        copyAll_of_not_covered (fun d => (hmem l' hl' d).mp) fun c y hc => hcvd ⟨c, y, hc⟩
      rw [hkept l₁ hl₁, hkept l₂ hl₂]

end X11Web.Copying
