import Mathlib.Data.List.Basic
import Mathlib.Data.List.Induction

namespace X11Web.Runs

open List Option

variable {σ α : Type} {step step' : σ → α → σ → Prop} {s s' s'' : σ}

/-- The runs of a labelled step relation, with their labels in order. -/
inductive Run (step : σ → α → σ → Prop) : σ → List α → σ → Prop
  | nil (s : σ) : Run step s [] s
  | cons {s s' s'' : σ} {a : α} {as : List α} :
      step s a s' → Run step s' as s'' → Run step s (a :: as) s''

/-- The steps whose label is allowed in the state they start from. -/
def guarded (guard : σ → α → Prop) (step : σ → α → σ → Prop) : σ → α → σ → Prop :=
  fun s a s' => guard s a ∧ step s a s'

variable {as : List α}

theorem Run.invariant {I : σ → Prop} (hstep : ∀ s a s', I s → step s a s' → I s')
    (hs : I s) (hrun : Run step s as s') : I s' := by
  induction hrun with
  | nil s => exact hs
  | cons ha _ ih => exact ih (hstep _ _ _ hs ha)

theorem Run.mono (hstep : ∀ s a s', step s a s' → step' s a s') (hrun : Run step s as s') :
    Run step' s as s' := by
  induction hrun with
  | nil s => exact .nil s
  | cons ha _ ih => exact .cons (hstep _ _ _ ha) ih

theorem Run.history {P : List α → σ → Prop}
    (hstep : ∀ as s a s', P as s → step s a s' → P (as ++ [a]) s')
    (hs : P [] s) (hrun : Run step s as s') : P as s' := by
  have key : ∀ {s bs s'}, Run step s bs s' → ∀ as, P as s → P (as ++ bs) s' := by
    intro s bs s' hrun
    induction hrun with
    | nil s => exact fun as h => by simpa using h
    | cons ha _ ih =>
      intro as h
      simpa using ih _ (hstep as _ _ _ h ha)
  simpa using key hrun [] hs

theorem Run.append {as bs : List α} (h : Run step s as s') (h' : Run step s' bs s'') :
    Run step s (as ++ bs) s'' := by
  induction h with
  | nil s => exact h'
  | cons ha _ ih => exact .cons ha (ih h')

theorem Run.single {a : α} (h : step s a s') : Run step s [a] s' := .cons h (.nil s')

theorem Run.of_foldlM {f : σ → α → Option σ} (h : as.foldlM f s = some s') :
    Run (fun s a s' => f s a = some s') s as s' := by
  induction as generalizing s with
  | nil => exact some.inj h ▸ .nil s
  | cons a as ih =>
    rw [foldlM_cons] at h
    obtain ⟨next, hnext, h⟩ := bind_eq_some_iff.mp h
    exact .cons hnext (ih h)

variable {next : σ → α → σ}

theorem foldlM_eq_some_iff {f : σ → α → Option σ} {I : σ → Prop} {C : α → Prop}
    (hkeep : ∀ s a, I s → I (next s a))
    (hstep : ∀ s a s', a ∈ as → I s → (f s a = some s' ↔ C a ∧ next s a = s')) (hs : I s) :
    as.foldlM f s = some s' ↔ (∀ a ∈ as, C a) ∧ as.foldl next s = s' := by
  induction as generalizing s with
  | nil => simp
  | cons a as ih =>
    rw [foldlM_cons]
    have htail := fun s hs => @ih s (fun s b s' hb => hstep s b s' (mem_cons_of_mem a hb)) hs
    constructor
    · intro h
      obtain ⟨mid, hmid, h⟩ := bind_eq_some_iff.mp h
      obtain ⟨ha, rfl⟩ := (hstep s a mid mem_cons_self hs).mp hmid
      obtain ⟨hall, hrun⟩ := (htail _ (hkeep s a hs)).mp h
      exact ⟨forall_mem_cons.mpr ⟨ha, hall⟩, hrun⟩
    · rintro ⟨hall, hrun⟩
      obtain ⟨ha, hall⟩ := forall_mem_cons.mp hall
      exact bind_eq_some_iff.mpr ⟨next s a, (hstep s a _ mem_cons_self hs).mpr ⟨ha, rfl⟩,
        (htail _ (hkeep s a hs)).mpr ⟨hall, hrun⟩⟩

theorem mapM_eq_some_iff {β : Type} {f : α → Option β} {g : α → β} {C : α → Prop} {bs : List β}
    (h : ∀ a ∈ as, ∀ b, f a = some b ↔ C a ∧ g a = b) : as.mapM f = some bs ↔ (∀ a ∈ as, C a) ∧ as.map g = bs := by
  induction as generalizing bs with
  | nil => simp
  | cons a as ih =>
    have htail := fun bs => @ih bs fun b hb => h b (mem_cons_of_mem a hb)
    rw [mapM_cons, forall_mem_cons, map_cons]
    constructor
    · intro hsome
      obtain ⟨b, hb, hsome⟩ := bind_eq_some_iff.mp hsome
      obtain ⟨bs', hbs', hsome⟩ := bind_eq_some_iff.mp hsome
      obtain ⟨ha, rfl⟩ := (h a mem_cons_self b).mp hb
      obtain ⟨hall, rfl⟩ := (htail bs').mp hbs'
      exact ⟨⟨ha, hall⟩, some.inj hsome⟩
    · rintro ⟨⟨ha, hall⟩, rfl⟩
      exact bind_eq_some_iff.mpr ⟨g a, (h a mem_cons_self _).mpr ⟨ha, rfl⟩,
        bind_eq_some_iff.mpr ⟨as.map g, (htail _).mpr ⟨hall, rfl⟩, rfl⟩⟩

/-- Where a step keeps `P` exactly under its condition, `P` stays along the steps of a
function exactly if they all meet it. -/
theorem foldl_stays_iff {I P : σ → Prop} {C : σ → α → Prop}
    (hkeep : ∀ s a, I s → P s → I (next s a)) (hstep : ∀ s a, I s → P s → (P (next s a) ↔ C s a))
    (hI : I s) (hP : P s) (as : List α) :
    (∀ bs, bs <+: as → P (bs.foldl next s)) ↔ ∀ bs a, bs ++ [a] <+: as → C (bs.foldl next s) a := by
  constructor
  · intro h
    have hinv : ∀ bs, bs <+: as → I (bs.foldl next s) := by
      intro bs
      induction bs using List.reverseRecOn with
      | nil => exact fun _ => hI
      | append_singleton bs a ih =>
        intro hbs
        have hpre := (prefix_append bs [a]).trans hbs
        rw [foldl_concat]
        exact hkeep _ _ (ih hpre) (h bs hpre)
    intro bs a hbs
    have hpre := (prefix_append bs [a]).trans hbs
    have hnext := h _ hbs
    rw [foldl_concat] at hnext
    exact (hstep _ _ (hinv bs hpre) (h bs hpre)).mp hnext
  · intro h bs hbs
    suffices hboth : I (bs.foldl next s) ∧ P (bs.foldl next s) from hboth.2
    induction bs using List.reverseRecOn with
    | nil => exact ⟨hI, hP⟩
    | append_singleton bs a ih =>
      obtain ⟨hIbs, hPbs⟩ := ih ((prefix_append bs [a]).trans hbs)
      rw [foldl_concat]
      exact ⟨hkeep _ _ hIbs hPbs, (hstep _ _ hIbs hPbs).mpr (h bs a hbs)⟩

variable {P : List α → α → Prop}

theorem forall_prefix_concat {a : α} :
    (∀ bs b, bs ++ [b] <+: as ++ [a] → P bs b) ↔ (∀ bs b, bs ++ [b] <+: as → P bs b) ∧ P as a := by
  constructor
  · intro h
    exact ⟨fun bs b hbs => h bs b (hbs.trans (prefix_append as [a])), h as a prefix_rfl⟩
  · rintro ⟨h, hlast⟩ bs b hbs
    rcases prefix_concat_iff.mp hbs with heq | hbs
    · obtain ⟨rfl, hsingle⟩ := append_inj' heq rfl
      rw [singleton_inj.mp hsingle]
      exact hlast
    · exact h bs b hbs

theorem forall_prefix_cons {a : α} :
    (∀ bs b, bs ++ [b] <+: a :: as → P bs b) ↔ P [] a ∧ ∀ bs b, bs ++ [b] <+: as → P (a :: bs) b := by
  constructor
  · intro h
    refine ⟨h [] a (cons_prefix_cons.mpr ⟨rfl, nil_prefix⟩), fun bs b hbs => h (a :: bs) b ?_⟩
    exact cons_prefix_cons.mpr ⟨rfl, hbs⟩
  · rintro ⟨hfst, h⟩ bs b hbs
    cases bs with
    | nil =>
      obtain rfl := (cons_prefix_cons.mp hbs).1
      exact hfst
    | cons c bs =>
      rw [cons_append, cons_prefix_cons] at hbs
      rw [hbs.1]
      exact h bs b hbs.2

theorem forall_prefix_nil : ∀ bs b, bs ++ [b] <+: [] → P bs b := by
  intro bs b hbs
  simp at hbs

theorem foldl_steps_iff {I : σ → Prop} {Q C : σ → α → Prop}
    (hkeep : ∀ s a, I s → Q s a → I (next s a)) (hstep : ∀ s a, I s → (Q s a ↔ C s a)) (hI : I s) (as : List α) :
    (∀ bs a, bs ++ [a] <+: as → Q (bs.foldl next s) a) ↔ ∀ bs a, bs ++ [a] <+: as → C (bs.foldl next s) a := by
  suffices h : ((∀ bs a, bs ++ [a] <+: as → Q (bs.foldl next s) a) → I (as.foldl next s)) ∧
      ((∀ bs a, bs ++ [a] <+: as → Q (bs.foldl next s) a) ↔
        ∀ bs a, bs ++ [a] <+: as → C (bs.foldl next s) a) from h.2
  induction as using List.reverseRecOn with
  | nil => exact ⟨fun _ => hI, iff_of_true forall_prefix_nil forall_prefix_nil⟩
  | append_singleton as a ih =>
    obtain ⟨hinv, hiff⟩ := ih
    rw [forall_prefix_concat, forall_prefix_concat, foldl_concat, ← hiff]
    exact ⟨fun h => hkeep _ _ (hinv h.1) h.2, and_congr_right fun h => hstep _ _ (hinv h)⟩

def Before (x y : α) : List α → Prop
  | [] => False
  | a :: as => (a = x ∧ y ∈ as) ∨ Before x y as

instance decidableBefore [DecidableEq α] (x y : α) : ∀ as, Decidable (Before x y as)
  | [] => inferInstanceAs (Decidable False)
  | _ :: as => @instDecidableOr _ _ _ (decidableBefore x y as)

theorem Before.left_mem {x y : α} (h : Before x y as) : x ∈ as := by
  induction as with
  | nil => cases h
  | cons a as ih =>
    rcases h with ⟨rfl, -⟩ | h
    · exact mem_cons_self
    · exact mem_cons_of_mem a (ih h)

theorem before_concat {x y a : α} (as : List α) :
    Before x y (as ++ [a]) ↔ Before x y as ∨ (y = a ∧ x ∈ as) := by
  induction as with
  | nil => simp [Before]
  | cons b as ih =>
    simp only [cons_append, Before, ih, mem_append, mem_cons]
    grind

end X11Web.Runs
