import Mathlib.Data.List.Basic

namespace X11Web.Layers

open List

variable {P C : Type}

abbrev Layer (P C : Type) := P → Option C

def coats (layers : List (Layer P C)) (z : P) : List C := layers.filterMap (fun l => l z)

theorem coats_append (ls ls' : List (Layer P C)) (z : P) :
    coats (ls ++ ls') z = coats ls z ++ coats ls' z :=
  filterMap_append

section Over

variable (mix : C → C → C)

def paint (canvas : P → C) (layer : Layer P C) : P → C :=
  fun z => (layer z).elim (canvas z) (fun c => mix c (canvas z))

def paintAll (canvas : P → C) (layers : List (Layer P C)) : P → C := layers.foldl (paint mix) canvas

def blend (ground : C) (cs : List C) : C := cs.foldl (fun d c => mix c d) ground

theorem blend_append (ground : C) (cs cs' : List C) :
    blend mix ground (cs ++ cs') = blend mix (blend mix ground cs) cs' :=
  foldl_append

theorem paintAll_apply (canvas : P → C) (layers : List (Layer P C)) (z : P) :
    paintAll mix canvas layers z = blend mix (canvas z) (coats layers z) := by
  induction layers generalizing canvas with
  | nil => rfl
  | cons l ls ih =>
    rw [paintAll, foldl_cons, ← paintAll, ih, paint]
    cases hl : l z with
    | none => simp [coats, hl]
    | some c => simp [coats, hl, blend]

/-- The colour leaves nothing to be seen of what is below. -/
def Hides (c : C) : Prop := ∀ d, mix c d = c

variable {mix}

theorem blend_of_hides {c : C} (h : Hides mix c) (ground : C) (below above : List C) :
    blend mix ground (below ++ c :: above) = blend mix c above := by
  rw [blend_append, blend, foldl_cons, h, blend]

theorem blend_eq_of_mem_hides {c : C} {cs : List C} (h : Hides mix c) (hc : c ∈ cs)
    (ground ground' : C) (below below' : List C) :
    blend mix ground (below ++ cs) = blend mix ground' (below' ++ cs) := by
  obtain ⟨s, t, rfl⟩ := append_of_mem hc
  rw [← append_assoc, ← append_assoc, blend_of_hides h, blend_of_hides h]

theorem blend_eq_getLastD {ground : C} {cs : List C} (h : ∀ c ∈ cs, Hides mix c) :
    blend mix ground cs = cs.getLastD ground := by
  induction cs generalizing ground with
  | nil => rfl
  | cons c cs ih =>
    rw [blend, foldl_cons, h c (by simp), ← blend, ih (fun d hd => h d (by simp [hd])),
      getLastD_cons]

end Over

end X11Web.Layers
