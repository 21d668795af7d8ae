import Mathlib.Algebra.Group.Int.Defs
import Mathlib.Algebra.Group.Nat.Defs
import Mathlib.Data.List.Basic

namespace X11Web.CheckedRuns

open List

/-- What a run is to be free of, or is to keep small: a number that does not fit its type,
an index that is not there, and memory that is asked for, in entries. -/
inductive Fault
  | overflow
  | outOfBounds
  | alloc (n : Nat)

/-- A result, with the faults on the way to it. After the first overflow or bad index it
stands for nothing. -/
structure Checked (α : Type) where
  value : α
  faults : List Fault

instance : Monad Checked where
  pure a := ⟨a, []⟩
  bind x f := ⟨(f x.value).value, x.faults ++ (f x.value).faults⟩

instance : LawfulMonad Checked :=
  LawfulMonad.mk' Checked (fun x => by simp [Functor.map]) (fun _ _ => rfl)
    (fun x f g => by simp [bind, append_assoc])

/-- Only memory is asked for, and no more than is allowed. -/
def Fault.Admitted (ok : Nat → Prop) : Fault → Prop
  | .alloc n => ok n
  | _ => False

def Within {α : Type} (ok : Nat → Prop) (x : Checked α) : Prop := ∀ fault ∈ x.faults, fault.Admitted ok

def NoOverflow {α : Type} (x : Checked α) : Prop := Within (fun _ => True) x

variable {α β : Type} {ok : Nat → Prop} {x : Checked α} {f : α → Checked β} {n i : Nat} {xs : List α}

@[simp] theorem value_pure (a : α) : (pure a : Checked α).value = a := rfl

@[simp] theorem value_bind : (x >>= f).value = (f x.value).value := rfl

@[simp] theorem within_pure (a : α) : Within ok (pure a : Checked α) := nofun

@[simp] theorem within_bind : Within ok (x >>= f) ↔ Within ok x ∧ Within ok (f x.value) :=
  forall_mem_append

theorem Within.mono {wide : Nat → Prop} (h : Within ok x) (hwide : ∀ n, ok n → wide n) : Within wide x := by
  intro fault hfault
  have hadm := h fault hfault
  cases fault with
  | overflow => exact hadm
  | outOfBounds => exact hadm
  | alloc n => exact hwide n hadm

theorem value_ite {c : Prop} [Decidable c] {y : Checked α} :
    (if c then x else y).value = if c then x.value else y.value := apply_ite Checked.value c x y

theorem within_ite {c : Prop} [Decidable c] {y : Checked α} :
    Within ok (if c then x else y) ↔ if c then Within ok x else Within ok y := by
  split <;> rfl

@[simp] theorem value_mapM (as : List α) (f : α → Checked β) : (as.mapM f).value = as.map fun a => (f a).value := by
  induction as with
  | nil => rfl
  | cons a as ih =>
    rw [mapM_cons, value_bind, value_bind, value_pure, ih, map_cons]

@[simp] theorem within_mapM {as : List α} {f : α → Checked β} : Within ok (as.mapM f) ↔ ∀ a ∈ as, Within ok (f a) := by
  induction as with
  | nil => exact iff_of_true nofun nofun
  | cons a as ih =>
    rw [mapM_cons, within_bind, within_bind, and_iff_left (within_pure _), ih, forall_mem_cons]

@[simp] theorem value_foldlM (as : List β) (step : α → β → Checked α) (a : α) :
    (as.foldlM step a).value = as.foldl (fun a b => (step a b).value) a := by
  induction as generalizing a with
  | nil => rfl
  | cons b bs ih => rw [foldlM_cons, value_bind, ih, foldl_cons]

theorem within_foldlM {as : List β} {step : α → β → Checked α} {I : α → Prop} {C : β → Prop} {a : α}
    (hkeep : ∀ a, ∀ b ∈ as, I a → I (step a b).value) (hstep : ∀ a, ∀ b ∈ as, I a → (Within ok (step a b) ↔ C b))
    (ha : I a) : Within ok (as.foldlM step a) ↔ ∀ b ∈ as, C b := by
  induction as generalizing a with
  | nil => exact iff_of_true nofun nofun
  | cons b bs ih =>
    obtain ⟨hkeep, hkps⟩ := forall_mem_cons.mp fun b hb a => hkeep a b hb
    obtain ⟨hstep, hsteps⟩ := forall_mem_cons.mp fun b hb a => hstep a b hb
    rw [foldlM_cons, within_bind, forall_mem_cons, hstep a ha]
    exact and_congr_right fun _ => ih (fun a b hb => hkps b hb a) (fun a b hb => hsteps b hb a) (hkeep a ha)

def checked (a : α) (c : Prop) [Decidable c] (fault : Fault) : Checked α := ⟨a, if c then [] else [fault]⟩

theorem within_checked {a : α} {c : Prop} [Decidable c] {fault : Fault} (hfault : ¬fault.Admitted ok) :
    Within ok (checked a c fault) ↔ c := by
  rw [Within, checked]
  split
  · next hc => exact iff_of_true nofun hc
  · next hc => exact iff_of_false (fun h => hfault (h _ mem_cons_self)) hc

def usize (n : Nat) : Checked Nat := checked n (n < 2 ^ 64) .overflow

def addU16 (a b : UInt16) : Checked UInt16 := checked (a + b) (a.toNat + b.toNat < 2 ^ 16) .overflow

def subU16 (a b : UInt16) : Checked UInt16 := checked (a - b) (b.toNat ≤ a.toNat) .overflow

def FitsI16 (n : Int) : Prop := -2 ^ 15 ≤ n ∧ n < 2 ^ 15

instance (n : Int) : Decidable (FitsI16 n) := inferInstanceAs (Decidable (_ ∧ _))

def addI16 (a b : Int16) : Checked Int16 := checked (a + b) (FitsI16 (a.toInt + b.toInt)) .overflow

def subI16 (a b : Int16) : Checked Int16 := checked (a - b) (FitsI16 (a.toInt - b.toInt)) .overflow

def index [Inhabited α] (xs : List α) (i : Nat) : Checked α := checked (xs.getD i default) (i < xs.length) .outOfBounds

def store (xs : List α) (i : Nat) (a : α) : Checked (List α) := checked (xs.set i a) (i < xs.length) .outOfBounds

def alloc (n : Nat) : Checked Unit := ⟨(), [.alloc n]⟩

@[simp] theorem value_usize : (usize n).value = n := rfl

@[simp] theorem value_store (a : α) : (store xs i a).value = xs.set i a := rfl

@[simp] theorem within_usize : Within ok (usize n) ↔ n < 2 ^ 64 := within_checked nofun

@[simp] theorem within_addU16 {a b : UInt16} : Within ok (addU16 a b) ↔ a.toNat + b.toNat < 2 ^ 16 :=
  within_checked nofun

@[simp] theorem within_subU16 {a b : UInt16} : Within ok (subU16 a b) ↔ b.toNat ≤ a.toNat := within_checked nofun

@[simp] theorem within_addI16 {a b : Int16} : Within ok (addI16 a b) ↔ FitsI16 (a.toInt + b.toInt) :=
  within_checked nofun

@[simp] theorem within_subI16 {a b : Int16} : Within ok (subI16 a b) ↔ FitsI16 (a.toInt - b.toInt) :=
  within_checked nofun

@[simp] theorem within_index [Inhabited α] : Within ok (index xs i) ↔ i < xs.length := within_checked nofun

@[simp] theorem within_store {a : α} : Within ok (store xs i a) ↔ i < xs.length := within_checked nofun

@[simp] theorem within_alloc : Within ok (alloc n) ↔ ok n := forall_mem_singleton

end X11Web.CheckedRuns
