import Mathlib.Data.List.Basic
import Mathlib.Data.List.Induction
import Mathlib.Data.Set.Function
import Mathlib.Order.Interval.Set.Defs

namespace X11Web.Overwrites

open List

variable {α ι : Type}

def overwrite (b : List α) (off : Nat) (part : List α) : List α :=
  b.take off ++ part ++ b.drop (off + part.length)

def slice (b : List α) (off len : Nat) : List α := (b.drop off).take len

structure ChangesOnly (S : Set Nat) (b b' : List α) : Prop where
  length : b'.length = b.length
  outside : ∀ i ∉ S, b'[i]? = b[i]?

variable {S T : Set Nat} {a b c part : List α} {off len : Nat}

theorem ChangesOnly.refl (S : Set Nat) (b : List α) : ChangesOnly S b b :=
  ⟨rfl, fun _ _ => rfl⟩

theorem ChangesOnly.trans (h : ChangesOnly S a b) (h' : ChangesOnly S b c) : ChangesOnly S a c :=
  ⟨h'.length.trans h.length, fun i hi => (h'.outside i hi).trans (h.outside i hi)⟩

theorem ChangesOnly.mono (h : ChangesOnly S a b) (hST : S ⊆ T) : ChangesOnly T a b :=
  ⟨h.length, fun i hi => h.outside i (fun hS => hi (hST hS))⟩

theorem ChangesOnly.getElem?_eq {i : Nat} (h : ChangesOnly S a b) (hi : i < b.length → i ∉ S) :
    b[i]? = a[i]? := by
  by_cases hlt : i < b.length
  · exact h.outside i (hi hlt)
  · rw [List.getElem?_eq_none (by omega), List.getElem?_eq_none (by rw [← h.length]; omega)]

theorem ChangesOnly.foldl {f : List α → ι → List α} (xs : List ι)
    (hstep : ∀ b : List α, b.length = a.length → ∀ x ∈ xs, ChangesOnly S b (f b x)) :
    ChangesOnly S a (xs.foldl f a) := by
  induction xs generalizing a with
  | nil => exact .refl S a
  | cons x xs ih =>
    have hx := hstep a rfl x mem_cons_self
    refine hx.trans (ih fun b hb y hy => ?_)
    exact hstep b (hb.trans hx.length) y (mem_cons_of_mem x hy)

/-- One round of a loop over different ones decides a part of what the loop makes. -/
theorem part_foldl_nodup {σ β : Type} {f : σ → ι → σ} {start : σ} {xs : List ι} {r : ι} {v : β}
    (part : σ → β) (Keeps : σ → Prop) (hnd : xs.Nodup) (hst : Keeps start)
    (hkps : ∀ s, Keeps s → ∀ x ∈ xs, Keeps (f s x))
    (hoth : ∀ s, Keeps s → ∀ x ∈ xs, x ≠ r → part (f s x) = part s)
    (hround : ∀ s, Keeps s → part s = part start → r ∈ xs → part (f s r) = v) :
    (r ∈ xs → part (xs.foldl f start) = v) ∧ (r ∉ xs → part (xs.foldl f start) = part start) := by
  suffices h : ∀ ys, ys <+: xs → Keeps (ys.foldl f start) ∧ (r ∈ ys → part (ys.foldl f start) = v) ∧
      (r ∉ ys → part (ys.foldl f start) = part start) from (h xs prefix_rfl).2
  intro ys hys
  induction ys using List.reverseRecOn with
  | nil => exact ⟨hst, nofun, fun _ => rfl⟩
  | append_singleton ys y ih =>
    obtain ⟨hkept, hin, hout⟩ := ih ((prefix_append ys [y]).trans hys)
    have hy : y ∈ xs := hys.subset (by simp)
    have hnew : y ∉ ys := fun h => (nodup_append.mp (hnd.sublist hys.sublist)).2.2 y h y
      (mem_singleton_self y) rfl
    rw [foldl_concat, mem_append, mem_singleton]
    refine ⟨hkps _ hkept y hy, ?_, fun hr => ?_⟩
    · rintro (hr | rfl)
      · rw [hoth _ hkept y hy fun heq => hnew (heq ▸ hr), hin hr]
      · exact hround _ hkept (hout hnew) hy
    · rw [hoth _ hkept y hy fun heq => hr (.inr heq.symm), hout fun h => hr (.inl h)]

theorem part_foldl_range {σ β : Type} {f : σ → Nat → σ} {start : σ} {r n : Nat} {v : β} (part : σ → β)
    (Keeps : σ → Prop) (hst : Keeps start) (hkps : ∀ s, Keeps s → ∀ k < n, Keeps (f s k))
    (hoth : ∀ s, Keeps s → ∀ k < n, k ≠ r → part (f s k) = part s)
    (hround : ∀ s, Keeps s → part s = part start → r < n → part (f s r) = v) :
    part ((List.range n).foldl f start) = if r < n then v else part start := by
  obtain ⟨hin, hout⟩ := part_foldl_nodup part Keeps nodup_range hst
    (fun s hs k hk => hkps s hs k (mem_range.mp hk)) (fun s hs k hk => hoth s hs k (mem_range.mp hk))
    (fun s hs hsame hr => hround s hs hsame (mem_range.mp hr))
  split
  · next hr => exact hin (mem_range.mpr hr)
  · next hr => exact hout fun h => hr (mem_range.mp h)

theorem getElem?_foldl_range {f : List α → Nat → List α} {i r n : Nat} {v : Option α}
    (hlength : ∀ b : List α, b.length = a.length → ∀ k < n, (f b k).length = a.length)
    (hoth : ∀ b : List α, b.length = a.length → ∀ k < n, k ≠ r → (f b k)[i]? = b[i]?)
    (hround : ∀ b : List α, b.length = a.length → r < n → (f b r)[i]? = v) :
    ((List.range n).foldl f a)[i]? = if r < n then v else a[i]? :=
  part_foldl_range (fun b : List α => b[i]?) (fun b => b.length = a.length) rfl hlength hoth
    (fun b hb _ => hround b hb)

theorem length_overwrite (h : off + part.length ≤ b.length) :
    (overwrite b off part).length = b.length := by
  simp only [overwrite, length_append, length_take, length_drop]
  omega

theorem getElem?_overwrite (h : off + part.length ≤ b.length) (i : Nat) :
    (overwrite b off part)[i]? =
      if off ≤ i ∧ i < off + part.length then part[i - off]? else b[i]? := by
  have htake : (b.take off).length = off := by
    rw [length_take]
    omega
  rw [overwrite, append_assoc, List.getElem?_append, htake]
  by_cases hlow : i < off
  · rw [if_pos hlow, if_neg (by omega), List.getElem?_take_of_lt hlow]
  · rw [if_neg hlow, List.getElem?_append]
    by_cases hhigh : i - off < part.length
    · rw [if_pos hhigh, if_pos (by omega)]
    · rw [if_neg hhigh, if_neg (by omega), List.getElem?_drop]
      congr 1
      omega

theorem overwrite_changesOnly (h : off + part.length ≤ b.length) :
    ChangesOnly (Set.Ico off (off + part.length)) b (overwrite b off part) := by
  refine ⟨length_overwrite h, fun i hi => ?_⟩
  rw [getElem?_overwrite h]
  exact if_neg hi

theorem length_slice (h : off + len ≤ b.length) : (slice b off len).length = len := by
  rw [slice, length_take, length_drop]
  omega

theorem getElem?_slice {i : Nat} (hi : i < len) : (slice b off len)[i]? = b[off + i]? := by
  rw [slice, List.getElem?_take_of_lt hi, List.getElem?_drop]

theorem slice_congr {b' : List α} {off' : Nat} (h : ∀ i < len, b[off + i]? = b'[off' + i]?) :
    slice b off len = slice b' off' len := by
  apply ext_getElem?
  intro i
  by_cases hi : i < len
  · rw [getElem?_slice hi, getElem?_slice hi, h i hi]
  · rw [slice, slice, List.getElem?_take, List.getElem?_take, if_neg hi, if_neg hi]

theorem slice_overwrite (h : off + part.length ≤ b.length) : slice (overwrite b off part) off part.length = part := by
  apply ext_getElem?
  intro i
  by_cases hi : i < part.length
  · rw [getElem?_slice hi, getElem?_overwrite h, if_pos (by omega), Nat.add_sub_cancel_left]
  · rw [slice, List.getElem?_take, if_neg hi, List.getElem?_eq_none (by omega)]

theorem slice_overwrite_disjoint {off' n : Nat} (h : off + part.length ≤ b.length)
    (hdisj : off' + n ≤ off ∨ off + part.length ≤ off') : slice (overwrite b off part) off' n = slice b off' n := by
  refine slice_congr fun i hi => ?_
  rw [getElem?_overwrite h, if_neg (by omega)]

theorem getElem?_foldl_overwrite_slice {offs : ι → Nat} (xs : List ι)
    (hoffs : ∀ x ∈ xs, offs x + len ≤ b.length) (hlen : a.length = b.length) (i : Nat) :
    ((∃ x ∈ xs, i ∈ Set.Ico (offs x) (offs x + len)) →
      (xs.foldl (fun a x => overwrite a (offs x) (slice b (offs x) len)) a)[i]? = b[i]?) ∧
    (a[i]? = b[i]? →
      (xs.foldl (fun a x => overwrite a (offs x) (slice b (offs x) len)) a)[i]? = b[i]?) := by
  induction xs generalizing a with
  | nil => exact ⟨fun h => by simp at h, fun h => h⟩
  | cons x xs ih =>
    have hx := hoffs x mem_cons_self
    have hslice := length_slice hx
    have hfit : offs x + (slice b (offs x) len).length ≤ a.length := by
      rw [hslice, hlen]
      exact hx
    have hstep := getElem?_overwrite hfit i
    rw [hslice] at hstep
    have hins : i ∈ Set.Ico (offs x) (offs x + len) →
        (overwrite a (offs x) (slice b (offs x) len))[i]? = b[i]? := by
      rintro ⟨hlow, hhigh⟩
      rw [hstep, if_pos ⟨hlow, hhigh⟩, getElem?_slice (by omega), Nat.add_sub_cancel' hlow]
    have hrest := ih (fun y hy => hoffs y (mem_cons_of_mem x hy))
      ((length_overwrite hfit).trans hlen)
    rw [foldl_cons]
    refine ⟨?_, ?_⟩
    · rintro ⟨y, hy, hmem⟩
      rcases mem_cons.mp hy with rfl | hy
      · exact hrest.2 (hins hmem)
      · exact hrest.1 ⟨y, hy, hmem⟩
    · intro hsame
      apply hrest.2
      by_cases hmem : i ∈ Set.Ico (offs x) (offs x + len)
      · exact hins hmem
      · rw [hstep]
        exact (if_neg hmem).trans hsame

theorem length_flatMap_range {f : Nat → List α} {n : Nat} (hf : ∀ k < n, (f k).length = len) :
    ((List.range n).flatMap f).length = n * len := by
  induction n with
  | zero => simp
  | succ n ih =>
    rw [range_succ, flatMap_append, length_append, ih fun k hk => hf k (by omega),
      flatMap_singleton, hf n (by omega), Nat.succ_mul]

theorem slice_flatMap_range {f : Nat → List α} {n : Nat} (hf : ∀ k < n, (f k).length = len) {k : Nat}
    (hk : k < n) : slice ((List.range n).flatMap f) (k * len) len = f k := by
  induction n with
  | zero => omega
  | succ n ih =>
    have hlength := length_flatMap_range fun k hk => hf k (Nat.lt_succ_of_lt hk)
    rw [range_succ, flatMap_append, flatMap_singleton, slice]
    rcases Nat.lt_succ_iff_lt_or_eq.mp hk with hlt | rfl
    · have hfits : k * len + len ≤ n * len := by
        rw [← Nat.succ_mul]
        exact Nat.mul_le_mul_right len hlt
      rw [drop_append_of_le_length (by omega), take_append_of_le_length (by
        rw [length_drop]
        omega)]
      exact ih (fun k hk => hf k (Nat.lt_succ_of_lt hk)) hlt
    · rw [drop_left' hlength, take_of_length_le (hf k hk).le]

end X11Web.Overwrites
