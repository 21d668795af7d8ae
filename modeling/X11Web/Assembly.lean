import Mathlib.Data.Finset.Card
import Mathlib.Data.List.Induction
import Mathlib.Data.Finset.Range

namespace X11Web.Assembly

open List

structure Part where
  message : Nat
  index : Nat
deriving DecidableEq

/-- A receiver that collects the parts of the newest message, and the messages that
it has put together. -/
structure Assembler where
  newest : Option Nat := none
  got : List Nat := []
  out : List Nat := []
deriving DecidableEq

variable (total : Nat → Nat)

def Assembler.advance (a : Assembler) (m : Nat) : Assembler :=
  if a.newest = some m then a else ⟨some m, [], a.out⟩

def Assembler.enter (a : Assembler) (p : Part) : Assembler :=
  if p.index ∈ a.got then a
  else if a.got.length + 1 < total p.message then { a with got := p.index :: a.got }
  else ⟨a.newest, [], a.out ++ [p.message]⟩

/-- Parts of older messages are dropped, and a newer message takes the place of the
one that is collected. -/
def Assembler.step (a : Assembler) (p : Part) : Assembler :=
  if a.newest.any (fun n => p.message < n) then a else (a.advance p.message).enter total p

def assemble (parts : List Part) : Assembler := parts.foldl (Assembler.step total) {}

theorem assemble_concat (parts : List Part) (p : Part) :
    assemble total (parts ++ [p]) = (assemble total parts).step total p := by
  rw [assemble, foldl_concat]
  rfl

def UpTo (m : Nat) (parts : List Part) : Prop := ∀ p ∈ parts, p.message ≤ m

def Whole (m : Nat) (parts : List Part) : Prop := ∀ k < total m, ⟨m, k⟩ ∈ parts

def Completed (m : Nat) (parts : List Part) : Prop :=
  ∃ before, before <+: parts ∧ Whole total m before ∧ UpTo m before

/-- With `p` all parts of its message come once more, still before any newer one. -/
def Again (parts : List Part) (p : Part) : Prop :=
  ∃ before since, parts = before ++ since ∧ Whole total p.message before ∧ UpTo p.message parts ∧
    Whole total p.message (since ++ [p])

variable {total} {parts : List Part} {p : Part} {m n : Nat} {a : Assembler}

theorem upTo_concat : UpTo m (parts ++ [p]) ↔ UpTo m parts ∧ p.message ≤ m := by
  simp [UpTo, or_imp, forall_and]

theorem whole_concat_of_ne (hne : p.message ≠ m) : Whole total m (parts ++ [p]) ↔ Whole total m parts := by
  refine forall₂_congr fun k _ => ?_
  rw [mem_append, mem_singleton]
  refine or_iff_left ?_
  rintro rfl
  exact hne rfl

theorem completed_concat :
    Completed total m (parts ++ [p]) ↔
      Completed total m parts ∨ (Whole total m (parts ++ [p]) ∧ UpTo m (parts ++ [p])) := by
  constructor
  · rintro ⟨before, hbef, h⟩
    rcases prefix_concat_iff.mp hbef with rfl | hbef
    · exact .inr h
    · exact .inl ⟨before, hbef, h⟩
  · rintro (⟨before, hbef, h⟩ | h)
    · exact ⟨before, hbef.trans (prefix_append parts [p]), h⟩
    · exact ⟨_, prefix_rfl, h⟩

theorem Completed.mem (hpos : ∀ m, 0 < total m) (h : Completed total m parts) : ⟨m, 0⟩ ∈ parts := by
  obtain ⟨before, hbef, hwhole, -⟩ := h
  exact hbef.subset (hwhole 0 (hpos m))

theorem mem_of_length {t : Nat} {ks : List Nat} (hnd : ks.Nodup) (hlt : ∀ k ∈ ks, k < t)
    (hlen : t ≤ ks.length) (k : Nat) (hk : k < t) : k ∈ ks := by
  have hsubset : ks.toFinset ⊆ Finset.range t := by
    intro j hj
    exact Finset.mem_range.mpr (hlt j (mem_toFinset.mp hj))
  have hcard : (Finset.range t).card ≤ ks.toFinset.card := by
    rwa [Finset.card_range, toFinset_card_of_nodup hnd]
  have heq := Finset.eq_of_subset_of_card_le hsubset hcard
  rw [← mem_toFinset, heq, Finset.mem_range]
  exact hk

theorem length_of_mem {t : Nat} {ks : List Nat} (h : ∀ k < t, k ∈ ks) : t ≤ ks.length := by
  have hsubset : Finset.range t ⊆ ks.toFinset := by
    intro j hj
    exact mem_toFinset.mpr (h j (Finset.mem_range.mp hj))
  calc t = (Finset.range t).card := (Finset.card_range t).symm
    _ ≤ ks.toFinset.card := Finset.card_le_card hsubset
    _ ≤ ks.length := toFinset_card_le ks

/-- The receiver collects the message `m`, which is the newest one. -/
structure Collecting (total : Nat → Nat) (parts : List Part) (m : Nat) (a : Assembler) : Prop where
  newest : a.newest = some m
  upTo : UpTo m parts
  nodup : a.got.Nodup
  index : ∀ k ∈ a.got, k < total m
  short : a.got.length < total m
  out : ∀ j, j ∈ a.out ↔ Completed total j parts
  sorted : a.out.Pairwise (· < ·)
  fresh : m ∉ a.out → ∀ k, k ∈ a.got ↔ ⟨m, k⟩ ∈ parts
  since : m ∈ a.out → ∃ before since, parts = before ++ since ∧ Whole total m before ∧
    ∀ k ∈ a.got, ⟨m, k⟩ ∈ since

theorem Collecting.out_le (h : Collecting total parts m a) (hpos : ∀ m, 0 < total m) {j : Nat} (hj : j ∈ a.out) :
    j ≤ m :=
  h.upTo _ (((h.out j).mp hj).mem hpos)

theorem completed_concat_of_ne (hne : p.message ≠ m) :
    Completed total m (parts ++ [p]) ↔ Completed total m parts := by
  rw [completed_concat, whole_concat_of_ne hne, upTo_concat]
  refine or_iff_left_of_imp ?_
  rintro ⟨hwhole, hupTo, -⟩
  exact ⟨parts, prefix_rfl, hwhole, hupTo⟩

theorem mem_concat_part (parts : List Part) (p : Part) (k : Nat) :
    ⟨p.message, k⟩ ∈ parts ++ [p] ↔ k = p.index ∨ ⟨p.message, k⟩ ∈ parts := by
  rw [mem_append, mem_singleton, or_comm]
  refine or_congr_left ⟨fun heq => congrArg Part.index heq, ?_⟩
  rintro rfl
  rfl

theorem Collecting.out_concat (h : Collecting total parts p.message a)
    (hnot : ¬ (p.message ∉ a.out ∧ Whole total p.message (parts ++ [p]))) (j : Nat) :
    j ∈ a.out ↔ Completed total j (parts ++ [p]) := by
  rw [h.out]
  by_cases hj : p.message = j
  · subst hj
    rw [completed_concat]
    refine (or_iff_left_of_imp ?_).symm
    rintro ⟨hwhole, -⟩
    by_contra hnew
    exact hnot ⟨fun hmem => hnew ((h.out _).mp hmem), hwhole⟩
  · rw [completed_concat_of_ne hj]

theorem Collecting.since_concat (h : Collecting total parts p.message a) (hmem : p.message ∈ a.out) :
    ∃ before since, parts ++ [p] = before ++ since ∧ Whole total p.message before ∧
      (∀ k ∈ a.got, ⟨p.message, k⟩ ∈ since) ∧ p ∈ since := by
  obtain ⟨before, since, rfl, hwhole, hgot⟩ := h.since hmem
  exact ⟨before, since ++ [p], append_assoc .., hwhole,
    fun k hk => mem_append_left _ (hgot k hk), by simp⟩

theorem Collecting.enter_again (h : Collecting total parts p.message a) (hdup : p.index ∈ a.got) :
    Collecting total (parts ++ [p]) p.message a := by
  refine ⟨h.newest, upTo_concat.mpr ⟨h.upTo, le_rfl⟩, h.nodup, h.index, h.short, h.out_concat ?_, h.sorted, ?_, ?_⟩
  · rintro ⟨hnew, hwhole⟩
    refine h.short.not_ge (length_of_mem fun k hk => ?_)
    rcases (mem_concat_part parts p k).mp (hwhole k hk) with rfl | hmem
    · exact hdup
    · exact (h.fresh hnew k).mpr hmem
  · intro hnew k
    rw [h.fresh hnew, mem_concat_part]
    refine (or_iff_right_of_imp ?_).symm
    rintro rfl
    exact (h.fresh hnew _).mp hdup
  · intro hmem
    obtain ⟨before, since, heq, hwhole, hgot, -⟩ := h.since_concat hmem
    exact ⟨before, since, heq, hwhole, hgot⟩

section NewPart

variable (h : Collecting total parts p.message a) (hidx : p.index < total p.message) (hdup : p.index ∉ a.got)

include h

theorem Collecting.fresh_concat (hnew : p.message ∉ a.out) (k : Nat) :
    k ∈ p.index :: a.got ↔ ⟨p.message, k⟩ ∈ parts ++ [p] := by
  rw [mem_cons, h.fresh hnew, mem_concat_part]

include hidx hdup

theorem Collecting.got_cons : (p.index :: a.got).Nodup ∧ ∀ k ∈ p.index :: a.got, k < total p.message :=
  ⟨nodup_cons.mpr ⟨hdup, h.nodup⟩, by simpa using ⟨hidx, h.index⟩⟩

theorem Collecting.enter_more (hmore : a.got.length + 1 < total p.message) :
    Collecting total (parts ++ [p]) p.message { a with got := p.index :: a.got } := by
  obtain ⟨hnd, hlt⟩ := h.got_cons hidx hdup
  refine ⟨h.newest, upTo_concat.mpr ⟨h.upTo, le_rfl⟩, hnd, hlt, hmore, h.out_concat ?_, h.sorted,
    h.fresh_concat, ?_⟩
  · rintro ⟨hnew, hwhole⟩
    exact hmore.not_ge (length_of_mem fun k hk => (h.fresh_concat hnew k).mpr (hwhole k hk))
  · intro hmem
    obtain ⟨before, since, heq, hwhole, hgot, hp⟩ := h.since_concat hmem
    refine ⟨before, since, heq, hwhole, fun k hk => ?_⟩
    rcases mem_cons.mp hk with rfl | hk
    · exact hp
    · exact hgot k hk

theorem Collecting.enter_last (hpos : ∀ m, 0 < total m) (hagain : ¬ Again total parts p)
    (hlast : total p.message ≤ a.got.length + 1) :
    Collecting total (parts ++ [p]) p.message ⟨a.newest, [], a.out ++ [p.message]⟩ := by
  have hupTo : UpTo p.message (parts ++ [p]) := upTo_concat.mpr ⟨h.upTo, le_rfl⟩
  obtain ⟨hnd, hlt⟩ := h.got_cons hidx hdup
  have hall : ∀ k < total p.message, k ∈ p.index :: a.got := mem_of_length hnd hlt hlast
  have hnew : p.message ∉ a.out := by
    intro hmem
    obtain ⟨before, since, heq, hwhole, hgot⟩ := h.since hmem
    refine hagain ⟨before, since, heq, hwhole, h.upTo, fun k hk => ?_⟩
    rcases mem_cons.mp (hall k hk) with rfl | hk
    · exact mem_append_right _ mem_cons_self
    · exact mem_append_left _ (hgot k hk)
  have hwhole : Whole total p.message (parts ++ [p]) := fun k hk => (h.fresh_concat hnew k).mp (hall k hk)
  refine ⟨h.newest, hupTo, nodup_nil, by simp, hpos _, ?_, ?_, by simp, ?_⟩
  · intro j
    rw [mem_append, mem_singleton, h.out]
    by_cases hj : p.message = j
    · subst hj
      exact iff_of_true (.inr rfl) (completed_concat.mpr (.inr ⟨hwhole, hupTo⟩))
    · rw [completed_concat_of_ne hj]
      exact or_iff_left (Ne.symm hj)
  · rw [pairwise_append]
    refine ⟨h.sorted, pairwise_singleton .., fun j hj k hk => ?_⟩
    rw [mem_singleton.mp hk]
    refine lt_of_le_of_ne (h.out_le hpos hj) ?_
    rintro rfl
    exact hnew hj
  · exact fun _ => ⟨parts ++ [p], [], (append_nil _).symm, hwhole, by simp⟩

end NewPart

theorem Collecting.enter (h : Collecting total parts p.message a) (hidx : p.index < total p.message)
    (hpos : ∀ m, 0 < total m) (hagain : ¬ Again total parts p) :
    Collecting total (parts ++ [p]) p.message (a.enter total p) := by
  rw [Assembler.enter]
  split
  · next hdup => exact h.enter_again hdup
  · next hdup =>
    split
    · next hmore => exact h.enter_more hidx hdup hmore
    · next hlast => exact h.enter_last hidx hdup hpos hagain (Nat.not_lt.mp hlast)

def Tracks (total : Nat → Nat) (parts : List Part) (a : Assembler) : Prop :=
  (parts = [] ∧ a = {}) ∨ ∃ m, Collecting total parts m a ∧ ∃ k, ⟨m, k⟩ ∈ parts

theorem Tracks.step (h : Tracks total parts a) (hidx : p.index < total p.message) (hpos : ∀ m, 0 < total m)
    (hagain : ¬ Again total parts p) : Tracks total (parts ++ [p]) (a.step total p) := by
  have hp : ∃ k, ⟨p.message, k⟩ ∈ parts ++ [p] := ⟨p.index, by simp⟩
  rcases h with ⟨rfl, rfl⟩ | ⟨n, h, k, hk⟩
  · have hst : Collecting total [] p.message ⟨some p.message, [], []⟩ := by
      refine ⟨rfl, by simp [UpTo], nodup_nil, by simp, hpos _, fun j => ?_, List.Pairwise.nil, by simp, by simp⟩
      exact iff_of_false not_mem_nil fun hdone => absurd (hdone.mem hpos) not_mem_nil
    exact .inr ⟨p.message, hst.enter hidx hpos hagain, hp⟩
  rw [Assembler.step, h.newest]
  by_cases hold : p.message < n
  · -- a part of an older message is dropped
    rw [if_pos (by simpa using hold)]
    have hne : p.message ≠ n := hold.ne
    refine .inr ⟨n, ⟨h.newest, upTo_concat.mpr ⟨h.upTo, hold.le⟩, h.nodup, h.index, h.short, fun j => ?_,
      h.sorted, fun hnew j => ?_, fun hmem => ?_⟩, k, mem_append_left _ hk⟩
    · rw [h.out]
      by_cases hj : p.message = j
      · subst hj
        rw [completed_concat]
        refine (or_iff_left_of_imp ?_).symm
        rintro ⟨-, hupTo⟩
        exact absurd (hupTo _ (mem_append_left _ hk)) hold.not_ge
      · rw [completed_concat_of_ne hj]
    · rw [h.fresh hnew, mem_append, mem_singleton]
      refine (or_iff_left ?_).symm
      rintro rfl
      exact hne rfl
    · obtain ⟨before, since, rfl, hwhole, hgot⟩ := h.since hmem
      exact ⟨before, since ++ [p], append_assoc .., hwhole, fun j hj => mem_append_left _ (hgot j hj)⟩
  rw [if_neg (by simpa using hold)]
  refine .inr ⟨p.message, Collecting.enter ?_ hidx hpos hagain, hp⟩
  by_cases heq : n = p.message
  · subst heq
    rwa [Assembler.advance, if_pos h.newest]
  · -- a newer message: none of its parts has come yet
    have hlt : n < p.message := lt_of_le_of_ne (Nat.not_lt.mp hold) heq
    have hnone : ∀ j, ⟨p.message, j⟩ ∉ parts := fun j hj => hlt.not_ge (h.upTo ⟨p.message, j⟩ hj)
    have hnew : p.message ∉ a.out := fun hmem => hlt.not_ge (h.out_le hpos hmem)
    rw [Assembler.advance, if_neg (by simpa [h.newest] using heq)]
    exact ⟨rfl, fun q hq => (h.upTo q hq).trans hlt.le, nodup_nil, by simp, hpos _, h.out, h.sorted,
      fun _ j => iff_of_false not_mem_nil (hnone j), fun hmem => absurd hmem hnew⟩

theorem Tracks.out (h : Tracks total parts a) (hpos : ∀ m, 0 < total m) (j : Nat) :
    j ∈ a.out ↔ Completed total j parts := by
  rcases h with ⟨rfl, rfl⟩ | ⟨m, h, -⟩
  · exact iff_of_false not_mem_nil fun hdone => absurd (hdone.mem hpos) not_mem_nil
  · exact h.out j

theorem Tracks.sorted (h : Tracks total parts a) : a.out.Pairwise (· < ·) := by
  rcases h with ⟨-, rfl⟩ | ⟨m, h, -⟩
  · exact List.Pairwise.nil
  · exact h.sorted

theorem Tracks.nodup (h : Tracks total parts a) : a.got.Nodup := by
  rcases h with ⟨-, rfl⟩ | ⟨m, h, -⟩
  · exact nodup_nil
  · exact h.nodup

theorem Tracks.newest (h : Tracks total parts a) (hn : a.newest = some n) :
    UpTo n parts ∧ (∃ k, ⟨n, k⟩ ∈ parts) ∧ ∀ k ∈ a.got, k < total n := by
  rcases h with ⟨-, rfl⟩ | ⟨m, h, hm⟩
  · cases hn
  · obtain rfl : m = n := Option.some.inj (h.newest.symm.trans hn)
    exact ⟨h.upTo, hm, h.index⟩

theorem step_out (total : Nat → Nat) (a : Assembler) (p : Part) :
    (a.step total p).out = a.out ∨ (a.step total p).out = a.out ++ [p.message] := by
  have hadv : (a.advance p.message).out = a.out := by
    rw [Assembler.advance]
    split <;> rfl
  rw [Assembler.step, Assembler.enter, ← hadv]
  split
  · exact .inl hadv.symm
  split
  · exact .inl rfl
  split
  · exact .inl rfl
  · exact .inr rfl

end X11Web.Assembly
