import X11Web.Brackets
import X11Web.RecordTraffic

namespace X11Web.Recording

open Brackets EventWire RecordRanges RecordTraffic List
open SyncWindows Windows

variable {P : Parsers} {s s' : Server} {c o : ClientId} {X : XId} {p : Nat} {e : Element} {m : Sent}
  {payload : Bytes} {orders : Orders}

/-- The element that a message reports for a period of a context. -/
def elementFor (X : XId) (p : Nat) (m : Sent) : Option Element :=
  match m.tag with
  | .data X' p' e => if X' = X ∧ p' = p then some e else none
  | _ => none

def dataOf (X : XId) (p : Nat) (messages : List Sent) : List Element := messages.filterMap (elementFor X p)

/-- The period goes on: the context is enabled and in the hands of `o`. -/
def Running (s : Server) (X : XId) (p : Nat) (o : ClientId) : Prop :=
  ∃ r, s.registry.lookup X = some r ∧ r.owner = o ∧ r.period = p ∧ r.enabled = true

/-- Every element that was processed while a context was enabled and chose it is
reported once, to the owner of the context and to nobody else, in the order of the
processing, and between the opening and the end of its period. -/
structure RecordsOnce (s : Server) : Prop where
  once : ∀ o X p, dataOf X p ((s.clients o).stream ++ (s.clients o).pending ++ (s.clients o).inbox) =
    s.log o X p
  carried : ∀ o, ∀ m ∈ (s.clients o).stream ++ (s.clients o).pending ++ (s.clients o).inbox,
    ∀ X p e, m.tag = .data X p e → Carries m.bytes e
  between : ∀ o X p e pre m post, (s.clients o).written = pre ++ m :: post → m.tag = .data X p e →
    (∃ x ∈ pre, x.tag = .start X p) ∧ (∀ x ∈ pre, x.tag ≠ .finish X p) ∧
      (Running s X p o ∨ ∃ x ∈ post, x.tag = .finish X p)

structure Tracked (s : Server) : Prop where
  shared : ∀ X, s.shared.lookup X = (s.registry.lookup X).map (Registration.entry X)
  own : ∀ c X, (s.clients c).contexts.lookup X =
    ((s.registry.lookup X).filter fun r => r.owner = c).map (Registration.stored X)
  clock_pos : 0 < s.clock
  period_lt : ∀ X r, s.registry.lookup X = some r → r.period < s.clock
  period_pos : ∀ X r, s.registry.lookup X = some r → r.enabled = true → 0 < r.period

def TagBefore (clock : Nat) : Tag → Prop
  | .other => True
  | .start _ p => p < clock
  | .data _ p _ => p < clock
  | .finish _ p => p < clock

def IsData (X : XId) (p : Nat) (m : Sent) : Prop := ∃ e, m.tag = .data X p e

def IsStart (X : XId) (p : Nat) (m : Sent) : Prop := m.tag = .start X p

def IsFinish (X : XId) (p : Nat) (m : Sent) : Prop := m.tag = .finish X p

structure Delivered (s : Server) : Prop where
  pending_other : ∀ c, ∀ m ∈ (s.clients c).pending, m.tag = .other
  response_clean : ∀ c, ∀ m ∈ (s.clients c).phase.response, ∀ X p, ¬IsData X p m
  inbox_running : ∀ c, ∀ m ∈ (s.clients c).inbox,
    m.tag = .other ∨ ∃ X p e, m.tag = .data X p e ∧ Running s X p c
  written_before : ∀ c, ∀ m ∈ (s.clients c).written, TagBefore s.clock m.tag
  started : ∀ X p c, Running s X p c →
    (∃ m ∈ (s.clients c).written, IsStart X p m) ∧ ∀ m ∈ (s.clients c).written, ¬IsFinish X p m
  bracketed : ∀ c X p, Bracketed (IsStart X p) (IsData X p) (IsFinish X p) (s.clients c).written
  finished : ∀ X p c, (∃ m ∈ (s.clients c).written, IsData X p m) →
    Running s X p c ∨ ∃ m ∈ (s.clients c).written, IsFinish X p m
  once : ∀ o X p, dataOf X p ((s.clients o).stream ++ (s.clients o).inbox) = s.log o X p
  carried : ∀ o, ∀ m ∈ (s.clients o).stream ++ (s.clients o).inbox, ∀ X p e, m.tag = .data X p e →
    Carries m.bytes e

theorem dataOf_append (X : XId) (p : Nat) (l l' : List Sent) :
    dataOf X p (l ++ l') = dataOf X p l ++ dataOf X p l' :=
  filterMap_append

theorem dataOf_eq_nil {l : List Sent} (h : ∀ m ∈ l, ∀ X p, ¬IsData X p m) (X : XId) (p : Nat) :
    dataOf X p l = [] := by
  rw [dataOf, filterMap_eq_nil_iff]
  intro m hm
  rw [elementFor]
  split
  · next X' p' e htag =>
    exact absurd ⟨e, htag⟩ (h m hm X' p')
  · rfl

theorem not_isData_of_other (h : m.tag = .other) (X : XId) (p : Nat) : ¬IsData X p m := by
  rintro ⟨e, he⟩
  rw [h] at he
  cases he

theorem dataOf_eq_nil_iff {l : List Sent} {X : XId} {p : Nat} :
    dataOf X p l = [] ↔ ∀ m ∈ l, ¬IsData X p m := by
  rw [dataOf, filterMap_eq_nil_iff]
  refine forall₂_congr fun m _ => ?_
  rw [elementFor, IsData]
  split
  · next X' p' e htag =>
    simp only [htag, Tag.data.injEq, ite_eq_right_iff, reduceCtorEq, imp_false, not_and, not_exists]
    exact ⟨fun h _ hX hp _ => h hX hp, fun h hX hp => h e hX hp rfl⟩
  · next htag =>
    exact iff_of_true rfl fun ⟨e, he⟩ => htag X p e he

theorem Delivered.recordsOnce (h : Delivered s) : RecordsOnce s where
  once o X p := by
    have hpend := dataOf_eq_nil (fun m hm X p => not_isData_of_other (h.pending_other o m hm) X p) X p
    rw [dataOf_append, dataOf_append, hpend, append_nil, ← dataOf_append]
    exact h.once o X p
  carried o m hm X p e htag := by
    rw [mem_append, mem_append] at hm
    rcases hm with (hm | hm) | hm
    · exact h.carried o m (mem_append_left _ hm) X p e htag
    · exact absurd ⟨e, htag⟩ (not_isData_of_other (h.pending_other o m hm) X p)
    · exact h.carried o m (mem_append_right _ hm) X p e htag
  between o X p e pre m post hwritten htag := by
    have hdata : IsData X p m := ⟨e, htag⟩
    obtain ⟨hst, hpre⟩ := h.bracketed o X p pre m post hwritten hdata
    refine ⟨hst, hpre, ?_⟩
    have hm : m ∈ (s.clients o).written := by rw [hwritten]; exact mem_append_right _ mem_cons_self
    rcases h.finished X p o ⟨m, hm, hdata⟩ with hrun | ⟨x, hx, hfin⟩
    · exact .inl hrun
    · refine .inr ⟨x, (h.bracketed o X p).closes_after hwritten hdata ?_ hx hfin, hfin⟩
      intro hmf
      rw [IsFinish, htag] at hmf
      cases hmf

end X11Web.Recording
