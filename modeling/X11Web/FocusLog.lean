import Mathlib.Data.List.Induction
import Mathlib.Data.List.Nodup
import Mathlib.Data.Option.Basic

namespace X11Web.FocusLog

open List

variable {O S : Type}

/-- What happens to surfaces, and what objects are told of them. -/
inductive Entry (O S : Type)
  | created (s : S)
  | destroyed (s : S)
  | enter (o : O) (s : S)
  | leave (o : O) (s : S)

def Entry.names : Entry O S → Option (O × S)
  | .enter o s | .leave o s => some (o, s)
  | _ => none

def Alive (s : S) (log : List (Entry O S)) : Prop := .created s ∈ log ∧ .destroyed s ∉ log

/-- Objects are told of surfaces only that are alive, and that they may be told of. -/
def NamesAlive (may : O → S → Prop) (log : List (Entry O S)) : Prop :=
  ∀ before e after o s, log = before ++ e :: after → e.names = some (o, s) → Alive s before ∧ may o s

section Alive

variable {may : O → S → Prop} {log es : List (Entry O S)} {e : Entry O S} {s : S}

theorem split_concat {before after : List (Entry O S)} {e' : Entry O S} (h : log ++ [e] = before ++ e' :: after) :
    (log = before ∧ e = e') ∨ ∃ after', log = before ++ e' :: after' := by
  obtain rfl | ⟨after', e'', rfl⟩ := after.eq_nil_or_concat
  · obtain ⟨rfl, hsingle⟩ := append_inj' h rfl
    exact .inl ⟨rfl, singleton_inj.mp hsingle⟩
  · rw [concat_eq_append, ← cons_append, ← append_assoc] at h
    exact .inr ⟨after', (append_inj' h rfl).1⟩

theorem alive_append (hes : ∀ e ∈ es, e.names.isSome) : Alive s (log ++ es) ↔ Alive s log := by
  have hcrt : .created s ∉ es := fun h => by simpa [Entry.names] using hes _ h
  have hdstd : .destroyed s ∉ es := fun h => by simpa [Entry.names] using hes _ h
  simp [Alive, hcrt, hdstd]

theorem namesAlive_nil : NamesAlive may [] := by
  intro before e after o s hspl
  simp at hspl

theorem namesAlive_concat :
    NamesAlive may (log ++ [e]) ↔ NamesAlive may log ∧ ∀ o s, e.names = some (o, s) → Alive s log ∧ may o s := by
  constructor
  · intro h
    refine ⟨fun before e' after o s hspl => ?_, fun o s => h log e [] o s rfl⟩
    exact h before e' (after ++ [e]) o s (by rw [hspl, append_assoc, cons_append])
  · rintro ⟨h, hlast⟩ before e' after o s hspl hnms
    obtain ⟨rfl, rfl⟩ | ⟨after', rfl⟩ := split_concat hspl
    · exact hlast o s hnms
    · exact h before e' after' o s rfl hnms

theorem namesAlive_append (hes : ∀ e ∈ es, e.names.isSome) :
    NamesAlive may (log ++ es) ↔
      NamesAlive may log ∧ ∀ e ∈ es, ∀ o s, e.names = some (o, s) → Alive s log ∧ may o s := by
  induction es generalizing log with
  | nil => simp
  | cons e es ih =>
    obtain ⟨he, hes⟩ := forall_mem_cons.mp hes
    have halive (s) : Alive s (log ++ [e]) ↔ Alive s log := alive_append (forall_mem_singleton.mpr he)
    rw [append_cons, ih hes, namesAlive_concat, forall_mem_cons, and_assoc]
    simp only [halive]

end Alive

variable [DecidableEq O] [DecidableEq S]

def note (o : O) (current : Option S) : Entry O S → Option S
  | .enter o' s => if o' = o then some s else current
  | .leave o' s => if o' = o ∧ current = some s then none else current
  | .destroyed s => if current = some s then none else current
  | .created _ => current

/-- The surface that an object has entered, where it has neither left it since nor is the
surface destroyed. -/
def entered (o : O) (log : List (Entry O S)) : Option S := log.foldl (note o) none

/-- An object enters where it has left what it entered before, or that is destroyed. -/
def Alternates (log : List (Entry O S)) : Prop :=
  ∀ before o s after, log = before ++ .enter o s :: after → entered o before = none

variable {live : S → Bool} {may : O → S → Prop} {log es : List (Entry O S)} {e : Entry O S} {o o' : O} {s : S}
  {f f' : Option S} {fs fs' : List (O × Option S)}

theorem entered_concat (o : O) (log : List (Entry O S)) (e : Entry O S) :
    entered o (log ++ [e]) = note o (entered o log) e := by
  rw [entered, foldl_append]
  rfl

theorem alternates_nil : Alternates ([] : List (Entry O S)) := by
  intro before o s after hspl
  simp at hspl

theorem alternates_concat (h : Alternates log) (he : ∀ o s, e = .enter o s → entered o log = none) :
    Alternates (log ++ [e]) := by
  intro before o s after hspl
  obtain ⟨rfl, rfl⟩ | ⟨after', rfl⟩ := split_concat hspl
  · exact he o s rfl
  · exact h before o s after' rfl

theorem entered_eq_none (h : ∀ e ∈ log, ∀ s, e.names ≠ some (o, s)) : entered o log = none := by
  induction log using List.reverseRecOn with
  | nil => rfl
  | append_singleton log e ih =>
    rw [forall_mem_append, forall_mem_singleton] at h
    rw [entered_concat, ih h.1]
    cases e with
    | created s => rfl
    | destroyed s => rfl
    | enter o' s =>
      refine if_neg fun (heq : o' = o) => h.2 s ?_
      rw [heq]
      rfl
    | leave o' s => exact if_neg nofun

theorem entered_append_of_others (hes : ∀ e ∈ es, ∃ o' s, e.names = some (o', s) ∧ o' ≠ o) :
    entered o (log ++ es) = entered o log := by
  induction es generalizing log with
  | nil => rw [append_nil]
  | cons e es ih =>
    obtain ⟨⟨o', s, hnms, hne⟩, hes⟩ := forall_mem_cons.mp hes
    rw [append_cons, ih hes, entered_concat]
    cases e with
    | created s' => cases hnms
    | destroyed s' => cases hnms
    | enter o₁ s' =>
      obtain ⟨rfl, rfl⟩ := Prod.mk.inj (Option.some.inj hnms)
      exact if_neg hne
    | leave o₁ s' =>
      obtain ⟨rfl, rfl⟩ := Prod.mk.inj (Option.some.inj hnms)
      exact if_neg fun h => hne h.1

/-- What an object may be told as its recorded focus changes: it leaves what is recorded,
or that is dead and forgotten, before it enters another. -/
inductive Moves (live : S → Bool) (may : O → S → Prop) (o : O) : Option S → List (Entry O S) → Option S → Prop
  | refl (f : Option S) : Moves live may o f [] f
  | forget {s : S} {es : List (Entry O S)} {f : Option S} :
      live s = false → Moves live may o none es f → Moves live may o (some s) es f
  | leave {s : S} {es : List (Entry O S)} {f : Option S} :
      Moves live may o none es f → Moves live may o (some s) (.leave o s :: es) f
  | enter {s : S} {es : List (Entry O S)} {f : Option S} :
      live s = true → may o s → Moves live may o (some s) es f → Moves live may o none (.enter o s :: es) f

omit [DecidableEq O] [DecidableEq S] in
theorem Moves.names (h : Moves live may o f es f') : ∀ e ∈ es, ∃ s, e.names = some (o, s) := by
  induction h with
  | refl f => exact nofun
  | forget _ _ ih => exact ih
  | leave _ ih => exact forall_mem_cons.mpr ⟨⟨_, rfl⟩, ih⟩
  | enter _ _ _ ih => exact forall_mem_cons.mpr ⟨⟨_, rfl⟩, ih⟩

omit [DecidableEq O] [DecidableEq S] in
theorem Moves.mayName (h : Moves live may o f es f') (hf : ∀ s, f = some s → may o s) :
    (∀ e ∈ es, ∀ s, e.names = some (o, s) → may o s) ∧ ∀ s, f' = some s → may o s := by
  induction h with
  | refl f => exact ⟨nofun, hf⟩
  | forget _ _ ih => exact ih nofun
  | leave _ ih =>
    obtain ⟨hes, hf'⟩ := ih nofun
    refine ⟨forall_mem_cons.mpr ⟨fun s hs => ?_, hes⟩, hf'⟩
    exact hf s (congrArg some (Prod.mk.inj (Option.some.inj hs)).2)
  | enter _ hmay _ ih =>
    obtain ⟨hes, hf'⟩ := ih fun s hs => Option.some.inj hs ▸ hmay
    refine ⟨forall_mem_cons.mpr ⟨fun s hs => ?_, hes⟩, hf'⟩
    exact (Prod.mk.inj (Option.some.inj hs)).2 ▸ hmay

omit [DecidableEq O] [DecidableEq S] in
theorem Moves.recorded {P : S → Prop} (h : Moves live may o f es f') (hlive : ∀ s, live s = true → P s)
    (hf : ∀ s, f = some s → P s) : ∀ s, f' = some s → P s := by
  induction h with
  | refl f => exact hf
  | forget _ _ ih => exact ih nofun
  | leave _ ih => exact ih nofun
  | enter hs _ _ ih => exact ih fun s hs' => Option.some.inj hs' ▸ hlive _ hs

omit [DecidableEq O] [DecidableEq S] in
theorem Moves.entersLive (h : Moves live may o f es f') :
    ∀ e ∈ es, (∃ s, e = .leave o s) ∨ ∃ s, e = .enter o s ∧ live s = true := by
  induction h with
  | refl f => exact nofun
  | forget _ _ ih => exact ih
  | leave _ ih => exact forall_mem_cons.mpr ⟨.inl ⟨_, rfl⟩, ih⟩
  | enter hs _ _ ih => exact forall_mem_cons.mpr ⟨.inr ⟨_, rfl, hs⟩, ih⟩

/-- Where the recorded focus is what the object has entered, as long as that is alive, it
stays so. -/
theorem Moves.run (h : Moves live may o f es f') (hlog : Alternates log) (hf : entered o log = f.filter live) :
    Alternates (log ++ es) ∧ entered o (log ++ es) = f'.filter live := by
  induction h generalizing log with
  | refl f =>
    rw [append_nil]
    exact ⟨hlog, hf⟩
  | forget hdead _ ih =>
    refine ih hlog ?_
    rw [hf, Option.filter_some, hdead]
    rfl
  | @leave s es f _ ih =>
    rw [append_cons]
    refine ih (alternates_concat hlog nofun) ?_
    rw [entered_concat, note, hf, Option.filter_some]
    cases live s with
    | true => exact if_pos ⟨rfl, rfl⟩
    | false => exact ite_self _
  | @enter s es f hs _ _ ih =>
    rw [append_cons]
    refine ih (alternates_concat hlog fun o' s' he => ?_) ?_
    · obtain ⟨rfl, -⟩ := Entry.enter.inj he
      exact hf
    · rw [entered_concat, note, if_pos rfl, Option.filter_some, hs]
      rfl

inductive MovesAll (live : S → Bool) (may : O → S → Prop) :
    List (O × Option S) → List (Entry O S) → List (O × Option S) → Prop
  | nil : MovesAll live may [] [] []
  | cons {o : O} {f f' : Option S} {es es' : List (Entry O S)} {fs fs' : List (O × Option S)} :
      Moves live may o f es f' → MovesAll live may fs es' fs' →
        MovesAll live may ((o, f) :: fs) (es ++ es') ((o, f') :: fs')

namespace MovesAll

omit [DecidableEq O] [DecidableEq S] in
theorem refl (fs : List (O × Option S)) : MovesAll live may fs [] fs := by
  induction fs with
  | nil => exact .nil
  | cons of fs ih => exact .cons (.refl of.2) ih

omit [DecidableEq O] [DecidableEq S] in
theorem append {gs gs' : List (O × Option S)} {es' : List (Entry O S)} (h : MovesAll live may fs es fs')
    (h' : MovesAll live may gs es' gs') : MovesAll live may (fs ++ gs) (es ++ es') (fs' ++ gs') := by
  induction h with
  | nil => exact h'
  | cons ho _ ih =>
    rw [append_assoc]
    exact .cons ho ih

omit [DecidableEq O] [DecidableEq S] in
theorem objects (h : MovesAll live may fs es fs') : fs'.map Prod.fst = fs.map Prod.fst := by
  induction h with
  | nil => rfl
  | cons _ _ ih => rw [map_cons, map_cons, ih]

omit [DecidableEq O] [DecidableEq S] in
theorem names (h : MovesAll live may fs es fs') : ∀ e ∈ es, ∃ o ∈ fs.map Prod.fst, ∃ s, e.names = some (o, s) := by
  induction h with
  | nil => exact nofun
  | cons ho _ ih =>
    refine forall_mem_append.mpr ⟨fun e he => ?_, fun e he => ?_⟩
    · exact ⟨_, mem_cons_self, ho.names e he⟩
    · obtain ⟨o, hmem, hs⟩ := ih e he
      exact ⟨o, mem_cons_of_mem _ hmem, hs⟩

omit [DecidableEq O] [DecidableEq S] in
theorem mayName (h : MovesAll live may fs es fs') (hfs : ∀ of ∈ fs, ∀ s, of.2 = some s → may of.1 s) :
    (∀ e ∈ es, ∀ o s, e.names = some (o, s) → may o s) ∧ ∀ of ∈ fs', ∀ s, of.2 = some s → may of.1 s := by
  induction h with
  | nil => exact ⟨nofun, nofun⟩
  | cons ho _ ih =>
    obtain ⟨hf, hfs⟩ := forall_mem_cons.mp hfs
    obtain ⟨hes', hfs'⟩ := ih hfs
    obtain ⟨hes, hf'⟩ := ho.mayName hf
    refine ⟨forall_mem_append.mpr ⟨fun e he o s hs => ?_, hes'⟩, forall_mem_cons.mpr ⟨hf', hfs'⟩⟩
    obtain ⟨s', hs'⟩ := ho.names e he
    obtain ⟨rfl, rfl⟩ := Prod.mk.inj (Option.some.inj (hs'.symm.trans hs))
    exact hes e he s' hs

omit [DecidableEq O] [DecidableEq S] in
theorem recorded {P : S → Prop} (h : MovesAll live may fs es fs') (hlive : ∀ s, live s = true → P s)
    (hfs : ∀ of ∈ fs, ∀ s, of.2 = some s → P s) : ∀ of ∈ fs', ∀ s, of.2 = some s → P s := by
  induction h with
  | nil => exact nofun
  | cons ho _ ih =>
    obtain ⟨hf, hfs⟩ := forall_mem_cons.mp hfs
    exact forall_mem_cons.mpr ⟨ho.recorded hlive hf, ih hfs⟩

omit [DecidableEq O] [DecidableEq S] in
theorem entersLive (h : MovesAll live may fs es fs') :
    ∀ e ∈ es, (∃ o s, e = .leave o s) ∨ ∃ o s, e = .enter o s ∧ live s = true := by
  induction h with
  | nil => exact nofun
  | cons ho _ ih =>
    refine forall_mem_append.mpr ⟨fun e he => ?_, ih⟩
    obtain hlv | henter := ho.entersLive e he
    · exact .inl ⟨_, hlv⟩
    · exact .inr ⟨_, henter⟩

omit [DecidableEq O] [DecidableEq S] in
theorem namesAlive_iff (h : MovesAll live may fs es fs') (hfs : ∀ of ∈ fs, ∀ s, of.2 = some s → may of.1 s)
    (hlive : ∀ s, live s = true ↔ Alive s log) :
    NamesAlive may (log ++ es) ↔ NamesAlive may log ∧ ∀ o s, .leave o s ∈ es → live s = true := by
  have hsome : ∀ e ∈ es, e.names.isSome := fun e he => by
    obtain ⟨o, -, s, hs⟩ := h.names e he
    rw [hs]
    rfl
  rw [namesAlive_append hsome]
  refine and_congr_right fun _ => ⟨fun hnms o s hmem => (hlive s).mpr (hnms _ hmem o s rfl).1, ?_⟩
  intro hlv e he o s hs
  refine ⟨(hlive s).mp ?_, (h.mayName hfs).1 e he o s hs⟩
  obtain ⟨o', s', rfl⟩ | ⟨o', s', rfl, hs'⟩ := h.entersLive e he
  · obtain ⟨rfl, rfl⟩ := Prod.mk.inj (Option.some.inj hs)
    exact hlv _ _ he
  · obtain ⟨rfl, rfl⟩ := Prod.mk.inj (Option.some.inj hs)
    exact hs'

theorem run (h : MovesAll live may fs es fs') (hnd : (fs.map Prod.fst).Nodup) (hlog : Alternates log)
    (hfs : ∀ of ∈ fs, entered of.1 log = of.2.filter live) :
    Alternates (log ++ es) ∧ ∀ of ∈ fs', entered of.1 (log ++ es) = of.2.filter live := by
  induction h generalizing log with
  | nil =>
    rw [append_nil]
    exact ⟨hlog, hfs⟩
  | @cons o f f' es es' fs fs' ho hrest ih =>
    obtain ⟨hnotmem, hnd⟩ := nodup_cons.mp hnd
    obtain ⟨hf, hfs⟩ := forall_mem_cons.mp hfs
    obtain ⟨hlog', hf'⟩ := ho.run hlog hf
    have hoths : ∀ of ∈ fs, entered of.1 (log ++ es) = of.2.filter live := by
      intro of hof
      rw [entered_append_of_others fun e he => ?_, hfs of hof]
      obtain ⟨s, hs⟩ := ho.names e he
      refine ⟨o, s, hs, fun heq => hnotmem ?_⟩
      rw [heq]
      exact mem_map_of_mem (f := Prod.fst) (a := of) hof
    obtain ⟨hlog'', hfs'⟩ := ih hnd hlog' hoths
    rw [← append_assoc]
    refine ⟨hlog'', forall_mem_cons.mpr ⟨?_, hfs'⟩⟩
    rw [entered_append_of_others fun e he => ?_, hf']
    obtain ⟨o', hmem, s, hs⟩ := hrest.names e he
    exact ⟨o', s, hs, fun heq => hnotmem (heq ▸ hmem)⟩

end MovesAll

end X11Web.FocusLog
