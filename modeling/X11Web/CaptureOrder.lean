import X11Web.StreamingReconcile
import X11Web.Alternation

namespace X11Web.CaptureOrder

open HashMaps Windows ClientRenderer Workspaces Runs List Finmap
open StreamingReconcile Alternation

def Holds (w : WindowId) (t : Sending) : Prop := ∃ c ∈ t.messages, c.window = w

/-- The call does not overtake another one: it applies counts no older than those
applied before, looks up owners of windows that have been created, and looks up
and sends for a window after the calls that decided on that window earlier. -/
def Orderly (s : Streaming) : Action → Prop
  | .apply t _ _ => s.applied ≤ t.version
  | .lookUp earlier t => ∀ c ∈ t.messages, c.window ∈ s.created ∧
      ∀ t' ∈ earlier, t'.owners = none → ¬ Holds c.window t'
  | .send earlier t => ∀ c, t.messages.head? = some c → ∀ t' ∈ earlier, ¬ Holds c.window t'
  | _ => True

/-- Counts of the present version say which windows are attached, and until they
are applied a call that will apply such counts is under way. -/
structure UpToDate (s : Streaming) : Prop where
  applied_le : s.applied ≤ s.version
  counted_le : ∀ t ∈ s.counted, t.version ≤ s.version
  counted : ∀ t ∈ s.counted, t.version = s.version →
    ∀ w, 0 < t.counts w ↔ attached s.workspaceDocs w = true
  applied : s.applied = s.version → ∀ w, 0 < s.streamingRefcount w ↔ attached s.workspaceDocs w = true
  due : s.applied = s.version ∨ s.called ≠ [] ∨ ∃ t ∈ s.counted, t.version = s.version

/-- The task `t'` knows no more owners than `t`, where both have messages. -/
def LooksUpAfter (t t' : Sending) : Prop :=
  ∀ w, Holds w t → Holds w t' → ∀ m', t'.owners = some m' →
    ∃ m, t.owners = some m ∧ (m.lookup w = none → m'.lookup w = none)

structure Owners (s : Streaming) : Prop where
  owner : ∀ w sidecar, s.windowOwner.lookup w = some sidecar → s.created.lookup w = some sidecar
  seen : ∀ w sidecar, s.created.lookup w = some sidecar → s.sidecars sidecar ≠ .unseen
  looked : ∀ t ∈ s.sending, ∀ m, t.owners = some m →
    ∀ w sidecar, m.lookup w = some sidecar → s.created.lookup w = some sidecar
  missing : ∀ t ∈ s.sending, ∀ m, t.owners = some m → ∀ w, Holds w t → m.lookup w = none →
    w ∈ s.created ∧ s.windowOwner.lookup w = none
  ordered : s.sending.Pairwise LooksUpAfter

/-- No message for the window is sent any more: it has been destroyed, or its
sidecar has left. -/
def Lost (s : Streaming) (w : WindowId) : Prop :=
  (w ∈ s.created ∧ s.windowOwner.lookup w = none ∧
    ∀ t ∈ s.sending, Holds w t → ∀ m, t.owners = some m → m.lookup w = none) ∨
  ∃ sidecar, s.created.lookup w = some sidecar ∧ s.sidecars sidecar = .gone

def held (s : Streaming) (w : WindowId) : List Bool := kinds w (s.sending.flatMap Sending.messages)

/-- The messages of a window, sent and held, take turns and end as the cached
count says. -/
structure InTurn (s : Streaming) (w : WindowId) : Prop where
  alternates : Alternates true (kinds w s.sent ++ held s w)
  started : next true (kinds w s.sent ++ held s w) = false ↔ 0 < s.streamingRefcount w

def Captures (s : Streaming) : Prop :=
  ∀ w, Alternates true (kinds w s.sent) ∧ (Lost s w ∨ InTurn s w)

section Step

variable {s s' : Streaming} {a : Action} {w : WindowId} {docs : WorkspaceDocs} {caller : Option WindowId}

theorem UpToDate.changeDocs (h : UpToDate s) (docs : WorkspaceDocs) (caller : Option WindowId) :
    UpToDate (changeDocs docs caller s) := by
  have happlied : s.applied < s.version + 1 := Nat.lt_succ_of_le h.applied_le
  refine ⟨happlied.le, fun t ht => (h.counted_le t ht).trans (Nat.le_succ _), fun t ht heq => ?_,
    fun heq => ?_, .inr (.inl ?_)⟩
  · exact absurd heq (Nat.lt_succ_of_le (h.counted_le t ht)).ne
  · exact absurd heq happlied.ne
  · simp [StreamingReconcile.changeDocs]

theorem UpToDate.step (h : UpToDate s) (hgrd : Orderly s a) (hstep : reconcileStep s a s') :
    UpToDate s' := by
  cases hstep with
  | connect sidecar hnew => exact ⟨h.applied_le, h.counted_le, h.counted, h.applied, h.due⟩
  | disconnect sidecar hthere => exact ⟨h.applied_le, h.counted_le, h.counted, h.applied, h.due⟩
  | openWorkspace ws hnew =>
    refine ⟨h.applied_le, h.counted_le, fun t ht heq w => ?_, fun heq w => ?_, h.due⟩
    · exact (h.counted t ht heq w).trans (by rw [attached_openWorkspace hnew])
    · exact (h.applied heq w).trans (by rw [attached_openWorkspace hnew])
  | sync ws changes hws => exact h.changeDocs _ _
  | attach ws sidecar w doc hdoc hchgd => exact h.changeDocs _ _
  | create w sidecar hnew hconn =>
    exact ⟨h.applied_le, h.counted_le, h.counted, h.applied, h.due⟩
  | destroy w hlive => exact h.changeDocs _ _
  | count caller before after hcalled =>
    refine ⟨h.applied_le, fun t ht => ?_, fun t ht heq w => ?_, h.applied, .inr (.inr ?_)⟩
    · rcases mem_append.mp ht with ht | ht
      · exact h.counted_le t ht
      · obtain rfl := mem_singleton.mp ht
        exact le_rfl
    · rcases mem_append.mp ht with ht | ht
      · exact h.counted t ht heq w
      · obtain rfl := mem_singleton.mp ht
        exact newCounts_pos
    · exact ⟨readCounts caller s, by simp, rfl⟩
  | apply t starts stops before after hctd hsts hstops =>
    have ht : t ∈ s.counted := by simp [hctd]
    have hrest : ∀ t' ∈ before ++ after, t' ∈ s.counted := by
      intro t' ht'
      rw [hctd]
      rcases mem_append.mp ht' with ht' | ht' <;> simp [ht']
    refine ⟨h.counted_le t ht, fun t' ht' => h.counted_le t' (hrest t' ht'),
      fun t' ht' => h.counted t' (hrest t' ht'), h.counted t ht, ?_⟩
    -- counts that are not the newest leave another call to come
    by_cases hnewest : t.version = s.version
    · exact .inl hnewest
    · right
      have hle := h.counted_le t ht
      rcases h.due with happlied | hcalled | ⟨t', ht', heq⟩
      · have hgrd : s.applied ≤ t.version := hgrd
        omega
      · exact .inl hcalled
      · refine .inr ⟨t', ?_, heq⟩
        rw [hctd] at ht'
        have hne : t' ≠ t := by
          rintro rfl
          exact hnewest heq
        simpa [hne] using ht'
  | lookUp t earlier later hsndg hfst =>
    exact ⟨h.applied_le, h.counted_le, h.counted, h.applied, h.due⟩
  | send t earlier later owners c rest hsndg howners hmsgs =>
    exact ⟨h.applied_le, h.counted_le, h.counted, h.applied, h.due⟩
  | finish t earlier later hsndg howners hdone =>
    exact ⟨h.applied_le, h.counted_le, h.counted, h.applied, h.due⟩

theorem Holds.of_tail {t : Sending} {c : Capture} {rest : List Capture} (hmsgs : t.messages = c :: rest)
    (h : Holds w { t with messages := rest }) : Holds w t := by
  obtain ⟨c', hc', hw⟩ := h
  exact ⟨c', by rw [hmsgs]; exact mem_cons_of_mem c hc', hw⟩

theorem lookup_owner_create {sidecar : SidecarId} {w' : WindowId} (hnew : w ∉ s.created)
    (hw' : w' ∈ s.created) : (s.windowOwner.insert w sidecar).lookup w' = s.windowOwner.lookup w' := by
  refine lookup_insert_of_ne _ ?_
  rintro rfl
  exact hnew hw'

theorem lookup_created_create {sidecar sidecar' : SidecarId} {w' : WindowId} (hnew : w ∉ s.created)
    (hw' : s.created.lookup w' = some sidecar') :
    (s.created.insert w sidecar).lookup w' = some sidecar' := by
  rw [lookup_insert_of_ne, hw']
  rintro rfl
  exact hnew (mem_iff.mpr ⟨sidecar', hw'⟩)

theorem lookup_owner_finish {destroyed : Option WindowId} {w : WindowId}
    (h : s.windowOwner.lookup w = none) :
    (destroyed.elim s.windowOwner (fun w => s.windowOwner.erase w)).lookup w = none := by
  cases destroyed with
  | none => exact h
  | some w' =>
    simp only [Option.elim_some, lookup_erase_eq, h, ite_self]

theorem Owners.create (h : Owners s) {sidecar : SidecarId} (hnew : w ∉ s.created)
    (hconn : s.sidecars sidecar = .connected) :
    Owners { s with
      windowOwner := s.windowOwner.insert w sidecar
      created := s.created.insert w sidecar } := by
  refine ⟨fun w' sidecar' hown => ?_, fun w' sidecar' hcrt => ?_, fun t ht m hm w' sidecar' hlook => ?_,
    fun t ht m hm w' hw' hlook => ?_, h.ordered⟩
  · rw [lookup_insert_eq] at hown ⊢
    split at hown
    · next heq => rw [if_pos heq, hown]
    · next hne => rw [if_neg hne, h.owner w' sidecar' hown]
  · rw [lookup_insert_eq] at hcrt
    split at hcrt
    · cases hcrt
      simp [hconn]
    · exact h.seen w' sidecar' hcrt
  · exact lookup_created_create hnew (h.looked t ht m hm w' sidecar' hlook)
  · obtain ⟨hcrt, hown⟩ := h.missing t ht m hm w' hw' hlook
    exact ⟨mem_insert.mpr (.inr hcrt), (lookup_owner_create hnew hcrt).trans hown⟩

theorem Owners.apply (h : Owners s) (destroyed : Option WindowId) (messages : List Capture)
    (counted : List Counted) (counts : WindowId → Nat) (applied : Nat) :
    Owners { s with
      counted := counted
      streamingRefcount := counts
      applied := applied
      sending := s.sending ++ [⟨destroyed, none, messages⟩] } := by
  refine ⟨h.owner, h.seen, fun t ht m hm => ?_, fun t ht m hm => ?_, ?_⟩
  · rcases mem_append.mp ht with ht | ht
    · exact h.looked t ht m hm
    · obtain rfl := mem_singleton.mp ht
      cases hm
  · rcases mem_append.mp ht with ht | ht
    · exact h.missing t ht m hm
    · obtain rfl := mem_singleton.mp ht
      cases hm
  · refine pairwise_append.mpr ⟨h.ordered, pairwise_singleton _ _, fun t _ t' ht' => ?_⟩
    obtain rfl := mem_singleton.mp ht'
    exact fun _ _ _ m' hm' => by cases hm'

theorem Owners.lookUp (h : Owners s) {t : Sending} {earlier later : List Sending}
    (hsndg : s.sending = earlier ++ t :: later) (hfst : t.owners = none)
    (hgrd : Orderly s (.lookUp earlier t)) :
    Owners { s with sending := earlier ++ { t with owners := some s.windowOwner } :: later } := by
  have hold : ∀ t', t' ∈ earlier ∨ t' ∈ later → t' ∈ s.sending := by
    intro t' ht'
    rw [hsndg]
    rcases ht' with ht' | ht' <;> simp [ht']
  have hordd := h.ordered
  rw [hsndg] at hordd
  obtain ⟨hearlier, hrest, hacross⟩ := pairwise_append.mp hordd
  obtain ⟨ht, hlater⟩ := pairwise_cons.mp hrest
  refine ⟨h.owner, h.seen, fun t' ht' m hm => ?_, fun t' ht' m hm w hw hlook => ?_, ?_⟩
  · rcases mem_append.mp ht' with ht' | ht'
    · exact h.looked t' (hold t' (.inl ht')) m hm
    · rcases mem_cons.mp ht' with rfl | ht'
      · cases hm
        exact h.owner
      · exact h.looked t' (hold t' (.inr ht')) m hm
  · rcases mem_append.mp ht' with ht' | ht'
    · exact h.missing t' (hold t' (.inl ht')) m hm w hw hlook
    · rcases mem_cons.mp ht' with rfl | ht'
      · cases hm
        obtain ⟨c, hc, rfl⟩ := hw
        exact ⟨(hgrd c hc).1, hlook⟩
      · exact h.missing t' (hold t' (.inr ht')) m hm w hw hlook
  · refine pairwise_append.mpr ⟨hearlier, pairwise_cons.mpr ⟨fun t' ht' => ?_, hlater⟩, ?_⟩
    · -- a later call that has looked up would have overtaken this one
      intro w hw hw' m' hm'
      obtain ⟨m, hm, -⟩ := ht t' ht' w hw hw' m' hm'
      rw [hfst] at hm
      cases hm
    · intro t₀ ht₀ t' ht'
      rcases mem_cons.mp ht' with rfl | ht'
      · rintro w hw₀ ⟨c, hc, rfl⟩ m' hm'
        cases hm'
        cases hm₀ : t₀.owners with
        | none => exact absurd hw₀ ((hgrd c hc).2 t₀ ht₀ hm₀)
        | some m₀ =>
          exact ⟨m₀, rfl, fun hnone => (h.missing t₀ (hold t₀ (.inl ht₀)) m₀ hm₀ c.window hw₀ hnone).2⟩
      · exact hacross t₀ ht₀ t' (mem_cons_of_mem t ht')

theorem Owners.send (h : Owners s) {t : Sending} {earlier later : List Sending} {c : Capture}
    {rest : List Capture} (hsndg : s.sending = earlier ++ t :: later)
    (hmsgs : t.messages = c :: rest) (sent : List Capture) :
    Owners { s with sending := earlier ++ { t with messages := rest } :: later, sent := sent } := by
  have hold : ∀ t' ∈ earlier ++ { t with messages := rest } :: later, ∃ t₀ ∈ s.sending,
      t₀.owners = t'.owners ∧ ∀ w, Holds w t' → Holds w t₀ := by
    intro t' ht'
    rw [hsndg]
    rcases mem_append.mp ht' with ht' | ht'
    · exact ⟨t', by simp [ht'], rfl, fun _ => id⟩
    · rcases mem_cons.mp ht' with rfl | ht'
      · exact ⟨t, by simp, rfl, fun _ => Holds.of_tail hmsgs⟩
      · exact ⟨t', by simp [ht'], rfl, fun _ => id⟩
  have hordd := h.ordered
  rw [hsndg] at hordd
  obtain ⟨hearlier, hrest, hacross⟩ := pairwise_append.mp hordd
  obtain ⟨ht, hlater⟩ := pairwise_cons.mp hrest
  refine ⟨h.owner, h.seen, fun t' ht' m hm => ?_, fun t' ht' m hm w hw => ?_, ?_⟩
  · obtain ⟨t₀, ht₀, howners, -⟩ := hold t' ht'
    exact h.looked t₀ ht₀ m (howners.trans hm)
  · obtain ⟨t₀, ht₀, howners, hholds⟩ := hold t' ht'
    exact h.missing t₀ ht₀ m (howners.trans hm) w (hholds w hw)
  · refine pairwise_append.mpr ⟨hearlier, pairwise_cons.mpr ⟨fun t' ht' => ?_, hlater⟩, ?_⟩
    · exact fun w hw => ht t' ht' w (hw.of_tail hmsgs)
    · intro t₀ ht₀ t' ht'
      rcases mem_cons.mp ht' with rfl | ht'
      · exact fun w hw₀ hw => hacross t₀ ht₀ t mem_cons_self w hw₀ (hw.of_tail hmsgs)
      · exact hacross t₀ ht₀ t' (mem_cons_of_mem t ht')

theorem Owners.finish (h : Owners s) {t : Sending} {earlier later : List Sending}
    (hsndg : s.sending = earlier ++ t :: later) :
    Owners { s with
      sending := earlier ++ later
      windowOwner := t.destroyed.elim s.windowOwner (fun w => s.windowOwner.erase w) } := by
  have hsub : (earlier ++ later).Sublist s.sending := by
    rw [hsndg]
    exact (sublist_cons_self t later).append_left earlier
  refine ⟨fun w sidecar hown => h.owner w sidecar ?_, h.seen, fun t' ht' => h.looked t' (hsub.mem ht'),
    fun t' ht' m hm w hw hlook => ?_, h.ordered.sublist hsub⟩
  · cases hd : t.destroyed with
    | none => simpa [hd] using hown
    | some w' =>
      simp only [hd, Option.elim_some, lookup_erase_eq] at hown
      split at hown
      · cases hown
      · exact hown
  · obtain ⟨hcrt, hown⟩ := h.missing t' (hsub.mem ht') m hm w hw hlook
    exact ⟨hcrt, lookup_owner_finish hown⟩

theorem Owners.step (h : Owners s) (hgrd : Orderly s a) (hstep : reconcileStep s a s') : Owners s' := by
  cases hstep with
  | connect sidecar hnew =>
    refine { h with seen := fun w sidecar' hcrt => ?_ }
    by_cases hsame : sidecar' = sidecar
    · simp [hsame]
    · simpa [hsame] using h.seen w sidecar' hcrt
  | disconnect sidecar hthere =>
    refine { h with seen := fun w sidecar' hcrt => ?_ }
    by_cases hsame : sidecar' = sidecar
    · simp [hsame]
    · simpa [hsame] using h.seen w sidecar' hcrt
  | openWorkspace ws hnew => exact { h with }
  | sync ws changes hws => exact { h with }
  | attach ws sidecar w doc hdoc hchgd => exact { h with }
  | create w sidecar hnew hconn => exact h.create hnew hconn
  | destroy w hlive => exact { h with }
  | count caller before after hcalled => exact { h with }
  | apply t starts stops before after hctd hsts hstops => exact h.apply _ _ _ _ _
  | lookUp t earlier later hsndg hfst => exact h.lookUp hsndg hfst hgrd
  | send t earlier later owners c rest hsndg howners hmsgs => exact h.send hsndg hmsgs _
  | finish t earlier later hsndg howners hdone => exact h.finish hsndg

theorem Lost.mono (h : Lost s w)
    (hcrt : ∀ sidecar, s.created.lookup w = some sidecar → s'.created.lookup w = some sidecar)
    (hown : w ∈ s.created → s.windowOwner.lookup w = none → s'.windowOwner.lookup w = none)
    (hgone : ∀ sidecar, s.sidecars sidecar = .gone → s'.sidecars sidecar = .gone)
    (hsndg : ∀ t ∈ s'.sending, Holds w t → ∀ m, t.owners = some m →
      (∃ t₀ ∈ s.sending, Holds w t₀ ∧ t₀.owners = some m) ∨ m = s.windowOwner) : Lost s' w := by
  rcases h with ⟨hmem, hnone, hlooked⟩ | ⟨sidecar, hlook, hph⟩
  · left
    obtain ⟨sidecar, hlook⟩ := mem_iff.mp hmem
    refine ⟨mem_iff.mpr ⟨sidecar, hcrt sidecar hlook⟩, hown hmem hnone, fun t ht hw m hm => ?_⟩
    rcases hsndg t ht hw m hm with ⟨t₀, ht₀, hw₀, hm₀⟩ | rfl
    · exact hlooked t₀ ht₀ hw₀ m hm₀
    · exact hnone
  · exact .inr ⟨sidecar, hcrt sidecar hlook, hgone sidecar hph⟩

theorem Captures.of_same (h : Captures s) (hsent : s'.sent = s.sent) (hheld : ∀ w, held s' w = held s w)
    (hcts : s'.streamingRefcount = s.streamingRefcount) (hlost : ∀ w, Lost s w → Lost s' w) :
    Captures s' := by
  intro w
  obtain ⟨halt, hlost' | hturn⟩ := h w
  · exact ⟨hsent ▸ halt, .inl (hlost w hlost')⟩
  · refine ⟨hsent ▸ halt, .inr ⟨?_, ?_⟩⟩
    · rw [hsent, hheld]
      exact hturn.alternates
    · rw [hsent, hheld, hcts]
      exact hturn.started

theorem kinds_map (f : WindowId → Capture) (hwin : ∀ w, (f w).window = w) {b : Bool}
    (hkind : ∀ w, (f w).isStart = b) {ws : List WindowId} (hnd : ws.Nodup) (w : WindowId) :
    kinds w (ws.map f) = if w ∈ ws then [b] else [] := by
  have hfilter : (ws.map f).filter (fun c => c.window == w) = (ws.filter (· == w)).map f := by
    simp [filter_map, Function.comp_def, hwin]
  rw [kinds, hfilter, filter_beq, hnd.count]
  by_cases hw : w ∈ ws <;> simp [hw, hkind]

theorem kinds_decided {starts stops : List WindowId} {old new : WindowId → Nat}
    (hsts : IsStarts starts old new) (hstops : IsStops stops old new) (w : WindowId) :
    kinds w (starts.map .start ++ stops.map .stop) =
      if old w = 0 ∧ 0 < new w then [true] else if 0 < old w ∧ new w = 0 then [false] else [] := by
  rw [kinds_append, kinds_map .start (fun _ => rfl) (fun _ => rfl) hsts.1,
    kinds_map .stop (fun _ => rfl) (fun _ => rfl) hstops.1]
  simp only [hsts.2, hstops.2]
  by_cases hst : old w = 0 ∧ 0 < new w
  · simp [hst]
  · simp [hst]

theorem Captures.apply (h : Captures s) {starts stops : List WindowId} {counts : WindowId → Nat}
    (hsts : IsStarts starts s.streamingRefcount counts)
    (hstops : IsStops stops s.streamingRefcount counts) (destroyed : Option WindowId)
    (counted : List Counted) (applied : Nat) :
    Captures { s with
      counted := counted
      streamingRefcount := counts
      applied := applied
      sending := s.sending ++ [⟨destroyed, none, starts.map .start ++ stops.map .stop⟩] } := by
  intro w
  obtain ⟨halt, hlost | hturn⟩ := h w
  · refine ⟨halt, .inl (hlost.mono (fun _ => id) (fun _ => id) (fun _ => id) fun t ht hw m hm => ?_)⟩
    rcases mem_append.mp ht with ht | ht
    · exact .inl ⟨t, ht, hw, hm⟩
    · obtain rfl := mem_singleton.mp ht
      cases hm
  · refine ⟨halt, .inr ?_⟩
    have hheld : held { s with
        counted := counted
        streamingRefcount := counts
        applied := applied
        sending := s.sending ++ [⟨destroyed, none, starts.map .start ++ stops.map .stop⟩] } w =
        held s w ++ kinds w (starts.map .start ++ stops.map .stop) := by
      simp [held, kinds_append]
    have hstarted := hturn.started
    constructor
    · rw [hheld, kinds_decided hsts hstops, ← append_assoc]
      split
      · next hst =>
        refine alternates_concat.mpr ⟨hturn.alternates, ?_⟩
        cases hnext : next true (kinds w s.sent ++ held s w) with
        | true => rfl
        | false => exact absurd (hstarted.mp hnext) (by omega)
      · split
        · next hstop => exact alternates_concat.mpr ⟨hturn.alternates, (hstarted.mpr hstop.1).symm⟩
        · simpa using hturn.alternates
    · rw [hheld, kinds_decided hsts hstops, ← append_assoc]
      split
      · next hst =>
        rw [next_concat]
        simp [hst.2]
      · split
        · next hstop =>
          rw [next_concat]
          simp [hstop.2]
        · rw [append_nil, hstarted]
          dsimp only
          omega

theorem kinds_of_not_holds {ts : List Sending} (h : ∀ t ∈ ts, ¬ Holds w t) :
    kinds w (ts.flatMap Sending.messages) = [] := by
  rw [kinds, map_eq_nil_iff, filter_eq_nil_iff]
  intro c hc hw
  obtain ⟨t, ht, hct⟩ := mem_flatMap.mp hc
  exact h t ht ⟨c, hct, by simpa using hw⟩

theorem Owners.lost (h : Owners s) {t : Sending} {earlier later : List Sending}
    {owners : HashMap WindowId SidecarId} {c : Capture} {rest : List Capture}
    (hsndg : s.sending = earlier ++ t :: later) (howners : t.owners = some owners)
    (hmsgs : t.messages = c :: rest) (hgrd : ∀ t' ∈ earlier, ¬ Holds c.window t')
    (hdropped : recipient owners c s = none) : Lost s c.window := by
  have ht : t ∈ s.sending := by simp [hsndg]
  have hholds : Holds c.window t := ⟨c, by simp [hmsgs], rfl⟩
  cases hown : owners.lookup c.window with
  | none =>
    obtain ⟨hcrt, hnone⟩ := h.missing t ht owners howners c.window hholds hown
    refine .inl ⟨hcrt, hnone, fun t' ht' hw m hm => ?_⟩
    rw [hsndg] at ht'
    rcases mem_append.mp ht' with ht' | ht'
    · exact absurd hw (hgrd t' ht')
    · rcases mem_cons.mp ht' with rfl | ht'
      · rw [howners] at hm
        cases hm
        exact hown
      · have hordd := h.ordered
        rw [hsndg] at hordd
        have haft := (pairwise_cons.mp (pairwise_append.mp hordd).2.1).1 t' ht'
        obtain ⟨m₀, hm₀, hless⟩ := haft c.window hholds hw m hm
        rw [howners] at hm₀
        cases hm₀
        exact hless hown
  | some sidecar =>
    have hcrt := h.looked t ht owners howners c.window sidecar hown
    refine .inr ⟨sidecar, hcrt, ?_⟩
    have hseen := h.seen c.window sidecar hcrt
    have hnot : s.sidecars sidecar ≠ .connected := by
      simpa [recipient, hown, Option.filter] using hdropped
    cases hph : s.sidecars sidecar with
    | unseen => exact absurd hph hseen
    | connected => exact absurd hph hnot
    | gone => rfl

theorem Owners.not_lost (h : Owners s) {t : Sending} {owners : HashMap WindowId SidecarId} {c : Capture}
    (ht : t ∈ s.sending) (howners : t.owners = some owners) (hc : c ∈ t.messages)
    (hsome : (recipient owners c s).isSome = true) : ¬ Lost s c.window := by
  obtain ⟨sidecar, hrecipient⟩ := Option.isSome_iff_exists.mp hsome
  obtain ⟨hown, hconn⟩ := Option.filter_eq_some_iff.mp hrecipient
  rintro (⟨-, -, hlooked⟩ | ⟨sidecar', hcrt, hgone⟩)
  · rw [hlooked t ht ⟨c, hc, rfl⟩ owners howners] at hown
    cases hown
  · rw [h.looked t ht owners howners c.window sidecar hown] at hcrt
    cases hcrt
    rw [hgone] at hconn
    simp at hconn

def afterSend (earlier : List Sending) (t : Sending) (later : List Sending)
    (owners : HashMap WindowId SidecarId) (c : Capture) (rest : List Capture) (s : Streaming) : Streaming :=
  { s with
    sending := earlier ++ { t with messages := rest } :: later
    sent := s.sent ++ sendToSidecar owners c s }

section AfterSend

variable {t : Sending} {earlier later : List Sending} {owners : HashMap WindowId SidecarId} {c : Capture}
  {rest : List Capture}

theorem Lost.afterSend (h : Lost s w) (hsndg : s.sending = earlier ++ t :: later)
    (hmsgs : t.messages = c :: rest) : Lost (afterSend earlier t later owners c rest s) w := by
  refine h.mono (fun _ => id) (fun _ => id) (fun _ => id) fun t' ht' hw m hm => .inl ?_
  rcases mem_append.mp ht' with ht' | ht'
  · exact ⟨t', by simp [hsndg, ht'], hw, hm⟩
  · rcases mem_cons.mp ht' with rfl | ht'
    · exact ⟨t, by simp [hsndg], hw.of_tail hmsgs, hm⟩
    · exact ⟨t', by simp [hsndg, ht'], hw, hm⟩

theorem held_of_first (hsndg : s.sending = earlier ++ t :: later) (hmsgs : t.messages = c :: rest)
    (hfst : ∀ t' ∈ earlier, ¬ Holds c.window t') :
    held s c.window = c.isStart :: kinds c.window (rest ++ later.flatMap Sending.messages) := by
  rw [held, hsndg, flatMap_append, kinds_append, kinds_of_not_holds hfst, flatMap_cons,
    hmsgs]
  simp [kinds]

theorem held_afterSend (hfst : ∀ t' ∈ earlier, ¬ Holds c.window t') :
    held (afterSend earlier t later owners c rest s) c.window =
      kinds c.window (rest ++ later.flatMap Sending.messages) := by
  rw [held, afterSend, flatMap_append, kinds_append, kinds_of_not_holds hfst, flatMap_cons,
    nil_append]

theorem held_afterSend_of_ne (hsndg : s.sending = earlier ++ t :: later)
    (hmsgs : t.messages = c :: rest) (hw : c.window ≠ w) :
    held (afterSend earlier t later owners c rest s) w = held s w := by
  simp [held, afterSend, hsndg, hmsgs, kinds, hw]

theorem Captures.send (h : Captures s) (howns : Owners s) (hsndg : s.sending = earlier ++ t :: later)
    (howners : t.owners = some owners) (hmsgs : t.messages = c :: rest)
    (hgrd : Orderly s (.send earlier t)) : Captures (afterSend earlier t later owners c rest s) := by
  intro w
  have ht : t ∈ s.sending := by simp [hsndg]
  have hfst : ∀ t' ∈ earlier, ¬ Holds c.window t' := hgrd c (by simp [hmsgs])
  obtain ⟨halt, hbef⟩ := h w
  by_cases hw : c.window = w
  · subst w
    cases hrecipient : recipient owners c s with
    | none =>
      have hsent : sendToSidecar owners c s = [] := by simp [sendToSidecar, hrecipient]
      have hlost := howns.lost hsndg howners hmsgs hfst hrecipient
      refine ⟨?_, .inl (hlost.afterSend hsndg hmsgs)⟩
      simpa [afterSend, hsent] using halt
    | some sidecar =>
      have hsent : sendToSidecar owners c s = [c] := by simp [sendToSidecar, hrecipient]
      have hturn := hbef.resolve_left
        (howns.not_lost ht howners (by simp [hmsgs]) (by simp [hrecipient]))
      have hmvd : kinds c.window (afterSend earlier t later owners c rest s).sent ++
          kinds c.window (rest ++ later.flatMap Sending.messages) =
          kinds c.window s.sent ++ held s c.window := by
        rw [afterSend, hsent, kinds_append, held_of_first hsndg hmsgs hfst, append_assoc]
        simp [kinds]
      have hturn' : InTurn (afterSend earlier t later owners c rest s) c.window := by
        constructor
        · rw [held_afterSend hfst, hmvd]
          exact hturn.alternates
        · rw [held_afterSend hfst, hmvd]
          exact hturn.started
      exact ⟨hturn'.alternates.of_append, .inr hturn'⟩
  · -- the message is about another window
    have hsent : kinds w (afterSend earlier t later owners c rest s).sent = kinds w s.sent := by
      rw [afterSend, kinds_append, sendToSidecar]
      split <;> simp [kinds, hw]
    have hheld : held (afterSend earlier t later owners c rest s) w = held s w :=
      held_afterSend_of_ne hsndg hmsgs hw
    refine ⟨hsent ▸ halt, hbef.imp (·.afterSend hsndg hmsgs) fun hturn => ⟨?_, ?_⟩⟩
    · rw [hsent, hheld]
      exact hturn.alternates
    · rw [hsent, hheld]
      exact hturn.started

end AfterSend

theorem Captures.step (h : Captures s) (howns : Owners s) (hgrd : Orderly s a)
    (hstep : reconcileStep s a s') : Captures s' := by
  cases hstep with
  | connect sidecar hnew =>
    refine h.of_same rfl (fun _ => rfl) rfl (fun w hlost => hlost.mono (fun _ => id) (fun _ => id)
      (fun sidecar' hgone => ?_) (fun t ht hw m hm => .inl ⟨t, ht, hw, hm⟩))
    have hne : sidecar' ≠ sidecar := by
      rintro rfl
      rw [hgone] at hnew
      cases hnew
    simpa [hne] using hgone
  | disconnect sidecar hthere =>
    refine h.of_same rfl (fun _ => rfl) rfl (fun w hlost => hlost.mono (fun _ => id) (fun _ => id)
      (fun sidecar' hgone => ?_) (fun t ht hw m hm => .inl ⟨t, ht, hw, hm⟩))
    by_cases hsame : sidecar' = sidecar
    · simp [hsame]
    · simpa [hsame] using hgone
  | openWorkspace ws hnew => exact h.of_same rfl (fun _ => rfl) rfl (fun _ => id)
  | sync ws changes hws => exact h.of_same rfl (fun _ => rfl) rfl (fun _ => id)
  | attach ws sidecar w doc hdoc hchgd => exact h.of_same rfl (fun _ => rfl) rfl (fun _ => id)
  | create w sidecar hnew hconn =>
    exact h.of_same rfl (fun _ => rfl) rfl (fun w' hlost => hlost.mono
      (fun sidecar' => lookup_created_create hnew)
      (fun hmem hnone => (lookup_owner_create hnew hmem).trans hnone) (fun _ => id)
      (fun t ht hw m hm => .inl ⟨t, ht, hw, hm⟩))
  | destroy w hlive => exact h.of_same rfl (fun _ => rfl) rfl (fun _ => id)
  | count caller before after hcalled => exact h.of_same rfl (fun _ => rfl) rfl (fun _ => id)
  | apply t starts stops before after hctd hsts hstops => exact h.apply hsts hstops _ _ _
  | lookUp t earlier later hsndg hfst =>
    refine h.of_same rfl (fun w => ?_) rfl (fun w hlost => hlost.mono (fun _ => id) (fun _ => id)
      (fun _ => id) (fun t' ht' hw m hm => ?_))
    · simp [held, hsndg]
    · rcases mem_append.mp ht' with ht' | ht'
      · exact .inl ⟨t', by simp [hsndg, ht'], hw, hm⟩
      · rcases mem_cons.mp ht' with rfl | ht'
        · cases hm
          exact .inr rfl
        · exact .inl ⟨t', by simp [hsndg, ht'], hw, hm⟩
  | send t earlier later owners c rest hsndg howners hmsgs =>
    exact h.send howns hsndg howners hmsgs hgrd
  | finish t earlier later hsndg howners hdone =>
    refine h.of_same rfl (fun w => ?_) rfl (fun w hlost => hlost.mono (fun _ => id)
      (fun _ => lookup_owner_finish) (fun _ => id) (fun t' ht' hw m hm => .inl ⟨t', ?_, hw, hm⟩))
    · simp [held, hsndg, hdone]
    · rw [hsndg]
      rcases mem_append.mp ht' with ht' | ht' <;> simp [ht']

end Step

theorem new_upToDate : UpToDate Streaming.new where
  applied_le := le_rfl
  counted_le := by simp [Streaming.new]
  counted := by simp [Streaming.new]
  applied := by
    intro _ w
    rw [← newCounts_pos]
    exact Iff.rfl
  due := .inl rfl

theorem new_owners : Owners Streaming.new where
  owner := by simp [Streaming.new]
  seen := by simp [Streaming.new]
  looked := by simp [Streaming.new]
  missing := by simp [Streaming.new]
  ordered := List.Pairwise.nil

theorem new_captures : Captures Streaming.new := by
  intro w
  exact ⟨trivial, .inr ⟨trivial, by simp [Streaming.new, held, kinds, Alternation.next]⟩⟩

/-- In every run in which no call overtakes another: the capture messages of each
window take turns, and when all calls have returned the last one says whether a
workspace shows the window. -/
theorem run_captures {as : List Action} {s : Streaming}
    (hrun : Run (guarded Orderly reconcileStep) Streaming.new as s) :
    (∀ w, Alternates true (kinds w s.sent)) ∧
      (Quiescent s → ∀ w sidecar, s.windowOwner.lookup w = some sidecar →
        s.sidecars sidecar = .connected →
        ((kinds w s.sent).getLast? = some true ↔ ∃ ws, shows s.workspaceDocs ws w = true)) := by
  obtain ⟨hcts, howners, hcaps⟩ : UpToDate s ∧ Owners s ∧ Captures s := by
    refine hrun.invariant (I := fun s => UpToDate s ∧ Owners s ∧ Captures s) ?_
      ⟨new_upToDate, new_owners, new_captures⟩
    rintro s a s' ⟨hcts, howners, hcaps⟩ ⟨hgrd, hstep⟩
    exact ⟨hcts.step hgrd hstep, howners.step hgrd hstep, hcaps.step howners hgrd hstep⟩
  refine ⟨fun w => (hcaps w).1, ?_⟩
  rintro ⟨hcalled, hctd, hsndg⟩ w sidecar hown hconn
  have hlive : ¬ Lost s w := by
    rintro (⟨-, hnone, -⟩ | ⟨sidecar', hcrt, hgone⟩)
    · rw [hown] at hnone
      cases hnone
    · rw [howners.owner w sidecar hown] at hcrt
      cases hcrt
      rw [hconn] at hgone
      cases hgone
  have hturn := (hcaps w).2.resolve_left hlive
  have hheld : held s w = [] := by simp [held, hsndg, kinds]
  have hcur : s.applied = s.version := by
    rcases hcts.due with heq | hne | ⟨t, ht, -⟩
    · exact heq
    · exact absurd hcalled hne
    · rw [hctd] at ht
      cases ht
  have hstarted := hturn.started
  rw [hheld, append_nil] at hstarted
  rw [← next_eq_false, hstarted, hcts.applied hcur w, attached_iff_shows]

/-- Workspace 1 before and after window 300 is put on it, and when it is taken off. -/
def emptyCanvas : WorkspaceDocs := (∅ : WorkspaceDocs).insert 1 ∅

def putOn : List (NodeId × Option OcifNode) := [(300, some (windowNode 300 7))]

def takeOff : List (NodeId × Option OcifNode) := [(300, none)]

def withWindow : WorkspaceDocs := modify 1 (receiveSync putOn) emptyCanvas

def withoutWindow : WorkspaceDocs := modify 1 (receiveSync takeOff) withWindow

theorem attached_withWindow (w : WindowId) : attached withWindow w = true ↔ w = 300 := by
  have hnode : ∀ ws, nodeAt withWindow ws w =
      if ws = 1 ∧ w = 300 then some (windowNode 300 7) else none := by
    intro ws
    rw [withWindow, nodeAt_modify]
    by_cases hws : ws = 1
    · simp [hws, emptyCanvas, putOn, receiveSync, lookup_insert_eq]
    · simp [hws, nodeAt, emptyCanvas]
  rw [attached_iff]
  simp only [hnode]
  constructor
  · rintro ⟨ws, n, hn, -⟩
    by_contra hne
    simp [hne] at hn
  · rintro rfl
    exact ⟨1, windowNode 300 7, by simp, rfl⟩

theorem attached_withoutWindow (w : WindowId) : attached withoutWindow w = false := by
  have hnode : ∀ ws, nodeAt withoutWindow ws w = none := by
    intro ws
    rw [withoutWindow, nodeAt_modify]
    by_cases hws : ws = 1
    · by_cases hw : w = 300
      · subst w
        simp [hws, withWindow, emptyCanvas, takeOff, receiveSync]
      · simp [hws, hw, withWindow, emptyCanvas, putOn, takeOff, receiveSync]
    · simp [hws, nodeAt, emptyCanvas, withWindow, lookup_modify]
  rw [Bool.eq_false_iff, Ne, attached_iff]
  simp [hnode]

theorem isStarts_withWindow : IsStarts [300] (fun _ => 0) (newCounts withWindow) := by
  refine ⟨by simp, fun w => ?_⟩
  simp [newCounts_pos, attached_withWindow]

theorem isStops_nil (new : WindowId → Nat) : IsStops [] (fun _ => 0) new := by
  refine ⟨by simp, fun w => ?_⟩
  simp

/-- Sidecar 7 with its window 300, and workspace 1. -/
def ready : Streaming :=
  { Streaming.new with
    workspaceDocs := emptyCanvas
    windowOwner := (∅ : HashMap WindowId SidecarId).insert 300 7
    created := (∅ : HashMap WindowId SidecarId).insert 300 7
    sidecars := Function.update (fun _ => .unseen) 7 .connected }

theorem run_ready :
    Run (guarded Orderly reconcileStep) Streaming.new [.connect 7, .openWorkspace 1, .create 300 7] ready :=
  .cons ⟨trivial, .connect _ 7 rfl⟩ (.cons ⟨trivial, .openWorkspace _ 1 notMem_empty⟩
    (.single ⟨trivial, .create _ 300 7 notMem_empty (by simp)⟩))

def started (owners : Option (HashMap WindowId SidecarId)) (messages : List Capture) : Sending :=
  ⟨none, owners, messages⟩

def putOnCounts : Counted := ⟨none, newCounts withWindow, 1⟩

/-- One call after another: window 300 is put on the canvas and captured. -/
def putOnSteps : List Action :=
  [.sync 1 putOn, .count none, .apply putOnCounts [300] [], .lookUp [] (started none [.start 300]),
    .send [] (started (some ready.windowOwner) [.start 300]), .finish (started (some ready.windowOwner) [])]

def captured : Streaming :=
  { ready with
    workspaceDocs := withWindow
    version := 1
    streamingRefcount := newCounts withWindow
    applied := 1
    sent := [.start 300] }

theorem run_putOn : Run (guarded Orderly reconcileStep) ready putOnSteps captured := by
  refine .cons ⟨trivial, .sync _ 1 putOn (mem_insert.mpr (.inl rfl))⟩
    (.cons ⟨trivial, .count _ none [] [] rfl⟩
      (.cons ⟨?_, .apply _ putOnCounts [300] [] [] [] rfl isStarts_withWindow (isStops_nil _)⟩
        (.cons ⟨?_, .lookUp _ (started none [.start 300]) [] [] rfl rfl⟩
          (.cons ⟨?_, .send _ (started (some ready.windowOwner) [.start 300]) [] [] ready.windowOwner
            (.start 300) [] rfl rfl rfl⟩
            (.single ⟨trivial, .finish _ (started (some ready.windowOwner) []) [] [] rfl ?_ rfl⟩)))))
  · exact Nat.zero_le _
  · intro c hc
    obtain rfl := mem_singleton.mp hc
    exact ⟨mem_insert.mpr (.inl rfl), fun t' ht' => by cases ht'⟩
  · exact fun c _ t' ht' => by cases ht'
  · simp [started]

theorem run_captures_putOn :
    ∃ as s, Run (guarded Orderly reconcileStep) Streaming.new as s ∧ Quiescent s ∧
      s.windowOwner.lookup 300 = some 7 ∧ s.sidecars 7 = .connected ∧
      Alternates true (kinds 300 s.sent) ∧
      ((kinds 300 s.sent).getLast? = some true ↔ ∃ ws, shows s.workspaceDocs ws 300 = true) := by
  have hrun := run_ready.append run_putOn
  have hown : captured.windowOwner.lookup 300 = some 7 := lookup_insert _
  have hconn : captured.sidecars 7 = .connected := by simp [captured, ready]
  have hqt : Quiescent captured := ⟨rfl, rfl, rfl⟩
  obtain ⟨halternates, hlast⟩ := run_captures hrun
  exact ⟨_, captured, hrun, hqt, hown, hconn, halternates 300,
    hlast hqt 300 7 hown hconn⟩

def takeOffCounts : Counted := ⟨none, newCounts withoutWindow, 2⟩

/-- Two calls at once: the one that has read the documents first replaces the
counts last. -/
def staleSteps : List Action :=
  [.sync 1 putOn, .count none, .sync 1 takeOff, .count none, .apply takeOffCounts [] [],
    .apply putOnCounts [300] [], .lookUp [started none []] (started none [.start 300]),
    .send [started none []] (started (some ready.windowOwner) [.start 300]),
    .finish (started (some ready.windowOwner) []), .lookUp [] (started none []),
    .finish (started (some ready.windowOwner) [])]

/-- Window 300 has been taken off the canvas, and its capture goes on. -/
def leftCapturing : Streaming :=
  { ready with
    workspaceDocs := withoutWindow
    version := 2
    streamingRefcount := newCounts withWindow
    applied := 1
    sent := [.start 300] }

theorem isStarts_withoutWindow : IsStarts [] (fun _ => 0) (newCounts withoutWindow) := by
  refine ⟨by simp, fun w => ?_⟩
  simp [newCounts_pos, attached_withoutWindow]

theorem newCounts_withoutWindow : newCounts withoutWindow = fun _ => 0 := by
  funext w
  rw [← Nat.le_zero, ← not_lt, newCounts_pos, attached_withoutWindow]
  exact Bool.false_ne_true

theorem run_stale : Run reconcileStep ready staleSteps leftCapturing := by
  have hsts : IsStarts [300] (newCounts withoutWindow) (newCounts withWindow) := by
    rw [newCounts_withoutWindow]
    exact isStarts_withWindow
  have hstops : IsStops [] (newCounts withoutWindow) (newCounts withWindow) := by
    rw [newCounts_withoutWindow]
    exact isStops_nil _
  refine .cons (.sync _ 1 putOn (mem_insert.mpr (.inl rfl)))
    (.cons (.count _ none [] [] rfl)
      (.cons (.sync _ 1 takeOff ((mem_modify _ _ _ _).mpr (mem_insert.mpr (.inl rfl))))
        (.cons (.count _ none [] [] rfl)
          (.cons (.apply _ takeOffCounts [] [] [putOnCounts] [] rfl isStarts_withoutWindow (isStops_nil _))
            (.cons (.apply _ putOnCounts [300] [] [] [] rfl hsts hstops) ?_)))))
  refine .cons (.lookUp _ (started none [.start 300]) [started none []] [] rfl rfl)
    (.cons (.send _ (started (some ready.windowOwner) [.start 300]) [started none []] []
      ready.windowOwner (.start 300) [] rfl rfl rfl)
      (.cons (.finish _ (started (some ready.windowOwner) []) [started none []] [] rfl (by simp [started]) rfl)
        (.cons (.lookUp _ (started none []) [] [] rfl rfl)
          (.single (.finish _ (started (some ready.windowOwner) []) [] [] rfl (by simp [started]) rfl)))))

/-- Stale counts are applied last: everything is quiet, no workspace shows the
window, and the last message has started its capture. -/
theorem stale_counts_leave_capture :
    ∃ as s, Run reconcileStep Streaming.new as s ∧ Quiescent s ∧
      s.windowOwner.lookup 300 = some 7 ∧ s.sidecars 7 = .connected ∧
      ¬ ((kinds 300 s.sent).getLast? = some true ↔ ∃ ws, shows s.workspaceDocs ws 300 = true) := by
  have hplain : Run reconcileStep Streaming.new _ ready := run_ready.mono (fun _ _ _ h => h.2)
  refine ⟨_, leftCapturing, hplain.append run_stale, ⟨rfl, rfl, rfl⟩, lookup_insert _,
    by simp [leftCapturing, ready], fun hiff => ?_⟩
  have hshown := attached_iff_shows.mpr (hiff.mp rfl)
  have hgone : attached leftCapturing.workspaceDocs 300 = false := attached_withoutWindow 300
  rw [hgone] at hshown
  cases hshown

end X11Web.CaptureOrder
