import Mathlib.Logic.Function.Basic
import X11Web.Runs
import X11Web.Windows

namespace X11Web.ServerGrab

open Windows Runs Option Function

inductive GrabRequest
  | grabServer
  | ungrabServer
  | await (blocks : Bool)
  | other
deriving DecidableEq

/-- Where a connection task stands: before its loop, in the `select`, at the
grab check of a read batch, in that batch, or in the loop of a frame tick. -/
inductive Phase
  | waiting | idle | checking | running | deferred
deriving DecidableEq

structure Task where
  count : Nat := 0
  blocked : Bool := false
  phase : Phase := .waiting
  pending : List GrabRequest := []
deriving DecidableEq

inductive TaskAction
  | connect | enter | read (reqs : List GrabRequest) | check | exec | finish | tick | eof | fail
deriving DecidableEq

variable {me client : ClientId} {holder holder' : Option ClientId}

def handleGrabServer (me : ClientId) (t : Task) : Option ClientId × Task :=
  (some me, { t with count := (t.count + 1) % 2 ^ 32 })

def handleUngrabServer (holder : Option ClientId) (t : Task) : Option ClientId × Task :=
  (if t.count - 1 = 0 then none else holder, { t with count := t.count - 1 })

/-- The EOF branch gives the grab back if the client counts one and holds it. -/
def releaseGrab (me : ClientId) (count : Nat) (holder : Option ClientId) : Option ClientId :=
  if count > 0 ∧ holder = some me then none else holder

def handleRequest (me : ClientId) (holder : Option ClientId) (t : Task) :
    GrabRequest → Option ClientId × Task
  | .grabServer => handleGrabServer me t
  | .ungrabServer => handleUngrabServer holder t
  | .await blocks => (holder, { t with blocked := blocks })
  | .other => (holder, t)

/-- The task will hand its next request to `handle_request` without another
look at the holder. -/
def Live (t : Task) : Prop :=
  (t.phase = .running ∨ t.phase = .deferred) ∧ t.blocked = false ∧ t.pending ≠ []

instance (t : Task) : Decidable (Live t) := inferInstanceAs (Decidable (_ ∧ _ ∧ _))

/-- One step of a connection task on its own state and the shared holder. A
failed read or write drops the task and leaves the holder as it is. -/
def taskStep (me : ClientId) (holder : Option ClientId) :
    Option Task → TaskAction → Option (Option ClientId × Option Task)
  | none, .connect => some (holder, some {})
  | some t, .enter =>
    if t.phase = .waiting ∧ holder = none then
      some (holder, some { t with phase := .idle }) else none
  | some t, .read reqs =>
    if t.phase = .idle then
      some (holder, some { t with phase := .checking, pending := t.pending ++ reqs }) else none
  | some t, .check =>
    if t.phase = .checking ∧ (holder = none ∨ holder = some me) then
      some (holder, some { t with phase := .running }) else none
  | some t, .exec =>
    match t.pending with
    | [] => none
    | req :: rest =>
      if Live t then
        let (holder', t') := handleRequest me holder { t with pending := rest } req
        some (holder', some t')
      else none
  | some t, .finish =>
    if (t.phase = .running ∨ t.phase = .deferred) ∧ (t.blocked ∨ t.pending = []) then
      some (holder, some { t with phase := .idle }) else none
  | some t, .tick =>
    if t.phase = .idle ∧ t.blocked then
      some (holder, some { t with
        blocked := false, phase := if t.pending = [] then .idle else .deferred }) else none
  | some t, .eof =>
    if t.phase = .idle then some (releaseGrab me t.count holder, none) else none
  | some _, .fail => some (holder, none)
  | _, _ => none

structure Clients where
  holder : Option ClientId
  tasks : ClientId → Option Task

def noClients : Clients := ⟨none, fun _ => none⟩

def grabStep (s : Clients) (label : ClientId × TaskAction) : Option Clients :=
  (taskStep label.1 s.holder (s.tasks label.1) label.2).map fun r =>
    ⟨r.1, update s.tasks label.1 r.2⟩

def GrabStep (s : Clients) (label : ClientId × TaskAction) (s' : Clients) : Prop :=
  grabStep s label = some s'

/-- While a client counts a server grab it is the holder, and no other client
can have a request executed. -/
def Excludes (s : Clients) : Prop :=
  ∀ a t, s.tasks a = some t → 0 < t.count →
    s.holder = some a ∧ ∀ b s', b ≠ a → ¬ GrabStep s (b, .exec) s'

/-- What the code does not check: a GrabServer while another batch is under way,
and the grab when a frame tick starts the deferred requests. -/
def KeepsExclusion (s : Clients) (label : ClientId × TaskAction) : Prop :=
  match label.2 with
  | .exec => (∃ t, s.tasks label.1 = some t ∧ t.pending.head? = some .grabServer) →
      ∀ b u, b ≠ label.1 → s.tasks b = some u → ¬ Live u
  | .tick => (∃ t, s.tasks label.1 = some t ∧ t.pending ≠ []) →
      s.holder = none ∨ s.holder = some label.1
  | _ => True

/-- Whoever counts a grab holds it, and nobody else is past the grab check with
a request left. -/
def Held (s : Clients) : Prop :=
  ∀ a t, s.tasks a = some t → 0 < t.count →
    s.holder = some a ∧ ∀ b u, b ≠ a → s.tasks b = some u → ¬ Live u

theorem taskStep_exec {old new : Option Task}
    (h : taskStep me holder old .exec = some (holder', new)) : ∃ t req rest, old = some t ∧
      Live t ∧ t.pending = req :: rest ∧
      (holder', new) = ((handleRequest me holder { t with pending := rest } req).1,
        some (handleRequest me holder { t with pending := rest } req).2) := by
  cases old with
  | none => simp [taskStep] at h
  | some t =>
    simp only [taskStep] at h
    split at h
    · simp at h
    · next req rest hpend =>
      split at h
      · next hlive => exact ⟨t, req, rest, rfl, hlive, hpend, (some.inj h).symm⟩
      · simp at h

theorem Held.excludes {s : Clients} (h : Held s) : Excludes s := by
  intro a t ha hcnt
  obtain ⟨hholder, hoths⟩ := h a t ha hcnt
  refine ⟨hholder, fun b s' hb hstep => ?_⟩
  obtain ⟨⟨holder', new⟩, htask, -⟩ := map_eq_some_iff.mp hstep
  obtain ⟨u, req, rest, hu, hlive, -⟩ := taskStep_exec htask
  exact hoths b u hb hu hlive

variable {action : TaskAction}

theorem taskStep_own {s : Clients} {t : Task} (hs : Held s)
    (hgrd : KeepsExclusion s (me, action)) (hcnt : 0 < t.count)
    (h : taskStep me s.holder (s.tasks me) action = some (holder', some t)) :
    holder' = some me ∧ ∀ b u, b ≠ me → s.tasks b = some u → ¬ Live u := by
  cases hold : s.tasks me with
  | none =>
    rw [hold] at h
    cases action with
    | connect =>
      simp only [taskStep, some.injEq, Prod.mk.injEq] at h
      rw [← h.2] at hcnt
      simp at hcnt
    | _ => simp [taskStep] at h
  | some old =>
    have hkeep : 0 < old.count → s.holder = some me ∧
        ∀ b u, b ≠ me → s.tasks b = some u → ¬ Live u := hs me old hold
    rw [hold] at h
    cases action with
    | connect => simp [taskStep] at h
    | exec =>
      obtain ⟨t', req, rest, ht', -, hpend, heq⟩ := taskStep_exec h
      obtain rfl := some.inj ht'
      obtain ⟨rfl, ht⟩ := Prod.mk.inj heq
      obtain rfl := some.inj ht
      cases req with
      | grabServer => exact ⟨rfl, hgrd ⟨old, hold, by simp [hpend]⟩⟩
      | ungrabServer =>
        have hpos : 0 < old.count - 1 := hcnt
        obtain ⟨hholder, hoths⟩ := hkeep (by omega)
        refine ⟨?_, hoths⟩
        simp only [handleRequest, handleUngrabServer]
        rw [if_neg (by omega), hholder]
      | await blocks => exact hkeep hcnt
      | other => exact hkeep hcnt
    | fail => simp [taskStep] at h
    | eof => simp [taskStep] at h
    | _ =>
      simp only [taskStep, ite_none_right_eq_some, some.injEq, Prod.mk.injEq] at h
      obtain ⟨-, rfl, rfl⟩ := h
      exact hkeep hcnt

theorem taskStep_other {s : Clients} {new : Option Task} (hs : Held s)
    {a : ClientId} {t : Task} (ha : s.tasks a = some t) (hcnt : 0 < t.count) (hne : me ≠ a)
    (hgrd : KeepsExclusion s (me, action))
    (h : taskStep me s.holder (s.tasks me) action = some (holder', new)) :
    holder' = some a ∧ ∀ u, new = some u → ¬ Live u := by
  obtain ⟨hholder, hoths⟩ := hs a t ha hcnt
  have hnotme : ¬ (s.holder = none ∨ s.holder = some me) := by
    rw [hholder]
    simp [Ne.symm hne]
  cases hold : s.tasks me with
  | none =>
    rw [hold] at h
    cases action with
    | connect =>
      simp only [taskStep, some.injEq, Prod.mk.injEq] at h
      obtain ⟨rfl, rfl⟩ := h
      exact ⟨hholder, by simp [Live]⟩
    | _ => simp [taskStep] at h
  | some old =>
    have hdead := hoths me old hne hold
    rw [hold] at h
    cases action with
    | connect => simp [taskStep] at h
    | enter =>
      simp only [taskStep, ite_none_right_eq_some] at h
      exact absurd (.inl h.1.2) hnotme
    | read reqs =>
      simp only [taskStep, ite_none_right_eq_some, some.injEq, Prod.mk.injEq] at h
      obtain ⟨-, rfl, rfl⟩ := h
      exact ⟨hholder, by simp [Live]⟩
    | check =>
      simp only [taskStep, ite_none_right_eq_some] at h
      exact absurd h.1.2 hnotme
    | exec =>
      obtain ⟨t', -, -, ht', hlive, -⟩ := taskStep_exec h
      obtain rfl := some.inj ht'
      exact absurd hlive hdead
    | finish =>
      simp only [taskStep, ite_none_right_eq_some, some.injEq, Prod.mk.injEq] at h
      obtain ⟨-, rfl, rfl⟩ := h
      exact ⟨hholder, by simp [Live]⟩
    | tick =>
      simp only [taskStep, ite_none_right_eq_some, some.injEq, Prod.mk.injEq] at h
      obtain ⟨-, rfl, rfl⟩ := h
      have hemp : old.pending = [] := by
        by_contra hpend
        exact hnotme (hgrd ⟨old, hold, hpend⟩)
      exact ⟨hholder, by simp [Live, hemp]⟩
    | eof =>
      simp only [taskStep, ite_none_right_eq_some, some.injEq, Prod.mk.injEq] at h
      obtain ⟨-, rfl, rfl⟩ := h
      refine ⟨?_, by simp⟩
      rw [releaseGrab, if_neg (fun hmine => hnotme (.inr hmine.2)), hholder]
    | fail =>
      simp only [taskStep, some.injEq, Prod.mk.injEq] at h
      obtain ⟨rfl, rfl⟩ := h
      exact ⟨hholder, by simp⟩

theorem grabStep_held {s s' : Clients} {label : ClientId × TaskAction} (hs : Held s)
    (hgrd : KeepsExclusion s label) (hstep : GrabStep s label s') : Held s' := by
  obtain ⟨me, action⟩ := label
  obtain ⟨⟨holder', new⟩, htask, rfl⟩ := map_eq_some_iff.mp hstep
  intro a t ha hcnt
  by_cases hme : a = me
  · subst a
    simp only [update_self] at ha
    rw [ha] at htask
    obtain ⟨hholder, hoths⟩ := taskStep_own hs hgrd hcnt htask
    refine ⟨hholder, fun b u hb hu => hoths b u hb ?_⟩
    simpa only [update_of_ne hb] using hu
  · simp only [update_of_ne hme] at ha
    obtain ⟨hholder, hnew⟩ := taskStep_other hs ha hcnt (Ne.symm hme) hgrd htask
    refine ⟨hholder, fun b u hb hu => ?_⟩
    by_cases hbme : b = me
    · subst b
      simp only [update_self] at hu
      exact hnew u hu
    · simp only [update_of_ne hbme] at hu
      exact (hs a t ha hcnt).2 b u hb hu

/-- In a run in which no grab is taken over the batch of another client and no
deferred batch starts under a foreign grab, every grab excludes the others. -/
theorem guardedRun_excludes (labels : List (ClientId × TaskAction)) (s : Clients)
    (hrun : Run (guarded KeepsExclusion GrabStep) noClients labels s) : Excludes s := by
  have hst : Held noClients := by
    intro a t ha
    simp [noClients] at ha
  have hinv : Held s := hrun.invariant (I := Held)
    (fun s label s' hs hstep => grabStep_held hs hstep.1 hstep.2) hst
  exact hinv.excludes

def execActions (s : Clients) (labels : List (ClientId × TaskAction)) : Option Clients :=
  labels.foldlM grabStep s

/-- Client 1 and, beside it, client 2. -/
def pairWith (holder : Option ClientId) (t u : Task) : Clients :=
  ⟨holder, update (update noClients.tasks 1 (some t)) 2 (some u)⟩

theorem pairWith_first {t t' u : Task} (h : taskStep 1 holder (some t) action = some (holder', some t')) :
    GrabStep (pairWith holder t u) (1, action) (pairWith holder' t' u) := by
  have hold : (pairWith holder t u).tasks 1 = some t := rfl
  have hnew : update (pairWith holder t u).tasks 1 (some t') = (pairWith holder' t' u).tasks := by
    rw [pairWith, update_comm (by decide), update_idem]
    rfl
  rw [GrabStep, grabStep, hold, show (pairWith holder t u).holder = holder from rfl, h, Option.map_some, hnew]
  rfl

theorem pairWith_second {t u u' : Task} (h : taskStep 2 holder (some u) action = some (holder', some u')) :
    GrabStep (pairWith holder t u) (2, action) (pairWith holder' t u') := by
  simp [GrabStep, grabStep, pairWith, h]

/-- Client 1 takes the grab after the batch of client 2. -/
def grabAfterBatch : List (ClientId × TaskAction) :=
  [(1, .connect), (2, .connect), (2, .enter), (2, .read [.other]), (2, .check), (2, .exec), (2, .finish),
    (1, .enter), (1, .read [.grabServer]), (1, .check), (1, .exec)]

theorem guardedRun_excludes_pair :
    Run (guarded KeepsExclusion GrabStep) noClients grabAfterBatch
      (pairWith (some 1) ⟨1, false, .running, []⟩ { phase := .idle }) ∧
    Excludes (pairWith (some 1) ⟨1, false, .running, []⟩ { phase := .idle }) := by
  have hconn : GrabStep noClients (1, .connect) ⟨none, update noClients.tasks 1 (some {})⟩ := rfl
  have hconn' : GrabStep ⟨none, update noClients.tasks 1 (some {})⟩ (2, .connect) (pairWith none {} {}) := rfl
  have hgrd : KeepsExclusion (pairWith none {} { phase := .running, pending := [.other] }) (2, .exec) := by
    rintro ⟨t, ht, hhead⟩
    obtain rfl := some.inj ht
    cases hhead
  have hgrd' : KeepsExclusion (pairWith none { phase := .running, pending := [.grabServer] } { phase := .idle })
      (1, .exec) := by
    intro _ b u hb hu hlive
    by_cases hb' : b = 2
    · subst b
      obtain rfl := some.inj hu
      exact absurd hlive (by decide)
    · simp only [pairWith, update_of_ne hb', update_of_ne hb, noClients] at hu
      cases hu
  have hrun : Run (guarded KeepsExclusion GrabStep) noClients grabAfterBatch
      (pairWith (some 1) ⟨1, false, .running, []⟩ { phase := .idle }) :=
    .cons ⟨trivial, hconn⟩ <| .cons ⟨trivial, hconn'⟩ <| .cons ⟨trivial, pairWith_second rfl⟩ <|
      .cons ⟨trivial, pairWith_second rfl⟩ <| .cons ⟨trivial, pairWith_second rfl⟩ <|
      .cons ⟨hgrd, pairWith_second rfl⟩ <| .cons ⟨trivial, pairWith_second rfl⟩ <|
      .cons ⟨trivial, pairWith_first rfl⟩ <| .cons ⟨trivial, pairWith_first rfl⟩ <|
      .cons ⟨trivial, pairWith_first rfl⟩ <| .single ⟨hgrd', pairWith_first rfl⟩
  exact ⟨hrun, guardedRun_excludes _ _ hrun⟩

/-- Client 2 is in the middle of a batch of two requests when client 1 takes
the grab. -/
def grabOverBatch : List (ClientId × TaskAction) :=
  [(1, .connect), (1, .enter), (2, .connect), (2, .enter), (2, .read [.other, .other]),
    (2, .check), (2, .exec), (1, .read [.grabServer]), (1, .check), (1, .exec)]

theorem grabServer_over_batch :
    ¬ ∀ labels s, Run GrabStep noClients labels s → Excludes s := by
  intro h
  have hexec : (execActions noClients grabOverBatch).bind (fun s =>
      (s.tasks 1).bind fun t => (grabStep s (2, .exec)).map fun _ => t.count) = some 1 := by
    decide +kernel
  obtain ⟨s, hs, hrest⟩ := bind_eq_some_iff.mp hexec
  obtain ⟨t, ht, hrest⟩ := bind_eq_some_iff.mp hrest
  obtain ⟨s', hs', hcnt⟩ := map_eq_some_iff.mp hrest
  exact (h _ s (Run.of_foldlM hs) 1 t ht (by omega)).2 2 s' (by decide) hs'

end X11Web.ServerGrab
