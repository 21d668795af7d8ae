import X11Web.Alternation
import X11Web.Runs
import X11Web.XimHandlers

namespace X11Web.XimPreedit

open Alternation HashMaps Runs List Option Function

/-! ## Sessions and compositions -/

inductive Preedit
  | start
  | draw
  | done
  deriving DecidableEq

def Message.preedit : Message → Option (Ic × Preedit)
  | .preeditStart ic => some (ic, .start)
  | .preeditDraw ic _ _ => some (ic, .draw)
  | .preeditDone ic => some (ic, .done)
  | _ => none

def Message.recipient : Message → Ic
  | .openReply imId | .closeReply imId => (imId, 0)
  | .setEventMask ic | .createIcReply ic | .destroyIcReply ic | .setIcValuesReply ic | .resetIcReply ic
  | .forwardEvent ic | .commit ic _ | .preeditStart ic | .preeditDraw ic _ _ | .preeditDone ic => ic

def preeditsFor (ic : Ic) (msgs : List Message) : List Preedit :=
  msgs.filterMap fun m => m.preedit.bind fun p => if p.1 = ic then some p.2 else none

def Preedit.turn : Preedit → Option Bool
  | .start => some true
  | .draw => none
  | .done => some false

def turns (log : List Preedit) : List Bool := log.filterMap Preedit.turn

def InSession (log : List Preedit) : Prop := (turns log).getLast? = some true

/-- Starts and ends alternate, and what is drawn is drawn in a session. -/
def WellFormed (log : List Preedit) : Prop :=
  Alternates true (turns log) ∧ ∀ pre post, log = pre ++ .draw :: post → InSession pre

section Logs

variable {log : List Preedit}

theorem inSession_iff : InSession log ↔ next true (turns log) = false := next_eq_false.symm

theorem inSession_start (log : List Preedit) : InSession (log ++ [.start]) := by
  simp [InSession, turns, Preedit.turn]

theorem inSession_draw (log : List Preedit) : InSession (log ++ [.draw]) ↔ InSession log := by
  simp [InSession, turns, Preedit.turn]

theorem not_inSession_done (log : List Preedit) : ¬InSession (log ++ [.done]) := by
  simp [InSession, turns, Preedit.turn]

theorem wellFormed_nil : WellFormed [] := ⟨trivial, fun pre post h => by cases pre <;> cases h⟩

theorem turns_concat (log : List Preedit) (m : Preedit) : turns (log ++ [m]) = turns log ++ m.turn.toList := by
  cases m <;> simp [turns, Preedit.turn]

/-- The last message is well placed if it starts a session outside of one, or is for the one that runs. -/
theorem wellFormed_concat {m : Preedit} :
    WellFormed (log ++ [m]) ↔ WellFormed log ∧ (m = .start ↔ ¬InSession log) := by
  have hdrw : (∀ pre post, log ++ [m] = pre ++ .draw :: post → InSession pre) ↔
      (∀ pre post, log = pre ++ .draw :: post → InSession pre) ∧ (m = .draw → InSession log) := by
    constructor
    · intro h
      refine ⟨fun pre post hlog => h pre (post ++ [m]) (by rw [hlog, append_assoc, cons_append]), ?_⟩
      rintro rfl
      exact h log [] rfl
    · rintro ⟨h, hlast⟩ pre post hlog
      rcases eq_nil_or_concat post with rfl | ⟨post, x, rfl⟩
      · obtain ⟨rfl, hm⟩ := append_inj' hlog rfl
        exact hlast (singleton_inj.mp hm)
      · rw [concat_eq_append, ← cons_append, ← append_assoc] at hlog
        exact h pre post (append_inj' hlog rfl).1
  rw [WellFormed, WellFormed, hdrw, turns_concat, inSession_iff]
  cases m with
  | start =>
    simp only [Preedit.turn, toList_some, alternates_concat, reduceCtorEq, false_implies, and_true]
    cases next true (turns log) <;> simp
  | draw => simp [Preedit.turn, and_assoc]
  | done =>
    simp only [Preedit.turn, toList_some, alternates_concat, reduceCtorEq, false_implies, and_true]
    cases next true (turns log) <;> simp

end Logs

section Sends

variable {log : Ic → List Preedit} {s s' s'' : ClientState} {ic : Ic} {C C' : Prop}

/-- The preedit messages for a context, with those that were sent before. -/
def logged (log : Ic → List Preedit) (s : ClientState) (ic : Ic) : List Preedit := log ic ++ preeditsFor ic s.sent

@[simp] theorem logged_nothing_sent (log : Ic → List Preedit) (x : XimServer) (ic : Ic) :
    logged log ⟨x, []⟩ ic = log ic :=
  append_nil (log ic)

structure Tracks (log : Ic → List Preedit) (s : ClientState) : Prop where
  reaches : s.xim.Reaches
  flags : ∀ ic c, s.xim.context ic = some c → (c.preeditActive = true ↔ InSession (logged log s ic))

/-- The flags stay right, and the sessions stay well formed exactly under a condition. -/
def Does (log : Ic → List Preedit) (s s' : ClientState) (C : Prop) : Prop :=
  Tracks log s' ∧ ((∀ ic, WellFormed (logged log s' ic)) ↔ (∀ ic, WellFormed (logged log s ic)) ∧ C)

theorem Does.trans (h : Does log s s' C) (h' : Does log s' s'' C') : Does log s s'' (C ∧ C') := by
  refine ⟨h'.1, ?_⟩
  rw [h'.2, h.2, and_assoc]

theorem Does.congr (h : Does log s s' C) (hC : C ↔ C') : Does log s s' C' := ⟨h.1, by rw [h.2, hC]⟩

theorem does_self (h : Tracks log s) : Does log s s True := ⟨h, by simp⟩

theorem preeditsFor_concat (ic : Ic) (msgs : List Message) (msg : Message) :
    preeditsFor ic (msgs ++ [msg]) =
      preeditsFor ic msgs ++ (msg.preedit.bind fun p => if p.1 = ic then some p.2 else none).toList := by
  rw [preeditsFor, filterMap_append, ← preeditsFor]
  congr 1

theorem xim_sendXimReply (s : ClientState) (imId : UInt16) (msg : Message) :
    (sendXimReply s imId msg).xim = s.xim := by
  rw [sendXimReply]
  split <;> rfl

variable {msg : Message}

theorem logged_sendXimReply (hmsg : msg.preedit = none) (s : ClientState) (imId : UInt16) (ic : Ic) :
    logged log (sendXimReply s imId msg) ic = logged log s ic := by
  rw [sendXimReply]
  split
  · rfl
  · simp [logged, preeditsFor_concat, hmsg]

variable {c : XimInputContext} {m : Preedit}

theorem logged_preedit (hmsg : msg.preedit = some (ic, m)) (h : s.xim.Reaches)
    (hc : s.xim.context ic = some c) (ic' : Ic) :
    logged log (sendXimReply s ic.1 msg) ic' = if ic' = ic then logged log s ic ++ [m] else logged log s ic' := by
  rw [sendXimReply, if_neg (h ic c hc)]
  by_cases heq : ic' = ic
  · subst heq
    simp [logged, preeditsFor_concat, hmsg]
  · have hne : ic ≠ ic' := fun h => heq h.symm
    simp [logged, preeditsFor_concat, hmsg, heq, hne]

theorem does_reply (hmsg : msg.preedit = none) (h : Tracks log s) (imId : UInt16) :
    Does log s (sendXimReply s imId msg) True := by
  constructor
  · constructor
    · rw [xim_sendXimReply]
      exact h.reaches
    · intro ic c hc
      rw [xim_sendXimReply] at hc
      rw [logged_sendXimReply hmsg]
      exact h.flags ic c hc
  · simp only [logged_sendXimReply hmsg, and_true]

theorem sessions_concat {log' : Ic → List Preedit}
    (hlog' : ∀ ic', log' ic' = if ic' = ic then log ic ++ [m] else log ic') :
    (∀ ic', WellFormed (log' ic')) ↔ (∀ ic', WellFormed (log ic')) ∧ (m = .start ↔ ¬InSession (log ic)) := by
  constructor
  · intro h
    have hic := h ic
    rw [hlog', if_pos rfl, wellFormed_concat] at hic
    refine ⟨fun ic' => ?_, hic.2⟩
    by_cases heq : ic' = ic
    · rw [heq]
      exact hic.1
    · have hic' := h ic'
      rwa [hlog', if_neg heq] at hic'
  · rintro ⟨h, hm⟩ ic'
    rw [hlog']
    split
    · exact wellFormed_concat.mpr ⟨h ic, hm⟩
    · exact h ic'

theorem Tracks.active_iff (h : Tracks log s) (hc : s.xim.context ic = some c) :
    s.xim.preeditActive ic = true ↔ InSession (logged log s ic) := by
  rw [← h.flags ic c hc, XimServer.preeditActive, hc]
  rfl

theorem does_preedit (hmsg : msg.preedit = some (ic, m)) (h : Tracks log s)
    (hc : s.xim.context ic = some c) {x' : XimServer} (hrchs : x'.Reaches)
    (hflags : ∀ ic' c', x'.context ic' = some c' →
      (c'.preeditActive = true ↔ InSession (if ic' = ic then logged log s ic ++ [m] else logged log s ic'))) :
    Does log s { sendXimReply s ic.1 msg with xim := x' } (m = .start ↔ s.xim.preeditActive ic = false) := by
  have hlogged : ∀ ic', logged log (sendXimReply s ic.1 msg) ic' = _ := logged_preedit hmsg h.reaches hc
  refine ⟨⟨hrchs, fun ic' c' hc' => ?_⟩, ?_⟩
  · rw [hflags ic' c' hc', ← hlogged]
    rfl
  · rw [← Bool.not_eq_true, h.active_iff hc, ← sessions_concat hlogged]
    rfl

theorem flags_setPreeditActive (h : Tracks log s) {active : Bool}
    (hm : active = true ↔ InSession (logged log s ic ++ [m])) (ic' : Ic) (c' : XimInputContext)
    (hc' : (s.xim.setPreeditActive ic active).context ic' = some c') :
    c'.preeditActive = true ↔ InSession (if ic' = ic then logged log s ic ++ [m] else logged log s ic') := by
  rw [XimServer.setPreeditActive, context_modifyContext] at hc'
  split at hc'
  · next heq =>
    obtain ⟨c, -, rfl⟩ := map_eq_some_iff.mp hc'
    rw [if_pos heq]
    exact hm
  · next hne =>
    rw [if_neg hne]
    exact h.flags ic' c' hc'

theorem does_start (h : Tracks log s) (hc : s.xim.context ic = some c) :
    Does log s (sendXimPreeditStart s ic) (s.xim.preeditActive ic = false) := by
  rw [sendXimPreeditStart, xim_sendXimReply]
  refine (does_preedit rfl h hc (reaches_modifyContext h.reaches ic _) ?_).congr (by simp)
  exact flags_setPreeditActive h (iff_of_true rfl (inSession_start _))

theorem does_done (h : Tracks log s) (hc : s.xim.context ic = some c) :
    Does log s (sendXimPreeditDone s ic) (s.xim.preeditActive ic = true) := by
  rw [sendXimPreeditDone, xim_sendXimReply]
  refine (does_preedit rfl h hc (reaches_modifyContext h.reaches ic _) ?_).congr (by simp)
  exact flags_setPreeditActive h (iff_of_false nofun (not_inSession_done _))

theorem does_draw (h : Tracks log s) (hc : s.xim.context ic = some c) (text : String)
    (caret : Nat) : Does log s (sendXimPreeditDraw s ic text caret) (s.xim.preeditActive ic = true) := by
  rw [sendXimPreeditDraw]
  have hx : sendXimReply s ic.1 (.preeditDraw ic text caret) =
      { sendXimReply s ic.1 (.preeditDraw ic text caret) with xim := s.xim } := by
    rw [← xim_sendXimReply s ic.1 (.preeditDraw ic text caret)]
  rw [hx]
  refine (does_preedit rfl h hc h.reaches fun ic' c' hc' => ?_).congr (by simp)
  rw [h.flags ic' c' hc']
  split
  · next heq => rw [inSession_draw, heq]
  · rfl

theorem does_endSession (h : Tracks log s) (ic : Ic) :
    Does log s (if s.xim.preeditActive ic then sendXimPreeditDone s ic else s) True := by
  split
  · next hactive =>
    obtain ⟨c, hc⟩ := exists_context_of_active hactive
    exact (does_done h hc).congr (iff_true_intro hactive)
  · exact does_self h

theorem does_commit (h : Tracks log s) (ic : Ic) (text : String) : Does log s (sendXimCommit s ic text) True :=
  does_reply rfl h ic.1

end Sends

section Handlers

variable {log : Ic → List Preedit} {s s' : ClientState} {ic : Ic} {keysymToString : UInt32 → String}

theorem active_start {c : XimInputContext} (hc : s.xim.context ic = some c) :
    (sendXimPreeditStart s ic).xim.preeditActive ic = true := by
  rw [sendXimPreeditStart, xim_sendXimReply, preeditActive_setPreeditActive, if_pos rfl, hc]
  rfl

theorem does_commitKeysym (h : Tracks log s) (ic : Ic) (ks : UInt32) :
    Does log s (commitKeysym keysymToString s ic ks) True := by
  rw [commitKeysym]
  split
  · exact does_self h
  · exact does_commit h ic _

theorem does_commitKeysyms (h : Tracks log s) (ic : Ic) (keysyms : List UInt32) :
    Does log s (keysyms.foldl (fun s ks => commitKeysym keysymToString s ic ks) s) True := by
  induction keysyms generalizing s with
  | nil => exact does_self h
  | cons ks keysyms ih =>
    have hfst : Does log s (commitKeysym keysymToString s ic ks) True := does_commitKeysym h ic ks
    exact (hfst.trans (ih hfst.1)).congr (and_true _).to_iff

theorem does_forwardEvent (h : Tracks log s) (ic : Ic) (outcome : ComposeResult) :
    Does log s (handleXimForwardEvent keysymToString s ic outcome) True := by
  cases outcome with
  | pass ks =>
    rw [handleXimForwardEvent]
    split
    · exact does_reply rfl h ic.1
    · exact does_commitKeysym h ic ks
  | consumed =>
    rw [handleXimForwardEvent]
    split
    · next hsupports =>
      obtain ⟨c, hc⟩ : ∃ c, s.xim.context ic = some c := by
        cases hc : s.xim.context ic with
        | none => simp [hc] at hsupports
        | some c => exact ⟨c, rfl⟩
      by_cases hactive : s.xim.preeditActive ic = true
      · rw [if_pos hactive]
        exact (does_draw h hc "·" 1).congr (iff_true_intro hactive)
      · rw [if_neg hactive]
        have hst := does_start h hc
        obtain ⟨c', hc'⟩ := exists_context_of_active (active_start hc)
        refine (hst.trans (does_draw hst.1 hc' "·" 1)).congr (iff_true_intro ⟨?_, active_start hc⟩)
        exact Bool.eq_false_iff.mpr hactive
    · exact does_self h
  | composed text =>
    have hend := does_endSession h ic
    exact (hend.trans (does_commit hend.1 ic text)).congr (and_true _).to_iff
  | cancelled keysyms =>
    have hend := does_endSession h ic
    exact (hend.trans (does_commitKeysyms hend.1 ic keysyms)).congr (and_true _).to_iff

theorem does_resetIc (h : Tracks log s) (ic : Ic) : Does log s (handleXimResetIc s ic) True := by
  have hend := does_endSession h ic
  exact (hend.trans (does_reply rfl hend.1 ic.1)).congr (and_true _).to_iff

theorem tracks_change (h : Tracks log s) {x' : XimServer} (hrchs : x'.Reaches)
    (hflags : ∀ ic c', x'.context ic = some c' →
      ∃ c, s.xim.context ic = some c ∧ c'.preeditActive = c.preeditActive) :
    Does log s { s with xim := x' } True := by
  refine ⟨⟨hrchs, fun ic c' hc' => ?_⟩, (and_true _).to_iff.symm⟩
  obtain ⟨c, hc, heq⟩ := hflags ic c' hc'
  rw [heq]
  exact h.flags ic c hc

theorem does_open (h : Tracks log s) : Does log s (handleXimOpen s) True := by
  have hlook := fun imId' => lookup_insert_eq s.xim.connections s.xim.nextImId imId' ⟨0, ∅⟩
  -- the contexts are those of the other connections
  have hctx : ∀ (n : UInt16) ic c,
      (XimServer.mk n s.xim.nextIcId (s.xim.connections.insert s.xim.nextImId ⟨0, ∅⟩)).context ic = some c →
      ic.1 ≠ s.xim.nextImId ∧ s.xim.context ic = some c := by
    intro n ic c hc
    rw [XimServer.context, hlook] at hc
    split at hc
    · simp at hc
    · next hne => exact ⟨hne, hc⟩
  have hopd := tracks_change h (fun ic c hc => ?_) fun ic c hc =>
    ⟨c, (hctx (s.xim.nextImId + 1) ic c hc).2, rfl⟩
  · have hmask : Does log _ (sendXimReply _ _ (.setEventMask (s.xim.nextImId, 0))) True :=
      does_reply rfl hopd.1 s.xim.nextImId
    exact ((hopd.trans hmask).trans (does_reply rfl hmask.1 s.xim.nextImId)).congr (by simp)
  · obtain ⟨hne, hc⟩ := hctx _ ic c hc
    rw [hlook, if_neg hne]
    exact h.reaches ic c hc

theorem does_close (h : Tracks log s) (imId : UInt16) : Does log s (handleXimClose s imId) True := by
  have hlook := lookup_erase_eq s.xim.connections imId
  have hctx : ∀ ic c,
      (XimServer.mk s.xim.nextImId s.xim.nextIcId (s.xim.connections.erase imId)).context ic = some c →
      ic.1 ≠ imId ∧ s.xim.context ic = some c := by
    intro ic c hc
    rw [XimServer.context, hlook] at hc
    split at hc
    · simp at hc
    · next hne => exact ⟨hne, hc⟩
  have hcld := tracks_change h (fun ic c hc => ?_) fun ic c hc => ⟨c, (hctx ic c hc).2, rfl⟩
  · exact (hcld.trans (does_reply rfl hcld.1 imId)).congr (and_true _).to_iff
  · obtain ⟨hne, hc⟩ := hctx ic c hc
    rw [hlook, if_neg hne]
    exact h.reaches ic c hc

theorem context_createIc (x : XimServer) (imId : UInt16) (a : IcAttributes) (ic : Ic) :
    (x.createIc imId a).context ic =
      if x.createdIc imId a = some ic then some (newContext a) else x.context ic := by
  obtain ⟨imId', icId'⟩ := ic
  rw [XimServer.createdIc, XimServer.context, XimServer.createIc]
  by_cases hwin : a.clientWindow ≠ 0
  · rw [if_pos hwin, lookup_modify]
    by_cases him : imId' = imId
    · subst him
      cases hconn : x.connections.lookup imId' with
      | none => simp [XimServer.context, hconn]
      | some conn => simp [hwin, XimServer.context, hconn, lookup_insert_eq, eq_comm]
    · have hne : imId ≠ imId' := fun h => him h.symm
      simp [him, hne, XimServer.context]
  · simp [hwin, XimServer.context]

theorem reaches_createIc {x : XimServer} (h : x.Reaches) (imId : UInt16) (a : IcAttributes) :
    (x.createIc imId a).Reaches := by
  intro ic c hc
  by_cases hwin : a.clientWindow ≠ 0
  · rw [XimServer.createIc, if_pos hwin, lookup_modify]
    by_cases him : ic.1 = imId
    · rw [if_pos him, Option.map_map]
      cases hconn : x.connections.lookup imId with
      | none => simp [XimServer.context, XimServer.createIc, hwin, lookup_modify, him, hconn] at hc
      | some conn => by_cases hzero : conn.clientWindow = 0 <;> simp [hzero, hwin]
    · rw [if_neg him]
      have hne : x.createdIc imId a ≠ some ic := by
        rw [XimServer.createdIc]
        split
        · exact fun heq => him (by rw [← some.inj heq])
        · exact (some_ne_none ic).symm
      rw [context_createIc, if_neg hne] at hc
      exact h ic c hc
  · have hne : x.createdIc imId a ≠ some ic := by simp [XimServer.createdIc, hwin]
    rw [context_createIc, if_neg hne] at hc
    rw [XimServer.createIc, if_neg hwin]
    exact h ic c hc

theorem tracks_createIc {x : XimServer} (h : Tracks log ⟨x, []⟩) (imId : UInt16) (a : IcAttributes) :
    Tracks (fun ic => if x.createdIc imId a = some ic then [] else log ic) ⟨x.createIc imId a, []⟩ := by
  refine ⟨reaches_createIc h.reaches imId a, fun ic c hc => ?_⟩
  rw [context_createIc] at hc
  rw [logged_nothing_sent]
  split at hc
  · next hcrt =>
    rw [if_pos hcrt]
    exact some.inj hc ▸ iff_of_false nofun nofun
  · next hold =>
    rw [if_neg hold, h.flags ic c hc, logged_nothing_sent]

theorem does_destroyIc (h : Tracks log s) (ic : Ic) : Does log s (handleXimDestroyIc s ic) True := by
  have hctx : ∀ ic' c, (s.xim.modifyContexts ic.1 fun contexts => contexts.erase ic.2).context ic' = some c →
      s.xim.context ic' = some c := by
    intro ic' c hc
    rw [context_modifyContexts] at hc
    split at hc
    · next him =>
      obtain ⟨conn, hconn, hc⟩ := bind_eq_some_iff.mp hc
      rw [lookup_erase_eq] at hc
      split at hc
      · cases hc
      · rw [XimServer.context, him, hconn]
        exact hc
    · exact hc
  have herased := tracks_change h (fun ic' c hc => ?_) fun ic' c hc => ⟨c, hctx ic' c hc, rfl⟩
  · exact (herased.trans (does_reply rfl herased.1 ic.1)).congr (and_true _).to_iff
  · rw [clientWindow_modifyContexts]
    exact h.reaches ic' c (hctx ic' c hc)

theorem does_setIcValues (h : Tracks log s) (ic : Ic) (a : IcAttributes) :
    Does log s (handleXimSetIcValues s ic a) True := by
  have hset := tracks_change h (reaches_modifyContext h.reaches ic fun c => c.setValues a) fun ic' c' hc' => by
    rw [context_modifyContext] at hc'
    split at hc'
    · next heq =>
      obtain ⟨c, hc, rfl⟩ := map_eq_some_iff.mp hc'
      exact ⟨c, by rw [heq, hc], rfl⟩
    · exact ⟨c', hc', rfl⟩
  exact (hset.trans (does_reply rfl hset.1 ic.1)).congr (and_true _).to_iff

theorem exists_context_of_findFocused {x : XimServer} {fallback : Option Ic} {ics : List Ic}
    (hfallback : ∀ ic, fallback = some ic → ∃ c, x.context ic = some c)
    (hfnd : findFocused x fallback ics = some ic) : ∃ c, x.context ic = some c := by
  induction ics generalizing fallback with
  | nil => exact hfallback ic hfnd
  | cons ic' ics ih =>
    rw [findFocused] at hfnd
    split at hfnd
    · next c hc =>
      split at hfnd
      · exact some.inj hfnd ▸ ⟨c, hc⟩
      · refine ih (fun ic'' h => ?_) hfnd
        cases fallback with
        | none => exact some.inj h ▸ ⟨c, hc⟩
        | some f => exact hfallback ic'' h
    · exact ih hfallback hfnd

/-- What a composition event asks of the context that it finds. -/
def Asks (active : Bool) : Phase → Prop
  | .start => active = false
  | .update | .finish => active = true
  | .unknown => True

theorem does_composition (h : Tracks log s) (order : List (UInt16 × List UInt16)) (phase : Phase) (text : String) :
    Does log s (handleCompositionEvent s order phase text)
      (∀ ic, findFocusedIc s.xim order = some ic → Asks (s.xim.preeditActive ic) phase) := by
  rw [handleCompositionEvent]
  cases hfnd : findFocusedIc s.xim order with
  | none => exact (does_self h).congr (iff_of_true trivial nofun)
  | some ic =>
    obtain ⟨c, hc⟩ := exists_context_of_findFocused (fun ic h => by cases h) hfnd
    have hasks : ∀ P : Ic → Prop, P ic ↔ ∀ ic', some ic = some ic' → P ic' := fun P =>
      ⟨fun hP ic' heq => some.inj heq ▸ hP, fun hP => hP ic rfl⟩
    rw [← hasks fun ic => Asks (s.xim.preeditActive ic) phase]
    cases phase with
    | start => exact does_start h hc
    | update => exact does_draw h hc text text.length
    | finish =>
      by_cases hemp : text.isEmpty = true
      · simp only [hemp, if_true]
        exact does_done h hc
      · have hcommit := does_commit h ic text
        have hxim : (sendXimCommit s ic text).xim = s.xim := xim_sendXimReply s ic.1 _
        simp only [hemp]
        refine (hcommit.trans (does_done hcommit.1 (by rw [hxim]; exact hc))).congr ?_
        rw [hxim]
        exact (true_and _).to_iff
    | unknown => exact does_self h

end Handlers

/-- The server, the preedit messages of every context since it was created, and for each frontend whether
a composition of it runs and for which contexts the messages of the last one were. -/
structure Ledger (F : Type) where
  xim : XimServer
  log : Ic → List Preedit
  running : F → Bool
  recipients : F → List Ic

section Runs

variable {F : Type} [DecidableEq F] (keysymToString : UInt32 → String)

def created (x : XimServer) : Event F → Option Ic
  | .createIc imId a => x.createdIc imId a
  | _ => none

def note (l : Ledger F) (e : Event F) : Ledger F :=
  let s := handle keysymToString ⟨l.xim, []⟩ e
  let met := s.sent.map Message.recipient
  { xim := s.xim
    log := fun ic => (if created l.xim e = some ic then [] else l.log ic) ++ preeditsFor ic s.sent
    running := match e with
      | .composition f .start _ _ => update l.running f true
      | .composition f .finish _ _ => update l.running f false
      | _ => l.running
    recipients := match e with
      | .composition f .start _ _ => update l.recipients f met
      | .composition f _ _ _ =>
        if l.running f then update l.recipients f (l.recipients f ++ met) else l.recipients
      | _ => l.recipients }

def run (es : List (Event F)) : Ledger F :=
  es.foldl (note keysymToString) ⟨newServer, fun _ => [], fun _ => false, fun _ => []⟩

/-- Every session is well formed, and every composition is for one context. -/
structure Proper (l : Ledger F) : Prop where
  sessions : ∀ ic, WellFormed (l.log ic)
  compositions : ∀ f, ∀ ic ∈ l.recipients f, ∀ ic' ∈ l.recipients f, ic = ic'

/-- A composition event finds a context that is not in a session if it starts one, and otherwise one that
is, and that its composition is for. -/
def Served (l : Ledger F) : Event F → Prop
  | .composition f phase _ order => ∀ ic, findFocusedIc l.xim order = some ic →
    match phase with
    | .start => l.xim.preeditActive ic = false
    | .update | .finish => l.xim.preeditActive ic = true ∧ (l.running f = true → ∀ met ∈ l.recipients f, met = ic)
    | .unknown => True
  | _ => True

variable {keysymToString} {l : Ledger F} {x : XimServer} {log : Ic → List Preedit}

def AsksSession (x : XimServer) : Event F → Prop
  | .composition _ phase _ order => ∀ ic, findFocusedIc x order = some ic → Asks (x.preeditActive ic) phase
  | _ => True

/-- What an event asks of the contexts that the composition has been for. -/
def AsksRecipients (l : Ledger F) : Event F → Prop
  | .composition f phase _ order => ∀ ic, findFocusedIc l.xim order = some ic →
    phase = .update ∨ phase = .finish → l.running f = true → ∀ met ∈ l.recipients f, met = ic
  | _ => True

omit [DecidableEq F] in
theorem served_iff (l : Ledger F) (e : Event F) : Served l e ↔ AsksSession l.xim e ∧ AsksRecipients l e := by
  cases e with
  | composition f phase text order =>
    simp only [Served, AsksSession, AsksRecipients, ← forall_and]
    refine forall_congr' fun ic => ?_
    cases phase <;> simp [Asks, imp_and]
  | _ => simp [Served, AsksSession, AsksRecipients]

omit [DecidableEq F] in
theorem does_handle (h : Tracks log ⟨x, []⟩) {e : Event F} (he : ∀ imId a, e ≠ .createIc imId a) :
    Does log ⟨x, []⟩ (handle keysymToString ⟨x, []⟩ e) (AsksSession x e) := by
  cases e with
  | openIm => exact does_open h
  | closeIm imId => exact does_close h imId
  | createIc imId a => exact absurd rfl (he imId a)
  | destroyIc ic => exact does_destroyIc h ic
  | setIcValues ic a => exact does_setIcValues h ic a
  | resetIc ic => exact does_resetIc h ic
  | forwardEvent ic outcome => exact does_forwardEvent h ic outcome
  | composition f phase text order => exact does_composition h order phase text

theorem tracks_of_does {s s' : ClientState} {log' : Ic → List Preedit} {C : Prop} (h : Does log s s' C)
    (hlog' : ∀ ic, log' ic = logged log s' ic) : Tracks log' ⟨s'.xim, []⟩ := by
  refine ⟨h.1.reaches, fun ic c hc => ?_⟩
  rw [logged_nothing_sent, hlog']
  exact h.1.flags ic c hc

/-- The flags go on saying which contexts are in a session, and the sessions stay well formed
exactly if the event asks for nothing else. -/
theorem sessions_note (h : Tracks l.log ⟨l.xim, []⟩) (e : Event F) :
    Tracks (note keysymToString l e).log ⟨(note keysymToString l e).xim, []⟩ ∧
      ((∀ ic, WellFormed (l.log ic)) →
        ((∀ ic, WellFormed ((note keysymToString l e).log ic)) ↔ AsksSession l.xim e)) := by
  by_cases he : ∃ imId a, e = .createIc imId a
  · obtain ⟨imId, a, rfl⟩ := he
    have hcrt := tracks_createIc h imId a
    have hrep :
        Does _ _ (sendXimReply ⟨l.xim.createIc imId a, []⟩ imId (.createIcReply (imId, l.xim.nextIcId))) True :=
      does_reply rfl hcrt imId
    refine ⟨tracks_of_does hrep fun ic => rfl, fun hold => iff_of_true ?_ trivial⟩
    refine hrep.2.mpr ⟨fun ic => ?_, trivial⟩
    rw [logged_nothing_sent]
    split
    · exact wellFormed_nil
    · exact hold ic
  · have hdoes : Does l.log ⟨l.xim, []⟩ (handle keysymToString ⟨l.xim, []⟩ e) (AsksSession l.xim e) :=
      does_handle h fun imId a heq => he ⟨imId, a, heq⟩
    have hlog : ∀ ic, (note keysymToString l e).log ic = logged l.log (handle keysymToString ⟨l.xim, []⟩ e) ic := by
      intro ic
      have hnone : created l.xim e = none := by
        cases e with
        | createIc imId a => exact absurd ⟨imId, a, rfl⟩ he
        | _ => rfl
      simp [note, hnone, logged]
    refine ⟨tracks_of_does hdoes hlog, fun hold => ?_⟩
    simp only [hlog, hdoes.2, logged_nothing_sent]
    exact and_iff_right hold

theorem sent_sendXimReply {s : ClientState} {ic : Ic} {c : XimInputContext} (h : s.xim.Reaches)
    (hc : s.xim.context ic = some c) (msg : Message) : (sendXimReply s ic.1 msg).sent = s.sent ++ [msg] := by
  rw [sendXimReply, if_neg (h ic c hc)]

theorem mem_recipients_composition (h : x.Reaches) (order : List (UInt16 × List UInt16)) (phase : Phase)
    (text : String) (met : Ic) :
    met ∈ (handleCompositionEvent ⟨x, []⟩ order phase text).sent.map Message.recipient ↔
      phase ≠ .unknown ∧ findFocusedIc x order = some met := by
  rw [handleCompositionEvent]
  cases hfnd : findFocusedIc x order with
  | none => simp
  | some ic =>
    obtain ⟨c, hc⟩ := exists_context_of_findFocused (fun ic h => by cases h) hfnd
    have hsent : ∀ msg, (sendXimReply ⟨x, []⟩ ic.1 msg).sent = [msg] := sent_sendXimReply h hc
    cases phase with
    | start => simp [sendXimPreeditStart, hsent, Message.recipient, eq_comm]
    | update => simp [sendXimPreeditDraw, hsent, Message.recipient, eq_comm]
    | finish =>
      by_cases hemp : text.isEmpty = true
      · simp [hemp, sendXimPreeditDone, hsent, Message.recipient, eq_comm]
      · have hxim : (sendXimCommit ⟨x, []⟩ ic text).xim = x := xim_sendXimReply _ _ _
        have hcommit : (sendXimCommit ⟨x, []⟩ ic text).sent = [.commit ic text] := hsent _
        have hdone : ∀ msg, (sendXimReply (sendXimCommit ⟨x, []⟩ ic text) ic.1 msg).sent = [.commit ic text, msg] :=
          fun msg => by rw [sent_sendXimReply (hxim.symm ▸ h) (hxim.symm ▸ hc), hcommit]; rfl
        simp [hemp, sendXimPreeditDone, hdone, Message.recipient, eq_comm]
    | unknown => simp

def Same (ics : List Ic) : Prop := ∀ ic ∈ ics, ∀ ic' ∈ ics, ic = ic'

theorem same_append {ics ics' : List Ic} {found : Option Ic} (h : Same ics)
    (hfnd : ∀ ic, ic ∈ ics' ↔ found = some ic) :
    Same (ics ++ ics') ↔ ∀ ic, found = some ic → ∀ met ∈ ics, met = ic := by
  constructor
  · intro hsame ic hic met hmet
    exact hsame met (mem_append_left ics' hmet) ic (mem_append_right ics ((hfnd ic).mpr hic))
  · intro hall ic hic ic' hic'
    rcases mem_append.mp hic with hic | hic <;> rcases mem_append.mp hic' with hic' | hic'
    · exact h ic hic ic' hic'
    · exact hall ic' ((hfnd ic').mp hic') ic hic
    · exact (hall ic ((hfnd ic).mp hic) ic' hic').symm
    · exact some.inj (((hfnd ic).mp hic).symm.trans ((hfnd ic').mp hic'))

theorem compositions_note (h : l.xim.Reaches) (hold : ∀ f, Same (l.recipients f)) (e : Event F) :
    (∀ f, Same ((note keysymToString l e).recipients f)) ↔ AsksRecipients l e := by
  cases e with
  | composition f phase text order =>
    have hmet := mem_recipients_composition h order phase text
    have hupdate : ∀ ics, (∀ f', Same (update l.recipients f ics f')) ↔ Same ics := fun ics => by
      rw [forall_update_iff l.recipients fun _ ics => Same ics]
      exact and_iff_left fun f' _ => hold f'
    by_cases hst : phase = .start
    · subst hst
      refine iff_of_true ((hupdate _).mpr fun ic hic ic' hic' => ?_) fun ic _ hph => ?_
      · exact some.inj (((hmet ic).mp hic).2.symm.trans ((hmet ic').mp hic').2)
      · rcases hph with hph | hph <;> cases hph
    · have hrecipients : (note keysymToString l (.composition f phase text order)).recipients =
          if l.running f then update l.recipients f (l.recipients f ++
            (handleCompositionEvent ⟨l.xim, []⟩ order phase text).sent.map Message.recipient) else l.recipients := by
        cases phase with
        | start => exact absurd rfl hst
        | _ => rfl
      rw [hrecipients, AsksRecipients]
      by_cases hrun : l.running f = true
      · rw [if_pos hrun, hupdate]
        by_cases hunk : phase = .unknown
        · subst hunk
          have hnone := fun ic =>
            (hmet ic).trans (iff_of_false (fun h => h.1 rfl) (some_ne_none ic ∘ Eq.symm))
          refine iff_of_true ((same_append (hold f) hnone).mpr nofun) fun ic _ hph => ?_
          rcases hph with hph | hph <;> cases hph
        · rw [same_append (hold f) fun ic => (hmet ic).trans (and_iff_right hunk)]
          refine forall_congr' fun ic => forall_congr' fun _ => ?_
          have hph : phase = .update ∨ phase = .finish := by cases phase <;> simp_all
          simp [hph, hrun]
      · rw [if_neg hrun]
        exact iff_of_true hold fun _ _ _ h => absurd h hrun
  | _ => exact iff_of_true hold trivial

/-- Along every run of a new server the sessions are well formed and the compositions are for
one context each, exactly if every composition event finds a context that it can serve. -/
theorem run_proper_iff_served (es : List (Event F)) :
    (∀ bs, bs <+: es → Proper (run keysymToString bs)) ↔
      ∀ bs e, bs ++ [e] <+: es → Served (run keysymToString bs) e := by
  refine foldl_stays_iff (I := fun l => Tracks l.log ⟨l.xim, []⟩) (fun l e htrks _ => (sessions_note htrks e).1)
    (fun l e htrks hproper => ?_) ?_ ?_ es
  · have hsessions : (∀ ic, WellFormed ((note keysymToString l e).log ic)) ↔ _ :=
      (sessions_note htrks e).2 hproper.sessions
    have hcompositions : (∀ f, Same ((note keysymToString l e).recipients f)) ↔ _ :=
      compositions_note htrks.reaches hproper.compositions e
    rw [served_iff, ← hsessions, ← hcompositions]
    exact ⟨fun h => ⟨h.sessions, h.compositions⟩, fun h => ⟨h.1, h.2⟩⟩
  · exact ⟨fun ic c hc => by simp [XimServer.context, newServer] at hc,
      fun ic c hc => by simp [XimServer.context, newServer] at hc⟩
  · exact ⟨fun ic => wellFormed_nil, fun f ic hic => absurd hic not_mem_nil⟩

def twoFrontends : List (Event Bool) :=
  [.openIm, .createIc 1 ⟨0x408, 7, 0, 0, 0⟩, .setIcValues (1, 1) ⟨0x402, 0, 0, 0, 0⟩,
    .composition false .start "" [(1, [1])], .composition true .start "" [(1, [1])]]

theorem turns_twoFrontends : turns ((run keysymToString twoFrontends).log (1, 1)) = [true, true] := by
  simp [turns, run, twoFrontends, note, handle, handleXimOpen, handleXimCreateIc, XimServer.createIc, newServer,
    created, XimServer.createdIc, sendXimReply, handleCompositionEvent, findFocusedIc, findFocused, XimServer.context,
    newContext, sendXimPreeditStart, XimServer.setPreeditActive, XimServer.modifyContext, XimServer.modifyContexts,
    handleXimSetIcValues, XimInputContext.setValues, XimInputContext.supportsPreedit, XIM_PREEDIT_CALLBACKS, XIM_PREEDIT_POSITION, preeditsFor, Message.preedit,
    Preedit.turn]

theorem started_twice : ¬Proper (run (fun _ => "") twoFrontends) := by
  intro h
  have hturns := (h.sessions (1, 1)).1
  rw [turns_twoFrontends] at hturns
  exact absurd hturns.2.1 nofun

end Runs

end X11Web.XimPreedit
