import X11Web.Interceptions

namespace X11Web.RecordSteps

open Brackets EventWire Interceptions RecordRanges List
open RecordTraffic Recording SyncWindows Windows

variable {P : Parsers} {s s' : Server} {c o : ClientId} {X : XId} {p : Nat} {e : Element} {m : Sent}
  {payload : Bytes} {orders : Orders} {cl cl' : Client} {l : List Sent}

/-- A client moves on with no data reply, and with `l` behind all that it had written. -/
structure Extends (cl cl' : Client) (l : List Sent) : Prop where
  pending : ∀ m ∈ cl'.pending, m ∈ cl.pending ∨ m.tag = .other
  response : ∀ m ∈ cl'.phase.response, m ∈ cl.phase.response ∨ ∀ X p, ¬IsData X p m
  written : cl'.written = cl.written ++ l
  stream : ∃ k, (∀ m ∈ k, ∀ X p, ¬IsData X p m) ∧ cl'.stream = cl.stream ++ k
  inbox : ∃ k, (∀ m ∈ k, m.tag = .other) ∧ cl'.inbox = cl.inbox ++ k

theorem Extends.refl (cl : Client) : Extends cl cl [] where
  pending _ hm := .inl hm
  response _ hm := .inl hm
  written := (append_nil _).symm
  stream := ⟨[], by simp, (append_nil _).symm⟩
  inbox := ⟨[], by simp, (append_nil _).symm⟩

theorem tagBefore_mono {n n' : Nat} (h : n ≤ n') {t : Tag} (ht : TagBefore n t) : TagBefore n' t := by
  cases t with
  | other => trivial
  | start => exact ht.trans_le h
  | data => exact ht.trans_le h
  | finish => exact ht.trans_le h

theorem delivered_extend (h : Delivered s) {l : ClientId → List Sent}
    (hcls : ∀ c, Extends (s.clients c) (s'.clients c) (l c)) (hlog : s'.log = s.log)
    (hclock : s.clock ≤ s'.clock)
    (hl : ∀ c, ∀ m ∈ l c, TagBefore s'.clock m.tag ∧ ∀ X p, ¬IsData X p m)
    (hinbox : ∀ c X p, Running s X p c → (∃ m ∈ (s.clients c).inbox, IsData X p m) → Running s' X p c)
    (hstarted : ∀ X p c, Running s' X p c →
      (∃ m ∈ (s.clients c).written ++ l c, IsStart X p m) ∧
        ∀ m ∈ (s.clients c).written ++ l c, ¬IsFinish X p m)
    (hfinished : ∀ X p c, Running s X p c → (∃ m ∈ (s.clients c).written, IsData X p m) →
      Running s' X p c ∨ ∃ m ∈ l c, IsFinish X p m) : Delivered s' where
  pending_other c m hm := by
    rcases (hcls c).pending m hm with hm | hoth
    · exact h.pending_other c m hm
    · exact hoth
  response_clean c m hm := by
    rcases (hcls c).response m hm with hm | hclean
    · exact h.response_clean c m hm
    · exact hclean
  inbox_running c m hm := by
    obtain ⟨k, hk, heq⟩ := (hcls c).inbox
    rw [heq] at hm
    rcases mem_append.mp hm with hm | hm
    · rcases h.inbox_running c m hm with hoth | ⟨X, p, e, htag, hrun⟩
      · exact .inl hoth
      · exact .inr ⟨X, p, e, htag, hinbox c X p hrun ⟨m, hm, e, htag⟩⟩
    · exact .inl (hk m hm)
  written_before c m hm := by
    rw [(hcls c).written] at hm
    rcases mem_append.mp hm with hm | hm
    · exact tagBefore_mono hclock (h.written_before c m hm)
    · exact (hl c m hm).1
  started X p c hrun := by
    rw [(hcls c).written]
    exact hstarted X p c hrun
  bracketed c X p := by
    rw [(hcls c).written]
    exact (h.bracketed c X p).append fun m hm => (hl c m hm).2 X p
  finished X p c := by
    rw [(hcls c).written]
    rintro ⟨m, hm, hdata⟩
    rcases mem_append.mp hm with hm | hm
    · rcases h.finished X p c ⟨m, hm, hdata⟩ with hrun | ⟨x, hx, hfin⟩
      · rcases hfinished X p c hrun ⟨m, hm, hdata⟩ with hrun | ⟨x, hx, hfin⟩
        · exact .inl hrun
        · exact .inr ⟨x, mem_append_right _ hx, hfin⟩
      · exact .inr ⟨x, mem_append_left _ hx, hfin⟩
    · exact absurd hdata ((hl c m hm).2 X p)
  once o X p := by
    obtain ⟨k, hk, hstrm⟩ := (hcls o).stream
    obtain ⟨k', hk', hinbox⟩ := (hcls o).inbox
    have hnil := dataOf_eq_nil hk X p
    have hnil' := dataOf_eq_nil (fun m hm => not_isData_of_other (hk' m hm)) X p
    rw [hstrm, hinbox, hlog, ← h.once]
    simp only [dataOf_append, hnil, hnil', append_nil]
  carried o m hm X p e htag := by
    obtain ⟨k, hk, hstrm⟩ := (hcls o).stream
    obtain ⟨k', hk', hinbox⟩ := (hcls o).inbox
    rw [hstrm, hinbox, mem_append, mem_append, mem_append] at hm
    rcases hm with (hm | hm) | (hm | hm)
    · exact h.carried o m (mem_append_left _ hm) X p e htag
    · exact absurd ⟨e, htag⟩ (hk m hm X p)
    · exact h.carried o m (mem_append_right _ hm) X p e htag
    · exact absurd ⟨e, htag⟩ (not_isData_of_other (hk' m hm) X p)

theorem log_ne_nil (h : Delivered s)
    (hm : (∃ m ∈ (s.clients o).written, IsData X p m) ∨ ∃ m ∈ (s.clients o).inbox, IsData X p m) :
    s.log o X p ≠ [] := by
  rw [← h.once, Ne, dataOf_eq_nil_iff]
  intro hnone
  rcases hm with ⟨m, hm, hdata⟩ | ⟨m, hm, hdata⟩
  · rcases mem_append.mp hm with hm | hm
    · exact hnone m (mem_append_left _ hm) hdata
    · exact h.response_clean o m hm X p hdata
  · exact hnone m (mem_append_right _ hm) hdata

theorem delivered_quiet (h : Delivered s) {l : ClientId → List Sent}
    (hcls : ∀ c, Extends (s.clients c) (s'.clients c) (l c)) (hlog : s'.log = s.log)
    (hclock : s.clock ≤ s'.clock) (hl : ∀ c, ∀ m ∈ l c, m.tag = .other)
    (hrun : ∀ X p o, Running s' X p o → Running s X p o)
    (hlost : ∀ X p o, Running s X p o → Running s' X p o ∨ s.log o X p = []) : Delivered s' := by
  have hkept : ∀ {c X p}, Running s X p c → s.log c X p ≠ [] → Running s' X p c := by
    intro c X p hrunning hne
    exact (hlost X p c hrunning).resolve_right hne
  refine delivered_extend h hcls hlog hclock ?_ ?_ ?_ ?_
  · intro c m hm
    rw [hl c m hm]
    exact ⟨trivial, not_isData_of_other (hl c m hm)⟩
  · exact fun c X p hrunning hm => hkept hrunning (log_ne_nil h (.inr hm))
  · intro X p c hrunning
    obtain ⟨⟨x, hx, hst⟩, hfin⟩ := h.started X p c (hrun X p c hrunning)
    refine ⟨⟨x, mem_append_left _ hx, hst⟩, fun m hm hmf => ?_⟩
    rcases mem_append.mp hm with hm | hm
    · exact hfin m hm hmf
    · rw [IsFinish, hl c m hm] at hmf
      cases hmf
  · exact fun X p c hrunning hm => .inl (hkept hrunning (log_ne_nil h (.inl hm)))

theorem delivered_start (h : Delivered s) {l : ClientId → List Sent}
    (hcls : ∀ o, Extends (s.clients o) (s'.clients o) (l o)) (hlog : s'.log = s.log)
    (hclock : s.clock ≤ s'.clock) (hl : ∀ o, ∀ m ∈ l o, IsStart X p m) (hp : p < s'.clock)
    (hkeep : ∀ Y q o, Running s Y q o → Running s' Y q o)
    (hrun : ∀ Y q o, Running s' Y q o → Running s Y q o ∨
      (Y = X ∧ q = p ∧ p = s.clock) ∧ ∃ m ∈ l o, IsStart X p m) : Delivered s' := by
  refine delivered_extend h hcls hlog hclock ?_ ?_ ?_ ?_
  · intro o m hm
    have hst : m.tag = .start X p := hl o m hm
    rw [hst]
    refine ⟨hp, ?_⟩
    rintro Y q ⟨e, he⟩
    rw [hst] at he
    cases he
  · exact fun o Y q hrunning _ => hkeep Y q o hrunning
  · intro Y q o hrunning
    have hnew : ∀ m ∈ l o, ¬IsFinish Y q m := by
      intro m hm hmf
      have hst : m.tag = .start X p := hl o m hm
      rw [IsFinish, hst] at hmf
      cases hmf
    rcases hrun Y q o hrunning with hold | ⟨⟨rfl, rfl, hfresh⟩, m, hm, hst⟩
    · obtain ⟨⟨x, hx, hst⟩, hfin⟩ := h.started Y q o hold
      refine ⟨⟨x, mem_append_left _ hx, hst⟩, fun m hm => ?_⟩
      rcases mem_append.mp hm with hm | hm
      · exact hfin m hm
      · exact hnew m hm
    · refine ⟨⟨m, mem_append_right _ hm, hst⟩, fun x hx hxf => ?_⟩
      rcases mem_append.mp hx with hx | hx
      · have hbef := h.written_before o x hx
        rw [show x.tag = .finish Y q from hxf, hfresh] at hbef
        exact Nat.lt_irrefl _ hbef
      · exact hnew x hx hxf
  · exact fun Y q o hrunning _ => .inl (hkeep Y q o hrunning)

theorem delivered_finish (h : Delivered s) {l : ClientId → List Sent}
    (hcls : ∀ o, Extends (s.clients o) (s'.clients o) (l o)) (hlog : s'.log = s.log)
    (hclock : s.clock ≤ s'.clock) (hl : ∀ o, ∀ m ∈ l o, IsFinish X p m) (hp : p < s'.clock)
    (hrun : ∀ Y q o, Running s' Y q o → Running s Y q o ∧ Y ≠ X)
    (hkeep : ∀ Y q o, Running s Y q o → Y ≠ X → Running s' Y q o)
    (hX : ∀ q o, Running s X q o → q = p ∧ ∃ m ∈ l o, IsFinish X p m)
    (hinbox : ∀ q o, Running s X q o → ∀ m ∈ (s.clients o).inbox, ¬IsData X q m) : Delivered s' := by
  refine delivered_extend h hcls hlog hclock ?_ ?_ ?_ ?_
  · intro o m hm
    have hfin : m.tag = .finish X p := hl o m hm
    rw [hfin]
    refine ⟨hp, ?_⟩
    rintro Y q ⟨e, he⟩
    rw [hfin] at he
    cases he
  · intro o Y q hrunning hdata
    refine hkeep Y q o hrunning ?_
    rintro rfl
    obtain ⟨m, hm, hdata⟩ := hdata
    exact hinbox q o hrunning m hm hdata
  · intro Y q o hrunning
    obtain ⟨hold, hY⟩ := hrun Y q o hrunning
    obtain ⟨⟨x, hx, hst⟩, hfin⟩ := h.started Y q o hold
    refine ⟨⟨x, mem_append_left _ hx, hst⟩, fun m hm hmf => ?_⟩
    rcases mem_append.mp hm with hm | hm
    · exact hfin m hm hmf
    · have hm : m.tag = .finish X p := hl o m hm
      rw [IsFinish, hm] at hmf
      exact hY (Tag.finish.inj hmf).1.symm
  · intro Y q o hrunning _
    by_cases hY : Y = X
    · subst hY
      obtain ⟨rfl, hm⟩ := hX q o hrunning
      exact .inr hm
    · exact .inl (hkeep Y q o hrunning hY)

/-! ### Steps of one client -/

theorem clients_setClient (s : Server) (c o : ClientId) (f : Client → Client) :
    (s.setClient c f).clients o = if o = c then f (s.clients c) else s.clients o :=
  Function.update_apply _ _ _ _

variable {f : Client → Client}

theorem forall_setClient {P : ClientId → Client → Prop} (h : ∀ o, P o (s.clients o))
    (hc : P c (f (s.clients c))) (o : ClientId) : P o ((s.setClient c f).clients o) := by
  rw [clients_setClient]
  split
  · next ho => exact ho ▸ hc
  · exact h o

theorem setClient_setClient (s : Server) (c : ClientId) (f g : Client → Client) :
    (s.setClient c f).setClient c g = s.setClient c fun cl => g (f cl) := by
  simp only [Server.setClient, Function.update_self, Function.update_idem]

theorem tracked_setClient (h : Tracked s) (hf : ∀ cl, (f cl).contexts = cl.contexts) :
    Tracked (s.setClient c f) where
  shared := h.shared
  own o X := by
    rw [clients_setClient]
    split
    · next ho =>
      subst ho
      rw [hf]
      exact h.own o X
    · exact h.own o X
  clock_pos := h.clock_pos
  period_lt := h.period_lt
  period_pos := h.period_pos

def only (c : ClientId) (l : List Sent) (o : ClientId) : List Sent := if o = c then l else []

theorem mem_only {l : List Sent} (hm : m ∈ only c l o) : o = c ∧ m ∈ l := by
  rw [only] at hm
  split at hm
  · next ho => exact ⟨ho, hm⟩
  · cases hm

theorem mem_only_self {l : List Sent} (hm : m ∈ l) : m ∈ only c l c := by
  rwa [only, if_pos rfl]

theorem extends_only (h : Extends (s.clients c) (f (s.clients c)) l) (o : ClientId) :
    Extends (s.clients o) ((s.setClient c f).clients o) (only c l o) := by
  rw [clients_setClient, only]
  split
  · next ho =>
    subst ho
    exact h
  · exact Extends.refl _

theorem delivered_setClient (h : Delivered s)
    (hf : Extends (s.clients c) (f (s.clients c)) l) (hl : ∀ m ∈ l, m.tag = .other) :
    Delivered (s.setClient c f) :=
  delivered_quiet h (extends_only hf) rfl le_rfl (fun _ m hm => hl m (mem_only hm).2)
    (fun _ _ _ hrun => hrun) fun _ _ _ hrun => .inl hrun

theorem written_of_idle (h : cl.phase = .idle) : cl.written = cl.stream := by
  rw [Client.written, h]
  exact append_nil _

theorem extends_stream (h : cl.phase = .idle) (hl : ∀ m ∈ l, m.tag = .other) :
    Extends cl { cl with stream := cl.stream ++ l } l where
  pending _ hm := .inl hm
  response _ hm := .inl hm
  written := by
    have hnew : Client.written { cl with stream := cl.stream ++ l } = cl.stream ++ l := written_of_idle h
    rw [hnew, written_of_idle h]
  stream := ⟨l, fun m hm => not_isData_of_other (hl m hm), rfl⟩
  inbox := ⟨[], by simp, (append_nil _).symm⟩

theorem delivered_write (h : Delivered s) (hph : (s.clients c).phase = .idle) (hl : ∀ m ∈ l, m.tag = .other) :
    Delivered (s.write c l) :=
  delivered_setClient h (extends_stream hph hl) hl

theorem tracked_write (h : Tracked s) : Tracked (s.write c l) :=
  tracked_setClient h fun _ => rfl

theorem tag_untagged {events : List Bytes} (hm : m ∈ events.map untagged) : m.tag = .other := by
  obtain ⟨event, _, rfl⟩ := mem_map.mp hm
  rfl

theorem recorded_congr (s s' : Server) (hreg : s'.registry = s.registry)
    (hbase : (s'.clients c).resourceBase = (s.clients c).resourceBase) :
    Recorded s' c e ↔ Recorded s c e := by
  rw [Recorded, Recorded, hreg, hbase]

theorem unheard_congr (s s' : Server) (hreg : s'.registry = s.registry)
    (hbase : (s'.clients c).resourceBase = (s.clients c).resourceBase) :
    Unheard s' c e ↔ Unheard s c e := by
  rw [Unheard, Unheard, hreg, hbase]

theorem tracked_count (h : Tracked s) : Tracked (s.count c) :=
  tracked_setClient (f := fun cl => { cl with sequence := cl.sequence + 1 }) h fun _ => rfl

theorem tracked_setPhase (h : Tracked s) (phase : Phase) : Tracked (s.setPhase c phase) :=
  tracked_setClient (f := fun cl => { cl with phase := phase }) h fun _ => rfl

theorem delivered_count (h : Delivered s) : Delivered (s.count c) :=
  delivered_setClient (l := []) h ⟨fun _ hm => .inl hm, fun _ hm => .inl hm, (append_nil _).symm,
    ⟨[], by simp, (append_nil _).symm⟩, ⟨[], by simp, (append_nil _).symm⟩⟩ (by simp)

theorem delivered_processing (h : Delivered s) (hph : (s.clients c).phase = .idle) (data : Bytes)
    (recorded deferred : Bool) : Delivered (s.setPhase c (.processing data recorded deferred)) := by
  refine delivered_setClient (l := []) h ⟨fun _ hm => .inl hm, by simp [Phase.response], ?_,
    ⟨[], by simp, (append_nil _).symm⟩, ⟨[], by simp, (append_nil _).symm⟩⟩ (by simp)
  rw [written_of_idle hph, append_nil]
  exact append_nil _

theorem resourceBase_count (s : Server) (c o : ClientId) :
    ((s.count c).clients o).resourceBase = (s.clients o).resourceBase := by
  rw [Server.count, clients_setClient]
  split
  · next ho => rw [ho]
  · rfl

theorem unheard_count (h : Unheard s c e) : Unheard (s.count c) c e :=
  (unheard_congr s (s.count c) rfl (resourceBase_count s c c)).mpr h

theorem phase_count (s : Server) (c o : ClientId) : ((s.count c).clients o).phase = (s.clients o).phase := by
  rw [Server.count, clients_setClient]
  split
  · next ho => rw [ho]
  · rfl

theorem delivered_takeRequest (h : Delivered s) (ht : Tracked s) (hph : (s.clients c).phase = .idle)
    {data : Bytes} (hdata : 4 ≤ data.length) (deferred : Bool) (hvalid : Enumerates orders.shared s.shared)
    (hrec : Recorded s c (.request data)) :
    Delivered (s.takeRequest c data deferred orders) ∧ Tracked (s.takeRequest c data deferred orders) := by
  have hrec : Recorded (s.count c) c (.request data) :=
    (recorded_congr s (s.count c) rfl (resourceBase_count s c c)).mpr hrec
  have ht : Tracked (s.count c) := tracked_count ht
  have hrep : ((s.count c).recordInterceptRequest orders c data).hear c (.request data) =
      report (s.count c) orders c (.request data) data := by
    rw [Server.recordInterceptRequest, if_neg (by rintro rfl; simp at hdata), intercept_eq ht hrec]
    rfl
  rw [Server.takeRequest, hrep]
  refine ⟨delivered_processing ?_ ?_ _ _ _, tracked_setPhase (tracked_report ht) _⟩
  · exact delivered_report (delivered_count h) ht hvalid hrec prefix_rfl
  · exact (phase_count s c c).trans hph

theorem delivered_takeBigRequest (h : Delivered s) (ht : Tracked s) (hph : (s.clients c).phase = .idle)
    (raw : Bytes) (deferred : Bool) (hunheard : Unheard s c (.request raw)) :
    Delivered (s.takeBigRequest c raw deferred) ∧ Tracked (s.takeBigRequest c raw deferred) := by
  rw [Server.takeBigRequest, hear_of_unheard (unheard_count hunheard)]
  refine ⟨delivered_processing (delivered_count h) ((phase_count s c c).trans hph) _ _ _, ?_⟩
  exact tracked_setPhase (tracked_count ht) _

theorem delivered_reject (h : Delivered s) (ht : Tracked s) (hph : (s.clients c).phase = .idle)
    (header : Bytes) (hreq : Unheard s c (.request header))
    (herr : Unheard s c (.error (s.lengthErrorFor c header))) :
    Delivered (s.reject c header) ∧ Tracked (s.reject c header) := by
  have hheard : (s.count c).hearAll c [.request header, .error (s.lengthErrorFor c header)] = s.count c := by
    apply hearAll_of_unheard
    intro e he
    rcases mem_pair.mp he with rfl | rfl
    · exact unheard_count hreq
    · exact unheard_count herr
  rw [Server.reject, hheard]
  refine ⟨delivered_write (delivered_count h) ((phase_count s c c).trans hph) ?_,
    tracked_write (tracked_count ht)⟩
  intro m hm
  rw [mem_singleton.mp hm]
  rfl

/-! ### The response -/

theorem clients_hearAll (s : Server) (c : ClientId) (es : List Element) : (s.hearAll c es).clients = s.clients := by
  induction es generalizing s with
  | nil => rfl
  | cons e es ih => exact ih (s.hear c e)

variable {response : List Sent} {recorded : Bool}

theorem delivered_written (h : Delivered s) (ht : Tracked s) {data : Bytes}
    (hph : (s.clients c).phase = .responding data recorded response) :
    Delivered ((s.write c response).setPhase c .idle) ∧ Tracked ((s.write c response).setPhase c .idle) := by
  have hresp : (s.clients c).phase.response = response := by rw [hph]; rfl
  refine ⟨?_, tracked_setPhase (tracked_write ht) _⟩
  rw [Server.write, Server.setPhase, setClient_setClient]
  refine delivered_setClient (l := []) h ⟨fun _ hm => .inl hm, by simp [Phase.response], ?_, ⟨response, ?_, rfl⟩,
    ⟨[], by simp, (append_nil _).symm⟩⟩ (by simp)
  · rw [append_nil, Client.written, Client.written, hresp]
    exact append_nil _
  · intro m hm
    rw [← hresp] at hm
    exact h.response_clean c m hm

/-- What is asked of a response: its first packet is recorded rightly if it is a reply
or an error of a recorded request, and the others are not to be recorded. -/
def Answered (s : Server) (c : ClientId) (major minor : UInt8) (recorded : Bool) : List Sent → Prop
  | [] => True
  | m :: rest =>
    (∀ e, packetElement major minor m.bytes = some e →
      if recorded && (responseElement major minor m.bytes).isSome then Recorded s c e else Unheard s c e) ∧
    ∀ m ∈ rest, ∀ e, packetElement major minor m.bytes = some e → Unheard s c e

instance (s : Server) (c : ClientId) (major minor : UInt8) (recorded : Bool) :
    (response : List Sent) → Decidable (Answered s c major minor recorded response)
  | [] => .isTrue trivial
  | m :: rest =>
    @instDecidableAnd _ _
      (decidableForallSome (packetElement major minor m.bytes) fun e =>
        if recorded && (responseElement major minor m.bytes).isSome then Recorded s c e else Unheard s c e)
      (List.decidableBAll (fun m => ∀ e, packetElement major minor m.bytes = some e → Unheard s c e) rest)

theorem hearAll_cons (s : Server) (c : ClientId) (e : Element) (es : List Element) :
    s.hearAll c (e :: es) = (s.hear c e).hearAll c es := rfl

variable {major minor : UInt8}

theorem unheard_of_rest {rest : List Sent}
    (h : ∀ m ∈ rest, ∀ e, packetElement major minor m.bytes = some e → Unheard s c e) :
    ∀ e ∈ rest.filterMap (fun m => packetElement major minor m.bytes), Unheard s c e := by
  intro e he
  obtain ⟨m, hm, he⟩ := mem_filterMap.mp he
  exact h m hm e he

theorem bytes_responseElement {response : Bytes}
    (h : responseElement major minor response = some e) : e.bytes = response := by
  rw [responseElement] at h
  split at h
  · rw [← Option.some.inj h]
    rfl
  · split at h
    · rw [← Option.some.inj h]
      rfl
    · cases h

theorem recordInterceptResponse_hearAll (orders : Orders) (ht : Tracked s)
    (hansd : Answered s c major minor recorded response) :
    let s' := (if recorded then s.recordInterceptResponse orders c major minor response else s).hearAll c
      (response.filterMap fun m => packetElement major minor m.bytes)
    s' = s ∨ ∃ e, Recorded s c e ∧ e.bytes <+: joined response ∧ s' = report s orders c e (joined response) := by
  cases response with
  | nil =>
    refine .inl ?_
    cases recorded <;> rfl
  | cons m rest =>
    obtain ⟨hlead, hrest⟩ := hansd
    dsimp only
    rw [filterMap_cons]
    by_cases hrepd : (recorded && (responseElement major minor m.bytes).isSome) = true
    · obtain ⟨rfl, hsome⟩ := Bool.and_eq_true_iff.mp hrepd
      obtain ⟨e, he⟩ := Option.isSome_iff_exists.mp hsome
      have hpacket : packetElement major minor m.bytes = some e := by rw [packetElement, he]; rfl
      have hrec := hlead e hpacket
      rw [if_pos hrepd] at hrec
      refine .inr ⟨e, hrec, ?_, ?_⟩
      · rw [bytes_responseElement he]
        exact prefix_append _ _
      · have hheard : (report s orders c e (joined (m :: rest))).hearAll c
            (rest.filterMap fun m => packetElement major minor m.bytes) =
              report s orders c e (joined (m :: rest)) :=
          hearAll_of_unheard (unheard_of_rest hrest)
        rw [if_pos rfl, Server.recordInterceptResponse, leadElement, List.head?_cons, Option.bind_some, he, hpacket]
        dsimp only
        rw [hearAll_cons, intercept_eq ht hrec]
        exact hheard
    · refine .inl ?_
      have hs : (if recorded then s.recordInterceptResponse orders c major minor (m :: rest) else s) = s := by
        cases recorded with
        | false => rfl
        | true =>
          have hnone : responseElement major minor m.bytes = none := by simpa using hrepd
          rw [if_pos rfl, Server.recordInterceptResponse, leadElement, List.head?_cons, Option.bind_some, hnone]
      rw [hs]
      cases he : packetElement major minor m.bytes with
      | none => exact hearAll_of_unheard (unheard_of_rest hrest)
      | some e =>
        have hunheard := hlead e he
        rw [if_neg hrepd] at hunheard
        dsimp only
        rw [hearAll_cons, hear_of_unheard hunheard]
        exact hearAll_of_unheard (unheard_of_rest hrest)

theorem delivered_respond (h : Delivered s) (ht : Tracked s) {data : Bytes}
    (hph : (s.clients c).phase = .responding data recorded response)
    (hvalid : Enumerates orders.shared s.shared)
    (hansd : Answered s c (data.getD 0 0) (data.getD 1 0) recorded response) :
    Delivered (s.respond c data recorded response orders) ∧
      Tracked (s.respond c data recorded response orders) := by
  rw [Server.respond]
  rcases recordInterceptResponse_hearAll orders ht hansd with heq | ⟨e, hrec, hpay, heq⟩
  · rw [heq]
    exact delivered_written h ht hph
  · rw [heq]
    exact delivered_written (delivered_report h ht hvalid hrec hpay) (tracked_report ht) hph

end X11Web.RecordSteps
