import X11Web.RecordSteps

namespace X11Web.RecordEvents

open Brackets EventWire Interceptions RecordRanges RecordSteps List
open RecordTraffic Recording SyncWindows Windows

variable {s : Server} {c o : ClientId} {X : XId} {p : Nat} {e : Element} {m : Sent} {orders : Orders}
  {cl : Client} {l rest : List Sent}

theorem patchSequence_carries {bytes : Bytes} (h : Carries bytes e) (msb : Bool) (seq : UInt16) :
    Carries (patchSequence msb seq bytes) e := by
  rw [patchSequence]
  split
  · next hlen =>
    have hmiddle : (Framing.toClientBytes msb (Framing.toLeBytes16 seq.toNat)).length = 2 := by
      cases msb <;> rfl
    have htake : (bytes.take 2).length = 2 := by rw [length_take]; omega
    constructor
    · rw [append_assoc, take_left' htake]
      exact h.1
    · have hdrop : (bytes.take 2 ++ Framing.toClientBytes msb (Framing.toLeBytes16 seq.toNat) ++
          bytes.drop 4).drop 32 = bytes.drop 32 := by
        rw [drop_append, length_append, htake, hmiddle, drop_drop,
          drop_eq_nil_of_le (by rw [length_append, htake, hmiddle]; decide)]
        rfl
      rw [hdrop]
      exact h.2
  · exact h

theorem phase_observe (s : Server) (c o : ClientId) (events : List Sent) (orders : Orders) :
    ((s.observe c events orders).1.clients o).phase = (s.clients o).phase := by
  change (((s.send _).hearAll c _).clients o).phase = _
  rw [clients_hearAll]
  rfl

theorem delivered_observe_write {events : List Sent} (h : Delivered s) (ht : Tracked s)
    (hph : (s.clients c).phase = .idle) (hvalid : Enumerates orders.shared s.shared)
    (hobs : ∀ m ∈ events, Observed s c m.bytes) (hl : ∀ m ∈ l, m.tag = .other) :
    Delivered ((s.observe c events orders).1.write c l) ∧ Tracked ((s.observe c events orders).1.write c l) := by
  obtain ⟨h, ht⟩ := delivered_observe h ht hvalid hobs
  exact ⟨delivered_write h ((phase_observe s c c events orders).trans hph) hl, tracked_write ht⟩

theorem tag_pendingEvents (h : Delivered s) {limited : Bool} (hm : m ∈ s.pendingEvents c limited) :
    m.tag = .other := by
  obtain ⟨m, hpend, rfl⟩ := mem_map.mp hm
  refine h.pending_other c m ?_
  split at hpend
  · exact mem_of_mem_drop hpend
  · exact hpend

theorem observed_congr (s s' : Server) {event : Bytes} (hreg : s'.registry = s.registry)
    (hbase : (s'.clients c).resourceBase = (s.clients c).resourceBase) :
    Observed s' c event ↔ Observed s c event := by
  simp only [Observed, recorded_congr s s' hreg hbase, unheard_congr s s' hreg hbase]

theorem resourceBase_setClient {f : Client → Client} (hf : (f (s.clients c)).resourceBase = (s.clients c).resourceBase) :
    ((s.setClient c f).clients c).resourceBase = (s.clients c).resourceBase := by
  rw [clients_setClient, if_pos rfl, hf]

theorem delivered_flush (h : Delivered s) (ht : Tracked s) (hph : (s.clients c).phase = .idle)
    (limited : Bool) (hvalid : Enumerates orders.shared s.shared)
    (hobs : ∀ m ∈ s.pendingEvents c limited, Observed s c m.bytes) :
    Delivered (s.flush c limited orders) ∧ Tracked (s.flush c limited orders) := by
  let f : Client → Client := fun cl => { cl with pending := [] }
  have hcleared : Delivered (s.setClient c f) :=
    delivered_setClient (l := []) h ⟨by simp [f], fun _ hm => .inl hm, (append_nil _).symm,
      ⟨[], by simp, (append_nil _).symm⟩, ⟨[], by simp, (append_nil _).symm⟩⟩ (by simp)
  have ht : Tracked (s.setClient c f) := tracked_setClient (f := f) ht fun _ => rfl
  have hobs : ∀ m ∈ s.pendingEvents c limited, Observed (s.setClient c f) c m.bytes := by
    intro m hm
    exact (observed_congr s (s.setClient c f) rfl (resourceBase_setClient rfl)).mpr (hobs m hm)
  have hph : ((s.setClient c f).clients c).phase = .idle := by
    rw [clients_setClient, if_pos rfl]
    exact hph
  rw [Server.flush]
  dsimp only
  rw [show (fun cl : Client => { cl with pending := [] }) = f from rfl, observe_snd ht hobs, append_nil]
  exact delivered_observe_write hcleared ht hph hvalid hobs fun m hm => tag_pendingEvents h hm

theorem delivered_single (h : Delivered s) (ht : Tracked s) (hph : (s.clients c).phase = .idle)
    (event : Bytes) (hvalid : Enumerates orders.shared s.shared) (hobs : Observed s c event) :
    Delivered (s.deliver c (untagged event) orders) ∧ Tracked (s.deliver c (untagged event) orders) := by
  have hobs : ∀ m ∈ [untagged event], Observed s c m.bytes := by
    intro m hm
    rw [mem_singleton.mp hm]
    exact hobs
  rw [Server.deliver]
  dsimp only
  rw [observe_snd ht hobs, nil_append]
  refine delivered_observe_write h ht hph hvalid hobs fun m hm => ?_
  rw [mem_singleton.mp hm]
  rfl

theorem delivered_writeDirect (h : Delivered s) (ht : Tracked s) (hph : (s.clients c).phase = .idle)
    {events : List Bytes} (hunheard : ∀ event ∈ events, ∀ e, coreEvent event = some e → Unheard s c e) :
    Delivered (s.writeDirect c events) ∧ Tracked (s.writeDirect c events) := by
  have hheard : s.hearAll c (events.filterMap coreEvent) = s := by
    apply hearAll_of_unheard
    intro e he
    obtain ⟨event, hev, he⟩ := mem_filterMap.mp he
    exact hunheard event hev e he
  rw [Server.writeDirect, hheard]
  exact ⟨delivered_write h hph fun m hm => tag_untagged hm, tracked_write ht⟩

theorem not_recordable_flatten {events : List Bytes} (hlong : ∀ event ∈ events, 32 ≤ event.length)
    (hne : events.length ≠ 1) : recordable events.flatten = false := by
  have hlength : events.flatten.length ≠ 32 := by
    match events with
    | [] => simp
    | [_] => exact absurd rfl hne
    | a :: b :: events =>
      have ha := hlong a mem_cons_self
      have hb := hlong b (mem_cons_of_mem a mem_cons_self)
      simp only [flatten_cons, length_append]
      omega
  rw [recordable, beq_false_of_ne hlength, Bool.false_and, Bool.false_and]

theorem delivered_input (h : Delivered s) (ht : Tracked s) (hph : (s.clients c).phase = .idle) {events : List Bytes}
    (hlong : ∀ event ∈ events, 32 ≤ event.length) (hvalid : Enumerates orders.shared s.shared)
    (hobs : ObservedEntry s c events) :
    Delivered (s.input c events orders) ∧ Tracked (s.input c events orders) := by
  by_cases hone : events.length = 1
  · obtain ⟨event, rfl⟩ := length_eq_one_iff.mp hone
    rw [Server.input, flatten_singleton]
    exact delivered_single h ht hph event hvalid hobs
  · have hdirect : s.input c events orders = s.writeDirect c events := by
      rw [Server.input, Server.recordInterceptEvents, filter_singleton, not_recordable_flatten hlong hone]
      change ((s.send []).hearAll c _).write c _ = _
      rw [send_nil]
      rfl
    rw [hdirect]
    refine delivered_writeDirect h ht hph ?_
    match events with
    | [] => simp
    | [_] => exact absurd rfl hone
    | _ :: _ :: _ => exact hobs

theorem delivered_queue (h : Delivered s) (events : List Bytes) :
    Delivered (s.setClient c fun cl => { cl with pending := cl.pending ++ events.map untagged }) := by
  refine delivered_setClient (l := []) h ⟨fun m hm => ?_, fun _ hm => .inl hm, (append_nil _).symm,
    ⟨[], by simp, (append_nil _).symm⟩, ⟨[], by simp, (append_nil _).symm⟩⟩ (by simp)
  rcases mem_append.mp hm with hm | hm
  · exact .inl hm
  · exact .inr (tag_untagged hm)

theorem delivered_notify (h : Delivered s) (event : Bytes) :
    Delivered (s.setClient c fun cl => { cl with inbox := cl.inbox ++ [untagged event] }) := by
  refine delivered_setClient (l := []) h ⟨fun _ hm => .inl hm, fun _ hm => .inl hm, (append_nil _).symm,
    ⟨[], by simp, (append_nil _).symm⟩, ⟨[untagged event], fun m hm => ?_, rfl⟩⟩ (by simp)
  rw [mem_singleton.mp hm]
  rfl

/-! ### The channel -/

def moved (rest : List Sent) (m : Sent) (cl : Client) : Client :=
  { cl with inbox := rest, stream := cl.stream ++ [m] }

theorem elementFor_of_tag {m m' : Sent} (h : m'.tag = m.tag) (X : XId) (p : Nat) :
    elementFor X p m' = elementFor X p m := by
  rw [elementFor, elementFor, h]

theorem dataOf_of_tag {m m' : Sent} (h : m'.tag = m.tag) (X : XId) (p : Nat) (l rest : List Sent) :
    dataOf X p ((l ++ [m']) ++ rest) = dataOf X p (l ++ m :: rest) := by
  simp only [dataOf, append_assoc, singleton_append, filterMap_append, filterMap_cons,
    elementFor_of_tag h]

theorem written_moved (hph : (s.clients c).phase = .idle) (m' : Sent) (o : ClientId) :
    ((s.setClient c (moved rest m')).clients o).written = (s.clients o).written ++ only c [m'] o := by
  rw [clients_setClient, only]
  split
  · next ho =>
    subst ho
    have hnew : (moved rest m' (s.clients o)).written = (s.clients o).stream ++ [m'] := written_of_idle hph
    rw [hnew, written_of_idle hph]
  · rw [append_nil]

theorem running_of_inbox (h : Delivered s) (hm : m ∈ (s.clients c).inbox) (hdata : IsData X p m) :
    Running s X p c := by
  obtain ⟨e, he⟩ := hdata
  rcases h.inbox_running c m hm with hoth | ⟨X', p', e', htag, hrun⟩
  · rw [hoth] at he
    cases he
  · rw [htag] at he
    obtain ⟨rfl, rfl, rfl⟩ := Tag.data.inj he
    exact hrun

theorem not_isFinish_of_inbox (h : Delivered s) (hm : m ∈ (s.clients c).inbox) (X : XId) (p : Nat) :
    ¬IsFinish X p m := by
  intro hmf
  rw [IsFinish] at hmf
  rcases h.inbox_running c m hm with hoth | ⟨X', p', e, htag, -⟩
  · rw [hoth] at hmf
    cases hmf
  · rw [htag] at hmf
    cases hmf

theorem period_lt_of_running (h : Delivered s) (hrun : Running s X p c) : p < s.clock := by
  obtain ⟨⟨x, hx, hst⟩, -⟩ := h.started X p c hrun
  have hbef := h.written_before c x hx
  rw [show x.tag = .start X p from hst] at hbef
  exact hbef

theorem delivered_moved (h : Delivered s) (hph : (s.clients c).phase = .idle)
    (hinbox : (s.clients c).inbox = m :: rest) {m' : Sent} (htag : m'.tag = m.tag)
    (hcarries : ∀ e, Carries m.bytes e → Carries m'.bytes e) : Delivered (s.setClient c (moved rest m')) := by
  have hmem : m ∈ (s.clients c).inbox := by rw [hinbox]; exact mem_cons_self
  have hrest : ∀ x ∈ rest, x ∈ (s.clients c).inbox := by
    rw [hinbox]
    exact fun x hx => mem_cons_of_mem m hx
  have hdata : ∀ {X p}, IsData X p m' → Running s X p c := by
    rintro X p ⟨e, he⟩
    exact running_of_inbox h hmem ⟨e, htag ▸ he⟩
  have hfin : ∀ X p, ¬IsFinish X p m' := by
    intro X p hmf
    rw [IsFinish, htag] at hmf
    exact not_isFinish_of_inbox h hmem X p hmf
  have hoth : ∀ {o x}, x ∈ only c [m'] o → o = c ∧ x = m' := fun hx =>
    ⟨(mem_only hx).1, mem_singleton.mp (mem_only hx).2⟩
  constructor
  case pending_other =>
    exact forall_setClient (P := fun _ cl => ∀ x ∈ cl.pending, x.tag = .other) h.pending_other (h.pending_other c)
  case response_clean =>
    exact forall_setClient (P := fun _ cl => ∀ x ∈ cl.phase.response, ∀ X p, ¬IsData X p x) h.response_clean
      (h.response_clean c)
  case inbox_running =>
    refine forall_setClient (P := fun o cl => ∀ x ∈ cl.inbox, x.tag = .other ∨ ∃ X p e, x.tag = .data X p e ∧
      Running s X p o) h.inbox_running ?_
    intro x hx
    exact h.inbox_running c x (hrest x hx)
  case written_before =>
    intro o x hx
    rw [written_moved hph] at hx
    rcases mem_append.mp hx with hx | hx
    · exact h.written_before o x hx
    · rw [(hoth hx).2, htag]
      rcases h.inbox_running c m hmem with htag | ⟨X, p, e, htag, hrun⟩
      · rw [htag]
        trivial
      · rw [htag]
        exact (period_lt_of_running h hrun : p < s.clock)
  case started =>
    intro X p o hrun
    rw [written_moved hph]
    obtain ⟨⟨x, hx, hst⟩, hno⟩ := h.started X p o hrun
    refine ⟨⟨x, mem_append_left _ hx, hst⟩, fun x hx => ?_⟩
    rcases mem_append.mp hx with hx | hx
    · exact hno x hx
    · rw [(hoth hx).2]
      exact hfin X p
  case bracketed =>
    intro o X p
    rw [written_moved hph, only]
    split
    · next ho =>
      subst ho
      exact bracketed_concat.mpr ⟨h.bracketed o X p, fun hm => h.started X p o (hdata hm)⟩
    · rw [append_nil]
      exact h.bracketed o X p
  case finished =>
    rintro X p o ⟨x, hx, hxdata⟩
    rw [written_moved hph] at hx
    rw [written_moved hph]
    rcases mem_append.mp hx with hx | hx
    · rcases h.finished X p o ⟨x, hx, hxdata⟩ with hrun | ⟨y, hy, hyf⟩
      · exact .inl hrun
      · exact .inr ⟨y, mem_append_left _ hy, hyf⟩
    · obtain ⟨rfl, rfl⟩ := hoth hx
      exact .inl (hdata hxdata)
  case once =>
    refine forall_setClient (P := fun o cl => ∀ X p, dataOf X p (cl.stream ++ cl.inbox) = s.log o X p) h.once ?_
    intro X p
    change dataOf X p (((s.clients c).stream ++ [m']) ++ rest) = s.log c X p
    rw [← h.once, hinbox, dataOf_of_tag htag]
  case carried =>
    refine forall_setClient (P := fun _ cl => ∀ x ∈ cl.stream ++ cl.inbox, ∀ X p e, x.tag = .data X p e →
      Carries x.bytes e) h.carried ?_
    intro x hx X p e he
    change x ∈ ((s.clients c).stream ++ [m']) ++ rest at hx
    rw [mem_append, mem_append, mem_singleton] at hx
    rcases hx with (hx | rfl) | hx
    · exact h.carried c x (mem_append_left _ hx) X p e he
    · exact hcarries e (h.carried c m (mem_append_right _ hmem) X p e (htag ▸ he))
    · exact h.carried c x (mem_append_right _ (hrest x hx)) X p e he

theorem interceptShared_congr (s s' : Server) {payload : Bytes} (hshd : s'.shared = s.shared)
    (hreg : s'.registry = s.registry) (hbase : (s'.clients c).resourceBase = (s.clients c).resourceBase)
    (hseq : (s'.clients c).sequence = (s.clients c).sequence) :
    s'.interceptShared orders c e payload = s.interceptShared orders c e payload := by
  simp only [Server.interceptShared, Server.dataReply, Server.periodOf, hshd, hreg, hbase, hseq]

theorem write_report (s : Server) (orders : Orders) (c : ClientId) (e : Element) (payload : Bytes)
    (l : List Sent) :
    (report s orders c e payload).write c l = report (s.write c l) orders c e payload := by
  have hbase : ∀ o, ((s.write c l).clients o).resourceBase = (s.clients o).resourceBase := by
    intro o
    rw [Server.write, clients_setClient]
    split
    · next ho => rw [ho]
    · rfl
  have hseq : ((s.write c l).clients c).sequence = (s.clients c).sequence := by
    rw [Server.write, clients_setClient, if_pos rfl]
  rw [report, report, interceptShared_congr s (s.write c l) rfl rfl (hbase c) hseq]
  generalize s.interceptShared orders c e payload = messages
  have hcls : ((s.send messages).write c l).clients = ((s.write c l).send messages).clients := by
    funext o
    simp only [Server.write, Server.send, Server.setClient, Function.update_apply]
    split
    · next ho =>
      subst ho
      rfl
    · rfl
  have hlog : ((s.send messages).hear c e).log = (((s.write c l).send messages).hear c e).log := by
    funext o X p
    rw [hear_log, hear_log]
    change s.log o X p ++ heard s c e o X p = s.log o X p ++ heard (s.write c l) c e o X p
    simp only [heard, hbase]
    rfl
  change Server.mk ((s.send messages).write c l).clients s.shared s.registry s.clock
    ((s.send messages).hear c e).log = _
  rw [hcls, hlog]
  rfl

theorem delivered_receive (h : Delivered s) (ht : Tracked s) (hph : (s.clients c).phase = .idle)
    (hinbox : (s.clients c).inbox = m :: rest) (hvalid : Enumerates orders.shared s.shared)
    (hobs : Observed s c (m.patch (s.clients c).msbFirst (s.clients c).sequence).bytes) :
    Delivered (s.receive c m rest orders) ∧ Tracked (s.receive c m rest orders) := by
  rw [Server.receive]
  generalize (s.clients c).msbFirst = msb at hobs ⊢
  generalize (s.clients c).sequence = seq at hobs ⊢
  let f : Client → Client := fun cl => { cl with inbox := rest }
  have htkn : Tracked (s.setClient c f) := tracked_setClient (f := f) ht fun _ => rfl
  have hobs : Observed (s.setClient c f) c (m.patch msb seq).bytes :=
    (observed_congr s (s.setClient c f) rfl (resourceBase_setClient rfl)).mpr hobs
  have hmvd : Delivered ((s.setClient c f).write c [m.patch msb seq]) := by
    rw [Server.write, setClient_setClient]
    exact delivered_moved h hph hinbox rfl fun e he => patchSequence_carries he msb seq
  have hall : ∀ x ∈ [m.patch msb seq], Observed (s.setClient c f) c x.bytes := by
    intro x hx
    rw [mem_singleton.mp hx]
    exact hobs
  change Delivered ((s.setClient c f).deliver c (m.patch msb seq) orders) ∧
    Tracked ((s.setClient c f).deliver c (m.patch msb seq) orders)
  rw [Server.deliver]
  dsimp only
  rw [observe_snd htkn hall, observe_fst, nil_append, foldl_cons, foldl_nil]
  rcases observeOne_eq hobs with heq | ⟨-, hrec, heq⟩
  · rw [heq]
    exact ⟨hmvd, tracked_write htkn⟩
  · rw [heq, write_report]
    have hrec : Recorded ((s.setClient c f).write c [m.patch msb seq]) c (.event (m.patch msb seq).bytes) :=
      (recorded_congr (s.setClient c f) ((s.setClient c f).write c [m.patch msb seq]) rfl
        (resourceBase_setClient rfl)).mpr hrec
    exact ⟨delivered_report hmvd (tracked_write htkn) hvalid hrec prefix_rfl,
      tracked_report (tracked_write htkn)⟩

end X11Web.RecordEvents
