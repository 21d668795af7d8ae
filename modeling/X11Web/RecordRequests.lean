import X11Web.RecordEvents

namespace X11Web.RecordRequests

open EventWire HashMaps Interceptions RecordRanges List Option
open RecordSteps RecordTraffic Recording SyncWindows Windows

variable {P : Parsers} {s s' : Server} {c o : ClientId} {X Y : XId} {p q : Nat} {m : Sent} {new : Option Registration}

/-- A request of the owner changes one context, in both maps and as registered. -/
structure Changes (s s' : Server) (c : ClientId) (X : XId) (new : Option Registration) : Prop where
  shared : ∀ Y, s'.shared.lookup Y = if Y = X then new.map (Registration.entry X) else s.shared.lookup Y
  own : ∀ d Y, (s'.clients d).contexts.lookup Y =
    if d = c ∧ Y = X then new.map (Registration.stored X) else (s.clients d).contexts.lookup Y
  registry : ∀ Y, s'.registry.lookup Y = if Y = X then new else s.registry.lookup Y
  clients : ∀ d, ∃ contexts, s'.clients d = { s.clients d with contexts := contexts }
  log : s'.log = s.log
  clock : s.clock ≤ s'.clock
  owner : ∀ r, new = some r → r.owner = c
  period_lt : ∀ r, new = some r → r.period < s'.clock
  period_pos : ∀ r, new = some r → r.enabled = true → 0 < r.period

def Owned (s : Server) (c : ClientId) (X : XId) : Prop := ∀ r, s.registry.lookup X = some r → r.owner = c

instance (s : Server) (c : ClientId) (X : XId) : Decidable (Owned s c X) :=
  decidableForallSome (s.registry.lookup X) fun r => r.owner = c

theorem Changes.tracked (h : Changes s s' c X new) (ht : Tracked s) (howned : Owned s c X) : Tracked s' where
  shared Y := by
    rw [h.shared, h.registry]
    split
    · next hY =>
      subst hY
      rfl
    · exact ht.shared Y
  own d Y := by
    rw [h.own, h.registry]
    by_cases hY : Y = X
    · subst hY
      rw [if_pos rfl]
      by_cases hd : d = c
      · subst hd
        rw [if_pos ⟨rfl, rfl⟩]
        cases hnew : new with
        | none => rfl
        | some r => rw [filter_some_pos (by simpa using h.owner r hnew)]
      · rw [if_neg fun hboth => hd hboth.1, ht.own]
        have hnone : ∀ r : Option Registration, (∀ x, r = some x → x.owner = c) →
            (r.filter fun r => r.owner = d) = none := by
          intro r hr
          rw [filter_eq_none_iff]
          intro x hx
          rw [hr x hx]
          simpa using Ne.symm hd
        rw [hnone _ howned, hnone _ h.owner]
    · rw [if_neg fun hboth => hY hboth.2, if_neg hY]
      exact ht.own d Y
  clock_pos := ht.clock_pos.trans_le h.clock
  period_lt Y r hr := by
    rw [h.registry] at hr
    split at hr
    · exact h.period_lt r hr
    · exact (ht.period_lt Y r hr).trans_le h.clock
  period_pos Y r hr hen := by
    rw [h.registry] at hr
    split at hr
    · exact h.period_pos r hr hen
    · exact ht.period_pos Y r hr hen

theorem Changes.running_iff (h : Changes s s' c X new) :
    Running s' Y q o ↔
      if Y = X then ∃ r, new = some r ∧ r.owner = o ∧ r.period = q ∧ r.enabled = true else Running s Y q o := by
  rw [Running, h.registry]
  split
  · rfl
  · rfl

def withContexts (k : HashMap XId RecordContext → HashMap XId RecordContext) (cl : Client) : Client :=
  { cl with contexts := k cl.contexts }

theorem contexts_withContexts (s : Server) (c d : ClientId)
    (k : HashMap XId RecordContext → HashMap XId RecordContext) :
    ((s.setClient c (withContexts k)).clients d).contexts =
      if d = c then k (s.clients c).contexts else (s.clients d).contexts := by
  rw [clients_setClient]
  split <;> rfl

theorem exists_withContexts (s : Server) (c d : ClientId)
    (k : HashMap XId RecordContext → HashMap XId RecordContext) :
    ∃ contexts, (s.setClient c (withContexts k)).clients d = { s.clients d with contexts := contexts } := by
  rw [clients_setClient]
  split
  · next hd =>
    subst hd
    exact ⟨_, rfl⟩
  · exact ⟨_, rfl⟩

theorem lookup_withContexts (s : Server) (c : ClientId) {k : HashMap XId RecordContext → HashMap XId RecordContext}
    {ctx : Option RecordContext}
    (hk : ∀ Y, (k (s.clients c).contexts).lookup Y = if Y = X then ctx else (s.clients c).contexts.lookup Y)
    (d : ClientId) (Y : XId) :
    ((s.setClient c (withContexts k)).clients d).contexts.lookup Y =
      if d = c ∧ Y = X then ctx else (s.clients d).contexts.lookup Y := by
  rw [contexts_withContexts]
  by_cases hd : d = c
  · subst hd
    rw [if_pos rfl, hk]
    by_cases hY : Y = X
    · rw [if_pos hY, if_pos ⟨rfl, hY⟩]
    · rw [if_neg hY, if_neg fun hboth => hY hboth.2]
  · rw [if_neg hd, if_neg fun hboth => hd hboth.1]

theorem own_of_owned (ht : Tracked s) (howned : Owned s c X) :
    (s.clients c).contexts.lookup X = (s.registry.lookup X).map (Registration.stored X) := by
  rw [ht.own]
  cases hr : s.registry.lookup X with
  | none => rfl
  | some r => rw [filter_some_pos (by simpa using howned r hr)]

variable {g : Registration → Registration}

theorem changes_modify (ht : Tracked s) (howned : Owned s c X) {f : RecordContext → RecordContext}
    (hstd : ∀ r, (g r).stored X = f (r.stored X))
    (hown : ∀ r, (g r).owner = r.owner)
    (hreg : s'.registry = modify X g s.registry)
    (hshd : ∀ Y, s'.shared.lookup Y =
      if Y = X then ((s.registry.lookup X).map g).map (Registration.entry X) else s.shared.lookup Y)
    (hcls : s'.clients = (s.setContext c X f).clients) (hlog : s'.log = s.log) (hclock : s.clock ≤ s'.clock)
    (hlt : ∀ r, s.registry.lookup X = some r → (g r).period < s'.clock)
    (hpos : ∀ r, s.registry.lookup X = some r → (g r).enabled = true → 0 < (g r).period) :
    Changes s s' c X ((s.registry.lookup X).map g) where
  shared := hshd
  own d Y := by
    rw [hcls]
    refine lookup_withContexts s c (fun Y => ?_) d Y
    rw [lookup_modify, own_of_owned ht howned]
    simp only [Option.map_map, Function.comp_def, hstd]
  registry Y := by rw [hreg, lookup_modify]
  clients d := by
    rw [hcls]
    exact exists_withContexts s c d _
  log := hlog
  clock := hclock
  owner r hr := by
    obtain ⟨x, hx, rfl⟩ := map_eq_some_iff.mp hr
    rw [hown]
    exact howned x hx
  period_lt r hr := by
    obtain ⟨x, hx, rfl⟩ := map_eq_some_iff.mp hr
    exact hlt x hx
  period_pos r hr := by
    obtain ⟨x, hx, rfl⟩ := map_eq_some_iff.mp hr
    exact hpos x hx

theorem entry_modify (ht : Tracked s) {f : SharedRecordEntry → SharedRecordEntry}
    (hent : ∀ r, s.registry.lookup X = some r → f (r.entry X) = (g r).entry X) (Y : XId) :
    (modify X f s.shared).lookup Y =
      if Y = X then ((s.registry.lookup X).map g).map (Registration.entry X) else s.shared.lookup Y := by
  rw [lookup_modify, ht.shared]
  cases hr : s.registry.lookup X with
  | none => rfl
  | some r => simp only [map_some, hent r hr]

theorem changes_createContext (ht : Tracked s) (req : ClientsRequest) :
    Changes s (Server.createContext
      { s with registry := s.registry.insert req.context (Registration.ofRequest c req) } c req)
      c req.context (some (Registration.ofRequest c req)) where
  shared Y := lookup_insert_eq _ _ _ _
  own d Y := lookup_withContexts (k := fun m => m.insert req.context (RecordContext.ofRequest req)) s c
    (fun _ => lookup_insert_eq _ _ _ _) d Y
  registry Y := lookup_insert_eq _ _ _ _
  clients d := exists_withContexts s c d fun m => m.insert req.context (RecordContext.ofRequest req)
  log := rfl
  clock := le_rfl
  owner r hr := by
    rw [← some.inj hr]
    rfl
  period_lt r hr := by
    rw [← some.inj hr]
    exact ht.clock_pos
  period_pos r hr hen := by
    rw [← some.inj hr] at hen
    cases hen

theorem changes_freeContext (s : Server) (c : ClientId) (X : XId) :
    Changes s (Server.freeContext { s with registry := s.registry.erase X } c X) c X none where
  shared Y := lookup_erase_eq _ _ _
  own d Y := lookup_withContexts (k := fun m => m.erase X) s c (fun _ => lookup_erase_eq _ _ _) d Y
  registry Y := lookup_erase_eq _ _ _
  clients d := exists_withContexts s c d fun m => m.erase X
  log := rfl
  clock := le_rfl
  owner r hr := by cases hr
  period_lt r hr := by cases hr
  period_pos r hr := by cases hr

theorem changes_changeContext (ht : Tracked s) (howned : Owned s c X) {f : RecordContext → RecordContext}
    (hstd : ∀ r, (g r).stored X = f (r.stored X))
    (hown : ∀ r, (g r).owner = r.owner) (hperiod : ∀ r, (g r).period = r.period)
    (hen : ∀ r, (g r).enabled = r.enabled) :
    Changes s (Server.changeContext { s with registry := modify X g s.registry } c X f) c X
      ((s.registry.lookup X).map g) := by
  have hlt : ∀ r, s.registry.lookup X = some r → (g r).period < s.clock := by
    intro r hr
    rw [hperiod]
    exact ht.period_lt X r hr
  have hpos : ∀ r, s.registry.lookup X = some r → (g r).enabled = true → 0 < (g r).period := by
    intro r hr hg
    rw [hperiod]
    rw [hen] at hg
    exact ht.period_pos X r hr hg
  have hlocal := own_of_owned ht howned
  rw [Server.changeContext]
  dsimp only
  rw [hlocal]
  cases hr : s.registry.lookup X with
  | none =>
    have hchgs : Changes s { s with registry := modify X g s.registry } c X ((s.registry.lookup X).map g) := by
      refine changes_modify ht howned hstd hown rfl (fun Y => ?_) ?_ rfl le_rfl hlt hpos
      · rw [hr]
        split
        · next hY =>
          subst hY
          exact (ht.shared Y).trans (by rw [hr]; rfl)
        · rfl
      · have hmodify : modify X f (s.clients c).contexts = (s.clients c).contexts := by
          rw [HashMaps.modify, hlocal, hr]
          rfl
        change s.clients = (s.setContext c X f).clients
        rw [Server.setContext, setClient_eq_self (by rw [hmodify])]
    rw [hr] at hchgs
    exact hchgs
  | some r =>
    have hchgs : Changes s (Server.setEntry
        (Server.setContext { s with registry := modify X g s.registry } c X f) X
          fun entry => { entry with context := f (r.stored X) }) c X ((s.registry.lookup X).map g) := by
      refine changes_modify ht howned hstd hown rfl (fun Y => ?_) rfl rfl le_rfl hlt hpos
      refine entry_modify ht (fun x hx => ?_) Y
      obtain rfl := some.inj (hr.symm.trans hx)
      simp only [Registration.entry, hstd, hown]
    rw [hr] at hchgs
    exact hchgs

theorem changes_enableContext (ht : Tracked s) (howned : Owned s c X) :
    Changes s (Server.enableContext
      { s with
        registry := modify X (Registration.enable (s.clients c).sequence s.clock) s.registry
        clock := s.clock + 1 } c X)
      c X ((s.registry.lookup X).map (Registration.enable (s.clients c).sequence s.clock)) := by
  refine changes_modify ht howned (f := RecordContext.enable (s.clients c).sequence) (fun _ => rfl) (fun _ => rfl)
    rfl ?_ rfl rfl (Nat.le_succ _) ?_ ?_
  · intro Y
    refine entry_modify ht (fun r hr => ?_) Y
    have hown := howned r hr
    subst hown
    rfl
  · intro r hr
    have hlt := ht.period_lt X r hr
    change (if r.enabled then r.period else s.clock) < s.clock + 1
    split <;> omega
  · intro r hr _
    rw [Registration.enable]
    dsimp only
    split
    · next hen => exact ht.period_pos X r hr hen
    · exact ht.clock_pos

theorem changes_disableContext (ht : Tracked s) (howned : Owned s c X) :
    Changes s (Server.disableContext { s with registry := modify X Registration.disable s.registry } c X)
      c X ((s.registry.lookup X).map Registration.disable) := by
  refine changes_modify ht howned (f := RecordContext.disable) (fun _ => rfl) (fun _ => rfl)
    rfl ?_ rfl rfl le_rfl (fun r hr => ht.period_lt X r hr) ?_
  · intro Y
    exact entry_modify ht (fun r hr => rfl) Y
  · intro r hr hen
    cases hen

/-! ### The answer -/

variable {response : List Sent}

theorem mem_inClientOrder {msb deferred : Bool} (hm : m ∈ inClientOrder msb deferred response) :
    ∃ x ∈ response, m.tag = x.tag := by
  rw [inClientOrder] at hm
  split at hm
  · exact ⟨m, hm, rfl⟩
  · cases response with
    | nil => cases hm
    | cons x rest =>
      rcases mem_cons.mp hm with rfl | hm
      · exact ⟨x, mem_cons_self, rfl⟩
      · exact ⟨m, mem_cons_of_mem _ hm, rfl⟩

theorem forall_tag_inClientOrder {T : Tag → Prop} {msb deferred : Bool}
    (h : ∀ x ∈ response, T x.tag) : ∀ m ∈ inClientOrder msb deferred response, T m.tag := by
  intro m hm
  obtain ⟨x, hx, htag⟩ := mem_inClientOrder hm
  exact htag ▸ h x hx

theorem inClientOrder_singleton_ne_nil (msb deferred : Bool) (x : Sent) : inClientOrder msb deferred [x] ≠ [] := by
  cases deferred <;> exact cons_ne_nil _ _

theorem extends_responding {data data' : Bytes} {recorded recorded' deferred : Bool}
    (hcls : ∀ d, ∃ contexts, s'.clients d = { s.clients d with contexts := contexts })
    (hph : (s.clients c).phase = .processing data recorded deferred)
    (hclean : ∀ m ∈ response, ∀ X p, ¬IsData X p m) (o : ClientId) :
    Extends (s.clients o) ((s'.setPhase c (.responding data' recorded' response)).clients o) (only c response o) := by
  obtain ⟨contexts, heq⟩ := hcls o
  rw [Server.setPhase, clients_setClient, only]
  split
  · next ho =>
    subst ho
    rw [heq]
    have hwritten : (s.clients o).written = (s.clients o).stream := by
      rw [Client.written, hph]
      exact append_nil _
    exact ⟨fun _ hm => .inl hm, fun m hm => .inr (hclean m hm), by rw [hwritten]; rfl,
      ⟨[], by simp, (append_nil _).symm⟩, ⟨[], by simp, (append_nil _).symm⟩⟩
  · rw [heq]
    exact ⟨fun _ hm => .inl hm, fun _ hm => .inl hm, (append_nil _).symm,
      ⟨[], by simp, (append_nil _).symm⟩, ⟨[], by simp, (append_nil _).symm⟩⟩

theorem delivered_quietly (h : Delivered s) (ht : Tracked s) (hchgs : Changes s s' c X new)
    {data data' : Bytes} {recorded recorded' deferred : Bool}
    (hph : (s.clients c).phase = .processing data recorded deferred) (howned : Owned s c X)
    (hresp : ∀ m ∈ response, m.tag = .other)
    (hnew : ∀ r, new = some r → r.enabled = true →
      ∃ x, s.registry.lookup X = some x ∧ x.enabled = true ∧ x.owner = r.owner ∧ x.period = r.period)
    (hlost : ∀ x, s.registry.lookup X = some x → x.enabled = true → s.log x.owner X x.period = [] ∨
      ∃ r, new = some r ∧ r.enabled = true ∧ r.owner = x.owner ∧ r.period = x.period) :
    Delivered (s'.setPhase c (.responding data' recorded' response)) ∧
      Tracked (s'.setPhase c (.responding data' recorded' response)) := by
  refine ⟨?_, tracked_setPhase (hchgs.tracked ht howned) _⟩
  refine delivered_quiet h (extends_responding hchgs.clients hph
    fun m hm => not_isData_of_other (hresp m hm)) hchgs.log hchgs.clock
    (fun o m hm => hresp m (mem_only hm).2) ?_ ?_
  · intro Y q o hrun
    have hrun : Running s' Y q o := hrun
    rw [hchgs.running_iff] at hrun
    split at hrun
    · next hY =>
      subst hY
      obtain ⟨r, hr, rfl, rfl, hen⟩ := hrun
      obtain ⟨x, hx, hxe, hxo, hxp⟩ := hnew r hr hen
      exact ⟨x, hx, hxo, hxp, hxe⟩
    · exact hrun
  · intro Y q o hrun
    change Running s' Y q o ∨ _
    rw [hchgs.running_iff]
    split
    · next hY =>
      subst hY
      obtain ⟨x, hx, rfl, rfl, hen⟩ := hrun
      rcases hlost x hx hen with hnil | ⟨r, hr, hre, hro, hrp⟩
      · exact .inr hnil
      · exact .inl ⟨r, hr, hro, hrp, hre⟩
    · exact .inl hrun

/-- The enabled context, if it is one, has had nothing to report in its period. -/
def NothingHeard (s : Server) (X : XId) : Prop :=
  ∀ r, s.registry.lookup X = some r → r.enabled = true → s.log r.owner X r.period = []

/-- What may be asked without breaking a period: a context is replaced or freed before
it has data to report, and disabled when the data has left the owner's channel. -/
def Permits (s : Server) (c : ClientId) : RecordRequest → Prop
  | .createContext req => NothingHeard s req.context
  | .freeContext X => NothingHeard s X
  | .disableContext X => ∀ m ∈ (s.clients c).inbox, ∀ p, ¬IsData X p m
  | _ => True

instance (s : Server) (X : XId) : Decidable (NothingHeard s X) :=
  decidableForallSome (s.registry.lookup X) fun r => r.enabled = true → s.log r.owner X r.period = []

def isDataOf (X : XId) (m : Sent) : Bool :=
  match m.tag with
  | .data Y _ _ => Y == X
  | _ => false

theorem isDataOf_eq_false {X : XId} {m : Sent} : isDataOf X m = false ↔ ∀ p, ¬IsData X p m := by
  rw [isDataOf]
  split
  · next Y q e htag =>
    rw [beq_eq_false_iff_ne]
    constructor
    · rintro hY p ⟨e', he'⟩
      rw [htag] at he'
      exact hY (Tag.data.inj he').1
    · rintro h rfl
      exact h q ⟨e, htag⟩
  · next htag => exact iff_of_true rfl fun p ⟨e, he⟩ => htag X p e he

instance (s : Server) (c : ClientId) : (req : RecordRequest) → Decidable (Permits s c req)
  | .createContext req => inferInstanceAs (Decidable (NothingHeard s req.context))
  | .freeContext X => inferInstanceAs (Decidable (NothingHeard s X))
  | .disableContext X =>
    decidable_of_iff (∀ m ∈ (s.clients c).inbox, isDataOf X m = false)
      (forall₂_congr fun _ _ => isDataOf_eq_false)
  | .registerClients _ => .isTrue trivial
  | .unregisterClients _ => .isTrue trivial
  | .getContext _ => .isTrue trivial
  | .enableContext _ => .isTrue trivial

theorem delivered_unchanged (h : Delivered s) (ht : Tracked s) {data data' : Bytes}
    {recorded recorded' deferred : Bool}
    (hph : (s.clients c).phase = .processing data recorded deferred)
    (hresp : ∀ m ∈ response, m.tag = .other) :
    Delivered (s.setPhase c (.responding data' recorded' response)) ∧
      Tracked (s.setPhase c (.responding data' recorded' response)) := by
  refine ⟨?_, tracked_setPhase ht _⟩
  exact delivered_quiet h (extends_responding (fun d => ⟨_, rfl⟩) hph
    fun m hm => not_isData_of_other (hresp m hm)) rfl le_rfl (fun o m hm => hresp m (mem_only hm).2)
    (fun _ _ _ hrun => hrun) fun _ _ _ hrun => .inl hrun

theorem delivered_changed (h : Delivered s) (ht : Tracked s)
    (hchgs : Changes s s' c X ((s.registry.lookup X).map g)) {data data' : Bytes}
    {recorded recorded' deferred : Bool}
    (hph : (s.clients c).phase = .processing data recorded deferred) (howned : Owned s c X)
    (hresp : ∀ m ∈ response, m.tag = .other) (hown : ∀ r, (g r).owner = r.owner)
    (hperiod : ∀ r, (g r).period = r.period) (hen : ∀ r, (g r).enabled = r.enabled) :
    Delivered (s'.setPhase c (.responding data' recorded' response)) ∧
      Tracked (s'.setPhase c (.responding data' recorded' response)) := by
  refine delivered_quietly h ht hchgs hph howned hresp ?_ ?_
  · intro r hr he
    obtain ⟨x, hx, rfl⟩ := map_eq_some_iff.mp hr
    exact ⟨x, hx, hen x ▸ he, (hown x).symm, (hperiod x).symm⟩
  · intro x hx he
    exact .inr ⟨g x, map_eq_some_iff.mpr ⟨x, hx, rfl⟩, (hen x).trans he, hown x, hperiod x⟩

theorem periodOf_lt (ht : Tracked s) (X : XId) : s.periodOf X < s.clock := by
  rw [Server.periodOf]
  cases hr : s.registry.lookup X with
  | none => exact ht.clock_pos
  | some r => exact ht.period_lt X r hr

theorem delivered_enableContext (h : Delivered s) (ht : Tracked s) {data data' : Bytes}
    {recorded recorded' deferred : Bool}
    (hchgs : Changes s s' c X ((s.registry.lookup X).map (Registration.enable (s.clients c).sequence s.clock)))
    (hph : (s.clients c).phase = .processing data recorded deferred) (howned : Owned s c X)
    (hresp : ∀ m ∈ response, IsStart X (s'.periodOf X) m) (hne : response ≠ []) :
    Delivered (s'.setPhase c (.responding data' recorded' response)) ∧
      Tracked (s'.setPhase c (.responding data' recorded' response)) := by
  have htrkd := hchgs.tracked ht howned
  refine ⟨?_, tracked_setPhase htrkd _⟩
  have hlook : s'.registry.lookup X =
      (s.registry.lookup X).map (Registration.enable (s.clients c).sequence s.clock) := by
    rw [hchgs.registry, if_pos rfl]
  have hclean : ∀ m ∈ response, ∀ Y q, ¬IsData Y q m := by
    rintro m hm Y q ⟨e, he⟩
    rw [show m.tag = .start X (s'.periodOf X) from hresp m hm] at he
    cases he
  refine delivered_start h (extends_responding hchgs.clients hph hclean) hchgs.log hchgs.clock
    (fun o m hm => hresp m (mem_only hm).2) ?_ ?_ ?_
  · exact periodOf_lt htrkd X
  · intro Y q o hrun
    change Running s' Y q o
    rw [hchgs.running_iff]
    split
    · next hY =>
      subst hY
      obtain ⟨r, hr, rfl, rfl, hen⟩ := hrun
      exact ⟨_, map_eq_some_iff.mpr ⟨r, hr, rfl⟩, rfl, if_pos hen, rfl⟩
    · exact hrun
  · intro Y q o hrun
    have hrun : Running s' Y q o := hrun
    rw [hchgs.running_iff] at hrun
    split at hrun
    · next hY =>
      subst hY
      obtain ⟨r, hr, rfl, rfl, -⟩ := hrun
      have hperiod : s'.periodOf Y = r.period := periodOf_of_lookup (hlook.trans hr)
      obtain ⟨x, hx, rfl⟩ := map_eq_some_iff.mp hr
      cases hen : x.enabled with
      | true => exact .inl ⟨x, hx, rfl, (if_pos hen).symm, hen⟩
      | false =>
        have hclock : (Registration.enable (s.clients c).sequence s.clock x).period = s.clock :=
          if_neg (by rw [hen]; exact Bool.false_ne_true)
        refine .inr ⟨⟨rfl, hperiod.symm, hperiod.trans hclock⟩, ?_⟩
        obtain ⟨m, hm⟩ := exists_mem_of_ne_nil response hne
        refine ⟨m, ?_, hresp m hm⟩
        have hown : x.owner = c := howned x hx
        change m ∈ only c response x.owner
        rw [hown]
        exact mem_only_self hm
    · exact .inl hrun

theorem delivered_disableContext (h : Delivered s) (ht : Tracked s) {data data' : Bytes}
    {recorded recorded' deferred : Bool}
    (hchgs : Changes s s' c X ((s.registry.lookup X).map Registration.disable))
    (hph : (s.clients c).phase = .processing data recorded deferred) (howned : Owned s c X)
    (hresp : ∀ m ∈ response, IsFinish X (s'.periodOf X) m) (hne : response ≠ [])
    (hinbox : ∀ m ∈ (s.clients c).inbox, ∀ p, ¬IsData X p m) :
    Delivered (s'.setPhase c (.responding data' recorded' response)) ∧
      Tracked (s'.setPhase c (.responding data' recorded' response)) := by
  have htrkd := hchgs.tracked ht howned
  refine ⟨?_, tracked_setPhase htrkd _⟩
  have hlook : s'.registry.lookup X = (s.registry.lookup X).map Registration.disable := by
    rw [hchgs.registry, if_pos rfl]
  have hclean : ∀ m ∈ response, ∀ Y q, ¬IsData Y q m := by
    rintro m hm Y q ⟨e, he⟩
    rw [show m.tag = .finish X (s'.periodOf X) from hresp m hm] at he
    cases he
  have hown : ∀ {q o}, Running s X q o → o = c := by
    rintro q o ⟨r, hr, rfl, -, -⟩
    exact howned r hr
  refine delivered_finish h (extends_responding hchgs.clients hph hclean) hchgs.log hchgs.clock
    (fun o m hm => hresp m (mem_only hm).2) ?_ ?_ ?_ ?_ ?_
  · exact periodOf_lt htrkd X
  · intro Y q o hrun
    have hrun : Running s' Y q o := hrun
    rw [hchgs.running_iff] at hrun
    split at hrun
    · obtain ⟨r, hr, -, -, hen⟩ := hrun
      obtain ⟨x, -, rfl⟩ := map_eq_some_iff.mp hr
      cases hen
    · next hY => exact ⟨hrun, hY⟩
  · intro Y q o hrun hY
    change Running s' Y q o
    rw [hchgs.running_iff, if_neg hY]
    exact hrun
  · intro q o hrun
    obtain rfl := hown hrun
    obtain ⟨r, hr, -, rfl, -⟩ := hrun
    have hperiod : s'.periodOf X = r.period :=
      periodOf_of_lookup (r := r.disable) (hlook.trans (by rw [hr]; rfl))
    obtain ⟨m, hm⟩ := exists_mem_of_ne_nil response hne
    exact ⟨hperiod.symm, m, mem_only_self hm, hresp m hm⟩
  · intro q o hrun m hm
    obtain rfl := hown hrun
    exact hinbox m hm q

theorem delivered_serve (h : Delivered s) (ht : Tracked s) {data data' : Bytes}
    {recorded recorded' deferred msb deferred' : Bool} {answer : List Sent} (now : Nat)
    (hph : (s.clients c).phase = .processing data recorded deferred)
    (hans : ∀ m ∈ answer, m.tag = .other) {req : RecordRequest} (howned : Owned s c req.context)
    (hpermits : Permits s c req) (htr : ∀ r, req = .createContext r → (s.clients c).trustLevel = 0) :
    let served := (s.register c req).serve c now answer req
    let s' := served.1.setPhase c (.responding data' recorded' (inClientOrder msb deferred' served.2))
    Delivered s' ∧ Tracked s' := by
  have hoth : ∀ m ∈ inClientOrder msb deferred' answer, m.tag = .other :=
    forall_tag_inClientOrder (T := (· = .other)) hans
  have hemp : ∀ m ∈ inClientOrder msb deferred' [], m.tag = .other :=
    forall_tag_inClientOrder (T := (· = .other)) (forall_mem_nil _)
  cases req with
  | createContext req =>
    have hchgs := changes_createContext (c := c) ht req
    have hregister : s.register c (.createContext req) =
        { s with registry := s.registry.insert req.context (Registration.ofRequest c req) } :=
      if_neg (by rw [htr req rfl]; exact Nat.lt_irrefl 0)
    rw [hregister]
    refine delivered_quietly h ht hchgs hph howned hemp ?_ ?_
    · intro r hr hen
      rw [← some.inj hr] at hen
      cases hen
    · exact fun x hx hen => .inl (hpermits x hx hen)
  | registerClients req =>
    refine delivered_changed h ht (changes_changeContext ht howned ?_ ?_ ?_ ?_) hph howned hemp
      (fun _ => rfl) (fun _ => rfl) fun _ => rfl
    · intro r
      simp only [Registration.stored, Registration.registerClients, RecordContext.registerClients, map_append]
    · exact fun _ => rfl
    · exact fun _ => rfl
    · exact fun _ => rfl
  | unregisterClients req =>
    refine delivered_changed h ht (changes_changeContext ht howned ?_ ?_ ?_ ?_) hph howned hemp
      (fun _ => rfl) (fun _ => rfl) fun _ => rfl
    · intro r
      simp only [Registration.stored, Registration.unregisterClients, RecordContext.unregisterClients]
      by_cases hemp : removeSpecs req.clientSpecs r.clientSpecs = []
      · simp only [hemp, if_true, map_nil]
      · simp only [hemp, if_false]
    · exact fun _ => rfl
    · exact fun _ => rfl
    · exact fun _ => rfl
  | getContext X => exact delivered_unchanged h ht hph hoth
  | enableContext X =>
    refine delivered_enableContext h ht (changes_enableContext ht howned) hph howned ?_
      (inClientOrder_singleton_ne_nil _ _ _)
    exact forall_tag_inClientOrder (T := (· = .start X _)) (forall_mem_singleton.mpr rfl)
  | disableContext X =>
    refine delivered_disableContext h ht (changes_disableContext ht howned) hph howned ?_
      (inClientOrder_singleton_ne_nil _ _ _) hpermits
    exact forall_tag_inClientOrder (T := (· = .finish X _)) (forall_mem_singleton.mpr rfl)
  | freeContext X =>
    refine delivered_quietly h ht (changes_freeContext s c X) hph howned hemp ?_ ?_
    · intro r hr
      cases hr
    · exact fun x hx hen => .inl (hpermits x hx hen)

/-- What is asked of a RECORD request: both byte orders read the same in it where it
matters, and what it asks for is permitted. -/
def Asked (P : Parsers) (s : Server) (c : ClientId) (data : Bytes) : Prop :=
  data.getD 0 0 = recordOpcode →
    (data.getD 1 0 ≠ 4 → P.decode false data = P.decode (s.clients c).msbFirst data) ∧
    ∀ req, P.decode (s.clients c).msbFirst data = some req → Owned s c req.context ∧ Permits s c req

instance (P : Parsers) (s : Server) (c : ClientId) (data : Bytes) : Decidable (Asked P s c data) :=
  @instDecidableForall _ _ _ (@instDecidableAnd _ _ _
    (decidableForallSome (P.decode (s.clients c).msbFirst data) fun req =>
      Owned s c req.context ∧ Permits s c req))

theorem decode_eq_none (P : Parsers) (msb : Bool) {data : Bytes} (h : data.getD 1 0 = 0 ∨ 7 < data.getD 1 0) :
    P.decode msb data = none := by
  rcases h with h | h
  · rw [Parsers.decode, h]
    rfl
  · have hminor : 7 < (data.getD 1 0).toNat := UInt8.lt_iff_toNat_lt.mp h
    rw [Parsers.decode]
    split
    all_goals first | rfl | omega

theorem decode_createContext {msb : Bool} {data : Bytes} {req : ClientsRequest}
    (h : P.decode msb data = some (.createContext req)) : data.getD 1 0 = 1 := by
  rw [Parsers.decode] at h
  split at h
  · next hminor => exact UInt8.toNat_inj.mp hminor
  all_goals simp at h

theorem enroll_eq_self (hnone : ∀ req, s.asked P c data = some req → s.register c req = s) : s.enroll P c data = s := by
  rw [Server.enroll]
  cases hasked : s.asked P c data with
  | none => rfl
  | some req => exact hnone req hasked

theorem decode_four {msb : Bool} {data : Bytes} (hminor : data.getD 1 0 = 4) {req : RecordRequest}
    (h : P.decode msb data = some req) : ∃ X, req = .getContext X := by
  rw [Parsers.decode, hminor] at h
  obtain ⟨X, -, rfl⟩ := map_eq_some_iff.mp h
  exact ⟨X, rfl⟩

theorem clients_register (s : Server) (c : ClientId) (req : RecordRequest) : (s.register c req).clients = s.clients := by
  cases req with
  | createContext req =>
    rw [Server.register]
    split <;> rfl
  | _ => rfl

theorem handleRecordRequest_eq (P : Parsers) {data : Bytes} (now : Nat) (answer : List Sent)
    (hzero : data.getD 1 0 ≠ 0) (hlarge : ¬7 < data.getD 1 0)
    (htr : ¬(data.getD 1 0 = 1 ∧ 0 < (s.clients c).trustLevel)) :
    handleRecordRequest P s c data now answer =
      match P.decode false data with
      | none => (s, [recordError Framing.lengthError (s.clients c).sequence 0 (data.getD 1 0)])
      | some req => s.serve c now answer req := by
  cases hdecode : P.decode false data with
  | none => simp only [handleRecordRequest, if_neg hzero, if_neg hlarge, if_neg htr, hdecode]
  | some req => simp only [handleRecordRequest, if_neg hzero, if_neg hlarge, if_neg htr, hdecode]

theorem recordError_other (code : Nat) (seq : UInt16) (badValue : Nat) (minor : UInt8) :
    ∀ m ∈ [recordError code seq badValue minor], m.tag = .other := by
  intro m hm
  rw [mem_singleton.mp hm]
  rfl

section Process

variable {data : Bytes} {recorded deferred : Bool} {answer : List Bytes} {now : Nat}

theorem asked_record (hop : data.getD 0 0 = recordOpcode) :
    s.asked P c data = P.decode (s.clients c).msbFirst data := if_pos hop

theorem handleRequest_record (hop : data.getD 0 0 = recordOpcode) : s.handleRequest P c data answer now =
    handleRecordRequest P s c data now (answer.map untagged) := if_pos hop

variable (h : Delivered s) (ht : Tracked s) (hph : (s.clients c).phase = .processing data recorded deferred)

include h ht hph

theorem delivered_answered (hresp : ∀ m ∈ response, m.tag = .other) (henroll : s.enroll P c data = s)
    (hhdl : s.handleRequest P c data answer now = (s, response)) :
    Delivered (s.process P c data recorded deferred answer now) ∧
      Tracked (s.process P c data recorded deferred answer now) := by
  rw [Server.process, henroll, hhdl]
  exact delivered_unchanged h ht hph (forall_tag_inClientOrder (T := (· = .other)) hresp)

theorem delivered_unread (hop : data.getD 0 0 = recordOpcode)
    (hunread : data.getD 1 0 = 0 ∨ 7 < data.getD 1 0 ∨ (data.getD 1 0 = 1 ∧ 0 < (s.clients c).trustLevel)) :
    Delivered (s.process P c data recorded deferred answer now) ∧
      Tracked (s.process P c data recorded deferred answer now) := by
  have hans : ∀ m ∈ answer.map untagged, m.tag = .other := fun m hm => tag_untagged hm
  have henroll (hno : data.getD 1 0 = 0 ∨ 7 < data.getD 1 0) : s.enroll P c data = s := enroll_eq_self fun req hr => by
    rw [asked_record hop, decode_eq_none P _ hno] at hr
    cases hr
  by_cases hzero : data.getD 1 0 = 0
  · refine delivered_answered h ht hph hans (henroll (.inl hzero)) ?_
    rw [handleRequest_record hop, handleRecordRequest]
    exact if_pos hzero
  by_cases hlarge : 7 < data.getD 1 0
  · refine delivered_answered h ht hph
      (recordError_other Framing.requestError (s.clients c).sequence (data.getD 1 0).toNat (data.getD 1 0))
      (henroll (.inr hlarge)) ?_
    rw [handleRequest_record hop, handleRecordRequest]
    rw [if_neg hzero, if_pos hlarge]
  have htr := (hunread.resolve_left hzero).resolve_left hlarge
  refine delivered_answered h ht hph (recordError_other accessError (s.clients c).sequence 0 (data.getD 1 0))
    (enroll_eq_self fun req hr => ?_) ?_
  · rw [asked_record hop, Parsers.decode, htr.1] at hr
    obtain ⟨x, -, rfl⟩ := map_eq_some_iff.mp hr
    exact if_pos htr.2
  · rw [handleRequest_record hop, handleRecordRequest]
    rw [if_neg hzero, if_neg hlarge, if_pos htr]

theorem delivered_read (hop : data.getD 0 0 = recordOpcode)
    (hasked : Asked P s c data) (hzero : data.getD 1 0 ≠ 0) (hlarge : ¬7 < data.getD 1 0)
    (htr : ¬(data.getD 1 0 = 1 ∧ 0 < (s.clients c).trustLevel)) :
    Delivered (s.process P c data recorded deferred answer now) ∧
      Tracked (s.process P c data recorded deferred answer now) := by
  have hans : ∀ m ∈ answer.map untagged, m.tag = .other := fun m hm => tag_untagged hm
  have hsrvd := handleRecordRequest_eq P now (answer.map untagged) hzero hlarge htr
  have hlen := recordError_other Framing.lengthError (s.clients c).sequence 0 (data.getD 1 0)
  obtain ⟨horders, hreq⟩ := hasked hop
  by_cases hget : data.getD 1 0 = 4
  · have henroll : s.enroll P c data = s := by
      refine enroll_eq_self fun req hr => ?_
      rw [asked_record hop] at hr
      obtain ⟨X, rfl⟩ := decode_four hget hr
      rfl
    cases hd : P.decode false data with
    | none => exact delivered_answered h ht hph hlen henroll (by rw [handleRequest_record hop, hsrvd, hd])
    | some req =>
      obtain ⟨X, rfl⟩ := decode_four hget hd
      exact delivered_answered h ht hph hans henroll (by rw [handleRequest_record hop, hsrvd, hd]; rfl)
  cases hd : P.decode (s.clients c).msbFirst data with
  | none =>
    refine delivered_answered h ht hph hlen (enroll_eq_self fun req hr => ?_)
      (by rw [handleRequest_record hop, hsrvd, horders hget, hd])
    rw [asked_record hop, hd] at hr
    cases hr
  | some req =>
    obtain ⟨howned, hpermits⟩ := hreq req hd
    have henroll : s.enroll P c data = s.register c req := by rw [Server.enroll, asked_record hop, hd]
    have hregd : (s.register c req).handleRequest P c data answer now =
        (s.register c req).serve c now (answer.map untagged) req := by
      rw [handleRequest_record hop, handleRecordRequest_eq P now _ hzero hlarge
        (by rwa [clients_register]), horders hget, hd]
    have htrusted : ∀ r, req = .createContext r → (s.clients c).trustLevel = 0 := by
      rintro r rfl
      have hone := decode_createContext hd
      by_contra hpos
      exact htr ⟨hone, Nat.pos_of_ne_zero hpos⟩
    rw [Server.process, henroll, hregd]
    exact delivered_serve h ht now hph hans howned hpermits htrusted

end Process

theorem delivered_process (h : Delivered s) (ht : Tracked s) {data : Bytes} {recorded deferred : Bool}
    {answer : List Bytes} (now : Nat) (hph : (s.clients c).phase = .processing data recorded deferred)
    (hasked : Asked P s c data) :
    Delivered (s.process P c data recorded deferred answer now) ∧
      Tracked (s.process P c data recorded deferred answer now) := by
  by_cases hop : data.getD 0 0 = recordOpcode
  · by_cases hunread : data.getD 1 0 = 0 ∨ 7 < data.getD 1 0 ∨ (data.getD 1 0 = 1 ∧ 0 < (s.clients c).trustLevel)
    · exact delivered_unread h ht hph hop hunread
    · obtain ⟨hzero, hrest⟩ := not_or.mp hunread
      obtain ⟨hlarge, htr⟩ := not_or.mp hrest
      exact delivered_read h ht hph hop hasked hzero hlarge htr
  · refine delivered_answered h ht hph (fun m hm => tag_untagged hm) (enroll_eq_self fun req hr => ?_) (if_neg hop)
    rw [Server.asked, if_neg hop] at hr
    cases hr

end X11Web.RecordRequests
