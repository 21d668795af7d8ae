import X11Web.Recording

namespace X11Web.Interceptions

open Brackets EventWire HashMaps RecordRanges RecordTraffic List Option
open Recording SyncWindows Windows

variable {P : Parsers} {s s' : Server} {c o : ClientId} {X : XId} {p : Nat} {e : Element} {m : Sent}
  {payload : Bytes} {orders : Orders}

/-- In every context that selects the client the stored ranges decide on the element
as the registered ones do, and none of the client's own contexts chooses it. -/
def Recorded (s : Server) (c : ClientId) (e : Element) : Prop :=
  ∀ X r, s.registry.lookup X = some r → r.Selects c (s.clients c).resourceBase →
    ((r.stored X).Matches e = true ↔ r.Covers e) ∧ (r.owner = c → ¬r.Covers e)

def Unheard (s : Server) (c : ClientId) (e : Element) : Prop :=
  ∀ X r, s.registry.lookup X = some r → r.Selects c (s.clients c).resourceBase → ¬r.Covers e

instance decidableForallLookup {V : Type} (m : HashMap XId V) (p : XId → V → Prop) [∀ X v, Decidable (p X v)] :
    Decidable (∀ X v, m.lookup X = some v → p X v) :=
  decidable_of_iff (∀ X ∈ m.keys, ∀ v ∈ m.lookup X, p X v) ⟨fun h X v hv => h X (Finmap.mem_keys.mpr
    (Finmap.lookup_isSome.mp (by rw [hv]; rfl))) v hv, fun h X _ v hv => h X v hv⟩

instance decidableForallSome {A : Type} (x : Option A) (p : A → Prop) [∀ a, Decidable (p a)] :
    Decidable (∀ a, x = some a → p a) :=
  decidable_of_iff (∀ a ∈ x, p a) Iff.rfl

instance (s : Server) (c : ClientId) (e : Element) : Decidable (Recorded s c e) :=
  decidableForallLookup s.registry fun X r => r.Selects c (s.clients c).resourceBase →
    ((r.stored X).Matches e = true ↔ r.Covers e) ∧ (r.owner = c → ¬r.Covers e)

instance (s : Server) (c : ClientId) (e : Element) : Decidable (Unheard s c e) :=
  decidableForallLookup s.registry fun _ r => r.Selects c (s.clients c).resourceBase → ¬r.Covers e

def heard (s : Server) (c : ClientId) (e : Element) (o : ClientId) (X : XId) (p : Nat) : List Element :=
  match s.registry.lookup X with
  | none => []
  | some r =>
    if (r.owner = o ∧ r.period = p) ∧ r.Selects c (s.clients c).resourceBase ∧ r.Covers e then [e] else []

theorem hear_log (s : Server) (c : ClientId) (e : Element) (o : ClientId) (X : XId) (p : Nat) :
    (s.hear c e).log o X p = s.log o X p ++ heard s c e o X p := by
  change (match s.registry.lookup X with
    | none => s.log o X p
    | some r => if _ then s.log o X p ++ [e] else s.log o X p) = _
  rw [heard]
  cases s.registry.lookup X with
  | none => rw [append_nil]
  | some r =>
    dsimp only
    split
    · rfl
    · rw [append_nil]

theorem heard_of_unheard (h : Unheard s c e) (o : ClientId) (X : XId) (p : Nat) : heard s c e o X p = [] := by
  rw [heard]
  cases hr : s.registry.lookup X with
  | none => rfl
  | some r => exact if_neg fun ⟨_, hsels, hcvs⟩ => h X r hr hsels hcvs

theorem hear_of_unheard (h : Unheard s c e) : s.hear c e = s := by
  have hlog : (s.hear c e).log = s.log := by
    funext o X p
    rw [hear_log, heard_of_unheard h, append_nil]
  change { s with log := (s.hear c e).log } = s
  rw [hlog]

theorem hearAll_of_unheard {es : List Element} (h : ∀ e ∈ es, Unheard s c e) : s.hearAll c es = s := by
  induction es with
  | nil => rfl
  | cons e es ih =>
    rw [Server.hearAll, foldl_cons, hear_of_unheard (h e mem_cons_self)]
    exact ih fun e he => h e (mem_cons_of_mem _ he)

theorem shouldInterceptClient_stored (X : XId) (r : Registration) (source : ClientId) (base : XId) :
    (r.stored X).shouldInterceptClient source r.owner base = true ↔ r.Selects source base :=
  Bool.and_eq_true_iff

theorem interceptLocal_eq_nil (h : Tracked s) (hrec : Recorded s c e) :
    s.interceptLocal orders c e payload = [] := by
  rw [Server.interceptLocal, filterMap_eq_nil_iff]
  intro X _
  rw [h.own c X, bind_eq_none_iff]
  intro ctx hctx
  obtain ⟨r, hr, rfl⟩ := map_eq_some_iff.mp hctx
  obtain ⟨hr, howner⟩ := filter_eq_some_iff.mp hr
  have howner : r.owner = c := of_decide_eq_true howner
  refine if_neg fun hboth => ?_
  obtain ⟨hsels, hmatches⟩ := Bool.and_eq_true_iff.mp hboth
  have hsels : r.Selects c (s.clients c).resourceBase := by
    rw [← shouldInterceptClient_stored X, howner]
    exact hsels
  obtain ⟨hiff, hown⟩ := hrec X r hr hsels
  exact hown howner (hiff.mp hmatches)

/-- The report of one shared context, by its registration. -/
def sharedReply (s : Server) (orders : Orders) (c : ClientId) (e : Element) (payload : Bytes) (X : XId) :
    Option (ClientId × Sent) :=
  (s.registry.lookup X).bind fun r =>
    if r.Selects c (s.clients c).resourceBase ∧ (r.stored X).Matches e = true then
      some (r.owner, s.dataReply c X (r.stored X) e payload orders.now)
    else none

theorem interceptShared_eq (h : Tracked s) :
    s.interceptShared orders c e payload = orders.shared.filterMap (sharedReply s orders c e payload) := by
  rw [Server.interceptShared]
  congr 1
  funext X
  rw [h.shared X, sharedReply]
  cases hr : s.registry.lookup X with
  | none => rfl
  | some r =>
    rw [map_some, bind_some, bind_some]
    simp only [Registration.entry, Bool.and_eq_true, shouldInterceptClient_stored]

theorem mem_interceptShared (h : Tracked s) (hm : (o, m) ∈ s.interceptShared orders c e payload) :
    ∃ X r, s.registry.lookup X = some r ∧ r.owner = o ∧ r.enabled = true ∧
      m = s.dataReply c X (r.stored X) e payload orders.now := by
  rw [interceptShared_eq h, mem_filterMap] at hm
  obtain ⟨X, _, hX⟩ := hm
  obtain ⟨r, hr, hif⟩ := bind_eq_some_iff.mp hX
  split at hif
  · next hboth =>
    obtain ⟨rfl, rfl⟩ := Prod.mk.inj (some.inj hif)
    exact ⟨X, r, hr, rfl, hboth.1.1, rfl⟩
  · cases hif

theorem periodOf_of_lookup {r : Registration} (h : s.registry.lookup X = some r) : s.periodOf X = r.period := by
  rw [Server.periodOf, h]
  rfl

theorem elementFor_dataReply (s : Server) (c : ClientId) (X Y : XId) (p : Nat) (ctx : RecordContext)
    (e : Element) (payload : Bytes) (now : Nat) :
    elementFor X p (s.dataReply c Y ctx e payload now) = if Y = X ∧ s.periodOf Y = p then some e else none :=
  rfl

/-- What the reply of the context `Y` counts for in a stream. -/
def reported (s : Server) (orders : Orders) (c : ClientId) (e : Element) (payload : Bytes) (o : ClientId)
    (X : XId) (p : Nat) (Y : XId) : Option Element :=
  (sharedReply s orders c e payload Y).bind fun m => if m.1 = o then elementFor X p m.2 else none

theorem dataOf_sent (X : XId) (p : Nat) (messages : List (ClientId × Sent)) (o : ClientId) :
    dataOf X p ((messages.filter fun m => m.1 == o).map (·.2)) =
      messages.filterMap fun m => if m.1 = o then elementFor X p m.2 else none := by
  induction messages with
  | nil => rfl
  | cons m messages ih =>
    by_cases hm : m.1 = o
    · rw [filter_cons_of_pos (by simpa using hm), map_cons, dataOf, filterMap_cons,
        filterMap_cons, if_pos hm, ← ih]
      rfl
    · rw [filter_cons_of_neg (by simpa using hm), filterMap_cons, if_neg hm, ih]

theorem reported_of_ne {Y : XId} (hY : Y ≠ X) : reported s orders c e payload o X p Y = none := by
  rw [reported, bind_eq_none_iff]
  rintro ⟨o', m⟩ hm
  obtain ⟨r, _, hif⟩ := bind_eq_some_iff.mp hm
  split at hif
  · obtain ⟨rfl, rfl⟩ := Prod.mk.inj (some.inj hif)
    dsimp only
    rw [elementFor_dataReply]
    simp only [hY, false_and, if_false, ite_self]
  · cases hif

theorem reported_self (orders : Orders) (payload : Bytes) (o : ClientId) (X : XId) (p : Nat)
    (hrec : Recorded s c e) :
    (reported s orders c e payload o X p X).toList = heard s c e o X p := by
  rw [reported, sharedReply, heard]
  cases hr : s.registry.lookup X with
  | none => rfl
  | some r =>
    rw [bind_some]
    dsimp only
    by_cases hsels : r.Selects c (s.clients c).resourceBase
    · by_cases hmatches : (r.stored X).Matches e = true
      · have hcvs := (hrec X r hr hsels).1.mp hmatches
        rw [if_pos ⟨hsels, hmatches⟩, bind_some, elementFor_dataReply, periodOf_of_lookup hr]
        by_cases howner : r.owner = o <;> by_cases hperiod : r.period = p <;>
          simp [howner, hperiod, hsels, hcvs]
      · have hcvs := fun h => hmatches ((hrec X r hr hsels).1.mpr h)
        rw [if_neg fun h => hmatches h.2, if_neg fun h => hcvs h.2.2]
        rfl
    · rw [if_neg fun h => hsels h.1, if_neg fun h => hsels h.2.1]
      rfl

theorem dataOf_interceptShared (h : Tracked s) (hvalid : Enumerates orders.shared s.shared)
    (hrec : Recorded s c e) (o : ClientId) (X : XId) (p : Nat) :
    dataOf X p (((s.interceptShared orders c e payload).filter fun m => m.1 == o).map (·.2)) =
      heard s c e o X p := by
  have hrepd : dataOf X p (((s.interceptShared orders c e payload).filter fun m => m.1 == o).map (·.2)) =
      orders.shared.filterMap (reported s orders c e payload o X p) := by
    rw [dataOf_sent, interceptShared_eq h, filterMap_filterMap]
    rfl
  rw [hrepd, ← reported_self orders payload o X p hrec]
  refine filterMap_eq_of_unique hvalid.1 (fun Y hY => reported_of_ne hY) fun hX => ?_
  have hnone : s.registry.lookup X = none := by
    have hshd : s.shared.lookup X = none := by
      rw [Finmap.lookup_eq_none]
      exact fun hmem => hX ((hvalid.2 X).mpr hmem)
    rw [h.shared X] at hshd
    exact map_eq_none_iff.mp hshd
  rw [reported, sharedReply, hnone]
  rfl

/-! ### One report and a list of them -/

theorem send_nil (s : Server) : s.send [] = s := by
  simp only [Server.send, filter_nil, map_nil, append_nil]

theorem send_append (s : Server) (l l' : List (ClientId × Sent)) : s.send (l ++ l') = (s.send l).send l' := by
  simp only [Server.send, filter_append, map_append, append_assoc]

def report (s : Server) (orders : Orders) (c : ClientId) (e : Element) (payload : Bytes) : Server :=
  (s.send (s.interceptShared orders c e payload)).hear c e

theorem tracked_report (h : Tracked s) : Tracked (report s orders c e payload) where
  shared := h.shared
  own := h.own
  clock_pos := h.clock_pos
  period_lt := h.period_lt
  period_pos := h.period_pos

theorem delivered_report (h : Delivered s) (ht : Tracked s) (hvalid : Enumerates orders.shared s.shared)
    (hrec : Recorded s c e) (hpay : e.bytes <+: payload) :
    Delivered (report s orders c e payload) where
  pending_other := h.pending_other
  response_clean := h.response_clean
  inbox_running o m hm := by
    rcases mem_append.mp hm with hm | hm
    · exact h.inbox_running o m hm
    · obtain ⟨⟨o', m⟩, hsent, rfl⟩ := mem_map.mp hm
      obtain ⟨hrep, ho⟩ := mem_filter.mp hsent
      obtain rfl : o' = o := by simpa using ho
      obtain ⟨X, r, hr, howner, hen, rfl⟩ := mem_interceptShared ht hrep
      exact .inr ⟨X, s.periodOf X, e, rfl, r, hr, howner, (periodOf_of_lookup hr).symm, hen⟩
  written_before := h.written_before
  started := h.started
  bracketed := h.bracketed
  finished := h.finished
  once o X p := by
    have hinbox : ((report s orders c e payload).clients o).inbox = (s.clients o).inbox ++
        ((s.interceptShared orders c e payload).filter fun m => m.1 == o).map (·.2) := rfl
    have hstrm : ((report s orders c e payload).clients o).stream = (s.clients o).stream := rfl
    have hlog : (report s orders c e payload).log o X p = s.log o X p ++ heard s c e o X p :=
      hear_log (s.send (s.interceptShared orders c e payload)) c e o X p
    rw [hinbox, hstrm, hlog, ← append_assoc, dataOf_append, h.once,
      dataOf_interceptShared ht hvalid hrec]
  carried o m hm X p e' htag := by
    change m ∈ (s.clients o).stream ++ ((s.clients o).inbox ++
      ((s.interceptShared orders c e payload).filter fun m => m.1 == o).map (·.2)) at hm
    rw [← append_assoc] at hm
    rcases mem_append.mp hm with hm | hm
    · exact h.carried o m hm X p e' htag
    · obtain ⟨⟨o', m⟩, hsent, rfl⟩ := mem_map.mp hm
      obtain ⟨X', r, _, _, _, rfl⟩ := mem_interceptShared ht (mem_filter.mp hsent).1
      obtain ⟨-, -, rfl⟩ := Tag.data.inj htag
      exact buildRecordDataReply_carries hpay _ _ _ _

theorem setClient_eq_self {f : Client → Client} (h : f (s.clients c) = s.clients c) : s.setClient c f = s := by
  rw [Server.setClient, h, Function.update_eq_self]

theorem intercept_eq (h : Tracked s) (hrec : Recorded s c e) :
    s.intercept orders c e payload = s.send (s.interceptShared orders c e payload) := by
  rw [Server.intercept, interceptLocal_eq_nil h hrec, setClient_eq_self (by rw [append_nil])]

/-! ### Events -/

/-- An event that the interception lets through is recorded rightly, and another one
is not to be recorded. -/
def Observed (s : Server) (c : ClientId) (event : Bytes) : Prop :=
  ∀ e, coreEvent event = some e → if recordable event then Recorded s c e else Unheard s c e

instance (s : Server) (c : ClientId) (event : Bytes) : Decidable (Observed s c event) :=
  decidableForallSome (coreEvent event) fun e => if recordable event then Recorded s c e else Unheard s c e

/-- The only event of an entry is observed. Those of a longer entry are not intercepted. -/
def ObservedEntry (s : Server) (c : ClientId) : List Bytes → Prop
  | [event] => Observed s c event
  | events => ∀ event ∈ events, ∀ e, coreEvent event = some e → Unheard s c e

instance (s : Server) (c : ClientId) : (events : List Bytes) → Decidable (ObservedEntry s c events)
  | [event] => inferInstanceAs (Decidable (Observed s c event))
  | [] => .isTrue (by simp [ObservedEntry])
  | a :: b :: events =>
    List.decidableBAll (fun event => ∀ e, coreEvent event = some e → Unheard s c e) (a :: b :: events)

theorem eventCode_of_le {code : UInt8} (h : code ≤ 34) : eventCode code = code := by
  have hcode : code.toNat ≤ 34 := UInt8.le_iff_toNat_le.mp h
  apply UInt8.toNat_inj.mp
  change (code &&& 0x7f).toNat = code.toNat
  rw [UInt8.toNat_and, show (0x7f : UInt8).toNat = 2 ^ 7 - 1 from rfl, Nat.and_two_pow_sub_one_eq_mod]
  omega

theorem coreEvent_of_recordable {event : Bytes} (h : recordable event = true) :
    coreEvent event = some (.event event) := by
  simp only [recordable, Bool.and_eq_true, beq_iff_eq, decide_eq_true_eq] at h
  obtain ⟨⟨hlen, hmin⟩, hmax⟩ := h
  rw [coreEvent, eventCode_of_le hmax, if_pos ⟨hlen, hmin, hmax⟩]

def observeOne (s : Server) (orders : Orders) (c : ClientId) (event : Bytes) : Server :=
  (if recordable event then s.send (s.interceptShared orders c (.event event) event) else s).hearAll c
    (coreEvent event).toList

theorem observeOne_of_recordable {event : Bytes} (h : recordable event = true) :
    observeOne s orders c event = report s orders c (.event event) event := by
  rw [observeOne, if_pos h, coreEvent_of_recordable h]
  rfl

theorem observe_fst (s : Server) (c : ClientId) (events : List Sent) (orders : Orders) :
    (s.observe c events orders).1 = events.foldl (fun s m => observeOne s orders c m.bytes) s := by
  induction events generalizing s with
  | nil => exact send_nil s
  | cons m events ih =>
    have hrest : ∀ l, (s.send l).hearAll c ((m :: events).filterMap fun m => coreEvent m.bytes) =
        ((s.hearAll c (coreEvent m.bytes).toList).send l).hearAll c
          (events.filterMap fun m => coreEvent m.bytes) := by
      intro l
      rw [filterMap_cons]
      cases coreEvent m.bytes <;> rfl
    change (s.send (((m :: events).map (·.bytes)).filter recordable |>.flatMap fun event =>
      s.interceptShared orders c (.event event) event)).hearAll c
        ((m :: events).filterMap fun m => coreEvent m.bytes) = _
    rw [foldl_cons, ← ih, hrest]
    by_cases h : recordable m.bytes = true
    · rw [observeOne_of_recordable h, map_cons, filter_cons_of_pos h, flatMap_cons, send_append,
        coreEvent_of_recordable h]
      rfl
    · rw [observeOne, if_neg h, map_cons, filter_cons_of_neg h]
      cases coreEvent m.bytes <;> rfl

theorem observeOne_eq {event : Bytes} (h : Observed s c event) :
    observeOne s orders c event = s ∨ recordable event = true ∧ Recorded s c (.event event) ∧
      observeOne s orders c event = report s orders c (.event event) event := by
  by_cases hrecb : recordable event = true
  · have hrec := h _ (coreEvent_of_recordable hrecb)
    rw [if_pos hrecb] at hrec
    exact .inr ⟨hrecb, hrec, observeOne_of_recordable hrecb⟩
  · refine .inl ?_
    rw [observeOne, if_neg hrecb]
    cases he : coreEvent event with
    | none => rfl
    | some e =>
      have hunheard := h e he
      rw [if_neg hrecb] at hunheard
      exact hear_of_unheard hunheard

theorem delivered_observe {events : List Sent} (h : Delivered s) (ht : Tracked s)
    (hvalid : Enumerates orders.shared s.shared) (hobs : ∀ m ∈ events, Observed s c m.bytes) :
    Delivered (s.observe c events orders).1 ∧ Tracked (s.observe c events orders).1 := by
  rw [observe_fst]
  induction events generalizing s with
  | nil => exact ⟨h, ht⟩
  | cons m events ih =>
    have hrest := fun m' hm' => hobs m' (mem_cons_of_mem m hm')
    rw [foldl_cons]
    rcases observeOne_eq (hobs m mem_cons_self) with heq | ⟨-, hrec, heq⟩
    · rw [heq]
      exact ih h ht hvalid hrest
    · rw [heq]
      exact ih (delivered_report h ht hvalid hrec prefix_rfl) (tracked_report ht) hvalid hrest

theorem observe_snd {events : List Sent} (ht : Tracked s) (hobs : ∀ m ∈ events, Observed s c m.bytes) :
    (s.observe c events orders).2 = [] := by
  change (((events.map (·.bytes)).filter recordable).flatMap fun event =>
    s.interceptLocal orders c (.event event) event) = []
  rw [flatMap_eq_nil_iff]
  intro event hev
  obtain ⟨hmem, hrecb⟩ := mem_filter.mp hev
  obtain ⟨m, hm, rfl⟩ := mem_map.mp hmem
  have hrec := hobs m hm _ (coreEvent_of_recordable hrecb)
  rw [if_pos hrecb] at hrec
  exact interceptLocal_eq_nil ht hrec

end X11Web.Interceptions
