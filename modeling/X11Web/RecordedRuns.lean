import X11Web.RecordRequests

namespace X11Web.RecordedRuns

open EventWire Interceptions RecordEvents RecordRanges
open RecordRequests RecordSteps RecordTraffic Recording Runs Windows

variable {P : Parsers} {s s' : Server} {c : ClientId} {l : Label}

/-- What is asked of the request that a connection is working on. -/
def TamePhase (P : Parsers) (s : Server) (c : ClientId) : Phase → Prop
  | .idle => True
  | .processing data _ _ => Asked P s c data
  | .responding data recorded response => Answered s c (data.getD 0 0) (data.getD 1 0) recorded response

instance (P : Parsers) (s : Server) (c : ClientId) : (phase : Phase) → Decidable (TamePhase P s c phase)
  | .idle => .isTrue trivial
  | .processing data _ _ => inferInstanceAs (Decidable (Asked P s c data))
  | .responding data recorded response =>
    inferInstanceAs (Decidable (Answered s c (data.getD 0 0) (data.getD 1 0) recorded response))

def TameInbox (s : Server) (c : ClientId) : List Sent → Prop
  | [] => True
  | m :: _ => Observed s c (m.patch (s.clients c).msbFirst (s.clients c).sequence).bytes

instance (s : Server) (c : ClientId) : (inbox : List Sent) → Decidable (TameInbox s c inbox)
  | [] => .isTrue trivial
  | m :: _ => inferInstanceAs (Decidable (Observed s c (m.patch (s.clients c).msbFirst (s.clients c).sequence).bytes))

/-- The condition on a step. An element that goes through one of the interceptions is
recorded rightly, another one is chosen by no enabled context, and a RECORD request is
the owner's, reads the same in both byte orders and breaks no period. -/
def Tame (P : Parsers) (s : Server) : Label → Prop
  | .request c data _ _ => Recorded s c (.request data)
  | .bigRequest c raw _ => Unheard s c (.request raw)
  | .rejected c header => Unheard s c (.request header) ∧ Unheard s c (.error (s.lengthErrorFor c header))
  | .handle c _ _ => TamePhase P s c (s.clients c).phase
  | .respond c _ => TamePhase P s c (s.clients c).phase
  | .queue _ _ => True
  | .flush c limited _ => ∀ m ∈ s.pendingEvents c limited, Observed s c m.bytes
  | .receive c _ => TameInbox s c (s.clients c).inbox
  | .input c events _ => ObservedEntry s c events
  | .direct c events => ∀ event ∈ events, ∀ e, coreEvent event = some e → Unheard s c e
  | .notify _ _ => True

instance (P : Parsers) (s : Server) : (l : Label) → Decidable (Tame P s l)
  | .request c data _ _ => inferInstanceAs (Decidable (Recorded s c (.request data)))
  | .bigRequest c raw _ => inferInstanceAs (Decidable (Unheard s c (.request raw)))
  | .rejected c header =>
    inferInstanceAs (Decidable (Unheard s c (.request header) ∧
      Unheard s c (.error (s.lengthErrorFor c header))))
  | .handle c _ _ => inferInstanceAs (Decidable (TamePhase P s c (s.clients c).phase))
  | .respond c _ => inferInstanceAs (Decidable (TamePhase P s c (s.clients c).phase))
  | .queue _ _ => .isTrue trivial
  | .flush c limited _ => inferInstanceAs (Decidable (∀ m ∈ s.pendingEvents c limited, Observed s c m.bytes))
  | .receive c _ => inferInstanceAs (Decidable (TameInbox s c (s.clients c).inbox))
  | .input c events _ => inferInstanceAs (Decidable (ObservedEntry s c events))
  | .direct c events =>
    List.decidableBAll (fun event => ∀ e, coreEvent event = some e → Unheard s c e) events
  | .notify _ _ => .isTrue trivial

/-- A RECORD request is about a context of the client's own, or about none. -/
def OwnPhase (P : Parsers) (s : Server) (c : ClientId) : Phase → Prop
  | .processing data _ _ => ∀ req, s.asked P c data = some req → Owned s c req.context
  | _ => True

instance (P : Parsers) (s : Server) (c : ClientId) : (phase : Phase) → Decidable (OwnPhase P s c phase)
  | .processing data _ _ => decidableForallSome (s.asked P c data) fun req => Owned s c req.context
  | .idle => .isTrue trivial
  | .responding _ _ _ => .isTrue trivial

def ByOwner (P : Parsers) (s : Server) : Label → Prop
  | .handle c _ _ => OwnPhase P s c (s.clients c).phase
  | _ => True

instance (P : Parsers) (s : Server) : (l : Label) → Decidable (ByOwner P s l)
  | .handle c _ _ => inferInstanceAs (Decidable (OwnPhase P s c (s.clients c).phase))
  | .request _ _ _ _ => .isTrue trivial
  | .bigRequest _ _ _ => .isTrue trivial
  | .rejected _ _ => .isTrue trivial
  | .respond _ _ => .isTrue trivial
  | .queue _ _ => .isTrue trivial
  | .flush _ _ _ => .isTrue trivial
  | .receive _ _ => .isTrue trivial
  | .input _ _ _ => .isTrue trivial
  | .direct _ _ => .isTrue trivial
  | .notify _ _ => .isTrue trivial

def Steps (P : Parsers) (s : Server) (l : Label) (s' : Server) : Prop := step P s l = some s'

/-- No context has been made yet, and no connection is within a request. -/
structure Initial (s : Server) : Prop where
  shared : s.shared = ∅
  registry : s.registry = ∅
  contexts : ∀ c, (s.clients c).contexts = ∅
  phase : ∀ c, (s.clients c).phase = .idle
  pending : ∀ c, ∀ m ∈ (s.clients c).pending, m.tag = .other
  inbox : ∀ c, ∀ m ∈ (s.clients c).inbox, m.tag = .other
  stream : ∀ c, ∀ m ∈ (s.clients c).stream, m.tag = .other
  clock : 0 < s.clock
  log : ∀ o X p, s.log o X p = []

theorem Initial.not_running (h : Initial s) (X : XId) (p : Nat) (o : ClientId) : ¬Running s X p o := by
  rintro ⟨r, hr, -⟩
  rw [h.registry, Finmap.lookup_empty] at hr
  cases hr

theorem Initial.tracked (h : Initial s) : Tracked s where
  shared X := by rw [h.shared, h.registry]; rfl
  own c X := by rw [h.contexts, h.registry]; rfl
  clock_pos := h.clock
  period_lt X r hr := by
    rw [h.registry, Finmap.lookup_empty] at hr
    cases hr
  period_pos X r hr := by
    rw [h.registry, Finmap.lookup_empty] at hr
    cases hr

theorem Initial.written (h : Initial s) {m : Sent} (hm : m ∈ (s.clients c).written) : m.tag = .other := by
  rw [written_of_idle (h.phase c)] at hm
  exact h.stream c m hm

theorem Initial.delivered (h : Initial s) : Delivered s where
  pending_other := h.pending
  response_clean c m hm := by
    rw [h.phase] at hm
    cases hm
  inbox_running c m hm := .inl (h.inbox c m hm)
  written_before c m hm := by
    rw [h.written hm]
    trivial
  started X p c hrun := absurd hrun (h.not_running X p c)
  bracketed c X p pre m post hl hm := by
    have hmem : m ∈ (s.clients c).written := by rw [hl]; exact List.mem_append_right _ List.mem_cons_self
    exact absurd hm (not_isData_of_other (h.written hmem) X p)
  finished X p c := by
    rintro ⟨m, hm, hdata⟩
    exact absurd hdata (not_isData_of_other (h.written hm) X p)
  once o X p := by
    rw [h.log, dataOf_eq_nil_iff]
    intro m hm
    rcases List.mem_append.mp hm with hm | hm
    · exact not_isData_of_other (h.stream o m hm) X p
    · exact not_isData_of_other (h.inbox o m hm) X p
  carried o m hm X p e htag := by
    rcases List.mem_append.mp hm with hm | hm
    · exact absurd ⟨e, htag⟩ (not_isData_of_other (h.stream o m hm) X p)
    · exact absurd ⟨e, htag⟩ (not_isData_of_other (h.inbox o m hm) X p)

theorem of_ite_some {cond : Prop} [Decidable cond] {a b : Server} (h : (if cond then some a else none) = some b) :
    cond ∧ a = b := by
  obtain ⟨hcond, heq⟩ := Option.ite_none_right_eq_some.mp h
  exact ⟨hcond, Option.some.inj heq⟩

theorem delivered_step (h : Delivered s ∧ Tracked s) (htame : Tame P s l) (hstep : Steps P s l s') :
    Delivered s' ∧ Tracked s' := by
  obtain ⟨h, ht⟩ := h
  rw [Steps] at hstep
  cases l with
  | request c data deferred o =>
    obtain ⟨⟨hph, hdata, hvalid⟩, rfl⟩ := of_ite_some hstep
    exact delivered_takeRequest h ht hph hdata deferred hvalid.1 htame
  | bigRequest c raw deferred =>
    obtain ⟨⟨hph, -⟩, rfl⟩ := of_ite_some hstep
    exact delivered_takeBigRequest h ht hph raw deferred htame
  | rejected c header =>
    obtain ⟨⟨hph, -⟩, rfl⟩ := of_ite_some hstep
    exact delivered_reject h ht hph header htame.1 htame.2
  | handle c answer now =>
    rw [step] at hstep
    rw [Tame] at htame
    split at hstep
    · next data recorded deferred hph =>
      rw [hph] at htame
      obtain ⟨-, rfl⟩ := of_ite_some hstep
      exact delivered_process h ht now hph htame
    · cases hstep
  | respond c o =>
    rw [step] at hstep
    rw [Tame] at htame
    split at hstep
    · next data recorded response hph =>
      rw [hph] at htame
      obtain ⟨hvalid, rfl⟩ := of_ite_some hstep
      exact delivered_respond h ht hph hvalid.1 htame
    · cases hstep
  | queue c events =>
    obtain rfl := Option.some.inj hstep
    exact ⟨delivered_queue h events, tracked_setClient ht fun _ => rfl⟩
  | flush c limited o =>
    obtain ⟨⟨hph, hvalid⟩, rfl⟩ := of_ite_some hstep
    exact delivered_flush h ht hph limited hvalid.1 htame
  | receive c o =>
    rw [step] at hstep
    rw [Tame] at htame
    split at hstep
    · cases hstep
    · next m rest hinbox =>
      rw [hinbox] at htame
      obtain ⟨⟨hph, hvalid⟩, rfl⟩ := of_ite_some hstep
      exact delivered_receive h ht hph hinbox hvalid.1 htame
  | input c events o =>
    obtain ⟨⟨hph, hvalid, hlong⟩, rfl⟩ := of_ite_some hstep
    exact delivered_input h ht hph hlong hvalid.1 htame
  | direct c events =>
    obtain ⟨hph, rfl⟩ := of_ite_some hstep
    exact delivered_writeDirect h ht hph htame
  | notify c event =>
    obtain rfl := Option.some.inj hstep
    exact ⟨delivered_notify h event, tracked_setClient ht fun _ => rfl⟩

/-- The parsers as the requests are laid out on the wire. -/
def wireRange (msb : Bool) (b : Bytes) (i : Nat) : WireRange where
  coreRequests := ⟨b.getD i 0, b.getD (i + 1) 0⟩
  coreReplies := ⟨b.getD (i + 2) 0, b.getD (i + 3) 0⟩
  extRequests := ⟨⟨b.getD (i + 4) 0, b.getD (i + 5) 0⟩,
    ⟨UInt16.ofNat (readU16 msb b (i + 6)), UInt16.ofNat (readU16 msb b (i + 8))⟩⟩
  extReplies := ⟨⟨b.getD (i + 10) 0, b.getD (i + 11) 0⟩,
    ⟨UInt16.ofNat (readU16 msb b (i + 12)), UInt16.ofNat (readU16 msb b (i + 14))⟩⟩
  deliveredEvents := ⟨b.getD (i + 16) 0, b.getD (i + 17) 0⟩
  deviceEvents := ⟨b.getD (i + 18) 0, b.getD (i + 19) 0⟩
  errors := ⟨b.getD (i + 20) 0, b.getD (i + 21) 0⟩

def wireClients (msb : Bool) (b : Bytes) : Option ClientsRequest :=
  if b.length < 20 + 4 * readU32 msb b 12 + 24 * readU32 msb b 16 then none
  else some {
    context := readU32 msb b 4
    elementHeader := b.getD 8 0
    clientSpecs := (List.range (readU32 msb b 12)).map fun k => readU32 msb b (20 + 4 * k)
    ranges := (List.range (readU32 msb b 16)).map fun k =>
      wireRange msb b (20 + 4 * readU32 msb b 12 + 24 * k) }

def wireContext (msb : Bool) (b : Bytes) : Option XId :=
  if b.length < 8 then none else some (readU32 msb b 4)

def wireParsers : Parsers where
  createContext := wireClients
  registerClients := wireClients
  unregisterClients msb b :=
    if b.length < 12 + 4 * readU32 msb b 8 then none
    else some ⟨readU32 msb b 4, (List.range (readU32 msb b 8)).map fun k => readU32 msb b (12 + 4 * k)⟩
  getContext := wireContext
  enableContext := wireContext
  disableContext := wireContext
  freeContext := wireContext

def atRest : Server where
  clients c :=
    { resourceBase := 0x200000 * c
      msbFirst := false
      trustLevel := 0
      maxPendingEvents := 65536
      sequence := 0
      contexts := ∅
      pending := []
      inbox := []
      stream := []
      phase := .idle }
  shared := ∅
  registry := ∅
  clock := 1
  log _ _ _ := []

/-- A context for the core requests, replies and events of all other clients. -/
def createRequest : Bytes :=
  [154, 1, 12, 0] ++ [1, 0, 32, 0] ++ [0, 0, 0, 0] ++ [1, 0, 0, 0] ++ [1, 0, 0, 0] ++ [3, 0, 0, 0] ++
    [1, 127, 1, 127] ++ List.replicate 12 0 ++ [2, 34] ++ List.replicate 6 0

def contextRequest (minor : UInt8) : Bytes := [154, minor, 2, 0, 1, 0, 32, 0]

def idleOrders : Orders := ⟨[], [], 0⟩
def recorderOrders : Orders := ⟨[0x200001], [0x200001], 0⟩
def sourceOrders : Orders := ⟨[0x200001], [], 0⟩

def enabling : List Label :=
  [.request 1 createRequest false idleOrders, .handle 1 [] 0, .respond 1 recorderOrders,
    .request 1 (contextRequest 5) false recorderOrders, .handle 1 [] 0, .respond 1 recorderOrders]

def flagged : Bytes := [0x82] ++ List.replicate 31 0

theorem atRest_initial : Initial atRest where
  shared := rfl
  registry := rfl
  contexts _ := rfl
  phase _ := rfl
  pending _ := by simp [atRest]
  inbox _ := by simp [atRest]
  stream _ := by simp [atRest]
  clock := Nat.one_pos
  log _ _ _ := rfl

def guardedStep (P : Parsers) (guard : Server → Label → Prop) [∀ s l, Decidable (guard s l)] (s : Server) (l : Label) :
    Option Server :=
  if guard s l then step P s l else none

theorem run_of_any {guard : Server → Label → Prop} [∀ s l, Decidable (guard s l)] {labels : List Label}
    {test : Server → Bool} (h : (labels.foldlM (guardedStep P guard) s).any test = true) :
    ∃ s', Run (guarded guard (Steps P)) s labels s' ∧ test s' = true := by
  cases hs : labels.foldlM (guardedStep P guard) s with
  | none =>
    rw [hs] at h
    cases h
  | some s' =>
    rw [hs] at h
    refine ⟨s', (Run.of_foldlM hs).mono fun s l s' hstep => ?_, h⟩
    exact Option.ite_none_right_eq_some.mp hstep

/-- An event with the `SendEvent` bit goes to the second client unrecorded. -/
def flaggedEvent : List Label := enabling ++ [.notify 2 flagged, .receive 2 sourceOrders]

/-- A request of the second client and its reply, which go to the first one. -/
def request : Element := .request [43, 0, 1, 0]
def reply : Element := .reply 43 0 (1 :: List.replicate 31 0)

def session : List Label :=
  enabling ++ [.request 2 request.bytes false sourceOrders, .handle 2 [reply.bytes] 0, .respond 2 sourceOrders,
    .receive 1 recorderOrders, .receive 1 recorderOrders, .request 1 (contextRequest 6) false recorderOrders,
    .handle 1 [] 0, .respond 1 recorderOrders]

end X11Web.RecordedRuns
