import X11Web.Climbing
import X11Web.EventWire
import X11Web.PointerWindow
import X11Web.RedirectHolder
import X11Web.Selections

namespace X11Web.SendEvent

open HashMaps Climbing Windows WindowTree CreateDestroy Attributes Runs
  X11Web.EventSelection X11Web.Selections X11Web.EventWire X11Web.Links
open RedirectHolder (Holds)

def selectionNotifyEvent : Nat := 31
def clientMessageEvent : Nat := 33

structure SendEventRequest where
  propagate : Bool
  destination : XId
  eventMask : Nat
  event : Bytes

structure Scene extends Surroundings where
  pointerX : Int
  pointerY : Int
  doNotPropagateMask : XId → Nat

def eventType (event : Bytes) : Nat := (event.getD 0 0 &&& 0x7F).toNat

/-- The bit by which a window selects events of the type, 0 if there is none. -/
def eventTypeToMask (type : Nat) : Nat :=
  if type = 2 then 2 ^ 0 else if type = 3 then 2 ^ 1
  else if type = 4 then 2 ^ 2 else if type = 5 then 2 ^ 3
  else if type = 6 then 2 ^ 6 else if type = 7 then 2 ^ 4 else if type = 8 then 2 ^ 5
  else if type = 9 ∨ type = 10 then 2 ^ 21 else if type = 11 then 2 ^ 14
  else if type = 12 then 2 ^ 15 else if type = 15 then 2 ^ 16
  else if type ∈ [16, 17, 18, 19, 21, 22, 24] then structureNotify
  else if type ∈ [20, 23, 27] then substructureRedirect
  else if type = 25 then resizeRedirect else if type = 26 then 2 ^ 19
  else if type = 28 then 2 ^ 22 else if type = 32 then 2 ^ 23 else 0

/-- The window that the destination stands for, if the loop for PointerWindow ends within the fuel. -/
def resolveDestination (fuel : Nat) (env : Scene) (destination : XId) (s : ClientState) : Option XId :=
  if destination = 0 then PointerWindow.pointerWindow fuel s.windows env.pointerX env.pointerY
  else if destination = 1 then some s.focusWindow
  else some destination

/-- Client messages to the root of which the server takes care by itself. -/
def rootMessageNames : List String :=
  ["_NET_WM_STATE", "_NET_CLOSE_WINDOW", "_NET_REQUEST_FRAME_EXTENTS", "_NET_ACTIVE_WINDOW",
    "_NET_WM_MOVERESIZE", "_NET_MOVERESIZE_WINDOW", "_NET_RESTACK_WINDOW", "WM_CHANGE_STATE",
    "_NET_SYSTEM_TRAY_OPCODE", "_XEMBED"]

def named (atoms : Properties.AtomNames) (a : Atom) (names : List String) : Bool :=
  (atoms a).any names.contains

def interceptedRootMessage (env : Scene) (target : XId) (event : Bytes) (s : ClientState) : Bool :=
  let msgType := readU32 s.msbFirst event 8
  eventType event == clientMessageEvent && target == rootWindow && decide (32 ≤ event.length) &&
    event.getD 1 0 &&& 0x7F == 32 &&
    (named env.atoms msgType rootMessageNames ||
      named env.atoms msgType ["WM_PROTOCOLS"] &&
        named env.atoms (readU32 s.msbFirst event 12) ["_NET_WM_PING"])

/-- A message to the window of the input method, which answers it. -/
def ximMessage (env : Scene) (event : Bytes) (s : ClientState) : Bool :=
  eventType event == clientMessageEvent && decide (32 ≤ event.length) &&
    readU32 s.msbFirst event 4 == ximWindow &&
    named env.atoms (readU32 s.msbFirst event 8) ["_XIM_XCONNECT", "_XIM_PROTOCOL"]

def allEventMasks (sh : Shared) (w : XId) : Nat :=
  ((sh.subscriptions.lookup w).getD []).foldl (fun acc sub => acc ||| sub.eventMask) 0

def propagateFrom (env : Scene) (bit eventMask : Nat) (s : ClientState) : Nat → XId → Option XId
  | 0, _ => none
  | n + 1, current =>
    match s.windows.lookup current with
    | none => none
    | some win =>
      if bit ≠ 0 ∧ env.doNotPropagateMask current &&& bit ≠ 0 then none
      else
        let combined := win.eventMask ||| allEventMasks s.shared current
        if eventMask ≠ 0 ∧ combined &&& eventMask ≠ 0 then some current
        else if eventMask = 0 ∧ combined ≠ 0 then some current
        else if current = rootWindow then none
        else propagateFrom env bit eventMask s n win.parent

/-- The window whose client gets the event, if it is not discarded. -/
def deliveryTarget (env : Scene) (target : XId) (req : SendEventRequest) (event : Bytes) (s : ClientState) :
    Option XId :=
  if req.propagate then
    propagateFrom env (eventTypeToMask (eventType event)) req.eventMask s maxTreeDepth target
  else if req.eventMask ≠ 0 ∧
      (s.windows.lookup target).any (fun win => win.eventMask &&& req.eventMask == 0) then none
  else some target

/-- What a SelectionNotify for the clipboard says about the data. -/
structure ClipboardNotice where
  requestor : XId
  target : Atom
  property : Atom
deriving DecidableEq

def clipboardNotice (event : Bytes) (s : ClientState) : Option ClipboardNotice :=
  let field := readU32 s.msbFirst event
  if eventType event = selectionNotifyEvent ∧ 24 ≤ event.length ∧ field 12 = Predef.clipboard ∧ field 20 ≠ 0 then
    some ⟨field 8, field 16, field 20⟩
  else none

/-- The data of the property, in the client's own copy of the window if it has it there. -/
def announcedData (n : ClipboardNotice) (s : ClientState) : Option Bytes :=
  ((Properties.cachedProperty s n.requestor n.property).or
    (Properties.sharedProperty s.shared n.requestor n.property)).map (·.data)

/-- Keep what the owner of the clipboard has given to somebody. -/
def captureClipboard (env : Scene) (event : Bytes) (s : Selector) : Selector :=
  match clipboardNotice event s.client with
  | none => s
  | some n =>
    match announcedData n s.client with
    | none => s
    | some data =>
      let entry := (s.persistentClipboard.lookup Predef.clipboard).getD ⟨∅, env.now⟩
      { s with
        persistentClipboard := s.persistentClipboard.insert Predef.clipboard
          ⟨entry.targets.insert n.target data, env.now⟩ }

/-- To the client itself, or over the route of the window if there is one. -/
def deliverTo (w : XId) (event : Bytes) (s : ClientState) : List (ClientId × Bytes) :=
  if w ∈ s.x11ToUuid ∨ w = rootWindow then [(s.clientId, event)]
  else
    let routed := sendEvent s.shared w event
    if routed.isEmpty then [(s.clientId, event)] else routed

/-- The state after the request and the copies of the event that are sent; `none` for a message
that the server answers by itself. -/
def sendToTarget (env : Scene) (req : SendEventRequest) (s : Selector) (target : XId) :
    Option (Selector × List (ClientId × Bytes) × Response) :=
  let event := markSynthetic req.event
  if eventType event < 2 then some (s, [], .error .value (eventType event) 25)
  else if ximMessage env event s.client || interceptedRootMessage env target event s.client then none
  else match deliveryTarget env target req event s.client with
    | none => some (s, [], .ok)
    | some w => some (captureClipboard env event s, deliverTo w event s.client, .ok)

def handleSendEvent (fuel : Nat) (env : Scene) (req : SendEventRequest) (s : Selector) :
    Option (Selector × List (ClientId × Bytes) × Response) :=
  (resolveDestination fuel env req.destination s.client).bind (sendToTarget env req s)

def copies (fuel : Nat) (env : Scene) (req : SendEventRequest) (s : Selector) : List (ClientId × Bytes) :=
  (handleSendEvent fuel env req s).elim [] (·.2.1)

section Receivers

/-- The client selects one of the bits on the window, by what each client last selected on it by a
request of its own. No table of the server is asked: the masks in the sender's copies may be those
of others. -/
def Selects (selected : ClientId → XId → Nat) (w : XId) (mask : Nat) (c : ClientId) : Prop :=
  selected c w &&& mask ≠ 0

def creator (s : ClientState) (w : XId) : Option ClientId :=
  if w ∈ s.x11ToUuid then some s.clientId else s.shared.eventRoutes.lookup w

/-- The next window up the tree: the sender's copies are valid, and the registry where it has
none. -/
def parentAbove (s : ClientState) (w : XId) : Option XId :=
  if w = rootWindow then none
  else ((s.windows.lookup w).or (s.shared.windows.lookup w)).map (·.parent)

def Selected (selected : ClientId → XId → Nat) (mask : Nat) (w : XId) : Prop := ∃ c, Selects selected w mask c

/-- What the server takes for a selection: a bit of the sender's copy or with the broadcaster. -/
def Listed (s : ClientState) (mask : Nat) (w : XId) : Prop :=
  cachedMask s.windows w &&& mask ≠ 0 ∨ ∃ c, Holds s.shared w mask c

def Blocks (env : Scene) (event : Bytes) (w : XId) : Prop :=
  env.doNotPropagateMask w &&& eventTypeToMask (eventType event) ≠ 0

/-- The window is the nearest on which a client selects a bit, and none before it blocks the event. -/
def Wanted (selected : ClientId → XId → Nat) (env : Scene) (target : XId) (req : SendEventRequest)
    (s : ClientState) (v : XId) : Prop :=
  ∃ below, Nearest (parentAbove s) (Selected selected req.eventMask) target below v ∧
    ∀ w ∈ below, ¬ Blocks env req.event w

inductive Expected (selected : ClientId → XId → Nat) (env : Scene) (target : XId) (req : SendEventRequest)
    (s : ClientState) : ClientId → Prop
  | created {c : ClientId} (hprop : req.propagate = false) (hmask : req.eventMask = 0)
      (hmkr : creator s target = some c) : Expected selected env target req s c
  | selected {c : ClientId} (hprop : req.propagate = false)
      (hsels : Selects selected target req.eventMask c) : Expected selected env target req s c
  | propagated {c : ClientId} {v : XId} (hprop : req.propagate = true)
      (hwanted : Wanted selected env target req s v) (hsels : Selects selected v req.eventMask c) :
      Expected selected env target req s c

/-- One copy to each client that is to get the event, and nothing to others. -/
structure Exact (event : Bytes) (expected : ClientId → Prop) (sent : List (ClientId × Bytes)) : Prop where
  once : ∀ c, expected c → sent.count (c, event) = 1
  only : ∀ d ∈ sent, expected d.1 ∧ d.2 = event

/-- The creator of the window, or the sender where the window is the root or has no creator. -/
def addressee (s : ClientState) (w : XId) : ClientId :=
  if w = rootWindow then s.clientId else (creator s w).getD s.clientId

/-- The only client that selects a bit on `u` is the one that the events of `v` are handed to. -/
def OnlyFor (selected : ClientId → XId → Nat) (s : ClientState) (mask : Nat) (u v : XId) : Prop :=
  ∀ c, Selects selected u mask c ↔ c = addressee s v

/-- The nearest window with a listed selection, if it and the way to it are near, within the sender's
copies and open. -/
def Reached (env : Scene) (target : XId) (req : SendEventRequest) (s : ClientState) (P : XId → Prop)
    (v : XId) : Prop :=
  ∃ below, Nearest (parentAbove s) P target below v ∧ below.length < maxTreeDepth ∧
    ∀ w ∈ below ++ [v], w ∈ s.windows ∧ ¬ Blocks env req.event w

/-- The event has at most one receiver, and it is the one that the server finds. -/
structure OneReceiver (selected : ClientId → XId → Nat) (env : Scene) (target : XId) (req : SendEventRequest)
    (s : ClientState) : Prop where
  /-- Without a mask, a client has made the window. -/
  created : req.propagate = false → req.eventMask = 0 →
    ∃ c, creator s target = some c ∧ (target = rootWindow → c = s.clientId)
  /-- If the sender's copy has no bit of the mask then nobody selects one. -/
  discarded : req.propagate = false → req.eventMask ≠ 0 → target ∈ s.windows →
    cachedMask s.windows target &&& req.eventMask = 0 → ∀ c, ¬ Selects selected target req.eventMask c
  /-- If it has one, or there is no copy, then the event is for one client. -/
  served : req.propagate = false → req.eventMask ≠ 0 →
    (target ∈ s.windows → cachedMask s.windows target &&& req.eventMask ≠ 0) →
    OnlyFor selected s req.eventMask target target
  /-- A window where somebody selects is wanted if a listed one is reached. -/
  wanted : req.propagate = true → req.eventMask ≠ 0 →
    ∀ v, Reached env target req s (Listed s req.eventMask) v → ∃ u, Wanted selected env target req s u
  /-- And then one is reached, the events of which are for the only client that selects. -/
  reached : req.propagate = true → req.eventMask ≠ 0 → ∀ u, Wanted selected env target req s u →
    ∃ v, Reached env target req s (Listed s req.eventMask) v ∧ OnlyFor selected s req.eventMask u v
  /-- Propagation without a mask reaches no window with any listed selection. -/
  maskless : req.propagate = true → req.eventMask = 0 →
    ∀ v, ¬ Reached env target req s (fun w => ∃ mask, Listed s mask w) v

def Withheld (env : Scene) (req : SendEventRequest) (s : ClientState) : Prop :=
  eventType req.event < 2 ∨ ximMessage env (markSynthetic req.event) s = true

end Receivers

variable {selected : ClientId → XId → Nat} {env : Scene} {target w u v : XId} {req : SendEventRequest} {s : ClientState} {t : Selector}
  {mask : Nat} {c : ClientId} {event : Bytes} {expected : ClientId → Prop}

theorem eventType_markSynthetic (raw : Bytes) : eventType (markSynthetic raw) = eventType raw := by
  cases raw with
  | nil => rfl
  | cons b raw => simp [eventType, markSynthetic, sendEventFlag, Nat.and_or_distrib_right]

theorem exact_nil : Exact event expected [] ↔ ∀ c, ¬ expected c := by
  constructor
  · intro h c hc
    simpa using h.once c hc
  · intro h
    exact ⟨fun c hc => absurd hc (h c), by simp⟩

theorem exact_singleton : Exact event expected [(c, event)] ↔ ∀ d, expected d ↔ d = c := by
  constructor
  · intro h d
    constructor
    · intro hd
      have honce := h.once d hd
      rw [List.count_singleton] at honce
      by_contra hne
      simp [Ne.symm hne] at honce
    · rintro rfl
      exact (h.only _ (List.mem_singleton_self _)).1
  · intro h
    refine ⟨fun d hd => ?_, fun d hd => ?_⟩
    · rw [(h d).mp hd, List.count_singleton_self]
    · rw [List.mem_singleton.mp hd]
      exact ⟨(h c).mpr rfl, rfl⟩

theorem deliverTo_eq (w : XId) (event : Bytes) (s : ClientState) :
    deliverTo w event s = [(addressee s w, event)] := by
  rw [deliverTo, addressee, creator, sendEvent]
  by_cases hroot : w = rootWindow
  · rw [if_pos (.inr hroot), if_pos hroot]
  · by_cases hmem : w ∈ s.x11ToUuid
    · rw [if_pos (.inl hmem), if_neg hroot, if_pos hmem, Option.getD_some]
    · rw [if_neg (not_or.mpr ⟨hmem, hroot⟩), if_neg hroot, if_neg hmem]
      cases s.shared.eventRoutes.lookup w <;> rfl

theorem foldl_masks_iff (subs : List EventSubscription) (acc : Nat) :
    subs.foldl (fun acc sub => acc ||| sub.eventMask) acc &&& mask ≠ 0 ↔
      acc &&& mask ≠ 0 ∨ ∃ sub ∈ subs, sub.eventMask &&& mask ≠ 0 := by
  induction subs generalizing acc with
  | nil => simp
  | cons sub subs ih =>
    rw [List.foldl_cons, ih, Nat.and_or_distrib_right, ne_eq, Nat.or_eq_zero_iff, not_and_or,
      List.exists_mem_cons_iff, or_assoc]

theorem combined_iff :
    (cachedMask s.windows w ||| allEventMasks s.shared w) &&& mask ≠ 0 ↔ Listed s mask w := by
  rw [Nat.and_or_distrib_right, ne_eq, Nat.or_eq_zero_iff, not_and_or]
  have hall : allEventMasks s.shared w &&& mask ≠ 0 ↔ ∃ c, Holds s.shared w mask c := by
    rw [allEventMasks, foldl_masks_iff]
    simp [Holds]
  rw [← ne_eq, ← ne_eq, hall, Listed]

/-- The search passes a window that the sender has a copy of and that lets the event through. -/
def stops (env : Scene) (bit : Nat) (s : ClientState) (w : XId) : Bool :=
  !decide (w ∈ s.windows) || env.doNotPropagateMask w &&& bit != 0

def wanted (eventMask : Nat) (s : ClientState) (w : XId) : Bool :=
  let combined := cachedMask s.windows w ||| allEventMasks s.shared w
  if eventMask = 0 then combined != 0 else combined &&& eventMask != 0

theorem propagateFrom_eq_seek (env : Scene) (bit eventMask : Nat) (s : ClientState) (n : Nat) (w : XId) :
    propagateFrom env bit eventMask s n w =
      seek (parentAbove s) (stops env bit s) (wanted eventMask s) n w := by
  induction n generalizing w with
  | zero => rfl
  | succ n ih =>
    rw [propagateFrom, seek, stops, wanted, cachedMask, parentAbove]
    cases hwin : s.windows.lookup w with
    | none => simp [← Finmap.lookup_isSome, hwin]
    | some win =>
      have hmem : w ∈ s.windows := Finmap.mem_of_lookup_eq_some hwin
      have hblocks : (bit ≠ 0 ∧ env.doNotPropagateMask w &&& bit ≠ 0) ↔
          env.doNotPropagateMask w &&& bit ≠ 0 := by
        refine and_iff_right_of_imp fun h hzero => h ?_
        rw [hzero, Nat.and_zero]
      dsimp only
      rw [if_congr hblocks rfl rfl]
      by_cases hblk : env.doNotPropagateMask w &&& bit = 0
      · have hup : (if w = rootWindow then none else propagateFrom env bit eventMask s n win.parent) =
            (if w = rootWindow then none
              else ((some win).or (s.shared.windows.lookup w)).map (·.parent)).bind
                (seek (parentAbove s) (stops env bit s) (wanted eventMask s) n) := by
          split
          · rfl
          · exact ih win.parent
        simp only [hblk, hmem, hup, Option.elim_some]
        by_cases hmask : eventMask = 0 <;> simp [hmask]
      · simp [hblk]

theorem wanted_iff (hmask : mask ≠ 0) : wanted mask s w = true ↔ Listed s mask w := by
  rw [wanted, ← combined_iff]
  simp [hmask]

theorem wanted_zero_iff : wanted 0 s w = true ↔ ∃ mask, Listed s mask w := by
  have hcombined : wanted 0 s w = true ↔ cachedMask s.windows w ||| allEventMasks s.shared w ≠ 0 := by
    simp [wanted]
  rw [hcombined]
  constructor
  · intro h
    refine ⟨cachedMask s.windows w ||| allEventMasks s.shared w, combined_iff.mp ?_⟩
    rw [Nat.and_self]
    exact h
  · rintro ⟨mask, h⟩ hzero
    refine combined_iff.mpr h ?_
    rw [hzero, Nat.zero_and]

theorem not_selects_zero : ¬ Selects selected w 0 c := fun h => h (Nat.and_zero _)

theorem stops_iff {event : Bytes} :
    stops env (eventTypeToMask (eventType event)) s w = false ↔ w ∈ s.windows ∧ ¬ Blocks env event w := by
  simp [stops, Blocks]

theorem propagateFrom_eq_some_iff (env : Scene) (target v : XId) {P : XId → Prop}
    (hwanted : ∀ w, wanted mask s w = true ↔ P w) :
    propagateFrom env (eventTypeToMask (eventType req.event)) mask s maxTreeDepth target = some v ↔
      Reached env target req s P v := by
  rw [propagateFrom_eq_seek, seek_eq_some_iff, funext fun w => propext (hwanted w)]
  simp only [stops_iff, Reached]

theorem Wanted.unique (h : Wanted selected env target req s u) (h' : Wanted selected env target req s v) : u = v := by
  obtain ⟨below, hnrst, -⟩ := h
  obtain ⟨below', hnrst', -⟩ := h'
  exact (hnrst.unique hnrst').2

theorem expected_propagated_iff (hprop : req.propagate = true) (hu : Wanted selected env target req s u) :
    Expected selected env target req s c ↔ Selects selected u req.eventMask c := by
  constructor
  · rintro (⟨hnot, -, -⟩ | ⟨hnot, -⟩ | ⟨-, hwanted, hsels⟩)
    · simp [hprop] at hnot
    · simp [hprop] at hnot
    · rwa [hu.unique hwanted]
  · exact .propagated hprop hu

theorem expected_wanted (hprop : req.propagate = true) (h : Expected selected env target req s c) :
    ∃ u, Wanted selected env target req s u := by
  rcases h with ⟨hnot, -, -⟩ | ⟨hnot, -⟩ | ⟨-, hwanted, -⟩
  · simp [hprop] at hnot
  · simp [hprop] at hnot
  · exact ⟨_, hwanted⟩

theorem Wanted.exists_expected (hprop : req.propagate = true) (hu : Wanted selected env target req s u) :
    ∃ c, Expected selected env target req s c := by
  obtain ⟨below, hnrst, hclear⟩ := hu
  obtain ⟨c, hc⟩ := hnrst.holds
  exact ⟨c, .propagated hprop ⟨below, hnrst, hclear⟩ hc⟩

theorem expected_direct_iff (hprop : req.propagate = false) :
    Expected selected env target req s c ↔
      if req.eventMask = 0 then creator s target = some c else Selects selected target req.eventMask c := by
  constructor
  · rintro (⟨-, hmask, hmkr⟩ | ⟨-, hsels⟩ | ⟨hnot, -, -⟩)
    · rw [if_pos hmask]
      exact hmkr
    · rw [if_neg]
      · exact hsels
      · intro hmask
        rw [hmask] at hsels
        exact not_selects_zero hsels
    · simp [hprop] at hnot
  · split
    · next hmask => exact .created hprop hmask
    · exact .selected hprop

variable {fuel : Nat}

theorem copies_withheld (hres : resolveDestination fuel env req.destination t.client = some target)
    (h : Withheld env req t.client) : copies fuel env req t = [] := by
  rw [copies, handleSendEvent, hres, Option.bind_some, sendToTarget]
  split
  · rfl
  · next htype =>
    rw [eventType_markSynthetic] at htype
    rw [h.resolve_left htype]
    rfl

theorem copies_eq (hres : resolveDestination fuel env req.destination t.client = some target)
    (h : ¬ Withheld env req t.client)
    (hroot : interceptedRootMessage env target (markSynthetic req.event) t.client = false) :
    copies fuel env req t = (deliveryTarget env target req (markSynthetic req.event) t.client).elim []
      (fun w => deliverTo w (markSynthetic req.event) t.client) := by
  rw [Withheld, not_or, Bool.not_eq_true] at h
  rw [copies, handleSendEvent, hres, Option.bind_some, sendToTarget]
  rw [eventType_markSynthetic, if_neg h.1, h.2, hroot]
  cases deliveryTarget env target req (markSynthetic req.event) t.client with
  | none => rfl
  | some w => rfl

/-- The receivers are the one that events for the window found are handed to, or none. -/
def ServesOnly (s : ClientState) (receivers : ClientId → Prop) : Option XId → Prop
  | none => ∀ c, ¬ receivers c
  | some w => ∀ c, receivers c ↔ c = addressee s w

theorem exact_copies_iff (hres : resolveDestination fuel env req.destination t.client = some target)
    (h : ¬ Withheld env req t.client)
    (hroot : interceptedRootMessage env target (markSynthetic req.event) t.client = false) :
    Exact (markSynthetic req.event) expected (copies fuel env req t) ↔
      ServesOnly t.client expected (deliveryTarget env target req (markSynthetic req.event) t.client) := by
  rw [copies_eq hres h hroot]
  cases deliveryTarget env target req (markSynthetic req.event) t.client with
  | none => exact exact_nil
  | some w =>
    rw [Option.elim_some, deliverTo_eq]
    exact exact_singleton

theorem deliveryTarget_direct (hprop : req.propagate = false) :
    deliveryTarget env target req event s = if req.eventMask ≠ 0 ∧ target ∈ s.windows ∧
      cachedMask s.windows target &&& req.eventMask = 0 then none else some target := by
  rw [deliveryTarget, if_neg (by simp [hprop])]
  refine if_congr (and_congr_right fun _ => ?_) rfl rfl
  rw [← Finmap.lookup_isSome, cachedMask]
  cases s.windows.lookup target <;> simp

theorem servesOnly_created_iff (hprop : req.propagate = false) (hmask : req.eventMask = 0) :
    ServesOnly s (Expected selected env target req s) (deliveryTarget env target req event s) ↔
      ∃ c, creator s target = some c ∧ (target = rootWindow → c = s.clientId) := by
  rw [deliveryTarget_direct hprop, if_neg (fun h => h.1 hmask), ServesOnly]
  simp only [expected_direct_iff hprop, hmask, if_true, addressee]
  constructor
  · intro h
    exact ⟨_, (h _).mpr rfl, fun hroot => if_pos hroot⟩
  · rintro ⟨c, hmkr, hroot⟩ d
    rw [hmkr, Option.some.injEq, Option.getD_some]
    split
    · next heq => rw [hroot heq, eq_comm]
    · exact eq_comm

theorem servesOnly_selected_iff (hprop : req.propagate = false) (hmask : req.eventMask ≠ 0) :
    ServesOnly s (Expected selected env target req s) (deliveryTarget env target req event s) ↔
      (target ∈ s.windows → cachedMask s.windows target &&& req.eventMask = 0 →
        ∀ c, ¬ Selects selected target req.eventMask c) ∧
      ((target ∈ s.windows → cachedMask s.windows target &&& req.eventMask ≠ 0) →
        OnlyFor selected s req.eventMask target target) := by
  have hexpected : Expected selected env target req s = Selects selected target req.eventMask := by
    funext c
    rw [expected_direct_iff hprop, if_neg hmask]
  rw [deliveryTarget_direct hprop, hexpected]
  by_cases hown : target ∈ s.windows ∧ cachedMask s.windows target &&& req.eventMask = 0
  · rw [if_pos ⟨hmask, hown⟩, ServesOnly]
    constructor
    · intro h
      exact ⟨fun _ _ => h, fun hsels => absurd hown.2 (hsels hown.1)⟩
    · intro h
      exact h.1 hown.1 hown.2
  · rw [if_neg (fun h => hown h.2), ServesOnly]
    constructor
    · intro h
      exact ⟨fun hmem hzero => absurd ⟨hmem, hzero⟩ hown, fun _ => h⟩
    · intro h
      exact h.2 fun hmem hzero => hown ⟨hmem, hzero⟩

theorem deliveryTarget_propagated (hprop : req.propagate = true) :
    deliveryTarget env target req (markSynthetic req.event) s =
      propagateFrom env (eventTypeToMask (eventType req.event)) req.eventMask s maxTreeDepth target := by
  rw [deliveryTarget, if_pos hprop, eventType_markSynthetic]

theorem servesOnly_maskless_iff (hprop : req.propagate = true) (hmask : req.eventMask = 0) :
    ServesOnly s (Expected selected env target req s) (deliveryTarget env target req (markSynthetic req.event) s) ↔
      ∀ v, ¬ Reached env target req s (fun w => ∃ mask, Listed s mask w) v := by
  have hnobody : ∀ c, ¬ Expected selected env target req s c := by
    intro c hc
    obtain ⟨u, hu⟩ := expected_wanted hprop hc
    rw [expected_propagated_iff hprop hu, hmask] at hc
    exact not_selects_zero hc
  have hfnd (v : XId) : _ ↔ Reached env target req s _ v :=
    propagateFrom_eq_some_iff env target v fun w => wanted_zero_iff (s := s) (w := w)
  rw [deliveryTarget_propagated hprop, hmask]
  constructor
  · intro h v hv
    rw [(hfnd v).mpr hv] at h
    exact hnobody _ ((h _).mpr rfl)
  · intro h
    cases hgoal : propagateFrom env (eventTypeToMask (eventType req.event)) 0 s maxTreeDepth target with
    | none => exact hnobody
    | some v => exact absurd ((hfnd v).mp hgoal) (h v)

theorem servesOnly_propagated_iff (hprop : req.propagate = true) (hmask : req.eventMask ≠ 0) :
    ServesOnly s (Expected selected env target req s) (deliveryTarget env target req (markSynthetic req.event) s) ↔
      (∀ v, Reached env target req s (Listed s req.eventMask) v → ∃ u, Wanted selected env target req s u) ∧
        ∀ u, Wanted selected env target req s u →
          ∃ v, Reached env target req s (Listed s req.eventMask) v ∧ OnlyFor selected s req.eventMask u v := by
  have hfnd (v : XId) : _ ↔ Reached env target req s _ v :=
    propagateFrom_eq_some_iff env target v fun w => wanted_iff (s := s) (w := w) hmask
  rw [deliveryTarget_propagated hprop]
  cases hgoal : propagateFrom env (eventTypeToMask (eventType req.event)) req.eventMask s maxTreeDepth target with
  | none =>
    have hnone : ∀ v, ¬ Reached env target req s (Listed s req.eventMask) v := by
      intro v hv
      rw [(hfnd v).mpr hv] at hgoal
      cases hgoal
    constructor
    · intro h
      refine ⟨fun v hv => absurd hv (hnone v), fun u hu => ?_⟩
      obtain ⟨c, hc⟩ := hu.exists_expected hprop
      exact absurd hc (h c)
    · rintro ⟨-, hrchd⟩ c hc
      obtain ⟨u, hu⟩ := expected_wanted hprop hc
      obtain ⟨v, hv, -⟩ := hrchd u hu
      exact hnone v hv
  | some v =>
    have hv := (hfnd v).mp hgoal
    have honly : ∀ {v'}, Reached env target req s (Listed s req.eventMask) v' → v' = v := fun h =>
      Option.some.inj (((hfnd _).mpr h).symm.trans hgoal)
    constructor
    · intro h
      refine ⟨fun _ _ => expected_wanted hprop ((h _).mpr rfl), fun u hu => ⟨v, hv, fun c => ?_⟩⟩
      rw [← expected_propagated_iff hprop hu]
      exact h c
    · rintro ⟨hwanted, hrchd⟩ c
      obtain ⟨u, hu⟩ := hwanted v hv
      obtain ⟨v', hv', hone⟩ := hrchd u hu
      obtain rfl := honly hv'
      rw [expected_propagated_iff hprop hu]
      exact hone c

/-- In each of the four cases the server finds the only receiver exactly if the clauses of the
case hold. -/
theorem servesOnly_iff :
    ServesOnly s (Expected selected env target req s) (deliveryTarget env target req (markSynthetic req.event) s) ↔
      OneReceiver selected env target req s := by
  cases hprop : req.propagate with
  | false =>
    have hdirect : ∀ {p : Prop}, req.propagate = true → p := fun h => by simp [hprop] at h
    by_cases hmask : req.eventMask = 0
    · rw [servesOnly_created_iff hprop hmask]
      constructor
      · intro h
        exact ⟨fun _ _ => h, fun _ hne => absurd hmask hne, fun _ hne => absurd hmask hne, hdirect, hdirect, hdirect⟩
      · intro h
        exact h.created hprop hmask
    · rw [servesOnly_selected_iff hprop hmask]
      constructor
      · rintro ⟨hdiscarded, hseld⟩
        exact ⟨fun _ hzero => absurd hzero hmask, fun _ _ => hdiscarded, fun _ _ => hseld, hdirect, hdirect, hdirect⟩
      · intro h
        exact ⟨h.discarded hprop hmask, h.served hprop hmask⟩
  | true =>
    have hpropagated : ∀ {p : Prop}, req.propagate = false → p := fun h => by simp [hprop] at h
    by_cases hmask : req.eventMask = 0
    · rw [servesOnly_maskless_iff hprop hmask]
      constructor
      · intro h
        exact ⟨hpropagated, hpropagated, hpropagated, fun _ hne => absurd hmask hne, fun _ hne => absurd hmask hne,
          fun _ _ => h⟩
      · intro h
        exact h.maskless hprop hmask
    · rw [servesOnly_propagated_iff hprop hmask]
      constructor
      · rintro ⟨hwanted, hrchd⟩
        exact ⟨hpropagated, hpropagated, hpropagated, fun _ _ => hwanted, fun _ _ => hrchd,
          fun _ hzero => absurd hzero hmask⟩
      · intro h
        exact ⟨h.wanted hprop hmask, h.reached hprop hmask⟩

def clientMessage (window : XId) (eventMask : Nat) : SendEventRequest :=
  ⟨false, window, eventMask, [33, 32] ++ List.replicate 30 0⟩

def quietScene : Scene := ⟨⟨fun _ => some "", 0, fun _ => false, []⟩, 0, 0, fun _ => 0⟩

/-- What the clients have selected where the first has made its window and the second has come. -/
def ownersSelection : ClientId → XId → Nat :=
  Function.update (fun _ _ => 0) 1 (Function.update (fun _ => 0) 0x400001 structureNotify)

def manageRoot : ChangeWindowAttributesRequest :=
  { window := rootWindow, eventMask := some substructureRedirect }

def manager : ClientState := acceptClient 2 false 0 1 [] firstClient.shared

def application : ClientState :=
  { firstClient with shared := (handleChangeWindowAttributes manageRoot manager).1.shared }

end X11Web.SendEvent
