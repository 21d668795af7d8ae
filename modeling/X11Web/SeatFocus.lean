import X11Web.FocusLog
import X11Web.Runs

namespace X11Web.SeatFocus

open FocusLog List Option

/-- A `wl_surface`, with the client that owns it. -/
structure Surface where
  id : Nat
  client : Nat
deriving DecidableEq

/-- A `wl_pointer` or a `wl_keyboard`, with the client that created it. -/
structure Resource where
  id : Nat
  client : Nat
  version : Nat
deriving DecidableEq

structure Modifiers where
  depressed : UInt32
  latched : UInt32
  locked : UInt32
  layout : UInt32
deriving DecidableEq

inductive Event (F : Type)
  | pointerEnter (serial : UInt32) (surface : Surface) (x y : F)
  | pointerLeave (serial : UInt32) (surface : Surface)
  | motion (time : UInt32) (x y : F)
  | frame
  | keymap
  | repeatInfo (rate delay : Int)
  | keyboardEnter (serial : UInt32) (surface : Surface) (keys : List UInt32)
  | keyboardLeave (serial : UInt32) (surface : Surface)
  | modifiers (serial : UInt32) (mods : Modifiers)

structure Pointer where
  resource : Resource
  focus : Option Surface
  lastEnter : Option UInt32
  lastMotion : Option (Int × Int)

structure Keyboard where
  resource : Resource
  focus : Option Surface

structure SeatState (F : Type) where
  pointers : List Pointer
  keyboards : List Keyboard
  kbActive : Bool
  focus : Option Surface
  ptrFocus : Option (Surface × F × F)
  pressedKeys : List UInt32
  mods : Modifiers

inductive Record (F : Type)
  | created (surface : Surface)
  | destroyed (surface : Surface)
  | sent (resource : Resource) (event : Event F)

/-- The seat among the objects of the display, with the record of what has happened. -/
structure State (F : Type) where
  seat : SeatState F
  surfaces : List Surface
  nextId : Nat
  log : List (Record F)

variable {F : Type}

def State.isAlive (st : State F) (s : Surface) : Bool := s ∈ st.surfaces

def forAll {P : Type} (resource : P → Resource) (f : P → P × List (Event F)) (ps : List P) :
    List P × List (Record F) :=
  (ps.map fun p => (f p).1, ps.flatMap fun p => (f p).2.map (.sent (resource p)))

def pointerFrame (pointer : Resource) : List (Event F) := if 5 ≤ pointer.version then [.frame] else []

/-- The first pass of `pointer_focus`. -/
def Pointer.unfocus (surface : Option Surface) (serial : UInt32) (p : Pointer) : Pointer × List (Event F) :=
  match p.focus with
  | none => (p, [])
  | some focus =>
    let unfocus := match surface with
      | some s => s != focus
      | none => true
    if unfocus then
      ({ p with focus := none, lastEnter := none, lastMotion := none },
        .pointerLeave serial focus :: pointerFrame p.resource)
    else (p, [])

/-- The second pass of `pointer_focus`. -/
def Pointer.enter (surface : Surface) (x y : F) (serial : UInt32) (p : Pointer) : Pointer × List (Event F) :=
  if p.focus = some surface then (p, [])
  else if surface.client ≠ p.resource.client then (p, [])
  else
    ({ p with focus := some surface, lastEnter := some serial, lastMotion := none },
      .pointerEnter serial surface x y :: pointerFrame p.resource)

/-- `fixed` is the conversion of a coordinate to 256ths of a pixel. -/
def Pointer.motion (fixed : F → Int) (x y : F) (time : UInt32) (p : Pointer) : Pointer × List (Event F) :=
  let pos := (fixed x, fixed y)
  if p.focus = none ∨ p.lastMotion = some pos then (p, [])
  else ({ p with lastMotion := some pos }, .motion time x y :: pointerFrame p.resource)

namespace SeatState

def pointerFocus (surface : Option Surface) (x y : F) (serial : UInt32) (seat : SeatState F) :
    SeatState F × List (Record F) :=
  let (pointers, left) := forAll Pointer.resource (Pointer.unfocus surface serial) seat.pointers
  let seat := { seat with ptrFocus := surface.map fun s => (s, x, y), pointers }
  match surface with
  | none => (seat, left)
  | some surface =>
    let (pointers, entered) := forAll Pointer.resource (Pointer.enter surface x y serial) pointers
    ({ seat with pointers }, left ++ entered)

def pointerMotion (fixed : F → Int) (x y : F) (time : UInt32) (seat : SeatState F) : SeatState F × List (Record F) :=
  let (pointers, moved) := forAll Pointer.resource (Pointer.motion fixed x y time) seat.pointers
  ({ seat with pointers }, moved)

def pointerMotionFocus (fixed : F → Int) (isAlive : Surface → Bool) (surface : Option Surface) (x y : F)
    (serial time : UInt32) (seat : SeatState F) : SeatState F × List (Record F) :=
  let surface := surface.filter isAlive
  let (seat, focused) := seat.pointerFocus surface x y serial
  if surface = none then (seat, focused)
  else
    let (seat, moved) := seat.pointerMotion fixed x y time
    (seat, focused ++ moved)

def serializePressedKeys (seat : SeatState F) : List UInt32 :=
  if seat.kbActive then (seat.pressedKeys.filter (8 ≤ ·)).map (· - 8) else []

def sendModifiers (serial : UInt32) (seat : SeatState F) : Event F :=
  if seat.kbActive then .modifiers serial seat.mods else .modifiers serial ⟨0, 0, 0, seat.mods.layout⟩

end SeatState

/-- What a keyboard is told as its focus is taken: nothing of a surface that is dead. -/
def Keyboard.leave (isAlive : Surface → Bool) (serial : UInt32) (k : Keyboard) : List (Event F) :=
  match k.focus with
  | some focus => if isAlive focus then [.keyboardLeave serial focus] else []
  | none => []

def Keyboard.unfocus (isAlive : Surface → Bool) (serial : UInt32) (k : Keyboard) : Keyboard × List (Event F) :=
  ({ k with focus := none }, k.leave isAlive serial)

def Keyboard.enter (seat : SeatState F) (isAlive : Surface → Bool) (surface : Surface) (serial : UInt32)
    (k : Keyboard) : Keyboard × List (Event F) :=
  if k.resource.client ≠ surface.client then k.unfocus isAlive serial
  else if k.focus = some surface then (k, [])
  else
    ({ k with focus := some surface },
      k.leave isAlive serial ++
        [.keyboardEnter serial surface seat.serializePressedKeys, seat.sendModifiers serial])

namespace SeatState

def keyboardFocus (isAlive : Surface → Bool) (surface : Surface) (serial : UInt32) (seat : SeatState F) :
    SeatState F × List (Record F) :=
  if isAlive surface then
    let (keyboards, sent) := forAll Keyboard.resource (Keyboard.enter seat isAlive surface serial) seat.keyboards
    ({ seat with keyboards, focus := some surface }, sent)
  else (seat, [])

def keyboardUnfocus (isAlive : Surface → Bool) (serial : UInt32) (seat : SeatState F) :
    SeatState F × List (Record F) :=
  let (keyboards, sent) := forAll Keyboard.resource (Keyboard.unfocus isAlive serial) seat.keyboards
  ({ seat with keyboards, focus := none }, sent)

/-- `GetPointer`, for a new `pointer`. -/
def getPointer (isAlive : Surface → Bool) (pointer : Resource) (serial : UInt32) (seat : SeatState F) :
    SeatState F × List (Record F) :=
  let entered := seat.ptrFocus.filter fun (s, _, _) => isAlive s && s.client = pointer.client
  match entered with
  | some (surface, x, y) =>
    ({ seat with pointers := seat.pointers ++ [⟨pointer, some surface, some serial, none⟩] },
      (.pointerEnter serial surface x y :: pointerFrame pointer).map (.sent pointer))
  | none => ({ seat with pointers := seat.pointers ++ [⟨pointer, none, none, none⟩] }, [])

/-- `GetKeyboard`, for a new `keyboard`. -/
def getKeyboard (isAlive : Surface → Bool) (keyboard : Resource) (serial : UInt32) (seat : SeatState F) :
    SeatState F × List (Record F) :=
  let focus := seat.focus.filter fun s => isAlive s && s.client = keyboard.client
  let announced : List (Event F) := .keymap :: if 4 ≤ keyboard.version then [.repeatInfo 25 600] else []
  let caughtUp : List (Event F) := match focus with
    | some surface => [.keyboardEnter serial surface seat.serializePressedKeys, seat.sendModifiers serial]
    | none => []
  ({ seat with keyboards := seat.keyboards ++ [⟨keyboard, focus⟩] }, (announced ++ caughtUp).map (.sent keyboard))

end SeatState

inductive Call (F : Type)
  | createSurface (client : Nat)
  | destroySurface (surface : Surface)
  | getPointer (client version : Nat)
  | getKeyboard (client version : Nat)
  | destroyPointer (pointer : Resource)
  | destroyKeyboard (keyboard : Resource)
  | pointerMotionFocus (surface : Option Surface) (x y : F)
  | keyboardFocus (surface : Surface)
  | keyboardUnfocus

structure Step (F : Type) where
  call : Call F
  serial : UInt32
  time : UInt32

namespace State

def new (kbActive : Bool) (pressedKeys : List UInt32) (mods : Modifiers) : State F :=
  ⟨⟨[], [], kbActive, none, none, pressedKeys, mods⟩, [], 0, []⟩

def send (st : State F) (sent : SeatState F × List (Record F)) : State F :=
  { st with seat := sent.1, log := st.log ++ sent.2 }

def next (fixed : F → Int) (st : State F) (step : Step F) : State F :=
  match step.call with
  | .createSurface client =>
    { st with
      surfaces := st.surfaces ++ [⟨st.nextId, client⟩], nextId := st.nextId + 1,
      log := st.log ++ [.created ⟨st.nextId, client⟩] }
  | .destroySurface surface =>
    if st.isAlive surface then
      { st with surfaces := st.surfaces.filter (· ≠ surface), log := st.log ++ [.destroyed surface] }
    else st
  | .getPointer client version =>
    { st.send (st.seat.getPointer st.isAlive ⟨st.nextId, client, version⟩ step.serial) with nextId := st.nextId + 1 }
  | .getKeyboard client version =>
    { st.send (st.seat.getKeyboard st.isAlive ⟨st.nextId, client, version⟩ step.serial) with nextId := st.nextId + 1 }
  | .destroyPointer pointer =>
    { st with seat := { st.seat with pointers := st.seat.pointers.filter (·.resource ≠ pointer) } }
  | .destroyKeyboard keyboard =>
    { st with seat := { st.seat with keyboards := st.seat.keyboards.filter (·.resource ≠ keyboard) } }
  | .pointerMotionFocus surface x y =>
    st.send (st.seat.pointerMotionFocus fixed st.isAlive surface x y step.serial step.time)
  | .keyboardFocus surface => st.send (st.seat.keyboardFocus st.isAlive surface step.serial)
  | .keyboardUnfocus => st.send (st.seat.keyboardUnfocus st.isAlive step.serial)

end State

def Event.entry? (o : Resource) : Event F → Option (Entry Resource Surface)
  | .pointerEnter _ s _ _ | .keyboardEnter _ s _ => some (.enter o s)
  | .pointerLeave _ s | .keyboardLeave _ s => some (.leave o s)
  | _ => none

def Record.entry? : Record F → Option (Entry Resource Surface)
  | .created s => some (.created s)
  | .destroyed s => some (.destroyed s)
  | .sent o e => e.entry? o

/-- What has happened to surfaces, and which have been entered and left. -/
def State.focusLog (st : State F) : List (Entry Resource Surface) := st.log.filterMap Record.entry?

/-- Surfaces are entered and left in turn, none is named that is dead or another client's,
and the keyboards have the focus of the seat, as far as they may. -/
structure Consistent (st : State F) : Prop where
  alternates : Alternates st.focusLog
  namesAlive : NamesAlive (fun o s => s.client = o.client) st.focusLog
  keyboards : ∀ k ∈ st.seat.keyboards,
    k.focus = st.seat.focus.filter fun s => s.client = k.resource.client

/-- No pointer has a dead surface recorded as the pointer moves, and no keyboard is asked
for by a client whose dead surface is recorded as the focus of the seat. -/
def DeadForgotten (st : State F) : Call F → Prop
  | .pointerMotionFocus _ _ _ => ∀ p ∈ st.seat.pointers, ∀ s, p.focus = some s → st.isAlive s = true
  | .getKeyboard client _ => ∀ s, st.seat.focus = some s → s.client = client → st.isAlive s = true
  | _ => True

def SeatState.foci (seat : SeatState F) : List (Resource × Option Surface) :=
  seat.pointers.map (fun p => (p.resource, p.focus)) ++ seat.keyboards.map fun k => (k.resource, k.focus)

abbrev May (o : Resource) (s : Surface) : Prop := s.client = o.client

/-- What is recorded is what the objects have been told, as long as it is alive. -/
structure Inv (st : State F) : Prop where
  nodup : (st.seat.foci.map Prod.fst).Nodup
  fresh : ∀ of ∈ st.seat.foci, of.1.id < st.nextId
  logged : ∀ e ∈ st.focusLog, ∀ o s, e.names = some (o, s) → o.id < st.nextId
  surfaces : ∀ s, .created s ∈ st.focusLog ∨ .destroyed s ∈ st.focusLog → s.id < st.nextId
  alive : ∀ s, st.isAlive s = true ↔ Alive s st.focusLog
  alternates : Alternates st.focusLog
  entered : ∀ of ∈ st.seat.foci, entered of.1 st.focusLog = of.2.filter st.isAlive
  may : ∀ of ∈ st.seat.foci, ∀ s, of.2 = some s → May of.1 s
  recorded : ∀ of ∈ st.seat.foci, ∀ s, of.2 = some s → s.id < st.nextId

variable {st : State F} {sent : SeatState F × List (Record F)} {seat : SeatState F} {isAlive : Surface → Bool}

theorem focusLog_send : (st.send sent).focusLog = st.focusLog ++ sent.2.filterMap Record.entry? := by
  rw [State.focusLog, State.send, filterMap_append]
  rfl

theorem Inv.send (h : Inv st)
    (hmvs : MovesAll st.isAlive May st.seat.foci (sent.2.filterMap Record.entry?) sent.1.foci) :
    Inv (st.send sent) := by
  have hnms := hmvs.names
  have hnonames {e} (he : e ∈ sent.2.filterMap Record.entry?) : e.names.isSome := by
    obtain ⟨o, -, s, hs⟩ := hnms e he
    rw [hs]
    rfl
  obtain ⟨halternates, hentered⟩ := hmvs.run h.nodup h.alternates h.entered
  constructor
  case nodup => exact hmvs.objects ▸ h.nodup
  case fresh =>
    intro of hof
    have hmem : of.1 ∈ st.seat.foci.map Prod.fst := hmvs.objects ▸ mem_map_of_mem (a := of) hof
    obtain ⟨of', hof', heq⟩ := mem_map.mp hmem
    exact heq ▸ h.fresh of' hof'
  case logged =>
    rw [focusLog_send]
    refine forall_mem_append.mpr ⟨h.logged, fun e he o s hs => ?_⟩
    obtain ⟨o', hmem, s', hs'⟩ := hnms e he
    obtain ⟨rfl, -⟩ := Prod.mk.inj (some.inj (hs'.symm.trans hs))
    obtain ⟨of, hof, heq⟩ := mem_map.mp hmem
    exact heq ▸ h.fresh of hof
  case surfaces =>
    intro s hs
    rw [focusLog_send, mem_append, mem_append] at hs
    refine h.surfaces s (hs.imp (·.resolve_right fun he => ?_) (·.resolve_right fun he => ?_))
    · exact absurd (hnonames he) (by simp [Entry.names])
    · exact absurd (hnonames he) (by simp [Entry.names])
  case alive =>
    intro s
    rw [focusLog_send, alive_append fun e he => hnonames he]
    exact h.alive s
  case alternates => exact focusLog_send ▸ halternates
  case entered => exact focusLog_send ▸ hentered
  case may => exact (hmvs.mayName h.may).2
  case recorded =>
    refine hmvs.recorded (fun s hs => ?_) h.recorded
    exact h.surfaces s (.inl ((h.alive s).mp hs).1)

theorem Inv.sublist (h : Inv st) (hsub : seat.foci.Sublist st.seat.foci) : Inv { st with seat } where
  nodup := h.nodup.sublist (hsub.map _)
  fresh := fun of hof => h.fresh of (hsub.subset hof)
  logged := h.logged
  surfaces := h.surfaces
  alive := h.alive
  alternates := h.alternates
  entered := fun of hof => h.entered of (hsub.subset hof)
  may := fun of hof => h.may of (hsub.subset hof)
  recorded := fun of hof => h.recorded of (hsub.subset hof)

theorem Inv.add (h : Inv st) {o : Resource} (ho : o.id = st.nextId)
    (hperm : seat.foci.Perm ((o, none) :: st.seat.foci)) : Inv { st with seat, nextId := st.nextId + 1 } where
  nodup := by
    rw [(hperm.map Prod.fst).nodup_iff, map_cons, nodup_cons]
    refine ⟨fun hmem => ?_, h.nodup⟩
    obtain ⟨of, hof, heq⟩ := mem_map.mp hmem
    have hlt := h.fresh of hof
    rw [heq, ho] at hlt
    exact Nat.lt_irrefl _ hlt
  fresh := fun of hof => by
    obtain rfl | hof := mem_cons.mp (hperm.mem_iff.mp hof)
    · exact ho ▸ Nat.lt_succ_self _
    · exact Nat.lt_succ_of_lt (h.fresh of hof)
  logged := fun e he o s hs => Nat.lt_succ_of_lt (h.logged e he o s hs)
  surfaces := fun s hs => Nat.lt_succ_of_lt (h.surfaces s hs)
  alive := h.alive
  alternates := h.alternates
  entered := fun of hof => by
    obtain rfl | hof := mem_cons.mp (hperm.mem_iff.mp hof)
    · refine entered_eq_none fun e he s hs => ?_
      exact Nat.lt_irrefl _ (ho ▸ h.logged e he o s hs)
    · exact h.entered of hof
  may := fun of hof => by
    obtain rfl | hof := mem_cons.mp (hperm.mem_iff.mp hof)
    · exact nofun
    · exact h.may of hof
  recorded := fun of hof s hs => by
    obtain rfl | hof := mem_cons.mp (hperm.mem_iff.mp hof)
    · cases hs
    · exact Nat.lt_succ_of_lt (h.recorded of hof s hs)

variable {f : Option Surface}

theorem filter_congr {p q : Surface → Bool} (h : ∀ s, f = some s → p s = q s) : f.filter p = f.filter q := by
  cases f with
  | none => rfl
  | some s => rw [filter_some, filter_some, h s rfl]

theorem focusLog_createSurface (fixed : F → Int) (client : Nat) (serial time : UInt32) :
    (st.next fixed ⟨.createSurface client, serial, time⟩).focusLog =
      st.focusLog ++ [.created ⟨st.nextId, client⟩] := filterMap_append ..

theorem focusLog_destroyed (surfaces : List Surface) (surface : Surface) :
    State.focusLog { st with surfaces, log := st.log ++ [.destroyed surface] } =
      st.focusLog ++ [.destroyed surface] := filterMap_append ..

variable {surface : Surface}

theorem next_destroySurface {fixed : F → Int} {serial time : UInt32} (hthere : st.isAlive surface = true) :
    st.next fixed ⟨.destroySurface surface, serial, time⟩ =
      { st with surfaces := st.surfaces.filter (· ≠ surface), log := st.log ++ [.destroyed surface] } :=
  if_pos hthere

theorem next_destroySurface_of_dead {fixed : F → Int} {serial time : UInt32}
    (hthere : ¬st.isAlive surface = true) : st.next fixed ⟨.destroySurface surface, serial, time⟩ = st :=
  if_neg hthere

theorem Inv.createSurface (h : Inv st) (fixed : F → Int) (client : Nat) (serial time : UInt32) :
    Inv (st.next fixed ⟨.createSurface client, serial, time⟩) := by
  have hlog : _ = st.focusLog ++ _ := focusLog_createSurface fixed client serial time
  have halive (s) : (st.next fixed ⟨.createSurface client, serial, time⟩).isAlive s =
      (st.isAlive s || s = ⟨st.nextId, client⟩) := by
    simp [State.next, State.isAlive]
  have hnew : ¬(.created ⟨st.nextId, client⟩ ∈ st.focusLog ∨ .destroyed ⟨st.nextId, client⟩ ∈ st.focusLog) :=
    fun hmem => Nat.lt_irrefl _ (h.surfaces _ hmem)
  constructor
  case nodup => exact h.nodup
  case fresh => exact fun of hof => Nat.lt_succ_of_lt (h.fresh of hof)
  case logged =>
    rw [hlog]
    refine forall_mem_append.mpr ⟨fun e he o s hs => Nat.lt_succ_of_lt (h.logged e he o s hs), ?_⟩
    exact forall_mem_singleton.mpr fun o s hs => by cases hs
  case surfaces =>
    intro s hs
    rw [hlog, mem_append, mem_append, mem_singleton, mem_singleton] at hs
    obtain (hs | hs) | (hs | hs) := hs
    · exact Nat.lt_succ_of_lt (h.surfaces s (.inl hs))
    · rw [Entry.created.inj hs]
      exact Nat.lt_succ_self _
    · exact Nat.lt_succ_of_lt (h.surfaces s (.inr hs))
    · cases hs
  case alive =>
    intro s
    rw [halive, hlog, Bool.or_eq_true, h.alive, decide_eq_true_eq, Alive, Alive]
    simp only [mem_append, mem_singleton, Entry.created.injEq, reduceCtorEq, or_false]
    constructor
    · rintro (⟨hc, hd⟩ | rfl)
      · exact ⟨.inl hc, hd⟩
      · exact ⟨.inr rfl, fun hd => hnew (.inr hd)⟩
    · rintro ⟨hc | hc, hd⟩
      · exact .inl ⟨hc, hd⟩
      · exact .inr hc
  case alternates =>
    rw [hlog]
    exact alternates_concat h.alternates fun o s hs => by cases hs
  case entered =>
    intro of hof
    rw [hlog, entered_concat]
    refine (h.entered of hof).trans (filter_congr fun s hs => ?_)
    have hne : s ≠ ⟨st.nextId, client⟩ := fun heq => Nat.lt_irrefl _ (heq ▸ h.recorded of hof s hs)
    rw [halive, decide_eq_false hne, Bool.or_false]
  case may => exact h.may
  case recorded => exact fun of hof s hs => Nat.lt_succ_of_lt (h.recorded of hof s hs)

theorem Inv.destroySurface (h : Inv st) (fixed : F → Int) (surface : Surface) (serial time : UInt32) :
    Inv (st.next fixed ⟨.destroySurface surface, serial, time⟩) := by
  by_cases hthere : st.isAlive surface = true
  swap
  · rwa [next_destroySurface_of_dead hthere]
  rw [next_destroySurface hthere]
  have hlog : _ = st.focusLog ++ _ := focusLog_destroyed (st.surfaces.filter (· ≠ surface)) surface
  have halive (s) : State.isAlive { st with
      surfaces := st.surfaces.filter (· ≠ surface), log := st.log ++ [.destroyed surface] } s =
      (st.isAlive s && s ≠ surface) := by
    simp [State.isAlive]
  constructor
  case nodup => exact h.nodup
  case fresh => exact h.fresh
  case logged =>
    rw [hlog]
    exact forall_mem_append.mpr ⟨h.logged, forall_mem_singleton.mpr fun o s hs => by cases hs⟩
  case surfaces =>
    intro s hs
    rw [hlog, mem_append, mem_append, mem_singleton, mem_singleton] at hs
    obtain (hs | hs) | (hs | hs) := hs
    · exact h.surfaces s (.inl hs)
    · cases hs
    · exact h.surfaces s (.inr hs)
    · rw [Entry.destroyed.inj hs]
      exact h.surfaces surface (.inl ((h.alive surface).mp hthere).1)
  case alive =>
    intro s
    rw [halive, hlog, Bool.and_eq_true, h.alive, decide_eq_true_eq, Alive, Alive]
    simp [and_assoc]
  case alternates =>
    rw [hlog]
    exact alternates_concat h.alternates fun o s hs => by cases hs
  case entered =>
    intro of hof
    rw [hlog, entered_concat, note, h.entered of hof]
    cases of.2 with
    | none => rfl
    | some s =>
      rw [filter_some, filter_some, halive]
      by_cases hs : s = surface
      · rw [hs, hthere, decide_eq_false (fun hne => hne rfl)]
        exact if_pos rfl
      · rw [decide_eq_true hs, Bool.and_true]
        refine if_neg fun heq => hs ?_
        split at heq
        · exact some.inj heq
        · cases heq
  case may => exact h.may
  case recorded => exact h.recorded

section Sending

variable {o : Resource} {es : List (Event F)}

def entries (o : Resource) (es : List (Event F)) : List (Entry Resource Surface) := es.filterMap (Event.entry? o)

theorem filterMap_sent (o : Resource) (es : List (Event F)) :
    (es.map (.sent o)).filterMap Record.entry? = entries o es := filterMap_map

@[simp] theorem entries_pointerFrame : entries o (pointerFrame o : List (Event F)) = [] := by
  rw [pointerFrame]
  split <;> rfl

theorem forAll_moves {P : Type} {resource : P → Resource} {focus : P → Option Surface}
    {f : P → P × List (Event F)} (ps : List P) (hres : ∀ p, resource (f p).1 = resource p)
    (hmvs : ∀ p ∈ ps, Moves isAlive May (resource p) (focus p) (entries (resource p) (f p).2) (focus (f p).1)) :
    MovesAll isAlive May (ps.map fun p => (resource p, focus p)) ((forAll resource f ps).2.filterMap Record.entry?)
      ((forAll resource f ps).1.map fun p => (resource p, focus p)) := by
  induction ps with
  | nil => exact .nil
  | cons p ps ih =>
    obtain ⟨hp, hps⟩ := forall_mem_cons.mp hmvs
    have hcons := MovesAll.cons hp (ih hps)
    rw [← filterMap_sent, ← filterMap_append] at hcons
    rw [forAll, map_cons, map_cons, map_cons, flatMap_cons, hres]
    exact hcons

variable {p : Pointer}

theorem Pointer.unfocus_of_none {surface : Option Surface} {serial : UInt32} (hp : p.focus = none) :
    p.unfocus surface serial = (p, ([] : List (Event F))) := by
  rw [Pointer.unfocus, hp]

theorem Pointer.unfocus_of_same {serial : UInt32} {s : Surface} (hp : p.focus = some s) :
    p.unfocus (some s) serial = (p, ([] : List (Event F))) := by
  rw [Pointer.unfocus, hp]
  exact if_neg (by simp)

theorem Pointer.unfocus_of_other {surface : Option Surface} {serial : UInt32} {s : Surface}
    (hp : p.focus = some s) (hne : surface ≠ some s) :
    p.unfocus surface serial =
      ({ p with focus := none, lastEnter := none, lastMotion := none },
        (.pointerLeave serial s :: pointerFrame p.resource : List (Event F))) := by
  rw [Pointer.unfocus, hp]
  refine if_pos ?_
  cases surface with
  | none => rfl
  | some s' => exact bne_iff_ne.mpr fun heq => hne (congrArg some heq)

theorem Pointer.unfocus_cases (surface : Option Surface) (serial : UInt32) (p : Pointer) :
    (p.focus = none ∨ p.focus = surface) ∧ p.unfocus surface serial = (p, ([] : List (Event F))) ∨
      ∃ s, p.focus = some s ∧ surface ≠ some s ∧ p.unfocus surface serial =
        ({ p with focus := none, lastEnter := none, lastMotion := none },
          (.pointerLeave serial s :: pointerFrame p.resource : List (Event F))) := by
  cases hp : p.focus with
  | none => exact .inl ⟨.inl rfl, unfocus_of_none hp⟩
  | some s =>
    by_cases hsame : surface = some s
    · subst hsame
      exact .inl ⟨.inr rfl, unfocus_of_same hp⟩
    · exact .inr ⟨s, rfl, hsame, unfocus_of_other hp hsame⟩

theorem Pointer.unfocus_moves (surface : Option Surface) (serial : UInt32) (p : Pointer) :
    Moves isAlive May p.resource p.focus (entries p.resource (p.unfocus surface serial : _ × List (Event F)).2)
      (p.unfocus surface serial : _ × List (Event F)).1.focus := by
  obtain ⟨-, heq⟩ | ⟨s, hp, -, heq⟩ := p.unfocus_cases (F := F) surface serial
  · rw [heq]
    exact .refl p.focus
  · rw [heq, hp, entries, filterMap_cons]
    refine .leave ?_
    rw [← entries, entries_pointerFrame]
    exact .refl none

theorem Pointer.unfocus_focus (surface : Option Surface) (serial : UInt32) (p : Pointer) :
    (p.unfocus surface serial : _ × List (Event F)).1.focus = none ∨
      (p.unfocus surface serial : _ × List (Event F)).1.focus = surface := by
  obtain ⟨hp, heq⟩ | ⟨s, -, -, heq⟩ := p.unfocus_cases (F := F) surface serial
  · rw [heq]
    exact hp
  · rw [heq]
    exact .inl rfl

theorem Pointer.enter_moves (halive : isAlive surface = true) (x y : F) (serial : UInt32)
    (hp : p.focus = none ∨ p.focus = some surface) :
    Moves isAlive May p.resource p.focus (entries p.resource (p.enter surface x y serial).2)
      (p.enter surface x y serial).1.focus := by
  rw [Pointer.enter]
  by_cases hsame : p.focus = some surface
  · rw [if_pos hsame]
    exact .refl p.focus
  rw [if_neg hsame]
  by_cases hcl : surface.client = p.resource.client
  · rw [if_neg (not_not.mpr hcl), hp.resolve_right hsame, entries, filterMap_cons]
    refine .enter halive hcl ?_
    rw [← entries, entries_pointerFrame]
    exact .refl (some surface)
  · rw [if_pos hcl]
    exact .refl p.focus

theorem Pointer.motion_moves (fixed : F → Int) (x y : F) (time : UInt32) (p : Pointer) :
    Moves isAlive May p.resource p.focus (entries p.resource (p.motion fixed x y time).2)
      (p.motion fixed x y time).1.focus := by
  rw [Pointer.motion]
  split
  · exact .refl p.focus
  · rw [entries, filterMap_cons]
    dsimp only [Event.entry?]
    rw [← entries, entries_pointerFrame]
    exact .refl p.focus

theorem Keyboard.leave_moves (serial : UInt32) (k : Keyboard) {es : List (Event F)}
    (h : Moves isAlive May k.resource none (entries k.resource es) f) :
    Moves isAlive May k.resource k.focus (entries k.resource (k.leave isAlive serial ++ es)) f := by
  rw [Keyboard.leave]
  cases k.focus with
  | none => exact h
  | some s =>
    by_cases hs : isAlive s = true
    · dsimp only
      rw [if_pos hs]
      exact .leave h
    · dsimp only
      rw [if_neg hs]
      exact .forget (Bool.not_eq_true _ ▸ hs) h

theorem Keyboard.unfocus_moves (serial : UInt32) (k : Keyboard) :
    Moves isAlive May k.resource k.focus
      (entries k.resource (k.unfocus isAlive serial : _ × List (Event F)).2)
      (k.unfocus isAlive serial : _ × List (Event F)).1.focus := by
  have hnil : Moves isAlive May k.resource none (entries k.resource ([] : List (Event F))) none := .refl none
  have h := k.leave_moves serial hnil
  rwa [append_nil] at h

theorem Keyboard.enter_moves (seat : SeatState F) (halive : isAlive surface = true)
    (serial : UInt32) (k : Keyboard) :
    Moves isAlive May k.resource k.focus (entries k.resource (k.enter seat isAlive surface serial).2)
      (k.enter seat isAlive surface serial).1.focus := by
  rw [Keyboard.enter]
  by_cases hcl : k.resource.client = surface.client
  · rw [if_neg (not_not.mpr hcl)]
    by_cases hsame : k.focus = some surface
    · rw [if_pos hsame]
      exact .refl k.focus
    · rw [if_neg hsame]
      refine k.leave_moves serial (.enter halive hcl.symm ?_)
      rw [SeatState.sendModifiers]
      split <;> exact .refl (some surface)
  · rw [if_pos hcl]
    exact k.unfocus_moves serial

end Sending

section Operations

variable {seat' : SeatState F} {x y : F} {serial time : UInt32} {fixed : F → Int}

theorem pointers_move {f : Pointer → Pointer × List (Event F)} (hres : ∀ p, (f p).1.resource = p.resource)
    (hmvs : ∀ p ∈ seat.pointers, Moves isAlive May p.resource p.focus (entries p.resource (f p).2) (f p).1.focus)
    (hptrs : seat'.pointers = (forAll Pointer.resource f seat.pointers).1)
    (hkbds : seat'.keyboards = seat.keyboards) :
    MovesAll isAlive May seat.foci ((forAll Pointer.resource f seat.pointers).2.filterMap Record.entry?)
      seat'.foci := by
  have h := (forAll_moves seat.pointers hres hmvs).append
    (.refl (seat.keyboards.map fun k => (k.resource, k.focus)))
  rw [SeatState.foci, SeatState.foci, hptrs, hkbds]
  rwa [append_nil] at h

theorem keyboards_move {f : Keyboard → Keyboard × List (Event F)} (hres : ∀ k, (f k).1.resource = k.resource)
    (hmvs : ∀ k ∈ seat.keyboards, Moves isAlive May k.resource k.focus (entries k.resource (f k).2) (f k).1.focus)
    (hptrs : seat'.pointers = seat.pointers)
    (hkbds : seat'.keyboards = (forAll Keyboard.resource f seat.keyboards).1) :
    MovesAll isAlive May seat.foci ((forAll Keyboard.resource f seat.keyboards).2.filterMap Record.entry?)
      seat'.foci := by
  have h := (MovesAll.refl (seat.pointers.map fun p => (p.resource, p.focus))).append
    (forAll_moves seat.keyboards hres hmvs)
  rw [SeatState.foci, SeatState.foci, hptrs, hkbds]
  rwa [nil_append] at h

theorem send_send {sent' : SeatState F × List (Record F)} :
    (st.send sent).send sent' = st.send (sent'.1, sent.2 ++ sent'.2) := by
  rw [State.send, State.send, State.send, append_assoc]

theorem Pointer.unfocus_resource (surface : Option Surface) (serial : UInt32) (p : Pointer) :
    (p.unfocus surface serial : _ × List (Event F)).1.resource = p.resource := by
  obtain ⟨-, heq⟩ | ⟨s, -, -, heq⟩ := p.unfocus_cases (F := F) surface serial <;> rw [heq]

theorem Pointer.enter_resource (surface : Surface) (x y : F) (serial : UInt32) (p : Pointer) :
    (p.enter surface x y serial).1.resource = p.resource := by
  rw [Pointer.enter]
  split
  · rfl
  · split <;> rfl

theorem Pointer.motion_resource (p : Pointer) : (p.motion fixed x y time).1.resource = p.resource := by
  rw [Pointer.motion]
  split <;> rfl

theorem Keyboard.enter_resource (seat : SeatState F) (surface : Surface) (serial : UInt32) (k : Keyboard) :
    (k.enter seat isAlive surface serial).1.resource = k.resource := by
  rw [Keyboard.enter]
  split
  · rfl
  · split <;> rfl

theorem Inv.namesAlive_send (h : Inv st)
    (hmvs : MovesAll st.isAlive May st.seat.foci (sent.2.filterMap Record.entry?) sent.1.foci) :
    NamesAlive May (st.send sent).focusLog ↔
      NamesAlive May st.focusLog ∧ ∀ o s, .leave o s ∈ sent.2.filterMap Record.entry? → st.isAlive s = true := by
  rw [focusLog_send]
  exact hmvs.namesAlive_iff h.may h.alive

theorem mem_entries_forAll {P : Type} {resource : P → Resource} {f : P → P × List (Event F)} {ps : List P}
    {e : Entry Resource Surface} :
    e ∈ (forAll resource f ps).2.filterMap Record.entry? ↔ ∃ p ∈ ps, e ∈ entries (resource p) (f p).2 := by
  rw [forAll, filterMap_flatMap, mem_flatMap]
  simp only [filterMap_sent]

variable {s : Surface}

theorem Pointer.leave_mem_unfocus {surface : Option Surface} {p : Pointer} {o : Resource} :
    .leave o s ∈ entries p.resource (p.unfocus surface serial : _ × List (Event F)).2 ↔
      o = p.resource ∧ p.focus = some s ∧ surface ≠ some s := by
  obtain ⟨hp, heq⟩ | ⟨s', hp, hne, heq⟩ := p.unfocus_cases (F := F) surface serial
  · rw [heq]
    refine iff_of_false nofun fun ⟨_, hs, hne⟩ => ?_
    rw [hs] at hp
    exact hne (hp.resolve_left nofun).symm
  · rw [heq, entries, filterMap_cons]
    dsimp only [Event.entry?]
    rw [← entries, entries_pointerFrame, mem_singleton, Entry.leave.injEq, hp]
    constructor
    · rintro ⟨rfl, rfl⟩
      exact ⟨rfl, rfl, hne⟩
    · rintro ⟨rfl, hs, -⟩
      exact ⟨rfl, (some.inj hs).symm⟩

theorem Pointer.leave_not_mem_enter {p : Pointer} {o : Resource} :
    .leave o s ∉ entries p.resource (p.enter surface x y serial).2 := by
  rw [Pointer.enter]
  split
  · exact nofun
  · split
    · exact nofun
    · rw [entries, filterMap_cons]
      dsimp only [Event.entry?]
      rw [← entries, entries_pointerFrame, mem_singleton]
      exact nofun

theorem Pointer.leave_not_mem_motion {p : Pointer} {o : Resource} :
    .leave o s ∉ entries p.resource (p.motion fixed x y time).2 := by
  rw [Pointer.motion]
  split
  · exact nofun
  · rw [entries, filterMap_cons]
    dsimp only [Event.entry?]
    rw [← entries, entries_pointerFrame]
    exact nofun

/-- The pointers leave whatever they have recorded, dead or alive, unless it is the surface
they are to enter. -/
theorem Inv.pointerFocus (h : Inv st) {surface : Option Surface} (halive : ∀ s, surface = some s → st.isAlive s = true)
    (x y : F) (serial : UInt32) :
    Inv (st.send (st.seat.pointerFocus surface x y serial)) ∧
      (NamesAlive May (st.send (st.seat.pointerFocus surface x y serial)).focusLog ↔
        NamesAlive May st.focusLog ∧ ∀ p ∈ st.seat.pointers, ∀ s, p.focus = some s → st.isAlive s = true) := by
  let left := forAll Pointer.resource (Pointer.unfocus surface serial : _ → _ × List (Event F)) st.seat.pointers
  let seat : SeatState F := { st.seat with ptrFocus := surface.map fun s => (s, x, y), pointers := left.1 }
  have hmvs : MovesAll st.isAlive May st.seat.foci (left.2.filterMap Record.entry?) seat.foci :=
    pointers_move (Pointer.unfocus_resource surface serial) (fun p _ => p.unfocus_moves surface serial) rfl rfl
  have hleft : Inv (st.send (seat, left.2)) := h.send hmvs
  have hnms : NamesAlive May (st.send (seat, left.2)).focusLog ↔ NamesAlive May st.focusLog ∧
      ∀ p ∈ st.seat.pointers, ∀ s, p.focus = some s → st.isAlive s = true := by
    refine (h.namesAlive_send hmvs).trans (and_congr_right fun _ => ?_)
    simp only [left, mem_entries_forAll, Pointer.leave_mem_unfocus]
    constructor
    · intro hlv p hp s hs
      by_cases hsame : surface = some s
      · exact halive s hsame
      · exact hlv p.resource s ⟨p, hp, rfl, hs, hsame⟩
    · rintro hall o s ⟨p, hp, -, hs, -⟩
      exact hall p hp s hs
  cases surface with
  | none => exact ⟨hleft, hnms⟩
  | some surface =>
    let entered := forAll Pointer.resource (Pointer.enter surface x y serial) seat.pointers
    have hmvs' : MovesAll st.isAlive May seat.foci (entered.2.filterMap Record.entry?)
        { seat with pointers := entered.1 }.foci := by
      refine pointers_move (Pointer.enter_resource surface x y serial) (fun p hp => ?_) rfl rfl
      obtain ⟨p, -, rfl⟩ := mem_map.mp hp
      exact Pointer.enter_moves (halive surface rfl) x y serial (p.unfocus_focus (F := F) (some surface) serial)
    let sent : SeatState F × List (Record F) := ({ seat with pointers := entered.1 }, entered.2)
    have hboth : Inv ((st.send (seat, left.2)).send sent) := hleft.send hmvs'
    have hnms' : NamesAlive May ((st.send (seat, left.2)).send sent).focusLog ↔ _ := hleft.namesAlive_send hmvs'
    rw [send_send] at hboth hnms'
    refine ⟨hboth, hnms'.trans ?_⟩
    rw [hnms]
    refine and_iff_left fun o s hlv => ?_
    obtain ⟨p, -, hp⟩ := mem_entries_forAll.mp hlv
    exact absurd hp Pointer.leave_not_mem_enter

theorem Inv.pointerMotionFocus (h : Inv st) (fixed : F → Int) (surface : Option Surface) (x y : F)
    (serial time : UInt32) :
    Inv (st.send (st.seat.pointerMotionFocus fixed st.isAlive surface x y serial time)) ∧
      (NamesAlive May (st.send (st.seat.pointerMotionFocus fixed st.isAlive surface x y serial time)).focusLog ↔
        NamesAlive May st.focusLog ∧ ∀ p ∈ st.seat.pointers, ∀ s, p.focus = some s → st.isAlive s = true) := by
  have halive (s) (hs : surface.filter st.isAlive = some s) : st.isAlive s = true :=
    (filter_eq_some_iff.mp hs).2
  obtain ⟨hfocused, hnms⟩ := h.pointerFocus halive x y serial
  rw [SeatState.pointerMotionFocus]
  dsimp only
  split
  · exact ⟨hfocused, hnms⟩
  · let seat := (st.seat.pointerFocus (surface.filter st.isAlive) x y serial).1
    have hmvs : MovesAll st.isAlive May seat.foci ((seat.pointerMotion fixed x y time).2.filterMap Record.entry?)
        (seat.pointerMotion fixed x y time).1.foci :=
      pointers_move (fun p => p.motion_resource) (fun p _ => p.motion_moves fixed x y time) rfl rfl
    have hboth := hfocused.send hmvs
    have hnms' := hfocused.namesAlive_send hmvs
    rw [send_send] at hboth hnms'
    refine ⟨hboth, hnms'.trans ?_⟩
    rw [hnms]
    refine and_iff_left fun o s hlv => ?_
    obtain ⟨p, -, hp⟩ := mem_entries_forAll.mp hlv
    exact absurd hp Pointer.leave_not_mem_motion

theorem Keyboard.alive_of_leave_mem {k : Keyboard} {o : Resource} {es : List (Event F)}
    (hes : .leave o s ∉ entries k.resource es)
    (h : .leave o s ∈ entries k.resource (k.leave isAlive serial ++ es)) : isAlive s = true := by
  rw [entries, filterMap_append, ← entries, ← entries, mem_append] at h
  have hmem := h.resolve_right hes
  rw [Keyboard.leave] at hmem
  cases hk : k.focus with
  | none =>
    rw [hk] at hmem
    cases hmem
  | some s' =>
    rw [hk] at hmem
    by_cases hs : isAlive s' = true
    · dsimp only at hmem
      rw [if_pos hs] at hmem
      obtain ⟨-, rfl⟩ := Entry.leave.inj (mem_singleton.mp hmem)
      exact hs
    · dsimp only at hmem
      rw [if_neg hs] at hmem
      cases hmem

theorem Keyboard.alive_of_unfocus {k : Keyboard} {o : Resource}
    (h : .leave o s ∈ entries k.resource (k.unfocus isAlive serial : _ × List (Event F)).2) : isAlive s = true := by
  have hnil : Entry.leave o s ∉ entries k.resource ([] : List (Event F)) := nofun
  refine k.alive_of_leave_mem hnil (?_ : _ ∈ entries k.resource (k.leave isAlive serial ++ []))
  rwa [append_nil]

theorem Keyboard.alive_of_enter {k : Keyboard} {o : Resource}
    (h : .leave o s ∈ entries k.resource (k.enter seat isAlive surface serial).2) : isAlive s = true := by
  rw [Keyboard.enter] at h
  split at h
  · exact k.alive_of_unfocus h
  · split at h
    · cases h
    · refine k.alive_of_leave_mem (fun hmem => ?_) h
      rw [SeatState.sendModifiers] at hmem
      split at hmem <;> cases hmem <;> contradiction

theorem Inv.keyboardFocus (h : Inv st) (surface : Surface) (serial : UInt32) :
    Inv (st.send (st.seat.keyboardFocus st.isAlive surface serial)) ∧
      (NamesAlive May (st.send (st.seat.keyboardFocus st.isAlive surface serial)).focusLog ↔
        NamesAlive May st.focusLog) := by
  rw [SeatState.keyboardFocus]
  split
  · next halive =>
    let told := forAll Keyboard.resource (Keyboard.enter st.seat st.isAlive surface serial) st.seat.keyboards
    have hmvs : MovesAll st.isAlive May st.seat.foci (told.2.filterMap Record.entry?)
        { st.seat with keyboards := told.1, focus := some surface }.foci :=
      keyboards_move (Keyboard.enter_resource st.seat surface serial)
        (fun k _ => k.enter_moves st.seat halive serial) rfl rfl
    refine ⟨h.send hmvs, (h.namesAlive_send hmvs).trans (and_iff_left fun o s hlv => ?_)⟩
    obtain ⟨k, -, hk⟩ := mem_entries_forAll.mp hlv
    exact k.alive_of_enter hk
  · rw [State.send, append_nil]
    exact ⟨h, Iff.rfl⟩

theorem Inv.keyboardUnfocus (h : Inv st) (serial : UInt32) :
    Inv (st.send (st.seat.keyboardUnfocus st.isAlive serial)) ∧
      (NamesAlive May (st.send (st.seat.keyboardUnfocus st.isAlive serial)).focusLog ↔
        NamesAlive May st.focusLog) := by
  have hmvs : MovesAll st.isAlive May st.seat.foci
      ((st.seat.keyboardUnfocus st.isAlive serial).2.filterMap Record.entry?)
      (st.seat.keyboardUnfocus st.isAlive serial).1.foci :=
    keyboards_move (fun _ => rfl) (fun k _ => k.unfocus_moves serial) rfl rfl
  refine ⟨h.send hmvs, (h.namesAlive_send hmvs).trans (and_iff_left fun o s hlv => ?_)⟩
  obtain ⟨k, -, hk⟩ := mem_entries_forAll.mp hlv
  exact k.alive_of_unfocus hk

theorem Inv.join (h : Inv st) {o : Resource} (ho : o.id = st.nextId) {seat₀ : SeatState F}
    {before after : List (Resource × Option Surface)} {es : List (Event F)}
    (hfoci : st.seat.foci = before ++ after) (hseat₀ : seat₀.foci = before ++ (o, none) :: after)
    (hseat : seat.foci = before ++ (o, f) :: after)
    (hmvs : Moves st.isAlive May o none (entries o es) f) (hlv : ∀ s, .leave o s ∉ entries o es) :
    Inv { st.send (seat, es.map (.sent o)) with nextId := st.nextId + 1 } ∧
      (NamesAlive May (st.send (seat, es.map (.sent o))).focusLog ↔ NamesAlive May st.focusLog) := by
  have hadd : Inv { st with seat := seat₀, nextId := st.nextId + 1 } := by
    refine h.add ho ?_
    rw [hfoci, hseat₀]
    exact perm_middle
  have hall : MovesAll st.isAlive May seat₀.foci ((es.map (.sent o)).filterMap Record.entry?) seat.foci := by
    have hjoin := (MovesAll.refl before).append (.cons hmvs (.refl after))
    rwa [nil_append, append_nil, ← hseat₀, ← hseat, ← filterMap_sent] at hjoin
  have hsent : Inv (State.send { st with seat := seat₀, nextId := st.nextId + 1 } (seat, es.map (.sent o))) :=
    hadd.send hall
  have hnms : NamesAlive May (State.send { st with seat := seat₀, nextId := st.nextId + 1 }
      (seat, es.map (.sent o))).focusLog ↔ _ := hadd.namesAlive_send hall
  refine ⟨hsent, hnms.trans ?_⟩
  refine and_iff_left fun o' s hmem => ?_
  rw [filterMap_sent] at hmem
  obtain ⟨s', hs'⟩ := hmvs.names _ hmem
  obtain ⟨rfl, rfl⟩ := Prod.mk.inj (some.inj hs')
  exact absurd hmem (hlv s)

theorem Inv.getPointer (h : Inv st) (fixed : F → Int) (client version : Nat) (serial time : UInt32) :
    Inv (st.next fixed ⟨.getPointer client version, serial, time⟩) ∧
      (NamesAlive May (st.next fixed ⟨.getPointer client version, serial, time⟩).focusLog ↔
        NamesAlive May st.focusLog) := by
  let o : Resource := ⟨st.nextId, client, version⟩
  have hfoci (f : Option Surface) (lastEnter : Option UInt32) :
      SeatState.foci { st.seat with pointers := st.seat.pointers ++ [⟨o, f, lastEnter, none⟩] } =
        st.seat.pointers.map (fun p => (p.resource, p.focus)) ++
          (o, f) :: st.seat.keyboards.map fun k => (k.resource, k.focus) := by
    rw [SeatState.foci, map_append, append_assoc]
    rfl
  rw [State.next]
  dsimp only
  rw [SeatState.getPointer]
  dsimp only
  cases hentered : st.seat.ptrFocus.filter fun (s, _, _) => st.isAlive s && s.client = client with
  | none =>
    have hnil : Moves st.isAlive May o none (entries o ([] : List (Event F))) none := .refl none
    exact h.join rfl rfl (hfoci none none) (hfoci none none) hnil nofun
  | some e =>
    obtain ⟨surface, x, y⟩ := e
    obtain ⟨halive, hcl⟩ := Bool.and_eq_true_iff.mp (filter_eq_some_iff.mp hentered).2
    have hents : entries o (.pointerEnter serial surface x y :: pointerFrame o) = [.enter o surface] := by
      rw [entries, filterMap_cons]
      dsimp only [Event.entry?]
      rw [← entries, entries_pointerFrame]
    refine h.join (o := o) rfl rfl (hfoci none none) (hfoci (some surface) (some serial)) ?_ ?_
    · rw [hents]
      exact .enter halive (of_decide_eq_true hcl) (.refl _)
    · intro s
      rw [hents, mem_singleton]
      exact nofun

theorem Inv.getKeyboard (h : Inv st) (fixed : F → Int) (client version : Nat) (serial time : UInt32) :
    Inv (st.next fixed ⟨.getKeyboard client version, serial, time⟩) ∧
      (NamesAlive May (st.next fixed ⟨.getKeyboard client version, serial, time⟩).focusLog ↔
        NamesAlive May st.focusLog) := by
  let o : Resource := ⟨st.nextId, client, version⟩
  have hfoci (f : Option Surface) : SeatState.foci { st.seat with keyboards := st.seat.keyboards ++ [⟨o, f⟩] } =
      st.seat.foci ++ (o, f) :: [] := by
    rw [SeatState.foci, map_append, ← append_assoc]
    rfl
  rw [State.next]
  dsimp only
  rw [SeatState.getKeyboard]
  dsimp only
  have hann (es : List (Event F)) :
      entries o ((.keymap :: if 4 ≤ version then [.repeatInfo 25 600] else []) ++ es) = entries o es := by
    rw [entries, filterMap_append]
    split <;> rfl
  cases hfoc : st.seat.focus.filter fun s => st.isAlive s && s.client = client with
  | none =>
    refine h.join (o := o) rfl (append_nil _).symm (hfoci none) (hfoci none) ?_ ?_
    · rw [hann]
      exact .refl none
    · intro s
      rw [hann]
      exact nofun
  | some surface =>
    obtain ⟨halive, hcl⟩ := Bool.and_eq_true_iff.mp (filter_eq_some_iff.mp hfoc).2
    have hents : entries o
        [.keyboardEnter serial surface st.seat.serializePressedKeys, st.seat.sendModifiers serial] = [.enter o surface] := by
      rw [SeatState.sendModifiers]
      split <;> rfl
    refine h.join (o := o) rfl (append_nil _).symm (hfoci none) (hfoci (some surface)) ?_ ?_
    · rw [hann, hents]
      exact .enter halive (of_decide_eq_true hcl) (.refl _)
    · intro s
      rw [hann, hents, mem_singleton]
      exact nofun

end Operations

/-- The keyboards have the focus of the seat, as far as they may. -/
def KeyboardsFollow (seat : SeatState F) : Prop :=
  ∀ k ∈ seat.keyboards, k.focus = seat.focus.filter fun s => s.client = k.resource.client

theorem keyboardsFollow_of_eq {seat' : SeatState F} (h : KeyboardsFollow seat)
    (hkbds : seat'.keyboards = seat.keyboards) (hfoc : seat'.focus = seat.focus) : KeyboardsFollow seat' := by
  rw [KeyboardsFollow, hkbds, hfoc]
  exact h

theorem pointerFocus_keyboards (surface : Option Surface) (x y : F) (serial : UInt32) (seat : SeatState F) :
    (seat.pointerFocus surface x y serial).1.keyboards = seat.keyboards ∧
      (seat.pointerFocus surface x y serial).1.focus = seat.focus := by
  cases surface with
  | none => exact ⟨rfl, rfl⟩
  | some surface => exact ⟨rfl, rfl⟩

theorem keyboardsFollow_pointerMotionFocus (fixed : F → Int) (h : KeyboardsFollow seat) (surface : Option Surface)
    (x y : F) (serial time : UInt32) :
    KeyboardsFollow (seat.pointerMotionFocus fixed isAlive surface x y serial time).1 := by
  obtain ⟨hkbds, hfoc⟩ := pointerFocus_keyboards (surface.filter isAlive) x y serial seat
  rw [SeatState.pointerMotionFocus]
  dsimp only
  split <;> exact keyboardsFollow_of_eq h hkbds hfoc

theorem keyboardsFollow_keyboardFocus (h : KeyboardsFollow seat) (surface : Surface) (serial : UInt32) :
    KeyboardsFollow (seat.keyboardFocus isAlive surface serial).1 := by
  rw [SeatState.keyboardFocus]
  split
  · refine forall_mem_map.mpr fun k _ => ?_
    rw [k.enter_resource, Keyboard.enter]
    dsimp only
    rw [filter_some]
    by_cases hcl : k.resource.client = surface.client
    · rw [if_neg (not_not.mpr hcl), decide_eq_true hcl.symm]
      split
      · next hsame => exact hsame
      · rfl
    · rw [if_pos hcl, decide_eq_false (Ne.symm hcl)]
      rfl
  · exact h

theorem keyboardsFollow_keyboardUnfocus (serial : UInt32) (seat : SeatState F) :
    KeyboardsFollow (seat.keyboardUnfocus isAlive serial).1 :=
  forall_mem_map.mpr fun _ _ => rfl

theorem keyboardsFollow_getPointer (h : KeyboardsFollow seat) (o : Resource) (serial : UInt32) :
    KeyboardsFollow (seat.getPointer isAlive o serial).1 := by
  rw [SeatState.getPointer]
  dsimp only
  split <;> exact h

theorem keyboardsFollow_getKeyboard (h : KeyboardsFollow seat) (o : Resource) (serial : UInt32) :
    KeyboardsFollow (seat.getKeyboard isAlive o serial).1 ↔
      ∀ s, seat.focus = some s → s.client = o.client → isAlive s = true := by
  rw [SeatState.getKeyboard, KeyboardsFollow]
  dsimp only
  rw [forall_mem_append, forall_mem_singleton]
  refine (and_iff_right h).trans ?_
  dsimp only
  cases seat.focus with
  | none => exact iff_of_true rfl nofun
  | some s =>
    rw [filter_some, filter_some]
    by_cases hcl : s.client = o.client
    · rw [decide_eq_true hcl, Bool.and_true]
      cases halive : isAlive s <;> simp [hcl, halive]
    · rw [decide_eq_false hcl, Bool.and_false]
      exact iff_of_true rfl fun s' hs' heq => absurd (some.inj hs' ▸ heq) hcl

theorem Inv.next (h : Inv st) (fixed : F → Int) (step : Step F) : Inv (st.next fixed step) := by
  obtain ⟨call, serial, time⟩ := step
  cases call with
  | createSurface client => exact h.createSurface fixed client serial time
  | destroySurface surface => exact h.destroySurface fixed surface serial time
  | getPointer client version => exact (h.getPointer fixed client version serial time).1
  | getKeyboard client version => exact (h.getKeyboard fixed client version serial time).1
  | destroyPointer pointer => exact h.sublist (List.Sublist.append_right (filter_sublist.map _) _)
  | destroyKeyboard keyboard => exact h.sublist (List.Sublist.append_left (filter_sublist.map _) _)
  | pointerMotionFocus surface x y => exact (h.pointerMotionFocus fixed surface x y serial time).1
  | keyboardFocus surface => exact (h.keyboardFocus surface serial).1
  | keyboardUnfocus => exact (h.keyboardUnfocus serial).1

theorem consistent_iff (h : Inv st) :
    Consistent st ↔ NamesAlive May st.focusLog ∧ KeyboardsFollow st.seat :=
  ⟨fun hc => ⟨hc.namesAlive, hc.keyboards⟩, fun hc => ⟨h.alternates, hc.1, hc.2⟩⟩

theorem consistent_next_iff (h : Inv st) (hc : Consistent st) (fixed : F → Int) (step : Step F) :
    Consistent (st.next fixed step) ↔ DeadForgotten st step.call := by
  obtain ⟨hnms, hfol⟩ := (consistent_iff h).mp hc
  rw [consistent_iff (h.next fixed step)]
  obtain ⟨call, serial, time⟩ := step
  cases call with
  | createSurface client =>
    refine iff_of_true ⟨?_, hfol⟩ trivial
    rw [focusLog_createSurface]
    exact namesAlive_concat.mpr ⟨hnms, nofun⟩
  | destroySurface surface =>
    refine iff_of_true ?_ trivial
    by_cases hthere : st.isAlive surface = true
    · rw [next_destroySurface hthere]
      refine ⟨?_, hfol⟩
      rw [focusLog_destroyed]
      exact namesAlive_concat.mpr ⟨hnms, nofun⟩
    · rw [next_destroySurface_of_dead hthere]
      exact ⟨hnms, hfol⟩
  | getPointer client version =>
    refine iff_of_true ⟨(h.getPointer fixed client version serial time).2.mpr hnms, ?_⟩ trivial
    exact keyboardsFollow_getPointer hfol _ serial
  | getKeyboard client version =>
    rw [and_iff_right ((h.getKeyboard fixed client version serial time).2.mpr hnms)]
    exact keyboardsFollow_getKeyboard hfol _ serial
  | destroyPointer pointer => exact iff_of_true ⟨hnms, hfol⟩ trivial
  | destroyKeyboard keyboard =>
    exact iff_of_true ⟨hnms, fun k hk => hfol k (mem_of_mem_filter hk)⟩ trivial
  | pointerMotionFocus surface x y =>
    have hptrs := (h.pointerMotionFocus fixed surface x y serial time).2
    rw [and_iff_right hnms] at hptrs
    refine (and_iff_left ?_).trans hptrs
    exact keyboardsFollow_pointerMotionFocus fixed hfol surface x y serial time
  | keyboardFocus surface =>
    refine iff_of_true ⟨(h.keyboardFocus surface serial).2.mpr hnms, ?_⟩ trivial
    exact keyboardsFollow_keyboardFocus hfol surface serial
  | keyboardUnfocus =>
    refine iff_of_true ⟨(h.keyboardUnfocus serial).2.mpr hnms, ?_⟩ trivial
    exact keyboardsFollow_keyboardUnfocus serial st.seat

theorem inv_new (kbActive : Bool) (pressedKeys : List UInt32) (mods : Modifiers) :
    Inv (State.new kbActive pressedKeys mods : State F) where
  nodup := nodup_nil
  fresh := nofun
  logged := nofun
  surfaces := by
    rintro s (hs | hs) <;> cases hs
  alive := fun s => iff_of_false nofun fun h => absurd h.1 nofun
  alternates := alternates_nil
  entered := nofun
  may := nofun
  recorded := nofun

/-- The focus is consistent in every state of a run exactly if no dead surface that is
recorded is in the way of a step. -/
theorem consistent_run_iff (fixed : F → Int) (kbActive : Bool) (pressedKeys : List UInt32) (mods : Modifiers)
    (steps : List (Step F)) :
    (∀ done, done <+: steps → Consistent (done.foldl (State.next fixed) (.new kbActive pressedKeys mods))) ↔
      ∀ done step, done ++ [step] <+: steps →
        DeadForgotten (done.foldl (State.next fixed) (.new kbActive pressedKeys mods)) step.call := by
  refine Runs.foldl_stays_iff (I := Inv) (C := fun st step => DeadForgotten st step.call)
    (fun st step h _ => h.next fixed step) (fun st step h hc => consistent_next_iff h hc fixed step)
    (inv_new kbActive pressedKeys mods) ?_ steps
  exact ⟨alternates_nil, namesAlive_nil, nofun⟩

/-- The first surface of a client is destroyed under its pointer, which then leaves the
window. -/
def leftBehind : List (Step Int) :=
  [⟨.createSurface 1, 1, 0⟩, ⟨.getPointer 1 8, 2, 0⟩, ⟨.pointerMotionFocus (some ⟨0, 1⟩) 3 4, 3, 0⟩,
    ⟨.destroySurface ⟨0, 1⟩, 4, 0⟩, ⟨.pointerMotionFocus none 0 0, 5, 0⟩]

theorem leftBehind_named : ¬Consistent (leftBehind.foldl (State.next id) (.new true [] ⟨0, 0, 0, 0⟩)) := by
  intro hc
  have hlog : (leftBehind.foldl (State.next id) (.new true [] ⟨0, 0, 0, 0⟩)).focusLog =
      [.created ⟨0, 1⟩, .enter ⟨1, 1, 8⟩ ⟨0, 1⟩, .destroyed ⟨0, 1⟩] ++ [.leave ⟨1, 1, 8⟩ ⟨0, 1⟩] := rfl
  obtain ⟨⟨-, hdstd⟩, -⟩ := hc.namesAlive _ _ [] _ _ hlog rfl
  exact hdstd (by simp)

end X11Web.SeatFocus
