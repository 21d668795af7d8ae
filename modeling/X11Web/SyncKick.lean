import X11Web.Runs

namespace X11Web.SyncKick

open Runs

abbrev WorkspaceId := Nat

/-- The handler of a frontend's WebSocket: before it has registered the
connection, between two messages, or between binding a workspace and its kick. -/
inductive HandlerPhase
  | starting
  | serving
  | kicking (ws : WorkspaceId)
deriving DecidableEq

/-- A data channel as the RTC task announces it: the flag is set first, the
waiters are notified after. -/
inductive ChannelPhase
  | closed
  | stored
  | announced
deriving DecidableEq

/-- The task that awaits `control_opened`. -/
inductive WatcherPhase
  | unpolled
  | waiting
  | woken
  | kicking (ws : WorkspaceId)
  | done
deriving DecidableEq

/-- The task that awaits `dc_opened`. -/
inductive ReplayPhase
  | unpolled
  | waiting
  | woken
  | done
deriving DecidableEq

/-- The tasks of one frontend connection. `kicked` has the workspaces of the
kicks that found the connection and its control channel open. -/
structure Frontend where
  handler : HandlerPhase
  workspaceId : Option WorkspaceId
  control : ChannelPhase
  media : ChannelPhase
  watcher : WatcherPhase
  replay : ReplayPhase
  kicked : List WorkspaceId
deriving DecidableEq

def Frontend.new : Frontend where
  handler := .starting
  workspaceId := none
  control := .closed
  media := .closed
  watcher := .unpolled
  replay := .unpolled
  kicked := []

def registered (f : Frontend) : Bool := f.handler != .starting

def controlOpen (f : Frontend) : Bool := f.control != .closed

def dcOpen (f : Frontend) : Bool := f.media != .closed

/-- A kick returns early where the connection is not registered or its control
channel is not open. -/
def kickWorkspaceSync (ws : WorkspaceId) (f : Frontend) : Frontend :=
  if registered f ∧ controlOpen f then { f with kicked := f.kicked ++ [ws] } else f

def notifyControl (f : Frontend) : Frontend :=
  { f with
    control := .announced
    watcher := if f.watcher = .waiting then .woken else f.watcher }

def notifyMedia (f : Frontend) : Frontend :=
  { f with
    media := .announced
    replay := if f.replay = .waiting then .woken else f.replay }

inductive TaskStep
  | register
  | bind (ws : WorkspaceId)
  | kick
  | storeControl
  | notifyControl
  | storeMedia
  | notifyMedia
  | awaitControl
  | readWorkspace
  | watcherKick
  | awaitMedia
  | replay
deriving DecidableEq

inductive taskStep : Frontend → TaskStep → Frontend → Prop
  | register (f : Frontend) (h : f.handler = .starting) :
      taskStep f .register { f with handler := .serving }
  | bind (f : Frontend) (ws : WorkspaceId) (h : f.handler = .serving) :
      taskStep f (.bind ws) { f with handler := .kicking ws, workspaceId := some ws }
  | kick (f : Frontend) (ws : WorkspaceId) (h : f.handler = .kicking ws) :
      taskStep f .kick { kickWorkspaceSync ws f with handler := .serving }
  | storeControl (f : Frontend) (h : f.control = .closed) :
      taskStep f .storeControl { f with control := .stored }
  | notifyControl (f : Frontend) (h : f.control = .stored) :
      taskStep f .notifyControl (notifyControl f)
  | storeMedia (f : Frontend) (h : f.media = .closed) :
      taskStep f .storeMedia { f with media := .stored }
  | notifyMedia (f : Frontend) (h : f.media = .stored) : taskStep f .notifyMedia (notifyMedia f)
  | awaitControl (f : Frontend) (h : f.watcher = .unpolled) :
      taskStep f .awaitControl { f with watcher := .waiting }
  | readWorkspace (f : Frontend) (h : f.watcher = .woken) :
      taskStep f .readWorkspace
        { f with watcher := f.workspaceId.elim .done WatcherPhase.kicking }
  | watcherKick (f : Frontend) (ws : WorkspaceId) (h : f.watcher = .kicking ws) :
      taskStep f .watcherKick { kickWorkspaceSync ws f with watcher := .done }
  | awaitMedia (f : Frontend) (h : f.replay = .unpolled) :
      taskStep f .awaitMedia { f with replay := .waiting }
  | replay (f : Frontend) (h : f.replay = .woken) : taskStep f .replay { f with replay := .done }

structure Quiescent (f : Frontend) : Prop where
  handler : f.handler = .serving
  control : f.control ≠ .stored
  media : f.media ≠ .stored
  watcher : f.watcher = .waiting ∨ f.watcher = .done
  replay : f.replay = .waiting ∨ f.replay = .done

/-- A bound workspace has been kicked over the open control channel, and the
pixels have been replayed over the open media channel. -/
structure Served (f : Frontend) : Prop where
  kicked : ∀ ws, f.workspaceId = some ws → controlOpen f → ws ∈ f.kicked
  replayed : dcOpen f → f.replay = .done

/-- The order of the steps that decides: a watcher waits before its notification
goes out, or else a handler's kick comes after the control channel's flag. -/
structure InTime (steps : List TaskStep) : Prop where
  control : (∃ ws, .bind ws ∈ steps) → .storeControl ∈ steps →
    Before .awaitControl .notifyControl steps ∨ Before .storeControl .kick steps
  media : .storeMedia ∈ steps → Before .awaitMedia .notifyMedia steps

structure Phases (steps : List TaskStep) (f : Frontend) : Prop where
  bound : (∃ ws, .bind ws ∈ steps) ↔ f.workspaceId.isSome
  starting : f.handler = .starting → f.workspaceId = none
  kicking : ∀ ws, f.handler = .kicking ws → f.workspaceId = some ws
  controlStored : .storeControl ∈ steps ↔ f.control ≠ .closed
  mediaStored : .storeMedia ∈ steps ↔ f.media ≠ .closed
  awaitsControl : .awaitControl ∈ steps ↔ f.watcher ≠ .unpolled
  awaitsMedia : .awaitMedia ∈ steps ↔ f.replay ≠ .unpolled

/-- A task is past its wait exactly where it had begun to wait in time. -/
structure Wakes (steps : List TaskStep) (f : Frontend) : Prop where
  watcher : Before .awaitControl .notifyControl steps ↔ f.watcher ≠ .unpolled ∧ f.watcher ≠ .waiting
  replay : Before .awaitMedia .notifyMedia steps ↔ f.replay ≠ .unpolled ∧ f.replay ≠ .waiting
  controlOpen : f.watcher ≠ .unpolled → f.watcher ≠ .waiting → f.control ≠ .closed

def Due (f : Frontend) (ws : WorkspaceId) : Prop := ws ∈ f.kicked ∨ f.handler = .kicking ws

/-- A kick that finds the channel open is the watcher's or comes after the flag;
from then on no bound workspace is left without one. -/
structure Kicks (steps : List TaskStep) (f : Frontend) : Prop where
  inTime : f.kicked ≠ [] →
    Before .awaitControl .notifyControl steps ∨ Before .storeControl .kick steps
  afterKick : Before .storeControl .kick steps → ∀ ws, f.workspaceId = some ws → Due f ws
  watcherKicks : ∀ ws₀, f.watcher = .kicking ws₀ → ∀ ws, f.workspaceId = some ws → ws = ws₀ ∨ Due f ws
  watcherDone : f.watcher = .done → ∀ ws, f.workspaceId = some ws → Due f ws

variable {steps : List TaskStep} {f f' : Frontend} {a : TaskStep}

theorem kickWorkspaceSync_eq (ws : WorkspaceId) (f : Frontend) :
    kickWorkspaceSync ws f =
      { f with kicked := f.kicked ++ if registered f ∧ controlOpen f then [ws] else [] } := by
  rw [kickWorkspaceSync]
  split <;> simp

/-! ### What one step does to each part -/

theorem workspace_step (hstep : taskStep f a f') :
    (∃ ws, a = .bind ws ∧ f'.workspaceId = some ws ∧ f'.handler = .kicking ws) ∨
      (∀ ws, a ≠ .bind ws) ∧ f'.workspaceId = f.workspaceId := by
  cases hstep with
  | bind ws h => exact .inl ⟨ws, rfl, rfl, rfl⟩
  | kick ws h => exact .inr ⟨nofun, by rw [kickWorkspaceSync_eq]⟩
  | watcherKick ws h => exact .inr ⟨nofun, by rw [kickWorkspaceSync_eq]⟩
  | _ => exact .inr ⟨nofun, rfl⟩

theorem handler_step (hstep : taskStep f a f') :
    f'.handler = .serving ∨ (∃ ws, a = .bind ws ∧ f'.handler = .kicking ws) ∨ f'.handler = f.handler := by
  cases hstep with
  | register h => exact .inl rfl
  | bind ws h => exact .inr (.inl ⟨ws, rfl, rfl⟩)
  | kick ws h => exact .inl rfl
  | watcherKick ws h => exact .inr (.inr (by rw [kickWorkspaceSync_eq]))
  | _ => exact .inr (.inr rfl)

theorem control_step (hstep : taskStep f a f') :
    (a = .storeControl ∧ f'.control ≠ .closed) ∨
      a ≠ .storeControl ∧ (f'.control ≠ .closed ↔ f.control ≠ .closed) := by
  cases hstep with
  | storeControl h => exact .inl ⟨rfl, nofun⟩
  | notifyControl h => exact .inr ⟨nofun, iff_of_true nofun (by rw [h]; nofun)⟩
  | kick ws h => exact .inr ⟨nofun, by rw [kickWorkspaceSync_eq]⟩
  | watcherKick ws h => exact .inr ⟨nofun, by rw [kickWorkspaceSync_eq]⟩
  | _ => exact .inr ⟨nofun, .rfl⟩

theorem media_step (hstep : taskStep f a f') :
    (a = .storeMedia ∧ f'.media ≠ .closed) ∨ a ≠ .storeMedia ∧ (f'.media ≠ .closed ↔ f.media ≠ .closed) := by
  cases hstep with
  | storeMedia h => exact .inl ⟨rfl, nofun⟩
  | notifyMedia h => exact .inr ⟨nofun, iff_of_true nofun (by rw [h]; nofun)⟩
  | kick ws h => exact .inr ⟨nofun, by rw [kickWorkspaceSync_eq]⟩
  | watcherKick ws h => exact .inr ⟨nofun, by rw [kickWorkspaceSync_eq]⟩
  | _ => exact .inr ⟨nofun, .rfl⟩

/-- What a step does to a task that waits to be notified: the task begins to wait, is
woken, is past its wait, or keeps its phase. -/
def Advances {Phase : Type} [DecidableEq Phase] (unpolled waiting woken : Phase) (await notify a : TaskStep)
    (p p' : Phase) : Prop :=
  (a = await ∧ p = unpolled ∧ p' = waiting) ∨ (a = notify ∧ p' = if p = waiting then woken else p) ∨
    ((a ≠ await ∧ a ≠ notify) ∧ ((p ≠ unpolled ∧ p ≠ waiting) ∧ p' ≠ unpolled ∧ p' ≠ waiting ∨ p' = p))

theorem watcher_step (hstep : taskStep f a f') :
    (a = .awaitControl ∧ f.watcher = .unpolled ∧ f'.watcher = .waiting) ∨
    (a = .notifyControl ∧ f.control = .stored ∧ f'.watcher = if f.watcher = .waiting then .woken else f.watcher) ∨
    ((a ≠ .awaitControl ∧ a ≠ .notifyControl) ∧
      ((f.watcher ≠ .unpolled ∧ f.watcher ≠ .waiting) ∧ f'.watcher ≠ .unpolled ∧ f'.watcher ≠ .waiting ∨
        f'.watcher = f.watcher)) := by
  cases hstep with
  | awaitControl h => exact .inl ⟨rfl, h, rfl⟩
  | notifyControl h => exact .inr (.inl ⟨rfl, h, rfl⟩)
  | readWorkspace h =>
    have hgone : f.workspaceId.elim .done WatcherPhase.kicking ≠ .unpolled ∧
        f.workspaceId.elim .done WatcherPhase.kicking ≠ .waiting := by
      cases f.workspaceId <;> exact ⟨nofun, nofun⟩
    exact .inr (.inr ⟨⟨nofun, nofun⟩, .inl ⟨by rw [h]; exact ⟨nofun, nofun⟩, hgone⟩⟩)
  | watcherKick ws h => exact .inr (.inr ⟨⟨nofun, nofun⟩, .inl ⟨by rw [h]; exact ⟨nofun, nofun⟩, nofun, nofun⟩⟩)
  | kick ws h => exact .inr (.inr ⟨⟨nofun, nofun⟩, .inr (by rw [kickWorkspaceSync_eq])⟩)
  | _ => exact .inr (.inr ⟨⟨nofun, nofun⟩, .inr rfl⟩)

theorem watcher_advances (hstep : taskStep f a f') :
    Advances .unpolled .waiting .woken .awaitControl .notifyControl a f.watcher f'.watcher :=
  (watcher_step hstep).imp_right (.imp_left (.imp_right And.right))

theorem replay_advances (hstep : taskStep f a f') :
    Advances .unpolled .waiting .woken .awaitMedia .notifyMedia a f.replay f'.replay := by
  cases hstep with
  | awaitMedia h => exact .inl ⟨rfl, h, rfl⟩
  | notifyMedia h => exact .inr (.inl ⟨rfl, rfl⟩)
  | replay h => exact .inr (.inr ⟨⟨nofun, nofun⟩, .inl ⟨by rw [h]; exact ⟨nofun, nofun⟩, nofun, nofun⟩⟩)
  | kick ws h => exact .inr (.inr ⟨⟨nofun, nofun⟩, .inr (by rw [kickWorkspaceSync_eq])⟩)
  | watcherKick ws h => exact .inr (.inr ⟨⟨nofun, nofun⟩, .inr (by rw [kickWorkspaceSync_eq])⟩)
  | _ => exact .inr (.inr ⟨⟨nofun, nofun⟩, .inr rfl⟩)

theorem mem_concat_of_ne {x : TaskStep} (h : a ≠ x) : x ∈ steps ++ [a] ↔ x ∈ steps := by
  rw [List.mem_append, List.mem_singleton, or_iff_left h.symm]

theorem mem_concat_self (steps : List TaskStep) (a : TaskStep) : a ∈ steps ++ [a] :=
  List.mem_append_right _ (List.mem_singleton_self a)

theorem before_concat_of_ne {x y : TaskStep} (h : a ≠ y) : Before x y (steps ++ [a]) ↔ Before x y steps := by
  rw [before_concat]
  exact or_iff_left fun hnew => h hnew.1.symm

section Waits

variable {Phase : Type} [DecidableEq Phase] {unpolled waiting woken p p' : Phase} {await notify : TaskStep}

theorem Advances.polled (hadv : Advances unpolled waiting woken await notify a p p')
    (hwaiting : waiting ≠ unpolled) (hwoken : woken ≠ unpolled) (hoth : notify ≠ await)
    (h : await ∈ steps ↔ p ≠ unpolled) : await ∈ steps ++ [a] ↔ p' ≠ unpolled := by
  rcases hadv with ⟨rfl, -, rfl⟩ | ⟨rfl, rfl⟩ | ⟨⟨hne, -⟩, ⟨⟨hpast, -⟩, hpast', -⟩ | rfl⟩
  · exact iff_of_true (mem_concat_self steps _) hwaiting
  · rw [mem_concat_of_ne hoth, h]
    split
    · next hwtg => exact iff_of_true (hwtg ▸ hwaiting) hwoken
    · exact .rfl
  · rw [mem_concat_of_ne hne, h]
    exact iff_of_true hpast hpast'
  · rw [mem_concat_of_ne hne, h]

theorem Advances.past (hadv : Advances unpolled waiting woken await notify a p p')
    (hwaiting : waiting ≠ unpolled) (hwoken : woken ≠ unpolled ∧ woken ≠ waiting) (hoth : await ≠ notify)
    (hpolled : await ∈ steps ↔ p ≠ unpolled) (h : Before await notify steps ↔ p ≠ unpolled ∧ p ≠ waiting) :
    Before await notify (steps ++ [a]) ↔ p' ≠ unpolled ∧ p' ≠ waiting := by
  rcases hadv with ⟨rfl, rfl, rfl⟩ | ⟨rfl, rfl⟩ | ⟨⟨-, hne⟩, ⟨hpast, hpast'⟩ | rfl⟩
  · rw [before_concat_of_ne hoth, h]
    exact iff_of_false (fun hnot => hnot.1 rfl) fun hnot => hnot.2 rfl
  · -- whoever waits is woken by it
    rw [before_concat, h, hpolled]
    by_cases hwtg : p = waiting
    · rw [if_pos hwtg]
      exact iff_of_true (.inr ⟨rfl, hwtg ▸ hwaiting⟩) hwoken
    · rw [if_neg hwtg]
      exact ⟨fun hor => hor.elim id fun hnew => ⟨hnew.2, hwtg⟩, .inl⟩
  · rw [before_concat_of_ne hne, h]
    exact iff_of_true hpast hpast'
  · rw [before_concat_of_ne hne, h]

end Waits

theorem Phases.step (h : Phases steps f) (hstep : taskStep f a f') : Phases (steps ++ [a]) f' where
  bound := by
    rcases workspace_step hstep with ⟨ws, rfl, hws, -⟩ | ⟨hne, hsame⟩
    · exact iff_of_true ⟨ws, mem_concat_self steps _⟩ (by rw [hws]; rfl)
    · rw [hsame, ← h.bound]
      exact exists_congr fun ws => mem_concat_of_ne (hne ws)
  starting hstg := by
    rcases handler_step hstep with hserving | ⟨ws, -, hkcg⟩ | hsame
    · exact absurd (hserving.symm.trans hstg) nofun
    · exact absurd (hkcg.symm.trans hstg) nofun
    · rcases workspace_step hstep with ⟨ws, -, -, hkcg⟩ | ⟨-, hws⟩
      · exact absurd (hkcg.symm.trans hstg) nofun
      · exact hws.trans (h.starting (hsame.symm.trans hstg))
  kicking ws hkcg := by
    rcases workspace_step hstep with ⟨ws', -, hws, hkcg'⟩ | ⟨hne, hws⟩
    · rw [hws, HandlerPhase.kicking.inj (hkcg'.symm.trans hkcg)]
    · rcases handler_step hstep with hserving | ⟨ws', rfl, -⟩ | hsame
      · exact absurd (hserving.symm.trans hkcg) nofun
      · exact absurd rfl (hne ws')
      · exact hws.trans (h.kicking ws (hsame.symm.trans hkcg))
  controlStored := by
    rcases control_step hstep with ⟨rfl, hopen⟩ | ⟨hne, hsame⟩
    · exact iff_of_true (mem_concat_self steps _) hopen
    · rw [hsame, ← h.controlStored, mem_concat_of_ne hne]
  mediaStored := by
    rcases media_step hstep with ⟨rfl, hopen⟩ | ⟨hne, hsame⟩
    · exact iff_of_true (mem_concat_self steps _) hopen
    · rw [hsame, ← h.mediaStored, mem_concat_of_ne hne]
  awaitsControl := (watcher_advances hstep).polled nofun nofun nofun h.awaitsControl
  awaitsMedia := (replay_advances hstep).polled nofun nofun nofun h.awaitsMedia

theorem Wakes.step (h : Wakes steps f) (hphs : Phases steps f) (hstep : taskStep f a f') :
    Wakes (steps ++ [a]) f' where
  watcher := (watcher_advances hstep).past nofun ⟨nofun, nofun⟩ nofun hphs.awaitsControl h.watcher
  replay := (replay_advances hstep).past nofun ⟨nofun, nofun⟩ nofun hphs.awaitsMedia h.replay
  controlOpen hpolled hpast := by
    have hkept : f.control ≠ .closed → f'.control ≠ .closed := fun hopen => by
      rcases control_step hstep with ⟨-, hopen'⟩ | ⟨-, hsame⟩
      · exact hopen'
      · exact hsame.mpr hopen
    rcases watcher_step hstep with ⟨-, -, hwaits⟩ | ⟨-, hstd, -⟩ | ⟨-, ⟨hbef, -⟩ | hsame⟩
    · exact absurd hwaits hpast
    · exact hkept (by rw [hstd]; nofun)
    · exact hkept (h.controlOpen hbef.1 hbef.2)
    · exact hkept (h.controlOpen (hsame ▸ hpolled) (hsame ▸ hpast))

theorem Kicks.of_same (h : Kicks steps f) (hkick : a ≠ .kick) (hkcd : f'.kicked = f.kicked)
    (hws : f'.workspaceId = f.workspaceId) (hhandler : f'.handler = f.handler ∨
      f.handler = .starting) (hwatcher : ∀ ws, f'.watcher = .kicking ws → f.watcher = .kicking ws)
    (hdone : f'.watcher = .done → f.watcher = .done) : Kicks (steps ++ [a]) f' := by
  have hdue : ∀ ws, Due f ws → Due f' ws := by
    intro ws hdue
    rw [Due, hkcd]
    rcases hdue with hdue | hdue
    · exact .inl hdue
    · rcases hhandler with hsame | hst
      · exact .inr (hsame.trans hdue)
      · rw [hst] at hdue
        cases hdue
  constructor
  · intro hne
    rw [hkcd] at hne
    simp only [before_concat]
    exact (h.inTime hne).imp .inl .inl
  · intro hbef ws hw
    rw [before_concat, or_iff_left (fun hlast => hkick hlast.1.symm)] at hbef
    exact hdue ws (h.afterKick hbef ws (hws ▸ hw))
  · intro ws₀ hw₀ ws hw
    exact (h.watcherKicks ws₀ (hwatcher ws₀ hw₀) ws (hws ▸ hw)).imp_right (hdue ws)
  · intro hd ws hw
    exact hdue ws (h.watcherDone (hdone hd) ws (hws ▸ hw))

theorem Kicks.kick {ws : WorkspaceId} (h : Kicks steps f) (hphs : Phases steps f)
    (hwakes : Wakes steps f) (hph : f.handler = .kicking ws) :
    Kicks (steps ++ [.kick]) { kickWorkspaceSync ws f with handler := .serving } := by
  have hbound : f.workspaceId = some ws := hphs.kicking ws hph
  have hregd : registered f = true := by simp [registered, hph]
  have hdue : f.control ≠ .closed →
      ∀ ws', f.workspaceId = some ws' →
        Due { kickWorkspaceSync ws f with handler := .serving } ws' := by
    intro hopen ws' hws'
    obtain rfl : ws = ws' := Option.some.inj (hbound.symm.trans hws')
    left
    simp [kickWorkspaceSync_eq, hregd, controlOpen, hopen]
  rw [kickWorkspaceSync_eq] at hdue ⊢
  constructor
  · intro hne
    simp only [before_concat, true_and]
    by_cases hopen : f.control = .closed
    · have hne' : f.kicked ≠ [] := by simpa [controlOpen, hopen] using hne
      exact (h.inTime hne').imp .inl .inl
    · exact .inr (.inr (hphs.controlStored.mpr hopen))
  · intro hbef
    apply hdue
    apply hphs.controlStored.mp
    rcases (before_concat steps).mp hbef with hbef | hlast
    · exact hbef.left_mem
    · exact hlast.2
  · intro ws₀ hwatcher ws' hws'
    dsimp only at hwatcher
    exact .inr (hdue (hwakes.controlOpen (by simp [hwatcher]) (by simp [hwatcher])) ws' hws')
  · intro hwatcher ws' hws'
    dsimp only at hwatcher
    exact hdue (hwakes.controlOpen (by simp [hwatcher]) (by simp [hwatcher])) ws' hws'

theorem Kicks.watcherKick {ws : WorkspaceId} (h : Kicks steps f) (hphs : Phases steps f)
    (hwakes : Wakes steps f) (hph : f.watcher = .kicking ws) :
    Kicks (steps ++ [.watcherKick]) { kickWorkspaceSync ws f with watcher := .done } := by
  have hwoken : Before .awaitControl .notifyControl steps := hwakes.watcher.mpr (by simp [hph])
  have hopen : f.control ≠ .closed := hwakes.controlOpen (by simp [hph]) (by simp [hph])
  have hdue : ∀ ws', f.workspaceId = some ws' →
      Due { kickWorkspaceSync ws f with watcher := .done } ws' := by
    intro ws' hws'
    have hregd : registered f = true := by
      rw [registered, bne_iff_ne]
      intro hstg
      simp [hphs.starting hstg] at hws'
    rw [kickWorkspaceSync_eq]
    rcases h.watcherKicks ws hph ws' hws' with rfl | hkcd | hkcg
    · left
      simp [hregd, controlOpen, hopen]
    · left
      simp [hkcd]
    · exact .inr hkcg
  rw [kickWorkspaceSync_eq] at hdue ⊢
  constructor
  · intro _
    left
    exact (before_concat steps).mpr (.inl hwoken)
  · exact fun _ => hdue
  · intro ws₀ hwatcher
    cases hwatcher
  · exact fun _ => hdue

theorem Kicks.step (h : Kicks steps f) (hphs : Phases steps f) (hwakes : Wakes steps f)
    (hstep : taskStep f a f') : Kicks (steps ++ [a]) f' := by
  cases hstep with
  | register hph => exact h.of_same (by simp) rfl rfl (.inr hph) (fun _ => id) id
  | bind ws hph =>
    have hdue : ∀ ws', some ws = some ws' →
        Due { f with handler := .kicking ws, workspaceId := some ws } ws' := by
      rintro ws' ⟨⟩
      exact .inr rfl
    refine ⟨fun hne => ?_, fun _ => hdue, fun _ _ ws' hws' => .inr (hdue ws' hws'), fun _ => hdue⟩
    simp only [before_concat]
    exact (h.inTime hne).imp .inl .inl
  | kick ws hph => exact h.kick hphs hwakes hph
  | storeControl hph => exact h.of_same (by simp) rfl rfl (.inl rfl) (fun _ => id) id
  | notifyControl hph =>
    refine h.of_same (by simp) rfl rfl (.inl rfl) (fun ws hws => ?_) (fun hdone => ?_)
    · simp only [notifyControl] at hws
      split at hws
      · cases hws
      · exact hws
    · simp only [notifyControl] at hdone
      split at hdone
      · cases hdone
      · exact hdone
  | storeMedia hph => exact h.of_same (by simp) rfl rfl (.inl rfl) (fun _ => id) id
  | notifyMedia hph => exact h.of_same (by simp) rfl rfl (.inl rfl) (fun _ => id) id
  | awaitControl hph =>
    exact h.of_same (by simp) rfl rfl (.inl rfl) (fun _ hws => by cases hws) (fun hd => by cases hd)
  | readWorkspace hph =>
    -- the watcher takes over the workspace that is bound at this moment
    refine ⟨fun hne => ?_, fun hbef ws hws => ?_, fun ws₀ hw₀ ws hws => ?_, fun hd ws hws => ?_⟩
    · simp only [before_concat]
      exact (h.inTime hne).imp .inl .inl
    · exact h.afterKick (by simpa [before_concat] using hbef) ws hws
    · dsimp only at hw₀ hws
      rw [hws] at hw₀
      left
      cases hw₀
      rfl
    · dsimp only at hd hws
      rw [hws] at hd
      cases hd
  | watcherKick ws hph => exact h.watcherKick hphs hwakes hph
  | awaitMedia hph => exact h.of_same (by simp) rfl rfl (.inl rfl) (fun _ => id) id
  | replay hph => exact h.of_same (by simp) rfl rfl (.inl rfl) (fun _ => id) id

theorem run_tracks (hrun : Run taskStep Frontend.new steps f) :
    Phases steps f ∧ Wakes steps f ∧ Kicks steps f := by
  refine hrun.history (P := fun steps f => Phases steps f ∧ Wakes steps f ∧ Kicks steps f) ?_ ?_
  · rintro steps f a f' ⟨hphs, hwakes, hkicks⟩ hstep
    exact ⟨hphs.step hstep, hwakes.step hphs hstep, hkicks.step hphs hwakes hstep⟩
  · refine ⟨?_, ?_, ?_⟩ <;> constructor <;> simp [Frontend.new, Before]

/-- Every order of the steps, seen when no task can go on: the connection is
served exactly if the decisive steps came in time. -/
theorem run_served_iff (hrun : Run taskStep Frontend.new steps f) (hqt : Quiescent f) :
    Served f ↔ InTime steps := by
  obtain ⟨hphs, hwakes, hkicks⟩ := run_tracks hrun
  constructor
  · intro hsrvd
    constructor
    · intro hbind hsto
      obtain ⟨ws, hws⟩ := Option.isSome_iff_exists.mp (hphs.bound.mp hbind)
      have hkcd := hsrvd.kicked ws hws (by simpa [controlOpen] using hphs.controlStored.mp hsto)
      exact hkicks.inTime (List.ne_nil_of_mem hkcd)
    · intro hsto
      have hdone := hsrvd.replayed (by simpa [dcOpen] using hphs.mediaStored.mp hsto)
      exact hwakes.replay.mpr (by simp [hdone])
  · intro hintime
    constructor
    · intro ws hws hopen
      have hstd := hphs.controlStored.mpr (by simpa [controlOpen] using hopen)
      have hdue : Due f ws := by
        rcases hintime.control (hphs.bound.mpr (by simp [hws])) hstd with hwoken | hlate
        · have hdone : f.watcher = .done :=
            hqt.watcher.resolve_left (hwakes.watcher.mp hwoken).2
          exact hkicks.watcherDone hdone ws hws
        · exact hkicks.afterKick hlate ws hws
      rcases hdue with hkcd | hkcg
      · exact hkcd
      · rw [hqt.handler] at hkcg
        cases hkcg
    · intro hopen
      have hstd := hphs.mediaStored.mpr (by simpa [dcOpen] using hopen)
      exact hqt.replay.resolve_left (hwakes.replay.mp (hintime.media hstd)).2

/-- Both watchers wait before any channel opens; the workspace is bound last. -/
def promptSteps : List TaskStep :=
  [.register, .awaitControl, .awaitMedia, .storeControl, .notifyControl, .readWorkspace, .storeMedia,
    .notifyMedia, .replay, .bind 1, .kick]

def prompt : Frontend := ⟨.serving, some 1, .announced, .announced, .done, .done, [1]⟩

theorem run_served_prompt :
    Run taskStep Frontend.new promptSteps prompt ∧ Quiescent prompt ∧ Served prompt := by
  have hrun : Run taskStep Frontend.new promptSteps prompt :=
    .cons (.register _ rfl) <| .cons (.awaitControl _ rfl) <| .cons (.awaitMedia _ rfl) <|
    .cons (.storeControl _ rfl) <| .cons (.notifyControl _ rfl) <| .cons (.readWorkspace _ rfl) <|
    .cons (.storeMedia _ rfl) <| .cons (.notifyMedia _ rfl) <| .cons (.replay _ rfl) <|
    .cons (.bind _ 1 rfl) <| .cons (.kick _ 1 rfl) <| .nil _
  have hqt : Quiescent prompt := by constructor <;> decide
  refine ⟨hrun, hqt, (run_served_iff hrun hqt).mpr ⟨fun _ _ => ?_, fun _ => ?_⟩⟩
  · exact .inl (by decide)
  · decide

/-- The workspace is bound and kicked before the control channel opens, and both
watchers are polled for the first time after their notification. -/
def lateSteps : List TaskStep :=
  [.register, .bind 1, .kick, .storeControl, .notifyControl, .awaitControl, .storeMedia, .notifyMedia,
    .awaitMedia]

def late : Frontend := ⟨.serving, some 1, .announced, .announced, .waiting, .waiting, []⟩

theorem late_watchers_never_wake :
    Run taskStep Frontend.new lateSteps late ∧ Quiescent late ∧ ¬Served late := by
  refine ⟨?_, by constructor <;> decide, fun h => ?_⟩
  · exact .cons (.register _ rfl) <| .cons (.bind _ 1 rfl) <| .cons (.kick _ 1 rfl) <|
      .cons (.storeControl _ rfl) <| .cons (.notifyControl _ rfl) <| .cons (.awaitControl _ rfl) <|
      .cons (.storeMedia _ rfl) <| .cons (.notifyMedia _ rfl) <| .cons (.awaitMedia _ rfl) <| .nil _
  · exact absurd (h.kicked 1 rfl rfl) (by decide)

end X11Web.SyncKick
