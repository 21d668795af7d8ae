import X11Web.RtcDriver

namespace X11Web.ControlChannel

open Windows Runs RtcDriver List

variable {d d' : Drive} {a : DriveAction} {as : List DriveAction}

def KeepsOpen (d : Drive) : DriveAction → Prop
  | .channelClose id => d.controlChannelId ≠ some id
  | _ => True

abbrev openStep : Drive → DriveAction → Drive → Prop := guarded KeepsOpen driveStep

/-- Where the action writes a control message, the channel takes it. -/
def Accepts : DriveAction → Prop
  | .recvControl outcome => outcome = .accepted
  | _ => True

/-- Once writes succeed again every message sent so far is accepted, once and in
the order of sending: the queue can be emptied, and whenever it is empty the
accepted messages are those that were sent. -/
structure Delivers (d : Drive) : Prop where
  drains : ∃ as d', Run openStep d as d' ∧ (∀ a ∈ as, Accepts a) ∧ d'.controlRx = []
  inOrder : ∀ as d', Run openStep d as d' → (∀ a ∈ as, Accepts a) → d'.controlRx = [] →
    d'.controlAccepted = d'.controlSent

def Lossless (d : Drive) : Prop := d.controlSent = d.controlAccepted ++ d.controlRx

def Lost (d : Drive) : Prop := d.controlAccepted.length + d.controlRx.length < d.controlSent.length

theorem openStep_isOpen (h : openStep d a d') (hopen : d.controlChannelId.isSome) :
    d'.controlChannelId.isSome := by
  obtain ⟨hkeep, hstep⟩ := h
  cases hstep with
  | sendMedia data => exact hopen
  | sendControl data => exact hopen
  | drainPending outcome =>
    rw [drainPending]
    split <;> exact hopen
  | channelOpen id label =>
    rw [channelOpen]
    split
    · rfl
    · exact hopen
  | channelClose id =>
    rw [channelClose]
    split
    · exact hopen
    · rw [if_neg hkeep]
      exact hopen
  | recvMedia data rest hq =>
    rw [recvMedia]
    split <;> exact hopen
  | recvControl outcome data rest hq =>
    rw [recvControl]
    split <;> exact hopen

/-- The queue and the two logs under a step: a message is added to both ends, is
taken and accepted, is taken and lost, or nothing changes. -/
theorem driveStep_control (h : driveStep d a d') :
    (∃ data, d'.controlRx = d.controlRx ++ [data] ∧ d'.controlSent = d.controlSent ++ [data] ∧
      d'.controlAccepted = d.controlAccepted ∧ Accepts a) ∨
    (∃ data, d.controlRx = data :: d'.controlRx ∧ d'.controlSent = d.controlSent ∧
      d'.controlAccepted = d.controlAccepted ++ [data] ∧ Accepts a) ∨
    (∃ data, d.controlRx = data :: d'.controlRx ∧ d'.controlSent = d.controlSent ∧
      d'.controlAccepted = d.controlAccepted ∧ ¬(d.controlChannelId.isSome ∧ Accepts a)) ∨
    (d'.controlRx = d.controlRx ∧ d'.controlSent = d.controlSent ∧
      d'.controlAccepted = d.controlAccepted ∧ Accepts a) := by
  cases h with
  | sendMedia data => exact .inr (.inr (.inr ⟨rfl, rfl, rfl, trivial⟩))
  | sendControl data => exact .inl ⟨data, rfl, rfl, rfl, trivial⟩
  | drainPending outcome =>
    refine .inr (.inr (.inr ?_))
    rw [drainPending]
    split <;> exact ⟨rfl, rfl, rfl, trivial⟩
  | channelOpen id label =>
    refine .inr (.inr (.inr ?_))
    rw [channelOpen]
    split <;> exact ⟨rfl, rfl, rfl, trivial⟩
  | channelClose id =>
    refine .inr (.inr (.inr ?_))
    rw [channelClose]
    split
    · exact ⟨rfl, rfl, rfl, trivial⟩
    · split <;> exact ⟨rfl, rfl, rfl, trivial⟩
  | recvMedia data rest hq =>
    refine .inr (.inr (.inr ?_))
    rw [recvMedia]
    split <;> exact ⟨rfl, rfl, rfl, trivial⟩
  | recvControl outcome data rest hq =>
    rw [recvControl]
    split
    · rename_i h
      exact .inr (.inl ⟨data, hq, rfl, rfl, h.2⟩)
    · rename_i h
      exact .inr (.inr (.inl ⟨data, hq, rfl, rfl, h⟩))

theorem Lossless.step (h : Lossless d) (hopen : d.controlChannelId.isSome) (haccs : Accepts a)
    (hstep : driveStep d a d') : Lossless d' := by
  rw [Lossless] at h ⊢
  rcases driveStep_control hstep with ⟨data, hrx, hsent, hacc, -⟩ | ⟨data, hrx, hsent, hacc, -⟩ |
    ⟨data, -, -, -, hlost⟩ | ⟨hrx, hsent, hacc, -⟩
  · rw [hrx, hsent, hacc, h, append_assoc]
  · rw [hsent, hacc, h, hrx, append_assoc, singleton_append]
  · exact absurd ⟨hopen, haccs⟩ hlost
  · rw [hrx, hsent, hacc, h]

theorem Lost.step (h : Lost d) (hstep : driveStep d a d') : Lost d' := by
  rw [Lost] at h ⊢
  rcases driveStep_control hstep with ⟨data, hrx, hsent, hacc, -⟩ | ⟨data, hrx, hsent, hacc, -⟩ |
    ⟨data, hrx, hsent, hacc, -⟩ | ⟨hrx, hsent, hacc, -⟩
  · simp only [hrx, hsent, hacc, length_append, length_singleton]
    omega
  · simp only [hrx, length_cons] at h
    simp only [hsent, hacc, length_append, length_singleton]
    omega
  · simp only [hrx, length_cons] at h
    simp only [hsent, hacc]
    omega
  · simpa only [hrx, hsent, hacc] using h

theorem Lossless.lost (h : Lossless d) (hrejects : ¬Accepts a) (hstep : driveStep d a d') :
    Lost d' := by
  rw [Lossless] at h
  rcases driveStep_control hstep with ⟨data, -, -, -, ha⟩ | ⟨data, -, -, -, ha⟩ |
    ⟨data, hrx, hsent, hacc, -⟩ | ⟨-, -, -, ha⟩
  · exact absurd ha hrejects
  · exact absurd ha hrejects
  · rw [Lost, hsent, hacc, h, hrx]
    simp only [length_append, length_cons]
    omega
  · exact absurd ha hrejects

theorem Lost.run (h : Lost d) (hrun : Run openStep d as d') : Lost d' :=
  hrun.invariant (fun _ _ _ hlost hstep => hlost.step hstep.2) h

theorem run_isOpen (hopen : d.controlChannelId.isSome) (hrun : Run openStep d as d') :
    d'.controlChannelId.isSome :=
  hrun.invariant (I := fun d => d.controlChannelId.isSome) (fun _ _ _ h hstep => openStep_isOpen hstep h)
    hopen

theorem Lossless.run (h : Lossless d) (hopen : d.controlChannelId.isSome)
    (hrun : Run openStep d as d') (haccs : ∀ a ∈ as, Accepts a) : Lossless d' := by
  induction hrun with
  | nil d => exact h
  | cons hstep _ ih =>
    refine ih (h.step hopen (haccs _ (by simp)) hstep.2) (openStep_isOpen hstep hopen) ?_
    exact fun a ha => haccs a (by simp [ha])

theorem Lossless.run_lost (h : Lossless d) (hopen : d.controlChannelId.isSome)
    (hrun : Run openStep d as d') (hrejects : ∃ a ∈ as, ¬Accepts a) : Lost d' := by
  induction hrun with
  | nil d => simp at hrejects
  | @cons d d₁ d' a as hstep hrest ih =>
    by_cases ha : Accepts a
    · refine ih (h.step hopen ha hstep.2) (openStep_isOpen hstep hopen) ?_
      simpa [ha] using hrejects
    · exact (h.lost ha hstep.2).run hrest

theorem exists_drain (hopen : d.controlChannelId.isSome) :
    ∃ as d', Run openStep d as d' ∧ (∀ a ∈ as, Accepts a) ∧ d'.controlRx = [] := by
  generalize hq : d.controlRx = queue
  induction queue generalizing d with
  | nil => exact ⟨[], d, .nil d, by simp, hq⟩
  | cons data rest ih =>
    have hstep : openStep d (.recvControl .accepted) (recvControl .accepted data rest d) :=
      ⟨trivial, .recvControl d .accepted data rest hq⟩
    have hrx : (recvControl .accepted data rest d).controlRx = rest := by
      rw [recvControl]
      split <;> rfl
    obtain ⟨as, d', hrun, haccs, hemp⟩ := ih (openStep_isOpen hstep hopen) hrx
    refine ⟨_, d', .cons hstep hrun, ?_, hemp⟩
    intro a ha
    rcases mem_cons.mp ha with rfl | ha
    · rfl
    · exact haccs a ha

/-- Nothing is lost exactly where the channel has taken every control message at
the first attempt. -/
theorem run_delivers_iff (hopen : d.controlChannelId.isSome) (hst : Lossless d)
    (hrun : Run openStep d as d') : Delivers d' ↔ ∀ a ∈ as, Accepts a := by
  have hopen' := run_isOpen hopen hrun
  constructor
  · intro hdelivers
    by_contra hrejects
    have hlost : Lost d' := hst.run_lost hopen hrun (by simpa using hrejects)
    obtain ⟨bs, d'', hdrain, haccs, hemp⟩ := exists_drain hopen'
    have hlost' := hlost.run hdrain
    rw [Lost, hemp, hdelivers.inOrder bs d'' hdrain haccs hemp] at hlost'
    simp at hlost'
  · intro haccs
    have hlossless := hst.run hopen hrun haccs
    refine ⟨exists_drain hopen', fun bs d'' hrun' haccs' hemp => ?_⟩
    have hend := hlossless.run hopen' hrun' haccs'
    rw [Lossless, hemp, append_nil] at hend
    exact hend.symm

def opened : Drive := channelOpen 1 "control" Drive.new

def afterWrite (outcome : WriteOutcome) : Drive :=
  recvControl outcome [7] [] { opened with controlRx := [[7]], controlSent := [[7]] }

def oneWrite (outcome : WriteOutcome) : List DriveAction := [.sendControl [7], .recvControl outcome]

theorem run_oneWrite (outcome : WriteOutcome) :
    Run openStep opened (oneWrite outcome) (afterWrite outcome) :=
  .cons ⟨trivial, .sendControl opened [7]⟩
    (.cons ⟨trivial, .recvControl _ outcome [7] [] rfl⟩ (.nil _))

theorem run_delivers_accepted :
    opened.controlChannelId.isSome ∧ Lossless opened ∧ Delivers (afterWrite .accepted) := by
  have hopen : opened.controlChannelId.isSome := rfl
  have hst : Lossless opened := rfl
  refine ⟨hopen, hst, (run_delivers_iff hopen hst (run_oneWrite .accepted)).mpr ?_⟩
  simp [oneWrite, Accepts]

/-- The buffer is full at the one write; afterwards the queue is empty and the
message is nowhere. -/
theorem full_buffer_loses_message :
    Run openStep opened (oneWrite .full) (afterWrite .full) ∧ ¬Delivers (afterWrite .full) := by
  refine ⟨run_oneWrite .full, fun h => ?_⟩
  have hsame := h.inOrder [] _ (.nil _) (by simp) (by decide)
  exact absurd hsame (by decide)

end X11Web.ControlChannel
