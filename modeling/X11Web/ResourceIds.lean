import Mathlib.Data.Nat.Bitwise
import X11Web.Runs
import X11Web.Windows

namespace X11Web.ResourceIds

open HashMaps Windows Runs Function

def overlayWindow : XId := 0x63

def serverWindows : List XId :=
  [rootWindow, overlayWindow, wmCheckWindow, xsettingsWindow, ximWindow, clipboardManagerWindow,
    systemTrayWindow]

/-- A server with its connections: an accepted one has only its number until its
setup is through. The counter is a `u32` that starts over behind its last value. -/
structure Server where
  connectionCounter : Nat
  accepted : ClientId → Option Nat
  connections : ClientId → Option Connection
  shared : Shared

def Server.view (t : Server) (conn : Connection) : ClientState := { conn with shared := t.shared }

inductive ServerAction
  | accept (client : ClientId)
  | refuse (client : ClientId)
  | setup (client : ClientId) (msb : Bool) (pid : Nat) (hostname : Bytes)
  | serve (client : ClientId)
  | leave (client : ClientId)

/-- The life of a connection. A setup waits until no client holds the server
grab; no request changes the base. -/
inductive ServerStep : Server → ServerAction → Server → Prop
  | accept {t : Server} {client : ClientId} (hfresh : t.accepted client = none)
      (hnew : t.connections client = none) :
      ServerStep t (.accept client) { t with
        connectionCounter := (t.connectionCounter + 1) % 2 ^ 32
        accepted := update t.accepted client (some t.connectionCounter) }
  | refuse {t : Server} {client : ClientId} :
      ServerStep t (.refuse client) { t with accepted := update t.accepted client none }
  | setup {t : Server} {client : ClientId} {msb : Bool} {pid connIndex : Nat} {hostname : Bytes}
      (hidx : t.accepted client = some connIndex) (hgrab : t.shared.serverGrab = none) :
      ServerStep t (.setup client msb pid hostname) { t with
        accepted := update t.accepted client none
        connections := update t.connections client
          (some (acceptClient client msb pid connIndex hostname t.shared).toConnection)
        shared := (acceptClient client msb pid connIndex hostname t.shared).shared }
  | serve {t : Server} {client : ClientId} {conn conn' : Connection} {shared : Shared}
      (hconn : t.connections client = some conn)
      (hbase : conn'.resourceIdBase = conn.resourceIdBase) :
      ServerStep t (.serve client) { t with
        connections := update t.connections client (some conn')
        shared := shared }
  | leave {t : Server} {client : ClientId} {shared : Shared} :
      ServerStep t (.leave client) { t with
        connections := update t.connections client none
        shared := shared }

def idSpace (base : Nat) : Set XId := { id | ∃ low ≤ resourceIdMask, id = base ||| low }

structure SeparateIds (t : Server) : Prop where
  bases : ∀ c c' conn conn', t.connections c = some conn → t.connections c' = some conn' →
    c ≠ c' → conn.resourceIdBase ≠ conn'.resourceIdBase
  server : ∀ c conn, t.connections c = some conn →
    ∀ id ∈ serverWindows, id ∉ idSpace conn.resourceIdBase
  topBits : ∀ c conn, t.connections c = some conn → conn.resourceIdBase < 2 ^ 29
  exclusive : ∀ c c' conn conn' id, t.connections c = some conn → t.connections c' = some conn' →
    c ≠ c' → validateResourceId (t.view conn) id → ¬ validateResourceId (t.view conn') id

/-- No connection is set up whose number is `m` or more, and the counter has not
started over. -/
def IndexBelow (m : Nat) (t : Server) : ServerAction → Prop
  | .accept _ => t.connectionCounter + 1 < 2 ^ 32
  | .setup client .. => ∀ i, t.accepted client = some i → i < m
  | _ => True

variable {t t' : Server} {c client : ClientId} {conn : Connection} {base i m : Nat}

theorem acceptClient_resourceIdBase (me : ClientId) (msb : Bool) (pid connIndex : Nat)
    (hostname : Bytes) (sh : Shared) :
    (acceptClient me msb pid connIndex hostname sh).resourceIdBase =
      (connIndex + 1) % 2 ^ 10 * 2 ^ 22 := by
  change (connIndex + 1) * 2 ^ 22 % 2 ^ 32 = _
  rw [show (2 : Nat) ^ 32 = 2 ^ 10 * 2 ^ 22 from rfl, Nat.mul_mod_mul_right]

theorem mem_idSpace (s : ClientState) (h : 2 ^ 22 ∣ s.resourceIdBase) (id : XId) :
    id ∈ idSpace s.resourceIdBase ↔ validateResourceId s id = true := by
  obtain ⟨k, hk⟩ := h
  have hor : ∀ low < 2 ^ 22, s.resourceIdBase ||| low = 2 ^ 22 * k + low := by
    intro low hlow
    rw [hk, Nat.two_pow_add_eq_or_of_lt hlow]
  have hmask : resourceIdMask + 1 = 2 ^ 22 := rfl
  simp only [validateResourceId, beq_iff_eq, hmask]
  constructor
  · rintro ⟨low, hlow, rfl⟩
    have hlt : low < 2 ^ 22 := Nat.lt_of_le_of_lt hlow (by decide)
    rw [hor low hlt, hk, Nat.mul_add_mod, Nat.mod_eq_of_lt hlt, Nat.add_sub_cancel]
  · intro hid
    have hlt : id % 2 ^ 22 < 2 ^ 22 := Nat.mod_lt id (by decide)
    refine ⟨id % 2 ^ 22, by rw [resourceIdMask]; omega, ?_⟩
    rw [hor _ hlt, ← hk, ← hid, Nat.sub_add_cancel (Nat.mod_le id _)]

theorem validate_base {s s' : ClientState} {id : XId} (h : validateResourceId s id = true)
    (h' : validateResourceId s' id = true) : s.resourceIdBase = s'.resourceIdBase := by
  simp only [validateResourceId, beq_iff_eq] at h h'
  rw [← h, ← h']

theorem serverWindows_small {id : Nat} (h : id ∈ serverWindows) : id < 2 ^ 22 := by
  revert h id
  decide

theorem mem_idSpace_zero {id : Nat} (h : id < 2 ^ 22) : id ∈ idSpace 0 :=
  ⟨id, by rw [resourceIdMask]; omega, by simp⟩

theorem not_mem_idSpace {id : Nat} (hid : id < 2 ^ 22) (hbase : 2 ^ 22 ≤ base) :
    id ∉ idSpace base := by
  rintro ⟨low, -, rfl⟩
  have hle : base ≤ base ||| low := Nat.left_le_or
  omega

def Aligned (t : Server) : Prop :=
  ∀ c conn, t.connections c = some conn → 2 ^ 22 ∣ conn.resourceIdBase

variable {a : ServerAction}

theorem serverStep_base (h : ServerStep t a t') (hconn : t'.connections c = some conn) :
    (∃ old, t.connections c = some old ∧ old.resourceIdBase = conn.resourceIdBase) ∨
      ∃ msb pid hostname i, a = .setup c msb pid hostname ∧ t.accepted c = some i ∧
        conn.resourceIdBase = (i + 1) % 2 ^ 10 * 2 ^ 22 := by
  cases h with
  | accept hfresh hnew => exact .inl ⟨conn, hconn, rfl⟩
  | refuse => exact .inl ⟨conn, hconn, rfl⟩
  | @setup client msb pid i hostname hidx hgrab =>
    by_cases hc : c = client
    · subst hc
      simp only [update_self, Option.some.injEq] at hconn
      subst hconn
      exact .inr ⟨msb, pid, hostname, i, rfl, hidx, acceptClient_resourceIdBase _ _ _ _ _ _⟩
    · exact .inl ⟨conn, (update_of_ne hc _ _).symm.trans hconn, rfl⟩
  | @serve client old conn' shared hold hbase =>
    by_cases hc : c = client
    · subst hc
      simp only [update_self, Option.some.injEq] at hconn
      subst hconn
      exact .inl ⟨old, hold, hbase.symm⟩
    · exact .inl ⟨conn, (update_of_ne hc _ _).symm.trans hconn, rfl⟩
  | @leave client shared =>
    by_cases hc : c = client
    · subst hc
      simp at hconn
    · exact .inl ⟨conn, (update_of_ne hc _ _).symm.trans hconn, rfl⟩

theorem serverStep_aligned (h : Aligned t) (hstep : ServerStep t a t') : Aligned t' := by
  intro c conn hconn
  obtain ⟨old, hold, hbase⟩ | ⟨_, _, _, i, _, _, hbase⟩ := serverStep_base hstep hconn
  · rw [← hbase]
    exact h c old hold
  · rw [hbase]
    exact Nat.dvd_mul_left _ _

theorem separateIds_iff (h : Aligned t) :
    SeparateIds t ↔
      (∀ c c' conn conn', t.connections c = some conn → t.connections c' = some conn' →
        c ≠ c' → conn.resourceIdBase ≠ conn'.resourceIdBase) ∧
      ∀ c conn, t.connections c = some conn →
        2 ^ 22 ≤ conn.resourceIdBase ∧ conn.resourceIdBase < 2 ^ 29 := by
  constructor
  · intro hs
    refine ⟨hs.bases, ?_⟩
    intro c conn hconn
    refine ⟨?_, hs.topBits c conn hconn⟩
    apply Nat.le_of_dvd _ (h c conn hconn)
    apply Nat.pos_of_ne_zero
    intro hzero
    have hroot := hs.server c conn hconn rootWindow (by decide)
    rw [hzero] at hroot
    exact hroot (mem_idSpace_zero (by decide))
  · rintro ⟨hbases, hrange⟩
    refine ⟨hbases, ?_, fun c conn hconn => (hrange c conn hconn).2, ?_⟩
    · intro c conn hconn id hid
      exact not_mem_idSpace (serverWindows_small hid) (hrange c conn hconn).1
    · intro c c' conn conn' id hconn hconn' hne hvalid hvalid'
      exact hbases c c' conn conn' hconn hconn' hne (validate_base hvalid hvalid')

/-- A number that is out was out before the step, or is the counter's. A setup
takes back the number of its client. -/
theorem serverStep_accepted (h : ServerStep t a t') (hi : t'.accepted c = some i) :
    t.accepted c = some i ∧ (∀ msb pid hostname, a ≠ .setup c msb pid hostname) ∨
      a = .accept c ∧ i = t.connectionCounter := by
  cases h with
  | @accept client hfresh hnew =>
    by_cases hc : c = client
    · subst hc
      simp only [update_self, Option.some.injEq] at hi
      exact .inr ⟨rfl, hi.symm⟩
    · exact .inl ⟨(update_of_ne hc _ _).symm.trans hi, by simp⟩
  | @refuse client =>
    by_cases hc : c = client
    · subst hc
      simp at hi
    · exact .inl ⟨(update_of_ne hc _ _).symm.trans hi, by simp⟩
  | @setup client msb pid j hostname hidx hgrab =>
    by_cases hc : c = client
    · subst hc
      simp at hi
    · refine .inl ⟨(update_of_ne hc _ _).symm.trans hi, ?_⟩
      rintro msb' pid' hostname' heq
      exact hc (ServerAction.setup.inj heq).1.symm
  | serve hconn hbase => exact .inl ⟨hi, by simp⟩
  | leave => exact .inl ⟨hi, by simp⟩

theorem serverStep_counter (hgrd : IndexBelow m t a) (h : ServerStep t a t') :
    (a = .accept c → t.connectionCounter < t'.connectionCounter) ∧
      t.connectionCounter ≤ t'.connectionCounter := by
  cases h with
  | accept hfresh hnew =>
    have hnext : (t.connectionCounter + 1) % 2 ^ 32 = t.connectionCounter + 1 :=
      Nat.mod_eq_of_lt hgrd
    exact ⟨fun _ => hnext.symm ▸ Nat.lt_succ_self _, hnext.symm ▸ Nat.le_succ _⟩
  | refuse => exact ⟨by simp, le_rfl⟩
  | setup hidx hgrab => exact ⟨by simp, le_rfl⟩
  | serve hconn hbase => exact ⟨by simp, le_rfl⟩
  | leave => exact ⟨by simp, le_rfl⟩

/-- The numbers given out are below the counter, each belongs to one client, and
a connection has the base of a number that no other client has. -/
structure Numbered (t : Server) : Prop where
  accepted : ∀ c i, t.accepted c = some i → i < t.connectionCounter
  connected : ∀ c conn, t.connections c = some conn →
    ∃ i < t.connectionCounter, i < 127 ∧ conn.resourceIdBase = (i + 1) * 2 ^ 22
  distinct : ∀ c c' i, t.accepted c = some i → t.accepted c' = some i → c = c'
  apart : ∀ c c' i conn, t.accepted c = some i → t.connections c' = some conn →
    conn.resourceIdBase ≠ (i + 1) * 2 ^ 22
  bases : ∀ c c' conn conn', t.connections c = some conn → t.connections c' = some conn' →
    c ≠ c' → conn.resourceIdBase ≠ conn'.resourceIdBase

theorem base_small (hi : i < 127) : (i + 1) % 2 ^ 10 * 2 ^ 22 = (i + 1) * 2 ^ 22 := by
  rw [Nat.mod_eq_of_lt (by omega)]

theorem numbered_accepted (h : Numbered t) (hgrd : IndexBelow m t a)
    (hstep : ServerStep t a t') (c : ClientId) (i : Nat) (hi : t'.accepted c = some i) :
    i < t'.connectionCounter := by
  obtain ⟨hgrow, hle⟩ := serverStep_counter (c := c) hgrd hstep
  obtain ⟨hold, -⟩ | ⟨hacc, rfl⟩ := serverStep_accepted hstep hi
  · exact Nat.lt_of_lt_of_le (h.accepted c i hold) hle
  · exact hgrow hacc

theorem numbered_connected (h : Numbered t) (hm : m ≤ 127)
    (hgrd : IndexBelow m t a) (hstep : ServerStep t a t') (c : ClientId) (conn : Connection)
    (hconn : t'.connections c = some conn) :
    ∃ i < t'.connectionCounter, i < 127 ∧ conn.resourceIdBase = (i + 1) * 2 ^ 22 := by
  obtain ⟨-, hle⟩ := serverStep_counter (c := c) hgrd hstep
  obtain ⟨old, hold, hbase⟩ | ⟨_, _, _, i, rfl, hi, hbase⟩ := serverStep_base hstep hconn
  · obtain ⟨i, hlt, hsmall, hnum⟩ := h.connected c old hold
    exact ⟨i, Nat.lt_of_lt_of_le hlt hle, hsmall, hbase ▸ hnum⟩
  · have hsmall : i < 127 := Nat.lt_of_lt_of_le (hgrd i hi) hm
    exact ⟨i, Nat.lt_of_lt_of_le (h.accepted c i hi) hle, hsmall, hbase.trans (base_small hsmall)⟩

theorem numbered_distinct (h : Numbered t) (hstep : ServerStep t a t')
    (c c' : ClientId) (i : Nat) (hi : t'.accepted c = some i) (hi' : t'.accepted c' = some i) :
    c = c' := by
  obtain ⟨hold, -⟩ | ⟨rfl, rfl⟩ := serverStep_accepted hstep hi
  · obtain ⟨hold', -⟩ | ⟨-, rfl⟩ := serverStep_accepted hstep hi'
    · exact h.distinct c c' i hold hold'
    · exact absurd (h.accepted c _ hold) (Nat.lt_irrefl _)
  · obtain ⟨hold', -⟩ | ⟨heq, -⟩ := serverStep_accepted hstep hi'
    · exact absurd (h.accepted c' _ hold') (Nat.lt_irrefl _)
    · exact ServerAction.accept.inj heq

theorem numbered_apart (h : Numbered t) (hm : m ≤ 127)
    (hgrd : IndexBelow m t a) (hstep : ServerStep t a t') (c c' : ClientId) (i : Nat)
    (conn : Connection) (hi : t'.accepted c = some i) (hconn : t'.connections c' = some conn) :
    conn.resourceIdBase ≠ (i + 1) * 2 ^ 22 := by
  intro heq
  obtain ⟨hold, hoth⟩ | ⟨rfl, rfl⟩ := serverStep_accepted hstep hi
  · obtain ⟨old, hconn, hbase⟩ | ⟨_, _, _, j, rfl, hj, hbase⟩ := serverStep_base hstep hconn
    · exact h.apart c c' i old hold hconn (hbase.trans heq)
    · rw [base_small (Nat.lt_of_lt_of_le (hgrd j hj) hm)] at hbase
      obtain rfl : j = i := by omega
      obtain rfl := h.distinct c c' j hold hj
      exact hoth _ _ _ rfl
  · -- the counter's own number is above those of all connections
    obtain ⟨old, hconn, hbase⟩ | ⟨_, _, _, _, hsetup, _, _⟩ := serverStep_base hstep hconn
    · obtain ⟨j, hlt, -, hnum⟩ := h.connected c' old hconn
      omega
    · simp at hsetup

theorem numbered_bases (h : Numbered t) (hm : m ≤ 127)
    (hgrd : IndexBelow m t a) (hstep : ServerStep t a t') (c c' : ClientId)
    (conn conn' : Connection) (hconn : t'.connections c = some conn)
    (hconn' : t'.connections c' = some conn') (hne : c ≠ c') :
    conn.resourceIdBase ≠ conn'.resourceIdBase := by
  obtain ⟨old, hold, hbase⟩ | ⟨_, _, _, i, rfl, hi, hbase⟩ := serverStep_base hstep hconn
  · obtain ⟨old', hold', hbase'⟩ | ⟨_, _, _, i, rfl, hi, hbase'⟩ := serverStep_base hstep hconn'
    · rw [← hbase, ← hbase']
      exact h.bases c c' old old' hold hold' hne
    · rw [← hbase, hbase', base_small (Nat.lt_of_lt_of_le (hgrd i hi) hm)]
      exact h.apart c' c i old hi hold
  · rw [base_small (Nat.lt_of_lt_of_le (hgrd i hi) hm)] at hbase
    obtain ⟨old', hold', hbase'⟩ | ⟨_, _, _, j, hsetup, _, _⟩ := serverStep_base hstep hconn'
    · rw [hbase, ← hbase']
      exact (h.apart c c' i old' hi hold').symm
    · exact absurd (ServerAction.setup.inj hsetup).1 hne

theorem serverStep_numbered (h : Numbered t) (hm : m ≤ 127)
    (hgrd : IndexBelow m t a) (hstep : ServerStep t a t') : Numbered t' where
  accepted := numbered_accepted h hgrd hstep
  connected := numbered_connected h hm hgrd hstep
  distinct := numbered_distinct h hstep
  apart := numbered_apart h hm hgrd hstep
  bases := numbered_bases h hm hgrd hstep

theorem Numbered.separateIds (h : Numbered t) (haligned : Aligned t) : SeparateIds t := by
  refine (separateIds_iff haligned).mpr ⟨h.bases, ?_⟩
  intro c conn hconn
  obtain ⟨i, -, hsmall, hbase⟩ := h.connected c conn hconn
  omega

def start (props : XId → HashMap Atom PropertyValue) (selections : HashMap Atom SelectionOwner) :
    Server where
  connectionCounter := 0
  accepted := fun _ => none
  connections := fun _ => none
  shared := initialShared props selections

theorem start_numbered (props : XId → HashMap Atom PropertyValue)
    (selections : HashMap Atom SelectionOwner) :
    Aligned (start props selections) ∧ Numbered (start props selections) := by
  refine ⟨?_, ?_, ?_, ?_, ?_, ?_⟩
  · simp [Aligned, start]
  · simp [start]
  · simp [start]
  · simp [start]
  · simp [start]
  · simp [start]

theorem guardedRun_separateIds_below {props : XId → HashMap Atom PropertyValue}
    {selections : HashMap Atom SelectionOwner} {as : List ServerAction} (hm : m ≤ 127)
    (hrun : Run (guarded (IndexBelow m) ServerStep) (start props selections) as t) :
    SeparateIds t := by
  have h : Aligned t ∧ Numbered t := by
    refine Run.invariant (I := fun t => Aligned t ∧ Numbered t) ?_
      (start_numbered props selections) hrun
    intro t a t' ⟨haligned, hnumbered⟩ ⟨hgrd, hstep⟩
    exact ⟨serverStep_aligned haligned hstep, serverStep_numbered hnumbered hm hgrd hstep⟩
  exact h.2.separateIds h.1

theorem run_refused (m : Nat) (props : XId → HashMap Atom PropertyValue)
    (selections : HashMap Atom SelectionOwner) (n : Nat) (hn : n < 2 ^ 32) :
    ∃ as, Run (guarded (IndexBelow m) ServerStep) (start props selections) as
      { start props selections with connectionCounter := n } := by
  induction n with
  | zero => exact ⟨[], .nil _⟩
  | succ n ih =>
    obtain ⟨as, hrun⟩ := ih (by omega)
    have hacc : guarded (IndexBelow m) ServerStep
        { start props selections with connectionCounter := n } (.accept 1) _ :=
      ⟨hn, .accept rfl rfl⟩
    refine ⟨as ++ [.accept 1, .refuse 1], hrun.append (.cons hacc (.single ?_))⟩
    have href : guarded (IndexBelow m) ServerStep { start props selections with
        connectionCounter := (n + 1) % 2 ^ 32
        accepted := update (fun _ => none) 1 (some n) } (.refuse 1) _ :=
      ⟨trivial, .refuse⟩
    rw [update_idem, update_eq_self_iff.mpr rfl] at href
    rw [Nat.mod_eq_of_lt hn] at href ⊢
    exact href

theorem run_connect (hfresh : t.accepted c = none) (hnew : t.connections c = none)
    (hgrab : t.shared.serverGrab = none) (hm : t.connectionCounter < m)
    (hctr : t.connectionCounter + 1 < 2 ^ 32) :
    ∃ t' conn, Run (guarded (IndexBelow m) ServerStep) t [.accept c, .setup c false 0 []] t' ∧
      t'.connections c = some conn ∧
      conn.resourceIdBase = (t.connectionCounter + 1) % 2 ^ 10 * 2 ^ 22 := by
  refine ⟨_, _, .cons ⟨hctr, .accept hfresh hnew⟩ (.single ⟨?_,
    .setup (update_self _ _ _) hgrab⟩), update_self _ _ _,
    acceptClient_resourceIdBase _ _ _ _ _ _⟩
  intro i hi
  have hnum : update t.accepted c (some t.connectionCounter) c = some i := hi
  rw [update_self] at hnum
  exact Option.some.inj hnum ▸ hm

theorem not_separateIds_128 (hm : 127 < m) :
    ∃ as t, Run (guarded (IndexBelow m) ServerStep) (start (fun _ => ∅) ∅) as t ∧
      ¬ SeparateIds t := by
  obtain ⟨as, hrefused⟩ := run_refused m (fun _ => ∅) ∅ 127 (by decide)
  obtain ⟨t, conn, hrun, hconn, hbase⟩ := run_connect
    (t := { start (fun _ => ∅) ∅ with connectionCounter := 127 }) (c := 1) rfl rfl rfl hm (by decide)
  refine ⟨_, t, hrefused.append hrun, ?_⟩
  intro h
  have htop := h.topBits 1 conn hconn
  rw [hbase] at htop
  revert htop
  decide

/-- The ranges of all runs that set up no number from `m` on are separate exactly
up to `m = 127`. -/
theorem guardedRun_separateIds_iff (m : Nat) :
    (∀ (props : XId → HashMap Atom PropertyValue) (selections : HashMap Atom SelectionOwner)
      (as : List ServerAction) (t : Server),
      Run (guarded (IndexBelow m) ServerStep) (start props selections) as t → SeparateIds t) ↔
      m ≤ 127 := by
  constructor
  · intro h
    by_contra hm
    obtain ⟨as, t, hrun, hnot⟩ := not_separateIds_128 (Nat.lt_of_not_le hm)
    exact hnot (h _ _ as t hrun)
  · intro hm props selections as t hrun
    exact guardedRun_separateIds_below hm hrun

/-- The connection after 127 others gets the base `2 ^ 29`. -/
theorem base_of_connection_128 :
    ¬ ∀ (props : XId → HashMap Atom PropertyValue) (selections : HashMap Atom SelectionOwner)
      (as : List ServerAction) (t : Server),
      Run ServerStep (start props selections) as t → SeparateIds t := by
  intro h
  obtain ⟨as, t, hrun, hnot⟩ := @not_separateIds_128 128 (by decide)
  exact hnot (h _ _ as t (hrun.mono fun _ _ _ hstep => hstep.2))

end X11Web.ResourceIds
