import Mathlib.Data.Nat.Bitwise
import X11Web.Attributes
import X11Web.TeardownPaths

namespace X11Web.RedirectHolder

open HashMaps Windows CreateDestroy Attributes Teardown Option
open TeardownFrame TeardownPaths Runs

def Holds (sh : Shared) (w : XId) (bit : Nat) (client : ClientId) : Prop :=
  ∃ sub ∈ (sh.subscriptions.lookup w).getD [], sub.clientId = client ∧ sub.eventMask &&& bit ≠ 0

def Exclusive (sh : Shared) (bit : Nat) : Prop :=
  ∀ w c c', Holds sh w bit c → Holds sh w bit c' → c = c'

structure SingleHolder (sh : Shared) : Prop where
  substructure : Exclusive sh substructureRedirect
  resize : Exclusive sh resizeRedirect
  wm : ∀ c, sh.wmClientId = some c → Holds sh rootWindow substructureRedirect c

/-- The guard that forgets the window manager when its connection ends. -/
def wmCleanup (client : ClientId) (sh : Shared) : Shared :=
  { sh with wmClientId := if sh.wmClientId = some client then none else sh.wmClientId }

inductive RedirectAction
  | connect (client : ClientId) (msb : Bool) (pid connIndex : Nat) (hostname : Bytes)
  | createWindow (client : ClientId) (req : CreateWindowRequest)
  | changeWindowAttributes (client : ClientId) (req : ChangeWindowAttributesRequest)
  | close (client : ClientId) (order : IterationOrder) (timestamp : Nat)
  | abort (client : ClientId) (order : GuardOrder)
  | serve (client : ClientId)

/-- A connection ends by a read of zero bytes or by an error. What else a client
is served leaves the subscriptions and the window manager alone. -/
inductive RedirectStep : Session → RedirectAction → Session → Prop
  | connect {t : Session} {client : ClientId} {msb : Bool} {pid connIndex : Nat} {hostname : Bytes}
      (hnew : t.connections client = none) :
      RedirectStep t (.connect client msb pid connIndex hostname)
        (t.put client (acceptClient client msb pid connIndex hostname t.shared))
  | createWindow {t : Session} {client : ClientId} {conn : Connection} {req : CreateWindowRequest}
      (hconn : t.connections client = some conn) :
      RedirectStep t (.createWindow client req)
        (t.put client (handleCreateWindow req (t.view conn)).1)
  | changeWindowAttributes {t : Session} {client : ClientId} {conn : Connection}
      {req : ChangeWindowAttributesRequest} (hconn : t.connections client = some conn) :
      RedirectStep t (.changeWindowAttributes client req)
        (t.put client (handleChangeWindowAttributes req (t.view conn)).1)
  | close {t : Session} {client : ClientId} {conn : Connection} {order : IterationOrder}
      {timestamp : Nat} (hconn : t.connections client = some conn) :
      RedirectStep t (.close client order timestamp)
        ⟨wmCleanup conn.clientId (eofTeardown order timestamp (t.view conn)).shared,
          Function.update t.connections client none⟩
  | abort {t : Session} {client : ClientId} {conn : Connection} {order : GuardOrder}
      (hconn : t.connections client = some conn) :
      RedirectStep t (.abort client order)
        ⟨wmCleanup conn.clientId (guardDrop order (t.view conn)),
          Function.update t.connections client none⟩
  | serve {t : Session} {client : ClientId} {s : ClientState}
      (hsubscriptions : s.shared.subscriptions = t.shared.subscriptions)
      (hwm : s.shared.wmClientId = t.shared.wmClientId) :
      RedirectStep t (.serve client) (t.put client s)

/-- The selection takes no redirect from another client, and the window manager
does not drop its own. -/
def MaySelect (sh : Shared) (client : ClientId) (w : XId) (mask : Nat) : Prop :=
  checkRedirectConflict sh w mask client = false ∧
    (w = rootWindow → sh.wmClientId = some client → mask &&& substructureRedirect ≠ 0)

def KeepsHolder (t : Session) : RedirectAction → Prop
  | .createWindow client req => ∀ conn, t.connections client = some conn →
      ∀ w mask, createSelection (t.view conn) req = some (w, mask) →
        MaySelect t.shared conn.clientId w mask
  | .changeWindowAttributes client req => ∀ conn, t.connections client = some conn →
      ∀ w mask, changeSelection (t.view conn) req = some (w, mask) →
        MaySelect t.shared conn.clientId w mask
  | _ => True

variable {sh sh' : Shared} {w v : XId} {c d : ClientId} {mask bit : Nat} {s : ClientState}
variable {t t' : Session}

theorem holds_congr (h : sh'.subscriptions = sh.subscriptions) :
    Holds sh' w bit c ↔ Holds sh w bit c := by
  rw [Holds, Holds, h]

theorem SingleHolder.congr (h : SingleHolder sh) (hsubs : sh'.subscriptions = sh.subscriptions)
    (hwm : sh'.wmClientId = sh.wmClientId) : SingleHolder sh' := by
  refine ⟨?_, ?_, ?_⟩
  · intro w c c' hc hc'
    exact h.substructure w c c' ((holds_congr hsubs).mp hc) ((holds_congr hsubs).mp hc')
  · intro w c c' hc hc'
    exact h.resize w c c' ((holds_congr hsubs).mp hc) ((holds_congr hsubs).mp hc')
  · intro c hc
    exact (holds_congr hsubs).mpr (h.wm c (hwm ▸ hc))

theorem mem_subscribe (sub : EventSubscription) :
    sub ∈ ((subscribe w c mask sh).subscriptions.lookup w).getD [] ↔
      sub.clientId ≠ c ∧ sub ∈ (sh.subscriptions.lookup w).getD [] ∨
      sub = ⟨c, mask⟩ ∧
        (mask ≠ 0 ∨ ∃ old ∈ (sh.subscriptions.lookup w).getD [], old.clientId = c) := by
  simp only [subscribe, lookup_insert_eq, if_true, getD_some]
  generalize (sh.subscriptions.lookup w).getD [] = subs
  split
  · next hany =>
    simp only [List.any_eq_true, beq_iff_eq] at hany
    rw [List.mem_map]
    constructor
    · rintro ⟨old, hold, rfl⟩
      split
      · next heq => exact .inr ⟨by rw [heq], .inr hany⟩
      · next hne => exact .inl ⟨hne, hold⟩
    · rintro (⟨hne, hmem⟩ | ⟨rfl, -⟩)
      · exact ⟨sub, hmem, if_neg hne⟩
      · obtain ⟨old, hold, rfl⟩ := hany
        exact ⟨old, hold, if_pos rfl⟩
  · next hany =>
    simp only [List.any_eq_true, beq_iff_eq] at hany
    have hoth : ∀ old ∈ subs, old.clientId ≠ c := fun old hold heq => hany ⟨old, hold, heq⟩
    split
    · next hmask =>
      rw [List.mem_append, List.mem_singleton]
      constructor
      · rintro (hmem | rfl)
        · exact .inl ⟨hoth sub hmem, hmem⟩
        · exact .inr ⟨rfl, .inl hmask⟩
      · rintro (⟨-, hmem⟩ | ⟨rfl, -⟩)
        · exact .inl hmem
        · exact .inr rfl
    · next hmask =>
      constructor
      · intro hmem
        exact .inl ⟨hoth sub hmem, hmem⟩
      · rintro (⟨-, hmem⟩ | ⟨-, hmask' | hold⟩)
        · exact hmem
        · exact absurd hmask' hmask
        · exact absurd hold hany

theorem holds_subscribe :
    Holds (subscribe w c mask sh) v bit d ↔
      if v = w ∧ d = c then mask &&& bit ≠ 0 else Holds sh v bit d := by
  by_cases hv : v = w
  · subst hv
    simp only [Holds, mem_subscribe, true_and]
    split
    · next hd =>
      subst hd
      constructor
      · rintro ⟨sub, ⟨hne, -⟩ | ⟨rfl, -⟩, hid, hmask⟩
        · exact absurd hid hne
        · exact hmask
      · intro hmask
        refine ⟨⟨d, mask⟩, .inr ⟨rfl, .inl ?_⟩, rfl, hmask⟩
        rintro rfl
        exact hmask (Nat.zero_and bit)
    · next hd =>
      constructor
      · rintro ⟨sub, ⟨-, hmem⟩ | ⟨rfl, -⟩, hid, hmask⟩
        · exact ⟨sub, hmem, hid, hmask⟩
        · exact absurd hid.symm hd
      · rintro ⟨sub, hmem, rfl, hmask⟩
        exact ⟨sub, .inl ⟨hd, hmem⟩, rfl, hmask⟩
  · simp [Holds, subscribe, hv]

theorem subscribe_exclusive_iff (h : Exclusive sh bit) :
    Exclusive (subscribe w c mask sh) bit ↔ (mask &&& bit ≠ 0 → ∀ d, Holds sh w bit d → d = c) := by
  constructor
  · intro hs hmask d hd
    by_contra hne
    exact hne (hs w d c (holds_subscribe.mpr (by simpa [hne] using hd))
      (holds_subscribe.mpr (by simpa using hmask)))
  · intro hown v d d' hd hd'
    rw [holds_subscribe] at hd hd'
    split at hd
    · next heq =>
      obtain ⟨rfl, rfl⟩ := heq
      split at hd'
      · next heq' => exact heq'.2.symm
      · exact (hown hd d' hd').symm
    · split at hd'
      · next heq' =>
        obtain ⟨rfl, rfl⟩ := heq'
        exact hown hd' d hd
      · exact h v d d' hd hd'

theorem checkRedirectConflict_eq_false :
    checkRedirectConflict sh w mask c = false ↔
      (mask &&& substructureRedirect ≠ 0 → ∀ d, Holds sh w substructureRedirect d → d = c) ∧
      (mask &&& resizeRedirect ≠ 0 → ∀ d, Holds sh w resizeRedirect d → d = c) := by
  have hbits : ∀ m : Nat, m &&& (mask &&& (substructureRedirect ||| resizeRedirect)) ≠ 0 ↔
      (m &&& substructureRedirect ≠ 0 ∧ mask &&& substructureRedirect ≠ 0) ∨
      (m &&& resizeRedirect ≠ 0 ∧ mask &&& resizeRedirect ≠ 0) := by
    intro m
    rw [← Nat.and_assoc, Nat.and_or_distrib_left, ne_eq, Nat.or_eq_zero_iff]
    simp only [substructureRedirect, resizeRedirect, Nat.and_two_pow, Nat.testBit_and]
    cases m.testBit 20 <;> cases m.testBit 18 <;> cases mask.testBit 20 <;>
      cases mask.testBit 18 <;> simp
  have hany : checkRedirectConflict sh w mask c = true ↔
      ∃ sub ∈ (sh.subscriptions.lookup w).getD [], sub.clientId ≠ c ∧
        sub.eventMask &&& (mask &&& (substructureRedirect ||| resizeRedirect)) ≠ 0 := by
    simp only [checkRedirectConflict, hasMaskSubscriber, Bool.and_eq_true, bne_iff_ne, ne_eq,
      List.any_eq_true]
    constructor
    · rintro ⟨-, hsub⟩
      exact hsub
    · rintro ⟨sub, hmem, hne, hmask⟩
      refine ⟨?_, sub, hmem, hne, hmask⟩
      intro hzero
      rw [hzero, Nat.and_zero] at hmask
      exact hmask rfl
  rw [← Bool.not_eq_true, hany]
  simp only [hbits, Holds]
  constructor
  · intro hno
    constructor
    · rintro hmask d ⟨sub, hmem, rfl, hbit⟩
      by_contra hne
      exact hno ⟨sub, hmem, hne, .inl ⟨hbit, hmask⟩⟩
    · rintro hmask d ⟨sub, hmem, rfl, hbit⟩
      by_contra hne
      exact hno ⟨sub, hmem, hne, .inr ⟨hbit, hmask⟩⟩
  · rintro ⟨hsub, hres⟩ ⟨sub, hmem, hne, ⟨hbit, hmask⟩ | ⟨hbit, hmask⟩⟩
    · exact hne (hsub hmask _ ⟨sub, hmem, rfl, hbit⟩)
    · exact hne (hres hmask _ ⟨sub, hmem, rfl, hbit⟩)

/-- A selection, with or without the registration as window manager that goes
with it, keeps single holders exactly if the client may make it. -/
theorem select_singleHolder_iff (h : SingleHolder sh) {wm : Option ClientId}
    (hwm : wm = sh.wmClientId ∨ w = rootWindow ∧ mask &&& substructureRedirect ≠ 0 ∧ wm = some c) :
    SingleHolder { subscribe w c mask sh with wmClientId := wm } ↔ MaySelect sh c w mask := by
  have hholds : ∀ v bit d, Holds { subscribe w c mask sh with wmClientId := wm } v bit d ↔
      Holds (subscribe w c mask sh) v bit d := fun v bit d => Iff.rfl
  rw [MaySelect, checkRedirectConflict_eq_false, ← subscribe_exclusive_iff h.substructure,
    ← subscribe_exclusive_iff h.resize]
  constructor
  · intro hs
    refine ⟨⟨hs.substructure, hs.resize⟩, ?_⟩
    rintro rfl hme
    obtain rfl | ⟨-, hmask, -⟩ := hwm
    · have hown := holds_subscribe.mp ((hholds _ _ _).mp (hs.wm c hme))
      simpa using hown
    · exact hmask
  · rintro ⟨⟨hsub, hres⟩, hroot⟩
    refine ⟨hsub, hres, ?_⟩
    intro d hd
    change wm = some d at hd
    rw [hholds, holds_subscribe]
    split
    · next heq =>
      obtain ⟨hw, rfl⟩ := heq
      obtain rfl | ⟨-, hmask, -⟩ := hwm
      · exact hroot hw.symm hd
      · exact hmask
    · next hne =>
      obtain rfl | ⟨rfl, -, rfl⟩ := hwm
      · exact h.wm d hd
      · exact absurd ⟨rfl, (some.inj hd).symm⟩ hne

theorem holds_unsubscribeClient :
    Holds (unsubscribeClient c sh) v bit d ↔ d ≠ c ∧ Holds sh v bit d := by
  have hsubs : ((unsubscribeClient c sh).subscriptions.lookup v).getD [] =
      ((sh.subscriptions.lookup v).getD []).filter (fun sub => sub.clientId != c) := by
    simp only [unsubscribeClient, lookup_retain, lookup_mapValues]
    cases sh.subscriptions.lookup v with
    | none => rfl
    | some subs =>
      simp only [map_some, filter_some, getD_some]
      split
      · rfl
      · next hemp =>
        simp only [Bool.not_eq_true', Bool.not_eq_false, List.isEmpty_iff] at hemp
        exact hemp.symm
  simp only [Holds, hsubs, List.mem_filter, bne_iff_ne]
  constructor
  · rintro ⟨sub, ⟨hmem, hne⟩, rfl, hmask⟩
    exact ⟨hne, sub, hmem, rfl, hmask⟩
  · rintro ⟨hne, sub, hmem, rfl, hmask⟩
    exact ⟨sub, ⟨hmem, hne⟩, rfl, hmask⟩

theorem SingleHolder.leave (h : SingleHolder sh)
    (hsubs : sh'.subscriptions = (unsubscribeClient c sh).subscriptions)
    (hwm : sh'.wmClientId = sh.wmClientId) : SingleHolder (wmCleanup c sh') := by
  have hholds : ∀ v bit d, Holds (wmCleanup c sh') v bit d ↔ d ≠ c ∧ Holds sh v bit d := by
    intro v bit d
    rw [← holds_unsubscribeClient]
    exact holds_congr hsubs
  refine ⟨?_, ?_, ?_⟩
  · intro w d d' hd hd'
    exact h.substructure w d d' ((hholds _ _ _).mp hd).2 ((hholds _ _ _).mp hd').2
  · intro w d d' hd hd'
    exact h.resize w d d' ((hholds _ _ _).mp hd).2 ((hholds _ _ _).mp hd').2
  · intro d hd
    simp only [wmCleanup, hwm] at hd
    split at hd
    · simp at hd
    · next hne =>
      refine (hholds _ _ _).mpr ⟨?_, h.wm d hd⟩
      rintro rfl
      exact hne hd

theorem foldl_saveWindow_registries (ws : List XId) (acc : ClientState × List XId) :
    (ws.foldl saveWindow acc).1.clientId = acc.1.clientId ∧
      (ws.foldl saveWindow acc).1.shared.subscriptions = acc.1.shared.subscriptions ∧
      (ws.foldl saveWindow acc).1.shared.wmClientId = acc.1.shared.wmClientId := by
  induction ws generalizing acc with
  | nil => exact ⟨rfl, rfl, rfl⟩
  | cons w ws ih =>
    have hstep : (saveWindow acc w).1.clientId = acc.1.clientId ∧
        (saveWindow acc w).1.shared.subscriptions = acc.1.shared.subscriptions ∧
        (saveWindow acc w).1.shared.wmClientId = acc.1.shared.wmClientId := by
      rw [saveWindow]
      split
      · exact ⟨rfl, rfl, rfl⟩
      · split
        · exact ⟨rfl, rfl, rfl⟩
        · exact ⟨rfl, rfl, rfl⟩
    rw [List.foldl_cons]
    obtain ⟨hid, hsubs, hwm⟩ := ih (saveWindow acc w)
    exact ⟨hid.trans hstep.1, hsubs.trans hstep.2.1, hwm.trans hstep.2.2⟩

theorem eofTeardown_registries (order : IterationOrder) (timestamp : Nat) (s : ClientState) :
    (eofTeardown order timestamp s).shared.subscriptions =
        (unsubscribeClient s.clientId s.shared).subscriptions ∧
      (eofTeardown order timestamp s).shared.wmClientId = s.shared.wmClientId := by
  obtain ⟨hid, hsubs, hwm⟩ := foldl_saveWindow_registries s.saveSet
    ({ releaseServerGrab s with saveSet := [] }, [])
  have hclosing : (closing order timestamp s).shared.subscriptions =
        (unsubscribeClient s.clientId s.shared).subscriptions ∧
      (closing order timestamp s).shared.wmClientId = s.shared.wmClientId := by
    rw [closing, (dropFocus_fields _).2.2.2]
    refine ⟨?_, hwm⟩
    simp only [unsubscribe, unsubscribeClient, dropSelections, processSaveSet]
    rw [show (releaseServerGrab s).saveSet = s.saveSet from rfl, hid, hsubs]
    rfl
  have hclose : ∀ saved s', (closeDown order saved s').shared.subscriptions =
        s'.shared.subscriptions ∧
      (closeDown order saved s').shared.wmClientId = s'.shared.wmClientId := by
    intro saved s'
    rw [closeDown]
    split
    · exact ⟨rfl, rfl⟩
    · exact ⟨rfl, rfl⟩
    · exact ⟨rfl, rfl⟩
    · exact ⟨rfl, rfl⟩
  obtain ⟨hsubs', hwm'⟩ := hclose (processSaveSet (releaseServerGrab s)).2
    (closing order timestamp s)
  exact ⟨hsubs'.trans hclosing.1, hwm'.trans hclosing.2⟩

theorem guardDrop_registries (order : GuardOrder) (s : ClientState) :
    (guardDrop order s).subscriptions = (unsubscribeClient s.clientId s.shared).subscriptions ∧
      (guardDrop order s).wmClientId = s.shared.wmClientId := by
  rw [guardDrop]
  dsimp only
  split
  · exact ⟨rfl, rfl⟩
  · exact ⟨rfl, rfl⟩

theorem handleCreateWindow_singleHolder_iff (h : SingleHolder s.shared) (req : CreateWindowRequest) :
    SingleHolder (handleCreateWindow req s).1.shared ↔
      ∀ w mask, createSelection s req = some (w, mask) → MaySelect s.shared s.clientId w mask := by
  rw [handleCreateWindow]
  cases herr : createWindowError s req with
  | some r => simpa [createSelection, herr] using h
  | none =>
    obtain ⟨hsubs, hwm⟩ := createWindow_registries req s
    by_cases hmask : req.eventMask.getD 0 = 0
    · rw [if_neg (not_not.mpr hmask)] at hsubs
      simpa [createSelection, herr, hmask] using h.congr hsubs hwm
    · rw [if_pos hmask] at hsubs
      have hselect : SingleHolder { subscribe req.wid s.clientId (req.eventMask.getD 0) s.shared with
          wmClientId := s.shared.wmClientId } ↔
          MaySelect s.shared s.clientId req.wid (req.eventMask.getD 0) :=
        select_singleHolder_iff h (.inl rfl)
      simp only [createSelection, herr, hmask, ne_eq, not_false_eq_true, and_self, if_true,
        some.injEq, Prod.mk.injEq]
      constructor
      · rintro hs w mask ⟨rfl, rfl⟩
        exact hselect.mp (hs.congr hsubs.symm hwm.symm)
      · intro hmay
        exact (hselect.mpr (hmay _ _ ⟨rfl, rfl⟩)).congr hsubs hwm

theorem changeAttributes_shared (req : ChangeWindowAttributesRequest) (s : ClientState) :
    (changeAttributes req s).shared = req.eventMask.elim s.shared (fun mask =>
      subscribe req.window s.clientId mask { s.shared with
        wmClientId := if req.window = rootWindow ∧ mask &&& substructureRedirect ≠ 0
          then some s.clientId else s.shared.wmClientId }) := by
  rw [changeAttributes]
  cases req.eventMask with
  | none => rfl
  | some mask => exact (selectEvents_fields req.window mask _).2.2

theorem handleChangeWindowAttributes_singleHolder_iff (h : SingleHolder s.shared)
    (req : ChangeWindowAttributesRequest) :
    SingleHolder (handleChangeWindowAttributes req s).1.shared ↔
      ∀ w mask, changeSelection s req = some (w, mask) → MaySelect s.shared s.clientId w mask := by
  rw [handleChangeWindowAttributes, changeSelection]
  cases hpull : pullWindowFor req.window s with
  | none => simpa using h
  | some s' =>
    obtain ⟨hid, hshd⟩ := pullWindowFor_fields hpull
    simp only [bind_some]
    cases herr : changeAttributesError s' req with
    | some r => simpa [hshd] using h
    | none =>
      simp only [if_true, changeAttributes_shared, hid, hshd]
      cases req.eventMask with
      | none => simpa using h
      | some mask =>
        simp only [elim_some, map_some, some.injEq, Prod.mk.injEq]
        have hselect : SingleHolder { subscribe req.window s.clientId mask s.shared with
            wmClientId := if req.window = rootWindow ∧ mask &&& substructureRedirect ≠ 0
              then some s.clientId else s.shared.wmClientId } ↔
            MaySelect s.shared s.clientId req.window mask := by
          apply select_singleHolder_iff h
          split
          · next hroot => exact .inr ⟨hroot.1, hroot.2, rfl⟩
          · exact .inl rfl
        constructor
        · rintro hs w mask' ⟨rfl, rfl⟩
          exact hselect.mp hs
        · intro hmay
          exact hselect.mpr (hmay _ _ ⟨rfl, rfl⟩)

theorem redirectStep_singleHolder_iff {a : RedirectAction} (h : SingleHolder t.shared)
    (hstep : RedirectStep t a t') : SingleHolder t'.shared ↔ KeepsHolder t a := by
  cases hstep with
  | connect hnew => exact iff_of_true (h.congr rfl rfl) trivial
  | @createWindow client conn req hconn =>
    refine (handleCreateWindow_singleHolder_iff (s := t.view conn) h req).trans ?_
    constructor
    · intro hmay conn' hconn'
      obtain rfl := some.inj (hconn.symm.trans hconn')
      exact hmay
    · intro hmay
      exact hmay conn hconn
  | @changeWindowAttributes client conn req hconn =>
    refine (handleChangeWindowAttributes_singleHolder_iff (s := t.view conn) h req).trans ?_
    constructor
    · intro hmay conn' hconn'
      obtain rfl := some.inj (hconn.symm.trans hconn')
      exact hmay
    · intro hmay
      exact hmay conn hconn
  | @close client conn order timestamp hconn =>
    obtain ⟨hsubs, hwm⟩ := eofTeardown_registries order timestamp (t.view conn)
    exact iff_of_true (SingleHolder.leave h hsubs hwm) trivial
  | @abort client conn order hconn =>
    obtain ⟨hsubs, hwm⟩ := guardDrop_registries order (t.view conn)
    exact iff_of_true (SingleHolder.leave h hsubs hwm) trivial
  | serve hsubs hwm => exact iff_of_true (h.congr hsubs hwm) trivial

theorem start_singleHolder (props : XId → HashMap Atom PropertyValue)
    (selections : HashMap Atom SelectionOwner) :
    SingleHolder (Session.start props selections).shared := by
  refine ⟨?_, ?_, ?_⟩
  · rintro w c c' ⟨sub, hsub, -⟩
    simp [Session.start, initialShared] at hsub
  · rintro w c c' ⟨sub, hsub, -⟩
    simp [Session.start, initialShared] at hsub
  · intro c hc
    simp [Session.start, initialShared] at hc

theorem guardedRun_singleHolder (props : XId → HashMap Atom PropertyValue)
    (selections : HashMap Atom SelectionOwner) (as : List RedirectAction) (t : Session)
    (hrun : Run (guarded KeepsHolder RedirectStep) (Session.start props selections) as t) :
    SingleHolder t.shared := by
  refine Run.invariant (I := fun t => SingleHolder t.shared) ?_
    (start_singleHolder props selections) hrun
  intro t a t' h ⟨hgrd, hstep⟩
  exact (redirectStep_singleHolder_iff h hstep).mpr hgrd

def selectOnRoot (mask : Nat) : ChangeWindowAttributesRequest :=
  { window := rootWindow, eventMask := some mask }

def firstClient : ClientState := acceptClient 1 false 0 0 [] (initialShared (fun _ => ∅) ∅)

def manager : ClientState :=
  (handleChangeWindowAttributes (selectOnRoot substructureRedirect) firstClient).1

def retired : ClientState := (handleChangeWindowAttributes (selectOnRoot 0) manager).1

def managed : Session := ((Session.start (fun _ => ∅) ∅).put 1 firstClient).put 1 manager

theorem firstClient_maySelect : MaySelect firstClient.shared 1 rootWindow substructureRedirect :=
  ⟨by decide +kernel, fun _ h => by simp [firstClient, acceptClient, initialShared] at h⟩

/-- A client that comes second and asks for what the first one has. -/
def rival : ClientState := acceptClient 2 false 0 0 [] managed.shared

def contested : Session :=
  (managed.put 2 rival).put 2 (handleChangeWindowAttributes (selectOnRoot substructureRedirect) rival).1

theorem guardedRun_singleHolder_contested : SingleHolder contested.shared := by
  refine guardedRun_singleHolder (fun _ => ∅) ∅
    [.connect 1 false 0 0 [], .changeWindowAttributes 1 (selectOnRoot substructureRedirect),
      .connect 2 false 0 0 [], .changeWindowAttributes 2 (selectOnRoot substructureRedirect)] contested
    (.cons ⟨trivial, .connect rfl⟩
      (.cons ⟨?_, .changeWindowAttributes (Session.put_connections _ _ _)⟩
        (.cons ⟨trivial, .connect rfl⟩
          (.cons ⟨?_, .changeWindowAttributes (Session.put_connections _ _ _)⟩ (.nil _)))))
  · intro conn hconn w mask hselect
    obtain rfl := some.inj ((Session.put_connections _ _ _).symm.trans hconn)
    have hroot : changeSelection firstClient (selectOnRoot substructureRedirect) =
        some (rootWindow, substructureRedirect) := by decide +kernel
    obtain ⟨rfl, rfl⟩ := Prod.mk.inj (some.inj (hroot.symm.trans hselect))
    exact firstClient_maySelect
  · intro conn hconn w mask hselect
    obtain rfl := some.inj ((Session.put_connections _ _ _).symm.trans hconn)
    have hrefused : changeSelection rival (selectOnRoot substructureRedirect) = none := by decide +kernel
    exact absurd (hrefused.symm.trans hselect) nofun

/-- The registration outlives the selection that it was made for. -/
theorem retired_stays_manager :
    ¬ ∀ (props : XId → HashMap Atom PropertyValue) (selections : HashMap Atom SelectionOwner)
      (as : List RedirectAction) (t : Session),
      Run RedirectStep (Session.start props selections) as t → SingleHolder t.shared := by
  intro h
  have hrun : Run RedirectStep (Session.start (fun _ => ∅) ∅)
      [.connect 1 false 0 0 [], .changeWindowAttributes 1 (selectOnRoot substructureRedirect),
        .changeWindowAttributes 1 (selectOnRoot 0)] (managed.put 1 retired) :=
    .cons (.connect rfl) (.cons (.changeWindowAttributes (Session.put_connections _ _ _))
      (.cons (.changeWindowAttributes (Session.put_connections _ _ _)) (.nil _)))
  have hwm : retired.shared.wmClientId = some 1 := by decide +kernel
  obtain ⟨sub, hsub, -, hmask⟩ := (h _ _ _ _ hrun).wm 1 hwm
  have hsubs : (retired.shared.subscriptions.lookup rootWindow).getD [] = [⟨1, 0⟩] := by
    decide +kernel
  change sub ∈ (retired.shared.subscriptions.lookup rootWindow).getD [] at hsub
  rw [hsubs, List.mem_singleton] at hsub
  rw [hsub] at hmask
  exact hmask rfl

end X11Web.RedirectHolder
