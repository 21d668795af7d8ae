import X11Web.Regions
import X11Web.Runs
import X11Web.Windows

namespace X11Web.DamageSubtract

open HashMaps Regions Runs List
open Windows (XId)

structure DamageInfo where
  drawable : XId
  level : UInt8
  accumulated : XFixesRegion

/-- The part of `ClientState` that the damage objects depend on. -/
structure ClientState where
  /-- `damage.regions` -/
  damage : HashMap XId DamageInfo
  /-- `xfixes.regions` -/
  xfixes : HashMap XId XFixesRegion
  /-- the pixmaps that are names of windows -/
  aliasWindow : HashMap XId XId

def resolveDrawable (c : ClientState) (drawable : XId) : XId := (c.aliasWindow.lookup drawable).getD drawable

/-- The loop of both notifiers over the damage objects of one drawable. -/
def accumulate (c : ClientState) (resolved : XId) (r : RegionRect) : ClientState :=
  { c with damage := mapValues (fun info =>
      if info.drawable = resolved then { info with accumulated := info.accumulated.union ⟨[r]⟩ } else info) c.damage }

def notifyDamage (c : ClientState) (drawable : XId) (r : RegionRect) : ClientState :=
  accumulate c (resolveDrawable c drawable) r

/-- The windows whose dirty pixels are taken, in the order of the loop. -/
def flushDirtyWindows (c : ClientState) (dirty : List (XId × RegionRect)) : ClientState :=
  dirty.foldl (fun c d => accumulate c d.1 d.2) c

def damageCreate (c : ClientState) (damage drawable : XId) (level : UInt8) : ClientState :=
  { c with damage := c.damage.insert damage ⟨drawable, level, ⟨[]⟩⟩ }

def damageDestroy (c : ClientState) (damage : XId) : ClientState := { c with damage := c.damage.erase damage }

def damageAdd (c : ClientState) (drawable region : XId) : ClientState :=
  match c.xfixes.lookup region with
  | some reg => notifyDamage c drawable reg.extents
  | none => c

def accumulated (c : ClientState) (damage : XId) : XFixesRegion :=
  ((c.damage.lookup damage).map DamageInfo.accumulated).getD ⟨[]⟩

def remainder (c : ClientState) (damage repair : XId) : XFixesRegion :=
  if repair = 0 then ⟨[]⟩
  else
    match c.xfixes.lookup repair with
    | some repairRegion => (accumulated c damage).subtract repairRegion
    | none => accumulated c damage

def damageSubtract (c : ClientState) (damage repair parts : XId) : ClientState where
  damage := modify damage (fun dmg => { dmg with accumulated := remainder c damage repair }) c.damage
  xfixes := if parts ≠ 0 then c.xfixes.insert parts (remainder c damage repair) else c.xfixes
  aliasWindow := c.aliasWindow

/-- What happens to the damage objects of a client, and what else changes the data they depend on. -/
inductive Event
  | create (damage drawable : XId) (level : UInt8)
  | destroy (damage : XId)
  | subtract (damage repair parts : XId)
  | add (drawable region : XId)
  | notify (drawable : XId) (r : RegionRect)
  | flush (dirty : List (XId × RegionRect))
  | others (xfixes : HashMap XId XFixesRegion) (aliasWindow : HashMap XId XId)

def step (c : ClientState) : Event → ClientState
  | .create damage drawable level => damageCreate c damage drawable level
  | .destroy damage => damageDestroy c damage
  | .subtract damage repair parts => damageSubtract c damage repair parts
  | .add drawable region => damageAdd c drawable region
  | .notify drawable r => notifyDamage c drawable r
  | .flush dirty => flushDirtyWindows c dirty
  | .others xfixes aliasWindow => { c with xfixes, aliasWindow }

/-! ## What a Subtract is for -/

/-- The points of the repair region: every point for None, no point for an unknown one. -/
def repairPoints (c : ClientState) (repair : XId) : Set (Int × Int) :=
  if repair = 0 then Set.univ else { p | ∃ R, c.xfixes.lookup repair = some R ∧ p ∈ R.points }

def repairReach (c : ClientState) (repair : XId) : Set (Int × Int) :=
  if repair = 0 then Set.univ else { p | ∃ R, c.xfixes.lookup repair = some R ∧ p ∈ R.reach }

/-- The damage is split at the repair region, and what is in it becomes the parts region. -/
def Splits (c : ClientState) (damage repair parts : XId) : Prop :=
  let D := (accumulated c damage).points
  let c' := damageSubtract c damage repair parts
  let D' := (accumulated c' damage).points
  D' = D \ repairPoints c repair ∧
    (parts ≠ 0 → ∃ P, c'.xfixes.lookup parts = some P ∧
      Disjoint D' P.points ∧ D' ∪ P.points = D ∧ P.points = D ∩ repairPoints c repair)

/-- Nothing is accumulated, or no parts are asked for and no point of it is in the repair
region only past a side that wraps. A build that checks the sums stops at such a side. -/
def Harmless (c : ClientState) (damage repair parts : XId) : Prop :=
  (accumulated c damage).points = ∅ ∨
    (parts = 0 ∧ (accumulated c damage).points ∩ repairPoints c repair ⊆ repairReach c repair)

section Subtract

variable {c : ClientState} {damage repair parts : XId}

theorem points_empty : (XFixesRegion.mk []).points = ∅ := by
  ext p
  simp [XFixesRegion.points]

theorem accumulated_damageSubtract (c : ClientState) (damage repair parts : XId) :
    (accumulated (damageSubtract c damage repair parts) damage).points = (remainder c damage repair).points := by
  rw [accumulated, damageSubtract, lookup_modify_self]
  cases h : c.damage.lookup damage with
  | some info => rfl
  | none =>
    -- the remainder of an object that does not exist is empty as well
    have hnone : accumulated c damage = ⟨[]⟩ := by rw [accumulated, h]; rfl
    have hemp : ∀ R : XFixesRegion, ((XFixesRegion.mk []).subtract R).points = ∅ := fun R => by
      rw [points_subtract_reach (fun r hr => by cases hr), points_empty, Set.empty_sdiff]
    rw [remainder, hnone]
    split
    · rfl
    · split
      · exact points_empty.trans (hemp _).symm
      · rfl

theorem remainder_points (hfits : (accumulated c damage).Fits) :
    (remainder c damage repair).points = (accumulated c damage).points \ repairReach c repair := by
  rw [remainder, repairReach]
  split
  · rw [points_empty, Set.sdiff_univ]
  · split
    · next R hR =>
      rw [points_subtract_reach hfits]
      simp [hR]
    · next hR => simp [hR]

theorem lookup_parts (hpts : parts ≠ 0) :
    (damageSubtract c damage repair parts).xfixes.lookup parts = some (remainder c damage repair) := by
  simp [damageSubtract, hpts]

theorem repairReach_subset (c : ClientState) (repair : XId) : repairReach c repair ⊆ repairPoints c repair := by
  rw [repairReach, repairPoints]
  split
  · exact subset_rfl
  · rintro p ⟨R, hR, hp⟩
    exact ⟨R, hR, R.reach_subset hp⟩

theorem splits_iff_harmless (hfits : (accumulated c damage).Fits) :
    Splits c damage repair parts ↔ Harmless c damage repair parts := by
  have hsub := repairReach_subset c repair
  have hrem : (remainder c damage repair).points = _ := remainder_points hfits
  rw [Splits, Harmless, accumulated_damageSubtract, hrem]
  generalize (accumulated c damage).points = D at hrem ⊢
  constructor
  · rintro ⟨hkept, hspl⟩
    by_cases hpts : parts = 0
    · refine .inr ⟨hpts, fun p hp => by_contra fun hnot => ?_⟩
      have hp' : p ∈ D \ repairPoints c repair := hkept ▸ ⟨hp.1, hnot⟩
      exact hp'.2 hp.2
    · -- what is stored is the remainder, so a remainder apart from it is empty
      obtain ⟨P, hP, hdisj, hunion, -⟩ := hspl hpts
      rw [lookup_parts hpts] at hP
      obtain rfl := Option.some.inj hP
      rw [hrem] at hdisj hunion
      refine .inl ?_
      rw [← hunion, disjoint_self.mp hdisj]
      exact Set.union_self ∅
  · rintro (hD | ⟨hpts, hwrap⟩)
    · subst hD
      refine ⟨by rw [Set.empty_sdiff, Set.empty_sdiff], fun hpts => ⟨_, lookup_parts hpts, ?_⟩⟩
      rw [hrem, Set.empty_sdiff, Set.empty_union, Set.empty_inter]
      exact ⟨disjoint_bot_left, rfl, rfl⟩
    · refine ⟨Set.ext fun p => and_congr_right fun hp => not_congr ⟨fun h => hsub h, fun h => hwrap ⟨hp, h⟩⟩, ?_⟩
      exact fun h => absurd hpts h

end Subtract

/-! ## Runs -/

/-- The points reported to a damage object, those reported before its last Subtract, and the
points of its parts regions, all since the object was created. -/
structure Ledger where
  client : ClientState
  reported : Set (Int × Int)
  beforeLast : Set (Int × Int)
  covered : Set (Int × Int)

/-- The points that a notifier reports to the object for one drawable. -/
def hit (c : ClientState) (damage resolved : XId) (r : RegionRect) : Set (Int × Int) :=
  { p | p ∈ r.points ∧ ∃ info, c.damage.lookup damage = some info ∧ info.drawable = resolved }

def hits (c : ClientState) (damage : XId) : Event → Set (Int × Int)
  | .add drawable region =>
    { p | ∃ reg, c.xfixes.lookup region = some reg ∧ p ∈ hit c damage (resolveDrawable c drawable) reg.extents }
  | .notify drawable r => hit c damage (resolveDrawable c drawable) r
  | .flush dirty => { p | ∃ d ∈ dirty, p ∈ hit c damage d.1 d.2 }
  | _ => ∅

def partPoints (c : ClientState) (parts : XId) : Set (Int × Int) :=
  { p | parts ≠ 0 ∧ ∃ P, c.xfixes.lookup parts = some P ∧ p ∈ P.points }

def note (damage : XId) (l : Ledger) (e : Event) : Ledger :=
  let c' := step l.client e
  match e with
  | .create d _ _ | .destroy d => if d = damage then ⟨c', ∅, ∅, ∅⟩ else { l with client := c' }
  | .subtract d _ parts =>
    if d = damage then ⟨c', l.reported, l.reported, l.covered ∪ partPoints c' parts⟩ else { l with client := c' }
  | e => { l with client := c', reported := l.reported ∪ hits l.client damage e }

def run (damage : XId) (c : ClientState) (es : List Event) : Ledger := es.foldl (note damage) ⟨c, ∅, ∅, ∅⟩

section Accumulation

variable {damage : XId}

theorem points_append_single (A : XFixesRegion) (r : RegionRect) : (A.union ⟨[r]⟩).points = A.points ∪ r.points := by
  rw [points_union, points_single]

theorem accumulated_accumulate (c : ClientState) (damage resolved : XId) (r : RegionRect) :
    (accumulated (accumulate c resolved r) damage).points =
      (accumulated c damage).points ∪ hit c damage resolved r := by
  rw [accumulated, accumulated, accumulate, lookup_mapValues]
  cases h : c.damage.lookup damage with
  | none =>
    have hhit : hit c damage resolved r = ∅ := by simp [hit, h]
    rw [hhit, Set.union_empty]
    rfl
  | some info =>
    by_cases hdrawable : info.drawable = resolved
    · have hhit : hit c damage resolved r = r.points := by simp [hit, h, hdrawable]
      rw [hhit]
      simpa [hdrawable] using points_append_single info.accumulated r
    · have hhit : hit c damage resolved r = ∅ := by simp [hit, h, hdrawable]
      rw [hhit, Set.union_empty]
      simp [hdrawable]

theorem hit_accumulate (c : ClientState) (damage resolved resolved' : XId) (r r' : RegionRect) :
    hit (accumulate c resolved r) damage resolved' r' = hit c damage resolved' r' := by
  ext p
  refine and_congr_right fun _ => ?_
  rw [accumulate, lookup_mapValues]
  cases c.damage.lookup damage with
  | none => simp
  | some info => by_cases hdrawable : info.drawable = resolved <;> simp [hdrawable]

theorem accumulated_flush (dirty : List (XId × RegionRect)) (c : ClientState) :
    (accumulated (flushDirtyWindows c dirty) damage).points =
      (accumulated c damage).points ∪ { p | ∃ d ∈ dirty, p ∈ hit c damage d.1 d.2 } := by
  induction dirty generalizing c with
  | nil => simp [flushDirtyWindows]
  | cons d dirty ih =>
    have htail := ih (accumulate c d.1 d.2)
    simp only [hit_accumulate] at htail
    rw [flushDirtyWindows, foldl_cons, ← flushDirtyWindows, htail, accumulated_accumulate, Set.union_assoc]
    congr 1
    ext p
    simp

theorem accumulated_of_lookup {c c' : ClientState} (h : c'.damage.lookup damage = c.damage.lookup damage) :
    accumulated c' damage = accumulated c damage := by
  rw [accumulated, accumulated, h]

theorem accumulated_report (c : ClientState) {e : Event} (hmk : ∀ drawable level, e ≠ .create damage drawable level)
    (hdst : e ≠ .destroy damage) (hsubtract : ∀ repair parts, e ≠ .subtract damage repair parts) :
    (accumulated (step c e) damage).points = (accumulated c damage).points ∪ hits c damage e := by
  cases e with
  | create d drawable level =>
    have hne : damage ≠ d := fun h => hmk drawable level (by rw [h])
    rw [step, accumulated_of_lookup (Finmap.lookup_insert_of_ne c.damage hne)]
    exact (Set.union_empty _).symm
  | destroy d =>
    have hne : damage ≠ d := fun h => hdst (by rw [h])
    rw [step, accumulated_of_lookup (Finmap.lookup_erase_ne hne)]
    exact (Set.union_empty _).symm
  | subtract d repair parts =>
    have hne : damage ≠ d := fun h => hsubtract repair parts (by rw [h])
    rw [step, accumulated_of_lookup (lookup_modify_of_ne hne _ c.damage)]
    exact (Set.union_empty _).symm
  | add drawable region =>
    rw [step, damageAdd, hits]
    cases h : c.xfixes.lookup region with
    | none => simp
    | some reg => simpa [notifyDamage] using accumulated_accumulate c damage (resolveDrawable c drawable) reg.extents
  | notify drawable r => exact accumulated_accumulate c damage (resolveDrawable c drawable) r
  | flush dirty => exact accumulated_flush dirty c
  | others xfixes aliasWindow => exact (Set.union_empty _).symm

end Accumulation

section Runs

variable {damage : XId} {c : ClientState} {es : List Event}

/-- Every Subtract of the object so far has come when nothing was accumulated. -/
structure Quiet (damage : XId) (l : Ledger) : Prop where
  reported : l.reported = (accumulated l.client damage).points
  beforeLast : l.beforeLast = ∅
  covered : l.covered = ∅

theorem remainder_none (c : ClientState) (damage : XId) : remainder c damage 0 = ⟨[]⟩ := if_pos rfl

theorem partPoints_subtract {parts : XId} :
    partPoints (damageSubtract c damage 0 parts) parts = ∅ := by
  refine Set.eq_empty_of_forall_notMem fun p hp => ?_
  obtain ⟨hpts, P, hP, hp⟩ := hp
  rw [lookup_parts hpts, remainder_none] at hP
  obtain rfl := Option.some.inj hP
  exact points_empty.subset hp

theorem quiet_report {l : Ledger} {e : Event} (hqt : Quiet damage l)
    (hmk : ∀ drawable level, e ≠ .create damage drawable level) (hdst : e ≠ .destroy damage)
    (hsubtract : ∀ repair parts, e ≠ .subtract damage repair parts) : Quiet damage (note damage l e) := by
  have hnote : note damage l e =
      { l with client := step l.client e, reported := l.reported ∪ hits l.client damage e } := by
    cases e with
    | create d drawable level =>
      have hne : d ≠ damage := fun h => hmk drawable level (by rw [h])
      exact (if_neg hne).trans (congrArg (Ledger.mk _ · _ _) (Set.union_empty _).symm)
    | destroy d =>
      have hne : d ≠ damage := fun h => hdst (by rw [h])
      exact (if_neg hne).trans (congrArg (Ledger.mk _ · _ _) (Set.union_empty _).symm)
    | subtract d repair parts =>
      have hne : d ≠ damage := fun h => hsubtract repair parts (by rw [h])
      exact (if_neg hne).trans (congrArg (Ledger.mk _ · _ _) (Set.union_empty _).symm)
    | _ => rfl
  rw [hnote]
  refine ⟨?_, hqt.beforeLast, hqt.covered⟩
  rw [accumulated_report l.client hmk hdst hsubtract, hqt.reported]

theorem quiet_note {l : Ledger} {e : Event} (hqt : Quiet damage l)
    (hsubtract : ∀ repair parts, e = .subtract damage repair parts →
      repair = 0 ∧ (accumulated l.client damage).points = ∅) : Quiet damage (note damage l e) := by
  by_cases hmk : ∃ drawable level, e = .create damage drawable level
  · obtain ⟨drawable, level, rfl⟩ := hmk
    rw [note, if_pos rfl]
    refine ⟨?_, rfl, rfl⟩
    simp [step, damageCreate, accumulated, points_empty]
  by_cases hdst : e = .destroy damage
  · subst hdst
    rw [note, if_pos rfl]
    refine ⟨?_, rfl, rfl⟩
    simp [step, damageDestroy, accumulated, points_empty]
  by_cases hnamed : ∃ repair parts, e = .subtract damage repair parts
  · obtain ⟨repair, parts, rfl⟩ := hnamed
    obtain ⟨rfl, hemp⟩ := hsubtract repair parts rfl
    have hrepd : l.reported = ∅ := hqt.reported.trans hemp
    rw [note, if_pos rfl]
    refine ⟨?_, hrepd, ?_⟩
    · rw [step, accumulated_damageSubtract, remainder_none, points_empty, hrepd]
    · rw [step, partPoints_subtract, Set.union_empty, hqt.covered]
  · exact quiet_report hqt (fun drawable level h => hmk ⟨drawable, level, h⟩) hdst
      fun repair parts h => hnamed ⟨repair, parts, h⟩

/-- Along every run from an object that has accumulated nothing, whose damage keeps to the
limits, its Subtracts split the damage, and those with repair None hand out together what was
reported before the last of them, exactly if every Subtract is harmless. -/
theorem damageSubtract_splits_iff_harmless (damage : XId) (c : ClientState) (es : List Event)
    (hst : accumulated c damage = ⟨[]⟩)
    (hfits : ∀ bs repair parts, bs ++ [.subtract damage repair parts] <+: es →
      (accumulated (run damage c bs).client damage).Fits) :
    ((∀ bs repair parts, bs ++ [.subtract damage repair parts] <+: es →
        Splits (run damage c bs).client damage repair parts) ∧
      ((∀ repair parts, .subtract damage repair parts ∈ es → repair = 0 ∧ parts ≠ 0) →
        (run damage c es).covered = (run damage c es).beforeLast)) ↔
    ∀ bs repair parts, bs ++ [.subtract damage repair parts] <+: es →
      Harmless (run damage c bs).client damage repair parts := by
  constructor
  · rintro ⟨hspls, -⟩ bs repair parts hbs
    exact (splits_iff_harmless (hfits bs repair parts hbs)).mp (hspls bs repair parts hbs)
  · intro hharmless
    refine ⟨fun bs repair parts hbs => (splits_iff_harmless (hfits bs repair parts hbs)).mpr
      (hharmless bs repair parts hbs), fun hnone => ?_⟩
    suffices hqt : ∀ bs, bs <+: es → Quiet damage (run damage c bs) by
      rw [(hqt es prefix_rfl).covered, (hqt es prefix_rfl).beforeLast]
    intro bs
    induction bs using List.reverseRecOn with
    | nil => exact fun _ => ⟨by rw [run, foldl_nil, hst, points_empty], rfl, rfl⟩
    | append_singleton bs e ih =>
      intro hbs
      rw [run, foldl_concat]
      refine quiet_note (ih ((prefix_append bs [e]).trans hbs)) ?_
      rintro repair parts rfl
      obtain ⟨hrepair, hpts⟩ := hnone repair parts (hbs.subset (mem_append_right bs mem_cons_self))
      exact ⟨hrepair, (hharmless bs repair parts hbs).resolve_right fun h => hpts h.1⟩

def oneObject : ClientState := ⟨Finmap.singleton 1 ⟨2, 3, ⟨[]⟩⟩, ∅, ∅⟩

def moved : List Event := [.notify 2 ⟨7, 7, 1, 1⟩, .subtract 1 0 5]

theorem accumulated_moved : accumulated (run 1 oneObject [.notify 2 ⟨7, 7, 1, 1⟩]).client 1 = ⟨[⟨7, 7, 1, 1⟩]⟩ := by
  simp [run, note, step, notifyDamage, resolveDrawable, accumulate, accumulated, lookup_mapValues, oneObject,
    XFixesRegion.union]

theorem fits_moved : (accumulated (run 1 oneObject [.notify 2 ⟨7, 7, 1, 1⟩]).client 1).Fits := by
  rw [accumulated_moved]
  intro r hr
  rw [mem_singleton.mp hr]
  constructor <;> decide

theorem moved_fits (bs : List Event) (repair parts : XId) (h : bs ++ [.subtract 1 repair parts] <+: moved) :
    (accumulated (run 1 oneObject bs).client 1).Fits := by
  have hlen := h.length_le
  obtain _ | ⟨e, bs⟩ := bs
  · cases (cons_prefix_cons.mp h).1
  · obtain ⟨rfl, htail⟩ := cons_prefix_cons.mp h
    cases bs with
    | nil => exact fits_moved
    | cons e' bs => simp [moved] at hlen

theorem moved_splits_iff_harmless :
    ((∀ bs repair parts, bs ++ [.subtract 1 repair parts] <+: moved →
        Splits (run 1 oneObject bs).client 1 repair parts) ∧
      ((∀ repair parts, .subtract 1 repair parts ∈ moved → repair = 0 ∧ parts ≠ 0) →
        (run 1 oneObject moved).covered = (run 1 oneObject moved).beforeLast)) ↔
    ∀ bs repair parts, bs ++ [.subtract 1 repair parts] <+: moved →
      Harmless (run 1 oneObject bs).client 1 repair parts :=
  damageSubtract_splits_iff_harmless 1 oneObject moved rfl moved_fits

/-- The parts region is left empty, and the damage in none of the two. -/
theorem damage_lost : ¬Splits (run 1 oneObject [.notify 2 ⟨7, 7, 1, 1⟩]).client 1 0 5 := by
  rw [splits_iff_harmless fits_moved, Harmless, accumulated_moved]
  rintro (hemp | ⟨hpts, -⟩)
  · have hpx : ((7, 7) : Int × Int) ∈ (XFixesRegion.mk [⟨7, 7, 1, 1⟩]).points :=
      ⟨_, mem_singleton.mpr rfl, by decide, by decide⟩
    rw [hemp] at hpx
    exact hpx
  · cases hpts

end Runs

end X11Web.DamageSubtract
