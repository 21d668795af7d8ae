import X11Web.HashMaps
import X11Web.Protocol
import X11Web.Worklists

namespace X11Web.Menus

open HashMaps Relation Protocol Worklists List Option

section Values

/-- A value of the bus. A float is its bits. -/
inductive Value
  | str (s : String)
  | bool (b : Bool)
  | i32 (n : Int32)
  | u32 (n : UInt32)
  | i64 (n : Int64)
  | f64 (bits : UInt64)
  | struct (fields : List Value)
  | array (elements : List Value)
  | other

abbrev GtkItemProps := HashMap String Value

structure GtkMenuGroup where
  group : UInt32
  position : UInt32
  items : List GtkItemProps

/-- Whether an action is enabled, the signature of its parameter, and its state. -/
structure Description where
  enabled : Bool
  signature : String
  state : List Value

def stringProp (item : GtkItemProps) (key : String) : Option String :=
  match item.lookup key with
  | some (.str s) => some s
  | _ => none

def linkGroup (item : GtkItemProps) (key : String) : Option UInt32 :=
  match item.lookup key with
  | some (.struct (.u32 group :: _)) => some group
  | _ => none

def ownedValueToTarget : Value → Option MenuActionTarget
  | .str s => some (.string s)
  | .bool b => some (.bool b)
  | .i32 n => some (.int32 n)
  | .u32 n => some (.uInt32 n)
  | .i64 n => some (.int64 n)
  | .f64 bits => some (.float64 bits)
  | _ => none

end Values

section Labels

/-- A single underscore marks the mnemonic, two stand for one. -/
def stripMarks : List Char → List Char
  | [] => []
  | '_' :: '_' :: cs => '_' :: stripMarks cs
  | '_' :: cs => stripMarks cs
  | c :: cs => c :: stripMarks cs

def stripUnderscores (label : String) : String := String.ofList (stripMarks label.toList)

def replaceAll (pat rep : List Char) : List Char → List Char
  | [] => []
  | c :: cs =>
    if pat <+: c :: cs then rep ++ replaceAll pat rep (cs.drop (pat.length - 1)) else c :: replaceAll pat rep cs
termination_by text => text.length
decreasing_by
  · simp only [length_drop, length_cons]
    omega
  · simp only [length_cons]
    omega

def modifiers : List (String × String) :=
  [("<Primary>", "Ctrl+"), ("<Control>", "Ctrl+"), ("<Ctrl>", "Ctrl+"), ("<Shift>", "Shift+"), ("<Alt>", "Alt+"),
    ("<Meta>", "Meta+"), ("<Super>", "Super+")]

def capitaliseLast (text : List Char) : List Char :=
  match text.getLast? with
  | some c => if c.isLower then text.dropLast ++ [c.toUpper] else text
  | none => text

def prettifyAccel (accel : String) : String :=
  String.ofList (capitaliseLast
    (modifiers.foldl (fun out names => replaceAll names.1.toList names.2.toList out) accel.toList))

end Labels

section Fetches

structure Fetch where
  groups : HashMap UInt32 (List GtkItemProps)
  toFetch : List UInt32
  fetched : Finset UInt32

variable {start : List UInt32 → Except String (List GtkMenuGroup)} {f : Fetch} {reply : List GtkMenuGroup}

def discovered (fetched : Finset UInt32) (item : GtkItemProps) : List UInt32 :=
  ((linkGroup item ":section").toList ++ (linkGroup item ":submenu").toList).filter (· ∉ fetched)

def Fetch.receive (f : Fetch) (group : GtkMenuGroup) : Fetch :=
  { f with
    toFetch := f.toFetch ++ group.items.flatMap (discovered f.fetched)
    groups := f.groups.insert group.group group.items }

def Fetch.batch (f : Fetch) : List UInt32 := f.toFetch.filter (· ∉ f.fetched)

def Fetch.ask (f : Fetch) : Fetch := { f with toFetch := [], fetched := f.fetched ∪ f.batch.toFinset }

@[simp] theorem fetched_foldl_receive : (reply.foldl Fetch.receive f).fetched = f.fetched := by
  induction reply generalizing f with
  | nil => rfl
  | cons group reply ih => exact ih

theorem card_le (groups : Finset UInt32) : groups.card ≤ 2 ^ 32 := by
  have hinj : Set.InjOn UInt32.toNat groups := fun a _ b _ hab => UInt32.toNat_inj.mp hab
  have hcard := Finset.card_le_card_of_injOn (t := Finset.range (2 ^ 32)) UInt32.toNat
    (fun a _ => Finset.mem_coe.mpr (Finset.mem_range.mpr a.toNat_lt)) hinj
  rwa [Finset.card_range] at hcard

theorem card_ask (h : f.batch ≠ []) : f.fetched.card < f.ask.fetched.card :=
  card_union_batch (fun g hg => by simpa using (mem_filter.mp hg).2) h

/-- Each round asks for groups not asked for before, so the rounds end. -/
def fetchLoop (start : List UInt32 → Except String (List GtkMenuGroup)) (f : Fetch) :
    Except String (HashMap UInt32 (List GtkItemProps)) :=
  if _hbatch : f.batch = [] then .ok f.groups
  else
    match start f.batch with
    | .error e => .error e
    | .ok reply => fetchLoop start (reply.foldl Fetch.receive f.ask)
termination_by 2 ^ 32 - f.fetched.card
decreasing_by
  have hask := card_ask _hbatch
  have hle := card_le f.ask.fetched
  rw [fetched_foldl_receive]
  omega

theorem fetchLoop_step (hbatch : f.batch ≠ []) (hrep : start f.batch = .ok reply) :
    fetchLoop start f = fetchLoop start (reply.foldl Fetch.receive f.ask) := by
  rw [fetchLoop, dif_neg hbatch, hrep]

theorem fetchLoop_done (hbatch : f.batch = []) : fetchLoop start f = .ok f.groups := by
  rw [fetchLoop, dif_pos hbatch]

def fetchGroups (start : List UInt32 → Except String (List GtkMenuGroup)) :
    Except String (HashMap UInt32 (List GtkItemProps)) :=
  fetchLoop start ⟨∅, [0], ∅⟩

end Fetches

section Trees

abbrev Groups := HashMap UInt32 (List GtkItemProps)
abbrev Actions := HashMap String Description

def itemId (group : UInt32) (idx : Nat) : String := toString group.toNat ++ "." ++ toString idx

def separator (group : UInt32) (idx : Nat) : MenuItem where
  id := itemId group idx ++ ".sep"
  label := none
  kind := .separator
  enabled := true
  visible := true
  checked := none
  accelerator := none
  icon := none
  action := none
  children := []

def itemIcon (raw : GtkItemProps) : Option String := (stringProp raw "icon").or (stringProp raw "verb-icon")

def submenuItem (group : UInt32) (idx : Nat) (raw : GtkItemProps) (children : List MenuItem) : MenuItem where
  id := itemId group idx
  label := (stringProp raw "label").map stripUnderscores
  kind := .submenu
  enabled := true
  visible := true
  checked := none
  accelerator := (stringProp raw "accel").map prettifyAccel
  icon := itemIcon raw
  action := none
  children := children

def checkedState (d : Description) : Option Bool :=
  match d.state.head? with
  | some (.bool b) => some b
  | _ => none

/-- The kind of an item, whether it is enabled, and whether it is checked. -/
def leafState (actions : Actions) (raw : GtkItemProps) : MenuItemKind × Bool × Option Bool :=
  match stringProp raw "action" with
  | some name =>
    match actions.lookup name with
    | some d => (if (checkedState d).isSome then .checkbox else .normal, d.enabled, checkedState d)
    | none => (.normal, true, none)
  | none => (.normal, ((stringProp raw "label").map stripUnderscores).isSome, none)

def leafItem (group : UInt32) (idx : Nat) (actions : Actions) (raw : GtkItemProps) : MenuItem where
  id := itemId group idx
  label := (stringProp raw "label").map stripUnderscores
  kind := (leafState actions raw).1
  enabled := (leafState actions raw).2.1
  visible := true
  checked := (leafState actions raw).2.2
  accelerator := (stringProp raw "accel").map prettifyAccel
  icon := itemIcon raw
  action := (stringProp raw "action").map fun name => ⟨name, (raw.lookup "target").bind ownedValueToTarget⟩
  children := []

/-- The items of a group after `out`; `nested` builds a linked group. -/
def buildItems (nested : UInt32 → Option (List MenuItem)) (group : UInt32) (actions : Actions) :
    Nat → List GtkItemProps → List MenuItem → Option (List MenuItem)
  | _, [], out => some out
  | idx, raw :: items, out =>
    match linkGroup raw ":section" with
    | some linked =>
      (nested linked).bind fun flattened =>
        buildItems nested group actions (idx + 1) items
          ((if out.isEmpty then out else out ++ [separator group idx]) ++ flattened)
    | none =>
      match linkGroup raw ":submenu" with
      | some linked =>
        (nested linked).bind fun children =>
          buildItems nested group actions (idx + 1) items (out ++ [submenuItem group idx raw children])
      | none => buildItems nested group actions (idx + 1) items (out ++ [leafItem group idx actions raw])

/-- The recursion of the source has no guard: the fuel bounds its depth. -/
def buildTree (groups : Groups) (actions : Actions) : Nat → UInt32 → Option (List MenuItem)
  | 0, _ => none
  | fuel + 1, group =>
    match groups.lookup group with
    | none => some []
    | some items => buildItems (buildTree groups actions fuel) group actions 0 items []

end Trees

section Publishing

/-- What an application answers over the bus. Without the path of an actions object there
is none to ask. -/
structure Application where
  start : List UInt32 → Except String (List GtkMenuGroup)
  appActions : Option (Except String (List (String × Description)))
  winActions : Option (Except String (List (String × Description)))

def insertDescriptions (space : String) (described : Option (Except String (List (String × Description))))
    (actions : Actions) : Actions :=
  match described with
  | some (.ok described) =>
    described.foldl (fun actions entry => actions.insert (space ++ entry.1) entry.2) actions
  | _ => actions

def describeActions (app : Application) : Actions :=
  insertDescriptions "win." app.winActions (insertDescriptions "app." app.appActions ∅)

/-- The menu that is sent on, or the error of the call. -/
def fetchAndPublish (app : Application) (fuel : Nat) : Option (Except String (List MenuItem)) :=
  match fetchGroups app.start with
  | .error e => some (.error e)
  | .ok groups => (buildTree groups (describeActions app) fuel 0).map .ok

end Publishing

section Served

variable {start : List UInt32 → Except String (List GtkMenuGroup)} {menus : UInt32 → List (UInt32 × List GtkItemProps)}
  {f : Fetch} {reply : List GtkMenuGroup} {g h : UInt32} {items : List GtkItemProps}

/-- A section or submenu of a menu of `g` is in `h`. -/
def Leads (menus : UInt32 → List (UInt32 × List GtkItemProps)) (g h : UInt32) : Prop :=
  ∃ menu ∈ menus g, ∃ item ∈ menu.2, linkGroup item ":section" = some h ∨ linkGroup item ":submenu" = some h

/-- An application with these menus answers with the menus of the groups asked for. -/
def Serves (start : List UInt32 → Except String (List GtkMenuGroup))
    (menus : UInt32 → List (UInt32 × List GtkItemProps)) : Prop :=
  ∀ batch, ∃ reply, start batch = .ok reply ∧
    ∀ g pos items, ⟨g, pos, items⟩ ∈ reply ↔ g ∈ batch ∧ (pos, items) ∈ menus g

structure Tabled (menus : UInt32 → List (UInt32 × List GtkItemProps)) (f : Fetch) : Prop where
  sound : ∀ g items, f.groups.lookup g = some items → g ∈ f.fetched ∧ ∃ pos, (pos, items) ∈ menus g
  complete : ∀ g ∈ f.fetched, ∀ menu ∈ menus g, (f.groups.lookup g).isSome

theorem mem_discovered {fetched : Finset UInt32} {item : GtkItemProps} : h ∈ discovered fetched item ↔
    h ∉ fetched ∧ (linkGroup item ":section" = some h ∨ linkGroup item ":submenu" = some h) := by
  rw [discovered, mem_filter, mem_append, mem_toList, mem_toList, decide_eq_true_eq, and_comm]

theorem toFetch_foldl_receive : (reply.foldl Fetch.receive f).toFetch =
    f.toFetch ++ reply.flatMap fun group => group.items.flatMap (discovered f.fetched) := by
  induction reply generalizing f with
  | nil => simp
  | cons group reply ih =>
    rw [foldl_cons, ih, flatMap_cons, ← append_assoc]
    rfl

theorem lookup_foldl_receive (hlook : (reply.foldl Fetch.receive f).groups.lookup g = some items) :
    f.groups.lookup g = some items ∨ ∃ pos, ⟨g, pos, items⟩ ∈ reply := by
  induction reply generalizing f with
  | nil => exact .inl hlook
  | cons group reply ih =>
    obtain hfst | ⟨pos, hpos⟩ := ih hlook
    · rw [Fetch.receive, lookup_insert_eq] at hfst
      split at hfst
      · next hg =>
        obtain rfl := some.inj hfst
        exact .inr ⟨group.position, by rw [hg]; exact mem_cons_self⟩
      · exact .inl hfst
    · exact .inr ⟨pos, mem_cons_of_mem _ hpos⟩

theorem isSome_lookup_foldl_receive
    (hsome : (f.groups.lookup g).isSome ∨ ∃ pos items, GtkMenuGroup.mk g pos items ∈ reply) :
    ((reply.foldl Fetch.receive f).groups.lookup g).isSome := by
  induction reply generalizing f with
  | nil =>
    obtain hsome | ⟨_, _, hmem⟩ := hsome
    · exact hsome
    · exact absurd hmem not_mem_nil
  | cons group reply ih =>
    apply ih
    rw [Fetch.receive, lookup_insert_eq]
    split
    · exact .inl rfl
    · next hg =>
      refine hsome.imp_right fun ⟨pos, items, hmem⟩ => ⟨pos, items, ?_⟩
      exact (mem_cons.mp hmem).resolve_left fun heq => hg (congrArg GtkMenuGroup.group heq)

theorem frontier_ask (hsrvs : ∀ g pos items, ⟨g, pos, items⟩ ∈ reply ↔ g ∈ f.batch ∧ (pos, items) ∈ menus g)
    (hf : Frontier (Leads menus) 0 f.fetched f.toFetch) :
    Frontier (Leads menus) 0 f.ask.fetched (reply.foldl Fetch.receive f.ask).toFetch := by
  refine hf.round (fun g hg => ?_) (fun g hg => (mem_filter.mp hg).1) fun h => ?_
  · by_cases hseen : g ∈ f.fetched
    · exact .inl hseen
    · exact .inr (mem_filter.mpr ⟨hg, decide_eq_true hseen⟩)
  · rw [toFetch_foldl_receive, Fetch.ask, nil_append, mem_flatMap]
    refine ⟨fun ⟨group, hgroup, hh⟩ => ?_, fun ⟨hnew, g, hg, menu, hmenu, item, hitem, hlink⟩ => ?_⟩
    · obtain ⟨item, hitem, hlink⟩ := mem_flatMap.mp hh
      obtain ⟨hg, hmenu⟩ := (hsrvs group.group group.position group.items).mp hgroup
      obtain ⟨hnew, hlink⟩ := mem_discovered.mp hlink
      exact ⟨hnew, group.group, hg, _, hmenu, item, hitem, hlink⟩
    · refine ⟨⟨g, menu.1, menu.2⟩, (hsrvs g menu.1 menu.2).mpr ⟨hg, hmenu⟩, mem_flatMap.mpr ⟨item, hitem, ?_⟩⟩
      exact mem_discovered.mpr ⟨hnew, hlink⟩

theorem tabled_ask (hsrvs : ∀ g pos items, ⟨g, pos, items⟩ ∈ reply ↔ g ∈ f.batch ∧ (pos, items) ∈ menus g)
    (hf : Tabled menus f) : Tabled menus (reply.foldl Fetch.receive f.ask) := by
  have hmem {g : UInt32} : g ∈ f.ask.fetched ↔ g ∈ f.fetched ∨ g ∈ f.batch := by
    rw [Fetch.ask, Finset.mem_union, List.mem_toFinset]
  refine ⟨fun g items hlook => ?_, fun g hg menu hmenu => isSome_lookup_foldl_receive ?_⟩
  · rw [fetched_foldl_receive, hmem]
    obtain hold | ⟨pos, hnew⟩ := lookup_foldl_receive hlook
    · obtain ⟨hg, hmenu⟩ := hf.sound g items hold
      exact ⟨.inl hg, hmenu⟩
    · obtain ⟨hg, hmenu⟩ := (hsrvs g pos items).mp hnew
      exact ⟨.inr hg, pos, hmenu⟩
  · rw [fetched_foldl_receive, hmem] at hg
    exact hg.imp (fun hg => hf.complete g hg menu hmenu)
      fun hg => ⟨menu.1, menu.2, (hsrvs g menu.1 menu.2).mpr ⟨hg, hmenu⟩⟩

theorem fetchLoop_serves (hsrvs : Serves start menus) (hfrontier : Frontier (Leads menus) 0 f.fetched f.toFetch)
    (htabled : Tabled menus f) : ∃ f', fetchLoop start f = .ok f'.groups ∧ Tabled menus f' ∧
      ∀ g, g ∈ f'.fetched ↔ ReflTransGen (Leads menus) 0 g := by
  induction f using fetchLoop.induct start with
  | case1 f hbatch =>
    refine ⟨f, fetchLoop_done hbatch, htabled, fun g => hfrontier.mem_seen_iff fun g hg => ?_⟩
    by_contra hseen
    exact absurd (mem_filter.mpr ⟨hg, decide_eq_true hseen⟩) (hbatch ▸ not_mem_nil)
  | case2 f hbatch e he =>
    obtain ⟨reply, hrep, -⟩ := hsrvs f.batch
    rw [hrep] at he
    cases he
  | case3 f hbatch reply hrep ih =>
    obtain ⟨reply', hrep', hmem⟩ := hsrvs f.batch
    obtain rfl := Except.ok.inj (hrep.symm.trans hrep')
    rw [fetchLoop_step hbatch hrep]
    exact ih (by simpa using frontier_ask hmem hfrontier) (tabled_ask hmem htabled)

/-- Of an application that answers, the groups that its menus lead to are fetched, and no others. -/
theorem fetchGroups_reached (hsrvs : Serves start menus) : ∃ groups, fetchGroups start = .ok groups ∧
    ∀ g, ((groups.lookup g).isSome ↔ ReflTransGen (Leads menus) 0 g ∧ menus g ≠ []) ∧
      ∀ items, groups.lookup g = some items → ∃ pos, (pos, items) ∈ menus g := by
  have htabled : Tabled menus ⟨∅, [0], ∅⟩ :=
    ⟨fun _ _ hlook => by simp at hlook, fun g hg => absurd hg (Finset.notMem_empty g)⟩
  obtain ⟨f, hfetch, htabled, hrchd⟩ := fetchLoop_serves hsrvs (frontier_root (Leads menus) 0) htabled
  refine ⟨f.groups, hfetch, fun g => ⟨⟨fun hsome => ?_, fun ⟨hrch, hne⟩ => ?_⟩, fun items hlook => ?_⟩⟩
  · obtain ⟨items, hlook⟩ := isSome_iff_exists.mp hsome
    obtain ⟨hg, pos, hmenu⟩ := htabled.sound g items hlook
    exact ⟨(hrchd g).mp hg, ne_nil_of_mem hmenu⟩
  · obtain ⟨menu, hmenu⟩ := exists_mem_of_ne_nil _ hne
    exact htabled.complete g ((hrchd g).mpr hrch) menu hmenu
  · exact (htabled.sound g items hlook).2

end Served

section Returns

variable {groups : Groups} {actions : Actions} {nested nested' : UInt32 → Option (List MenuItem)} {g h : UInt32}
  {items : List GtkItemProps} {idx fuel fuel' : Nat} {out menu : List MenuItem}

def followed (item : GtkItemProps) : Option UInt32 :=
  (linkGroup item ":section").or (linkGroup item ":submenu")

def Follows (groups : Groups) (g h : UInt32) : Prop :=
  ∃ items, groups.lookup g = some items ∧ ∃ item ∈ items, followed item = some h

theorem isSome_buildItems : (buildItems nested g actions idx items out).isSome ↔
    ∀ item ∈ items, ∀ h, followed item = some h → (nested h).isSome := by
  induction items generalizing idx out with
  | nil => simp [buildItems]
  | cons raw items ih =>
    rw [forall_mem_cons, buildItems, followed]
    cases linkGroup raw ":section" with
    | some linked =>
      simp only [some_or, some.injEq, forall_eq']
      cases nested linked with
      | none => simp
      | some flattened => simpa using ih
    | none =>
      cases linkGroup raw ":submenu" with
      | some linked =>
        simp only [none_or, some.injEq, forall_eq']
        cases nested linked with
        | none => simp
        | some children => simpa using ih
      | none => simpa using ih

theorem buildItems_congr (hnested : ∀ h menu, nested h = some menu → nested' h = some menu)
    (hmenu : buildItems nested g actions idx items out = some menu) :
    buildItems nested' g actions idx items out = some menu := by
  induction items generalizing idx out with
  | nil => exact hmenu
  | cons raw items ih =>
    rw [buildItems] at hmenu ⊢
    split at hmenu
    · obtain ⟨flattened, hflattened, hmenu⟩ := bind_eq_some_iff.mp hmenu
      rw [hnested _ _ hflattened]
      exact ih hmenu
    · split at hmenu
      · obtain ⟨children, hchs, hmenu⟩ := bind_eq_some_iff.mp hmenu
        rw [hnested _ _ hchs]
        exact ih hmenu
      · exact ih hmenu

theorem buildTree_succ (hmenu : buildTree groups actions fuel g = some menu) :
    buildTree groups actions (fuel + 1) g = some menu := by
  induction fuel generalizing g menu with
  | zero => cases hmenu
  | succ fuel ih =>
    rw [buildTree] at hmenu ⊢
    cases hlook : groups.lookup g with
    | none => rwa [hlook] at hmenu
    | some items =>
      rw [hlook] at hmenu
      exact buildItems_congr (fun h menu => ih) hmenu

theorem buildTree_le (hle : fuel ≤ fuel') (hmenu : buildTree groups actions fuel g = some menu) :
    buildTree groups actions fuel' g = some menu := by
  induction hle with
  | refl => exact hmenu
  | step _ ih => exact buildTree_succ ih

def Returns (groups : Groups) (actions : Actions) (g : UInt32) : Prop :=
  ∃ fuel, (buildTree groups actions fuel g).isSome

theorem isSome_buildTree_succ : (buildTree groups actions (fuel + 1) g).isSome ↔
    ∀ h, Follows groups g h → (buildTree groups actions fuel h).isSome := by
  rw [buildTree]
  cases hlook : groups.lookup g with
  | none => simp [Follows, hlook]
  | some items =>
    simp only [isSome_buildItems, Follows, hlook, some.injEq, exists_eq_left']
    exact ⟨fun hall h ⟨item, hitem, hh⟩ => hall item hitem h hh, fun hall item hitem h hh => hall h ⟨item, hitem, hh⟩⟩

/-- Fuel for each of finitely many groups is fuel for all. -/
theorem exists_common_fuel (linked : List UInt32) (hreturns : ∀ h ∈ linked, Returns groups actions h) :
    ∃ fuel, ∀ h ∈ linked, (buildTree groups actions fuel h).isSome := by
  induction linked with
  | nil => exact ⟨0, fun h hh => absurd hh not_mem_nil⟩
  | cons h linked ih =>
    obtain ⟨fuel, hfuel⟩ := ih fun h hh => hreturns h (mem_cons_of_mem _ hh)
    obtain ⟨fuel', hfuel'⟩ := hreturns h mem_cons_self
    refine ⟨max fuel fuel', fun k hk => ?_⟩
    obtain rfl | hk := mem_cons.mp hk
    · obtain ⟨menu, hmenu⟩ := isSome_iff_exists.mp hfuel'
      exact isSome_iff_exists.mpr ⟨menu, buildTree_le (le_max_right _ _) hmenu⟩
    · obtain ⟨menu, hmenu⟩ := isSome_iff_exists.mp (hfuel k hk)
      exact isSome_iff_exists.mpr ⟨menu, buildTree_le (le_max_left _ _) hmenu⟩

theorem follows_finite (g : UInt32) : ∃ linked : List UInt32, ∀ h, h ∈ linked ↔ Follows groups g h := by
  cases hlook : groups.lookup g with
  | none => exact ⟨[], by simp [Follows, hlook]⟩
  | some items => exact ⟨items.filterMap followed, by simp [Follows, hlook]⟩

theorem returns_of_acc (hacc : Acc (Function.swap (Follows groups)) g) : Returns groups actions g := by
  induction hacc with
  | intro g _ ih =>
    obtain ⟨linked, hlinked⟩ := @follows_finite groups g
    obtain ⟨fuel, hfuel⟩ := exists_common_fuel linked fun h hh => ih h ((hlinked h).mp hh)
    exact ⟨fuel + 1, isSome_buildTree_succ.mpr fun h hh => hfuel h ((hlinked h).mpr hh)⟩

theorem acc_of_isSome_buildTree (hsome : (buildTree groups actions fuel g).isSome) :
    Acc (Function.swap (Follows groups)) g := by
  induction fuel generalizing g with
  | zero => cases hsome
  | succ fuel ih => exact Acc.intro g fun h hh => ih (isSome_buildTree_succ.mp hsome h hh)

instance finite_uInt32 : Finite UInt32 := Finite.of_injective UInt32.toFin fun _ _ => UInt32.toFin_inj.mp

/-- The recursion ends where the links come into no cycle, and nowhere else. -/
theorem returns_iff : Returns groups actions g ↔ NoCycleFrom (Follows groups) g :=
  ⟨fun ⟨_, hsome⟩ => noCycleFrom_of_acc (acc_of_isSome_buildTree hsome),
    fun hacyc => returns_of_acc (acc_of_noCycleFrom hacyc)⟩

end Returns

section Published

variable {app : Application} {menus : UInt32 → List (UInt32 × List GtkItemProps)} {groups : Groups} {g h : UInt32}

/-- The links among the menus of an application that a tree goes along: of an item that is
both a section and a submenu, only the section. -/
def Shows (menus : UInt32 → List (UInt32 × List GtkItemProps)) (g h : UInt32) : Prop :=
  ∃ menu ∈ menus g, ∃ item ∈ menu.2, followed item = some h

theorem leads_of_shows (hshows : Shows menus g h) : Leads menus g h := by
  obtain ⟨menu, hmenu, item, hitem, hh⟩ := hshows
  refine ⟨menu, hmenu, item, hitem, ?_⟩
  rw [followed, or_eq_some_iff] at hh
  exact hh.imp id And.right

theorem reaches_of_shows (hrch : ReflTransGen (Shows menus) 0 g) : ReflTransGen (Leads menus) 0 g :=
  ReflTransGen.mono (show Shows menus ≤ Leads menus from fun _ _ => leads_of_shows) _ _ hrch

/-- An application whose groups are menus of their own gets its menu published if and only
if the sections and submenus of its menus come into no cycle. -/
theorem published_iff (hsrvs : Serves app.start menus)
    (hsingle : ∀ g, ∀ menu ∈ menus g, ∀ menu' ∈ menus g, menu = menu') :
    (∃ fuel menu, fetchAndPublish app fuel = some (.ok menu)) ↔ NoCycleFrom (Shows menus) 0 := by
  obtain ⟨groups, hfetch, htable⟩ := fetchGroups_reached hsrvs
  have hsame : ∀ g, ReflTransGen (Shows menus) 0 g → ∀ h, Shows menus g h ↔ Follows groups g h := by
    intro g hrch h
    refine ⟨fun ⟨menu, hmenu, hitem⟩ => ?_, fun ⟨items, hlook, hitem⟩ => ?_⟩
    · obtain ⟨items, hlook⟩ := isSome_iff_exists.mp
        ((htable g).1.mpr ⟨reaches_of_shows hrch, ne_nil_of_mem hmenu⟩)
      obtain ⟨pos, hitems⟩ := (htable g).2 items hlook
      rw [hsingle g menu hmenu _ hitems] at hitem
      exact ⟨items, hlook, hitem⟩
    · obtain ⟨pos, hmenu⟩ := (htable g).2 items hlook
      exact ⟨(pos, items), hmenu, hitem⟩
  rw [noCycleFrom_congr hsame, ← @returns_iff groups (describeActions app)]
  refine exists_congr fun fuel => ?_
  rw [fetchAndPublish, hfetch, isSome_iff_exists]
  simp

end Published

section Calculator

def answer (menus : UInt32 → List (UInt32 × List GtkItemProps)) (batch : List UInt32) :
    Except String (List GtkMenuGroup) :=
  .ok (batch.flatMap fun g => (menus g).map fun menu => ⟨g, menu.1, menu.2⟩)

theorem serves_answer (menus : UInt32 → List (UInt32 × List GtkItemProps)) : Serves (answer menus) menus := by
  refine fun batch => ⟨_, rfl, fun g pos items => ?_⟩
  rw [mem_flatMap]
  refine ⟨fun ⟨h, hh, hgroup⟩ => ?_, fun ⟨hg, hmenu⟩ => ⟨g, hg, mem_map.mpr ⟨_, hmenu, rfl⟩⟩⟩
  obtain ⟨menu, hmenu, heq⟩ := mem_map.mp hgroup
  obtain ⟨rfl, rfl, rfl⟩ := GtkMenuGroup.mk.inj heq
  exact ⟨hh, hmenu⟩

def modeItem : GtkItemProps := (Finmap.singleton "label" (.str "_Mode")).insert ":submenu" (.struct [.u32 1, .u32 0])
def basicItem : GtkItemProps := (Finmap.singleton "label" (.str "_Basic")).insert "action" (.str "win.basic")

def quitSection : GtkItemProps := Finmap.singleton ":section" (.struct [.u32 2, .u32 0])
def quitItem : GtkItemProps := (Finmap.singleton "label" (.str "_Quit")).insert "action" (.str "app.quit")

/-- A submenu, in group 1, and a section, in group 2, of one item each. -/
def calculatorMenus (g : UInt32) : List (UInt32 × List GtkItemProps) :=
  if g = 0 then [(0, [modeItem, quitSection])]
  else if g = 1 then [(0, [basicItem])]
  else if g = 2 then [(0, [quitItem])]
  else []

def calculator : Application :=
  ⟨answer calculatorMenus, none, some (.ok [("basic", ⟨true, "", [.bool true]⟩)])⟩

theorem calculator_fetched : ∃ groups, fetchGroups (answer calculatorMenus) = .ok groups ∧
    ∀ g, ((groups.lookup g).isSome ↔ ReflTransGen (Leads calculatorMenus) 0 g ∧ calculatorMenus g ≠ []) ∧
      ∀ items, groups.lookup g = some items → ∃ pos, (pos, items) ∈ calculatorMenus g :=
  fetchGroups_reached (serves_answer calculatorMenus)

theorem calculator_single (g : UInt32) : ∀ menu ∈ calculatorMenus g, ∀ menu' ∈ calculatorMenus g, menu = menu' := by
  rw [calculatorMenus]
  split_ifs <;> simp

theorem calculator_shows {g h : UInt32} (hshows : Shows calculatorMenus g h) : g = 0 ∧ h ≠ 0 := by
  obtain ⟨menu, hmenu, item, hitem, hfol⟩ := hshows
  rw [calculatorMenus] at hmenu
  split_ifs at hmenu with h0
  all_goals simp only [List.mem_singleton, not_mem_nil] at hmenu
  · subst hmenu
    simp only [mem_cons, not_mem_nil, or_false] at hitem
    refine ⟨h0, ?_⟩
    rintro rfl
    rcases hitem with rfl | rfl
    all_goals revert hfol; decide
  · subst hmenu
    obtain rfl := List.mem_singleton.mp hitem
    rw [show followed basicItem = none by decide] at hfol
    cases hfol
  · subst hmenu
    obtain rfl := List.mem_singleton.mp hitem
    rw [show followed quitItem = none by decide] at hfol
    cases hfol

theorem calculator_published : ∃ fuel menu, fetchAndPublish calculator fuel = some (.ok menu) := by
  refine (@published_iff calculator _ (serves_answer calculatorMenus) calculator_single).mpr fun b _ hcyc => ?_
  obtain ⟨c, hbc, -⟩ := TransGen.head'_iff.mp hcyc
  obtain ⟨d, -, hdb⟩ := TransGen.tail'_iff.mp hcyc
  exact (calculator_shows hdb).2 (calculator_shows hbc).1

end Calculator

end X11Web.Menus
