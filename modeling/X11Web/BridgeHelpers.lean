import X11Web.Metered
import X11Web.Protocol

namespace X11Web.BridgeHelpers

open Protocol Metered

variable {α β : Type}

/-- A text on the wire. One that was never set is a null pointer. -/
abbrev Text := Option String

abbrev Ordinal := UInt16

/-- The structs that both schemas have. How many words each takes is up to the schema compiler. -/
inductive Shape
  | menuItem
  | menuAction
  | menuActionTarget
  | dndEvent
  | dndEnter
  | dndPosition
  | dndDrop
  | inputEvent
  | keyPress
  | keyRelease
  | buttonPress
  | buttonRelease
  | motionNotify
  | menuActivate
  | windowManage
  | dndBridge
  | touch
  | gestureSwipe
  | gesturePinch
  | composition
deriving DecidableEq

abbrev Sizes := Shape → Nat

namespace Wire

-- In each union, `unknown` stands for `noVariant` and for a discriminant that the schema does not have.

inductive MenuActionTarget
  | unknown
  | string (v : Text)
  | boolean (v : Bool)
  | int32 (v : Int32)
  | uInt32 (v : UInt32)
  | int64 (v : Int64)
  | float64 (v : Float64Bits)

structure MenuAction where
  name : Text
  target : Option MenuActionTarget

structure MenuItem where
  id : Text
  label : Text
  kind : Ordinal
  enabled : Bool
  visible : Bool
  checked : Ordinal
  accelerator : Text
  icon : Text
  action : Option MenuAction
  children : List MenuItem

inductive DndEvent
  | unknown
  | enter (mimeTypes : List Text)
  | position (x y : Int16)
  | drop (mimeType : Text) (data : Bytes)
  | leave

inductive InputEvent
  | unknown
  | keyPress (keycode : UInt32) (state : UInt16)
  | keyRelease (keycode : UInt32) (state : UInt16)
  | buttonPress (button : UInt8) (x y : Int16) (state : UInt16)
  | buttonRelease (button : UInt8) (x y : Int16) (state : UInt16)
  | motionNotify (x y : Int16) (state : UInt16)
  | menuActivate (action : MenuAction)
  | windowManage (action : Ordinal)
  | dndBridge (event : DndEvent)
  | touchBegin (touchId : UInt32) (x y : Int16) (state : UInt16)
  | touchUpdate (touchId : UInt32) (x y : Int16) (state : UInt16)
  | touchEnd (touchId : UInt32) (x y : Int16) (state : UInt16)
  | gestureSwipe (phase : Ordinal) (fingers : UInt8) (dx dy : Float32Bits)
  | gesturePinch (phase : Ordinal) (fingers : UInt8) (dx dy scale rotation : Float32Bits)
  | compositionEvent (phase text : Text)

end Wire

section Fields

def textWords (s : String) : Nat := (s.utf8ByteSize + 1 + 7) / 8

def dataWords (data : Bytes) : Nat := (data.length + 7) / 8

/-- A null pointer reads as the empty text, and nothing is traversed for it. -/
def getText : Text → Reading String
  | none => return ""
  | some s => do
    charge (textWords s)
    return s

/-- A text that is read only where `has_…` says that it was set. -/
def getTextIfSet : Text → Reading (Option String) := readOption fun s => getText (some s)

def getData (data : Bytes) : Reading Bytes := do
  charge (dataWords data)
  return data

/-- A list of texts is a list of pointers, one word each. -/
def getTexts (texts : List Text) : Reading (List String) :=
  follow texts.length (readAll getText texts)

/-- A list of structs has a tag word before its elements. -/
def getStructs (size : Nat) (f : α → Reading β) (structs : List α) : Reading (List β) :=
  follow (size * structs.length + 1) (readAll (fun s => element (f s)) structs)

def setText (s : String) : Text := some s

/-- `if let Some(s) = … { set_…(s) }` -/
def setTextIfSome (s : Option String) : Text := s

def setTexts (texts : List String) : List Text := texts.map setText

def textLoad (s : String) : Load := Load.flat (textWords s)

def textIfSomeLoad (s : Option String) : Load := s.elim 0 textLoad

def dataLoad (data : Bytes) : Load := Load.flat (dataWords data)

def textsLoad (texts : List String) : Load :=
  Load.follow texts.length (texts.map textLoad).sum

def structsLoad (size : Nat) (load : α → Load) (structs : List α) : Load :=
  Load.follow (size * structs.length + 1) (structs.map fun s => (load s).element).sum

theorem reads_text (s : String) : Reads (getText (setText s)) (textLoad s) s :=
  ((reads_charge (textWords s)).bind (f := fun _ => pure s) (reads_pure s)).congr (add_zero _)

theorem reads_textIfSome (s : Option String) : Reads (getTextIfSet (setTextIfSome s)) (textIfSomeLoad s) s := by
  cases s with
  | none => exact reads_pure none
  | some s => exact (reads_text s).map

theorem reads_data (data : Bytes) : Reads (getData data) (dataLoad data) data :=
  ((reads_charge (dataWords data)).bind (f := fun _ => pure data) (reads_pure data)).congr (add_zero _)

theorem reads_texts (texts : List String) : Reads (getTexts (setTexts texts)) (textsLoad texts) texts := by
  have h := (reads_all texts fun s _ => reads_text s).follow texts.length
  rwa [getTexts, setTexts, List.length_map]

theorem reads_structs {write : α → β} {read : β → Reading α} {load : α → Load} (size : Nat) (structs : List α)
    (h : ∀ s, Reads (read (write s)) (load s) s) :
    Reads (getStructs size read (structs.map write)) (structsLoad size load structs) structs := by
  have hall := reads_all (f := fun s => element (read s)) structs fun s _ => (h s).element
  rw [getStructs, List.length_map]
  exact hall.follow _

end Fields

section Enumerations

def writeWmState : WindowWmState → Ordinal
  | .normal => 0
  | .minimized => 1
  | .maximized => 2
  | .fullscreen => 3
  | .close => 4

def readWmState : Ordinal → Reading WindowWmState
  | 0 => return .normal
  | 1 => return .minimized
  | 2 => return .maximized
  | 3 => return .fullscreen
  | 4 => return .close
  | _ => fail

def writeGesturePhase : GesturePhase → Ordinal
  | .begin => 0
  | .update => 1
  | .done => 2

def readGesturePhase : Ordinal → Reading GesturePhase
  | 0 => return .begin
  | 1 => return .update
  | 2 => return .done
  | _ => fail

def writeMenuItemKind : MenuItemKind → Ordinal
  | .normal => 0
  | .submenu => 1
  | .separator => 2
  | .checkbox => 3
  | .radio => 4

def readMenuItemKind : Ordinal → Reading MenuItemKind
  | 0 => return .normal
  | 1 => return .submenu
  | 2 => return .separator
  | 3 => return .checkbox
  | 4 => return .radio
  | _ => fail

/-- `CheckState` is `notApplicable`, `unchecked` or `checked`. -/
def writeChecked : Option Bool → Ordinal
  | none => 0
  | some false => 1
  | some true => 2

def readChecked : Ordinal → Reading (Option Bool)
  | 0 => return none
  | 1 => return some false
  | 2 => return some true
  | _ => fail

theorem reads_wmState (state : WindowWmState) : Reads (readWmState (writeWmState state)) 0 state := by
  cases state <;> exact reads_pure _

theorem reads_gesturePhase (phase : GesturePhase) :
    Reads (readGesturePhase (writeGesturePhase phase)) 0 phase := by
  cases phase <;> exact reads_pure _

theorem reads_menuItemKind (kind : MenuItemKind) :
    Reads (readMenuItemKind (writeMenuItemKind kind)) 0 kind := by
  cases kind <;> exact reads_pure _

theorem reads_checked (checked : Option Bool) : Reads (readChecked (writeChecked checked)) 0 checked := by
  match checked with
  | none | some false | some true => exact reads_pure _

end Enumerations

section Menus

def writeMenuActionTarget : MenuActionTarget → Wire.MenuActionTarget
  | .string s => .string (setText s)
  | .bool v => .boolean v
  | .int32 v => .int32 v
  | .uInt32 v => .uInt32 v
  | .int64 v => .int64 v
  | .float64 v => .float64 v

def readMenuActionTarget : Wire.MenuActionTarget → Reading MenuActionTarget
  | .unknown => fail
  | .string s => do return .string (← getText s)
  | .boolean v => return .bool v
  | .int32 v => return .int32 v
  | .uInt32 v => return .uInt32 v
  | .int64 v => return .int64 v
  | .float64 v => return .float64 v

def writeMenuAction (action : MenuAction) : Wire.MenuAction where
  name := setText action.name
  target := action.target.map writeMenuActionTarget

variable (sizes : Sizes)

/-- An action's target is read only where `has_target` says that there is one. -/
def getTarget (target : Wire.MenuActionTarget) : Reading MenuActionTarget :=
  follow (sizes .menuActionTarget) (readMenuActionTarget target)

def readMenuAction (a : Wire.MenuAction) : Reading MenuAction := do
  let target ← readOption (getTarget sizes) a.target
  let name ← getText a.name
  return { name, target }

def getAction (action : Wire.MenuAction) : Reading MenuAction :=
  follow (sizes .menuAction) (readMenuAction sizes action)

mutual

def writeMenuItem : MenuItem → Wire.MenuItem
  | ⟨id, label, kind, enabled, visible, checked, accelerator, icon, action, children⟩ =>
    { id := setText id, label := setTextIfSome label, kind := writeMenuItemKind kind, enabled, visible,
      checked := writeChecked checked, accelerator := setTextIfSome accelerator, icon := setTextIfSome icon,
      action := action.map writeMenuAction, children := writeMenuItems children }

def writeMenuItems : List MenuItem → List Wire.MenuItem
  | [] => []
  | item :: items => writeMenuItem item :: writeMenuItems items

end

mutual

def readMenuItem : Wire.MenuItem → Reading MenuItem
  | ⟨id, label, kind, enabled, visible, checked, accelerator, icon, action, children⟩ => do
    let kind ← readMenuItemKind kind
    let action ← readOption (getAction sizes) action
    let checked ← readChecked checked
    let id ← getText id
    let label ← getTextIfSet label
    let accelerator ← getTextIfSet accelerator
    let icon ← getTextIfSet icon
    let children ← follow (sizes .menuItem * children.length + 1) (readMenuItems children)
    return { id, label, kind, enabled, visible, checked, accelerator, icon, action, children }

def readMenuItems : List Wire.MenuItem → Reading (List MenuItem)
  | [] => return []
  | item :: items => do
    let out ← element (readMenuItem item)
    let rest ← readMenuItems items
    return out :: rest

end

def getMenu (menu : List Wire.MenuItem) : Reading (List MenuItem) :=
  follow (sizes .menuItem * menu.length + 1) (readMenuItems sizes menu)

def menuActionTargetLoad : MenuActionTarget → Load
  | .string s => textLoad s
  | _ => 0

def targetLoad (target : MenuActionTarget) : Load :=
  Load.follow (sizes .menuActionTarget) (menuActionTargetLoad target)

def menuActionLoad (action : MenuAction) : Load :=
  action.target.elim 0 (targetLoad sizes) + textLoad action.name

def actionLoad (action : MenuAction) : Load :=
  Load.follow (sizes .menuAction) (menuActionLoad sizes action)

mutual

/-- What an item takes. Its children are a list one level down, and each child a level below that. -/
def menuItemLoad : MenuItem → Load
  | ⟨id, label, _, _, _, _, accelerator, icon, action, children⟩ =>
    action.elim 0 (actionLoad sizes) + textLoad id + textIfSomeLoad label +
      textIfSomeLoad accelerator + textIfSomeLoad icon +
      Load.follow (sizes .menuItem * children.length + 1) (menuItemsLoad children)

def menuItemsLoad : List MenuItem → Load
  | [] => 0
  | item :: items => (menuItemLoad item).element + menuItemsLoad items

end

theorem reads_menuActionTarget (target : MenuActionTarget) :
    Reads (readMenuActionTarget (writeMenuActionTarget target)) (menuActionTargetLoad target) target := by
  cases target with
  | string s => exact (reads_text s).map
  | _ => exact reads_pure _

theorem reads_menuAction (action : MenuAction) :
    Reads (readMenuAction sizes (writeMenuAction action)) (menuActionLoad sizes action) action := by
  have htgt : Reads (readOption (getTarget sizes) (action.target.map writeMenuActionTarget))
      (action.target.elim 0 (targetLoad sizes)) action.target :=
    reads_option action.target fun t _ => (reads_menuActionTarget t).follow _
  exact htgt.bind (reads_text action.name).map

theorem reads_action (action : MenuAction) :
    Reads (getAction sizes (writeMenuAction action)) (actionLoad sizes action) action :=
  (reads_menuAction sizes action).follow _

theorem length_writeMenuItems (items : List MenuItem) : (writeMenuItems items).length = items.length := by
  induction items with
  | nil => rfl
  | cons item items ih => simp [writeMenuItems, ih]

mutual

theorem reads_menuItem : (item : MenuItem) →
    Reads (readMenuItem sizes (writeMenuItem item)) (menuItemLoad sizes item) item
  | ⟨id, label, kind, enabled, visible, checked, accelerator, icon, action, children⟩ => by
    have haction : Reads (readOption (getAction sizes) (action.map writeMenuAction))
        (action.elim 0 (actionLoad sizes)) action :=
      reads_option action fun a _ => reads_action sizes a
    have hchs := (reads_menuItems children).follow (sizes .menuItem * children.length + 1)
    rw [← length_writeMenuItems] at hchs
    simp only [writeMenuItem, readMenuItem]
    refine Reads.congr ((reads_menuItemKind kind).bind <| haction.bind <| (reads_checked checked).bind <|
      (reads_text id).bind <| (reads_textIfSome label).bind <| (reads_textIfSome accelerator).bind <|
      (reads_textIfSome icon).bind hchs.map) ?_
    simp only [menuItemLoad, length_writeMenuItems, zero_add, add_assoc]

theorem reads_menuItems : (items : List MenuItem) →
    Reads (readMenuItems sizes (writeMenuItems items)) (menuItemsLoad sizes items) items
  | [] => reads_pure []
  | item :: items => (reads_menuItem item).element.bind (reads_menuItems items).map

end

def menuLoad (menu : List MenuItem) : Load :=
  Load.follow (sizes .menuItem * menu.length + 1) (menuItemsLoad sizes menu)

theorem reads_menu (menu : List MenuItem) :
    Reads (getMenu sizes (writeMenuItems menu)) (menuLoad sizes menu) menu := by
  rw [getMenu, length_writeMenuItems]
  exact (reads_menuItems sizes menu).follow _

def nestedMenu : Nat → List MenuItem
  | 0 => []
  | n + 1 => [{
      id := "", label := none, kind := .submenu, enabled := true, visible := true, checked := none,
      accelerator := none, icon := none, action := none, children := nestedMenu n }]

theorem le_depth_nestedMenu (n : Nat) : 2 * n ≤ (menuItemsLoad sizes (nestedMenu n)).depth := by
  induction n with
  | zero => exact Nat.zero_le _
  | succ n ih =>
    rw [nestedMenu, menuItemsLoad, menuItemsLoad, add_zero]
    generalize hitem : menuItemLoad sizes _ = item
    have hdepth : (menuItemsLoad sizes (nestedMenu n)).depth + 1 ≤ item.depth := by
      rw [← hitem, menuItemLoad, Load.add_depth]
      exact Nat.le_max_right _ _
    rw [Load.element_depth (by omega)]
    omega

end Menus

section Input

variable (sizes : Sizes)

def writeDndEvent : DndEventKind → Wire.DndEvent
  | .enter mimeTypes => .enter (setTexts mimeTypes)
  | .position x y => .position x y
  | .drop mimeType data => .drop (setText mimeType) data
  | .leave => .leave

def readDndEvent : Wire.DndEvent → Reading DndEventKind
  | .unknown => fail
  | .enter mimeTypes => follow (sizes .dndEnter) do return .enter (← getTexts mimeTypes)
  | .position x y => follow (sizes .dndPosition) (return .position x y)
  | .drop mimeType data => follow (sizes .dndDrop) do
    let mimeType ← getText mimeType
    let data ← getData data
    return .drop mimeType data
  | .leave => return .leave

def writeInputEvent : InputEvent → Wire.InputEvent
  | .keyPress keycode state => .keyPress keycode state
  | .keyRelease keycode state => .keyRelease keycode state
  | .buttonPress button x y state => .buttonPress button x y state
  | .buttonRelease button x y state => .buttonRelease button x y state
  | .motionNotify x y state => .motionNotify x y state
  | .menuActivate action => .menuActivate (writeMenuAction action)
  | .windowManage action => .windowManage (writeWmState action)
  | .dndBridge event => .dndBridge (writeDndEvent event)
  | .touchBegin touchId x y state => .touchBegin touchId x y state
  | .touchUpdate touchId x y state => .touchUpdate touchId x y state
  | .touchEnd touchId x y state => .touchEnd touchId x y state
  | .gestureSwipe phase fingers dx dy => .gestureSwipe (writeGesturePhase phase) fingers dx dy
  | .gesturePinch phase fingers dx dy scale rotation =>
    .gesturePinch (writeGesturePhase phase) fingers dx dy scale rotation
  | .compositionEvent phase text => .compositionEvent (setText phase) (setText text)

def readInputEvent : Wire.InputEvent → Reading InputEvent
  | .unknown => fail
  | .keyPress keycode state => follow (sizes .keyPress) (return .keyPress keycode state)
  | .keyRelease keycode state => follow (sizes .keyRelease) (return .keyRelease keycode state)
  | .buttonPress button x y state => follow (sizes .buttonPress) (return .buttonPress button x y state)
  | .buttonRelease button x y state => follow (sizes .buttonRelease) (return .buttonRelease button x y state)
  | .motionNotify x y state => follow (sizes .motionNotify) (return .motionNotify x y state)
  | .menuActivate action => follow (sizes .menuActivate) do return .menuActivate (← getAction sizes action)
  | .windowManage action => follow (sizes .windowManage) do return .windowManage (← readWmState action)
  | .dndBridge event => follow (sizes .dndBridge) do
    return .dndBridge (← follow (sizes .dndEvent) (readDndEvent sizes event))
  | .touchBegin touchId x y state => follow (sizes .touch) (return .touchBegin touchId x y state)
  | .touchUpdate touchId x y state => follow (sizes .touch) (return .touchUpdate touchId x y state)
  | .touchEnd touchId x y state => follow (sizes .touch) (return .touchEnd touchId x y state)
  | .gestureSwipe phase fingers dx dy => follow (sizes .gestureSwipe) do
    return .gestureSwipe (← readGesturePhase phase) fingers dx dy
  | .gesturePinch phase fingers dx dy scale rotation => follow (sizes .gesturePinch) do
    return .gesturePinch (← readGesturePhase phase) fingers dx dy scale rotation
  | .compositionEvent phase text => follow (sizes .composition) do
    let phase ← getText phase
    let text ← getText text
    return .compositionEvent phase text

def getInputEvent (event : Wire.InputEvent) : Reading InputEvent :=
  follow (sizes .inputEvent) (readInputEvent sizes event)

def dndEventLoad : DndEventKind → Load
  | .enter mimeTypes => Load.follow (sizes .dndEnter) (textsLoad mimeTypes)
  | .position _ _ => Load.follow (sizes .dndPosition) 0
  | .drop mimeType data => Load.follow (sizes .dndDrop) (textLoad mimeType + dataLoad data)
  | .leave => 0

def inputEventLoad : InputEvent → Load
  | .keyPress _ _ => Load.follow (sizes .keyPress) 0
  | .keyRelease _ _ => Load.follow (sizes .keyRelease) 0
  | .buttonPress _ _ _ _ => Load.follow (sizes .buttonPress) 0
  | .buttonRelease _ _ _ _ => Load.follow (sizes .buttonRelease) 0
  | .motionNotify _ _ _ => Load.follow (sizes .motionNotify) 0
  | .menuActivate action => Load.follow (sizes .menuActivate) (actionLoad sizes action)
  | .windowManage _ => Load.follow (sizes .windowManage) 0
  | .dndBridge event =>
    Load.follow (sizes .dndBridge) (Load.follow (sizes .dndEvent) (dndEventLoad sizes event))
  | .touchBegin _ _ _ _ | .touchUpdate _ _ _ _ | .touchEnd _ _ _ _ => Load.follow (sizes .touch) 0
  | .gestureSwipe _ _ _ _ => Load.follow (sizes .gestureSwipe) 0
  | .gesturePinch _ _ _ _ _ _ => Load.follow (sizes .gesturePinch) 0
  | .compositionEvent phase text => Load.follow (sizes .composition) (textLoad phase + textLoad text)

theorem reads_dndEvent (event : DndEventKind) :
    Reads (readDndEvent sizes (writeDndEvent event)) (dndEventLoad sizes event) event := by
  cases event with
  | enter mimeTypes => exact (reads_texts mimeTypes).map.follow _
  | position x y => exact (reads_pure _).follow _
  | drop mimeType data => exact ((reads_text mimeType).bind (reads_data data).map).follow _
  | leave => exact reads_pure _

theorem reads_inputEvent (event : InputEvent) :
    Reads (readInputEvent sizes (writeInputEvent event)) (inputEventLoad sizes event) event := by
  cases event with
  | menuActivate action => exact (reads_action sizes action).map.follow _
  | windowManage action => exact (reads_wmState action).map.follow _
  | dndBridge event => exact ((reads_dndEvent sizes event).follow _).map.follow _
  | gestureSwipe phase fingers dx dy => exact (reads_gesturePhase phase).map.follow _
  | gesturePinch phase fingers dx dy scale rotation => exact (reads_gesturePhase phase).map.follow _
  | compositionEvent phase text => exact ((reads_text phase).bind (reads_text text).map).follow _
  | _ => exact (reads_pure _).follow _

def eventLoad (event : InputEvent) : Load :=
  Load.follow (sizes .inputEvent) (inputEventLoad sizes event)

theorem reads_event (event : InputEvent) :
    Reads (getInputEvent sizes (writeInputEvent event)) (eventLoad sizes event) event :=
  (reads_inputEvent sizes event).follow _

end Input

section Root

variable {Root : Type}

/-- A message as its builder leaves it. Where it lies in more than one segment, the pointers from one
to another go over landing pads. -/
structure Encoded (Root : Type) where
  pads : Nat
  root : Root

/-- The limits of `ReaderOptions::new()`. -/
def nestingLimit : Nat := 64
def traversalLimit : Nat := 8 * 1024 * 1024

/-- Read a message from its root pointer on. A pad is traversed where its pointer is followed. As every
pointer is followed once, it makes no difference that all pads are traversed first here. -/
def readRoot (size : Nat) (read : Root → Reading α) (message : Encoded Root) : Option α :=
  let reading : Reading α := do
    charge 1
    charge message.pads
    follow size (read message.root)
  (reading nestingLimit traversalLimit).map Prod.fst

def rootLoad (size pads : Nat) (l : Load) : Load := Load.flat (1 + pads) + Load.follow size l

theorem readRoot_eq_some_iff {read : Root → Reading α} {l : Load} {v : α} (message : Encoded Root) (size : Nat)
    (h : Delivers (read message.root) l v) :
    readRoot size read message = some v ↔
      (rootLoad size message.pads l).Fits nestingLimit traversalLimit := by
  have hroot : Delivers (do charge 1; charge message.pads; follow size (read message.root))
      (rootLoad size message.pads l) v := by
    refine Delivers.congr ((reads_charge 1).bind_delivers <| (reads_charge message.pads).bind_delivers <|
      h.follow size) ?_
    rw [← add_assoc]
    rfl
  exact hroot nestingLimit traversalLimit

theorem not_fits_root_of_le {size pads : Nat} {l : Load} (h : nestingLimit ≤ l.depth) :
    ¬(rootLoad size pads l).Fits nestingLimit traversalLimit := by
  intro hfits
  have hdepth := hfits.1
  simp only [rootLoad, Load.flat, Load.follow, Load.add_depth] at hdepth
  omega

end Root

end X11Web.BridgeHelpers
