import Mathlib.Data.Multiset.Sort
import Mathlib.Order.Lattice.Nat
import X11Web.WindowTree

namespace X11Web.Ewmh

open HashMaps Windows WindowTree

/-- Rewrite `_NET_CLIENT_LIST` and `_NET_CLIENT_LIST_STACKING` on the local
root window. -/
def updateNetClientList (s : ClientState) : ClientState :=
  let listed := (s.windows.entries.filter (fun e =>
    e.2.parent = rootWindow ∧ e.2.winClass = inputOutput ∧ e.2.mapped)).map (fun e => e.2.id)
  let data := (listed.sort (· ≤ ·)).flatMap toLeBytes32
  let order := ((s.windows.lookup rootWindow).map (·.childrenOrder)).getD []
  let stacking := order.filter (fun c =>
    (s.windows.lookup c).any (fun w => w.winClass == inputOutput && w.mapped))
  markWindowSharedDirty rootWindow (updateWindow rootWindow (fun root =>
    insertProperty Predef.netClientListStacking ⟨Predef.window, 32, stacking.flatMap toLeBytes32⟩
      (insertProperty Predef.netClientList ⟨Predef.window, 32, data⟩ root)) s)

def setFocusWindow (newFocus : XId) (s : ClientState) : ClientState :=
  let s' := { s with focusWindow := newFocus, shared := { s.shared with focus := newFocus } }
  if s.focusWindow ≠ newFocus then
    updateNetClientList (updateWindow rootWindow
      (insertProperty Predef.netActiveWindow ⟨Predef.window, 32, toLeBytes32 newFocus⟩) s')
  else s'

def revertTarget (s : ClientState) (window : XId) : XId :=
  match s.focusRevertTo with
  | 0 => 0
  | 1 => 1
  | 2 =>
    let candidate := ((s.windows.lookup window).map (·.parent)).getD rootWindow
    if candidate = 0 ∨ (s.windows.lookup candidate).isNone then rootWindow else candidate
  | _ => rootWindow

def revertFocusFrom (window : XId) (s : ClientState) : ClientState :=
  if s.focusWindow ≠ window then s else setFocusWindow (revertTarget s window) s

def allowedActions : PropertyValue :=
  ⟨Predef.atom, 32, [107, 108, 109, 110, 112, 113, 114, 116].flatMap toLeBytes32⟩

def setAllowedActions (window : XId) (s : ClientState) : ClientState :=
  updateSharedWindow window (insertProperty Predef.netWmAllowedActions allowedActions)
    (updateWindow window (insertProperty Predef.netWmAllowedActions allowedActions) s)

def maxStrut (edge : Strut → Nat) (m : HashMap XId WindowState) : Nat :=
  m.keys.sup (fun w => ((m.lookup w).bind (·.strut)).elim 0 edge)

def recalculateWorkarea (s : ClientState) : ClientState :=
  let left := maxStrut (·.left) s.windows
  let right := maxStrut (·.right) s.windows
  let top := maxStrut (·.top) s.windows
  let bottom := maxStrut (·.bottom) s.windows
  let w := s.screenWidth - (left + right) % 2 ^ 32
  let h := s.screenHeight - (top + bottom) % 2 ^ 32
  updateWindow rootWindow (insertProperty Predef.netWorkarea
    ⟨Predef.cardinal, 32, [left, top, w, h].flatMap toLeBytes32⟩) s

structure SizeHints where
  minWidth : Nat := 0
  minHeight : Nat := 0
  maxWidth : Nat := 0
  maxHeight : Nat := 0
  widthInc : Nat := 0
  heightInc : Nat := 0
  baseWidth : Nat := 0
  baseHeight : Nat := 0
deriving DecidableEq

/-- The words of a well-formed `WM_NORMAL_HINTS` property. -/
def normalHints (s : ClientState) (window : XId) : Option (List Nat) :=
  match (s.windows.lookup window).bind (fun w => w.properties.lookup Predef.wmNormalHints) with
  | none => none
  | some pv => if pv.format ≠ 32 ∨ pv.data.length < 72 then none else some (leWords pv.data)

def getSizeHints (s : ClientState) (window : XId) : Option SizeHints :=
  (normalHints s window).map fun words =>
    let word := fun i => asU16 (words.getD i 0)
    let has := fun bit => (words.getD 0 0).testBit bit
    { minWidth := if has 4 then word 5 else 0
      minHeight := if has 4 then word 6 else 0
      maxWidth := if has 5 then word 7 else 0
      maxHeight := if has 5 then word 8 else 0
      widthInc := if has 6 then word 9 else 0
      heightInc := if has 6 then word 10 else 0
      baseWidth := if has 8 then word 13 else 0
      baseHeight := if has 8 then word 14 else 0 }

def getSizeHintsPosition (s : ClientState) (window : XId) : Option (Int × Int) :=
  (normalHints s window).bind fun words =>
    if (words.getD 0 0).testBit 0 || (words.getD 0 0).testBit 2 then
      some (asI16 (words.getD 1 0), asI16 (words.getD 2 0))
    else none

theorem updateNetClientList_sameTree (s : ClientState) : SameTree s (updateNetClientList s) := by
  rw [updateNetClientList]
  apply SameTree.markWindowSharedDirty
  apply SameTree.updateWindow (.refl s)
  intro win
  rfl

theorem setFocusWindow_sameTree (newFocus : XId) (s : ClientState) :
    SameTree s (setFocusWindow newFocus s) := by
  have hfoc : SameTree s
      { s with focusWindow := newFocus, shared := { s.shared with focus := newFocus } } :=
    .of_eq rfl rfl rfl
  rw [setFocusWindow]
  split
  · refine SameTree.trans ?_ (updateNetClientList_sameTree _)
    apply hfoc.updateWindow
    intro win
    rfl
  · exact hfoc

theorem revertFocusFrom_sameTree (window : XId) (s : ClientState) :
    SameTree s (revertFocusFrom window s) := by
  rw [revertFocusFrom]
  split
  · exact .refl s
  · exact setFocusWindow_sameTree _ s

theorem setAllowedActions_sameTree (window : XId) (s : ClientState) :
    SameTree s (setAllowedActions window s) := by
  rw [setAllowedActions]
  apply SameTree.updateSharedWindow
  apply SameTree.updateWindow (.refl s)
  intro win
  rfl

theorem recalculateWorkarea_sameTree (s : ClientState) : SameTree s (recalculateWorkarea s) := by
  rw [recalculateWorkarea]
  apply SameTree.updateWindow (.refl s)
  intro win
  rfl

end X11Web.Ewmh
