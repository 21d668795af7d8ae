import Mathlib.Algebra.BigOperators.Group.List.Basic

namespace X11Web.Metered

variable {α β : Type}

/-- What reading something takes: how many levels down it goes and how many words it traverses. -/
@[ext]
structure Load where
  depth : Nat
  words : Nat
deriving DecidableEq

namespace Load

instance : Zero Load := ⟨⟨0, 0⟩⟩

/-- One thing after the other: the levels are given back, the words are not. -/
instance : Add Load := ⟨fun l l' => ⟨max l.depth l'.depth, l.words + l'.words⟩⟩

@[simp] theorem zero_depth : (0 : Load).depth = 0 := rfl
@[simp] theorem zero_words : (0 : Load).words = 0 := rfl
@[simp] theorem add_depth (l l' : Load) : (l + l').depth = max l.depth l'.depth := rfl
@[simp] theorem add_words (l l' : Load) : (l + l').words = l.words + l'.words := rfl

instance : AddCommMonoid Load where
  add_assoc l l' l'' := by ext <;> simp [Nat.max_assoc, Nat.add_assoc]
  zero_add l := by ext <;> simp
  add_zero l := by ext <;> simp
  add_comm l l' := by ext <;> simp [Nat.max_comm, Nat.add_comm]
  nsmul := nsmulRec

def flat (words : Nat) : Load := ⟨0, words⟩

/-- An object of so many words one level down, and then what it holds. -/
def follow (words : Nat) (l : Load) : Load := ⟨l.depth + 1, words + l.words⟩

/-- An element of a list lies in the list's words. Its level only counts for what it points to. -/
def element (l : Load) : Load := ⟨if l.depth = 0 then 0 else l.depth + 1, l.words⟩

def Fits (l : Load) (level budget : Nat) : Prop := l.depth ≤ level ∧ l.words ≤ budget

instance (l : Load) (level budget : Nat) : Decidable (l.Fits level budget) :=
  inferInstanceAs (Decidable (_ ∧ _))

theorem element_depth {l : Load} (h : 0 < l.depth) : l.element.depth = l.depth + 1 :=
  if_neg (Nat.ne_of_gt h)

theorem fits_add {l l' : Load} {level budget : Nat} :
    (l + l').Fits level budget ↔ l.Fits level budget ∧ l'.Fits level (budget - l.words) := by
  simp only [Fits, add_depth, add_words]
  omega

theorem fits_follow {words level budget : Nat} {l : Load} :
    (follow words l).Fits (level + 1) budget ↔ (flat words + l).Fits level budget := by
  simp [Fits, follow, flat]

theorem fits_element {level budget : Nat} {l : Load} :
    (element l).Fits level budget ↔ l.Fits (level - 1) budget := by
  by_cases hl : l.depth = 0
  · simp [Fits, element, hl]
  · simp only [Fits, element, if_neg hl]
    omega

end Load

/-- A reader that may go down only so many levels and traverse only so many words.
It comes back with what is left of the words. -/
def Reading (α : Type) : Type := (level budget : Nat) → Option (α × Nat)

instance : Monad Reading where
  pure a := fun _ budget => some (a, budget)
  bind x f := fun level budget => (x level budget).bind (fun p => f p.1 level p.2)

def fail : Reading α := fun _ _ => none

def charge (words : Nat) : Reading Unit := fun _ budget =>
  if words ≤ budget then some ((), budget - words) else none

def follow (words : Nat) (x : Reading α) : Reading α
  | 0, _ => none
  | level + 1, budget => (do charge words; x : Reading α) level budget

/-- Read an element of a list that was followed. Nothing is checked here. -/
def element (x : Reading α) : Reading α := fun level budget => x (level - 1) budget

/-- Read `a` in its stead when the reader fails. -/
def orElse (x : Reading α) (a : α) : Reading α := fun level budget =>
  some ((x level budget).getD (a, budget))

def readOption (f : α → Reading β) : Option α → Reading (Option β)
  | none => return none
  | some a => do return some (← f a)

def readAll (f : α → Reading β) : List α → Reading (List β)
  | [] => return []
  | a :: as => do
    let b ← f a
    let bs ← readAll f as
    return b :: bs

/-- The reader takes exactly this load, and comes back with `v`. -/
def Reads (x : Reading α) (l : Load) (v : α) : Prop :=
  ∀ level budget, x level budget = if l.Fits level budget then some (v, budget - l.words) else none

variable {x : Reading α} {f : α → Reading β} {l l' : Load} {a v : α} {b : β}

theorem Reads.congr (h : Reads x l v) (hl : l = l') : Reads x l' v := hl ▸ h

theorem reads_pure (v : α) : Reads (pure v) 0 v := by
  intro level budget
  rw [if_pos ⟨Nat.zero_le _, Nat.zero_le _⟩]
  rfl

theorem reads_charge (words : Nat) : Reads (charge words) (Load.flat words) () := by
  intro level budget
  by_cases h : words ≤ budget <;> simp [charge, Load.Fits, Load.flat, h]

theorem Reads.bind (hx : Reads x l a) (hf : Reads (f a) l' b) : Reads (x >>= f) (l + l') b := by
  intro level budget
  change (x level budget).bind (fun p => f p.1 level p.2) = _
  rw [hx, if_congr Load.fits_add rfl rfl]
  by_cases h : l.Fits level budget
  · rw [if_pos h]
    change f a level (budget - l.words) = _
    rw [hf, if_congr (and_iff_right h) rfl rfl, Load.add_words, Nat.sub_sub]
  · rw [if_neg h, if_neg fun h' => h h'.1]
    rfl

theorem Reads.map {g : α → β} (hx : Reads x l v) : Reads (do return g (← x)) l (g v) :=
  (hx.bind (f := fun a => pure (g a)) (reads_pure (g v))).congr (add_zero l)

theorem Reads.follow (words : Nat) (hx : Reads x l v) :
    Reads (follow words x) (Load.follow words l) v := by
  intro level budget
  cases level with
  | zero =>
    rw [if_neg fun h => by simpa [Load.follow] using h.1]
    rfl
  | succ level =>
    have h := (reads_charge words).bind (f := fun _ => x) hx level budget
    change (do charge words; x : Reading α) level budget = _
    rw [if_congr Load.fits_follow rfl rfl]
    exact h

theorem Reads.element (hx : Reads x l v) : Reads (element x) (Load.element l) v := by
  intro level budget
  change x (level - 1) budget = _
  rw [hx, if_congr Load.fits_element rfl rfl]
  rfl

section RoundTrip

variable {write : β → α} {f : α → Reading β} {load : β → Load}

theorem reads_option (o : Option β) (h : ∀ b ∈ o, Reads (f (write b)) (load b) b) :
    Reads (readOption f (o.map write)) (o.elim 0 load) o := by
  cases o with
  | none => exact reads_pure none
  | some b => exact (h b rfl).map

theorem reads_all (bs : List β) (h : ∀ b ∈ bs, Reads (f (write b)) (load b) b) :
    Reads (readAll f (bs.map write)) (bs.map load).sum bs := by
  induction bs with
  | nil => exact reads_pure []
  | cons b bs ih =>
    have hrest := ih fun b' hb' => h b' (List.mem_cons_of_mem b hb')
    rw [List.map_cons, List.map_cons, List.sum_cons]
    exact (h b List.mem_cons_self).bind hrest.map

end RoundTrip

/-- The reader comes back with `v` where the limits are enough for this load, and only there.
Elsewhere it may fail or come back with something else. -/
def Delivers (x : Reading α) (l : Load) (v : α) : Prop :=
  ∀ level budget, (x level budget).map Prod.fst = some v ↔ l.Fits level budget

theorem Delivers.congr (h : Delivers x l v) (hl : l = l') : Delivers x l' v := hl ▸ h

theorem Reads.delivers (hx : Reads x l v) : Delivers x l v := by
  intro level budget
  rw [hx]
  by_cases h : l.Fits level budget <;> simp [h]

theorem Reads.bind_delivers (hx : Reads x l a) (hf : Delivers (f a) l' b) : Delivers (x >>= f) (l + l') b := by
  intro level budget
  change ((x level budget).bind (fun p => f p.1 level p.2)).map Prod.fst = some b ↔ _
  rw [hx, Load.fits_add]
  by_cases h : l.Fits level budget
  · rw [if_pos h, and_iff_right h]
    exact hf level (budget - l.words)
  · simp [h]

theorem Delivers.follow (words : Nat) (hx : Delivers x l v) :
    Delivers (follow words x) (Load.follow words l) v := by
  intro level budget
  cases level with
  | zero => simp [Metered.follow, Load.Fits, Load.follow]
  | succ level =>
    rw [Load.fits_follow]
    exact (reads_charge words).bind_delivers (f := fun _ => x) hx level budget

theorem Reads.orElse_delivers {y : Reading β} (hx : Reads x l v) (ha : a ≠ v) (hy : Reads y l' b) :
    Delivers (do let v ← orElse x a; let b ← y; return (b, v)) (l + l') (b, v) := by
  intro level budget
  by_cases h : l.Fits level budget
  · have horElse : orElse x a level budget = x level budget := by
      rw [orElse, hx, if_pos h]
      rfl
    have hread := (hx.bind (f := fun v => do return (← y, v)) hy.map).delivers level budget
    change ((orElse x a level budget).bind _).map Prod.fst = _ ↔ _
    rw [horElse]
    exact hread
  · have horElse : orElse x a level budget = some (a, budget) := by
      rw [orElse, hx, if_neg h]
      rfl
    change ((orElse x a level budget).bind _).map Prod.fst = _ ↔ _
    rw [horElse, Load.fits_add]
    change ((y level budget).bind _).map Prod.fst = _ ↔ _
    cases y level budget with
    | none => simp [h]
    | some p => simp [h, ha, pure]

end X11Web.Metered
