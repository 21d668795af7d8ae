import X11Web.TreePainting

namespace X11Web.DeclaredDamage

open WaylandPixels WaylandWindows TreePainting Option

/-- A commit with a buffer of which every changed pixel is declared, or that makes the surface larger, or the
root another size. -/
def Declared (isRoot : Bool) (old : Option SurfaceBuffer) (damage : List Rect) : Option BufferAssignment → Prop
  | none | some .unreadable => True
  | some .removed => False
  | some (.newBuffer rgba width height) =>
    ((0 < width ∧ width < 2 ^ 31) ∧ 0 < height ∧ height < 2 ^ 31) ∧ ∀ b, old = some b →
      if (b.width, b.height) = (width, height) then
        ∀ x y, Reaches width height x y → rgba x y = b.rgba x y ∨ ∃ r ∈ damage, r.Contains x y
      else isRoot = true ∨ b.width ≤ width ∧ b.height ≤ height

/-- The damage of a surface so far and what is added to it lie within one span. -/
def Spanned (old : Option SurfaceBuffer) (damage : List Rect) : Prop :=
  ∃ p : Span, (∀ r ∈ damage, r.isEmpty = true ∨ p.Around r) ∧
    ∀ b, old = some b → (b.width < 2 ^ 31 ∧ b.height < 2 ^ 31) ∧ b.damage.Fits p

variable {isRoot : Bool} {old : Option SurfaceBuffer} {damage : List Rect} {buffer : Option BufferAssignment}
  {sb b : SurfaceBuffer} {p : Span} {x y : Int}

theorem damaged_of_covers (hfits : sb.damage.Fits p) (hcvs : sb.damage.Covers x y)
    (hrchs : Reaches sb.width sb.height x y) (hwide : sb.width < 2 ^ 31) (hhigh : sb.height < 2 ^ 31) :
    Damaged (some sb) x y := by
  obtain ⟨d, htake, hhas⟩ := hcvs.take hfits hwide hhigh hrchs.1 hrchs.2
  exact ⟨sb, d, rfl, htake, hhas⟩

theorem covers_of_damaged (hfits : b.damage.Fits p) (h : Damaged (some b) x y) :
    b.damage.Covers x y ∧ Reaches b.width b.height x y := by
  obtain ⟨sb, d, ⟨⟩, htake, hhas⟩ := h
  refine ⟨DamageAccumulator.covers_of_take hfits htake hhas, ?_⟩
  obtain ⟨hl, ht, -, -, hr, hb⟩ := DamageAccumulator.within_of_take htake
  unfold Rect.Contains at hhas
  unfold Reaches
  omega

variable {width height : Int}

theorem damaged_foldl_add {d : DamageAccumulator} (hdmg : ∀ r ∈ damage, r.isEmpty = true ∨ p.Around r)
    (hfits : d.Fits p) (hcvs : d.Covers x y ∨ ∃ r ∈ damage, r.Contains x y) {rgba : Image}
    (hrchs : Reaches width height x y) (hwide : width < 2 ^ 31) (hhigh : height < 2 ^ 31) :
    Damaged (some ⟨rgba, width, height, damage.foldl DamageAccumulator.add d⟩) x y := by
  obtain ⟨hfits', hcvs'⟩ := DamageAccumulator.Covers.foldl_add hfits hdmg hcvs
  exact damaged_of_covers hfits' hcvs' hrchs hwide hhigh

theorem commitBuffer_kept (hbuf : buffer = none ∨ buffer = some .unreadable) :
    commitBuffer old buffer damage =
      (old.map fun b => { b with damage := damage.foldl DamageAccumulator.add b.damage }, ⟨false, false⟩) := by
  obtain rfl | rfl := hbuf <;> rfl

theorem commitBuffer_same (rgba : Image) :
    commitBuffer (some b) (some (.newBuffer rgba b.width b.height)) damage =
      (some ⟨rgba, b.width, b.height, damage.foldl DamageAccumulator.add b.damage⟩, ⟨false, false⟩) := by
  simp [commitBuffer, attachBuffer]

theorem commitBuffer_resized {rgba : Image}
    (hsize : ∀ b, old = some b → (b.width, b.height) ≠ (width, height)) :
    commitBuffer old (some (.newBuffer rgba width height)) damage =
      (some ⟨rgba, width, height, damage.foldl DamageAccumulator.add ((old.map SurfaceBuffer.damage).getD .new).markFull⟩,
        ⟨false, true⟩) := by
  cases old with
  | none => rfl
  | some b =>
    have hne := hsize b rfl
    simp [commitBuffer, attachBuffer, hne]

/-- A pixel of a surface is damaged, or it looks as before and was not damaged before. -/
def Accounted (old new : Option SurfaceBuffer) (x y : Int) : Prop :=
  Damaged new x y ∨ ¬Damaged old x y ∧ pixelAt new x y = pixelAt old x y

theorem accounted_kept (hspanned : Spanned old damage) :
    Accounted old (old.map fun b => { b with damage := damage.foldl DamageAccumulator.add b.damage }) x y := by
  obtain ⟨p, hdmg, hold⟩ := hspanned
  by_cases hdmgd : Damaged old x y
  · obtain ⟨b, d, rfl, -⟩ := id hdmgd
    obtain ⟨⟨hwide, hhigh⟩, hfits⟩ := hold b rfl
    obtain ⟨hcvs, hrchs⟩ := covers_of_damaged hfits hdmgd
    exact .inl (damaged_foldl_add hdmg hfits (.inl hcvs) hrchs hwide hhigh)
  · refine .inr ⟨hdmgd, congrFun₂ (pixelAt_congr ?_) x y⟩
    cases old <;> rfl

theorem accounted_same (hspanned : Spanned (some b) damage) {rgba : Image}
    (hpx : ∀ x y, Reaches b.width b.height x y → rgba x y = b.rgba x y ∨ ∃ r ∈ damage, r.Contains x y) :
    Accounted (some b) (some ⟨rgba, b.width, b.height, damage.foldl DamageAccumulator.add b.damage⟩) x y := by
  obtain ⟨p, hdmg, hold⟩ := hspanned
  obtain ⟨⟨hwide, hhigh⟩, hfits⟩ := hold b rfl
  by_cases hrchs : Reaches b.width b.height x y
  · by_cases hdmgd : Damaged (some b) x y
    · have hcvs := (covers_of_damaged hfits hdmgd).1
      exact .inl (damaged_foldl_add hdmg hfits (.inl hcvs) hrchs hwide hhigh)
    · obtain hpixel | hhas := hpx x y hrchs
      · refine .inr ⟨hdmgd, ?_⟩
        simp only [pixelAt, bind_some, if_pos hrchs, hpixel]
      · exact .inl (damaged_foldl_add hdmg hfits (.inr hhas) hrchs hwide hhigh)
  · refine .inr ⟨fun hdmgd => hrchs (covers_of_damaged hfits hdmgd).2, ?_⟩
    simp only [pixelAt, bind_some, if_neg hrchs]

theorem accounted_resized (hspanned : Spanned old damage) (rgba : Image)
    (hwide : width < 2 ^ 31) (hhigh : height < 2 ^ 31)
    (hlarger : ∀ b, old = some b → b.width ≤ width ∧ b.height ≤ height) :
    Accounted old (some ⟨rgba, width, height,
      damage.foldl DamageAccumulator.add ((old.map SurfaceBuffer.damage).getD .new).markFull⟩) x y := by
  obtain ⟨p, hdmg, hold⟩ := hspanned
  by_cases hrchs : Reaches width height x y
  · have hfits : ((old.map SurfaceBuffer.damage).getD .new).Fits p := by
      cases old with
      | none => exact DamageAccumulator.fits_new
      | some b => exact (hold b rfl).2
    exact .inl (damaged_foldl_add hdmg (DamageAccumulator.fits_markFull hfits) (.inl .markFull) hrchs
      hwide hhigh)
  · -- The surface was no larger before, and did not reach here either.
    have hbef : ∀ b, old = some b → ¬Reaches b.width b.height x y := by
      intro b hb
      have hsize := hlarger b hb
      unfold Reaches at hrchs ⊢
      omega
    refine .inr ⟨?_, ?_⟩
    · intro hdmgd
      obtain ⟨b, d, rfl, -⟩ := id hdmgd
      exact hbef b rfl (covers_of_damaged (hold b rfl).2 hdmgd).2
    · cases old with
      | none => simp only [pixelAt, bind_some, bind_none, if_neg hrchs]
      | some b => simp only [pixelAt, bind_some, if_neg hrchs, if_neg (hbef b rfl)]

/-- What is declared accounts for what changes. A root of another size is painted anew in any case. -/
theorem commitBuffer_accounted (hdeclared : Declared isRoot old damage buffer) (hspanned : Spanned old damage)
    (hrszd : (isRoot && (commitBuffer old buffer damage).2.resized) = false) :
    Accounted old (commitBuffer old buffer damage).1 x y := by
  match buffer, hdeclared with
  | none, _ =>
    rw [commitBuffer_kept (.inl rfl)]
    exact accounted_kept hspanned
  | some .unreadable, _ =>
    rw [commitBuffer_kept (.inr rfl)]
    exact accounted_kept hspanned
  | some (.newBuffer rgba width height), ⟨⟨⟨_, hwide⟩, _, hhigh⟩, hchgs⟩ =>
    by_cases hsame : ∃ b, old = some b ∧ (b.width, b.height) = (width, height)
    · obtain ⟨b, rfl, hsize⟩ := hsame
      have hpx := hchgs b rfl
      rw [if_pos hsize] at hpx
      obtain ⟨rfl, rfl⟩ := Prod.mk.inj hsize
      rw [commitBuffer_same]
      exact accounted_same hspanned hpx
    · have hsize : ∀ b, old = some b → (b.width, b.height) ≠ (width, height) :=
        fun b hb heq => hsame ⟨b, hb, heq⟩
      rw [commitBuffer_resized hsize] at hrszd ⊢
      refine accounted_resized hspanned rgba hwide hhigh fun b hb => ?_
      have hlarger := hchgs b hb
      rw [if_neg (hsize b hb)] at hlarger
      refine hlarger.resolve_left ?_
      simpa using hrszd

theorem commitBuffer_size (hdeclared : Declared isRoot old damage buffer)
    (hrszd : (commitBuffer old buffer damage).2.resized = false) :
    (commitBuffer old buffer damage).1.map (fun b => (b.width, b.height)) = old.map fun b => (b.width, b.height) := by
  match buffer, hdeclared with
  | none, _ =>
    rw [commitBuffer_kept (.inl rfl), map_map]
    rfl
  | some .unreadable, _ =>
    rw [commitBuffer_kept (.inr rfl), map_map]
    rfl
  | some (.newBuffer rgba width height), _ =>
    by_cases hsame : ∃ b, old = some b ∧ (b.width, b.height) = (width, height)
    · obtain ⟨b, rfl, hsize⟩ := hsame
      exact congrArg some hsize.symm
    · rw [commitBuffer_resized fun b hb heq => hsame ⟨b, hb, heq⟩] at hrszd
      cases hrszd

end X11Web.DeclaredDamage
