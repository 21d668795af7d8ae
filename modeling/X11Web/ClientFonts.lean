import X11Web.BitmapFonts
import X11Web.FontPatterns
import X11Web.HashMaps
import X11Web.Runs
import Mathlib

namespace X11Web.ClientFonts

open BitmapFonts HashMaps Option Finmap

structure ScalableFont where
  path : String
  xlfdName : String
  family : String
  style : String
  pixelSize : UInt32

/-- What is found in a directory: the lines of `fonts.alias` and `fonts.dir`, and the fonts
of the files of each kind that load. -/
structure Directory where
  aliases : List (String × String)
  fontDir : List (String × String)
  bdf : List (Option BitmapFont)
  bdfGz : List (Option BitmapFont)
  pcfGz : List (Option BitmapFont)
  pcf : List (Option BitmapFont)

/-- What a call finds outside: the directories, the families, styles and paths that
fontconfig lists, and the font that FreeType makes of a file at a size. -/
structure Outside where
  directory : String → Directory
  fontconfig : List (String × String × String)
  rasterise : String → UInt32 → Option BitmapFont

structure FontManager where
  fonts : HashMap String BitmapFont
  fontIds : HashMap UInt32 String
  searchPaths : List String
  scalableFonts : List ScalableFont

def contains (text part : String) : Bool := part.toList <:+: text.toList

def splitOn (c : Char) : List Char → List (List Char)
  | [] => [[]]
  | d :: ds =>
    match splitOn c ds with
    | [] => [[]]
    | part :: parts => if d = c then [] :: part :: parts else (d :: part) :: parts

/-- `str::parse` for a `u32`. -/
def parseU32 (digits : List Char) : Option UInt32 :=
  let digits := match digits with
    | '+' :: rest => rest
    | digits => digits
  if digits ≠ [] ∧ digits.all Char.isDigit then
    let n := digits.foldl (fun n c => 10 * n + (c.toNat - '0'.toNat)) 0
    if n < 2 ^ 32 then some (UInt32.ofNat n) else none
  else none

/-- `Path::file_stem`. -/
def fileStem (filename : String) : String :=
  let components := (splitOn '/' filename.toList).filter fun c => c ≠ [] ∧ c ≠ ['.']
  match components.getLast? with
  | none => ""
  | some name =>
    if name = ['.', '.'] then ""
    else
      let beforeDot := (name.reverse.dropWhile (· ≠ '.')).reverse
      if beforeDot.length ≤ 1 then String.ofList name else String.ofList beforeDot.dropLast

def stripSuffix? (suffix name : String) : Option String :=
  if suffix.toList <:+ name.toList then some (String.ofList (name.toList.take (name.length - suffix.length))) else none

def sortedKeys (fonts : HashMap String BitmapFont) : List String := fonts.keys.sort (· ≤ ·)

section Lowercase

/- The lowercase of a string. -/
variable (lower : String → String)

def buildXlfd (family style : String) (pixelSize : UInt32) : String :=
  let weight := if contains (lower style) "bold" then "bold" else "medium"
  let slant := if contains (lower style) "italic" || contains (lower style) "oblique" then "i" else "r"
  let family := String.ofList ((lower family).toList.filter (· ≠ ' '))
  "-misc-" ++ family ++ "-" ++ weight ++ "-" ++ slant ++ "-normal--" ++ toString pixelSize ++ "-" ++
    toString (pixelSize * 10) ++ "-75-75-p-0-iso8859-1"

/-- The fonts of fontconfig, each family and style once, at the common sizes. -/
def discovered (listed : List (String × String × String)) : List ScalableFont :=
  let step := fun (seen, found) (family, style, path) =>
    let key := lower family ++ "-" ++ lower style
    if key ∈ seen then (seen, found)
    else
      let sizes : List UInt32 := [12, 13, 14, 15, 16, 18, 20, 24]
      (key :: seen, found ++ sizes.map fun px => ⟨path, buildXlfd lower family style px, family, style, px⟩)
  (listed.foldl step (([] : List String), ([] : List ScalableFont))).2

/-- Another name for a font that is there, unless the name is taken. -/
def register (fonts : HashMap String BitmapFont) (name target : String) : HashMap String BitmapFont :=
  if name ∈ fonts then fonts
  else
    match fonts.lookup target with
    | some font => fonts.insert name font
    | none => fonts

def scanDirectory (fonts : HashMap String BitmapFont) (dir : Directory) : HashMap String BitmapFont :=
  let loaded := (dir.bdf ++ dir.bdfGz ++ dir.pcfGz ++ dir.pcf).filterMap id
  let fonts := loaded.foldl (fun fonts font => fonts.insert (lower font.name) font) fonts
  let fonts := dir.fontDir.foldl (fun fonts (filename, xlfd) =>
    let stem := lower (fileStem filename)
    let stem := ((stripSuffix? ".pcf" stem).or (stripSuffix? ".bdf" stem)).getD stem
    register fonts (lower xlfd) stem) fonts
  dir.aliases.foldl (fun fonts (name, target) => register fonts (lower name) (lower target)) fonts

def scanFontDirectories (out : Outside) (paths : List String) : HashMap String BitmapFont :=
  paths.foldl (fun fonts path => scanDirectory lower fonts (out.directory path)) ∅

def ScalableFont.toBitmapFont (out : Outside) (sf : ScalableFont) : Option BitmapFont :=
  (out.rasterise sf.path sf.pixelSize).map fun font =>
    { font with name := sf.xlfdName, scalablePath := some sf.path, scalablePixelSize := sf.pixelSize }

def closest (targetSize : UInt32) (sfs : List ScalableFont) : Option ScalableFont :=
  let step := fun (best, bestDistance) (sf : ScalableFont) =>
    let dist := (sf.pixelSize.toInt32 - targetSize.toInt32).abs.toUInt32
    if dist < bestDistance then (some sf, dist) else (best, bestDistance)
  (sfs.foldl step (none, 2 ^ 32 - 1)).1

def findScalableFont (sfs : List ScalableFont) (name : String) : Option ScalableFont :=
  let nameLower := lower name
  let xlfd := nameLower.toList.head? = some '-'
  let fields := splitOn '-' nameLower.toList
  let requestedSize := if xlfd then ((fields[7]?.bind parseU32).getD 0) else 0
  let targetSize := if 0 < requestedSize then requestedSize else 13
  let familyHint :=
    if xlfd then String.ofList (fields[2]?.getD [])
    else String.ofList (nameLower.toList.map fun c => if c = '-' then ' ' else c)
  match sfs.find? fun sf => lower sf.xlfdName = nameLower with
  | some sf => some sf
  | none =>
    let matching := sfs.filter fun sf =>
      familyHint = "*" || familyHint.isEmpty || contains (lower sf.family) familyHint ||
        contains familyHint (lower sf.family)
    ((closest targetSize matching).or (closest targetSize sfs)).map fun sf =>
      if sf.pixelSize = targetSize then sf
      else { sf with xlfdName := buildXlfd lower sf.family sf.style targetSize, pixelSize := targetSize }

namespace FontManager

def getDefaultFont (fm : FontManager) : Option BitmapFont :=
  match ["fixed", "6x13", "cursor"].findSome? fm.fonts.lookup with
  | some font => some font
  | none => (sortedKeys fm.fonts).head?.bind fm.fonts.lookup

/-- The first font by name that a pattern matches, or that has the name as a part of its own. -/
def matchingKey (fm : FontManager) (nameLower : String) : Option String :=
  (sortedKeys fm.fonts).find? fun key =>
    if contains nameLower "*" || contains nameLower "?" then FontPatterns.globMatch nameLower (lower key)
    else contains key nameLower

def loadedKey (fm : FontManager) (name : String) : Option String :=
  let nameLower := lower name
  if nameLower ∈ fm.fonts then some nameLower
  else
    match if nameLower = "fixed" then fm.getDefaultFont else none with
    | some font => some (lower font.name)
    | none => fm.matchingKey lower nameLower

/-- The scalable font that is to stand for a name, where it comes to that. -/
def rasterised (fm : FontManager) (out : Outside) (name : String) : Option BitmapFont :=
  match fm.loadedKey lower name with
  | some _ => none
  | none => (findScalableFont lower fm.scalableFonts (lower name)).bind (·.toBitmapFont out)

def openFont (out : Outside) (fontId : UInt32) (name : String) (fm : FontManager) : Bool × FontManager :=
  match fm.loadedKey lower name with
  | some key => (true, { fm with fontIds := fm.fontIds.insert fontId key })
  | none =>
    match fm.rasterised lower out name with
    | some font =>
      let key := lower font.name
      (true, { fm with fonts := fm.fonts.insert key font, fontIds := fm.fontIds.insert fontId key })
    | none =>
      match (sortedKeys fm.fonts).head? with
      | some key => (true, { fm with fontIds := fm.fontIds.insert fontId key })
      | none => (false, fm)

def closeFont (fontId : UInt32) (fm : FontManager) : FontManager := { fm with fontIds := fm.fontIds.erase fontId }

def getFont (fm : FontManager) (fontId : UInt32) : Option BitmapFont :=
  (fm.fontIds.lookup fontId).bind fm.fonts.lookup

def reloadPaths (out : Outside) (paths : List String) (fm : FontManager) : FontManager :=
  { fm with
    searchPaths := paths, fonts := scanFontDirectories lower out paths,
    scalableFonts := fm.scalableFonts ++ discovered lower out.fontconfig }

def new (out : Outside) : FontManager :=
  let searchPaths := ["/usr/share/fonts/X11/misc", "/usr/share/X11/fonts/misc", "/usr/local/share/fonts/bdf"]
  ⟨scanFontDirectories lower out searchPaths, ∅, searchPaths, discovered lower out.fontconfig⟩

end FontManager

inductive Call
  | openFont (fontId : UInt32) (name : String)
  | closeFont (fontId : UInt32)
  | reloadPaths (paths : List String)

structure Step where
  call : Call
  outside : Outside

/-- The manager, and what `getFont` gave right after the last `openFont` of each identifier
that has returned true, where it has not been closed or opened again since. -/
structure Session where
  manager : FontManager
  opened : HashMap UInt32 (Option BitmapFont)

namespace Session

def new (out : Outside) : Session := ⟨.new lower out, ∅⟩

def next (s : Session) (step : Step) : Session :=
  match step.call with
  | .openFont fontId name =>
    let (opens, manager) := s.manager.openFont lower step.outside fontId name
    ⟨manager, if opens then s.opened.insert fontId (manager.getFont fontId) else s.opened.erase fontId⟩
  | .closeFont fontId => ⟨s.manager.closeFont fontId, s.opened.erase fontId⟩
  | .reloadPaths paths => { s with manager := s.manager.reloadPaths lower step.outside paths }

end Session

end Lowercase

/-- The same metrics and glyphs, those that are drawn on demand among them. -/
def SameGlyphs (f g : BitmapFont) : Prop := { f with name := g.name } = g

/-- The fonts that are open are as they were right after they were opened. -/
structure StaysOpen (s : Session) : Prop where
  same : ∀ fontId font, s.opened.lookup fontId = some font →
    ∃ f f', font = some f ∧ s.manager.getFont fontId = some f' ∧ SameGlyphs f f'
  keys : ∀ fontId key, s.manager.fontIds.lookup fontId = some key → key ∈ s.manager.fonts

/-- A reload finds a font with the same metrics and glyphs under the name of each open one,
and what is rasterised under the name of another open font has the same. -/
def Finds (lower : String → String) (s : Session) (step : Step) : Prop :=
  match step.call with
  | .openFont fontId name => ∀ font, s.manager.rasterised lower step.outside name = some font →
    ∀ otherId, otherId ≠ fontId → s.manager.fontIds.lookup otherId = some (lower font.name) →
      ∀ f, s.manager.getFont otherId = some f → SameGlyphs f font
  | .closeFont _ => True
  | .reloadPaths paths => ∀ fontId key f, s.manager.fontIds.lookup fontId = some key →
    s.manager.getFont fontId = some f →
      ∃ f', (scanFontDirectories lower step.outside paths).lookup key = some f' ∧ SameGlyphs f f'

variable {lower : String → String} {fonts : HashMap String BitmapFont} {fm : FontManager} {out : Outside}
  {s : Session} {fontId otherId : UInt32} {name key : String} {f g : BitmapFont}

theorem SameGlyphs.refl (f : BitmapFont) : SameGlyphs f f := rfl

theorem SameGlyphs.symm (h : SameGlyphs f g) : SameGlyphs g f := by
  rw [SameGlyphs] at h ⊢
  rw [← h]

theorem SameGlyphs.trans {k : BitmapFont} (h : SameGlyphs f g) (h' : SameGlyphs g k) : SameGlyphs f k := by
  rw [SameGlyphs] at h h' ⊢
  rw [← h', ← h]

def OwnNames (lower : String → String) (fonts : HashMap String BitmapFont) : Prop :=
  ∀ key font, fonts.lookup key = some font → lower font.name ∈ fonts

theorem ownNames_empty : OwnNames lower ∅ := by
  intro key font h
  rw [lookup_empty] at h
  cases h

theorem OwnNames.insert (h : OwnNames lower fonts) {font : BitmapFont}
    (hfont : lower font.name = key ∨ lower font.name ∈ fonts) :
    OwnNames lower (fonts.insert key font) := by
  intro key' font' hlook
  rw [lookup_insert_eq] at hlook
  rw [mem_insert]
  split at hlook
  · obtain rfl := some.inj hlook
    exact hfont
  · exact .inr (h key' font' hlook)

theorem OwnNames.register (h : OwnNames lower fonts) (name target : String) :
    OwnNames lower (register fonts name target) := by
  rw [ClientFonts.register]
  split
  · exact h
  · split
    · next font hfont => exact h.insert (.inr (h target font hfont))
    · exact h

theorem OwnNames.foldl {α : Type} {step : HashMap String BitmapFont → α → HashMap String BitmapFont}
    (hstep : ∀ fonts a, OwnNames lower fonts → OwnNames lower (step fonts a)) (h : OwnNames lower fonts)
    (as : List α) : OwnNames lower (as.foldl step fonts) := by
  induction as generalizing fonts with
  | nil => exact h
  | cons a as ih => exact ih (hstep fonts a h)

theorem OwnNames.scanDirectory (h : OwnNames lower fonts) (dir : Directory) :
    OwnNames lower (scanDirectory lower fonts dir) := by
  refine OwnNames.foldl (fun _ _ h => h.register _ _) ?_ _
  refine OwnNames.foldl (fun _ _ h => h.register _ _) ?_ _
  exact h.foldl (fun _ _ h => h.insert (.inl rfl)) _

theorem ownNames_scanFontDirectories (out : Outside) (paths : List String) :
    OwnNames lower (scanFontDirectories lower out paths) :=
  ownNames_empty.foldl (fun _ path h => h.scanDirectory (out.directory path)) paths

theorem mem_of_sortedKeys (h : key ∈ sortedKeys fonts) : key ∈ fonts := mem_keys.mp ((Finset.mem_sort _).mp h)

theorem sortedKeys_eq_nil (h : (sortedKeys fonts).head? = none) : key ∉ fonts := by
  intro hkey
  have hmem := (Finset.mem_sort (· ≤ ·)).mpr (mem_keys.mpr hkey)
  rw [← sortedKeys, List.head?_eq_none_iff.mp h] at hmem
  cases hmem

namespace FontManager

theorem lookup_of_getDefaultFont (h : fm.getDefaultFont = some f) : ∃ key, fm.fonts.lookup key = some f := by
  rw [getDefaultFont] at h
  split at h
  · next font hfont =>
    obtain ⟨key, -, hkey⟩ := List.exists_of_findSome?_eq_some hfont
    exact ⟨key, hkey.trans h⟩
  · obtain ⟨key, -, hkey⟩ := bind_eq_some_iff.mp h
    exact ⟨key, hkey⟩

theorem mem_of_loadedKey (hnms : OwnNames lower fm.fonts) (h : fm.loadedKey lower name = some key) :
    key ∈ fm.fonts := by
  rw [loadedKey] at h
  split at h
  · next hmem => exact some.inj h ▸ hmem
  · split at h
    · next font hfont =>
      split at hfont
      · obtain ⟨key', hkey'⟩ := lookup_of_getDefaultFont hfont
        exact some.inj h ▸ hnms key' font hkey'
      · cases hfont
    · exact mem_of_sortedKeys (List.mem_of_find?_eq_some h)

/-- What opening a font comes to: a key of the fonts that are there, a rasterised font under
its own name, or nothing where there are no fonts. -/
theorem openFont_cases (hnms : OwnNames lower fm.fonts) (out : Outside) (fontId : UInt32) (name : String) :
    (fm.rasterised lower out name = none ∧ ∃ key ∈ fm.fonts,
        fm.openFont lower out fontId name = (true, { fm with fontIds := fm.fontIds.insert fontId key })) ∨
      (∃ font, fm.rasterised lower out name = some font ∧
        fm.openFont lower out fontId name = (true, { fm with
          fonts := fm.fonts.insert (lower font.name) font,
          fontIds := fm.fontIds.insert fontId (lower font.name) })) ∨
      (fm.rasterised lower out name = none ∧ (∀ key, key ∉ fm.fonts) ∧
        fm.openFont lower out fontId name = (false, fm)) := by
  rw [openFont]
  cases hloaded : fm.loadedKey lower name with
  | some key =>
    refine .inl ⟨?_, key, mem_of_loadedKey hnms hloaded, rfl⟩
    rw [rasterised, hloaded]
  | none =>
    cases hraster : fm.rasterised lower out name with
    | some font => exact .inr (.inl ⟨font, rfl, rfl⟩)
    | none =>
      dsimp only
      cases hhead : (sortedKeys fm.fonts).head? with
      | some key => exact .inl ⟨rfl, key, mem_of_sortedKeys (List.mem_of_head? hhead), rfl⟩
      | none => exact .inr (.inr ⟨rfl, fun key => sortedKeys_eq_nil hhead, rfl⟩)

theorem getFont_eq_some : fm.getFont fontId = some f ↔
    ∃ key, fm.fontIds.lookup fontId = some key ∧ fm.fonts.lookup key = some f := bind_eq_some_iff

end FontManager

/-- The identifiers that are open are those that are recorded as such. -/
structure Inv (lower : String → String) (s : Session) : Prop where
  ownNames : OwnNames lower s.manager.fonts
  opened : ∀ fontId, s.opened.lookup fontId = none ↔ s.manager.fontIds.lookup fontId = none

theorem Inv.opened_of_lookup (h : Inv lower s) (hkey : s.manager.fontIds.lookup fontId = some key) :
    ∃ font, s.opened.lookup fontId = some font := by
  refine ne_none_iff_exists'.mp fun hnone => ?_
  rw [(h.opened fontId).mp hnone] at hkey
  cases hkey

theorem StaysOpen.same_of_getFont (h : StaysOpen s) {font : Option BitmapFont}
    (hopd : s.opened.lookup fontId = some font) (hfont : s.manager.getFont fontId = some g) :
    ∃ f, font = some f ∧ SameGlyphs f g := by
  obtain ⟨f, f', hf, hf', hsame⟩ := h.same fontId font hopd
  obtain rfl := some.inj (hf'.symm.trans hfont)
  exact ⟨f, hf, hsame⟩

theorem staysOpen_closeFont (h : StaysOpen s) (fontId : UInt32) :
    StaysOpen ⟨s.manager.closeFont fontId, s.opened.erase fontId⟩ where
  same := by
    intro otherId font hopd
    rw [lookup_erase_eq] at hopd
    split at hopd
    · cases hopd
    · next hne =>
      rw [FontManager.getFont, FontManager.closeFont, lookup_erase_eq, if_neg hne]
      exact h.same otherId font hopd
  keys := by
    intro otherId key hkey
    rw [FontManager.closeFont, lookup_erase_eq] at hkey
    split at hkey
    · cases hkey
    · exact h.keys otherId key hkey

theorem staysOpen_assign (h : StaysOpen s) (hkey : key ∈ s.manager.fonts) (fontId : UInt32) :
    StaysOpen ⟨{ s.manager with fontIds := s.manager.fontIds.insert fontId key },
      s.opened.insert fontId (s.manager.fonts.lookup key)⟩ where
  same := by
    intro otherId font hopd
    rw [FontManager.getFont, lookup_insert_eq]
    rw [lookup_insert_eq] at hopd
    split at hopd
    · next heq =>
      obtain ⟨f, hf⟩ := mem_iff.mp hkey
      rw [if_pos heq]
      exact ⟨f, f, (some.inj hopd).symm.trans hf, hf, .refl f⟩
    · next hne =>
      rw [if_neg hne]
      exact h.same otherId font hopd
  keys := by
    intro otherId key' hkey'
    rw [lookup_insert_eq] at hkey'
    split at hkey'
    · exact some.inj hkey' ▸ hkey
    · exact h.keys otherId key' hkey'

theorem staysOpen_rasterised_iff (hinv : Inv lower s) (h : StaysOpen s) (font : BitmapFont) (key : String)
    (fontId : UInt32) :
    StaysOpen ⟨{ s.manager with
        fonts := s.manager.fonts.insert key font, fontIds := s.manager.fontIds.insert fontId key },
      s.opened.insert fontId (some font)⟩ ↔
      ∀ otherId, otherId ≠ fontId → s.manager.fontIds.lookup otherId = some key →
        ∀ f, s.manager.getFont otherId = some f → SameGlyphs f font := by
  constructor
  · intro hnext otherId hne hkey f hf
    obtain ⟨before, hopd⟩ := hinv.opened_of_lookup hkey
    obtain ⟨g, hg, hsame⟩ := h.same_of_getFont hopd hf
    have hopd' : (s.opened.insert fontId (some font)).lookup otherId = some before := by
      rw [lookup_insert_eq, if_neg hne, hopd]
    have hfont : FontManager.getFont { s.manager with
        fonts := s.manager.fonts.insert key font, fontIds := s.manager.fontIds.insert fontId key } otherId =
        some font := by
      refine FontManager.getFont_eq_some.mpr ⟨key, ?_, lookup_insert _⟩
      rw [lookup_insert_eq, if_neg hne, hkey]
    obtain ⟨g', hg', hsame'⟩ := hnext.same_of_getFont hopd' hfont
    obtain rfl := some.inj (hg.symm.trans hg')
    exact hsame.symm.trans hsame'
  · intro hfinds
    constructor
    case same =>
      intro otherId before hopd
      rw [FontManager.getFont, lookup_insert_eq]
      rw [lookup_insert_eq] at hopd
      split at hopd
      · next heq =>
        rw [if_pos heq]
        exact ⟨font, font, (some.inj hopd).symm, lookup_insert _, .refl font⟩
      · next hne =>
        rw [if_neg hne]
        obtain ⟨f, f', hf, hf', hsame⟩ := h.same otherId before hopd
        obtain ⟨key', hkey', hlook⟩ := FontManager.getFont_eq_some.mp hf'
        rw [hkey', bind_some, lookup_insert_eq]
        by_cases hsamekey : key' = key
        · subst hsamekey
          exact ⟨f, font, hf, if_pos rfl, hsame.trans (hfinds otherId hne hkey' f' hf')⟩
        · exact ⟨f, f', hf, (if_neg hsamekey).trans hlook, hsame⟩
    case keys =>
      intro otherId key' hkey'
      rw [lookup_insert_eq] at hkey'
      rw [mem_insert]
      split at hkey'
      · exact .inl (some.inj hkey').symm
      · exact .inr (h.keys otherId key' hkey')

theorem staysOpen_reloadPaths_iff (hinv : Inv lower s) (h : StaysOpen s) (out : Outside) (paths : List String) :
    StaysOpen { s with manager := s.manager.reloadPaths lower out paths } ↔
      ∀ fontId key f, s.manager.fontIds.lookup fontId = some key → s.manager.getFont fontId = some f →
        ∃ f', (scanFontDirectories lower out paths).lookup key = some f' ∧ SameGlyphs f f' := by
  constructor
  · intro hnext fontId key f hkey hf
    obtain ⟨before, hopd⟩ := hinv.opened_of_lookup hkey
    obtain ⟨g, hg, hsame⟩ := h.same_of_getFont hopd hf
    obtain ⟨g', f', hg', hf', hsame'⟩ := hnext.same fontId before hopd
    obtain rfl := some.inj (hg.symm.trans hg')
    obtain ⟨key', hkey', hlook⟩ := FontManager.getFont_eq_some.mp hf'
    obtain rfl := some.inj (hkey.symm.trans hkey')
    exact ⟨f', hlook, hsame.symm.trans hsame'⟩
  · intro hfinds
    constructor
    case same =>
      intro fontId before hopd
      obtain ⟨f, f', hf, hf', hsame⟩ := h.same fontId before hopd
      obtain ⟨key, hkey, -⟩ := FontManager.getFont_eq_some.mp hf'
      obtain ⟨f'', hlook, hsame'⟩ := hfinds fontId key f' hkey hf'
      exact ⟨f, f'', hf, FontManager.getFont_eq_some.mpr ⟨key, hkey, hlook⟩, hsame.trans hsame'⟩
    case keys =>
      intro fontId key hkey
      obtain ⟨f, hf⟩ := mem_iff.mp (h.keys fontId key hkey)
      obtain ⟨f', hlook, -⟩ := hfinds fontId key f hkey (FontManager.getFont_eq_some.mpr ⟨key, hkey, hf⟩)
      exact mem_iff.mpr ⟨f', hlook⟩

section Steps

variable {outside : Outside}

theorem next_of_loaded {key : String} (fontId : UInt32) (name : String)
    (h : s.manager.openFont lower outside fontId name =
      (true, { s.manager with fontIds := s.manager.fontIds.insert fontId key })) :
    s.next lower ⟨.openFont fontId name, outside⟩ =
      ⟨{ s.manager with fontIds := s.manager.fontIds.insert fontId key },
        s.opened.insert fontId (s.manager.fonts.lookup key)⟩ := by
  rw [Session.next]
  dsimp only
  rw [h]
  dsimp only
  rw [if_pos rfl, FontManager.getFont, lookup_insert, bind_some]

theorem next_of_rasterised {font : BitmapFont} (fontId : UInt32) (name : String)
    (h : s.manager.openFont lower outside fontId name = (true, { s.manager with
      fonts := s.manager.fonts.insert key font, fontIds := s.manager.fontIds.insert fontId key })) :
    s.next lower ⟨.openFont fontId name, outside⟩ = ⟨{ s.manager with
        fonts := s.manager.fonts.insert key font, fontIds := s.manager.fontIds.insert fontId key },
      s.opened.insert fontId (some font)⟩ := by
  rw [Session.next]
  dsimp only
  rw [h]
  dsimp only
  rw [if_pos rfl, FontManager.getFont, lookup_insert, bind_some, lookup_insert]

theorem next_of_none (hinv : Inv lower s) (hs : StaysOpen s) (hemp : ∀ key, key ∉ s.manager.fonts)
    (fontId : UInt32) (name : String)
    (h : s.manager.openFont lower outside fontId name = (false, s.manager)) :
    s.next lower ⟨.openFont fontId name, outside⟩ = s := by
  have hcld (otherId) : s.manager.fontIds.lookup otherId = none := by
    cases hkey : s.manager.fontIds.lookup otherId with
    | none => rfl
    | some key => exact absurd (hs.keys otherId key hkey) (hemp key)
  have herase : s.opened.erase fontId = s.opened := by
    apply ext_lookup
    intro otherId
    rw [lookup_erase_eq]
    split
    · next heq => rw [heq, (hinv.opened fontId).mpr (hcld fontId)]
    · rfl
  rw [Session.next]
  dsimp only
  rw [h]
  dsimp only
  rw [if_neg Bool.false_ne_true, herase]

theorem opened_insert (h : Inv lower s) (fontId : UInt32) (key : String) (font : Option BitmapFont) (otherId : UInt32) :
    (s.opened.insert fontId font).lookup otherId = none ↔
      (s.manager.fontIds.insert fontId key).lookup otherId = none := by
  rw [lookup_insert_eq, lookup_insert_eq]
  split
  · exact iff_of_false nofun nofun
  · exact h.opened otherId

theorem Inv.next (h : Inv lower s) (hs : StaysOpen s) (step : Step) : Inv lower (s.next lower step) := by
  obtain ⟨call, outside⟩ := step
  cases call with
  | openFont fontId name =>
    obtain ⟨-, key, -, heq⟩ | ⟨font, -, heq⟩ | ⟨-, hemp, heq⟩ :=
      FontManager.openFont_cases h.ownNames outside fontId name
    · rw [next_of_loaded fontId name heq]
      exact ⟨h.ownNames, opened_insert h fontId key _⟩
    · rw [next_of_rasterised fontId name heq]
      exact ⟨h.ownNames.insert (.inl rfl), opened_insert h fontId _ _⟩
    · rwa [next_of_none h hs hemp fontId name heq]
  | closeFont fontId =>
    refine ⟨h.ownNames, fun otherId => ?_⟩
    rw [Session.next]
    dsimp only [FontManager.closeFont]
    rw [lookup_erase_eq, lookup_erase_eq]
    split
    · exact iff_of_true rfl rfl
    · exact h.opened otherId
  | reloadPaths paths => exact ⟨ownNames_scanFontDirectories outside paths, h.opened⟩

theorem staysOpen_next_iff (hinv : Inv lower s) (hs : StaysOpen s) (step : Step) :
    StaysOpen (s.next lower step) ↔ Finds lower s step := by
  obtain ⟨call, outside⟩ := step
  cases call with
  | openFont fontId name =>
    obtain ⟨hnone, key, hkey, heq⟩ | ⟨font, hfont, heq⟩ | ⟨hnone, hemp, heq⟩ :=
      FontManager.openFont_cases hinv.ownNames outside fontId name
    · rw [next_of_loaded fontId name heq]
      refine iff_of_true (staysOpen_assign hs hkey fontId) fun font hfont => ?_
      rw [hnone] at hfont
      cases hfont
    · rw [next_of_rasterised fontId name heq, staysOpen_rasterised_iff hinv hs]
      constructor
      · intro hfinds font' hfont'
        obtain rfl := some.inj (hfont.symm.trans hfont')
        exact hfinds
      · exact fun hfinds => hfinds font hfont
    · rw [next_of_none hinv hs hemp fontId name heq]
      refine iff_of_true hs fun font hfont => ?_
      rw [hnone] at hfont
      cases hfont
  | closeFont fontId => exact iff_of_true (staysOpen_closeFont hs fontId) trivial
  | reloadPaths paths => exact staysOpen_reloadPaths_iff hinv hs outside paths

end Steps

/-- Fonts stay open as long as every reload finds the open ones again, and no font is
rasterised in the place of a different one. -/
theorem staysOpen_iff (lower : String → String) (out : Outside) (steps : List Step) :
    (∀ done, done <+: steps → StaysOpen (done.foldl (Session.next lower) (.new lower out))) ↔
      ∀ done step, done ++ [step] <+: steps → Finds lower (done.foldl (Session.next lower) (.new lower out)) step := by
  have hinv : Inv lower (.new lower out) := ⟨ownNames_scanFontDirectories out _, fun _ => iff_of_true rfl rfl⟩
  refine Runs.foldl_stays_iff (I := Inv lower) (C := Finds lower) (fun s step h hs => h.next hs step)
    (fun s step h hs => staysOpen_next_iff h hs step) hinv ?_ steps
  constructor
  · intro fontId font hopd
    cases hopd
  · intro fontId key hkey
    cases hkey

def onlyFont : BitmapFont :=
  ⟨"6x13", ⟨0, 6, 6, 11, 2, 0⟩, ⟨0, 6, 6, 11, 2, 0⟩, 32, 32, 32, 11, 2, [⟨0, 6, 6, 11, 2, 0⟩],
    [⟨6, 13, List.replicate 13 0⟩], none, 0⟩

def oneFont : Outside := ⟨fun _ => ⟨[], [], [], [], [], [some onlyFont]⟩, [], fun _ _ => none⟩

/-- The font is opened, and the path is set to no directory at all. -/
def emptyPath : List Step := [⟨.openFont 1 "6x13", oneFont⟩, ⟨.reloadPaths [], oneFont⟩]

theorem emptyPath_loses : ¬StaysOpen (emptyPath.foldl (Session.next id) (.new id oneFont)) := by
  intro h
  have hkey : (emptyPath.foldl (Session.next id) (.new id oneFont)).manager.fontIds.lookup 1 = some "6x13" := by
    decide
  exact absurd (h.keys 1 "6x13" hkey) (by decide)

end X11Web.ClientFonts
