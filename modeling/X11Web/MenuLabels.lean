import X11Web.Menus

namespace X11Web.MenuLabels

open Menus List

section Marks

/-- A character of a label, with the mark of the mnemonic before it or without. -/
def writeMarked (piece : Bool × Char) : List Char :=
  if piece.1 then ['_', piece.2] else if piece.2 = '_' then ['_', '_'] else [piece.2]

theorem stripMarks_writeMarked (piece : Bool × Char) (rest : List Char) :
    stripMarks (writeMarked piece ++ rest) = piece.2 :: stripMarks rest := by
  obtain ⟨marked, c⟩ := piece
  have hplain {c : Char} (hc : c ≠ '_') (rest : List Char) : stripMarks (c :: rest) = c :: stripMarks rest :=
    stripMarks.eq_4 c rest (fun _ h => absurd h hc) hc
  by_cases hc : c = '_'
  · subst c
    cases marked <;> rfl
  · cases marked with
    | false =>
      rw [writeMarked, if_neg Bool.false_ne_true, if_neg hc]
      exact hplain hc rest
    | true =>
      have hmark : stripMarks ('_' :: c :: rest) = stripMarks (c :: rest) :=
        stripMarks.eq_3 (c :: rest) fun _ h => hc (List.cons.inj h).1
      exact hmark.trans (hplain hc rest)

/-- A label is shown without its marks, whatever stands for an underscore. -/
theorem stripUnderscores_marked (pieces : List (Bool × Char)) :
    stripUnderscores (String.ofList (pieces.flatMap writeMarked)) = String.ofList (pieces.map Prod.snd) := by
  rw [stripUnderscores, String.toList_ofList]
  congr 1
  induction pieces with
  | nil => rfl
  | cons piece pieces ih => rw [flatMap_cons, stripMarks_writeMarked, ih, map_cons]

end Marks

section Accelerators

/-- A piece of an accelerator: a text outside the angle brackets, or a word in them. -/
inductive Chunk
  | plain (text : List Char)
  | word (body : List Char)

def bracket (body : List Char) : List Char := '<' :: body ++ ['>']

def Chunk.text : Chunk → List Char
  | .plain text => text
  | .word body => bracket body

def Chunk.WellFormed : Chunk → Prop
  | .plain text => '<' ∉ text
  | .word body => '<' ∉ body ∧ '>' ∉ body

/-- A piece as the frontend shows it, by a table of what words stand for. -/
def Chunk.display (table : List (List Char × List Char)) : Chunk → List Char
  | .plain text => text
  | .word body => ((table.find? fun names => names.1 = body).map Prod.snd).getD (bracket body)

variable {body body' rep rest text : List Char} {chunks : List Chunk} {table : List (List Char × List Char)}

theorem takeWhile_word (hbody : '>' ∉ body) : (body ++ '>' :: rest).takeWhile (· != '>') = body := by
  have hplain : ∀ c ∈ body, (c != '>') = true := fun c hc => bne_iff_ne.mpr fun h => hbody (h ▸ hc)
  rw [takeWhile_append_of_pos hplain]
  exact append_nil body

theorem bracket_unique (hbody : '>' ∉ body) (hbody' : '>' ∉ body') (hpre : bracket body <+: bracket body' ++ rest) :
    body = body' := by
  obtain ⟨rest', heq⟩ := (cons_prefix_cons.mp hpre).2
  have heq : body ++ ['>'] ++ rest' = body' ++ ['>'] ++ rest := heq
  rw [append_assoc, append_assoc] at heq
  rw [← @takeWhile_word body rest' hbody, ← @takeWhile_word body' rest hbody']
  exact congrArg (List.takeWhile (· != '>')) heq

theorem replaceAll_plain (htext : '<' ∉ text) :
    replaceAll (bracket body) rep (text ++ rest) = text ++ replaceAll (bracket body) rep rest := by
  induction text with
  | nil => rfl
  | cons c text ih =>
    rw [mem_cons, not_or] at htext
    rw [cons_append, replaceAll, if_neg, ih htext.2, cons_append]
    exact fun hpre => htext.1 (cons_prefix_cons.mp hpre).1

theorem replaceAll_same :
    replaceAll (bracket body) rep (bracket body ++ rest) = rep ++ replaceAll (bracket body) rep rest := by
  have hall : bracket body ++ rest = '<' :: (body ++ ['>'] ++ rest) := rfl
  have hlen : (bracket body).length - 1 = (body ++ ['>']).length := rfl
  rw [hall, replaceAll, if_pos (hall ▸ prefix_append _ _), hlen, drop_left]

theorem replaceAll_other (hbody : '>' ∉ body) (hbody' : '<' ∉ body' ∧ '>' ∉ body') (hne : body ≠ body') :
    replaceAll (bracket body) rep (bracket body' ++ rest) = bracket body' ++ replaceAll (bracket body) rep rest := by
  have hall : bracket body' ++ rest = '<' :: (body' ++ ['>'] ++ rest) := rfl
  have htail : '<' ∉ body' ++ ['>'] := by
    rw [mem_append, not_or]
    exact ⟨hbody'.1, by decide⟩
  have hoth : ¬bracket body <+: '<' :: (body' ++ ['>'] ++ rest) :=
    fun hpre => hne (bracket_unique hbody hbody'.2 hpre)
  rw [hall, replaceAll, if_neg hoth, replaceAll_plain htail]
  rfl

def Chunk.replace (names : List Char × List Char) : Chunk → Chunk
  | .plain text => .plain text
  | .word body => if names.1 = body then .plain names.2 else .word body

theorem wellFormed_replace {names : List Char × List Char} {chunk : Chunk} (hrep : '<' ∉ names.2)
    (hchk : chunk.WellFormed) : (chunk.replace names).WellFormed := by
  cases chunk with
  | plain text => exact hchk
  | word body =>
    rw [Chunk.replace]
    split
    · exact hrep
    · exact hchk

theorem replaceAll_chunks {names : List Char × List Char} (hnms : '>' ∉ names.1)
    (hchks : ∀ chunk ∈ chunks, chunk.WellFormed) :
    replaceAll (bracket names.1) names.2 (chunks.flatMap Chunk.text) =
      (chunks.map (Chunk.replace names)).flatMap Chunk.text := by
  induction chunks with
  | nil => rw [flatMap_nil, replaceAll, map_nil, flatMap_nil]
  | cons chunk chunks ih =>
    have hchk := hchks chunk mem_cons_self
    rw [flatMap_cons, map_cons, flatMap_cons, ← ih fun c hc => hchks c (mem_cons_of_mem _ hc)]
    cases chunk with
    | plain text => exact replaceAll_plain hchk
    | word body =>
      by_cases hsame : names.1 = body
      · rw [Chunk.replace, if_pos hsame, Chunk.text, ← hsame]
        exact replaceAll_same
      · rw [Chunk.replace, if_neg hsame]
        exact replaceAll_other hnms hchk hsame

theorem display_replace (names : List Char × List Char) (table : List (List Char × List Char)) (chunk : Chunk) :
    (chunk.replace names).display table = chunk.display (names :: table) := by
  cases chunk with
  | plain text => rfl
  | word body =>
    by_cases hsame : names.1 = body
    · simp [Chunk.replace, Chunk.display, hsame]
    · simp [Chunk.replace, Chunk.display, hsame]

/-- Replacing the words one after the other in the whole text replaces each piece by itself. -/
theorem foldl_replaceAll (htable : ∀ names ∈ table, '>' ∉ names.1 ∧ '<' ∉ names.2)
    (hchks : ∀ chunk ∈ chunks, chunk.WellFormed) :
    table.foldl (fun out names => replaceAll (bracket names.1) names.2 out) (chunks.flatMap Chunk.text) =
      chunks.flatMap (Chunk.display table) := by
  induction table generalizing chunks with
  | nil =>
    rw [foldl_nil]
    congr 1
  | cons names table ih =>
    obtain ⟨hname, hrep⟩ := htable names mem_cons_self
    rw [foldl_cons, replaceAll_chunks hname hchks,
      ih fun names hnms => htable names (mem_cons_of_mem _ hnms)]
    · rw [flatMap_map]
      congr 1
      funext chunk
      exact display_replace names table chunk
    · intro chunk hchk
      obtain ⟨chunk, hmem, rfl⟩ := mem_map.mp hchk
      exact wellFormed_replace hrep (hchks chunk hmem)

def modifierNames : List (List Char × List Char) :=
  modifiers.map fun names => (names.1.toList.tail.dropLast, names.2.toList)

theorem prettifyAccel_chunks (hchks : ∀ chunk ∈ chunks, chunk.WellFormed) :
    prettifyAccel (String.ofList (chunks.flatMap Chunk.text)) =
      String.ofList (capitaliseLast (chunks.flatMap (Chunk.display modifierNames))) := by
  have htable : ∀ names ∈ modifierNames, '>' ∉ names.1 ∧ '<' ∉ names.2 := by decide
  rw [← foldl_replaceAll htable hchks, prettifyAccel, String.toList_ofList]
  rfl

theorem ctrl_shift_s : prettifyAccel "<Primary><Shift>s" =
    String.ofList (capitaliseLast ([.word ['P', 'r', 'i', 'm', 'a', 'r', 'y'], .word ['S', 'h', 'i', 'f', 't'],
      .plain ['s']].flatMap (Chunk.display modifierNames))) :=
  @prettifyAccel_chunks [.word ['P', 'r', 'i', 'm', 'a', 'r', 'y'], .word ['S', 'h', 'i', 'f', 't'], .plain ['s']]
    (by simp [Chunk.WellFormed])

end Accelerators

end X11Web.MenuLabels
