import EnvLint.Proofs.Report.Written

/-! # Where the characters of a report come from

    A report puts its texts into markup, with a few letters, signs and marks of
    its own, and lays them out in lines: lines are cut, tabs widened, cells filled
    and lines cropped.  None of this makes up a character: each one that is printed
    stands in a text of the report, or is one of those few, or a blank or an
    ellipsis that the layout needs.

    The statements are about a property of characters that all of these have.  One
    lemma for each piece of markup (`forall_rowMarkup`, `forall_summaryMarkup`) and
    for each step of the layout (`forall_wrap` for lines, `allChars_tableLines` for
    tables) says that the property is kept.  What a table does to its cells is said
    once for every property of runs (`forall_tableLines`), of characters or not. -/

namespace EnvLint

variable {p : Char → Prop}

/-! ## Clusters -/

namespace Text

/-- Extending the last cluster by characters brings in no others. -/
theorem forall_extendLast {cs : List Char} (hcs : ∀ c ∈ cs, p c) (gain : Nat)
    {done : List Cluster} (hdone : ∀ k ∈ done, ∀ c ∈ k.chars, p c) :
    ∀ k ∈ extendLast cs gain done, ∀ c ∈ k.chars, p c := by
  cases done with
  | nil => exact List.forall_mem_singleton.mpr hcs
  | cons last done =>
      rw [List.forall_mem_cons] at hdone
      refine List.forall_mem_cons.mpr ⟨?_, hdone.2⟩
      exact List.forall_mem_append.mpr ⟨hdone.1, hcs⟩

/-- Clusters hold characters of the text only. -/
theorem forall_clustersAfter {last : Option Char} {done : List Cluster} {cs : List Char}
    (hdone : ∀ k ∈ done, ∀ c ∈ k.chars, p c) (hcs : ∀ c ∈ cs, p c) :
    ∀ k ∈ clustersAfter last done cs, ∀ c ∈ k.chars, p c := by
  fun_induction clustersAfter last done cs with
  | case1 last done =>
      intro k hk
      exact hdone k (List.mem_reverse.mp hk)
  | case2 last done c h ih => exact ih (forall_extendLast hcs 0 hdone) (List.forall_mem_nil _)
  | case3 last done c h d rest ih =>
      simp only [List.forall_mem_cons] at hcs
      refine ih (forall_extendLast ?_ 0 hdone) hcs.2.2
      simp only [List.forall_mem_cons]
      exact ⟨hcs.1, hcs.2.1, List.forall_mem_nil _⟩
  | case4 last done c cs hjoin hselect gain ih =>
      rw [List.forall_mem_cons] at hcs
      exact ih (forall_extendLast (List.forall_mem_singleton.mpr hcs.1) gain hdone) hcs.2
  | case5 last done c cs hjoin hselect hzero ih =>
      rw [List.forall_mem_cons] at hcs
      exact ih (forall_extendLast (List.forall_mem_singleton.mpr hcs.1) 0 hdone) hcs.2
  | case6 last done c cs hjoin hselect hzero ih =>
      rw [List.forall_mem_cons] at hcs
      exact ih (List.forall_mem_cons.mpr ⟨List.forall_mem_singleton.mpr hcs.1, hdone⟩) hcs.2

/-- What is taken into some cells are characters of the text, and blanks for half of a wide
    one. -/
theorem forall_takeCells (hblank : p ' ') {width : Nat} {ks : List Cluster}
    (hks : ∀ k ∈ ks, ∀ c ∈ k.chars, p c) : ∀ c ∈ takeCells width ks, p c := by
  induction ks generalizing width with
  | nil => exact List.forall_mem_nil _
  | cons k ks ih =>
      rw [List.forall_mem_cons] at hks
      rw [takeCells]
      split
      · exact List.forall_mem_nil _
      · split
        · exact List.forall_mem_append.mpr ⟨hks.1, ih hks.2⟩
        · exact List.forall_mem_singleton.mpr hblank

theorem forall_replicate {c : Char} (h : p c) (n : Nat) : ∀ d ∈ List.replicate n c, p d := by
  intro d hd
  rw [(List.mem_replicate.mp hd).2]
  exact h

/-- Cutting or filling a text adds blanks only. -/
theorem forall_fitCells (hblank : p ' ') (width : Nat) {cs : List Char} (hcs : ∀ c ∈ cs, p c) :
    ∀ c ∈ fitCells width cs, p c := by
  rw [fitCells]
  split
  · exact List.forall_mem_append.mpr ⟨hcs, forall_replicate hblank _⟩
  · exact forall_takeCells hblank (forall_clustersAfter (List.forall_mem_nil _) hcs)

end Text

namespace Report

/-! ## Markup -/

/-- Escaping adds backslashes only. -/
theorem forall_escape (hslash : p '\\') {cs : List Char} (h : ∀ c ∈ cs, p c) :
    ∀ c ∈ Markup.escape cs, p c := by
  rw [Markup.escape_eq]
  refine List.forall_mem_append.mpr ⟨?_, Text.forall_replicate hslash _⟩
  intro c hc
  rcases (Markup.escaped_escapeTags (Nat.le_refl _)).mem_of_mem hc with rfl | hc
  · exact hslash
  · exact h c hc

/-- The characters that reports put into their markup: letters, signs, the marks of tags,
    and the colon of positions. -/
def markupLetters : List Char := ownLetters ++ signLetters ++ ['[', '/', ']', '\\', ':']

theorem mem_markupLetters {c : Char} (h : c ∈ ownLetters) : c ∈ markupLetters :=
  List.mem_append_left _ (List.mem_append_left _ h)

/-- A tag around a text brings the letters of the markup only. -/
theorem forall_tagged (hown : ∀ c ∈ markupLetters, p c) {tag : String} (htag : tag ∈ reportTags)
    {cs : List Char} (h : ∀ c ∈ cs, p c) : ∀ c ∈ tagged tag cs, p c := by
  have hletters : ∀ c ∈ tag.toList, p c :=
    fun c hc => hown c (mem_markupLetters (mem_ownLetters_of_tag htag hc))
  have hopen : p '[' := hown _ (by decide)
  have hclose : p ']' := hown _ (by decide)
  have hslash : p '/' := hown _ (by decide)
  simp only [tagged, String.toList_append, List.forall_mem_append]
  refine ⟨⟨⟨⟨?_, hletters⟩, ?_⟩, h⟩, ⟨?_, hletters⟩, ?_⟩
  · exact List.forall_mem_singleton.mpr hopen
  · exact List.forall_mem_singleton.mpr hclose
  · exact List.forall_mem_cons.mpr ⟨hopen, List.forall_mem_singleton.mpr hslash⟩
  · exact List.forall_mem_singleton.mpr hclose

theorem forall_path (hown : ∀ c ∈ markupLetters, p c) {path : Path}
    (h : ∀ c ∈ path.text.toList, p c) :
    ∀ c ∈ tagged "underline" (Markup.escape path.text.toList), p c :=
  forall_tagged hown (by simp [reportTags]) (forall_escape (hown _ (by decide)) h)

theorem forall_clean (hown : ∀ c ∈ markupLetters, p c) :
    ∀ c ∈ "  ".toList ++ tagged "green" "clean".toList, p c := by
  have hword : ∀ word ∈ ownWords, ∀ c ∈ word.toList, p c :=
    fun word hword c hc => hown c (mem_markupLetters (mem_ownLetters_of_word hword c hc))
  refine List.forall_mem_append.mpr ⟨hword _ (by simp [ownWords]), ?_⟩
  exact forall_tagged hown (by simp [reportTags]) (hword _ (by simp [ownWords]))

/-- A position consists of letters of the markup. -/
theorem forall_position (hown : ∀ c ∈ markupLetters, p c) (l : Location) :
    ∀ c ∈ (position l).toList, p c := by
  intro c hc
  rcases mem_position hc with rfl | hletter
  · exact hown _ (by decide)
  · exact hown c (mem_markupLetters hletter)

/-- The markup of a diagnostic holds its message and rule name, and letters of reports. -/
theorem forall_rowMarkup (hown : ∀ c ∈ markupLetters, p c) {d : Diagnostic}
    (hmessage : ∀ c ∈ d.message.toList, p c) (hrule : ∀ c ∈ d.ruleId.toList, p c) :
    ∀ cs ∈ rowMarkup d, ∀ c ∈ cs, p c := by
  simp only [rowMarkup, List.forall_mem_cons]
  refine ⟨forall_position hown _, forall_tagged hown (severityTag_mem d.severity) ?_, ?_, hrule,
    List.forall_mem_nil _⟩
  · exact fun c hc => hown c (mem_markupLetters (mem_ownLetters_of_label hc))
  · exact forall_escape (hown _ (by decide)) hmessage

theorem forall_sign (hown : ∀ c ∈ markupLetters, p c) (r : LintResult) :
    ∀ c ∈ (summarySign r).2.toList, p c := by
  intro c hc
  have hsign := (tag_and_sign (summarySign_mem r)).2 c hc
  exact hown c (List.mem_append_left _ (List.mem_append_right _ hsign))

theorem forall_summary (hown : ∀ c ∈ markupLetters, p c) (r : LintResult) :
    ∀ c ∈ (summary r).toList, p c :=
  fun c hc => hown c (mem_markupLetters (mem_ownLetters_of_summary hc))

/-- The markup of a summary holds letters of reports only. -/
theorem forall_summaryMarkup (hown : ∀ c ∈ markupLetters, p c) (r : LintResult) :
    ∀ c ∈ tagged (summarySign r).1
      ((summarySign r).2.toList ++ Markup.escape (summary r).toList), p c := by
  refine forall_tagged hown (tag_and_sign (summarySign_mem r)).1 ?_
  exact List.forall_mem_append.mpr
    ⟨forall_sign hown r, forall_escape (hown _ (by decide)) (forall_summary hown r)⟩

/-! ## Lines of a text -/

namespace StyledText

variable {r : StyledText}

theorem forall_slice (h : ∀ c ∈ r.chars, p c) (start stop : Nat) :
    ∀ c ∈ (r.slice start stop).chars, p c :=
  fun c hc => h c (List.mem_of_mem_take (List.mem_of_mem_drop hc))

theorem forall_cutFrom (h : ∀ c ∈ r.chars, p c) (start : Nat) (places : List Nat) :
    ∀ part ∈ r.cutFrom start places, ∀ c ∈ part.chars, p c := by
  induction places generalizing start with
  | nil => exact List.forall_mem_singleton.mpr (forall_slice h _ _)
  | cons place places ih =>
      exact List.forall_mem_cons.mpr ⟨forall_slice h start place, ih place⟩

theorem forall_cutAt (h : ∀ c ∈ r.chars, p c) (places : List Nat) :
    ∀ part ∈ r.cutAt places, ∀ c ∈ part.chars, p c := by
  cases places with
  | nil => exact List.forall_mem_singleton.mpr h
  | cons place places => exact forall_cutFrom h 0 _

theorem forall_lines (h : ∀ c ∈ r.chars, p c) : ∀ line ∈ r.lines, ∀ c ∈ line.chars, p c := by
  rw [lines]
  split
  · rw [List.forall_mem_map]
    intro range _
    exact forall_slice h _ _
  · exact List.forall_mem_singleton.mpr h

theorem forall_append {a b : StyledText} (ha : ∀ c ∈ a.chars, p c) (hb : ∀ c ∈ b.chars, p c) :
    ∀ c ∈ (a.append b).chars, p c :=
  List.forall_mem_append.mpr ⟨ha, hb⟩

/-- A tab that is widened becomes blanks. -/
theorem forall_widenTab (hblank : p ' ') (start : Nat) (h : ∀ c ∈ r.chars, p c) :
    ∀ c ∈ (r.widenTab start).chars, p c := by
  rw [widenTab]
  split
  · refine List.forall_mem_append.mpr ⟨List.forall_mem_append.mpr ⟨?_, ?_⟩, ?_⟩
    · exact fun c hc => h c (List.dropLast_subset _ hc)
    · exact List.forall_mem_singleton.mpr hblank
    · exact Text.forall_replicate hblank _
  · exact h

theorem forall_joinTabs (hblank : p ' ') {done : StyledText} (start : Nat)
    {pieces : List StyledText} (hdone : ∀ c ∈ done.chars, p c)
    (hpieces : ∀ piece ∈ pieces, ∀ c ∈ piece.chars, p c) :
    ∀ c ∈ (joinTabs done start pieces).chars, p c := by
  induction pieces generalizing done start with
  | nil => exact hdone
  | cons piece pieces ih =>
      rw [List.forall_mem_cons] at hpieces
      exact ih _ (forall_append hdone (forall_widenTab hblank start hpieces.1)) hpieces.2

/-- Widening tabs adds blanks only. -/
theorem forall_expandTabs (hblank : p ' ') (h : ∀ c ∈ r.chars, p c) :
    ∀ c ∈ r.expandTabs.chars, p c := by
  rw [expandTabs]
  split
  · exact forall_joinTabs hblank 0 (List.forall_mem_nil _) (forall_cutFrom h 0 _)
  · exact h

@[simp] theorem chars_withChars (r : StyledText) (cs : List Char) : (r.withChars cs).chars = cs := by
  rw [withChars]
  split
  · rfl
  · rfl

theorem forall_trimBeyond (width : Nat) (h : ∀ c ∈ r.chars, p c) :
    ∀ c ∈ (r.trimBeyond width).chars, p c := by
  rw [trimBeyond]
  split
  · rw [chars_withChars]
    exact fun c hc => h c (List.mem_of_mem_take hc)
  · exact h

/-- Cropping adds blanks or an ellipsis only. -/
theorem forall_crop (hblank : p ' ') (hdots : p '…') (overflow : Overflow) (width : Nat)
    (h : ∀ c ∈ r.chars, p c) : ∀ c ∈ (r.crop overflow width).chars, p c := by
  cases overflow with
  | fold =>
      rw [crop]
      split
      · rw [chars_withChars]
        exact Text.forall_fitCells hblank _ h
      · exact h
  | ellipsis =>
      rw [crop]
      split
      · rw [chars_withChars]
        exact List.forall_mem_append.mpr
          ⟨Text.forall_fitCells hblank _ h, List.forall_mem_singleton.mpr hdots⟩
      · exact h

theorem forall_pad (hblank : p ' ') (width : Nat) (h : ∀ c ∈ r.chars, p c) :
    ∀ c ∈ (r.pad width).chars, p c :=
  List.forall_mem_append.mpr ⟨h, Text.forall_replicate hblank _⟩

/-- **The lines of a text** hold its characters, blanks and ellipses. -/
theorem forall_wrap (hblank : p ' ') (hdots : p '…') (overflow : Overflow) (width : Nat)
    (h : ∀ c ∈ r.chars, p c) : ∀ part ∈ r.wrap overflow width, ∀ c ∈ part.chars, p c := by
  intro part hpart
  rw [wrap, List.mem_flatMap] at hpart
  obtain ⟨line, hline, hpart⟩ := hpart
  have hwide := forall_expandTabs hblank (forall_lines h line hline)
  obtain ⟨piece, hpiece, rfl⟩ := List.mem_map.mp hpart
  refine forall_crop hblank hdots overflow width (forall_trimBeyond width ?_)
  cases overflow with
  | fold => exact forall_cutAt hwide _ piece hpiece
  | ellipsis =>
      cases List.mem_singleton.mp hpiece
      exact hwide

end StyledText

/-! ## Printed lines -/

/-- Places do not matter to what does not look at them. -/
theorem flatMap_zipIdx {α β : Type} (f : α → List β) (xs : List α) (start : Nat) :
    (xs.zipIdx start).flatMap (fun x => f x.1) = xs.flatMap f := by
  conv_rhs => rw [← List.zipIdx_map_fst start xs, List.flatMap_map]

section Runs

variable {P : TextRun → Prop}

/-- A cropped line has runs of the line, the last of them cut at most. -/
theorem forall_cropLine
    (hcut : ∀ s, P s → ∀ width, P { s with chars := Text.fitCells width s.chars })
    {line : Line} (h : ∀ s ∈ line, P s) (width : Nat) : ∀ s ∈ cropLine width line, P s := by
  induction line generalizing width with
  | nil => exact List.forall_mem_nil _
  | cons s line ih =>
      obtain ⟨hs, hline⟩ := List.forall_mem_cons.mp h
      rw [cropLine]
      split
      · exact List.forall_mem_cons.mpr ⟨hs, ih hline _⟩
      · split
        · exact List.forall_mem_nil _
        · exact List.forall_mem_singleton.mpr (hcut s hs width)

/-- Cells beside each other have the runs that they have alone. -/
theorem forall_joinCells {height : Nat} {cells : List (List Line)}
    (h : ∀ lines ∈ cells, ∀ line ∈ lines, ∀ s ∈ line, P s) :
    ∀ line ∈ joinCells height cells, ∀ s ∈ line, P s := by
  induction height generalizing cells with
  | zero => exact List.forall_mem_nil _
  | succ height ih =>
      refine List.forall_mem_cons.mpr ⟨?_, ih ?_⟩
      · intro s hs
        obtain ⟨lines, hlines, hs⟩ := List.mem_flatMap.mp hs
        cases lines with
        | nil => exact absurd hs List.not_mem_nil
        | cons line lines => exact h _ hlines line List.mem_cons_self s hs
      · rw [List.forall_mem_map]
        exact fun lines hlines line hline => h lines hlines line (List.mem_of_mem_drop hline)

/-- The lines of a row have the runs of its cells, and blanks in the styles of the columns. -/
theorem forall_rowLines {columns : List (Column × Nat)} {row : List StyledText}
    (hblanks : ∀ c ∈ columns, P (.blanks c.2 c.1.style))
    (hcells : ∀ c ∈ columns, ∀ cell ∈ row, ∀ line ∈ cellLines c.1 c.2 cell, ∀ s ∈ line, P s) :
    ∀ line ∈ rowLines columns row, ∀ s ∈ line, P s := by
  rw [rowLines]
  refine forall_joinCells ?_
  rw [List.forall_mem_map]
  intro filled hfilled
  obtain ⟨hcolumn, hlines⟩ := List.of_mem_zip hfilled
  refine List.forall_mem_append.mpr ⟨?_, ?_⟩
  · -- the lines to be filled are those of one cell
    obtain ⟨placed, hplaced, hlines⟩ := List.mem_map.mp hlines
    obtain ⟨hplace, hcell⟩ := List.of_mem_zip hplaced
    rw [← hlines]
    exact hcells _ hplace _ hcell
  · intro line hline
    rw [(List.mem_replicate.mp hline).2]
    exact List.forall_mem_singleton.mpr (hblanks _ hcolumn)

/-- **The lines of a table** have the runs of its cells, and blanks in the styles of the
    columns. -/
theorem forall_tableLines (limit : Nat) {columns : List Column} {rows : List (List StyledText)}
    (hblanks : ∀ column ∈ columns, ∀ n, P (.blanks n column.style))
    (hcells : ∀ column ∈ columns, ∀ row ∈ rows, ∀ cell ∈ row, ∀ width,
      ∀ line ∈ cellLines column width cell, ∀ s ∈ line, P s) :
    ∀ line ∈ tableLines limit columns rows, ∀ s ∈ line, P s := by
  intro line hline
  obtain ⟨row, hrow, hline⟩ := List.mem_flatMap.mp hline
  refine forall_rowLines ?_ ?_ line hline
  · exact fun c hc => hblanks _ (List.of_mem_zip hc).1 _
  · exact fun c hc cell hcell => hcells _ (List.of_mem_zip hc).1 row hrow cell hcell _

end Runs

/-- A line all of whose characters have a property. -/
def AllChars (p : Char → Prop) (line : Line) : Prop :=
  ∀ s ∈ line, ∀ c ∈ s.chars, p c

theorem allChars_runs {r : StyledText} (h : ∀ c ∈ r.chars, p c) : AllChars p r.runs := by
  rw [AllChars, StyledText.runs, List.forall_mem_map]
  intro edge _ c hc
  exact h c (List.mem_of_mem_take (List.mem_of_mem_drop hc))

/-- Cropping a line brings in blanks at most. -/
theorem allChars_cropLine (hblank : p ' ') {line : Line} (h : AllChars p line) (width : Nat) :
    AllChars p (cropLine width line) :=
  forall_cropLine (fun _ hs width => Text.forall_fitCells hblank width hs) h width

/-! ## Tables -/

/-- The lines of a cell hold its characters, blanks and the mark of what is cut off. -/
theorem allChars_cellLines (hblank : p ' ') (hdots : p '…') (column : Column) (width : Nat)
    {cell : StyledText} (h : ∀ c ∈ cell.chars, p c) :
    ∀ line ∈ cellLines column width cell, AllChars p line := by
  rw [cellLines]
  split
  · exact List.forall_mem_nil _
  · rw [List.forall_mem_map]
    intro part hpart
    have hpart := StyledText.forall_wrap hblank hdots _ _ h part hpart
    rw [AllChars, List.forall_mem_map]
    show AllChars p (TextRun.blanks leftBlanks .plain :: _ ++ [_])
    refine List.forall_mem_append.mpr ⟨List.forall_mem_cons.mpr ⟨?_, ?_⟩, ?_⟩
    · exact Text.forall_replicate hblank _
    · exact allChars_runs (StyledText.forall_pad hblank _ hpart)
    · exact List.forall_mem_singleton.mpr (Text.forall_replicate hblank _)

/-- **The lines of a table** hold the characters of its cells, blanks and ellipses. -/
theorem allChars_tableLines (hblank : p ' ') (hdots : p '…') (limit : Nat)
    (columns : List Column) {rows : List (List StyledText)}
    (h : ∀ row ∈ rows, ∀ cell ∈ row, ∀ c ∈ cell.chars, p c) :
    ∀ line ∈ tableLines limit columns rows, AllChars p line := by
  refine forall_tableLines limit ?_ ?_
  · exact fun _ _ n => Text.forall_replicate hblank n
  · intro column _ row hrow cell hcell width
    exact allChars_cellLines hblank hdots column width (h row hrow cell hcell)

end Report

end EnvLint
