import EnvLint.Proofs.Report.Layout
import EnvLint.Proofs.Report.Shown

/-! # Texts shown literally

    When a report without colour shows paths, messages and rule names as they
    are.

    * `console_of_fits`: where no line has to be wrapped or cropped, the report is
      the paths, rows and summary that its markup shows;
    * `eq_of_reportText` and `literal_of_rowText`: the texts can be read back from
      their lines, so a report that looks literal holds texts that show themselves;
    * `console_literal_iff`: paths and messages are escaped, and only backslashes
      before brackets or at the end can get in the way.  A rule name is not, so
      it must hold no markup. -/

namespace EnvLint.Report

open Text (Narrow)
open Markup (shown)

/-! ## Reports with room -/

/-- What is said about a file, from the cells of its rows. -/
def findingText (row : Diagnostic → List (List Char)) (f : FileResult) : List (List Char) :=
  if f.clean then ["  clean".toList]
  else tableText columns.length (f.diagnostics.map row)

/-- The lines about a file: its path, what was found and an empty line. -/
def fileText (path : FileResult → List Char) (row : Diagnostic → List (List Char))
    (f : FileResult) : List (List Char) :=
  path f :: findingText row f ++ [[]]

/-- The lines of a report. -/
def reportText (path : FileResult → List Char) (row : Diagnostic → List (List Char))
    (showClean : Bool) (r : LintResult) : List (List Char) :=
  (listed showClean r).flatMap (fileText path row)
    ++ [(summarySign r).2.toList ++ (summary r).toList]

/-- The cells of a diagnostic, literally. -/
def literalRow (d : Diagnostic) : List (List Char) :=
  [(position d.location).toList, d.severity.label.toList, d.message.toList, d.ruleId.toList]

/-- The lines of a report that shows every text literally. -/
def literalText (showClean : Bool) (r : LintResult) : List (List Char) :=
  reportText (fun f => f.path.text.toList) literalRow showClean r

/-- A path as its markup shows it. -/
def shownPath (f : FileResult) : List Char :=
  shown (tagged "underline" (Markup.escape f.path.text.toList))

/-- The cells of a diagnostic as their markup shows them. -/
def shownRow (d : Diagnostic) : List (List Char) := (rowMarkup d).map shown

/-- The lines of a report as its markup shows them. -/
def shownText (showClean : Bool) (r : LintResult) : List (List Char) :=
  reportText shownPath shownRow showClean r

/-- A width in which no line of a report is wrapped or cropped: all that its markup shows
    fits. -/
def Roomy (width : Nat) (showClean : Bool) (r : LintResult) : Prop :=
  ∀ line ∈ shownText showClean r, line.length ≤ width

/-- A text of printable characters of ASCII, none of them a colon: there is no code for a
    picture in it. -/
def Printable (text : String) : Prop :=
  ∀ c ∈ text.toList, 32 ≤ c.toNat ∧ c.toNat < 127 ∧ c ≠ ':'

/-- Whether a text is printable can be seen character by character. -/
instance (text : String) : Decidable (Printable text) :=
  decidable_of_iff
    (text.toList.all (fun c => decide (32 ≤ c.toNat ∧ c.toNat < 127 ∧ c ≠ ':')) = true)
    (by simp [Printable])

/-- A file whose path, messages and rule names are printable. -/
def PrintableFile (f : FileResult) : Prop :=
  Printable f.path.text ∧ ∀ d ∈ f.diagnostics, Printable d.message ∧ Printable d.ruleId

/-- Printable characters are narrow. -/
theorem Printable.narrow {text : String} (h : Printable text) : ∀ c ∈ text.toList, Narrow c := by
  intro c hc
  obtain ⟨hlow, hhigh, -⟩ := h c hc
  exact Text.narrow_of_printable hlow hhigh

theorem Printable.colonless {text : String} (h : Printable text) : ':' ∉ text.toList :=
  fun hmem => (h _ hmem).2.2 rfl

theorem narrow_own {c : Char} (h : c ∈ ownLetters) : Narrow c :=
  Markup.narrow_markupLetters c (mem_markupLetters h)

/-- The cells of a printable diagnostic are narrow as they are shown. -/
theorem narrow_shownRow {d : Diagnostic} (hmessage : Printable d.message)
    (hrule : Printable d.ruleId) : ∀ text ∈ shownRow d, ∀ c ∈ text, Narrow c := by
  rw [shownRow, List.forall_mem_map]
  intro cs hcs c hc
  exact forall_rowMarkup Markup.narrow_markupLetters hmessage.narrow hrule.narrow cs hcs c
    (Markup.mem_of_mem_shown hc)

theorem shown_clean : shown ("  ".toList ++ tagged "green" "clean".toList) = "  clean".toList := by
  decide +kernel

theorem narrow_summary (r : LintResult) :
    ∀ c ∈ (summarySign r).2.toList ++ (summary r).toList, Narrow c :=
  List.forall_mem_append.mpr
    ⟨forall_sign Markup.narrow_markupLetters r, forall_summary Markup.narrow_markupLetters r⟩

/-! ### Colons -/

/-- Escaping brings in no colon. -/
theorem colonless_escape {cs : List Char} (h : ':' ∉ cs) : ':' ∉ Markup.escape cs := by
  have hall : ∀ c ∈ Markup.escape cs, c ≠ ':' :=
    forall_escape (by decide) fun c hc => ne_of_mem_of_not_mem hc h
  exact fun hmem => hall _ hmem rfl

/-- The tags of reports bring no colon. -/
theorem count_tagged_le {tag : String} (htag : tag ∈ reportTags) {cs : List Char}
    (h : ':' ∉ cs) : (tagged tag cs).count ':' ≤ 1 := by
  have hname : ':' ∉ tag.toList :=
    fun hmem => absurd (mem_ownLetters_of_tag htag hmem) (by decide)
  have hnone : ':' ∉ tagged tag cs := by
    simp [tagged, hname, h]
  rw [List.count_eq_zero.mpr hnone]
  exact Nat.zero_le 1

/-- The markup of a cell holds one colon at most, that of a position, and so no code for a
    picture. -/
theorem count_rowMarkup_le {d : Diagnostic} (hmessage : Printable d.message)
    (hrule : Printable d.ruleId) : ∀ cs ∈ rowMarkup d, cs.count ':' ≤ 1 := by
  have hlabel : ':' ∉ d.severity.label.toList :=
    fun hmem => absurd (mem_ownLetters_of_label hmem) (by decide)
  simp only [rowMarkup, List.forall_mem_cons]
  refine ⟨count_position_le d.location, count_tagged_le (severityTag_mem d.severity) hlabel, ?_, ?_,
    List.forall_mem_nil _⟩
  · rw [List.count_eq_zero.mpr (colonless_escape hmessage.colonless)]
    exact Nat.zero_le 1
  · rw [List.count_eq_zero.mpr hrule.colonless]
    exact Nat.zero_le 1

/-- The markup of the summary holds one colon at most. -/
theorem count_summaryMarkup_le (r : LintResult) :
    (tagged (summarySign r).1
      ((summarySign r).2.toList ++ Markup.escape (summary r).toList)).count ':' ≤ 1 := by
  obtain ⟨htag, hsign⟩ := tag_and_sign (summarySign_mem r)
  have hwords : ':' ∉ (summary r).toList :=
    fun hmem => absurd (mem_ownLetters_of_summary hmem) (by decide)
  have hmark : ':' ∉ (summarySign r).2.toList := fun hmem => absurd (hsign _ hmem) (by decide)
  refine count_tagged_le htag ?_
  exact fun hmem => (List.mem_append.mp hmem).elim hmark (colonless_escape hwords)

/-! ### Layout -/

section Host

variable [Host]

/-- Markup without codes for pictures is read as what it shows. -/
theorem chars_readMarkup {cs : List Char} (h : Readable cs) (hcolons : cs.count ':' ≤ 1) :
    (readMarkup cs).map StyledText.chars = .ok (shown cs) := by
  obtain ⟨text, htext⟩ := h
  rw [readMarkup, htext, ← Markup.chars_render_of_count hcolons htext]
  rfl

/-- Markup that fits is one line. -/
theorem markupLines_of_fits {width : Nat} {cs : List Char} (hreadable : Readable cs)
    (h : ∀ c ∈ cs, Narrow c) (hcolons : cs.count ':' ≤ 1) (hfit : (shown cs).length ≤ width) :
    (markupLines width cs).map (List.map lineChars) = .ok [shown cs] := by
  obtain ⟨text, htext, hchars⟩ := map_eq_ok_iff.mp (chars_readMarkup hreadable hcolons)
  have hnarrow : ∀ c ∈ text.chars, Narrow c := by
    rw [hchars]
    exact fun c hc => h c (Markup.mem_of_mem_shown hc)
  rw [← hchars] at hfit
  have hline : lineChars (cropLine width text.runs) = shown cs := by
    rw [cropLine_of_fits (allChars_runs hnarrow), lineChars_runs, hchars]
    rw [lineChars_runs]
    exact hfit
  rw [markupLines, htext, ← hline]
  show Except.ok _ = _
  rw [StyledText.wrap_of_fits hnarrow hfit]
  rfl

/-- The cells of a printable diagnostic are those that its markup shows. -/
theorem chars_rowCells {d : Diagnostic} (hmessage : Printable d.message)
    (hrule : Printable d.ruleId) (h : Readable d.ruleId.toList) :
    (rowCells d).map (List.map StyledText.chars) = .ok (shownRow d) := by
  have hcells := succeeds_mapM_iff.mp (succeeds_rowCells_iff.mpr h)
  refine map_mapM_eq_ok fun cs hcs => ?_
  exact chars_readMarkup (succeeds_readMarkup_iff.mp (hcells cs hcs))
    (count_rowMarkup_le hmessage hrule cs hcs)

/-- What is said about a file that fits. -/
theorem findingLines_of_fits {config : ConsoleConfig} {f : FileResult} (h : PrintableFile f)
    (hreportable : ∀ d ∈ f.diagnostics, Reportable d)
    (hfit : ∀ line ∈ findingText shownRow f, line.length ≤ config.usedWidth) :
    (findingLines config f).map (List.map lineChars) = .ok (findingText shownRow f) := by
  rw [findingText] at hfit ⊢
  rw [findingLines]
  by_cases hclean : f.clean = true
  · rw [if_pos hclean] at hfit ⊢
    rw [if_pos hclean, ← shown_clean]
    refine markupLines_of_fits readable_clean (forall_clean Markup.narrow_markupLetters)
      (by decide) ?_
    rw [shown_clean]
    exact hfit _ List.mem_cons_self
  · rw [if_neg hclean] at hfit ⊢
    rw [if_neg hclean]
    have hnumbers : checkNumbers (f.diagnostics.flatMap fun d => positionNumbers d.location)
        = .ok () := by
      obtain ⟨u, hu⟩ := succeeds_checkNumbers_iff.mpr
        (showable_flatMap_iff.mpr fun d hd => (hreportable d hd).1)
      exact hu
    obtain ⟨rows, hrows, hcells⟩ := map_eq_ok_iff.mp
      (map_mapM_eq_ok fun d hd =>
        chars_rowCells (h.2 d hd).1 (h.2 d hd).2 (hreportable d hd).2)
    -- every row is that of a diagnostic
    have hrow : ∀ row ∈ rows, ∃ d ∈ f.diagnostics, row.map StyledText.chars = shownRow d := by
      intro row hrow
      have hmem := List.mem_map_of_mem (f := List.map StyledText.chars) hrow
      rw [hcells] at hmem
      obtain ⟨d, hd, heq⟩ := List.mem_map.mp hmem
      exact ⟨d, hd, heq.symm⟩
    have hcount : ∀ row ∈ rows, row.length = columns.length := by
      intro row hmem
      obtain ⟨d, -, heq⟩ := hrow row hmem
      rw [← List.length_map StyledText.chars, heq]
      rfl
    have hnarrow : ∀ row ∈ rows, ∀ cell ∈ row, ∀ c ∈ cell.chars, Narrow c := by
      intro row hmem cell hcell
      obtain ⟨d, hd, heq⟩ := hrow row hmem
      refine narrow_shownRow (h.2 d hd).1 (h.2 d hd).2 cell.chars ?_
      rw [← heq]
      exact List.mem_map_of_mem hcell
    rw [← hcells] at hfit ⊢
    rw [hnumbers, hrows]
    exact congrArg Except.ok (croppedTable_of_fits hcount hnarrow hfit)

/-- The lines about a file that fits. -/
theorem fileLines_of_fits {config : ConsoleConfig} {f : FileResult} (h : PrintableFile f)
    (hreportable : ∀ d ∈ f.diagnostics, Reportable d)
    (hfit : ∀ line ∈ fileText shownPath shownRow f, line.length ≤ config.usedWidth) :
    (fileLines config f).map (List.map lineChars) = .ok (fileText shownPath shownRow f) := by
  rw [fileText] at hfit ⊢
  obtain ⟨hpath, hfindings⟩ := List.forall_mem_cons.mp hfit
  obtain ⟨path, hpathLines, hpathText⟩ := map_eq_ok_iff.mp (markupLines_of_fits
    (readable_path f.path) (forall_path Markup.narrow_markupLetters h.1.narrow)
    (count_tagged_le (by simp [reportTags]) (colonless_escape h.1.colonless)) hpath)
  obtain ⟨findings, hfindingLines, hfindingText⟩ := map_eq_ok_iff.mp
    (findingLines_of_fits h hreportable (List.forall_mem_append.mp hfindings).1)
  rw [fileLines, hpathLines, hfindingLines, shownPath, ← hfindingText]
  show Except.ok (List.map lineChars (path ++ findings ++ [[]])) = _
  rw [List.map_append, List.map_append, hpathText]
  rfl

/-- A summary that fits is one line. -/
theorem summaryLines_of_fits (config : ConsoleConfig) {r : LintResult}
    (hfit : ((summarySign r).2.toList ++ (summary r).toList).length ≤ config.usedWidth) :
    (summaryLines config r).map (List.map lineChars)
      = .ok [(summarySign r).2.toList ++ (summary r).toList] := by
  obtain ⟨htag, hsign⟩ := tag_and_sign (summarySign_mem r)
  have hplain : Markup.IsPlain ((summarySign r).2.toList ++ (summary r).toList) :=
    List.forall_mem_append.mpr ⟨fun c hc => isPlain_signLetters c (hsign c hc),
      fun c hc => isPlain_ownLetters c (mem_ownLetters_of_summary hc)⟩
  have hshown := Markup.shown_tagged_plain htag hplain (narrow_summary r)
  rw [← hshown] at hfit ⊢
  refine markupLines_of_fits ?_ (forall_summaryMarkup Markup.narrow_markupLetters r)
    (count_summaryMarkup_le r) hfit
  exact (succeeds_markupLines_iff config.usedWidth).mp (succeeds_summaryLines config r)

/-- **A report with room** prints what its markup shows, line by line. -/
theorem console_of_fits {width : Nat} {showClean : Bool} {r : LintResult}
    (h : ∀ f ∈ r.files, PrintableFile f) (hroomy : Roomy width showClean r)
    (hreportable : ∀ d ∈ r.diagnostics, Reportable d) :
    console ⟨false, width, showClean⟩ r
      = .ok (String.ofList (printed (shownText showClean r))) := by
  rw [Roomy, shownText, reportText, List.forall_mem_append] at hroomy
  obtain ⟨hfiles, hsummary⟩ := hroomy
  have hblocks : ∀ f ∈ listed showClean r,
      (fileLines ⟨false, width, showClean⟩ f).map (List.map lineChars)
        = .ok (fileText shownPath shownRow f) := by
    intro f hf
    have hmem := (List.mem_filter.mp hf).1
    refine fileLines_of_fits (h f hmem) ?_ ?_
    · exact fun d hd => hreportable d (List.mem_flatMap.mpr ⟨f, hmem, hd⟩)
    · exact fun line hline => hfiles line (List.mem_flatMap.mpr ⟨f, hf, hline⟩)
  obtain ⟨blocks, hblockLines, hblockText⟩ := map_eq_ok_iff.mp (map_mapM_eq_ok hblocks)
  obtain ⟨last, hlast, hlastText⟩ := map_eq_ok_iff.mp
    (summaryLines_of_fits ⟨false, width, showClean⟩ (hsummary _ List.mem_cons_self))
  rw [listed] at hblockLines
  rw [console, consoleLines, hblockLines, hlast]
  show Except.ok (String.ofList (printLines false (blocks.flatten ++ last))) = _
  rw [printLines_false, List.map_append, hlastText, List.map_flatten, hblockText]
  rfl

end Host

/-! ## Lines told apart -/

/-- Lines without line feeds are found again between the line feeds. -/
theorem splitOn_printed {lines : List (List Char)} (h : ∀ line ∈ lines, '\n' ∉ line) :
    (printed lines).splitOn '\n' = lines ++ [[]] := by
  induction lines with
  | nil => rfl
  | cons line lines ih =>
      rw [List.forall_mem_cons] at h
      have hline : ∀ c ∈ line, (c == '\n') = false :=
        fun c hc => beq_eq_false_iff_ne.mpr (ne_of_mem_of_not_mem hc h.1)
      rw [printed, List.flatMap_cons, List.append_assoc]
      exact (List.splitOnP_append_cons_of_forall_mem hline '\n' rfl _).trans
        (congrArg (line :: ·) (ih h.2))

/-- Printed lines can be told apart. -/
theorem eq_of_printed {xs ys : List (List Char)} (hxs : ∀ line ∈ xs, ∀ c ∈ line, Narrow c)
    (hys : ∀ line ∈ ys, ∀ c ∈ line, Narrow c) (h : printed xs = printed ys) : xs = ys := by
  have hfeed : ∀ {lines : List (List Char)}, (∀ line ∈ lines, ∀ c ∈ line, Narrow c) →
      ∀ line ∈ lines, '\n' ∉ line :=
    fun hlines line hline hmem => (hlines line hline _ hmem).ne_control (by decide) rfl
  have hsplit := congrArg (List.splitOn '\n') h
  rw [splitOn_printed (hfeed hxs), splitOn_printed (hfeed hys)] at hsplit
  exact List.append_cancel_right hsplit

theorem narrow_cellText {text : List Char} (h : ∀ c ∈ text, Narrow c) (width : Nat) :
    ∀ c ∈ cellText width text, Narrow c := by
  simp only [cellText, List.forall_mem_append]
  exact ⟨⟨⟨Text.forall_replicate Text.narrow_blank _, h⟩, Text.forall_replicate Text.narrow_blank _⟩,
    Text.forall_replicate Text.narrow_blank _⟩

/-- The lines of a report are narrow if its paths and rows are. -/
theorem narrow_reportText {path : FileResult → List Char} {row : Diagnostic → List (List Char)}
    {r : LintResult} (hpath : ∀ f ∈ r.files, ∀ c ∈ path f, Narrow c)
    (hrow : ∀ f ∈ r.files, ∀ d ∈ f.diagnostics, ∀ text ∈ row d, ∀ c ∈ text, Narrow c)
    (showClean : Bool) : ∀ line ∈ reportText path row showClean r, ∀ c ∈ line, Narrow c := by
  refine List.forall_mem_append.mpr
    ⟨?_, List.forall_mem_singleton.mpr (narrow_summary r)⟩
  refine List.forall_mem_flatMap.mpr ?_
  intro f hf
  have hmem := (List.mem_filter.mp hf).1
  simp only [fileText, List.forall_mem_append, List.forall_mem_cons]
  refine ⟨⟨hpath f hmem, ?_⟩, List.forall_mem_nil _, List.forall_mem_nil _⟩
  rw [findingText]
  split
  · exact List.forall_mem_singleton.mpr fun c hc =>
      narrow_own (mem_ownLetters_of_word (by simp [ownWords]) c hc)
  · rw [tableText, List.forall_mem_map, List.forall_mem_map]
    intro d hd c hc
    obtain ⟨cell, hcell, hc⟩ := List.mem_flatMap.mp hc
    exact narrow_cellText (hrow f hmem d hd _ (List.of_mem_zip hcell).2) _ c hc

/-- Parts of known lengths can be told apart in what they are joined to. -/
theorem eq_of_flatMap_eq {α β : Type} {f g : α → List β} {xs : List α}
    (hlength : ∀ x ∈ xs, (f x).length = (g x).length) (h : xs.flatMap f = xs.flatMap g) :
    ∀ x ∈ xs, f x = g x := by
  induction xs with
  | nil => exact List.forall_mem_nil _
  | cons x xs ih =>
      rw [List.forall_mem_cons] at hlength
      obtain ⟨hx, hxs⟩ := List.append_inj h hlength.1
      exact List.forall_mem_cons.mpr ⟨hx, ih hlength.2 hxs⟩

/-- **Equal reports** have equal paths and equal rows. -/
theorem eq_of_reportText {path other : FileResult → List Char}
    {row otherRow : Diagnostic → List (List Char)} {showClean : Bool} {r : LintResult}
    (h : reportText path row showClean r = reportText other otherRow showClean r) :
    ∀ f ∈ listed showClean r, path f = other f ∧
      ∀ d ∈ f.diagnostics,
        rowText (widths columns.length (f.diagnostics.map row)) (row d)
          = rowText (widths columns.length (f.diagnostics.map otherRow)) (otherRow d) := by
  have hlength : ∀ f : FileResult,
      (findingText row f).length = (findingText otherRow f).length := by
    intro f
    rw [findingText, findingText]
    split
    · rfl
    · simp only [tableText, List.length_map]
  intro f hf
  -- both reports have equally many lines for each file, so these can be told apart
  have hfile := eq_of_flatMap_eq (fun g _ => by simp [fileText, hlength g])
    (List.append_cancel_right h) f hf
  rw [fileText, fileText, List.cons_append, List.cons_append, List.cons.injEq] at hfile
  refine ⟨hfile.1, ?_⟩
  intro d hd
  -- a file with a finding shows its table
  have hdirty : ¬f.clean = true := fun hclean => by
    rw [List.isEmpty_iff.mp hclean] at hd
    exact absurd hd List.not_mem_nil
  have htable := List.append_cancel_right hfile.2
  rw [findingText, findingText, if_neg hdirty, if_neg hdirty, tableText, tableText, List.map_map,
    List.map_map] at htable
  exact List.map_inj_left.mp htable d hd

/-! ## Texts shown literally -/

/-- Of the cells of a diagnostic the message is escaped, and the rule name is not. -/
theorem shownRow_eq (d : Diagnostic) :
    shownRow d = [(position d.location).toList, d.severity.label.toList,
      shown (Markup.escape d.message.toList), shown d.ruleId.toList] := by
  have hposition : shown (position d.location).toList = (position d.location).toList :=
    (Markup.bare_of_isPlain (isPlain_position d.location)).shown_eq
      (forall_position Markup.narrow_markupLetters d.location)
  have hlabel : shown (tagged (severityTag d.severity) d.severity.label.toList)
      = d.severity.label.toList := by
    have hplain := isPlain_label d.severity
    have hnarrow : ∀ c ∈ d.severity.label.toList, Narrow c :=
      fun c hc => narrow_own (mem_ownLetters_of_label hc)
    rw [← List.append_nil d.severity.label.toList] at hplain hnarrow
    have hshown := Markup.shown_tagged_plain (severityTag_mem d.severity) hplain hnarrow
    rwa [show Markup.escape [] = [] from rfl, List.append_nil] at hshown
  rw [shownRow, rowMarkup, List.map_cons, List.map_cons, List.map_cons, List.map_cons, hposition,
    hlabel]
  rfl

/-- The width of a column is that of its widest cell. -/
theorem widths_columns (diagnostics : List Diagnostic) (f g h k : Diagnostic → List Char) :
    widths columns.length (diagnostics.map fun d => [f d, g d, h d, k d])
      = [widest (diagnostics.map f), widest (diagnostics.map g), widest (diagnostics.map h),
        widest (diagnostics.map k)] := by
  simp [widths, columns, List.range_succ, List.filterMap_map]

theorem rowText_columns (a b c e : Nat) (place label message rule : List Char) :
    rowText [a, b, c, e] [place, label, message, rule]
      = cellText a place ++ (cellText b label ++ (cellText c message ++ cellText e rule)) := by
  simp [rowText]

/-- Padding brings no ink. -/
theorem inked_cellText (width : Nat) (text : List Char) :
    Markup.inked (cellText width text) = Markup.inked text := by
  have hblanks : ∀ n, Markup.inked (List.replicate n ' ') = 0 := by
    intro n
    simp [Markup.inked, List.countP_replicate]
  simp only [cellText, Markup.inked_append, hblanks, Nat.zero_add, Nat.add_zero]

/-- A cell that looks literal holds a message that shows itself: a backslash too many would
    stand in the place of a blank. -/
theorem intact_of_cellText {c c' : Nat} {message more more' : List Char}
    (h : ∀ c ∈ message, Narrow c)
    (hcell : cellText c (shown (Markup.escape message)) ++ more = cellText c' message ++ more') :
    Markup.Intact message ∧ Markup.slashesAtEnd message ≠ 1 := by
  rw [Markup.shown_escape h] at hcell
  simp only [cellText, List.append_assoc] at hcell
  replace hcell := List.append_cancel_left hcell
  have hintact := Markup.intact_of_prefix hcell
  rw [Markup.unslashed_eq_self_iff.mpr hintact] at hcell
  refine ⟨hintact, ?_⟩
  intro hone
  have hnext := List.append_cancel_left hcell
  rw [if_pos hone] at hnext
  cases hblanks : c' - message.length with
  | zero =>
      rw [hblanks] at hnext
      exact absurd (List.cons.inj hnext).1 (by decide)
  | succ n =>
      rw [hblanks, List.replicate_succ] at hnext
      exact absurd (List.cons.inj hnext).1 (by decide)

/-- **A row that looks literal** holds a message and a rule name that show themselves. -/
theorem literal_of_rowText {a b c c' e e' : Nat} {place label message rule : List Char}
    (hmessage : ∀ c ∈ message, Narrow c) (hrule : ∀ c ∈ rule, Narrow c)
    (h : rowText [a, b, c, e] [place, label, shown (Markup.escape message), shown rule]
      = rowText [a, b, c', e'] [place, label, message, rule]) :
    (Markup.Intact message ∧ Markup.slashesAtEnd message ≠ 1) ∧ Markup.Bare rule := by
  rw [rowText_columns, rowText_columns] at h
  replace h := List.append_cancel_left (List.append_cancel_left h)
  have hshown := intact_of_cellText hmessage h
  refine ⟨hshown, Markup.bare_of_inked hrule ?_⟩
  -- the message is the same on both sides, so the rule name has lost no ink
  have hink := congrArg Markup.inked h
  rw [Markup.shown_escape hmessage, if_neg hshown.2, List.append_nil,
    Markup.unslashed_eq_self_iff.mpr hshown.1] at hink
  simp only [Markup.inked_append, inked_cellText] at hink
  exact Nat.add_left_cancel hink

/-- A diagnostic whose message and rule name show themselves has literal cells. -/
theorem shownRow_eq_literalRow {d : Diagnostic} (hmessage : ∀ c ∈ d.message.toList, Narrow c)
    (hrule : ∀ c ∈ d.ruleId.toList, Narrow c)
    (h : (Markup.Intact d.message.toList ∧ Markup.slashesAtEnd d.message.toList ≠ 1) ∧
      Markup.Bare d.ruleId.toList) : shownRow d = literalRow d := by
  rw [shownRow_eq, literalRow, Markup.shown_escape hmessage, if_neg h.1.2, List.append_nil,
    Markup.unslashed_eq_self_iff.mpr h.1.1, h.2.shown_eq hrule]

theorem narrow_shownText {r : LintResult} (h : ∀ f ∈ r.files, PrintableFile f) (showClean : Bool) :
    ∀ line ∈ shownText showClean r, ∀ c ∈ line, Narrow c := by
  refine narrow_reportText ?_ ?_ showClean
  · intro f hf c hc
    exact forall_path Markup.narrow_markupLetters (h f hf).1.narrow c (Markup.mem_of_mem_shown hc)
  · intro f hf d hd
    exact narrow_shownRow ((h f hf).2 d hd).1 ((h f hf).2 d hd).2

theorem narrow_literalText {r : LintResult} (h : ∀ f ∈ r.files, PrintableFile f)
    (showClean : Bool) : ∀ line ∈ literalText showClean r, ∀ c ∈ line, Narrow c := by
  refine narrow_reportText (fun f hf => (h f hf).1.narrow) ?_ showClean
  intro f hf d hd
  obtain ⟨hmessage, hrule⟩ := (h f hf).2 d hd
  simp only [literalRow, List.forall_mem_cons]
  refine ⟨forall_position Markup.narrow_markupLetters d.location, ?_, hmessage.narrow, hrule.narrow,
    List.forall_mem_nil _⟩
  exact fun c hc => narrow_own (mem_ownLetters_of_label hc)

/-- A path that shows itself: intact, with no more than one backslash at its end. -/
def PathShown (cs : List Char) : Prop :=
  Markup.Intact cs ∧ Markup.slashesAtEnd cs ≤ 1

/-- A message that shows itself: intact, and not with a single backslash at its end. -/
def MessageShown (cs : List Char) : Prop :=
  Markup.Intact cs ∧ Markup.slashesAtEnd cs ≠ 1

/-- **The markup of a report shows its texts literally** if each of them shows itself. -/
theorem shownText_eq_literalText_iff {r : LintResult} (h : ∀ f ∈ r.files, PrintableFile f)
    (showClean : Bool) :
    shownText showClean r = literalText showClean r ↔
      ∀ f ∈ listed showClean r, PathShown f.path.text.toList ∧
        ∀ d ∈ f.diagnostics, MessageShown d.message.toList ∧ Markup.Bare d.ruleId.toList := by
  have hunderline : "underline" ∈ reportTags := by simp [reportTags]
  have hfile : ∀ f ∈ listed showClean r, PrintableFile f :=
    fun f hf => h f (List.mem_filter.mp hf).1
  constructor
  · intro hlines f hf
    obtain ⟨hpath, hrows⟩ := eq_of_reportText hlines f hf
    refine ⟨(Markup.shown_tagged_eq_self_iff hunderline (hfile f hf).1.narrow).mp hpath, ?_⟩
    intro d hd
    obtain ⟨hmessage, hrule⟩ := (hfile f hf).2 d hd
    -- the widths of both tables may differ, so cells are compared by their ink
    have hrow := hrows d hd
    unfold literalRow at hrow
    simp only [funext shownRow_eq, widths_columns] at hrow
    exact literal_of_rowText hmessage.narrow hrule.narrow hrow
  · intro hshown
    refine congrArg (· ++ _) (List.flatMap_congr fun f hf => ?_)
    obtain ⟨hpath, hdiagnostics⟩ := hshown f hf
    have hrows : f.diagnostics.map shownRow = f.diagnostics.map literalRow := by
      refine List.map_congr_left fun d hd => ?_
      obtain ⟨hmessage, hrule⟩ := (hfile f hf).2 d hd
      exact shownRow_eq_literalRow hmessage.narrow hrule.narrow (hdiagnostics d hd)
    have hpathText : shownPath f = f.path.text.toList :=
      (Markup.shown_tagged_eq_self_iff hunderline (hfile f hf).1.narrow).mpr hpath
    rw [fileText, fileText, findingText, findingText, hrows, hpathText]

/-- **When a report shows its texts literally.**  If the texts are printable and there is
    room for all lines, the report is the literal one exactly if each path, message and rule
    name shows itself and each position can be written. -/
theorem console_literal_iff [Host] (r : LintResult) (width : Nat) (showClean : Bool)
    (hprintable : ∀ f ∈ r.files, PrintableFile f) (hroomy : Roomy width showClean r) :
    console ⟨false, width, showClean⟩ r
        = .ok (String.ofList (printed (literalText showClean r))) ↔
      ∀ f ∈ listed showClean r, PathShown f.path.text.toList ∧
        ∀ d ∈ f.diagnostics, Showable (positionNumbers d.location) ∧
          MessageShown d.message.toList ∧ Markup.Bare d.ruleId.toList := by
  constructor
  · intro hconsole
    have hreportable := (succeeds_console_iff _).mp ⟨_, hconsole⟩
    rw [console_of_fits hprintable hroomy hreportable] at hconsole
    -- the literal report holds no line feed within a line either, so the lines agree
    have hlines := eq_of_printed (narrow_shownText hprintable showClean)
      (narrow_literalText hprintable showClean) (String.ofList_injective (Except.ok.inj hconsole))
    intro f hf
    obtain ⟨hpath, hdiagnostics⟩ := (shownText_eq_literalText_iff hprintable showClean).mp hlines f hf
    refine ⟨hpath, fun d hd => ⟨?_, hdiagnostics d hd⟩⟩
    exact (hreportable d (List.mem_flatMap.mpr ⟨f, (List.mem_filter.mp hf).1, hd⟩)).1
  · intro hshown
    have hreportable : ∀ d ∈ r.diagnostics, Reportable d := by
      intro d hd
      obtain ⟨f, hf, hd⟩ := List.mem_flatMap.mp hd
      obtain ⟨hnumbers, -, hrule⟩ := (hshown f (mem_listed showClean hf hd)).2 d hd
      exact ⟨hnumbers, hrule.exists_render⟩
    rw [console_of_fits hprintable hroomy hreportable,
      (shownText_eq_literalText_iff hprintable showClean).mpr]
    intro f hf
    obtain ⟨hpath, hdiagnostics⟩ := hshown f hf
    exact ⟨hpath, fun d hd => (hdiagnostics d hd).2⟩

/-- Findings with brackets, slashes and backslashes that show themselves, and a clean file. -/
def bracketedFindings : LintResult where
  files := [
    ⟨.ofString "app/[slug]/\\[b] [1]\\",
      [⟨"rule[0]/x\\", "id", "use [bold]x[/bold], \\\\[red] or [/]\\\\",
        ⟨.ofString "app/[slug]/\\[b] [1]\\", .number 3, .number 10, none, none⟩, .error, []⟩,
      ⟨"[", "id", "[", ⟨.ofString "app/[slug]/\\[b] [1]\\", .number 120, .number 0, none, none⟩,
        .warning, []⟩]⟩,
    ⟨.ofString "[clean].json", []⟩]

section Standard

attribute [local instance] Host.standard

theorem console_literal_bracketedFindings :
    (∀ f ∈ bracketedFindings.files, PrintableFile f) ∧ Roomy 70 true bracketedFindings ∧
      console ⟨false, 70, true⟩ bracketedFindings = .ok (String.ofList (printed [
        "app/[slug]/\\[b] [1]\\".toList,
        "  3:11    error     use [bold]x[/bold], \\\\[red] or [/]\\\\   rule[0]/x\\ ".toList,
        "  120:1   warning   [                                      [          ".toList,
        [],
        "[clean].json".toList,
        "  clean".toList,
        [],
        "✖ 2 problem(s) (1 error(s), 1 warning(s))".toList])) := by
  have hprintable : ∀ f ∈ bracketedFindings.files, PrintableFile f := by
    simp only [PrintableFile]
    decide +kernel
  have hroomy : Roomy 70 true bracketedFindings := by
    simp only [Roomy]
    decide +kernel
  have hshown : ∀ f ∈ listed true bracketedFindings, PathShown f.path.text.toList ∧
      ∀ d ∈ f.diagnostics, Showable (positionNumbers d.location) ∧
        MessageShown d.message.toList ∧ Markup.Bare d.ruleId.toList := by
    simp only [PathShown, MessageShown, Showable]
    decide +kernel
  refine ⟨hprintable, hroomy, ?_⟩
  rw [(console_literal_iff bracketedFindings 70 true hprintable hroomy).mpr hshown]
  refine congrArg (fun lines => Except.ok (String.ofList (printed lines))) ?_
  decide +kernel

/-- A finding whose rule name is markup. -/
def taggedRule : LintResult where
  files := [
    ⟨.ofString "page.json",
      [⟨"[bold]x[/bold]", "id", "m",
        ⟨.ofString "page.json", .number 3, .number 10, none, none⟩, .error, []⟩]⟩]

/-- The rule name is not shown as it is: its tags are lost. -/
theorem console_taggedRule :
    (∀ f ∈ taggedRule.files, PrintableFile f) ∧ Roomy 120 false taggedRule ∧
      console ⟨false, 120, false⟩ taggedRule = .ok (String.ofList (printed [
        "page.json".toList,
        "  3:11   error   m   x ".toList,
        [],
        "✖ 1 problem(s) (1 error(s), 0 warning(s))".toList])) ∧
      console ⟨false, 120, false⟩ taggedRule
        ≠ .ok (String.ofList (printed (literalText false taggedRule))) := by
  have hprintable : ∀ f ∈ taggedRule.files, PrintableFile f := by
    simp only [PrintableFile]
    decide +kernel
  have hroomy : Roomy 120 false taggedRule := by
    simp only [Roomy]
    decide +kernel
  have hreportable : ∀ d ∈ taggedRule.diagnostics, Reportable d := by
    have hchecked : ∀ d ∈ taggedRule.diagnostics, Showable (positionNumbers d.location) ∧
        (Markup.render d.ruleId.toList).isOk = true := by
      simp only [Showable]
      decide +kernel
    exact fun d hd => ⟨(hchecked d hd).1, readable_of_isOk (hchecked d hd).2⟩
  have hlost : printed (shownText false taggedRule) ≠ printed (literalText false taggedRule) := by
    decide +kernel
  refine ⟨hprintable, hroomy, ?_, ?_⟩
  · rw [console_of_fits hprintable hroomy hreportable]
    refine congrArg (fun lines => Except.ok (String.ofList (printed lines))) ?_
    decide +kernel
  · rw [console_of_fits hprintable hroomy hreportable]
    intro hsame
    exact hlost (String.ofList_injective (Except.ok.inj hsame))

end Standard

end EnvLint.Report
