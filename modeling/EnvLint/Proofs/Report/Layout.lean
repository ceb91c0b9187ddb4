import EnvLint.Proofs.Repetition
import EnvLint.Proofs.Report.Characters
import EnvLint.Proofs.Text.Narrow
import Mathlib.Algebra.Order.BigOperators.Group.List
import Mathlib.Algebra.Order.Group.Nat
import Mathlib.Data.List.Forall2

/-! # Layout with room

    How narrow texts are laid out where there is room for them.  Styles cut a line
    into runs but leave its characters in place (`lineChars_runs`), a text that
    fits stays one line (`wrap_of_fits`), and a table whose rows fit gives one line
    for each row: every cell stands behind two blanks and is filled to the width
    of its column (`tableLines_of_fits`). -/

namespace EnvLint.Report

open Text (Narrow)

/-! ## Runs -/

/-- The characters of a line. -/
def lineChars (line : Line) : List Char := line.flatMap TextRun.chars

/-- Lines of characters as printed. -/
def printed (lines : List (List Char)) : List Char :=
  lines.flatMap (· ++ ['\n'])

/-- Without codes the characters of the lines are printed. -/
theorem printLines_false [Host] (lines : List Line) :
    printLines false lines = printed (lines.map lineChars) := by
  rw [printed, List.flatMap_map, ← flatMap_zipIdx _ lines 0]
  refine List.flatMap_congr fun line _ => ?_
  exact congrArg (· ++ ['\n']) (flatMap_zipIdx TextRun.chars line.1 0)

theorem drop_take_append_drop (cs : List Char) {a b : Nat} (h : a ≤ b) :
    (cs.take b).drop a ++ cs.drop b = cs.drop a := by
  conv_rhs => rw [← List.take_append_drop b cs, List.drop_append]
  by_cases hb : b ≤ cs.length
  · rw [List.length_take_of_le hb, Nat.sub_eq_zero_of_le h, List.drop_zero]
  · rw [List.drop_eq_nil_of_le (Nat.le_of_not_le hb), List.drop_nil]

/-- Stretches between neighbouring places, up to one behind the text, put together. -/
theorem flatMap_stretches {cs : List Char} {a : Nat} {places : List Nat}
    (h : (a :: places).Pairwise (· ≤ ·)) (hend : ∃ e ∈ a :: places, cs.length ≤ e) :
    ((a :: places).zip places).flatMap (fun e => (cs.take e.2).drop e.1) = cs.drop a := by
  induction places generalizing a with
  | nil =>
      obtain ⟨e, he, hlength⟩ := hend
      rw [List.mem_singleton.mp he] at hlength
      exact (List.drop_eq_nil_of_le hlength).symm
  | cons b places ih =>
      obtain ⟨ha, hrest⟩ := List.pairwise_cons.mp h
      have hb : a ≤ b := ha b List.mem_cons_self
      have hend' : ∃ e ∈ b :: places, cs.length ≤ e := by
        obtain ⟨e, he, hlength⟩ := hend
        rcases List.mem_cons.mp he with rfl | he
        · exact ⟨b, List.mem_cons_self, Nat.le_trans hlength hb⟩
        · exact ⟨e, he, hlength⟩
      rw [List.zip_cons_cons, List.flatMap_cons, ih hrest hend']
      exact drop_take_append_drop cs hb

/-- The edges of a text are in order, from its start to no less than its end. -/
theorem edges_eq (r : StyledText) : ∃ places, r.edges = 0 :: places ∧
    (0 :: places).Pairwise (· ≤ ·) ∧ r.chars.length ∈ 0 :: places := by
  have hmem : ∀ e ∈ [0, r.chars.length], e ∈ r.edges := by
    intro e he
    rw [StyledText.edges, List.mem_eraseDups, List.mem_mergeSort]
    exact List.mem_append_left _ he
  have hsorted : r.edges.Pairwise (· ≤ ·) := by
    refine List.Pairwise.sublist (eraseDups_sublist _) ?_
    refine (List.pairwise_mergeSort ?_ ?_ _).imp of_decide_eq_true
    · intro a b c hab hbc
      exact decide_eq_true (Nat.le_trans (of_decide_eq_true hab) (of_decide_eq_true hbc))
    · intro a b
      rw [Bool.or_eq_true, decide_eq_true_iff, decide_eq_true_iff]
      exact Nat.le_total a b
  simp only [List.forall_mem_cons] at hmem
  cases hedges : r.edges with
  | nil =>
      rw [hedges] at hmem
      exact absurd hmem.1 List.not_mem_nil
  | cons a places =>
      rw [hedges] at hmem hsorted
      -- zero is an edge and none is less, so it comes first
      have hzero : a = 0 := by
        rcases List.mem_cons.mp hmem.1 with h | h
        · exact h.symm
        · exact Nat.le_zero.mp ((List.pairwise_cons.mp hsorted).1 0 h)
      subst hzero
      exact ⟨places, rfl, hsorted, hmem.2.1⟩

/-- **Styles leave the characters of a line in place.** -/
theorem lineChars_runs (r : StyledText) : lineChars r.runs = r.chars := by
  obtain ⟨places, hedges, hsorted, hend⟩ := edges_eq r
  rw [lineChars, StyledText.runs, hedges, List.flatMap_map]
  exact flatMap_stretches hsorted ⟨_, hend, Nat.le_refl _⟩

/-! ## Texts that fit -/

namespace StyledText

variable {r : StyledText} {width : Nat}

/-- A text of narrow characters is one line. -/
theorem lines_of_narrow (h : ∀ c ∈ r.chars, Narrow c) : r.lines = [r] := by
  have hfeed : ¬r.chars.contains '\n' = true := by
    rw [List.contains_iff_mem]
    exact fun hmem => (h _ hmem).ne_control (by decide) rfl
  rw [lines, if_neg hfeed]

/-- A text of narrow characters holds no tab. -/
theorem expandTabs_of_narrow (h : ∀ c ∈ r.chars, Narrow c) : r.expandTabs = r := by
  have htab : ¬r.chars.contains '\t' = true := by
    rw [List.contains_iff_mem]
    exact fun hmem => (h _ hmem).ne_control (by decide) rfl
  rw [expandTabs, if_neg htab]

/-- A text that fits is not trimmed. -/
theorem trimBeyond_of_fits (hfit : r.chars.length ≤ width) : r.trimBeyond width = r := by
  rw [trimBeyond, if_neg (Nat.not_lt.mpr hfit)]

/-- A text that fits is not cropped, whatever is done about longer ones. -/
theorem crop_of_fits (h : ∀ c ∈ r.chars, Narrow c) (hfit : r.chars.length ≤ width)
    (overflow : Overflow) : r.crop overflow width = r := by
  have hcells : ¬Text.cells r.chars > width := by
    rw [Text.cells_of_narrow h]
    exact Nat.not_lt.mpr hfit
  rw [crop.eq_def, if_neg hcells]

/-- **A narrow text that fits stays on one line.** -/
theorem wrap_of_fits (h : ∀ c ∈ r.chars, Narrow c) (hfit : r.chars.length ≤ width)
    (overflow : Overflow) : r.wrap overflow width = [r] := by
  have hline : ((r.trimBeyond width).crop overflow width) = r := by
    rw [trimBeyond_of_fits hfit, crop_of_fits h hfit]
  rw [wrap, lines_of_narrow h, List.flatMap_singleton, expandTabs_of_narrow h]
  cases overflow with
  | fold =>
      dsimp only
      rw [Text.breaks_eq_nil h hfit]
      exact congrArg (fun line => [line]) hline
  | ellipsis => exact congrArg (fun line => [line]) hline

/-- The longest line of a narrow text is the text. -/
theorem longest_of_narrow (h : ∀ c ∈ r.chars, Narrow c) : r.longest = r.chars.length := by
  rw [longest, List.splitOnP_eq_singleton]
  · rw [List.map_singleton, List.foldl_cons, List.foldl_nil, Nat.zero_max, Text.cells_of_narrow h]
  · intro c hc
    have hfeed : c ≠ '\n' := (h c hc).ne_control (by decide)
    have hnext : c ≠ '\x85' := (h c hc).ne (by decide +kernel)
    have hline : c ≠ '\u2028' := (h c hc).ne (by decide +kernel)
    have hparagraph : c ≠ '\u2029' := (h c hc).ne (by decide +kernel)
    have hsigns : ¬c ≤ '\x1e' := by
      intro hle
      have hlow : c.toNat ≤ 30 := hle
      have hhigh := (h c hc).le_toNat
      omega
    simp [hfeed, hnext, hline, hparagraph, hsigns]

end StyledText

/-- A line that fits is not cut. -/
theorem cropLine_of_fits {width : Nat} {line : Line} (h : AllChars Narrow line)
    (hfit : (lineChars line).length ≤ width) : cropLine width line = line := by
  induction line generalizing width with
  | nil => rfl
  | cons s line ih =>
      obtain ⟨hs, hline⟩ := List.forall_mem_cons.mp h
      rw [lineChars, List.flatMap_cons, List.length_append] at hfit
      rw [cropLine, Text.cells_of_narrow hs, if_pos (by omega), ih hline]
      show (line.flatMap TextRun.chars).length ≤ _
      omega

/-! ## Tables -/

/-- A cell as shown: two blanks, its text filled to the width of the column, and a blank. -/
def cellText (width : Nat) (text : List Char) : List Char :=
  List.replicate leftBlanks ' ' ++ text ++ List.replicate (width - text.length) ' '
    ++ List.replicate rightBlanks ' '

/-- The length of the longest of some texts. -/
def widest (texts : List (List Char)) : Nat := (texts.map List.length).foldl max 0

/-- The widths of the first columns of a table. -/
def widths (count : Nat) (rows : List (List (List Char))) : List Nat :=
  (List.range count).map fun i => widest (rows.filterMap fun row => row[i]?)

/-- A row as shown. -/
def rowText (widths : List Nat) (row : List (List Char)) : List Char :=
  (widths.zip row).flatMap fun cell => cellText cell.1 cell.2

/-- The rows of a table as shown. -/
def tableText (count : Nat) (rows : List (List (List Char))) : List (List Char) :=
  rows.map (rowText (widths count rows))

/-- The largest of some numbers is within a bound if all are. -/
theorem foldl_max_le_iff {xs : List Nat} {least bound : Nat} :
    xs.foldl max least ≤ bound ↔ least ≤ bound ∧ ∀ x ∈ xs, x ≤ bound := by
  induction xs generalizing least with
  | nil => simp
  | cons x xs ih =>
      rw [List.foldl_cons, ih, Nat.max_le, List.forall_mem_cons, and_assoc]

theorem length_le_widest {text : List Char} {texts : List (List Char)} (h : text ∈ texts) :
    text.length ≤ widest texts :=
  (foldl_max_le_iff.mp (Nat.le_refl _)).2 _ (List.mem_map_of_mem h)

/-- A text for each of the first columns, each within its width. -/
abbrev RowFits : List Nat → List (List Char) → Prop :=
  List.Forall₂ fun width text => text.length ≤ width

/-- The rows of a table fit into its columns. -/
theorem fits_widths {rows : List (List (List Char))} {row : List (List Char)} (h : row ∈ rows) :
    RowFits (widths row.length rows) row := by
  refine List.forall₂_iff_get.mpr ⟨by simp [widths], ?_⟩
  intro i hi hrow
  rw [List.get_eq_getElem, List.get_eq_getElem]
  simp only [widths, List.getElem_map, List.getElem_range]
  exact length_le_widest (List.mem_filterMap.mpr ⟨row, h, List.getElem?_eq_getElem hrow⟩)

/-- The cells of a row fill the widths of their columns. -/
theorem length_rowText {ws : List Nat} {row : List (List Char)} (h : RowFits ws row) :
    (rowText ws row).length = total (ws.map (· + cellBlanks)) := by
  induction h with
  | nil => rfl
  | @cons w text ws row htext hrow ih =>
      rw [rowText, List.zip_cons_cons, List.flatMap_cons, List.length_append]
      have hcell : (cellText w text).length = w + cellBlanks := by
        simp only [cellText, List.length_append, List.length_replicate, cellBlanks]
        omega
      rw [hcell]
      exact congrArg (w + cellBlanks + ·) ih

/-! ### Cells -/

/-- A column is as wide as its widest cell, if that fits. -/
theorem columnWidth_of_fits {limit w : Nat} {cells : List StyledText}
    (h : ∀ cell ∈ cells, ∀ c ∈ cell.chars, Narrow c)
    (hw : widest (cells.map StyledText.chars) = w) (hfit : w + cellBlanks ≤ limit) :
    columnWidth limit cells = w + cellBlanks := by
  have hlongest : cells.map StyledText.longest = (cells.map StyledText.chars).map List.length := by
    rw [List.map_map]
    exact List.map_congr_left fun cell hcell => StyledText.longest_of_narrow (h cell hcell)
  rw [widest, ← hlongest] at hw
  rw [columnWidth, hw]
  split
  · simp only [cellBlanks, leftBlanks, rightBlanks] at *
    omega
  · exact Nat.min_eq_right hfit

/-- A cell that fits takes one line, or none if its column is empty. -/
theorem cell_of_fits (column : Column) {w : Nat} {cell : StyledText}
    (h : ∀ c ∈ cell.chars, Narrow c) (hfit : cell.chars.length ≤ w) :
    (cellLines column (w + cellBlanks) cell).length ≤ 1 ∧
      lineChars ((fillLines column (w + cellBlanks) 1
        (cellLines column (w + cellBlanks) cell)).headD []) = cellText w cell.chars := by
  rw [cellLines, Nat.add_sub_cancel]
  by_cases hw : w = 0
  · subst hw
    rw [List.eq_nil_of_length_eq_zero (Nat.le_zero.mp hfit)]
    exact ⟨Nat.zero_le 1, rfl⟩
  · rw [if_neg (by omega), StyledText.wrap_of_fits h hfit]
    refine ⟨Nat.le_refl 1, ?_⟩
    have hpadded := lineChars_runs (cell.pad w)
    simp only [lineChars, fillLines, List.cons_append, List.headD_cons,
      List.map_cons, List.map_append, List.flatMap_cons, List.flatMap_append, List.flatMap_map,
      List.flatMap_nil, List.append_nil, TextRun.withBase, TextRun.blanks] at hpadded ⊢
    rw [hpadded, StyledText.pad, Text.cells_of_narrow h, cellText]
    simp only [List.append_assoc]

/-- The cells of a row that fits, side by side. -/
theorem cells_of_fits {columns : List Column} {ws : List Nat} {row : List StyledText}
    (hcount : columns.length = ws.length) (h : ∀ cell ∈ row, ∀ c ∈ cell.chars, Narrow c)
    (hfit : RowFits ws (row.map StyledText.chars)) :
    (∀ c ∈ (columns.zip (ws.map (· + cellBlanks))).zip row,
        (cellLines c.1.1 c.1.2 c.2).length ≤ 1) ∧
      lineChars (((columns.zip (ws.map (· + cellBlanks))).zip row).flatMap fun c =>
          (fillLines c.1.1 c.1.2 1 (cellLines c.1.1 c.1.2 c.2)).headD [])
        = rowText ws (row.map StyledText.chars) := by
  replace hfit := List.forall₂_map_right_iff.mp hfit
  induction hfit generalizing columns with
  | nil =>
      rw [List.zip_nil_right]
      exact ⟨List.forall_mem_nil _, rfl⟩
  | @cons w cell ws row hcell hrow ih =>
      cases columns with
      | nil => cases hcount
      | cons column columns =>
          rw [List.forall_mem_cons] at h
          obtain ⟨hshort, hline⟩ := cell_of_fits column h.1 hcell
          obtain ⟨hrest, hlines⟩ := ih (Nat.succ.inj hcount) h.2
          refine ⟨List.forall_mem_cons.mpr ⟨hshort, hrest⟩, ?_⟩
          rw [lineChars] at hline hlines
          rw [lineChars, List.map_cons, List.zip_cons_cons, List.zip_cons_cons, List.flatMap_cons,
            List.flatMap_append, hline, hlines]
          rfl

/-- What is zipped with a zipped list is zipped at once. -/
theorem map_zip_map_zip {α β γ δ : Type} (f : α × γ → δ) (g : α × β → γ) (xs : List α)
    (ys : List β) :
    (xs.zip ((xs.zip ys).map g)).map f = (xs.zip ys).map fun c => f (c.1, g c) := by
  induction xs generalizing ys with
  | nil => rfl
  | cons x xs ih =>
      cases ys with
      | nil => rfl
      | cons y ys => exact congrArg _ (ih ys)

/-- **A row that fits is one line.** -/
theorem rowLines_of_fits {columns : List Column} {ws : List Nat} {row : List StyledText}
    (hcount : columns.length = ws.length) (h : ∀ cell ∈ row, ∀ c ∈ cell.chars, Narrow c)
    (hfit : RowFits ws (row.map StyledText.chars)) :
    (rowLines (columns.zip (ws.map (· + cellBlanks))) row).map lineChars
      = [rowText ws (row.map StyledText.chars)] := by
  obtain ⟨hshort, hline⟩ := cells_of_fits hcount h hfit
  have hheight : ((((columns.zip (ws.map (· + cellBlanks))).zip row).map fun c =>
      cellLines c.1.1 c.1.2 c.2).map List.length).foldl max 1 = 1 := by
    refine Nat.le_antisymm (foldl_max_le_iff.mpr ⟨Nat.le_refl 1, ?_⟩)
      (foldl_max_le_iff.mp (Nat.le_refl _)).1
    rw [List.forall_mem_map, List.forall_mem_map]
    exact hshort
  rw [rowLines, hheight, map_zip_map_zip, joinCells, joinCells, List.flatMap_map,
    List.map_singleton, hline]

/-- The columns of a table are as wide as their longest cells, if there is room for all. -/
theorem columnWidths_of_fits {limit : Nat} {columns : List Column} {rows : List (List StyledText)}
    (h : ∀ row ∈ rows, ∀ cell ∈ row, ∀ c ∈ cell.chars, Narrow c)
    (hfit : total ((widths columns.length (rows.map (List.map StyledText.chars))).map
      (· + cellBlanks)) ≤ limit) :
    columnWidths limit (columns.zipIdx.map fun c =>
        (c.1, rows.filterMap fun row => row[c.2]?))
      = (widths columns.length (rows.map (List.map StyledText.chars))).map (· + cellBlanks) := by
  have hasked : (columns.zipIdx.map fun c => columnWidth limit (rows.filterMap fun row => row[c.2]?))
      = (widths columns.length (rows.map (List.map StyledText.chars))).map (· + cellBlanks) := by
    have hsecond : columns.zipIdx.map Prod.snd = List.range columns.length := by
      rw [List.zipIdx_map_snd, List.range_eq_range']
    have hrange : (columns.zipIdx.map fun c =>
        columnWidth limit (rows.filterMap fun row => row[c.2]?))
        = (List.range columns.length).map fun i =>
          columnWidth limit (rows.filterMap fun row => row[i]?) := by
      rw [← hsecond, List.map_map]
      rfl
    rw [hrange, widths, List.map_map]
    refine List.map_congr_left ?_
    intro i hi
    refine columnWidth_of_fits ?_ ?_ ?_
    · intro cell hcell
      obtain ⟨row, hrow, hcell⟩ := List.mem_filterMap.mp hcell
      exact h row hrow cell (List.mem_of_getElem? hcell)
    · simp only [List.map_filterMap, List.filterMap_map, Function.comp_def, List.getElem?_map]
    · -- one column is no wider than all of them
      refine Nat.le_trans ?_ hfit
      refine List.le_sum_of_mem ?_
      rw [widths, List.map_map]
      exact List.mem_map_of_mem hi
  rw [columnWidths, List.map_map]
  simp only [Function.comp_def]
  rw [hasked, if_pos hfit]

/-- **A table whose rows fit** is shown row by row. -/
theorem tableLines_of_fits {limit : Nat} {columns : List Column} {rows : List (List StyledText)}
    (hcount : ∀ row ∈ rows, row.length = columns.length)
    (h : ∀ row ∈ rows, ∀ cell ∈ row, ∀ c ∈ cell.chars, Narrow c)
    (hfit : ∀ line ∈ tableText columns.length (rows.map (List.map StyledText.chars)),
      line.length ≤ limit) :
    (tableLines limit columns rows).map lineChars
      = tableText columns.length (rows.map (List.map StyledText.chars)) := by
  have hrows : ∀ row ∈ rows, RowFits
      (widths columns.length (rows.map (List.map StyledText.chars))) (row.map StyledText.chars) := by
    intro row hrow
    have hfits := fits_widths (List.mem_map_of_mem (f := List.map StyledText.chars) hrow)
    rwa [List.length_map, hcount row hrow] at hfits
  rw [tableText, List.map_map, tableLines, List.map_flatMap, ← List.flatMap_singleton' (rows.map _),
    List.flatMap_map]
  refine List.flatMap_congr fun row hrow => ?_
  -- every row is as long as all columns together
  have htotal := hfit _ (List.mem_map_of_mem (List.mem_map_of_mem hrow))
  rw [length_rowText (hrows row hrow)] at htotal
  rw [columnWidths_of_fits h htotal]
  refine rowLines_of_fits ?_ (h row hrow) (hrows row hrow)
  rw [widths, List.length_map, List.length_range]

/-- The lines of a table whose rows fit are not cut. -/
theorem croppedTable_of_fits {limit : Nat} {columns : List Column} {rows : List (List StyledText)}
    (hcount : ∀ row ∈ rows, row.length = columns.length)
    (h : ∀ row ∈ rows, ∀ cell ∈ row, ∀ c ∈ cell.chars, Narrow c)
    (hfit : ∀ line ∈ tableText columns.length (rows.map (List.map StyledText.chars)),
      line.length ≤ limit) :
    ((tableLines limit columns rows).map (cropLine limit)).map lineChars
      = tableText columns.length (rows.map (List.map StyledText.chars)) := by
  have hlines := tableLines_of_fits hcount h hfit
  rw [← hlines, List.map_map]
  refine List.map_congr_left ?_
  intro line hline
  have hchars := allChars_tableLines Text.narrow_blank Text.narrow_ellipsis _ _ h line hline
  rw [Function.comp_apply, cropLine_of_fits hchars]
  refine hfit _ ?_
  rw [← hlines]
  exact List.mem_map_of_mem hline

end EnvLint.Report
