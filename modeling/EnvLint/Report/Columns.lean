import EnvLint.Decimal.Rounding
import EnvLint.Report.StyledText

/-! # Tables

    Rows of cells without borders: two blanks before a cell and one after it.  A
    column is as wide as its longest line.  If the columns are too wide together,
    the ones that may be broken shrink first, and what is still too much is taken
    evenly from all. -/

namespace EnvLint.Report

/-- A column of a table. -/
structure Column where
  /-- Style of the column, blanks included. -/
  style : Style
  /-- What happens to lines that are too long. -/
  overflow : StyledText.Overflow
deriving DecidableEq, Repr

/-- Blanks before a cell. -/
def leftBlanks : Nat := 2

/-- Blanks after a cell. -/
def rightBlanks : Nat := 1

/-- Blanks around a cell. -/
def cellBlanks : Nat := leftBlanks + rightBlanks

/-- The width that cells of a column ask for within a limit. -/
def columnWidth (limit : Nat) (cells : List StyledText) : Nat :=
  if limit < cellBlanks + 1 then limit
  else min limit ((cells.map StyledText.longest).foldl max 0 + cellBlanks)

/-- Takes up to `excess` from the columns that may be broken. -/
def shrinkBroken (excess : Nat) : List (Column × Nat) → List Nat
  | [] => []
  | (c, w) :: rest =>
      if c.overflow = .fold then
        (w - min w excess) :: shrinkBroken (excess - min w excess) rest
      else w :: shrinkBroken excess rest

/-- Takes `excess` from `count` columns that are not empty, evenly. -/
def shrinkEvenly (excess count : Nat) : List Nat → List Nat
  | [] => []
  | w :: rest =>
      if w = 0 then 0 :: shrinkEvenly excess count rest
      else
        let taken := min w (Decimal.roundHalfEven excess count)
        (w - taken) :: shrinkEvenly (excess - taken) (count - 1) rest

/-- Width of columns together. -/
def total (widths : List Nat) : Nat := widths.foldr (· + ·) 0

/-- Widths of the columns within a limit. -/
def columnWidths (limit : Nat) (columns : List (Column × List StyledText)) : List Nat :=
  let asked := columns.map fun c => columnWidth limit c.2
  if total asked ≤ limit then asked
  else
    let broken := shrinkBroken (total asked - limit) ((columns.map Prod.fst).zip asked)
    let even := if total broken ≤ limit then broken
      else shrinkEvenly (total broken - limit) (broken.countP (· ≠ 0)) broken
    (columns.zip even).map fun c => columnWidth c.2 c.1.2

/-- The lines of a cell; none if there is no room for a character. -/
def cellLines (c : Column) (width : Nat) (cell : StyledText) : List Line :=
  if width < cellBlanks + 1 then []
  else
    (cell.wrap c.overflow (width - cellBlanks)).map fun line =>
      ((TextRun.blanks leftBlanks .plain :: (line.pad (width - cellBlanks)).runs)
        ++ [TextRun.blanks rightBlanks .plain]).map (TextRun.withBase c.style)

/-- Fills the lines of a cell to a height. -/
def fillLines (c : Column) (width height : Nat) (lines : List Line) : List Line :=
  lines ++ List.replicate (height - lines.length) [.blanks width c.style]

/-- Puts the lines of neighbouring cells together. -/
def joinCells : (height : Nat) → List (List Line) → List Line
  | 0, _ => []
  | height + 1, cells =>
      cells.flatMap (fun lines => lines.headD []) :: joinCells height (cells.map (List.drop 1))

/-- The lines of a row. -/
def rowLines (columns : List (Column × Nat)) (row : List StyledText) : List Line :=
  let cells := (columns.zip row).map fun c => cellLines c.1.1 c.1.2 c.2
  let height := (cells.map List.length).foldl max 1
  joinCells height ((columns.zip cells).map fun c => fillLines c.1.1 c.1.2 height c.2)

/-- The lines of a table within a limit. -/
def tableLines (limit : Nat) (columns : List Column) (rows : List (List StyledText)) : List Line :=
  let cellsOf := fun i : Nat => rows.filterMap fun row => row[i]?
  let widths := columnWidths limit (columns.zipIdx.map fun c => (c.1, cellsOf c.2))
  rows.flatMap (rowLines (columns.zip widths))

end EnvLint.Report
