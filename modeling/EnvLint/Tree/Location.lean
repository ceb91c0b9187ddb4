import EnvLint.File.Path
import EnvLint.Json.Show

/-! # Locations

    Where a node stands in a document: a line counted from one, a column counted
    from zero, and the end if the tree has one.  A location is only made from
    numbers that fit together; the checks run in a fixed order, so a location
    with two faults is refused for the first. -/

namespace EnvLint

/-- A line or column number.  A truth value counts as one or zero and keeps its
    spelling. -/
inductive Coord where
  /-- A whole number. -/
  | number (n : Int)
  /-- A truth value in place of a number. -/
  | flag (b : Bool)
deriving DecidableEq, Repr

namespace Coord

/-- The number that a coordinate stands for. -/
def val : Coord → Int
  | .number n => n
  | .flag b => if b then 1 else 0

/-- The value that a coordinate was read from. -/
def toJson : Coord → Json
  | .number n => .int n
  | .flag b => .bool b

/-- A coordinate as text. -/
def text (c : Coord) : String := c.toJson.text

/-- Reads a coordinate. -/
def ofJson? : Json → Option Coord
  | .int n => some (.number n)
  | .bool b => some (.flag b)
  | _ => none

end Coord

/-- Why numbers make no location. -/
inductive LocationFault where
  /-- No file is given. -/
  | noFile
  /-- The line is not positive. -/
  | line (given : Coord)
  /-- The column is negative. -/
  | column (given : Coord)
  /-- The end lies on an earlier line. -/
  | endLine (given start : Coord)
  /-- The end column is negative. -/
  | endColumn (given : Coord)
  /-- The end lies before the start on one line. -/
  | endBeforeStart (given start : Coord)
deriving DecidableEq, Repr

/-- Wording of a location fault. -/
def LocationFault.message : LocationFault → String
  | .noFile => "file must not be None"
  | .line given => "line must be > 0, got " ++ given.text
  | .column given => "column must be >= 0, got " ++ given.text
  | .endLine given start => "end_line (" ++ given.text ++ ") must be >= line (" ++ start.text ++ ")"
  | .endColumn given => "end_column must be >= 0, got " ++ given.text
  | .endBeforeStart given start =>
      "end_column (" ++ given.text ++ ") must be >= column (" ++ start.text ++ ") on one line"

/-- A place in a document. -/
structure Location where
  /-- The document. -/
  file : Path
  /-- Line of the start, from one. -/
  line : Coord
  /-- Column of the start, from zero. -/
  column : Coord
  /-- Line of the end. -/
  endLine : Option Coord
  /-- Column of the end. -/
  endColumn : Option Coord
deriving DecidableEq, Repr

namespace Location

/-- Makes a location, if a file is given and the numbers fit together. -/
def make (file : Option Path) (line column : Coord) (endLine endColumn : Option Coord) :
    Except LocationFault Location :=
  match file with
  | none => .error .noFile
  | some file =>
      if line.val ≤ 0 then .error (.line line)
      else if column.val < 0 then .error (.column column)
      else if let some l := endLine.filter (·.val < line.val) then .error (.endLine l line)
      else if let some c := endColumn.filter (·.val < 0) then .error (.endColumn c)
      else if let some c := endColumn.filter fun c =>
          endLine.any (·.val == line.val) && decide (c.val < column.val) then
        .error (.endBeforeStart c column)
      else .ok ⟨file, line, column, endLine, endColumn⟩

/-- Document order within a file: by line, then by column. -/
def le (a b : Location) : Bool :=
  a.line.val < b.line.val || (a.line.val == b.line.val && a.column.val ≤ b.column.val)

/-- `file:line:column`, with the column as the tree has it. -/
def text (l : Location) : String :=
  l.file.text ++ ":" ++ l.line.text ++ ":" ++ l.column.text

/-- The start of a document. -/
def startOf (file : Path) : Location :=
  ⟨file, .number 1, .number 0, none, none⟩

end Location

/-- A start or end position: an object with a whole line and column. -/
def position? (v : Json) : Option (Coord × Coord) := do
  let line ← (v.get? "line").bind Coord.ofJson?
  let column ← (v.get? "column").bind Coord.ofJson?
  some (line, column)

/-- The positions that a node carries: its start, and its end if that is whole. -/
def span? (node : Json) : Option ((Coord × Coord) × Option (Coord × Coord)) := do
  let loc ← node.get? "loc"
  let start ← (loc.get? "start").bind position?
  some (start, (loc.get? "end").bind position?)

end EnvLint
