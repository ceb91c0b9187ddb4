import EnvLint.Host
import EnvLint.Report.Style
import EnvLint.Text.Cells

/-! # Text runs

    The pieces that a report is printed from: characters of one style.  The same
    runs print with terminal codes or without. -/

namespace EnvLint.Report

/-- Characters of one style. -/
structure TextRun where
  /-- The characters. -/
  chars : List Char
  /-- Their style. -/
  style : Style
deriving DecidableEq, Repr

/-- A printed line. -/
abbrev Line : Type := List TextRun

namespace TextRun

/-- Blanks of a style. -/
def blanks (n : Nat) (style : Style) : TextRun := ⟨List.replicate n ' ', style⟩

/-- The run with another style below its own. -/
def withBase (base : Style) (s : TextRun) : TextRun := { s with style := base.add s.style }

/-- Terminal codes as a control sequence. -/
def control (codes : List Nat) : List Char :=
  '\x1b' :: '[' :: (";".intercalate (codes.map toString)).toList ++ ['m']

/-- The start of a link, by its number and address. -/
def linkStart (number : Nat) (address : String) : List Char :=
  ("\x1b]8;id=" ++ toString number ++ ";" ++ address ++ "\x1b\\").toList

/-- The end of a link. -/
def linkEnd : List Char := "\x1b]8;;\x1b\\".toList

/-- A run between the codes of its style. -/
def coded (s : TextRun) : List Char :=
  if s.style.codes.isEmpty then s.chars else control s.style.codes ++ s.chars ++ control [0]

/-- A run as printed, with codes or without; a number tells its link from others. -/
def print (codes : Bool) (number : Nat) (s : TextRun) : List Char :=
  if codes && !s.chars.isEmpty then
    match s.style.link with
    | some address => linkStart number address ++ s.coded ++ linkEnd
    | none => s.coded
  else s.chars

end TextRun

/-- Lines as printed. -/
def printLines [Host] (codes : Bool) (lines : List Line) : List Char :=
  lines.zipIdx.flatMap fun line =>
    line.1.zipIdx.flatMap (fun s => s.1.print codes (Host.linkNumber line.2 s.2)) ++ ['\n']

/-- Cuts a line to a width. -/
def cropLine : (width : Nat) → Line → Line
  | _, [] => []
  | width, s :: rest =>
      let n := Text.cells s.chars
      if n ≤ width then s :: cropLine (width - n) rest
      else if width = 0 then []
      else [{ s with chars := Text.fitCells width s.chars }]

end EnvLint.Report
