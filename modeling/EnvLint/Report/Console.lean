import EnvLint.Failure
import EnvLint.Report.Summary
import EnvLint.Report.Columns

/-! # Reports for a terminal

    Diagnostics in one table per file, below the underlined path, and a summary
    line in the colour of the worst finding.

    A report in colour is made for a terminal, whatever it is written to.  If the
    terminal is a dumb one, no codes are printed, and the report has the width of
    such terminals. -/

namespace EnvLint.Report

/-- How a terminal report looks. -/
structure ConsoleConfig where
  /-- Whether terminal codes are printed. -/
  color : Bool
  /-- Width in cells. -/
  width : Nat
  /-- Whether files without diagnostics are listed. -/
  showClean : Bool
deriving DecidableEq, Repr

namespace ConsoleConfig

/-- In colour, 120 cells wide, clean files left out. -/
def standard : ConsoleConfig := ⟨true, 120, false⟩

/-- Makes a configuration, if the report is wide enough. -/
def make (color : Bool) (width : Int) (showClean : Bool) : Except Failure ConsoleConfig :=
  if width < 40 then .error (.misuse (.narrow width)) else .ok ⟨color, width.toNat, showClean⟩

/-- Width of a dumb terminal. -/
def dumbWidth : Nat := 80

variable [Host]

/-- Whether the report is made for a dumb terminal. -/
def isDumb (config : ConsoleConfig) : Bool := config.color && Host.terminal.dumb

/-- The width that a report gets. -/
def usedWidth (config : ConsoleConfig) : Nat :=
  if config.isDumb && !Host.terminal.sized then dumbWidth else config.width

/-- Whether codes are printed. -/
def printsCodes (config : ConsoleConfig) : Bool := config.color && !config.isDumb

end ConsoleConfig

/-- A text between the tags of a style. -/
def tagged (tag : String) (inside : List Char) : List Char :=
  ("[" ++ tag ++ "]").toList ++ inside ++ ("[/" ++ tag ++ "]").toList

/-- Colour of a severity. -/
def severityTag : Severity → String
  | .error => "red"
  | .warning => "yellow"

/-- The columns of a table of diagnostics: position, severity, message and rule. -/
def columns : List Column :=
  [⟨.ofAttribute .dim, .ellipsis⟩, ⟨.plain, .ellipsis⟩, ⟨.plain, .fold⟩,
    ⟨.ofAttribute .dim, .ellipsis⟩]

/-- The cells of a diagnostic as markup. -/
def rowMarkup (d : Diagnostic) : List (List Char) :=
  [(position d.location).toList, tagged (severityTag d.severity) d.severity.label.toList,
    Markup.escape d.message.toList, d.ruleId.toList]

/-- Colour and sign of a summary. -/
def summarySign (r : LintResult) : String × String :=
  if r.errorCount ≠ 0 then ("bold red", "✖ ")
  else if r.warningCount ≠ 0 then ("bold yellow", "⚠ ")
  else ("bold green", "✔ ")

section Host

variable [Host]

/-- Reads markup. -/
def readMarkup (cs : List Char) : Except Failure StyledText :=
  (Markup.render cs).mapError .markup

/-- Markup as lines of a width. -/
def markupLines (width : Nat) (cs : List Char) : Except Failure (List Line) := do
  let text ← readMarkup cs
  .ok ((text.wrap .fold width).map fun line => cropLine width line.runs)

/-- The cells of a diagnostic. -/
def rowCells (d : Diagnostic) : Except Failure (List StyledText) := (rowMarkup d).mapM readMarkup

/-- The lines about what was found in a file. -/
def findingLines (config : ConsoleConfig) (f : FileResult) : Except Failure (List Line) :=
  if f.clean then markupLines config.usedWidth ("  ".toList ++ tagged "green" "clean".toList)
  else do
    checkNumbers (f.diagnostics.flatMap fun d => positionNumbers d.location)
    let rows ← f.diagnostics.mapM rowCells
    .ok ((tableLines config.usedWidth columns rows).map (cropLine config.usedWidth))

/-- The lines about a file: its path, what was found and an empty line. -/
def fileLines (config : ConsoleConfig) (f : FileResult) : Except Failure (List Line) := do
  let path ← markupLines config.usedWidth (tagged "underline" (Markup.escape f.path.text.toList))
  let findings ← findingLines config f
  .ok (path ++ findings ++ [[]])

/-- The lines of the summary. -/
def summaryLines (config : ConsoleConfig) (r : LintResult) : Except Failure (List Line) :=
  let (tag, sign) := summarySign r
  markupLines config.usedWidth (tagged tag (sign.toList ++ Markup.escape (summary r).toList))

/-- The lines of a terminal report. -/
def consoleLines (config : ConsoleConfig) (r : LintResult) : Except Failure (List Line) := do
  let files ← (r.files.filter fun f => config.showClean || !f.clean).mapM (fileLines config)
  let last ← summaryLines config r
  .ok (files.flatten ++ last)

/-- A terminal report. -/
def console (config : ConsoleConfig) (r : LintResult) : Except Failure String := do
  let lines ← consoleLines config r
  .ok (String.ofList (printLines config.printsCodes lines))

end Host

end EnvLint.Report
