import EnvLint.Json.Encode
import EnvLint.Report.Summary

/-! # Reports for programs

    A report as a JSON list with one object per file.  Severities are numbers,
    and an end is given only if it is known as a whole. -/

namespace EnvLint.Report

/-- The end of a location, if it is known as a whole. -/
def endFields (l : Location) : List (String × Json) :=
  match l.endLine, l.endColumn with
  | some line, some column => [("endLine", line.toJson), ("endColumn", .int (column.val + 1))]
  | _, _ => []

/-- The numbers of the end of a location, if it is known as a whole. -/
def endNumbers (l : Location) : List Int :=
  match l.endLine, l.endColumn with
  | some line, some column => [line.val, column.val + 1]
  | _, _ => []

/-- A diagnostic as an object. -/
def messageObject (d : Diagnostic) : Json :=
  .obj ([("ruleId", .str d.ruleId), ("messageId", .str d.messageId),
    ("severity", .int d.severity.level), ("message", .str d.message),
    ("line", d.location.line.toJson), ("column", .int (displayColumn d.location))]
    ++ endFields d.location)

/-- A file as an object. -/
def fileObject (f : FileResult) : Json :=
  .obj [("filePath", .str f.path.text), ("messages", .arr (f.diagnostics.map messageObject)),
    ("errorCount", .int f.errorCount), ("warningCount", .int f.warningCount)]

/-- A report as a document. -/
def machineDocument (r : LintResult) : Json := .arr (r.files.map fileObject)

/-- How a report is laid out: on one line without an indent, else a line per item,
    and no blanks for an indent that is not positive. -/
def layoutOf : Option Int → Json.Layout
  | none => .compact
  | some n => .lines n.toNat

/-- A report for programs, if its numbers can be shown. -/
def machine (indent : Option Int) (r : LintResult) : Except Failure String := do
  checkNumbers (r.diagnostics.flatMap fun d => positionNumbers d.location ++ endNumbers d.location)
  .ok ((machineDocument r).encode (layoutOf indent) ++ "\n")

end EnvLint.Report
