import EnvLint.Report.Summary

/-! # Plain reports

    One line per diagnostic and a summary line. -/

namespace EnvLint.Report

/-- A diagnostic as a line. -/
def plainLine (d : Diagnostic) : String :=
  d.location.file.text ++ ":" ++ position d.location ++ ": " ++ d.severity.label ++ " "
    ++ d.message ++ " [" ++ d.ruleId ++ "]"

/-- The lines of a plain report. -/
def plainLines (r : LintResult) : List String := r.diagnostics.map plainLine ++ [summary r]

/-- A plain report, if its numbers can be shown. -/
def plain (r : LintResult) : Except Failure String := do
  checkNumbers (r.diagnostics.flatMap fun d => positionNumbers d.location)
  .ok ("\n".intercalate (plainLines r) ++ "\n")

end EnvLint.Report
