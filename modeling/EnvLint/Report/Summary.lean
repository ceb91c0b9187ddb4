import EnvLint.Lint.Result

/-! # What all reports share

    Positions are shown with columns counted from one, and every report for
    people ends with a summary line.  A number with more digits than a document
    may have is not shown: counting columns from one can make such a number. -/

namespace EnvLint.Report

/-- A number as text. -/
def intString (n : Int) : String := String.ofList (Decimal.intText n)

/-- The column counted from one. -/
def displayColumn (l : Location) : Int := l.column.val + 1

/-- A position as `line:column`. -/
def position (l : Location) : String := l.line.text ++ ":" ++ intString (displayColumn l)

/-- The numbers of a position. -/
def positionNumbers (l : Location) : List Int := [l.line.val, displayColumn l]

/-- How many problems a run found, by counts. -/
def summaryOf (files problems errors warnings : Nat) : String :=
  if problems = 0 then "No problems found in " ++ toString files ++ " file(s)"
  else
    toString problems ++ " problem(s) (" ++ toString errors ++ " error(s), " ++ toString warnings
      ++ " warning(s))"

/-- How many problems a run found. -/
def summary (r : LintResult) : String :=
  summaryOf r.fileCount r.problemCount r.errorCount r.warningCount

end EnvLint.Report
