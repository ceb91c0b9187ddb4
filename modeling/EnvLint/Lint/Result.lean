import EnvLint.Failure

/-! # Results

    What a run found, file by file, and the counts that reports show. -/

namespace EnvLint

/-- What was found in a file. -/
structure FileResult where
  /-- The file. -/
  path : Path
  /-- Diagnostics in document order. -/
  diagnostics : List Diagnostic
deriving DecidableEq, Repr

namespace FileResult

/-- Makes a result, if a file is given. -/
def make (path : Option Path) (diagnostics : List Diagnostic) : Except Failure FileResult :=
  match path with
  | none => .error (.misuse .noPath)
  | some path => .ok ⟨path, diagnostics⟩

/-- Number of errors. -/
def errorCount (f : FileResult) : Nat := f.diagnostics.countP fun d => d.severity == .error

/-- Number of warnings. -/
def warningCount (f : FileResult) : Nat := f.diagnostics.countP fun d => d.severity == .warning

/-- Whether nothing was found. -/
def clean (f : FileResult) : Bool := f.diagnostics.isEmpty

end FileResult

/-- What a run found. -/
structure LintResult where
  /-- Results in the order of the input. -/
  files : List FileResult
deriving DecidableEq, Repr

namespace LintResult

/-- All diagnostics, file by file. -/
def diagnostics (r : LintResult) : List Diagnostic := r.files.flatMap (·.diagnostics)

/-- Number of files. -/
def fileCount (r : LintResult) : Nat := r.files.length

/-- Number of errors. -/
def errorCount (r : LintResult) : Nat := r.diagnostics.countP fun d => d.severity == .error

/-- Number of warnings. -/
def warningCount (r : LintResult) : Nat :=
  r.diagnostics.countP fun d => d.severity == .warning

/-- Number of errors and warnings. -/
def problemCount (r : LintResult) : Nat := r.diagnostics.length

/-- Whether there are no errors; warnings do not fail a run. -/
def passed (r : LintResult) : Bool := r.errorCount == 0

end LintResult

/-- Fails if there are any diagnostics, warnings included. -/
def assertClean (diagnostics : List Diagnostic) : Except Failure Unit :=
  if diagnostics.isEmpty then .ok () else .error (.violations diagnostics)

/-- The marker that tests of this kind carry, and what it says. -/
def testMarker : String := "envcheck: mark test as env access lint test"

end EnvLint
