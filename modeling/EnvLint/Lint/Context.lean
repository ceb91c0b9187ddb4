import EnvLint.Rule.Meta
import EnvLint.Rule.Template

/-! # Reporting

    Where a rule reports what it finds in one file.  A report that fails leaves
    the diagnostics as they were. -/

namespace EnvLint

/-- The reports of one rule on one file. -/
structure Context where
  /-- Description of the rule. -/
  describes : Meta
  /-- Severity of its reports. -/
  severity : Severity
  /-- The file. -/
  path : Path
  /-- Reports in order. -/
  diagnostics : List Diagnostic
deriving DecidableEq, Repr

namespace Context

/-- No reports yet, if a file is given. -/
def start (describes : Meta) (severity : Severity) (path : Option Path) : Except Failure Context :=
  match path with
  | none => .error (.misuse .noFilePath)
  | some path => .ok ⟨describes, severity, path, []⟩

/-- Adds a report of a declared message. -/
def report (c : Context) (location : Option Location) (messageId : String)
    (data : List (String × Json)) : Except Failure Context := do
  let template ← c.describes.template messageId
  let d ← (Diagnostic.make c.describes.ruleId messageId (Template.interpolate template data)
    location c.severity data).mapError .diagnostic
  .ok { c with diagnostics := c.diagnostics ++ [d] }

end Context

end EnvLint
