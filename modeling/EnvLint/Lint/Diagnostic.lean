import EnvLint.Tree.Location

/-! # Diagnostics

    What a rule reports: the rule, the message and where it applies.  A
    diagnostic is only made with names, a message and a place. -/

namespace EnvLint

/-- How serious a diagnostic is.  A rule that is off has no severity at all. -/
inductive Severity where
  /-- Fails the run. -/
  | error
  /-- Is reported, and the run still passes. -/
  | warning
deriving DecidableEq, Repr

namespace Severity

/-- Name of a severity. -/
def name : Severity → String
  | .error => "ERROR"
  | .warning => "WARNING"

/-- Word of a severity in reports. -/
def label : Severity → String
  | .error => "error"
  | .warning => "warning"

/-- Number of a severity. -/
def level : Severity → Nat
  | .error => 2
  | .warning => 1

end Severity

/-- Why parts make no diagnostic. -/
inductive DiagnosticFault where
  /-- The rule has no name. -/
  | noRule
  /-- The message has no name. -/
  | noMessageId
  /-- The message is empty. -/
  | noMessage
  /-- There is no place. -/
  | noLocation
deriving DecidableEq, Repr

/-- Wording of a fault. -/
def DiagnosticFault.message : DiagnosticFault → String
  | .noRule => "rule_id must not be empty"
  | .noMessageId => "message_id must not be empty"
  | .noMessage => "message must not be empty"
  | .noLocation => "location must not be None"

/-- A reported violation. -/
structure Diagnostic where
  /-- Name of the rule. -/
  ruleId : String
  /-- Name of the message. -/
  messageId : String
  /-- The message, its slots filled. -/
  message : String
  /-- Where it applies. -/
  location : Location
  /-- How serious it is. -/
  severity : Severity
  /-- What the slots were filled with. -/
  data : List (String × Json)
deriving DecidableEq, Repr

namespace Diagnostic

/-- Makes a diagnostic, if nothing is missing. -/
def make (ruleId messageId message : String) (location : Option Location) (severity : Severity)
    (data : List (String × Json)) : Except DiagnosticFault Diagnostic :=
  if ruleId = "" then .error .noRule
  else if messageId = "" then .error .noMessageId
  else if message = "" then .error .noMessage
  else
    match location with
    | none => .error .noLocation
    | some location => .ok ⟨ruleId, messageId, message, location, severity, data⟩

/-- A diagnostic on one line. -/
def text (d : Diagnostic) : String :=
  d.location.text ++ " [" ++ d.severity.name ++ "] " ++ d.ruleId ++ ": " ++ d.message

/-- Document order within a file. -/
def le (a b : Diagnostic) : Bool := a.location.le b.location

end Diagnostic

end EnvLint
