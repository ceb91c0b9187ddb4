import EnvLint.Failure

/-! # Rule descriptions

    What is published about a rule: its name, kind and description, and the
    templates of its messages. -/

namespace EnvLint

/-- Kind of a rule. -/
inductive RuleType where
  /-- Code that will misbehave. -/
  | problem
  /-- Code that could be done better. -/
  | suggestion
  /-- Formatting only. -/
  | layout
deriving DecidableEq, Repr

namespace RuleType

/-- Word of a rule type. -/
def name : RuleType → String
  | .problem => "problem"
  | .suggestion => "suggestion"
  | .layout => "layout"

/-- Reads a rule type. -/
def ofJson (v : Json) : Except Failure RuleType :=
  match v with
  | .str "problem" => .ok .problem
  | .str "suggestion" => .ok .suggestion
  | .str "layout" => .ok .layout
  | v => .error (.misuse (.ruleType v))

end RuleType

/-- Description of a rule. -/
structure Meta where
  /-- Name of the rule. -/
  ruleId : String
  /-- Kind of the rule. -/
  type : RuleType
  /-- One line about the rule. -/
  description : String
  /-- Category in the documentation. -/
  category : String
  /-- Whether the default configuration enables the rule. -/
  recommended : Bool
  /-- Templates by message name. -/
  messages : List (String × String)
  /-- Schema of the options. -/
  schema : List Json
deriving DecidableEq, Repr

namespace Meta

/-- Accepts a description that has a name, a text and messages, none of them empty. -/
def check (m : Meta) : Except Failure Meta :=
  if m.ruleId = "" then .error (.misuse .noRuleId)
  else if m.description = "" then .error (.misuse .noDescription)
  else if m.messages.isEmpty then .error (.misuse .noMessages)
  else
    match m.messages.find? fun t => t.2 == "" with
    | some t => .error (.misuse (.emptyTemplate t.1))
    | none => .ok m

/-- The template of a message. -/
def template (m : Meta) (id : String) : Except Failure String :=
  match m.messages.find? fun t => t.1 == id with
  | some t => .ok t.2
  | none => .error (.ofRule m.ruleId (.unknownMessage id))

/-- Options of a rule that takes none: nothing but an empty value is accepted. -/
def noOptions (m : Meta) (options : Json) : Except Failure Unit :=
  if options.truthy then .error (.ofRule m.ruleId .takesNoOptions) else .ok ()

end Meta

end EnvLint
