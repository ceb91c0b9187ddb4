import EnvLint.Rule.Config

/-! # The rule

    A module that is rendered once and cached reads a server-only name at build
    time, and the value is frozen there.  This is the description of the one
    rule that flags such reads, and the list of all rules. -/

namespace EnvLint.Env

/-- Name of the rule. -/
def ruleId : String := "require-force-dynamic-for-env"

/-- Name of its message. -/
def messageId : String := "missingForceDynamic"

/-- The slot of its message. -/
def slotName : String := "varName"

/-- Template of its message. -/
def template : String :=
  "Server-only environment variable '\x7b\x7bvarName\x7d\x7d' is used without " ++
  "`export const dynamic = 'force-dynamic'`. " ++
  "This component will be statically rendered and only capture build-time values. " ++
  "Either add `export const dynamic = 'force-dynamic'` " ++
  "or use this variable in a dynamic component."

/-- Schema of one text option. -/
def textSchema (description default : String) : Json :=
  .obj [("type", .str "string"), ("description", .str description), ("default", .str default)]

/-- Schema of the options. -/
def schema : Json :=
  .obj [("type", .str "object"),
    ("properties", .obj [
      (envSourceOption,
        textSchema "The import source for env variables (e.g., '@/env')" defaultEnvSource),
      (serverOnlyPatternOption,
        textSchema "Regex pattern to match server-only env variable names"
          defaultServerOnlyPattern)]),
    ("additionalProperties", .bool false)]

/-- Description of the rule. -/
def description : Meta where
  ruleId := ruleId
  type := .problem
  description :=
    "Require `export const dynamic = 'force-dynamic'` when using server-only environment variables"
  category := "Best Practices"
  recommended := true
  messages := [(messageId, template)]
  schema := [schema]

/-- Reads the options of the rule. -/
def readOptions [Host] (options : Json) : Except Failure RuleOptions :=
  RuleOptions.ofJson ruleId options

end EnvLint.Env

namespace EnvLint

/-- All rules by name. -/
def rules : List (String × Meta) := [(Env.ruleId, Env.description)]

/-- Names of all rules, in order. -/
def ruleIds : List String := (rules.map Prod.fst).mergeSort

/-- The description of a rule. -/
def findRule (ruleId : String) : Except Failure Meta :=
  match rules.find? fun r => r.1 == ruleId with
  | some r => .ok r.2
  | none => .error (.ofRule ruleId (.unknownRule ruleIds))

/-- Every recommended rule, at errors and without options. -/
def defaultConfig : Config :=
  ⟨(rules.filter fun r => r.2.recommended).map fun r => (r.1, .standard)⟩

end EnvLint
