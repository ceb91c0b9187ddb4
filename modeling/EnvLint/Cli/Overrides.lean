import EnvLint.Cli.Arguments
import EnvLint.Env.Rule
import EnvLint.Rule.Load

/-! # The configuration of a run

    The configuration file, or the default, with the rule changed as the options
    of the command ask. -/

namespace EnvLint.Cli

/-- Options of the rule that the arguments set. -/
def Arguments.overrides (a : Arguments) : List (String × Json) :=
  (a.envSource.toList.map fun s => (envSourceOption, Json.str s)) ++
    a.serverOnlyPattern.toList.map fun s => (serverOnlyPatternOption, .str s)

/-- Sets options: a known one keeps its place, a new one goes to the end. -/
def setOptions (options new : List (String × Json)) : List (String × Json) :=
  new.foldl (fun options o => Json.setField options o.1 o.2) options

/-- Changes the rule in a configuration as the arguments ask. -/
def Arguments.override (a : Arguments) (c : Config) : Config :=
  if a.severity.isNone && a.overrides.isEmpty then c
  else
    let current := (c.get? Env.ruleId).getD .standard
    match a.severity.getD (some current.severity) with
    | none => ⟨Config.erase c.rules Env.ruleId⟩
    | some severity =>
        ⟨Config.insert c.rules Env.ruleId ⟨severity, setOptions current.options a.overrides⟩⟩

/-- The configuration of a run. -/
def Arguments.resolve [Host] (a : Arguments) (d : Disk) : Except Failure Config := do
  let c ← match a.config with
    | some path => Config.load d path
    | none => .ok defaultConfig
  .ok (a.override c)

end EnvLint.Cli
