import EnvLint.Rule.Options

/-! # Rule settings

    At which severity a rule runs and with which options.  A setting is written
    as a level, or as a list of a level and an object of options; the levels
    `off` and 0 turn a rule off. -/

namespace EnvLint

/-- The levels by their spelling; none is off. -/
def levels : List (Json × Option Severity) :=
  [(.str "off", none), (.str "warn", some .warning), (.str "error", some .error),
    (.int 0, none), (.int 1, some .warning), (.int 2, some .error)]

/-- Reads a level; none is off.  The refusal of any other value shows it. -/
def readLevel [Host] (ruleId : String) (raw : Json) : Except Failure (Option Severity) :=
  match levels.find? fun l => l.1 == raw with
  | some l => .ok l.2
  | none => do
      Failure.checkStack (.write raw)
      checkNumbers raw.integers
      .error (.ofRule ruleId (.badLevel raw))

/-- Severity and options of an enabled rule. -/
structure Setting where
  /-- Severity of what the rule reports. -/
  severity : Severity
  /-- Options, to be read by the rule itself. -/
  options : List (String × Json)
deriving DecidableEq, Repr

namespace Setting

/-- Errors, without options. -/
def standard : Setting := ⟨.error, []⟩

/-- Makes a setting from parts, if each is of the right kind. -/
def make (severity : Given Severity) (options : Json) : Except Failure Setting :=
  match severity with
  | .other v => .error (.misuse (.severityKind v.kind))
  | .good severity =>
      match options with
      | .obj fields => .ok ⟨severity, fields⟩
      | v => .error (.misuse (.settingOptionsKind v.kind))

/-- A setting of a level that is not off. -/
def ofLevel (options : List (String × Json)) (level : Option Severity) : Option Setting :=
  level.map (⟨·, options⟩)

/-- Reads a setting; none is off. -/
def read [Host] (ruleId : String) (raw : Json) : Except Failure (Option Setting) :=
  match raw with
  | .arr [] => .error (.ofRule ruleId .emptySetting)
  | .arr [level] => (readLevel ruleId level).map (ofLevel [])
  | .arr [level, options] => do
      let level ← readLevel ruleId level
      match options with
      | .obj fields => .ok (ofLevel fields level)
      | _ => .error (.ofRule ruleId .settingOptions)
  | .arr _ => .error (.ofRule ruleId .longSetting)
  | level => (readLevel ruleId level).map (ofLevel [])

end Setting

end EnvLint
