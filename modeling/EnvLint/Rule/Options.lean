import EnvLint.Pattern.Regex
import EnvLint.Rule.Meta

/-! # Options of the rule

    Where the accessor is imported from, and which names are server-only: those
    that a pattern matches, or those that a predicate picks if one is given. -/

namespace EnvLint

/-- A part as a caller gives it: of the kind it should be, or some other value. -/
inductive Given (α : Type) where
  /-- Of the right kind. -/
  | good (value : α)
  /-- Some other value. -/
  | other (value : Json)

/-- Import path of the accessor by default. -/
def defaultEnvSource : String := "@/env"

/-- Pattern of server-only names by default. -/
def defaultServerOnlyPattern : String := "^(?!NEXT_PUBLIC_).*"

/-- Option for the import path. -/
def envSourceOption : String := "envSource"

/-- Option for the pattern. -/
def serverOnlyPatternOption : String := "serverOnlyPattern"

/-- Names of all options. -/
def optionNames : List String := [envSourceOption, serverOnlyPatternOption]

/-- Options of the rule. -/
structure RuleOptions where
  /-- Import path of the accessor. -/
  envSource : String
  /-- Pattern of server-only names. -/
  pattern : Regex
  /-- Picks server-only names in place of the pattern. -/
  predicate : Option (String → Bool)

namespace RuleOptions

/-- Whether a name is server-only. -/
def isServerOnly (o : RuleOptions) (name : String) : Bool :=
  match o.predicate with
  | some p => p name
  | none => o.pattern.search name

/-- Makes options from parts, if each is of the right kind. -/
def make (envSource : Given String) (pattern : Given Regex)
    (predicate : Option (Given (String → Bool))) : Except Failure RuleOptions :=
  match envSource with
  | .other _ | .good "" => .error (.misuse .envSource)
  | .good envSource =>
      match pattern with
      | .other v => .error (.misuse (.patternKind v.kind))
      | .good pattern =>
          match predicate with
          | some (.other _) => .error (.misuse .predicate)
          | some (.good p) => .ok ⟨envSource, pattern, some p⟩
          | none => .ok ⟨envSource, pattern, none⟩

/-- Reads a pattern for a rule.  What the reader cannot count fails as it is, other
    faults refuse the option. -/
def readPattern [Host] (ruleName source : String) : Except Failure Regex :=
  match Regex.compile source with
  | .ok r => .ok r
  | .error fault =>
      match fault with
      | .located .. | .general _ => .error (.ofRule ruleName (.badPattern source fault))
      | fault => .error (.pattern fault)

/-- A text option: its value if it is given and not empty, else the default. -/
def textOption (ruleName key default : String) (options : List (String × Json)) :
    Except Failure String :=
  match Json.lookup key options with
  | none => .ok default
  | some (.str "") => .ok default
  | some (.str s) => .ok s
  | some _ => .error (.ofRule ruleName (.optionNotText key))

/-- Names of options that mean nothing, in order. -/
def unknownOptions (options : List (String × Json)) : List String :=
  ((options.map Prod.fst).filter fun k => !optionNames.contains k).mergeSort

/-- Reads options given as an object. -/
def ofFields [Host] (ruleName : String) (options : List (String × Json)) :
    Except Failure RuleOptions := do
  let unknown := unknownOptions options
  if !unknown.isEmpty then .error (.ofRule ruleName (.unknownOptions unknown))
  else
    let envSource ← textOption ruleName envSourceOption defaultEnvSource options
    let source ← textOption ruleName serverOnlyPatternOption defaultServerOnlyPattern options
    let pattern ← readPattern ruleName source
    .ok ⟨envSource, pattern, none⟩

/-- Reads options; none at all are the defaults. -/
def ofJson [Host] (ruleName : String) (options : Json) : Except Failure RuleOptions :=
  match options with
  | .null => ofFields ruleName []
  | .obj fields => ofFields ruleName fields
  | v => .error (.ofRule ruleName (.optionsKind v.kind))

end RuleOptions

end EnvLint
