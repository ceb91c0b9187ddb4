import EnvLint.Text.Letters
import EnvLint.Text.Quoted

/-! # Options of the command

    The options that the command knows, how they are spelled, and why an argument
    list is refused. -/

namespace EnvLint.Cli

/-- An option of the command. -/
inductive Opt where
  /-- Show the help. -/
  | help
  /-- Configuration file. -/
  | config
  /-- Where the accessor is imported from. -/
  | envSource
  /-- Pattern of the server-only names. -/
  | serverOnlyPattern
  /-- Severity of the rule. -/
  | severity
  /-- Format of the report. -/
  | format
  /-- Glob for directories. -/
  | pattern
  /-- Number of workers. -/
  | jobs
  /-- No colours. -/
  | noColor
  /-- More log lines. -/
  | verbose
  /-- Show the version. -/
  | version
deriving DecidableEq, Repr

namespace Opt

/-- All options, in the order of the help. -/
def all : List Opt :=
  [.help, .config, .envSource, .serverOnlyPattern, .severity, .format, .pattern, .jobs, .noColor,
    .verbose, .version]

/-- How an option may be spelled. -/
def spellings : Opt → List String
  | .help => ["-h", "--help"]
  | .config => ["--config"]
  | .envSource => ["--env-source"]
  | .serverOnlyPattern => ["--server-only-pattern"]
  | .severity => ["--severity"]
  | .format => ["--format"]
  | .pattern => ["--pattern"]
  | .jobs => ["--jobs", "-j"]
  | .noColor => ["--no-color"]
  | .verbose => ["--verbose", "-v"]
  | .version => ["--version"]

/-- Whether an option is followed by a value. -/
def takesValue : Opt → Bool
  | .help | .noColor | .verbose | .version => false
  | _ => true

/-- Name of an option in messages. -/
def name (o : Opt) : String := "/".intercalate o.spellings

/-- All spellings with their options, in order. -/
def table : List (List Char × Opt) :=
  all.flatMap fun o => o.spellings.map fun s => (s.toList, o)

/-- The option of a spelling. -/
def ofSpelling? (cs : List Char) : Option Opt :=
  (table.find? fun row => row.1 == cs).map Prod.snd

/-- The long spellings that a text abbreviates, with their options. -/
def abbreviated (cs : List Char) : List (List Char × Opt) :=
  table.filter fun row => cs.isPrefixOf row.1

end Opt

/-- The levels that can be asked for; none is off. -/
def severityChoices : List String := ["error", "warn", "off"]

/-- The formats that can be asked for. -/
def formatChoices : List String := ["console", "plain", "json"]

/-- Why an argument list is refused. -/
inductive UsageFault where
  /-- An abbreviation of several options. -/
  | ambiguous (given : String) (matching : List String)
  /-- A value for an option that takes none. -/
  | ignoredValue (option : Opt) (value : String)
  /-- An option without its value. -/
  | missingValue (option : Opt)
  /-- A value that is no whole number. -/
  | notNumber (option : Opt) (value : String)
  /-- A value that is none of the choices. -/
  | badChoice (option : Opt) (value : String) (choices : List String)
  /-- No paths. -/
  | noPaths
  /-- Arguments that mean nothing. -/
  | unrecognized (given : List String)
  /-- Fewer workers than one. -/
  | tooFewJobs
deriving DecidableEq, Repr

/-- Wording of a fault of one option. -/
def Opt.complaint (o : Opt) (words : String) : String :=
  "argument " ++ o.name ++ ": " ++ words

/-- Wording of a usage fault. -/
def UsageFault.message : UsageFault → String
  | .ambiguous given matching =>
      "ambiguous option: " ++ given ++ " could match " ++ ", ".intercalate matching
  | .ignoredValue option value =>
      option.complaint ("ignored explicit argument " ++ Text.quote value)
  | .missingValue option => option.complaint "expected one argument"
  | .notNumber option value => option.complaint ("invalid int value: " ++ Text.quote value)
  | .badChoice option value choices =>
      option.complaint ("invalid choice: " ++ Text.quote value ++ " (choose from "
        ++ ", ".intercalate (choices.map Text.quote) ++ ")")
  | .noPaths => "the following arguments are required: paths"
  | .unrecognized given => "unrecognized arguments: " ++ " ".intercalate given
  | .tooFewJobs => "--jobs must be >= 1"

end EnvLint.Cli
