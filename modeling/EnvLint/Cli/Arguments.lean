import EnvLint.Cli.Token
import EnvLint.Decimal.Numeral
import EnvLint.File.Path
import EnvLint.Lint.Diagnostic
import EnvLint.Lint.Discover

/-! # Arguments of the command

    What an argument list asks for.  Options act in order and the last of a kind
    wins; paths stand together in one group, and plain arguments outside of it
    mean nothing.  The help and the version end the reading where they stand. -/

namespace EnvLint.Cli

/-- How the report is written. -/
inductive Format where
  /-- For people, as a table. -/
  | console
  /-- For people and other tools, line by line. -/
  | plain
  /-- For other tools. -/
  | json
deriving DecidableEq, Repr

/-- What a run is asked to do. -/
structure Arguments where
  /-- Files and directories. -/
  paths : List Path
  /-- Configuration file. -/
  config : Option Path
  /-- Where the accessor is imported from. -/
  envSource : Option String
  /-- Pattern of the server-only names. -/
  serverOnlyPattern : Option String
  /-- Severity of the rule, of which none is off. -/
  severity : Option (Option Severity)
  /-- Format of the report. -/
  format : Format
  /-- Glob for directories. -/
  pattern : String
  /-- Number of workers. -/
  jobs : Int
  /-- Whether colours are switched off. -/
  noColor : Bool
  /-- How often more log lines were asked for. -/
  verbosity : Nat
deriving DecidableEq, Repr

/-- Why reading an argument list ends early. -/
inductive Stop where
  /-- The help is asked for. -/
  | help
  /-- The version is asked for. -/
  | version
  /-- The list is refused. -/
  | refused (fault : UsageFault)
deriving DecidableEq, Repr

namespace Arguments

/-- What is asked for by no arguments. -/
def blank : Arguments where
  paths := []
  config := none
  envSource := none
  serverOnlyPattern := none
  severity := none
  format := .console
  pattern := defaultPattern
  jobs := 1
  noColor := false
  verbosity := 0

/-- Reads a severity. -/
def readSeverity (s : String) : Except Stop (Option Severity) :=
  if s = "error" then .ok (some .error)
  else if s = "warn" then .ok (some .warning)
  else if s = "off" then .ok none
  else .error (.refused (.badChoice .severity s severityChoices))

/-- Reads a format. -/
def readFormat (s : String) : Except Stop Format :=
  if s = "console" then .ok .console
  else if s = "plain" then .ok .plain
  else if s = "json" then .ok .json
  else .error (.refused (.badChoice .format s formatChoices))

/-- Reads a number of workers. -/
def readJobs (s : String) : Except Stop Int :=
  match Decimal.readInt? s.toList with
  | some n => .ok n
  | none => .error (.refused (.notNumber .jobs s))

/-- Acts on an option and its value. -/
def use (a : Arguments) (option : Opt) (value : String) : Except Stop Arguments :=
  match option with
  | .help => .error .help
  | .version => .error .version
  | .config => .ok { a with config := some (.ofString value) }
  | .envSource => .ok { a with envSource := some value }
  | .serverOnlyPattern => .ok { a with serverOnlyPattern := some value }
  | .severity => (readSeverity value).map fun s => { a with severity := some s }
  | .format => (readFormat value).map fun f => { a with format := f }
  | .pattern => .ok { a with pattern := value }
  | .jobs => (readJobs value).map fun n => { a with jobs := n }
  | .noColor => .ok { a with noColor := true }
  | .verbose => .ok { a with verbosity := a.verbosity + 1 }

/-- Acts on uses in order. -/
def useAll (a : Arguments) (uses : List Use) : Except Stop Arguments :=
  uses.foldlM (fun a u => a.use u.1 (u.2.getD "")) a

end Arguments

/-- Where reading stands with the group of paths. -/
inductive Group where
  /-- No path was seen. -/
  | ahead
  /-- The last argument was a path. -/
  | inside
  /-- An option came after the paths. -/
  | behind
deriving DecidableEq, Repr

/-- How far reading has come. -/
structure Reading where
  /-- What is asked for so far. -/
  args : Arguments
  /-- Where the paths are. -/
  group : Group
  /-- Arguments that mean nothing. -/
  strays : List String
deriving DecidableEq, Repr

namespace Reading

/-- Before the first argument. -/
def start : Reading := ⟨.blank, .ahead, []⟩

/-- Puts an argument aside. -/
def stray (r : Reading) (text : String) : Reading := { r with strays := r.strays ++ [text] }

/-- Takes a path, if the group of paths is not over. -/
def plain (r : Reading) (text : String) : Reading :=
  match r.group with
  | .behind => r.stray text
  | _ =>
      { r with
        group := .inside
        args := { r.args with paths := r.args.paths ++ [.ofString text] } }

/-- Takes the divider, which belongs to the group of paths; it cannot make one. -/
def divider (r : Reading) (last : Bool) : Reading :=
  match r.group with
  | .inside => r
  | .ahead => if last then r.stray "--" else r
  | .behind => r.stray "--"

/-- Ends the group of paths, if it has begun. -/
def close (r : Reading) : Reading :=
  match r.group with
  | .inside => { r with group := .behind }
  | _ => r

/-- Acts on a complete cluster. -/
def cluster (r : Reading) (c : Cluster) : Except Stop Reading := do
  let args ← r.args.useAll c.uses
  let r := { r.close with args }
  .ok (match c.stray? with
    | some text => r.stray text
    | none => r)

end Reading

/-- What a token asks for, if it is an option. -/
def Token.cluster? : Token → Option (Except UsageFault Cluster)
  | .long option none => some (.ok (.bare option))
  | .long option (some value) => some (Cluster.ofLong option value)
  | .short option none => some (.ok (.bare option))
  | .short option (some attached) => some (Cluster.ofShort option attached.equals attached.value)
  | _ => none

/-- Reads tokens. -/
def Reading.readTokens (r : Reading) : List Token → Except Stop Reading
  | [] => .ok r
  | .plain text :: rest => (r.plain text).readTokens rest
  | .divider :: rest => (r.divider rest.isEmpty).readTokens rest
  | .unknown text :: rest => (r.close.stray text).readTokens rest
  | token :: rest =>
      match token.cluster? with
      | none => r.readTokens rest
      | some cluster => do
          let c ← cluster.mapError Stop.refused
          match c.open?, rest with
          | none, rest => (← r.cluster c).readTokens rest
          | some option, .plain value :: rest =>
              (← r.cluster { c with uses := c.uses ++ [(option, some value)] }).readTokens rest
          | some option, _ => .error (.refused (.missingValue option))

/-- Accepts what was read, if there are paths and nothing was put aside. -/
def Reading.finish (r : Reading) : Except Stop Arguments :=
  if r.args.paths.isEmpty then .error (.refused .noPaths)
  else if r.strays.isEmpty then .ok r.args
  else .error (.refused (.unrecognized r.strays))

/-- Reads an argument list. -/
def Arguments.read (argv : List String) : Except Stop Arguments := do
  let tokens ← (Token.readAll argv).mapError Stop.refused
  (← Reading.start.readTokens tokens).finish

end EnvLint.Cli
