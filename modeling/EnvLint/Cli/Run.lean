import EnvLint.Cli.Overrides
import EnvLint.Cli.Usage
import EnvLint.Lint.Linter
import EnvLint.Report.Console
import EnvLint.Report.Machine
import EnvLint.Report.Plain

/-! # Running the command

    A run reads the arguments, sets up the rules, finds the files, checks them
    and reports.  It ends with 0 if there are no errors, with 1 if there are, and
    with 2 if the arguments, the setup or an input are at fault; then nothing is
    reported. -/

namespace EnvLint.Cli

/-- Code of a run without errors. -/
def codePassed : Nat := 0

/-- Code of a run with errors. -/
def codeErrors : Nat := 1

/-- Code of a run that could not check. -/
def codeFault : Nat := 2

/-- How a run ends. -/
inductive Ending where
  /-- With a code. -/
  | code (n : Nat)
  /-- With a code, before anything was checked. -/
  | early (n : Nat)
  /-- With a failure that no run expects. -/
  | failed (failure : Failure)
deriving DecidableEq, Repr

/-- What a run leaves behind. -/
structure Transcript where
  /-- What is written to standard output. -/
  stdout : String
  /-- Events that are logged to standard error. -/
  log : List Event
  /-- What is written to standard error after the log. -/
  complaint : String
  /-- How the run ends. -/
  ending : Ending
deriving DecidableEq, Repr

/-- What is written to standard error. -/
def Transcript.stderr (t : Transcript) (stamp : Stamp) : String :=
  String.join (t.log.map (Event.line stamp)) ++ t.complaint

/-- Whether an event is logged. -/
def isLogged (verbosity : Nat) (e : Event) : Bool :=
  match e.detail with
  | .info => 1 ≤ verbosity
  | .debug => 2 ≤ verbosity

/-- What a check comes to. -/
inductive Outcome where
  /-- The files were checked. -/
  | checked (result : LintResult)
  /-- There are no files. -/
  | noFiles
  /-- The check failed. -/
  | failed (failure : Failure)
deriving DecidableEq, Repr

namespace Arguments

/-- The rules that the arguments ask for, ready to run. -/
def linter [Host] (a : Arguments) (d : Disk) : Except Failure Linter := do
  let config ← a.resolve d
  Linter.ofConfig config

/-- Checks the files that the arguments ask for; also tells what happened. -/
def check [Host] (a : Arguments) (d : Disk) : List Event × Outcome :=
  match a.linter d with
  | .error failure => ([], .failed failure)
  | .ok l =>
      let enabled := Event.enabled (l.config.rules.map Prod.fst)
      match discover d a.pattern a.paths with
      | .error failure => ([enabled], .failed failure)
      | .ok [] => ([enabled], .noFiles)
      | .ok paths =>
          let (events, result) := l.traceFiles d a.jobs paths
          (enabled :: events, match result with
            | .ok result => .checked result
            | .error failure => .failed failure)

/-- The report that the arguments ask for; colours need a terminal. -/
def report [Host] (a : Arguments) (terminal : Bool) (r : LintResult) : Except Failure String :=
  match a.format with
  | .json => Report.machine (some 2) r
  | .plain => Report.plain r
  | .console =>
      Report.console { Report.ConsoleConfig.standard with color := !a.noColor && terminal } r

/-- Runs the command on arguments that were read. -/
def run [Host] (a : Arguments) (d : Disk) (terminal : Bool) : Transcript :=
  let (events, outcome) := a.check d
  let log := events.filter (isLogged a.verbosity)
  match outcome with
  | .noFiles =>
      ⟨"", log, programName ++ ": no files matching " ++ a.pattern ++ "\n", .code codeFault⟩
  | .failed failure =>
      if failure.isExpected then
        ⟨"", (events ++ [Event.aborted]).filter (isLogged a.verbosity),
          programName ++ ": " ++ failure.message ++ "\n", .code codeFault⟩
      else ⟨"", log, "", .failed failure⟩
  | .checked result =>
      match a.report terminal result with
      | .error failure => ⟨"", log, "", .failed failure⟩
      | .ok text => ⟨text, log, "", .code (if result.passed then codePassed else codeErrors)⟩

end Arguments

/-- What is left behind when reading the arguments ends early. -/
def Stop.transcript : Stop → Transcript
  | .help => ⟨helpText, [], "", .early codePassed⟩
  | .version => ⟨versionText, [], "", .early codePassed⟩
  | .refused fault => ⟨"", [], fault.complaint, .early codeFault⟩

/-- Runs the command. -/
def run [Host] (d : Disk) (terminal : Bool) (argv : List String) : Transcript :=
  match Arguments.read argv with
  | .error stop => stop.transcript
  | .ok a =>
      if a.jobs < 1 then (Stop.refused .tooFewJobs).transcript
      else a.run d terminal

end EnvLint.Cli
