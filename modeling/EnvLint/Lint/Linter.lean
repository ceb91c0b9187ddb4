import EnvLint.Env.Session
import EnvLint.Lint.Program
import EnvLint.Lint.Result

/-! # The linter

    Runs the enabled rules over programs.  Options are read when the linter is
    set up, before any file is seen; each file is walked once, with a session of
    its own for every rule, so that files do not depend on each other. -/

namespace EnvLint

/-- A rule that is ready to run. -/
structure EnabledRule where
  /-- Options of the rule. -/
  options : RuleOptions
  /-- Severity of its reports. -/
  severity : Severity

/-- The rules that are ready to run, and the configuration they come from. -/
structure Linter where
  /-- The configuration. -/
  config : Config
  /-- Rules in order. -/
  rules : List EnabledRule

namespace Linter

/-- Makes one rule ready. -/
def enable [Host] (rule : String × Setting) : Except Failure EnabledRule := do
  let _ ← findRule rule.1
  let options ← Env.readOptions (.obj rule.2.options)
  .ok ⟨options, rule.2.severity⟩

/-- Makes the rules of a configuration ready. -/
def ofConfig [Host] (config : Config) : Except Failure Linter := do
  let rules ← config.rules.mapM enable
  .ok ⟨config, rules⟩

/-- Starts a session for every rule. -/
def sessions (l : Linter) (path : Option Path) : Except Failure (List Env.Session) :=
  l.rules.mapM fun r => Env.Session.start r.options r.severity path

/-- Makes a visit in every session. -/
def visitAll (sessions : List Env.Session) (v : Tree.Visit) : Except Failure (List Env.Session) :=
  sessions.mapM (·.visit v)

/-- Makes visits one after another, and stops at the first that fails: the sessions
    before it, and why it failed. -/
def runVisits (sessions : List Env.Session) : List Tree.Visit → List Env.Session × Option Failure
  | [] => (sessions, none)
  | v :: rest =>
      match visitAll sessions v with
      | .ok sessions => runVisits sessions rest
      | .error failure => (sessions, some failure)

/-- What the sessions found, in document order. -/
def found (sessions : List Env.Session) : List Diagnostic :=
  (sessions.flatMap (·.context.diagnostics)).mergeSort Diagnostic.le

/-- What happened in the sessions. -/
def eventsOf (sessions : List Env.Session) : List Event := sessions.flatMap (·.events)

/-- Checks a program in a file that may be missing; also tells what happened. -/
def traceAt (l : Linter) (program : Json) (path : Option Path) :
    List Event × Except Failure FileResult :=
  match l.sessions path with
  | .error failure => ([], .error failure)
  | .ok sessions =>
      match Tree.walk program with
      | .error fault => ([], .error (.notNode fault))
      | .ok visits =>
          let (final, failure) := runVisits sessions visits
          (eventsOf final, match failure with
            | some failure => .error failure
            | none => FileResult.make path (found final))

/-- Checks a program. -/
def lint (l : Linter) (program : Json) (path : Path) : Except Failure FileResult :=
  (l.traceAt program (some path)).2

/-- Checks a file; also tells what happened. -/
def traceFile [Host] (l : Linter) (d : Disk) (path : Path) :
    List Event × Except Failure FileResult :=
  let (events, program) := Program.trace d path
  match program with
  | .error failure => (events, .error failure)
  | .ok program =>
      let (more, result) := l.traceAt program (some path)
      match result with
      | .error failure => (events ++ more, .error failure)
      | .ok file => (events ++ more ++ [.checked path file.diagnostics.length], .ok file)

/-- Checks a file. -/
def lintFile [Host] (l : Linter) (d : Disk) (path : Path) : Except Failure FileResult :=
  (l.traceFile d path).2

/-- Checks files one after another, and stops at the first that fails. -/
def traceInTurn [Host] (l : Linter) (d : Disk) :
    List Path → List Event × Except Failure (List FileResult)
  | [] => ([], .ok [])
  | path :: rest =>
      let (events, result) := l.traceFile d path
      match result with
      | .error failure => (events, .error failure)
      | .ok file =>
          let (more, results) := l.traceInTurn d rest
          (events ++ more, results.map (file :: ·))

/-- Checks all files, as workers beside each other do; of several failures the
    one of the first file counts. -/
def traceBeside [Host] (l : Linter) (d : Disk) (paths : List Path) :
    List Event × Except Failure (List FileResult) :=
  let runs := paths.map (l.traceFile d)
  (runs.flatMap Prod.fst, runs.mapM Prod.snd)

/-- Checks files with a number of workers; also tells what happened. -/
def traceFiles [Host] (l : Linter) (d : Disk) (jobs : Int) (paths : List Path) :
    List Event × Except Failure LintResult :=
  if jobs < 1 then ([], .error (.misuse (.jobs jobs)))
  else
    let (events, results) :=
      if jobs = 1 ∨ paths.length ≤ 1 then l.traceInTurn d paths else l.traceBeside d paths
    match results with
    | .error failure => (events, .error failure)
    | .ok files =>
        let r : LintResult := ⟨files⟩
        (events ++ [.finished r.fileCount r.errorCount r.warningCount], .ok r)

/-- Checks files with a number of workers. -/
def lintFiles [Host] (l : Linter) (d : Disk) (jobs : Int) (paths : List Path) :
    Except Failure LintResult :=
  (l.traceFiles d jobs paths).2

end Linter

end EnvLint
