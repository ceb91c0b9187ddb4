import EnvLint.File.Path

/-! # Events of a run

    What a run tells about itself on request: each event has a level, the part of
    the program that it comes from, and a wording. -/

namespace EnvLint

/-- How detailed an event is. -/
inductive Detail where
  /-- Of interest to a user. -/
  | info
  /-- Of interest when looking for a fault. -/
  | debug
deriving DecidableEq, Repr

/-- Name of a level. -/
def Detail.name : Detail → String
  | .info => "INFO"
  | .debug => "DEBUG"

/-- Something that happened during a run. -/
inductive Event where
  /-- The rules were set up. -/
  | enabled (ruleIds : List String)
  /-- A document was read. -/
  | loaded (path : Path) (length : Nat)
  /-- A client directive was found. -/
  | client (path : Path)
  /-- The accessor's local name was found. -/
  | tracking (path : Path) (name : String)
  /-- A second import of the accessor was found. -/
  | ignoring (path : Path) (name tracked : String)
  /-- A dynamic export was found. -/
  | dynamic (path : Path)
  /-- A file was judged. -/
  | verdict (path : Path) (accesses secret reported : Nat)
  /-- A file was checked. -/
  | checked (path : Path) (found : Nat)
  /-- All files were checked. -/
  | finished (files errors warnings : Nat)
  /-- The run ended early. -/
  | aborted
deriving DecidableEq, Repr

/-- What only the surroundings of a run know. -/
structure Stamp where
  /-- How long the check took, in milliseconds. -/
  elapsed : String
  /-- The trace of the failure that ended the run. -/
  trace : String
deriving DecidableEq, Repr

namespace Event

/-- Level of an event. -/
def detail : Event → Detail
  | .finished .. => .info
  | _ => .debug

/-- The part of the program that an event comes from. -/
def origin : Event → String
  | .enabled _ | .checked .. | .finished .. => "envcheck.application.services.linter"
  | .loaded .. => "envcheck.infrastructure.adapters.estree_loader"
  | .client _ | .tracking .. | .ignoring .. | .dynamic _ | .verdict .. =>
      "envcheck.application.rules.require_force_dynamic"
  | .aborted => "envcheck.presentation.cli"

/-- Wording of an event. -/
def message (stamp : Stamp) : Event → String
  | .enabled ruleIds =>
      "enabled rules: " ++ (if ruleIds.isEmpty then "<none>" else ", ".intercalate ruleIds)
  | .loaded path length => "loaded " ++ path.text ++ " (" ++ toString length ++ " bytes)"
  | .client path => path.text ++ ": client directive"
  | .tracking path name => path.text ++ ": tracking env alias '" ++ name ++ "'"
  | .ignoring path name tracked =>
      path.text ++ ": ignoring second env import '" ++ name ++ "', already tracking '"
        ++ tracked ++ "'"
  | .dynamic path => path.text ++ ": force-dynamic export"
  | .verdict path accesses secret reported =>
      path.text ++ ": " ++ toString accesses ++ " access(es), " ++ toString secret
        ++ " private, reporting " ++ toString reported
  | .checked path found => path.text ++ ": " ++ toString found ++ " diagnostic(s)"
  | .finished files errors warnings =>
      "linted " ++ toString files ++ " file(s) in " ++ stamp.elapsed ++ " ms: " ++ toString errors
        ++ " error(s), " ++ toString warnings ++ " warning(s)"
  | .aborted => "aborted\n" ++ stamp.trace

/-- An event as a line of the log; a trace adds lines of its own. -/
def line (stamp : Stamp) (e : Event) : String :=
  e.detail.name ++ " " ++ e.origin ++ ": " ++ e.message stamp ++ "\n"

end Event

end EnvLint
