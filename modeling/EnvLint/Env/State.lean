import EnvLint.Failure

/-! # What is known about a file

    The state that a walk collects: whether the module is a client module, the
    local name of the accessor, whether the module is dynamic, and every read of
    a name on the accessor.  The verdict depends on the final state alone. -/

namespace EnvLint.Env

/-- A read of a name on the accessor. -/
structure Site where
  /-- The name. -/
  name : String
  /-- Where the name stands. -/
  location : Location
  /-- Whether the name is server-only. -/
  isPrivate : Bool
deriving DecidableEq, Repr

/-- Makes a site, if it has a name and a place. -/
def Site.make (name : String) (location : Option Location) (isPrivate : Bool) :
    Except Failure Site :=
  if name = "" then .error (.misuse .noAccessName)
  else
    match location with
    | none => .error (.misuse .noLocation)
    | some location => .ok ⟨name, location, isPrivate⟩

/-- What is known about a file. -/
structure State where
  /-- The module is a client module. -/
  client : Bool
  /-- Local name of the accessor. -/
  tracked : Option String
  /-- The module is dynamic. -/
  dynamic : Bool
  /-- Reads on the accessor in document order. -/
  sites : List Site
deriving DecidableEq, Repr

namespace State

/-- Nothing is known. -/
def start : State := ⟨false, none, false, []⟩

/-- Records the client directive. -/
def markClient (s : State) : State := { s with client := true }

/-- Records the dynamic export. -/
def markDynamic (s : State) : State := { s with dynamic := true }

/-- Records the local name of the accessor unless one is known; says whether it was
    recorded. -/
def track (s : State) (name : String) : Except Failure (Bool × State) :=
  if name = "" then .error (.misuse .noAlias)
  else if s.tracked.isSome then .ok (false, s)
  else .ok (true, { s with tracked := some name })

/-- Records a read, once the accessor is known. -/
def record (s : State) (site : Site) : Except Failure State :=
  if s.tracked.isNone then .error .noTrackedAlias
  else .ok { s with sites := s.sites ++ [site] }

/-- The server-only reads. -/
def privateSites (s : State) : List Site := s.sites.filter (·.isPrivate)

/-- The reads to report: none in a client or dynamic module, else the server-only
    ones. -/
def offending (s : State) : List Site :=
  if s.client || s.dynamic then [] else s.privateSites

end State

end EnvLint.Env
