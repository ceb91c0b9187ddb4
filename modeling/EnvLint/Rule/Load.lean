import EnvLint.Rule.Config

/-! # Configuration files

    A configuration is kept in a JSON file. -/

namespace EnvLint.Config

/-- Why a configuration cannot be read from its file. -/
def readFailure (path : Path) : ReadFault → Failure
  | .nullInPath => .nullInPath
  | .closed fault => .config (.unreadable path fault)
  | .encoding fault => .config (.encoding path fault)

/-- A fault of a configuration file as a failure. -/
def decodeFailure (path : Path) (e : Json.DecodeError) : Failure :=
  match e.flaw with
  | .tooManyDigits count => .longNumber count
  | _ => .config (.json path e)

variable [Host]

/-- Reads a configuration from a text. -/
def ofText (text : String) (path : Path) : Except Failure Config := do
  Failure.checkStack (.decode 0 text.toList)
  match Json.decode text with
  | .error e => .error (decodeFailure path e)
  | .ok v => ofJson v

/-- Reads a configuration from a file. -/
def load (d : Disk) (path : Path) : Except Failure Config :=
  match d.readText path with
  | .error fault => .error (readFailure path fault)
  | .ok text => ofText (String.ofList text) path

end EnvLint.Config
