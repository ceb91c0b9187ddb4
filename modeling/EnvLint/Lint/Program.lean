import EnvLint.Failure
import EnvLint.Lint.Event

/-! # Programs

    A document that can be checked: an object of type `Program` whose body is a
    list. -/

namespace EnvLint.Program

/-- Whether a document is a program. -/
def isProgram (v : Json) : Bool :=
  Tree.hasType v "Program" && (match v.get? "body" with
    | some (.arr _) => true
    | _ => false)

/-- Accepts a program. -/
def accept (path : Path) (v : Json) : Except Failure Json :=
  if isProgram v then .ok v
  else
    match Tree.typeOf? v with
    | some type =>
        if type = "Program" then .error (.load path .noProgram)
        else .error (.load path (.otherRoot type))
    | none => .error (.load path .noProgram)

/-- A fault of a document as a failure to load it. -/
def decodeFailure (path : Path) (e : Json.DecodeError) : Failure :=
  match e.flaw with
  | .tooManyDigits count => .longNumber count
  | _ => .load path (.json e)

section

variable [Host]

/-- Reads a program from a text, a number of calls further down than the caller. -/
def ofTextBelow (calls : Nat) (text : String) (path : Path) : Except Failure Json := do
  Failure.checkStack (.decode calls text.toList)
  match Json.decode text with
  | .error e => .error (decodeFailure path e)
  | .ok v => accept path v

/-- Reads a program from a text. -/
def ofText (text : String) (path : Path) : Except Failure Json := ofTextBelow 0 text path

/-- Reads a program from a text of a file that may be missing. -/
def ofTextAt (text : String) (path : Option Path) : Except Failure Json :=
  match path with
  | some path => ofText text path
  | none =>
      match ofText text .here with
      | .error (.load ..) => .error (.misuse .noPath)
      | result => result

/-- Why a program cannot be read from its file. -/
def readFailure (path : Path) : ReadFault → Failure
  | .nullInPath => .nullInPath
  | .closed .missing => .load path .notFound
  | .closed .directory => .load path .directory
  | .closed .denied => .load path .denied
  | .closed .notDirectory => .throughFile path
  | .closed .tooLong => .blocked path .tooLong
  | .encoding fault => .load path (.encoding fault)

/-- Reads a program from a file; also tells what happened. -/
def trace (d : Disk) (path : Path) : List Event × Except Failure Json :=
  match d.readText path with
  | .error fault => ([], .error (readFailure path fault))
  | .ok text => ([.loaded path text.length], ofTextBelow 1 (String.ofList text) path)

/-- Reads a program from a file. -/
def load (d : Disk) (path : Path) : Except Failure Json :=
  (trace d path).2

end

end EnvLint.Program
