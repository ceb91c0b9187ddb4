import EnvLint.File.Disk
import EnvLint.File.Utf8

/-! # Reading texts

    A text file holds UTF-8.  Its lines may end in a line feed, a carriage return
    or both; what is read ends every line in a line feed. -/

namespace EnvLint

/-- Why a file cannot be opened. -/
inductive OpenFault where
  /-- There is no such file. -/
  | missing
  /-- A component before the end is no directory. -/
  | notDirectory
  /-- The path leads to a directory. -/
  | directory
  /-- What the path leads to may not be opened, or a directory on the way not be passed. -/
  | denied
  /-- The path, or a component of it, is too long. -/
  | tooLong
deriving DecidableEq, Repr

/-- Wording of an open fault. -/
def OpenFault.message : OpenFault → String
  | .missing => "No such file or directory"
  | .notDirectory => "Not a directory"
  | .directory => "Is a directory"
  | .denied => "Permission denied"
  | .tooLong => "File name too long"

/-- Why a text cannot be read. -/
inductive ReadFault where
  /-- The path holds a null character, which no path may. -/
  | nullInPath
  /-- The file cannot be opened. -/
  | closed (fault : OpenFault)
  /-- The file is no UTF-8. -/
  | encoding (fault : Utf8.Fault)
deriving DecidableEq, Repr

/-- Ends every line in a line feed. -/
def unifyNewlines : List Char → List Char
  | [] => []
  | '\r' :: '\n' :: rest => '\n' :: unifyNewlines rest
  | c :: rest => (if c = '\r' then '\n' else c) :: unifyNewlines rest

/-- Why a path that leads nowhere cannot be opened. -/
def OpenFault.ofPath : PathFault → OpenFault
  | .missing => .missing
  | .notDirectory => .notDirectory
  | .denied => .denied
  | .tooLong => .tooLong

namespace Disk

variable [Host]

/-- The octets of the file that a path leads to. -/
def octets (d : Disk) (p : Path) : Except OpenFault (List UInt8) :=
  match d.find p with
  | .ok (.file octets) => .ok octets
  | .ok (.dir _) => .error .directory
  | .ok .locked | .ok .sealed => .error .denied
  | .error fault => .error (.ofPath fault)

/-- The text of the file that a path leads to. -/
def readText (d : Disk) (p : Path) : Except ReadFault (List Char) :=
  if p.hasNull then .error .nullInPath
  else do
    let octets ← (d.octets p).mapError .closed
    let text ← (Utf8.decode octets).mapError .encoding
    .ok (unifyNewlines text)

end Disk

end EnvLint
