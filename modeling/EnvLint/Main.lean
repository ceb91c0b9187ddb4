import EnvLint.Cli.Run

/-! # The command

    Reads the part of the file system that a run can see, runs, and writes what
    the run leaves behind.  Of the files that a directory holds, only those that
    are checked are read. -/

namespace EnvLint.Main

attribute [local instance] Host.standard

/-- Reads the shape of what stands at a place; none if nothing does. -/
partial def shapeAt (place : String) : IO (Option Entry) := do
  let path := (← IO.currentDir) / place
  if ← path.isDir then
    let listed ← path.readDir.toBaseIO
    match listed with
    | .error _ => return some .sealed
    | .ok found =>
        let mut entries := #[]
        for e in found do
          if let some entry ← shapeAt (place ++ "/" ++ e.fileName) then
            entries := entries.push (e.fileName, entry)
        return some (.dir entries.toList)
  else if ← path.pathExists then return some (.file [])
  else return none

/-- Adds the shape of what stands at a path, and of the directories on the way. -/
def addShape (d : Disk) (p : Path) : IO Disk := do
  let mut d := d
  for n in List.range p.parts.length do
    let above : Path := { p with parts := p.parts.take n }
    if !d.isDir above then
      if ← ((← IO.currentDir) / above.text).isDir then d := d.write above (.dir [])
  match ← shapeAt p.text with
  | some entry => return d.write p entry
  | none => return d

/-- Adds the octets of a file. -/
def addFile (d : Disk) (p : Path) : IO Disk := do
  if d.isFile p then
    let read ← (IO.FS.readBinFile ((← IO.currentDir) / p.text)).toBaseIO
    match read with
    | .error _ => return d.write p .locked
    | .ok octets => return d.write p (.file octets.toList)
  else return d

/-- The part of the file system that a run can see. -/
def readDisk (a : Cli.Arguments) : IO Disk := do
  let working := (Path.ofString (← IO.currentDir).toString).parts
  let given := (a.paths ++ a.config.toList).mergeSort fun p q => p.parts.length ≤ q.parts.length
  let shape ← given.foldlM addShape
    (Disk.mk (.dir []) working |>.write .here (.dir []))
  let found := match discover shape a.pattern a.paths with
    | .ok paths => paths
    | .error _ => []
  (found ++ a.config.toList).foldlM addFile shape

/-- Nanoseconds as milliseconds with one place. -/
def milliseconds (nanoseconds : Nat) : String :=
  let tenths := (nanoseconds + 50000) / 100000
  toString (tenths / 10) ++ "." ++ toString (tenths % 10)

end EnvLint.Main

open EnvLint in
attribute [local instance] Host.standard in
/-- Runs the command. -/
def main (argv : List String) : IO UInt32 := do
  let terminal ← (← IO.getStdout).isTty
  let disk ← match Cli.Arguments.read argv with
    | .ok a => Main.readDisk a
    | .error _ => pure Disk.blank
  let started ← IO.monoNanosNow
  let t := Cli.run disk terminal argv
  IO.print t.stdout
  let elapsed := (← IO.monoNanosNow) - started
  IO.eprint (t.stderr ⟨Main.milliseconds elapsed, "no trace is kept"⟩)
  match t.ending with
  | .code n | .early n => return n.toUInt32
  | .failed failure =>
      IO.eprintln (Cli.programName ++ ": " ++ failure.message)
      return 1
