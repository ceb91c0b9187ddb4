import EnvLint.File.Path
import EnvLint.Host

/-! # Disks

    A file system without links, as a value: a tree of named entries and the
    working directory in it.  Paths are followed component by component, with
    `..` going up, and never further up than the root. -/

namespace EnvLint

/-- A file system and the working directory in it. -/
structure Disk where
  /-- The tree. -/
  root : Entry
  /-- Components of the working directory. -/
  working : List String
deriving Repr

/-- Why a path leads nowhere. -/
inductive PathFault where
  /-- A component does not exist. -/
  | missing
  /-- A component before the end is no directory. -/
  | notDirectory
  /-- A component before the end is a directory that may not be passed through. -/
  | denied
  /-- A component, or the path, is too long to be looked up. -/
  | tooLong
deriving DecidableEq, Repr

/-- What keeps a path from being looked up, so that not even whether it leads somewhere can
    be told. -/
inductive Obstacle where
  /-- A directory on the way may not be passed through. -/
  | denied
  /-- The path, or a component of it, is too long. -/
  | tooLong
deriving DecidableEq, Repr

/-- The obstacle that a fault is, if it is one. -/
def PathFault.obstacle? : PathFault → Option Obstacle
  | .missing | .notDirectory => none
  | .denied => some .denied
  | .tooLong => some .tooLong

namespace Entry

variable [Host]

/-- Whether a name is longer than a file system allows. -/
def isLongName (name : String) : Bool := decide (Host.longestName < name.utf8ByteSize)

/-- Follows components from an entry; `above` holds the directories that lead to
    it, nearest first. -/
def follow (above : List Entry) (e : Entry) : List String → Except PathFault Entry
  | [] => .ok e
  | name :: rest =>
      match e with
      | .file _ | .locked => .error .notDirectory
      | .sealed => .error .denied
      | .dir _ =>
          if name = ".." then
            match above with
            | [] => follow [] e rest
            | up :: above => follow above up rest
          else if isLongName name then .error .tooLong
          else
            match e.child? name with
            | none => .error .missing
            | some c => follow (e :: above) c rest

end Entry

namespace Disk

/-- Components of a path from the root of the tree. -/
def absolute (d : Disk) (p : Path) : List String :=
  match p.root with
  | .working => d.working ++ p.parts
  | _ => p.parts

/-- Components in which each `..` has taken back the one before it. -/
def settle (parts : List String) : List String :=
  parts.foldl (fun done part => if part = ".." then done.dropLast else done ++ [part]) []

/-- Writes an entry at a path. -/
def write (d : Disk) (p : Path) (e : Entry) : Disk :=
  { d with root := d.root.write (settle (d.absolute p)) e }

/-- Removes the entry at a path. -/
def erase (d : Disk) (p : Path) : Disk :=
  { d with root := d.root.erase (settle (d.absolute p)) }

/-- An empty working directory. -/
def blank : Disk := ⟨.dir [("work", .dir [])], ["work"]⟩

variable [Host]

/-- The entry that a path leads to.  No path with a null character leads anywhere. -/
def find (d : Disk) (p : Path) : Except PathFault Entry :=
  if p.hasNull then .error .missing
  else if Host.longestPath < p.octets then .error .tooLong
  else d.root.follow [] (d.absolute p)

/-- Whether a path leads to a regular file. -/
def isFile (d : Disk) (p : Path) : Bool :=
  match d.find p with
  | .ok e => e.isFile
  | .error _ => false

/-- Whether a path leads to a directory. -/
def isDir (d : Disk) (p : Path) : Bool :=
  match d.find p with
  | .ok e => e.isDir
  | .error _ => false

/-- Whether a path leads somewhere. -/
def leads (d : Disk) (p : Path) : Bool :=
  match d.find p with
  | .ok _ => true
  | .error _ => false

/-- What keeps a path from being looked up. -/
def obstacle? (d : Disk) (p : Path) : Option Obstacle :=
  match d.find p with
  | .ok _ => none
  | .error fault => fault.obstacle?

/-- Names in the directory that a path leads to. -/
def names (d : Disk) (p : Path) : List String :=
  match d.find p with
  | .ok e => e.entries.map Prod.fst
  | .error _ => []

end Disk

end EnvLint
