/-! # Entries

    A file system without links is a tree of named entries: files with their
    octets, and directories.  Some entries may not be opened. -/

namespace EnvLint

/-- A file or a directory. -/
inductive Entry where
  /-- A regular file and its octets. -/
  | file (octets : List UInt8)
  /-- A regular file that may not be read. -/
  | locked
  /-- A directory and its entries by name. -/
  | dir (entries : List (String × Entry))
  /-- A directory that may neither be listed nor passed through. -/
  | sealed
deriving Repr

namespace Entry

/-- Whether an entry is a directory. -/
def isDir : Entry → Bool
  | .dir _ | .sealed => true
  | .file _ | .locked => false

/-- Whether an entry is a regular file. -/
def isFile (e : Entry) : Bool := !e.isDir

/-- The entries of a directory; none in anything that cannot be listed. -/
def entries : Entry → List (String × Entry)
  | .dir entries => entries
  | .file _ | .locked | .sealed => []

/-- The entry of a name. -/
def child? (e : Entry) (name : String) : Option Entry :=
  (e.entries.find? fun c => c.1 == name).map Prod.snd

mutual

/-- Number of entries in an entry, itself included. -/
def size : Entry → Nat
  | .dir entries => 1 + sizeList entries
  | .file _ | .locked | .sealed => 1

/-- Number of entries in a directory. -/
def sizeList : List (String × Entry) → Nat
  | [] => 0
  | (_, e) :: rest => e.size + sizeList rest

end

/-- Sets the entry of a name in a directory, a known name keeping its place. -/
def put (entries : List (String × Entry)) (name : String) (e : Entry) : List (String × Entry) :=
  match entries with
  | [] => [(name, e)]
  | c :: rest => if c.1 == name then (name, e) :: rest else c :: put rest name e

/-- Writes an entry at components, making the directories on the way. -/
def write (e : Entry) : List String → Entry → Entry
  | [], new => new
  | name :: rest, new =>
      .dir (put e.entries name (write ((e.child? name).getD (.dir [])) rest new))

/-- Removes the entry at components. -/
def erase (e : Entry) : List String → Entry
  | [] => e
  | [name] => .dir (e.entries.filter fun c => c.1 != name)
  | name :: rest =>
      match e.child? name with
      | some c => .dir (put e.entries name (erase c rest))
      | none => e

end Entry

end EnvLint
