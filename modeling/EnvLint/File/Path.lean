/-! # Paths

    A path is a root and a list of components.  Reading one drops empty and `.`
    components and keeps `..`; two leading slashes are a root of their own, any
    other number of leading slashes is the plain root. -/

namespace EnvLint

/-- Where a path starts. -/
inductive Root where
  /-- At the working directory. -/
  | working
  /-- At the root of the file system. -/
  | top
  /-- At the second root that exactly two slashes name. -/
  | second
deriving DecidableEq, Repr

/-- Spelling of a root. -/
def Root.text : Root → String
  | .working => ""
  | .top => "/"
  | .second => "//"

/-- A path: where it starts and its components. -/
structure Path where
  /-- Where the path starts. -/
  root : Root
  /-- Components from the start on. -/
  parts : List String
deriving DecidableEq, Repr

namespace Path

/-- Splits characters at slashes. -/
def splitSlashes (cs : List Char) : List (List Char) :=
  cs.splitOnP (· == '/')

/-- The root that a text starts with. -/
def rootOf : List Char → Root
  | '/' :: '/' :: '/' :: _ => .top
  | '/' :: '/' :: _ => .second
  | '/' :: _ => .top
  | _ => .working

/-- Reads a path. -/
def ofString (s : String) : Path where
  root := rootOf s.toList
  parts := (splitSlashes s.toList).map String.ofList |>.filter fun p => p != "" && p != "."

/-- The path without components. -/
def here : Path := ⟨.working, []⟩

/-- A path as text; the path without root and components is a dot. -/
def text (p : Path) : String :=
  match p.root, p.parts with
  | .working, [] => "."
  | root, parts => root.text ++ "/".intercalate parts

/-- Length of a path in octets. -/
def octets (p : Path) : Nat := p.text.utf8ByteSize

/-- Whether a path holds a null character, which no name may. -/
def hasNull (p : Path) : Bool :=
  p.parts.any fun part => part.toList.any fun c => c.toNat == 0

/-- The path of a component below a path. -/
def child (p : Path) (name : String) : Path :=
  { p with parts := p.parts ++ [name] }

/-- The components by which paths are ordered; a root counts as one. -/
def sortKey (p : Path) : List String :=
  match p.root with
  | .working => p.parts
  | root => root.text :: p.parts

/-- Order of component lists: component by component, in code point order. -/
def keyLe : List String → List String → Bool
  | [], _ => true
  | _ :: _, [] => false
  | a :: as, b :: bs => if a = b then keyLe as bs else decide (a < b)

/-- Order of paths by components. -/
def le (p q : Path) : Bool := keyLe p.sortKey q.sortKey

end Path

end EnvLint
