import EnvLint.File.Disk

/-! # Glob patterns

    A glob is a relative path whose components may hold wildcards.  It is matched
    component by component from every directory at or below a start: a component
    without wildcards is looked up, one with wildcards is matched against the
    names of a directory, and `**` stands for directories at any depth.  Only the
    last component may match something that is no directory. -/

namespace EnvLint.Glob

/-- Why a text is no glob. -/
inductive Fault where
  /-- An absolute path. -/
  | absolute
  /-- A double star inside a component. -/
  | innerDoubleStar
deriving DecidableEq, Repr

/-- Wording of a fault. -/
def Fault.message : Fault → String
  | .absolute => "Non-relative patterns are unsupported"
  | .innerDoubleStar => "Invalid pattern: '**' can only be an entire path component"

/-- A piece of a component. -/
inductive Piece where
  /-- A character that stands for itself. -/
  | char (c : Char)
  /-- Any character. -/
  | any
  /-- Any text. -/
  | star
  /-- A character of given ranges, or one outside of them. -/
  | set (negated : Bool) (ranges : List (Char × Char))
deriving DecidableEq, Repr

/-- Cuts the text of a set at the hyphens that make ranges: a hyphen counts if a
    character stands before it, and the one after it belongs to the range. -/
def cutAt : (fuel skip : Nat) → List Char → List (List Char)
  | 0, _, cs => [cs]
  | fuel + 1, skip, cs =>
      match (cs.drop skip).findIdx? (· == '-') with
      | none => [cs]
      | some i => cs.take (skip + i) :: cutAt fuel 2 (cs.drop (skip + i + 1))

/-- Gives a hyphen at the end back to the chunk before it. -/
def mendLast : List (List Char) → List (List Char)
  | [c, []] => [c ++ ['-']]
  | c :: cs => c :: mendLast cs
  | [] => []

/-- Drops a range that is empty: its ends disappear and their chunks become one. -/
def dropEmptyRange (chunk : List Char) : List (List Char) → List (List Char)
  | [] => [chunk]
  | next :: rest =>
      match chunk.getLast?, next.head? with
      | some low, some high =>
          if low > high then (chunk.dropLast ++ next.drop 1) :: rest else chunk :: next :: rest
      | _, _ => chunk :: next :: rest

/-- Drops all empty ranges, the last ones first. -/
def dropEmptyRanges (chunks : List (List Char)) : List (List Char) :=
  chunks.foldr dropEmptyRange []

/-- The ranges between neighbouring chunks. -/
def rangesBetween : List (List Char) → List (Char × Char)
  | a :: b :: rest =>
      match a.getLast?, b.head? with
      | some low, some high => (low, high) :: rangesBetween (b :: rest)
      | _, _ => rangesBetween (b :: rest)
  | _ => []

/-- The set that a bracketed text stands for. -/
def setPiece (inside : List Char) : Piece :=
  let negated := inside.head? == some '!'
  let chunks :=
    if inside.contains '-' then
      dropEmptyRanges (mendLast (cutAt inside.length (if negated then 2 else 1) inside))
    else [inside]
  let chunks := if negated then (match chunks with
    | c :: cs => c.drop 1 :: cs
    | [] => []) else chunks
  .set negated (chunks.flatten.map (fun c => (c, c)) ++ rangesBetween chunks)

/-- The text of a set after its opening bracket and what follows it; none if the
    bracket is never closed. -/
def splitSet (cs : List Char) : Option (List Char × List Char) :=
  let start := match cs with
    | '!' :: ']' :: _ => 2
    | '!' :: _ => 1
    | ']' :: _ => 1
    | _ => 0
  ((cs.drop start).findIdx? (· == ']')).map fun i =>
    (cs.take (start + i), cs.drop (start + i + 1))

/-- Reads the pieces of a component. -/
def pieces : (fuel : Nat) → List Char → List Piece
  | 0, _ => []
  | _, [] => []
  | fuel + 1, c :: rest =>
      if c = '*' then .star :: pieces fuel rest
      else if c = '?' then .any :: pieces fuel rest
      else if c = '[' then
        match splitSet rest with
        | some (inside, rest) => setPiece inside :: pieces fuel rest
        | none => .char '[' :: pieces fuel rest
      else .char c :: pieces fuel rest

/-- Whether a character fits a piece that stands for one. -/
def Piece.fits : Piece → Char → Bool
  | .char c, x => x == c
  | .any, _ => true
  | .star, _ => false
  | .set negated ranges, x => ranges.any (fun r => r.1 ≤ x && x ≤ r.2) != negated

/-- Whether pieces match a whole name. -/
def matchPieces : List Piece → List Char → Bool
  | [], [] => true
  | [], _ :: _ => false
  | .star :: ps, [] => matchPieces ps []
  | .star :: ps, c :: cs => matchPieces ps (c :: cs) || matchPieces (.star :: ps) cs
  | _ :: _, [] => false
  | p :: ps, c :: cs => p.fits c && matchPieces ps cs
termination_by ps cs => (ps.length, cs.length)

/-- A component of a glob. -/
inductive Step where
  /-- Directories at any depth. -/
  | anyDepth
  /-- A name that is looked up. -/
  | exact (name : String)
  /-- Names that match. -/
  | wild (ps : List Piece)
deriving DecidableEq, Repr

/-- Whether a component holds a wildcard. -/
def isWild (cs : List Char) : Bool :=
  cs.any fun c => c == '*' || c == '?' || c == '['

/-- Whether a component holds a double star. -/
def hasDoubleStar : List Char → Bool
  | '*' :: '*' :: _ => true
  | _ :: rest => hasDoubleStar rest
  | [] => false

/-- Reads a component. -/
def Step.ofString (s : String) : Except Fault Step :=
  if s = "**" then .ok .anyDepth
  else if hasDoubleStar s.toList then .error .innerDoubleStar
  else if isWild s.toList then .ok (.wild (pieces s.toList.length s.toList))
  else .ok (.exact s)

end EnvLint.Glob

namespace EnvLint

/-- A glob: its components, and whether only directories match. -/
structure Glob where
  /-- Components in order. -/
  steps : List Glob.Step
  /-- Whether the last component has to match a directory. -/
  dirsOnly : Bool
deriving DecidableEq, Repr

namespace Glob

/-- Reads a glob; a slash at the end asks for directories. -/
def ofString (s : String) : Except Fault Glob :=
  let path := Path.ofString s
  if path.root ≠ .working then .error .absolute
  else do
    let steps ← path.parts.mapM Step.ofString
    .ok ⟨steps, s.toList.getLast? == some '/'⟩

mutual

/-- The directories at or below an entry, as components from it. -/
def dirsOf : Entry → List (List String)
  | .file _ | .locked => []
  | .dir entries => [] :: dirsIn entries
  | .sealed => [[]]

/-- The directories at or below the entries of a directory. -/
def dirsIn : List (String × Entry) → List (List String)
  | [] => []
  | (name, e) :: rest => (dirsOf e).map (name :: ·) ++ dirsIn rest

end

variable [Host]

/-- The directories at or below a path. -/
def dirsBelow (d : Disk) (p : Path) : List Path :=
  match d.find p with
  | .ok e => (dirsOf e).map fun parts => { p with parts := p.parts ++ parts }
  | .error _ => []

end Glob

end EnvLint
