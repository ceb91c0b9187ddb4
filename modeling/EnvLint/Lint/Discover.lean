import EnvLint.Failure

/-! # Finding the files to check

    A given file is taken whatever its name.  A given directory is searched with
    a glob; hits come in path order, and those below a directory that holds no
    sources of its own are left out.  No file is taken twice.  A path that is too
    long to be looked up ends the search, wherever it is met. -/

namespace EnvLint

/-- The glob that is used unless another is asked for. -/
def defaultPattern : String := "*.estree.json"

/-- Directories that are never searched. -/
def excludedNames : List String := [".git", ".next", "node_modules", "__pycache__", ".venv"]

/-- Whether a path below a start goes through an excluded directory. -/
def isExcluded (start p : Path) : Bool :=
  (p.parts.drop start.parts.length).any excludedNames.contains

section

variable [Host] (d : Disk)

namespace Glob

/-- Refuses a path that is too long to be looked up. -/
def checkLength (p : Path) : Except Failure Unit :=
  if d.obstacle? p = some .tooLong then .error (.blocked p .tooLong) else .ok ()

/-- What a component matches in a directory. -/
def Step.select (p : Path) (dirsOnly : Bool) : Step → Except Failure (List Path)
  | .anyDepth => .ok (dirsBelow d p)
  | .exact name => do
      checkLength d (p.child name)
      .ok ([p.child name].filter fun q => if dirsOnly then d.isDir q else d.leads q)
  | .wild ps => do
      checkLength d p
      .ok (((d.names p).filter fun name => matchPieces ps name.toList).map p.child
        |>.filter fun q => !dirsOnly || d.isDir q)

/-- What is looked up when a match of a component has been dealt with: a search at any depth
    lists the directory, to go on below it. -/
def Step.leave (q : Path) : Step → Except Failure Unit
  | .anyDepth => checkLength d q
  | .exact _ | .wild _ => .ok ()

/-- What components match from a directory. -/
def selectSteps (dirsOnly : Bool) : List Step → Path → Except Failure (List Path)
  | [], p => .ok [p]
  | step :: steps, p => do
      let next ← step.select d p (dirsOnly || !steps.isEmpty)
      let found ← next.mapM fun q => do
        let found ← selectSteps dirsOnly steps q
        step.leave d q
        .ok found
      .ok found.flatten

/-- What a glob matches from every directory at or below a path. -/
def select (g : Glob) (p : Path) : Except Failure (List Path) :=
  selectSteps d g.dirsOnly (.anyDepth :: g.steps) p

end Glob

/-- A path if it leads to a regular file, else none, unless it cannot be looked up. -/
def onlyFile (p : Path) : Except Failure (List Path) :=
  match d.obstacle? p with
  | some obstacle => .error (.blocked p obstacle)
  | none => .ok (if d.isFile p then [p] else [])

/-- The files that a glob finds in a directory, in path order. -/
def filesBelow (g : Glob) (start : Path) : Except Failure (List Path) := do
  let hits ← g.select d start
  let files ← ((hits.mergeSort Path.le).filter fun p => !isExcluded start p).mapM (onlyFile d)
  .ok files.flatten

/-- Searches a directory.  The glob is only read when there is one to search. -/
def search (pattern : String) (start : Path) (e : Entry) : Except Failure (List Path) := do
  let g ← (Glob.ofString pattern).mapError Failure.glob
  Failure.checkStack (.search e pattern)
  filesBelow d g start

/-- The files that a given path stands for. -/
def expand (pattern : String) (p : Path) : Except Failure (List Path) :=
  match d.find p with
  | .ok e => if e.isDir then search d pattern p e else .ok [p]
  | .error fault =>
      match fault.obstacle? with
      | some obstacle => .error (.blocked p obstacle)
      | none => .error (.missingPath p)

/-- The files that given paths stand for, each once and in order. -/
def discover (pattern : String) (paths : List Path) : Except Failure (List Path) := do
  let found ← paths.mapM (expand d pattern)
  .ok found.flatten.eraseDups

end

end EnvLint
