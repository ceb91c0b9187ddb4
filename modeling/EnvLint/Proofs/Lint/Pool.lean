import EnvLint.Proofs.Lint.Files
import Mathlib.Logic.Relation

/-! # Workers beside each other

    Files are checked by workers that take turns in any order.  The check of a
    file is a task: it waits, is started, loads the file, makes one visit after
    the other and ends.  One linter serves all tasks, and the sessions of all of
    them lie in one memory; a task knows its own by the cells that they lie in.
    Beside the workers, results are collected in the order of the files; the
    first failure that is met on the way is raised, and what waits then is
    cancelled.

    `Pool.Step` is one turn of a worker or of the collection.  What one turn does to
    a task is said once (`Task.Turn`), and the rest follows from that:

    * a turn leaves the cells of other tasks as they are (`Turn.getElem?_eq`), and
      takes no cell that is in use (`Turn.cells_cases`);
    * a task stays on its way to what checking its file alone gives
      (`OnWay.turn`). -/

namespace EnvLint

open Env

/-! ## Tasks -/

/-- Where the check of a file stands. -/
inductive Task where
  /-- It is not started. -/
  | waiting
  /-- It is started, and the file is to be loaded. -/
  | loading
  /-- The tree is walked, with sessions in some cells and with visits to make. -/
  | walking (cells : List Nat) (pending : List Tree.Visit)
  /-- It has ended, with a result or a failure. -/
  | done (outcome : Except Failure FileResult)
  /-- It will not be started. -/
  | cancelled

namespace Task

/-- The cells that a task uses. -/
def cells : Task → List Nat
  | .walking cells _ => cells
  | _ => []

/-- A worker has started on the task, and not ended it. -/
def isRunning : Task → Bool
  | .loading | .walking .. => true
  | _ => false

/-- Nothing is left to do. -/
def isEnded : Task → Bool
  | .done _ | .cancelled => true
  | _ => false

/-- A task that waits is cancelled; any other is left alone. -/
def cancel : Task → Task
  | .waiting => .cancelled
  | task => task

/-- Calls the sessions in some cells for a visit, each in its cell, and stops at the first
    that fails. -/
def visitCells (v : Tree.Visit) (memory : List Session) : List Nat → List Session × Option Failure
  | [] => (memory, none)
  | i :: cells =>
      match memory[i]? with
      | none => visitCells v memory cells
      | some session =>
          match session.visit v with
          | .error failure => (memory, some failure)
          | .ok session => visitCells v (memory.set i session) cells

/-- One turn of a worker: the file is loaded and sessions are made for it in new cells, or the
    next visit is made, or what was found is put together. -/
def advance [Host] (l : Linter) (d : Disk) (path : Path) (memory : List Session) :
    Task → Option (List Session × Task)
  | .loading =>
      match Program.load d path, l.sessions (some path) with
      | .error failure, _ => some (memory, .done (.error failure))
      | .ok _, .error failure => some (memory, .done (.error failure))
      | .ok program, .ok fresh =>
          match Tree.typeOf program with
          | .error fault => some (memory ++ fresh, .done (.error (.notNode fault)))
          | .ok _ =>
              some (memory ++ fresh,
                .walking (List.range' memory.length fresh.length) [⟨.enter, program⟩])
  | .walking cells (v :: pending) =>
      match visitCells v memory cells with
      | (memory, some failure) => some (memory, .done (.error failure))
      | (memory, none) => some (memory, .walking cells (v.schedule pending))
  | .walking cells [] =>
      let sessions := cells.filterMap (memory[·]?)
      some (memory, .done (FileResult.make (some path) (Linter.found sessions)))
  | _ => none

end Task

/-- Files that are checked beside each other. -/
structure Pool where
  /-- The linter that all tasks share. -/
  linter : Linter
  /-- The sessions of all tasks. -/
  memory : List Session
  /-- Files and their tasks, in the order of the input. -/
  tasks : List (Path × Task)
  /-- Results that are collected. -/
  collected : List FileResult
  /-- What the whole check came to, once that is known. -/
  outcome : Option (Except Failure LintResult)

namespace Pool

/-- Every file waits. -/
def begin (l : Linter) (paths : List Path) : Pool :=
  ⟨l, [], paths.map fun path => (path, .waiting), [], none⟩

/-- Number of tasks that are running. -/
def running (s : Pool) : Nat := s.tasks.countP fun t => t.2.isRunning

/-- The outcome is known, and no task has anything left to do. -/
def Complete (s : Pool) : Prop :=
  s.outcome.isSome = true ∧ ∀ t ∈ s.tasks, t.2.isEnded = true

/-- One turn: a task is started if fewer are running than there are workers, a running task
    advances, or the next result in the order of the input is collected or raised. -/
inductive Step [Host] (d : Disk) (jobs : Int) : Pool → Pool → Prop where
  | start {s : Pool} {front back : List (Path × Task)} {path : Path}
      (htasks : s.tasks = front ++ (path, .waiting) :: back) (hfree : s.running < jobs) :
      Step d jobs s { s with tasks := front ++ (path, .loading) :: back }
  | advance {s : Pool} {front back : List (Path × Task)} {path : Path} {task task' : Task}
      {memory : List Session} (htasks : s.tasks = front ++ (path, task) :: back)
      (hturn : task.advance s.linter d path s.memory = some (memory, task')) :
      Step d jobs s { s with memory := memory, tasks := front ++ (path, task') :: back }
  | collect {s : Pool} {front back : List (Path × Task)} {path : Path} {file : FileResult}
      (htasks : s.tasks = front ++ (path, .done (.ok file)) :: back)
      (hnext : front.length = s.collected.length) (hopen : s.outcome = none) :
      Step d jobs s { s with collected := s.collected ++ [file] }
  | raise {s : Pool} {front back : List (Path × Task)} {path : Path} {failure : Failure}
      (htasks : s.tasks = front ++ (path, .done (.error failure)) :: back)
      (hnext : front.length = s.collected.length) (hopen : s.outcome = none) :
      Step d jobs s
        { s with
          tasks := s.tasks.map fun t => (t.1, t.2.cancel)
          outcome := some (.error failure) }
  | conclude {s : Pool} (hall : s.collected.length = s.tasks.length) (hopen : s.outcome = none) :
      Step d jobs s { s with outcome := some (.ok ⟨s.collected⟩) }

/-- Any number of turns. -/
def Runs [Host] (d : Disk) (jobs : Int) : Pool → Pool → Prop :=
  Relation.ReflTransGen (Step d jobs)

end Pool

/-! ## Memory -/

variable {memory memory' : List Session} {cells : List Nat} {sessions : List Session}

/-- The sessions that lie in some cells. -/
def Lie (memory : List Session) (cells : List Nat) (sessions : List Session) : Prop :=
  List.Forall₂ (fun i session => memory[i]? = some session) cells sessions

/-- Sessions lie where they lay if their cells are not written to. -/
theorem Lie.of_agree (h : Lie memory cells sessions)
    (hagree : ∀ i ∈ cells, memory'[i]? = memory[i]?) : Lie memory' cells sessions := by
  induction h with
  | nil => exact .nil
  | cons hcell _ ih =>
      rw [List.forall_mem_cons] at hagree
      refine .cons ?_ (ih hagree.2)
      rw [hagree.1, hcell]

/-- Cells in which sessions lie are in use. -/
theorem Lie.lt_length (h : Lie memory cells sessions) : ∀ i ∈ cells, i < memory.length := by
  induction h with
  | nil => exact List.forall_mem_nil _
  | cons hcell _ ih =>
      exact List.forall_mem_cons.mpr ⟨(List.getElem?_eq_some_iff.mp hcell).1, ih⟩

/-- Sessions are read from the cells in which they lie. -/
theorem Lie.filterMap_eq (h : Lie memory cells sessions) :
    cells.filterMap (memory[·]?) = sessions := by
  induction h with
  | nil => rfl
  | cons hcell _ ih => rw [List.filterMap_cons_some hcell, ih]

/-- New sessions lie in new cells. -/
theorem lie_range' (memory fresh : List Session) :
    Lie (memory ++ fresh) (List.range' memory.length fresh.length) fresh := by
  induction fresh generalizing memory with
  | nil => exact .nil
  | cons session fresh ih =>
      refine .cons ?_ ?_
      · rw [List.getElem?_append_right (Nat.le_refl _), Nat.sub_self]
        rfl
      · have hrest := ih (memory ++ [session])
        rw [List.append_assoc, List.length_append] at hrest
        exact hrest

namespace Task

/-- A visit leaves other cells as they are. -/
theorem getElem?_of_visitCells {v : Tree.Visit} {failure : Option Failure} {i : Nat}
    (h : visitCells v memory cells = (memory', failure)) (hi : i ∉ cells) :
    memory'[i]? = memory[i]? := by
  induction cells generalizing memory with
  | nil =>
      cases h
      rfl
  | cons j cells ih =>
      rw [List.mem_cons, not_or] at hi
      rw [visitCells] at h
      split at h
      · exact ih h hi.2
      · split at h
        · cases h
          rfl
        · rw [ih h hi.2, List.getElem?_set_ne (Ne.symm hi.1)]

/-- A session that takes a visit leaves it to the others. -/
theorem visitAll_cons_of_ok {session session' : Session} {v : Tree.Visit}
    (h : session.visit v = .ok session') (rest : List Session) :
    Linter.visitAll (session :: rest) v
      = Linter.visitAll rest v >>= fun next => .ok (session' :: next) := by
  rw [Linter.visitAll, List.mapM_cons, h]
  rfl

theorem visitAll_cons_of_error {session : Session} {v : Tree.Visit} {failure : Failure}
    (h : session.visit v = .error failure) (rest : List Session) :
    Linter.visitAll (session :: rest) v = .error failure := by
  rw [Linter.visitAll, List.mapM_cons, h]
  rfl

/-- A visit of sessions in distinct cells is a visit of those sessions. -/
theorem visitAll_of_visitCells (v : Tree.Visit) (h : Lie memory cells sessions)
    (hcells : cells.Nodup) :
    (∀ memory' failure, visitCells v memory cells = (memory', some failure) →
      Linter.visitAll sessions v = .error failure) ∧
    ∀ memory', visitCells v memory cells = (memory', none) →
      ∃ next, Linter.visitAll sessions v = .ok next ∧ Lie memory' cells next := by
  induction cells generalizing memory sessions with
  | nil =>
      cases h
      refine ⟨?_, ?_⟩
      · rintro memory' failure ⟨⟩
      · rintro memory' ⟨⟩
        exact ⟨[], rfl, .nil⟩
  | cons i cells ih =>
      cases h with
      | @cons _ session _ rest hcell hrest =>
          obtain ⟨hi, hcells⟩ := List.nodup_cons.mp hcells
          rw [visitCells, hcell]
          dsimp only
          cases hvisit : session.visit v with
          | error failure =>
              rw [visitAll_cons_of_error hvisit]
              refine ⟨?_, ?_⟩
              · rintro memory' failure ⟨⟩
                rfl
              · rintro memory' ⟨⟩
          | ok session' =>
              rw [visitAll_cons_of_ok hvisit]
              have hlie : Lie (memory.set i session') cells rest := by
                refine Lie.of_agree hrest ?_
                intro j hj
                refine List.getElem?_set_ne ?_
                rintro rfl
                exact hi hj
              obtain ⟨herror, hok⟩ := ih hlie hcells
              refine ⟨?_, ?_⟩
              · intro memory' failure hcalls
                rw [herror memory' failure hcalls]
                rfl
              · intro memory' hcalls
                obtain ⟨next, hnext, hlie'⟩ := hok memory' hcalls
                -- the sessions that are called later lie in other cells
                have hkeep : memory'[i]? = some session' := by
                  rw [getElem?_of_visitCells hcalls hi]
                  exact List.getElem?_set_self (List.getElem?_eq_some_iff.mp hcell).1
                refine ⟨session' :: next, ?_, .cons hkeep hlie'⟩
                rw [hnext]
                rfl

/-! ## One turn of a task -/

/-- What is found after the visits that are pending. -/
def remaining (path : Path) (sessions : List Session) (pending : List Tree.Visit) :
    Except Failure FileResult :=
  match Linter.runVisits sessions (Tree.visits pending) with
  | (final, none) => FileResult.make (some path) (Linter.found final)
  | (_, some failure) => .error failure

/-- With no visit left what was found is put together. -/
theorem remaining_nil (path : Path) (sessions : List Session) :
    remaining path sessions [] = FileResult.make (some path) (Linter.found sessions) := by
  rw [remaining, Tree.visits]
  rfl

/-- A visit that is left is made, and those that it brings in come first then. -/
theorem remaining_cons (path : Path) (sessions : List Session) (v : Tree.Visit)
    (pending : List Tree.Visit) :
    remaining path sessions (v :: pending) = Linter.visitAll sessions v >>= fun next =>
      remaining path next (v.schedule pending) := by
  rw [remaining, Tree.visits, Linter.runVisits]
  cases Linter.visitAll sessions v with
  | error failure => rfl
  | ok next => rfl

/-- Checking a program is what remains at its root, with new sessions. -/
theorem lint_eq_bind (l : Linter) (program : Json) (path : Path) :
    l.lint program path = l.sessions (some path) >>= fun sessions =>
      (Tree.typeOf program).mapError Failure.notNode >>= fun _ =>
        remaining path sessions [⟨.enter, program⟩] := by
  rw [Linter.lint, Linter.traceAt]
  cases l.sessions (some path) with
  | error failure => rfl
  | ok sessions =>
      dsimp only
      rw [Tree.walk]
      cases Tree.typeOf program with
      | error fault => rfl
      | ok type =>
          show _ = remaining path sessions [⟨.enter, program⟩]
          rw [remaining]
          simp only [Except.map]
          obtain ⟨final, failure⟩ := Linter.runVisits sessions (Tree.visits [⟨.enter, program⟩])
          cases failure with
          | none => rfl
          | some failure => rfl

variable {l : Linter} {d : Disk} {path : Path} {task task' : Task}

/-- What a turn of a task can do. -/
inductive Turn [Host] (l : Linter) (d : Disk) (path : Path) (memory : List Session) :
    Task → List Session → Task → Prop where
  | refuse {memory' : List Session} {failure : Failure} (hmemory : memory <+: memory')
      (h : l.lintFile d path = .error failure) :
      Turn l d path memory .loading memory' (.done (.error failure))
  | load {program : Json} {fresh : List Session} (hload : Program.load d path = .ok program)
      (h : remaining path fresh [⟨.enter, program⟩] = l.lintFile d path) :
      Turn l d path memory .loading (memory ++ fresh)
        (.walking (List.range' memory.length fresh.length) [⟨.enter, program⟩])
  | fail {cells : List Nat} {v : Tree.Visit} {pending : List Tree.Visit}
      {memory' : List Session} {failure : Failure}
      (h : visitCells v memory cells = (memory', some failure)) :
      Turn l d path memory (.walking cells (v :: pending)) memory' (.done (.error failure))
  | visit {cells : List Nat} {v : Tree.Visit} {pending : List Tree.Visit} {memory' : List Session}
      (h : visitCells v memory cells = (memory', none)) :
      Turn l d path memory (.walking cells (v :: pending)) memory'
        (.walking cells (v.schedule pending))
  | finish {cells : List Nat} :
      Turn l d path memory (.walking cells []) memory
        (.done (FileResult.make (some path) (Linter.found (cells.filterMap (memory[·]?)))))

/-- A task that advances makes one of these turns. -/
theorem turn_of_advance [Host] (h : task.advance l d path memory = some (memory', task')) :
    Turn l d path memory task memory' task' := by
  cases task with
  | waiting => cases h
  | done outcome => cases h
  | cancelled => cases h
  | loading =>
      have hfile := l.lintFile_eq_bind d path
      rw [advance] at h
      cases hload : Program.load d path with
      | error failure =>
          rw [hload] at h hfile
          cases h
          exact .refuse (List.prefix_refl memory) hfile
      | ok program =>
          have hlint := lint_eq_bind l program path
          rw [hload] at h hfile
          replace hfile : l.lintFile d path = l.lint program path := hfile
          cases hsessions : l.sessions (some path) with
          | error failure => exact absurd hsessions (sessions_ne_error l path failure)
          | ok fresh =>
              rw [hsessions] at h hlint
              dsimp only at h
              cases htype : Tree.typeOf program with
              | error fault =>
                  rw [htype] at h hlint
                  cases h
                  -- the sessions are there already when the root turns out to be no node
                  exact .refuse (List.prefix_append memory fresh) (hfile.trans hlint)
              | ok type =>
                  rw [htype] at h hlint
                  cases h
                  exact .load hload (hfile.trans hlint).symm
  | walking cells pending =>
      cases pending with
      | nil =>
          cases h
          exact .finish
      | cons v pending =>
          rw [advance] at h
          split at h
          next hvisit =>
            cases h
            exact .fail hvisit
          next hvisit =>
            cases h
            exact .visit hvisit

/-- A task is on its way to what checking its file alone gives. -/
def OnWay [Host] (l : Linter) (d : Disk) (memory : List Session) (path : Path) : Task → Prop
  | .walking cells pending => ∃ sessions, Lie memory cells sessions ∧
      remaining path sessions pending = l.lintFile d path
  | .done outcome => outcome = l.lintFile d path
  | _ => True

/-- A task stays on its way if its cells are not written to. -/
theorem OnWay.of_agree [Host] (h : task.OnWay l d memory path)
    (hagree : ∀ i ∈ task.cells, i < memory.length → memory'[i]? = memory[i]?) :
    task.OnWay l d memory' path := by
  cases task with
  | walking cells pending =>
      obtain ⟨sessions, hlie, hrest⟩ := h
      refine ⟨sessions, hlie.of_agree ?_, hrest⟩
      intro i hi
      exact hagree i hi (hlie.lt_length i hi)
  | _ => exact h

/-- The cells that a task uses are in use. -/
theorem OnWay.lt_length [Host] (h : task.OnWay l d memory path) :
    ∀ i ∈ task.cells, i < memory.length := by
  cases task with
  | walking cells pending =>
      obtain ⟨sessions, hlie, -⟩ := h
      exact hlie.lt_length
  | _ => exact List.forall_mem_nil _

/-- A turn keeps a task on its way: what remains after it is what remained before it. -/
theorem OnWay.turn [Host] (h : task.OnWay l d memory path) (hcells : task.cells.Nodup)
    (hturn : Turn l d path memory task memory' task') : task'.OnWay l d memory' path := by
  cases hturn with
  | refuse _ hfile => exact hfile.symm
  | load _ hfile => exact ⟨_, lie_range' memory _, hfile⟩
  | fail hcalls =>
      obtain ⟨sessions, hlie, hrest⟩ := h
      rw [remaining_cons, (visitAll_of_visitCells _ hlie hcells).1 _ _ hcalls] at hrest
      exact hrest
  | visit hcalls =>
      obtain ⟨sessions, hlie, hrest⟩ := h
      obtain ⟨next, hnext, hlie'⟩ := (visitAll_of_visitCells _ hlie hcells).2 _ hcalls
      rw [remaining_cons, hnext] at hrest
      exact ⟨next, hlie', hrest⟩
  | finish =>
      obtain ⟨sessions, hlie, hrest⟩ := h
      rw [remaining_nil] at hrest
      rw [hlie.filterMap_eq]
      exact hrest

/-- A turn leaves cells that were in use and are not its own. -/
theorem Turn.getElem?_eq [Host] (h : Turn l d path memory task memory' task') {i : Nat}
    (hi : i < memory.length) (hcells : i ∉ task.cells) : memory'[i]? = memory[i]? := by
  cases h with
  | refuse hmemory _ =>
      obtain ⟨fresh, rfl⟩ := hmemory
      exact List.getElem?_append_left hi
  | load _ _ => exact List.getElem?_append_left hi
  | fail hcalls => exact getElem?_of_visitCells hcalls hcells
  | visit hcalls => exact getElem?_of_visitCells hcalls hcells
  | finish => rfl

/-- After a turn a task uses cells of its own or new ones. -/
theorem Turn.cells_cases [Host] (h : Turn l d path memory task memory' task')
    (hcells : task.cells.Nodup) :
    task'.cells.Nodup ∧ ∀ i ∈ task'.cells, i ∈ task.cells ∨ memory.length ≤ i := by
  cases h with
  | load _ _ =>
      refine ⟨List.nodup_range', ?_⟩
      intro i hi
      exact .inr (List.mem_range'_1.mp hi).1
  | visit _ => exact ⟨hcells, fun i hi => .inl hi⟩
  | refuse _ _ => exact ⟨List.nodup_nil, List.forall_mem_nil _⟩
  | fail _ => exact ⟨List.nodup_nil, List.forall_mem_nil _⟩
  | finish => exact ⟨List.nodup_nil, List.forall_mem_nil _⟩

end Task

end EnvLint
