import EnvLint.Proofs.Lint.Pool

/-! # Any order of turns

    However the turns of the workers are mixed, the check of several files comes
    to what it comes to with one worker (`runs_outcome`).

    Every turn keeps `Sound`: no two tasks share a cell, each task is on its way to
    what checking its file alone gives, and what is collected or raised is what
    checking the files in turn gives.  So every run keeps it (`sound_of_runs`).
    And no run gets stuck or goes on for ever: a turn is possible until all is done
    (`Sound.exists_step`), and every turn leaves less work (`work_lt_of_step`). -/

namespace EnvLint.Pool

variable {l : Linter} {d : Disk} {jobs : Int} {paths : List Path} {s s' : Pool}
variable {front back : List (Path × Task)} {path : Path} {task task' : Task}

/-! ## What every turn keeps -/

/-- The cells that tasks use. -/
def cellsOf (tasks : List (Path × Task)) : List Nat :=
  tasks.flatMap fun t => t.2.cells

theorem mem_cellsOf {tasks : List (Path × Task)} {i : Nat} :
    i ∈ cellsOf tasks ↔ ∃ t ∈ tasks, i ∈ t.2.cells :=
  List.mem_flatMap

theorem mem_middle {t u : Path × Task} : t ∈ front ++ u :: back ↔ t = u ∨ t ∈ front ++ back := by
  rw [List.perm_middle.mem_iff, List.mem_cons]

/-- No cell is used twice if one task uses none twice, and none that others use. -/
theorem nodup_cellsOf_iff :
    (cellsOf (front ++ (path, task) :: back)).Nodup ↔ task.cells.Nodup ∧
      (cellsOf (front ++ back)).Nodup ∧ ∀ i ∈ task.cells, ∀ j ∈ cellsOf (front ++ back), i ≠ j := by
  have hperm : (cellsOf (front ++ (path, task) :: back)).Perm
      (task.cells ++ cellsOf (front ++ back)) := by
    rw [cellsOf, cellsOf, List.flatMap_append, List.flatMap_append, List.flatMap_cons]
    exact List.perm_append_comm_assoc _ _ _
  rw [hperm.nodup_iff, List.nodup_append]

/-- A task waits, is running or has ended. -/
theorem waiting_or_running_or_ended (task : Task) :
    task = .waiting ∨ task.isRunning = true ∨ task.isEnded = true := by
  cases task with
  | waiting => exact .inl rfl
  | loading => exact .inr (.inl rfl)
  | walking cells pending => exact .inr (.inl rfl)
  | done outcome => exact .inr (.inr rfl)
  | cancelled => exact .inr (.inr rfl)

section Host

variable [Host]

/-- A pool that is on its way to what checking the files in turn gives. -/
structure Sound (l : Linter) (d : Disk) (paths : List Path) (s : Pool) : Prop where
  linter : s.linter = l
  files : s.tasks.map Prod.fst = paths
  onWay : ∀ t ∈ s.tasks, t.2.OnWay l d s.memory t.1
  apart : (cellsOf s.tasks).Nodup
  collected : List.Forall₂ (fun path file => l.lintFile d path = .ok file)
    (paths.take s.collected.length) s.collected
  uncancelled : s.outcome = none → ∀ t ∈ s.tasks, t.2 ≠ .cancelled
  settled : ∀ outcome, s.outcome = some outcome →
    outcome = (paths.mapM (l.lintFile d)).map LintResult.mk

/-- A pool in which every file waits is on its way. -/
theorem sound_begin (l : Linter) (d : Disk) (paths : List Path) :
    Sound l d paths (begin l paths) where
  linter := rfl
  files := by
    rw [begin, List.map_map]
    exact List.map_id paths
  onWay := by
    intro t ht
    obtain ⟨path, -, rfl⟩ := List.mem_map.mp ht
    trivial
  apart := by
    have hnone : cellsOf (begin l paths).tasks = [] := by
      rw [cellsOf, List.flatMap_eq_nil_iff]
      intro t ht
      obtain ⟨path, -, rfl⟩ := List.mem_map.mp ht
      rfl
    rw [hnone]
    exact List.nodup_nil
  collected := by
    rw [show (begin l paths).collected = [] from rfl, List.length_nil, List.take_zero]
    exact .nil
  uncancelled := by
    rintro - t ht hcancelled
    obtain ⟨path, -, rfl⟩ := List.mem_map.mp ht
    cases hcancelled
  settled := by
    intro outcome houtcome
    cases houtcome

/-- One task goes on, in cells of its own or in new ones, and leaves the others theirs. -/
theorem Sound.replace {memory : List Env.Session} (h : Sound l d paths s)
    (htasks : s.tasks = front ++ (path, task) :: back) (hway : task'.OnWay l d memory path)
    (hkeep : ∀ i, i < s.memory.length → i ∉ task.cells → memory[i]? = s.memory[i]?)
    (hcells : task'.cells.Nodup) (hnew : ∀ i ∈ task'.cells, i ∈ task.cells ∨ s.memory.length ≤ i)
    (hcancelled : task' ≠ .cancelled) :
    Sound l d paths { s with memory := memory, tasks := front ++ (path, task') :: back } := by
  have hapart := h.apart
  rw [htasks, nodup_cellsOf_iff] at hapart
  obtain ⟨-, hothers, hdisjoint⟩ := hapart
  have hother : ∀ t ∈ front ++ back, t ∈ s.tasks := by
    intro t ht
    rw [htasks]
    exact mem_middle.mpr (.inr ht)
  -- cells of other tasks are in use, and not those of this one
  have hused : ∀ j ∈ cellsOf (front ++ back), j < s.memory.length ∧ j ∉ task.cells := by
    intro j hj
    obtain ⟨t, ht, hcell⟩ := mem_cellsOf.mp hj
    exact ⟨(h.onWay t (hother t ht)).lt_length j hcell, fun hmine => hdisjoint j hmine j hj rfl⟩
  refine ⟨h.linter, ?_, ?_, ?_, h.collected, ?_, h.settled⟩
  · rw [← h.files, htasks, List.map_append, List.map_append]
    rfl
  · intro t ht
    rcases mem_middle.mp ht with rfl | hold
    · exact hway
    · refine (h.onWay t (hother t hold)).of_agree ?_
      intro i hi hlt
      exact hkeep i hlt (hused i (mem_cellsOf.mpr ⟨t, hold, hi⟩)).2
  · refine nodup_cellsOf_iff.mpr ⟨hcells, hothers, ?_⟩
    rintro i hi j hj rfl
    rcases hnew i hi with hmine | hfresh
    · exact (hused i hj).2 hmine
    · exact absurd (hused i hj).1 (Nat.not_lt.mpr hfresh)
  · intro hnone t ht
    rcases mem_middle.mp ht with rfl | hold
    · exact hcancelled
    · exact h.uncancelled hnone t (hother t hold)

/-- Starting a task keeps the pool on its way; a task that loads uses no cells yet. -/
theorem Sound.start (h : Sound l d paths s) (htasks : s.tasks = front ++ (path, .waiting) :: back) :
    Sound l d paths { s with tasks := front ++ (path, .loading) :: back } :=
  h.replace htasks trivial (fun _ _ _ => rfl) List.nodup_nil (List.forall_mem_nil _) nofun

/-- A turn of a task keeps the pool on its way. -/
theorem Sound.advance {memory : List Env.Session} (h : Sound l d paths s)
    (htasks : s.tasks = front ++ (path, task) :: back)
    (hturn : task.advance s.linter d path s.memory = some (memory, task')) :
    Sound l d paths { s with memory := memory, tasks := front ++ (path, task') :: back } := by
  rw [h.linter] at hturn
  have hturn := Task.turn_of_advance hturn
  have hway : task.OnWay l d s.memory path := by
    refine h.onWay (path, task) ?_
    rw [htasks]
    exact mem_middle.mpr (.inl rfl)
  have hapart := h.apart
  rw [htasks, nodup_cellsOf_iff] at hapart
  obtain ⟨hnodup, hnew⟩ := hturn.cells_cases hapart.1
  refine h.replace htasks (hway.turn hapart.1 hturn) ?_ hnodup hnew ?_
  · intro i hi hcells
    exact hturn.getElem?_eq hi hcells
  · rintro rfl
    cases hturn

/-- The files before the next one are those whose results are collected. -/
theorem Sound.split (h : Sound l d paths s) (htasks : s.tasks = front ++ (path, task) :: back)
    (hnext : front.length = s.collected.length) :
    paths = front.map Prod.fst ++ path :: back.map Prod.fst ∧
      List.Forall₂ (fun path file => l.lintFile d path = .ok file)
        (front.map Prod.fst) s.collected ∧
      task.OnWay l d s.memory path := by
  have hpaths : paths = front.map Prod.fst ++ path :: back.map Prod.fst := by
    rw [← h.files, htasks, List.map_append]
    rfl
  have hcollected := h.collected
  rw [hpaths, ← hnext, List.take_left' (List.length_map _)] at hcollected
  refine ⟨hpaths, hcollected, h.onWay (path, task) ?_⟩
  rw [htasks]
  exact mem_middle.mpr (.inl rfl)

/-- The next result is what checking the next file gives, so it may be collected. -/
theorem Sound.collect {file : FileResult} (h : Sound l d paths s)
    (htasks : s.tasks = front ++ (path, .done (.ok file)) :: back)
    (hnext : front.length = s.collected.length) :
    Sound l d paths { s with collected := s.collected ++ [file] } := by
  obtain ⟨hpaths, hcollected, hfile⟩ := h.split htasks hnext
  refine ⟨h.linter, h.files, h.onWay, h.apart, ?_, h.uncancelled, h.settled⟩
  have htake : paths.take (s.collected ++ [file]).length = front.map Prod.fst ++ [path] := by
    rw [hpaths, List.append_cons (front.map Prod.fst)]
    refine List.take_left' ?_
    rw [List.length_append, List.length_append, List.length_map, hnext]
    rfl
  rw [htake]
  exact List.rel_append hcollected (.cons hfile.symm .nil)

/-- The failure of the first file that fails in order is what checking the files in turn
    gives; whatever waits may be cancelled then. -/
theorem Sound.raise {failure : Failure} (h : Sound l d paths s)
    (htasks : s.tasks = front ++ (path, .done (.error failure)) :: back)
    (hnext : front.length = s.collected.length) :
    Sound l d paths
      { s with
        tasks := s.tasks.map fun t => (t.1, t.2.cancel)
        outcome := some (.error failure) } := by
  obtain ⟨hpaths, hcollected, hfile⟩ := h.split htasks hnext
  have hcells (task : Task) : task.cancel.cells = task.cells := by
    cases task with
    | _ => rfl
  refine ⟨h.linter, ?_, ?_, ?_, h.collected, nofun, ?_⟩
  · rw [List.map_map]
    exact h.files
  · intro t ht
    obtain ⟨⟨p, task⟩, hu, rfl⟩ := List.mem_map.mp ht
    -- a task that is cancelled has nothing to come to
    have hway := h.onWay (p, task) hu
    cases task with
    | waiting => trivial
    | _ => exact hway
  · have hsame : cellsOf (s.tasks.map fun t => (t.1, t.2.cancel)) = cellsOf s.tasks := by
      rw [cellsOf, List.flatMap_map]
      exact List.flatMap_congr fun t _ => hcells t.2
    rw [hsame]
    exact h.apart
  · rintro outcome ⟨⟩
    -- the files before this one are checked, since their results were collected
    have hfails : paths.mapM (l.lintFile d) = .error failure := by
      refine mapM_eq_error_iff.mpr ⟨_, path, _, hpaths, ?_, hfile.symm⟩
      exact succeeds_mapM_iff.mp ⟨_, mapM_eq_ok_iff.mpr hcollected⟩
    rw [hfails]
    rfl

/-- With all results collected, they are what checking the files in turn gives. -/
theorem Sound.conclude (h : Sound l d paths s) (hall : s.collected.length = s.tasks.length) :
    Sound l d paths { s with outcome := some (.ok ⟨s.collected⟩) } := by
  refine ⟨h.linter, h.files, h.onWay, h.apart, h.collected, nofun, ?_⟩
  rintro outcome ⟨⟩
  have hlength : s.collected.length = paths.length := by
    rw [hall, ← h.files, List.length_map]
  have hcollected := h.collected
  rw [hlength, List.take_length] at hcollected
  rw [mapM_eq_ok_iff.mpr hcollected]
  rfl

/-- **Every turn keeps a pool on its way.** -/
theorem Sound.step (h : Sound l d paths s) (hstep : Step d jobs s s') : Sound l d paths s' := by
  cases hstep with
  | start htasks _ => exact h.start htasks
  | advance htasks hturn => exact h.advance htasks hturn
  | collect htasks hnext _ => exact h.collect htasks hnext
  | raise htasks hnext _ => exact h.raise htasks hnext
  | conclude hall _ => exact h.conclude hall

/-- Every run keeps what every turn keeps. -/
theorem sound_of_runs (h : Runs d jobs (begin l paths) s) : Sound l d paths s := by
  induction h with
  | refl => exact sound_begin l d paths
  | tail _ hstep ih => exact ih.step hstep

/-! ## Every run can be completed -/

/-- A running task can advance. -/
theorem exists_advance (h : task.isRunning = true) (l : Linter) (d : Disk) (path : Path)
    (memory : List Env.Session) :
    ∃ memory' task', task.advance l d path memory = some (memory', task') := by
  cases task with
  | waiting => cases h
  | done outcome => cases h
  | cancelled => cases h
  | loading =>
      -- the file may be refused, or its sessions, or else its root is looked at
      rw [Task.advance]
      split
      · exact ⟨_, _, rfl⟩
      · exact ⟨_, _, rfl⟩
      · split
        · exact ⟨_, _, rfl⟩
        · exact ⟨_, _, rfl⟩
  | walking cells pending =>
      cases pending with
      | nil => exact ⟨_, _, rfl⟩
      | cons v pending =>
          rw [Task.advance]
          split
          · exact ⟨_, _, rfl⟩
          · exact ⟨_, _, rfl⟩

/-- While no outcome is known and all tasks have ended, the next result can be taken. -/
theorem Sound.exists_step_of_ended (h : Sound l d paths s)
    (hended : ∀ t ∈ s.tasks, t.2.isEnded = true) (hopen : s.outcome = none) :
    ∃ s', Step d jobs s s' := by
  have hle : s.collected.length ≤ s.tasks.length := by
    have hlength := h.collected.length_eq
    rw [List.length_take, ← h.files, List.length_map] at hlength
    omega
  rcases Nat.lt_or_eq_of_le hle with hlt | hall
  · -- the task whose result is due
    obtain ⟨front, ⟨path, task⟩, back, htasks, hnext⟩ :
        ∃ front t back, s.tasks = front ++ t :: back ∧ front.length = s.collected.length := by
      refine ⟨s.tasks.take s.collected.length, s.tasks[s.collected.length],
        s.tasks.drop (s.collected.length + 1), ?_, List.length_take_of_le hle⟩
      rw [← List.drop_eq_getElem_cons hlt, List.take_append_drop]
    have hmem : (path, task) ∈ s.tasks := by
      rw [htasks]
      exact mem_middle.mpr (.inl rfl)
    cases task with
    | waiting => cases hended _ hmem
    | loading => cases hended _ hmem
    | walking cells pending => cases hended _ hmem
    | cancelled => exact absurd rfl (h.uncancelled hopen _ hmem)
    | done outcome =>
        cases outcome with
        | ok file => exact ⟨_, .collect htasks hnext hopen⟩
        | error failure => exact ⟨_, .raise htasks hnext hopen⟩
  · exact ⟨_, .conclude hall hopen⟩

/-- A turn is possible until all is done. -/
theorem Sound.exists_step (h : Sound l d paths s) (hjobs : 1 ≤ jobs) (hs : ¬s.Complete) :
    ∃ s', Step d jobs s s' := by
  by_cases hrunning : ∃ t ∈ s.tasks, t.2.isRunning = true
  · obtain ⟨⟨path, task⟩, ht, hrunning⟩ := hrunning
    obtain ⟨front, back, htasks⟩ := List.append_of_mem ht
    obtain ⟨memory', task', hturn⟩ := exists_advance hrunning s.linter d path s.memory
    exact ⟨_, .advance htasks hturn⟩
  by_cases hwaiting : ∃ t ∈ s.tasks, t.2 = .waiting
  · obtain ⟨⟨path, task⟩, ht, rfl⟩ := hwaiting
    obtain ⟨front, back, htasks⟩ := List.append_of_mem ht
    refine ⟨_, .start htasks ?_⟩
    have hnone : s.running = 0 := by
      rw [running, List.countP_eq_zero]
      intro t ht hr
      exact hrunning ⟨t, ht, hr⟩
    omega
  · have hended : ∀ t ∈ s.tasks, t.2.isEnded = true := by
      intro t ht
      rcases waiting_or_running_or_ended t.2 with hw | hr | he
      · exact absurd ⟨t, ht, hw⟩ hwaiting
      · exact absurd ⟨t, ht, hr⟩ hrunning
      · exact he
    refine h.exists_step_of_ended hended ?_
    cases houtcome : s.outcome with
    | none => rfl
    | some outcome => exact absurd ⟨by rw [houtcome]; rfl, hended⟩ hs

/-- How much a file costs once it is loaded. -/
def loadCost (d : Disk) (path : Path) : Nat :=
  match Program.load d path with
  | .ok program => Tree.pendingCost [⟨.enter, program⟩]
  | .error _ => 0

/-- How much work is left in a task. -/
def taskWork (d : Disk) (t : Path × Task) : Nat :=
  match t.2 with
  | .waiting => loadCost d t.1 + 3
  | .loading => loadCost d t.1 + 2
  | .walking _ pending => Tree.pendingCost pending + 1
  | _ => 0

/-- How many results are left to take. -/
def collectWork (s : Pool) : Nat :=
  match s.outcome with
  | none => s.tasks.length + 1 - s.collected.length
  | some _ => 0

/-- How much work is left in tasks. -/
def tasksWork (d : Disk) : List (Path × Task) → Nat
  | [] => 0
  | t :: tasks => taskWork d t + tasksWork d tasks

/-- How much work is left in a pool. -/
def work (d : Disk) (s : Pool) : Nat :=
  tasksWork d s.tasks + s.collectWork

/-- A turn leaves its task less work. -/
theorem taskWork_lt_of_turn {memory memory' : List Env.Session}
    (h : Task.Turn l d path memory task memory' task') :
    taskWork d (path, task') < taskWork d (path, task) := by
  cases h with
  | refuse _ _ => exact Nat.succ_pos _
  | load hload _ =>
      show Tree.pendingCost _ + 1 < loadCost d path + 2
      rw [loadCost, hload]
      exact Nat.lt_succ_self _
  | fail _ => exact Nat.succ_pos _
  | @visit _ v pending _ _ => exact Nat.succ_lt_succ (v.pendingCost_schedule_lt pending)
  | finish => exact Nat.succ_pos _

/-- Cancelling a task brings no work. -/
theorem taskWork_cancel_le (d : Disk) (t : Path × Task) :
    taskWork d (t.1, t.2.cancel) ≤ taskWork d t := by
  obtain ⟨path, task⟩ := t
  cases task with
  | waiting => exact Nat.zero_le _
  | _ => exact Nat.le_refl _

theorem tasksWork_middle (d : Disk) (t : Path × Task) :
    tasksWork d (front ++ t :: back) = taskWork d t + tasksWork d (front ++ back) := by
  induction front with
  | nil => rfl
  | cons u front ih =>
      rw [List.cons_append, List.cons_append, tasksWork, tasksWork, ih]
      omega

/-- A pool in which one task has less work has less work. -/
theorem work_replace_lt (memory : List Env.Session)
    (htasks : s.tasks = front ++ (path, task) :: back)
    (h : taskWork d (path, task') < taskWork d (path, task)) :
    work d { s with memory := memory, tasks := front ++ (path, task') :: back } < work d s := by
  have hcollect : collectWork { s with memory := memory, tasks := front ++ (path, task') :: back }
      = s.collectWork := by
    rw [collectWork, collectWork, htasks, List.length_append, List.length_append]
    rfl
  rw [work, work, hcollect, htasks, tasksWork_middle, tasksWork_middle]
  omega

/-- Cancelling what waits brings no work. -/
theorem tasksWork_cancel_le (d : Disk) (tasks : List (Path × Task)) :
    tasksWork d (tasks.map fun t => (t.1, t.2.cancel)) ≤ tasksWork d tasks := by
  induction tasks with
  | nil => exact Nat.le_refl _
  | cons t tasks ih => exact Nat.add_le_add (taskWork_cancel_le d t) ih

/-- Every turn leaves less work. -/
theorem work_lt_of_step (h : Step d jobs s s') : s'.work d < s.work d := by
  cases h with
  | start htasks _ => exact work_replace_lt s.memory htasks (Nat.lt_succ_self _)
  | advance htasks hturn =>
      exact work_replace_lt _ htasks (taskWork_lt_of_turn (Task.turn_of_advance hturn))
  | collect htasks hnext hopen =>
      have hlength := congrArg List.length htasks
      simp only [List.length_append, List.length_cons] at hlength
      simp only [work, collectWork, hopen, List.length_append, List.length_singleton]
      omega
  | raise htasks hnext hopen =>
      have hlength := congrArg List.length htasks
      have hle := tasksWork_cancel_le d s.tasks
      simp only [List.length_append, List.length_cons] at hlength
      simp only [work, collectWork, hopen]
      omega
  | conclude hall hopen =>
      simp only [work, collectWork, hopen]
      omega

/-- Every run can be completed. -/
theorem Sound.exists_complete (h : Sound l d paths s) (hjobs : 1 ≤ jobs) :
    ∃ s', Runs d jobs s s' ∧ s'.Complete := by
  induction hwork : s.work d using Nat.strongRecOn generalizing s with
  | ind n ih =>
      subst hwork
      by_cases hs : s.Complete
      · exact ⟨s, .refl, hs⟩
      · obtain ⟨next, hstep⟩ := h.exists_step hjobs hs
        obtain ⟨s', hruns, hcomplete⟩ := ih _ (work_lt_of_step hstep) (h.step hstep) rfl
        exact ⟨s', .head hstep hruns, hcomplete⟩

/-- **Any order of turns.**  Every run can be completed.  A complete run ends with the results of
    all files in their order, each what checking its file alone gives, or with the failure of the
    first file in order that fails, whichever failed first in time: with what the linter comes to,
    for these workers and for one. -/
theorem runs_outcome (l : Linter) (d : Disk) (paths : List Path) (hjobs : 1 ≤ jobs) :
    (∀ s, Runs d jobs (begin l paths) s → ∃ s', Runs d jobs s s' ∧ s'.Complete) ∧
    ∀ s, Runs d jobs (begin l paths) s → s.Complete → ∃ outcome, s.outcome = some outcome ∧
      ((∀ path ∈ paths, Succeeds (l.lintFile d path)) → ∃ files, outcome = .ok ⟨files⟩ ∧
        List.Forall₂ (fun path file => l.lintFile d path = .ok file) paths files) ∧
      (∀ before path after failure, paths = before ++ path :: after →
        (∀ p ∈ before, Succeeds (l.lintFile d p)) → l.lintFile d path = .error failure →
          outcome = .error failure) ∧
      outcome = l.lintFiles d jobs paths ∧ outcome = l.lintFiles d 1 paths := by
  refine ⟨?_, ?_⟩
  · intro s hruns
    exact (sound_of_runs hruns).exists_complete hjobs
  · rintro s hruns ⟨hsome, -⟩
    obtain ⟨outcome, houtcome⟩ := Option.isSome_iff_exists.mp hsome
    have hsettled := (sound_of_runs hruns).settled outcome houtcome
    refine ⟨outcome, houtcome, ?_, ?_, ?_, ?_⟩
    · intro hall
      obtain ⟨files, hfiles⟩ := succeeds_mapM_iff.mpr hall
      rw [hfiles] at hsettled
      exact ⟨files, hsettled, mapM_eq_ok_iff.mp hfiles⟩
    · intro before path after failure hpaths hbefore hfails
      rw [mapM_eq_error_iff.mpr ⟨before, path, after, hpaths, hbefore, hfails⟩] at hsettled
      exact hsettled
    · rw [hsettled, Linter.lintFiles, Linter.snd_traceFiles l d hjobs]
    · rw [hsettled, Linter.lintFiles, Linter.snd_traceFiles l d (Int.le_refl 1)]

/-- A file that is missing is refused as that. -/
theorem load_missing (hnull : path.hasNull = false) (h : d.octets path = .error .missing) :
    Program.load d path = .error (.load path .notFound) := by
  rw [Program.load, Program.trace, Disk.readText, hnull, h]
  rfl

end Host

/-- A linter without rules. -/
def idleLinter : Linter := ⟨⟨[]⟩, []⟩

/-- A file that does not exist. -/
def firstGone : Path := .ofString "first.json"

/-- Another file that does not exist. -/
def secondGone : Path := .ofString "second.json"

section Standard

attribute [local instance] Host.standard

/-- The second file fails before the first is started, and the failure of the first is raised. -/
theorem runs_outcome_lateFailure :
    ∃ s s', Runs Disk.blank 2 (begin idleLinter [firstGone, secondGone]) s ∧
      s.tasks = [(firstGone, .waiting), (secondGone, .done (.error (.load secondGone .notFound)))] ∧
      Runs Disk.blank 2 s s' ∧ s'.Complete ∧
      s'.outcome = some (.error (.load firstGone .notFound)) := by
  have hfirst : idleLinter.lintFile Disk.blank firstGone = .error (.load firstGone .notFound) := by
    rw [Linter.lintFile_eq_bind, load_missing (by decide +kernel) rfl]
    rfl
  have hsecond : Task.loading.advance idleLinter Disk.blank secondGone []
      = some ([], .done (.error (.load secondGone .notFound))) := by
    rw [Task.advance, load_missing (by decide +kernel) rfl]
  have hstart : (begin idleLinter [firstGone, secondGone]).tasks
      = [(firstGone, .waiting)] ++ (secondGone, .waiting) :: [] := rfl
  have hruns : Runs Disk.blank 2 (begin idleLinter [firstGone, secondGone]) _ :=
    .tail (.single (.start hstart (by decide))) (.advance rfl hsecond)
  obtain ⟨hcomplete, houtcome⟩ := runs_outcome idleLinter Disk.blank [firstGone, secondGone]
    (show (1 : Int) ≤ 2 by decide)
  obtain ⟨s', hruns', hs'⟩ := hcomplete _ hruns
  obtain ⟨outcome, hsome, -, hraised, -⟩ := houtcome s' (hruns.trans hruns') hs'
  refine ⟨_, s', hruns, rfl, hruns', hs', ?_⟩
  rw [hsome, hraised [] firstGone [secondGone] _ rfl (List.forall_mem_nil _) hfirst]

end Standard

end EnvLint.Pool
