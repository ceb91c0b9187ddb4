import EnvLint.Proofs.Env.Handlers

/-! # Checking several files

    Checking files comes to checking each of them: in turn or beside each other,
    the results stand in the order of the files, and of several failures the one
    of the first file counts (`snd_traceFiles`).

    A failure to check a file that a run expects is a failure of what is checked:
    only the search for files names a path that leads nowhere
    (`isExpected_eq_isOwn_of_lintFile`).  The argument goes from a call of the
    session over a visit of all sessions to a run over all visits. -/

namespace EnvLint

open Env

namespace Linter

variable [Host]

/-- Checking a file is loading it and checking what it holds. -/
theorem lintFile_eq_bind (l : Linter) (d : Disk) (path : Path) :
    l.lintFile d path = Program.load d path >>= fun program => l.lint program path := by
  rw [lintFile, traceFile, Program.load]
  obtain ⟨events, program⟩ := Program.trace d path
  cases program with
  | error failure => rfl
  | ok program =>
      show _ = (l.traceAt program (some path)).2
      dsimp only
      cases (l.traceAt program (some path)).2 with
      | error failure => rfl
      | ok file => rfl

/-! ## In turn and beside each other -/

/-- Checking files in turn comes to mapping the check over them, whatever is logged. -/
theorem snd_traceInTurn (l : Linter) (d : Disk) (paths : List Path) :
    (l.traceInTurn d paths).2 = paths.mapM (l.lintFile d) := by
  induction paths with
  | nil => rfl
  | cons path rest ih =>
      rw [List.mapM_cons, ← ih, traceInTurn, lintFile]
      cases l.traceFile d path with
      | mk events result =>
          cases result with
          | error failure => rfl
          | ok file =>
              dsimp only
              cases (l.traceInTurn d rest).2 with
              | error failure => rfl
              | ok files => rfl

/-- Checking files beside each other comes to mapping the check over them, whatever is
    logged. -/
theorem snd_traceBeside (l : Linter) (d : Disk) (paths : List Path) :
    (l.traceBeside d paths).2 = paths.mapM (l.lintFile d) := by
  rw [traceBeside, List.mapM_map]
  rfl

/-- Workers make no difference to what is found. -/
theorem snd_traceFiles (l : Linter) (d : Disk) {jobs : Int} (hjobs : 1 ≤ jobs)
    (paths : List Path) :
    (l.traceFiles d jobs paths).2 = (paths.mapM (l.lintFile d)).map LintResult.mk := by
  have hrun : (if jobs = 1 ∨ paths.length ≤ 1 then l.traceInTurn d paths
      else l.traceBeside d paths).2 = paths.mapM (l.lintFile d) := by
    split
    · exact snd_traceInTurn l d paths
    · exact snd_traceBeside l d paths
  rw [traceFiles, if_neg (by omega), ← hrun]
  rcases (if jobs = 1 ∨ paths.length ≤ 1 then l.traceInTurn d paths
    else l.traceBeside d paths) with ⟨events, results⟩
  cases results with
  | error failure => rfl
  | ok files => rfl

end Linter

/-! ## How checking a file fails -/

/-- Refusals are expected, and they are own failures. -/
theorem isExpected_eq_isOwn_of_isRefusal {e : Failure} (h : isRefusal e = true) :
    e.isExpected = e.isOwn := by
  cases e with
  | missingPath => cases h
  | _ => rfl

/-- What is not expected is no own failure. -/
theorem isExpected_eq_isOwn_of_unexpected {e : Failure} (h : e.isExpected = false) :
    e.isExpected = e.isOwn := by
  cases e with
  | missingPath => cases h
  | _ => rfl

/-- Locating a read fails in an expected way just with own failures. -/
theorem isExpected_eq_isOwn_of_siteOf {o : RuleOptions} {path : Path} {property : Json}
    {e : Failure} (h : siteOf o path property = .error e) : e.isExpected = e.isOwn := by
  by_cases hplaced : span? property = none
  · obtain ⟨place, reason, htree⟩ := siteOf_of_unplaced o path hplaced
    rw [htree] at h
    cases h
    rfl
  · exact isExpected_eq_isOwn_of_unexpected ((siteOf_of_placed o path hplaced).2 e h).2

theorem isExpected_eq_isOwn_of_reports {sites : List Site} {context : Context} {e : Failure}
    (h : sites.foldlM Session.reportSite context = .error e) : e.isExpected = e.isOwn := by
  induction sites generalizing context with
  | nil => cases h
  | cons site sites ih =>
      rw [List.foldlM_cons] at h
      rcases bind_eq_error_iff.mp h with hreport | ⟨next, -, hrest⟩
      · exact isExpected_eq_isOwn_of_isRefusal (isRefusal_of_report hreport)
      · exact ih hrest

/-- A call of a session fails for what it reads or refuses. -/
theorem isExpected_eq_isOwn_of_step {s : Session} {x : Selector} {n : Json} {e : Failure}
    (h : s.step x n = .error e) : e.isExpected = e.isOwn := by
  cases x with
  | program => cases h
  | exportDeclaration => cases h
  | importDeclaration =>
      have heffect := onImport_effect s n
      rw [show s.onImport n = .error e from h] at heffect
      cases heffect with
      | badImport hfail =>
          obtain ⟨-, v, -, hitems⟩ := importAlias_eq_error_iff.mp hfail
          obtain ⟨rfl, -⟩ := itemsOf_eq_error_iff.mp hitems
          rfl
  | member =>
      have heffect := onMember_effect s n
      rw [show s.onMember n = .error e from h] at heffect
      cases heffect with
      | badRead _ _ hfail => exact isExpected_eq_isOwn_of_siteOf hfail
  | programExit =>
      rcases bind_eq_error_iff.mp h with hreports | ⟨_, _, hok⟩
      · exact isExpected_eq_isOwn_of_reports hreports
      · cases hok

/-- A visit fails in an expected way just with own failures. -/
theorem isExpected_eq_isOwn_of_visit {s : Session} {v : Tree.Visit} {e : Failure}
    (h : s.visit v = .error e) : e.isExpected = e.isOwn := by
  rw [Session.visit] at h
  split at h
  · exact isExpected_eq_isOwn_of_step h
  · cases h

/-- The first visit that fails ends a run, with the failure of one of the sessions. -/
theorem isExpected_eq_isOwn_of_runVisits {sessions : List Session} {visits : List Tree.Visit}
    {e : Failure} (h : (Linter.runVisits sessions visits).2 = some e) :
    e.isExpected = e.isOwn := by
  induction visits generalizing sessions with
  | nil => cases h
  | cons v visits ih =>
      rw [Linter.runVisits] at h
      cases hv : Linter.visitAll sessions v with
      | ok next =>
          rw [hv] at h
          exact ih h
      | error failure =>
          rw [hv] at h
          cases h
          obtain ⟨-, bad, -, -, -, hbad⟩ := mapM_eq_error_iff.mp hv
          exact isExpected_eq_isOwn_of_visit hbad

/-- With a path, sessions are made without a failure. -/
theorem sessions_ne_error (l : Linter) (path : Path) (e : Failure) :
    l.sessions (some path) ≠ .error e := by
  intro h
  obtain ⟨-, bad, -, -, -, hbad⟩ := mapM_eq_error_iff.mp h
  cases hbad

theorem isExpected_eq_isOwn_of_traceAt {l : Linter} {program : Json} {path : Path} {e : Failure}
    (h : (l.traceAt program (some path)).2 = .error e) : e.isExpected = e.isOwn := by
  rw [Linter.traceAt] at h
  split at h
  next failure hsessions => exact absurd hsessions (sessions_ne_error l path failure)
  next sessions hsessions =>
    split at h
    next fault hwalk =>
      cases h
      rfl
    next visits hwalk =>
      -- the file is known, so only a visit can fail
      cases hfailure : (Linter.runVisits sessions visits).2 with
      | none =>
          dsimp only at h
          rw [hfailure] at h
          cases h
      | some failure =>
          dsimp only at h
          rw [hfailure] at h
          cases h
          exact isExpected_eq_isOwn_of_runVisits hfailure

section Host

variable [Host]

/-- A text fails for its depth, for its flaw or for its root. -/
theorem isExpected_eq_isOwn_of_ofText {calls : Nat} {text : String} {path : Path} {e : Failure}
    (h : Program.ofTextBelow calls text path = .error e) : e.isExpected = e.isOwn := by
  rcases bind_eq_error_iff.mp h with hfull | ⟨_, -, h⟩
  · obtain ⟨words, -, rfl⟩ := checkStack_eq_error_iff.mp hfull
    rfl
  split at h
  · cases h
    rw [Program.decodeFailure]
    split
    · rfl
    · rfl
  · rw [Program.accept] at h
    split at h
    · cases h
    · split at h
      · split at h
        · cases h
          rfl
        · cases h
          rfl
      · cases h
        rfl

/-- Loading a program fails in an expected way just with own failures. -/
theorem isExpected_eq_isOwn_of_trace {d : Disk} {path : Path} {e : Failure}
    (h : (Program.trace d path).2 = .error e) : e.isExpected = e.isOwn := by
  rw [Program.trace] at h
  split at h
  next fault hread =>
    cases h
    rcases fault with _ | (_ | _ | _ | _ | _) | _
    · rfl
    · rfl
    · rfl
    · rfl
    · rfl
    · rfl
    · rfl
  · exact isExpected_eq_isOwn_of_ofText h

/-- A failure to check a file that a run expects is one of what is checked. -/
theorem isExpected_eq_isOwn_of_lintFile {l : Linter} {d : Disk} {path : Path} {e : Failure}
    (h : l.lintFile d path = .error e) : e.isExpected = e.isOwn := by
  rw [Linter.lintFile_eq_bind] at h
  rcases bind_eq_error_iff.mp h with hload | ⟨program, -, hlint⟩
  · exact isExpected_eq_isOwn_of_trace hload
  · exact isExpected_eq_isOwn_of_traceAt hlint

end Host

end EnvLint
