import EnvLint.Proofs.Cli.Ending

/-! # The code of a run

    A run that returns has checked all files or was hindered.  What can hinder it
    is listed in the order in which it looks (`Hindrance`): the set-up, a path
    that leads nowhere, no files at all, and a file that cannot be checked.

    * `check_cases`: a check comes to a hindrance, to a failure that no run
      expects, or to the results of all files;
    * `not_hindered`: with results for all files nothing can have hindered it;
    * `run_code`: so the code, the report and the complaint follow, and neither
      the format nor the number of workers has a part in the code. -/

namespace EnvLint.Cli

open Env

/-! ## Hindrances -/

section Host

variable [Host] {a : Arguments} {d : Disk}

/-- Something stands in the way of a run. -/
inductive Hindered (a : Arguments) (d : Disk) : Prop where
  /-- The rules cannot be set up. -/
  | setUp {failure : Failure} (hlinter : a.linter d = .error failure)
  /-- A path leads nowhere. -/
  | missing {path : Path} (hpath : path ∈ a.paths) (hnowhere : d.LeadsNowhere path)
  /-- No file is found. -/
  | nothing (hfound : discover d a.pattern a.paths = .ok [])
  /-- A file cannot be loaded or checked. -/
  | file {l : Linter} {paths : List Path} {path : Path} {failure : Failure}
      (hlinter : a.linter d = .ok l) (hfound : discover d a.pattern a.paths = .ok paths)
      (hpath : path ∈ paths) (hfails : l.lintFile d path = .error failure)
      (hown : failure.isOwn = true)

/-- The first thing that stands in the way of a run, and what is said about it. -/
inductive Hindrance (a : Arguments) (d : Disk) : String → Prop where
  | setUp {failure : Failure} (hlinter : a.linter d = .error failure) :
      Hindrance a d failure.message
  | missing {l : Linter} {before : List Path} {path : Path} {after : List Path}
      (hlinter : a.linter d = .ok l) (hpaths : a.paths = before ++ path :: after)
      (hbefore : ∀ p ∈ before, ¬d.LeadsNowhere p) (hnowhere : d.LeadsNowhere path) :
      Hindrance a d ("no such file or directory: " ++ path.text)
  | nothing {l : Linter} (hlinter : a.linter d = .ok l)
      (hpaths : ∀ p ∈ a.paths, ¬d.LeadsNowhere p)
      (hfound : discover d a.pattern a.paths = .ok []) :
      Hindrance a d ("no files matching " ++ a.pattern)
  | file {l : Linter} {before : List Path} {path : Path} {after : List Path} {failure : Failure}
      (hlinter : a.linter d = .ok l) (hpaths : ∀ p ∈ a.paths, ¬d.LeadsNowhere p)
      (hfound : discover d a.pattern a.paths = .ok (before ++ path :: after))
      (hbefore : ∀ p ∈ before, Succeeds (l.lintFile d p))
      (hfails : l.lintFile d path = .error failure) (hown : failure.isOwn = true) :
      Hindrance a d failure.message

/-- What a run finds in all files that it discovers, in their order. -/
inductive Checks (a : Arguments) (d : Disk) : List FileResult → Prop where
  | mk {l : Linter} {paths : List Path} {files : List FileResult} (hlinter : a.linter d = .ok l)
      (hfound : discover d a.pattern a.paths = .ok paths) (hsome : paths ≠ [])
      (hfiles : List.Forall₂ (fun path file => l.lintFile d path = .ok file) paths files) :
      Checks a d files

/-- What hinders a run with a message hinders it. -/
theorem Hindrance.hindered {message : String} (h : Hindrance a d message) : Hindered a d := by
  cases h with
  | setUp hlinter => exact .setUp hlinter
  | missing _ hpaths _ hnowhere =>
      refine .missing ?_ hnowhere
      rw [hpaths]
      exact List.mem_append_cons_self
  | nothing _ _ hfound => exact .nothing hfound
  | file hlinter _ hfound _ hfails hown =>
      exact .file hlinter hfound List.mem_append_cons_self hfails hown

/-- No path leads nowhere where files could be discovered. -/
theorem somewhere_of_discover {pattern : String} {paths found : List Path}
    (h : discover d pattern paths = .ok found) {p : Path} (hp : p ∈ paths) : ¬d.LeadsNowhere p := by
  intro hnowhere
  obtain ⟨lists, hlists, -⟩ := discover_eq_ok_iff.mp h
  have hp := succeeds_mapM_iff.mp ⟨lists, hlists⟩ p hp
  rw [expand_of_nowhere hnowhere] at hp
  exact not_succeeds_error _ hp

/-- A run that checks files is not hindered. -/
theorem not_hindered {files : List FileResult} (h : Checks a d files) : ¬Hindered a d := by
  obtain ⟨hlinter, hfound, hsome, hfiles⟩ := h
  rintro (⟨hother⟩ | ⟨hpath, hnowhere⟩ | ⟨hnothing⟩ | ⟨hother, hothers, hpath, hfails, -⟩)
  · rw [hlinter] at hother
    cases hother
  · exact somewhere_of_discover hfound hpath hnowhere
  · rw [hfound] at hnothing
    cases hnothing
    exact hsome rfl
  · rw [hlinter] at hother
    cases hother
    rw [hfound] at hothers
    cases hothers
    obtain ⟨file, hfile⟩ := succeeds_mapM_iff.mp ⟨_, mapM_eq_ok_iff.mpr hfiles⟩ _ hpath
    rw [hfails] at hfile
    cases hfile

/-! ## Checks -/

/-- What a check comes to. -/
inductive Comes (a : Arguments) (d : Disk) : Outcome → Prop where
  | nothing (h : Hindrance a d ("no files matching " ++ a.pattern)) : Comes a d .noFiles
  | hindrance {failure : Failure} (h : Hindrance a d failure.message) : Comes a d (.failed failure)
  | unexpected {failure : Failure} (h : failure.isExpected = false) : Comes a d (.failed failure)
  | checked {files : List FileResult} (h : Checks a d files) : Comes a d (.checked ⟨files⟩)

/-- A search that fails, where there is something to search, fails as no run expects. -/
theorem isExpected_of_expand_error {pattern : String} {path : Path} {failure : Failure}
    (hnowhere : ¬d.LeadsNowhere path) (h : expand d pattern path = .error failure) :
    failure.isExpected = false := by
  rcases d.find_cases path with hmissing | ⟨obstacle, hobstacle⟩ | ⟨e, hfind⟩
  · exact absurd hmissing hnowhere
  · rw [expand_of_obstacle hobstacle] at h
    cases h
    rfl
  · cases hdir : e.isDir with
    | false =>
        rw [expand_of_isFile (by rw [Disk.isFile_of_find hfind, Entry.isFile, hdir]; rfl)] at h
        cases h
    | true =>
        rw [expand_of_dir hfind hdir] at h
        -- the pattern is no glob, the stack is full, or a path below is in the way
        rcases bind_eq_error_iff.mp h with hglob | ⟨g, -, h⟩
        · obtain ⟨fault, -, rfl⟩ := mapError_eq_error_iff.mp hglob
          rfl
        · rcases bind_eq_error_iff.mp h with hstack | ⟨_, -, hfiles⟩
          · obtain ⟨words, -, rfl⟩ := checkStack_eq_error_iff.mp hstack
            rfl
          · obtain ⟨q, other, -, rfl⟩ := blocked_of_filesBelow_error hfiles
            rfl

/-- A failure to discover files names the first path that leads nowhere, or is none that a run
    expects. -/
theorem comes_of_discover_error {l : Linter} (hlinter : a.linter d = .ok l) {failure : Failure}
    (h : discover d a.pattern a.paths = .error failure) : Comes a d (.failed failure) := by
  obtain ⟨before, path, after, hpaths, hbefore, hfails⟩ := discover_eq_error_iff.mp h
  by_cases hnowhere : d.LeadsNowhere path
  · rw [expand_of_nowhere hnowhere] at hfails
    cases hfails
    refine .hindrance (.missing hlinter hpaths ?_ hnowhere)
    intro p hp hother
    obtain ⟨found, hfound⟩ := hbefore p hp
    rw [expand_of_nowhere hother] at hfound
    cases hfound
  · exact .unexpected (isExpected_of_expand_error hnowhere hfails)

/-- A run whose check fails comes to that failure. -/
theorem comes_of_lint_error {l : Linter} (hlinter : a.linter d = .ok l) {paths : List Path}
    (hfound : discover d a.pattern a.paths = .ok paths) {failure : Failure}
    (h : paths.mapM (l.lintFile d) = .error failure) : Comes a d (.failed failure) := by
  obtain ⟨before, path, after, rfl, hbefore, hfails⟩ := mapM_eq_error_iff.mp h
  have hown := isExpected_eq_isOwn_of_lintFile hfails
  cases hexpected : failure.isExpected with
  | false => exact .unexpected hexpected
  | true =>
      refine .hindrance (.file hlinter ?_ hfound hbefore hfails (hown.symm.trans hexpected))
      intro p hp
      exact somewhere_of_discover hfound hp

/-- A check comes to its first hindrance, to a failure that no run expects, or to what is
    found in all files. -/
theorem check_cases (hjobs : 1 ≤ a.jobs) : Comes a d (a.check d).2 := by
  rw [Arguments.check]
  cases hlinter : a.linter d with
  | error failure => exact .hindrance (.setUp hlinter)
  | ok l =>
      dsimp only
      cases hfound : discover d a.pattern a.paths with
      | error failure => exact comes_of_discover_error hlinter hfound
      | ok paths =>
          cases paths with
          | nil =>
              refine .nothing (.nothing hlinter ?_ hfound)
              intro p hp
              exact somewhere_of_discover hfound hp
          | cons path paths =>
              dsimp only
              rw [Linter.snd_traceFiles l d hjobs]
              cases hfiles : (path :: paths).mapM (l.lintFile d) with
              | error failure => exact comes_of_lint_error hlinter hfound hfiles
              | ok files =>
                  exact .checked (.mk hlinter hfound (List.cons_ne_nil _ _)
                    (mapM_eq_ok_iff.mp hfiles))

/-- Of several results for the same files there is only one. -/
theorem Checks.unique {files others : List FileResult} (h : Checks a d files)
    (hothers : Checks a d others) : files = others := by
  obtain ⟨hlinter, hfound, -, hfiles⟩ := h
  obtain ⟨hlinter', hfound', -, hfiles'⟩ := hothers
  rw [hlinter] at hlinter'
  cases hlinter'
  rw [hfound] at hfound'
  cases hfound'
  have hsame := mapM_eq_ok_iff.mpr hfiles'
  rw [mapM_eq_ok_iff.mpr hfiles] at hsame
  cases hsame
  rfl

/-! ## Runs -/

end Host

/-- Some diagnostic is an error. -/
def HasError (files : List FileResult) : Prop :=
  ∃ f ∈ files, ∃ x ∈ f.diagnostics, x.severity = .error

/-- A result has passed if no file has an error. -/
theorem passed_iff {files : List FileResult} :
    (LintResult.mk files).passed = true ↔ ¬HasError files := by
  rw [LintResult.passed, LintResult.errorCount, beq_iff_eq, List.countP_eq_zero]
  simp only [LintResult.diagnostics, List.mem_flatMap, HasError, beq_iff_eq]
  constructor
  · rintro h ⟨f, hf, x, hx, herror⟩
    exact h x ⟨f, hf, hx⟩ herror
  · rintro h x ⟨f, hf, hx⟩ herror
    exact h ⟨f, hf, x, hx, herror⟩

/-- The code of a report is not that of a hindrance. -/
theorem code_ne_two {files : List FileResult} {n : Nat} (hone : HasError files → n = 1)
    (hzero : ¬HasError files → n = 0) : n ≠ 2 := by
  by_cases herror : HasError files
  · rw [hone herror]
    decide
  · rw [hzero herror]
    decide

section Host

variable [Host] {a : Arguments} {d : Disk}

/-- A run that returns tells of its first hindrance, or reports on all files. -/
theorem run_cases (hjobs : 1 ≤ a.jobs) {terminal : Bool} {n : Nat}
    (h : (a.run d terminal).ending = .code n) :
    (n = 2 ∧ (a.run d terminal).stdout = "" ∧ ∃ message, Hindrance a d message ∧
      (a.run d terminal).complaint = "envcheck: " ++ message ++ "\n") ∨
    ∃ files, Checks a d files ∧ a.report terminal ⟨files⟩ = .ok (a.run d terminal).stdout ∧
      (HasError files → n = 1) ∧ (¬HasError files → n = 0) := by
  have hcomes := check_cases (a := a) (d := d) hjobs
  rw [Arguments.run] at h ⊢
  generalize a.check d = came at h hcomes ⊢
  obtain ⟨events, outcome⟩ := came
  dsimp only at h hcomes ⊢
  cases hcomes with
  | nothing hnothing =>
      cases h
      exact Or.inl ⟨rfl, rfl, _, hnothing, rfl⟩
  | @hindrance failure hfirst =>
      dsimp only at h ⊢
      by_cases hexpected : failure.isExpected = true
      · rw [if_pos hexpected] at h ⊢
        cases h
        exact Or.inl ⟨rfl, rfl, _, hfirst, rfl⟩
      · rw [if_neg hexpected] at h
        cases h
  | unexpected hunexpected =>
      dsimp only at h
      -- a failure that is not expected leaves the run, so there is no code
      rw [if_neg (by simp [hunexpected])] at h
      cases h
  | @checked files hfiles =>
      dsimp only at h ⊢
      cases hreport : a.report terminal ⟨files⟩ with
      | error failure =>
          rw [hreport] at h
          cases h
      | ok text =>
          rw [hreport] at h
          cases h
          refine Or.inr ⟨files, hfiles, hreport, ?_, ?_⟩
          · intro herror
            rw [if_neg fun hpassed => passed_iff.mp hpassed herror]
            rfl
          · intro herror
            rw [if_pos (passed_iff.mpr herror)]
            rfl

/-- What is checked does not depend on how it is reported, logged or shared among workers. -/
theorem code_unique {b : Arguments}
    (hsame : b = { a with
      format := b.format, jobs := b.jobs, noColor := b.noColor, verbosity := b.verbosity })
    (hjobs : 1 ≤ a.jobs) (hjobs' : 1 ≤ b.jobs) {terminal terminal' : Bool} {n m : Nat}
    (hn : (a.run d terminal).ending = .code n) (hm : (b.run d terminal').ending = .code m) :
    m = n := by
  have hhindered : Hindered b d → Hindered a d := by
    rw [hsame]
    rintro (⟨hlinter⟩ | ⟨hpath, hnowhere⟩ | ⟨hfound⟩ | ⟨hlinter, hfound, hpath, hfails, hown⟩)
    · exact .setUp hlinter
    · exact .missing hpath hnowhere
    · exact .nothing hfound
    · exact .file hlinter hfound hpath hfails hown
  have hchecks : ∀ files, Checks b d files → Checks a d files := by
    rw [hsame]
    rintro files ⟨hlinter, hfound, hsome, hfiles⟩
    exact .mk hlinter hfound hsome hfiles
  rcases run_cases hjobs hn with ⟨rfl, -, _, hfirst, -⟩ | ⟨files, hfiles, -, hone, hzero⟩
  · rcases run_cases hjobs' hm with ⟨rfl, -⟩ | ⟨others, hothers, -⟩
    · rfl
    · exact absurd hfirst.hindered (not_hindered (hchecks _ hothers))
  · rcases run_cases hjobs' hm with ⟨-, -, _, hother, -⟩ | ⟨others, hothers, -, hone', hzero'⟩
    · exact absurd (hhindered hother.hindered) (not_hindered hfiles)
    · rw [← hfiles.unique (hchecks _ hothers)] at hone' hzero'
      by_cases herror : HasError files
      · rw [hone herror, hone' herror]
      · rw [hzero herror, hzero' herror]

/-- **The code of a run.**  A run that returns has the code two if and only if something
    hinders it; then it writes no report, and complains of the first hindrance.  Otherwise
    it writes the report on all files that it discovered, and its code is one if there is
    an error among the diagnostics and zero if there is none.  Two runs that differ only
    in the report, the log and the number of workers have the same code. -/
theorem run_code {argv : List String} (hread : Arguments.read argv = .ok a) (hjobs : 1 ≤ a.jobs)
    {terminal : Bool} {n : Nat} (hends : (run d terminal argv).ending = .code n) :
    (n = 2 ↔ Hindered a d) ∧
    (n = 2 → (run d terminal argv).stdout = "" ∧ ∃ message, Hindrance a d message ∧
      (run d terminal argv).complaint = "envcheck: " ++ message ++ "\n") ∧
    (n ≠ 2 → ∃ files, Checks a d files ∧
      a.report terminal ⟨files⟩ = .ok (run d terminal argv).stdout ∧
      (HasError files → n = 1) ∧ (¬HasError files → n = 0)) ∧
    ∀ (others : List String) (b : Arguments) (terminal' : Bool) (m : Nat),
      Arguments.read others = .ok b → 1 ≤ b.jobs →
      b = { a with
        format := b.format, jobs := b.jobs, noColor := b.noColor, verbosity := b.verbosity } →
      (run d terminal' others).ending = .code m → m = n := by
  rw [run_of_read hread hjobs] at hends ⊢
  have hcases := run_cases hjobs hends
  refine ⟨?_, ?_, ?_, ?_⟩
  · rcases hcases with ⟨rfl, -, message, hfirst, -⟩ | ⟨files, hfiles, -, hone, hzero⟩
    · exact iff_of_true rfl hfirst.hindered
    · exact iff_of_false (code_ne_two hone hzero) (not_hindered hfiles)
  · rintro rfl
    rcases hcases with ⟨-, htold⟩ | ⟨files, -, -, hone, hzero⟩
    · exact htold
    · exact absurd rfl (code_ne_two hone hzero)
  · intro hne
    exact hcases.resolve_left fun htold => hne htold.1
  · intro others b terminal' m hb hjobs' hsame hm
    rw [run_of_read hb hjobs'] at hm
    exact code_unique hsame hjobs hjobs' hends hm

end Host

section Standard

attribute [local instance] Host.standard

/-- The module that reads a secret is reported on, and the code of the run says so. -/
theorem run_code_secretModule :
    (run (pageDisk secretModuleText.toList) false ["page.json"]).ending = .code 1 ∧
      ¬Hindered pageArguments (pageDisk secretModuleText.toList) ∧
      ∃ files, Checks pageArguments (pageDisk secretModuleText.toList) files ∧
        pageArguments.report false ⟨files⟩
          = .ok (run (pageDisk secretModuleText.toList) false ["page.json"]).stdout := by
  obtain ⟨o, hoptions, hfound⟩ := lint_secretModule
  have hlinter := ofConfig_eq_ok hoptions .error
  have hlint : (Program.ofText secretModuleText (.ofString "page.json") >>= fun program =>
      (Linter.mk ⟨[(ruleId, ⟨.error, []⟩)]⟩ [⟨o, .error⟩]).lint program (.ofString "page.json"))
        = .ok ⟨.ofString "page.json", [secretReport (.ofString "page.json")]⟩ := by
    rw [ofText_secretModule]
    exact hfound _ rfl
  have htext : (pageDisk secretModuleText.toList).readText (.ofString "page.json")
      = .ok secretModuleText.toList := by
    rw [secretModuleText, String.toList_join]
    decide +kernel
  have hshown : ∀ f ∈ [secretReport (.ofString "page.json")],
      Report.Showable (shownNumbers pageArguments.format f.location) := by
    intro f hf
    rw [List.mem_singleton.mp hf, Report.Showable]
    decide +kernel
  obtain ⟨text, hreport⟩ := (succeeds_report_of_lint rfl hlint pageArguments false).mpr hshown
  have hends : (run (pageDisk secretModuleText.toList) false ["page.json"]).ending = .code 1 := by
    rw [ending_of_file read_page rfl hlinter htext bounded_secretModuleText (by decide) false,
      hlint]
    show reportEnding (pageArguments.report false _) _ = _
    rw [hreport]
    rfl
  obtain ⟨htwo, -, hother, -⟩ := run_code read_page (by decide) hends
  refine ⟨hends, fun hhindered => absurd (htwo.mpr hhindered) (by decide), ?_⟩
  obtain ⟨files, hfiles, hwritten, -⟩ := hother (by decide)
  exact ⟨files, hfiles, hwritten⟩

end Standard

end EnvLint.Cli
