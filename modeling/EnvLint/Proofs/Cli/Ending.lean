import EnvLint.Cli.Run
import EnvLint.Proofs.Env.Malformed
import EnvLint.Proofs.Lint.Discovery
import EnvLint.Proofs.Lint.Files
import EnvLint.Proofs.Report.Written

/-! # How a run of the command ends

    A run that is given one file reads it, checks it and reports.  It ends with
    an exit code unless something fails that no run expects.  There are two such
    things once the rules are set up and the file could be read: a tree that
    breaks the run, and a report with a number that is too long to be shown
    (`run_ends_iff`).

    * `ending_eq` reduces a run to the outcome of its check;
    * `check_snd_of_file` is what a check of one file comes to;
    * `succeeds_report_iff` is when a report can be written, in any format. -/

namespace EnvLint.Cli

open Env Report

/-! ## One file -/

section Host

variable [Host]

/-- What can be read as a text is a file. -/
theorem isFile_of_readText {d : Disk} {path : Path} {cs : List Char}
    (h : d.readText path = .ok cs) : d.isFile path = true := by
  rw [Disk.readText] at h
  split at h
  · cases h
  · rw [Disk.isFile]
    rw [Disk.octets] at h
    cases hfind : d.find path with
    | error fault =>
        rw [hfind] at h
        cases h
    | ok e =>
        rw [hfind] at h
        cases e with
        | file octets => rfl
        | locked => rfl
        | dir entries => cases h
        | sealed => cases h

/-- A file that can be read is checked by its text. -/
theorem lintFile_of_readText {d : Disk} {path : Path} {text : String}
    (h : d.readText path = .ok text.toList) (htext : Bounded text) (l : Linter) :
    l.lintFile d path = Program.ofText text path >>= fun program => l.lint program path := by
  have hload : Program.load d path = Program.ofText text path := by
    rw [Program.load, Program.trace, h]
    show Program.ofTextBelow 1 (String.ofList text.toList) path = _
    rw [String.ofList_toList, htext.ofTextBelow]
  rw [Linter.lintFile_eq_bind, hload]

/-- What checking one file comes to. -/
def outcomeOf : Except Failure FileResult → Outcome
  | .ok file => .checked ⟨[file]⟩
  | .error failure => .failed failure

/-- A check of one file comes to what is found in it. -/
theorem check_snd_of_file {a : Arguments} {d : Disk} {l : Linter} (hlinter : a.linter d = .ok l)
    {path : Path} (hpaths : a.paths = [path]) (hfile : d.isFile path = true)
    (hjobs : 1 ≤ a.jobs) : (a.check d).2 = outcomeOf (l.lintFile d path) := by
  rw [Arguments.check, hlinter, hpaths]
  dsimp only
  rw [discover_of_files (List.forall_mem_singleton.mpr hfile) (List.nodup_singleton path)]
  dsimp only
  rw [Linter.snd_traceFiles l d hjobs, List.mapM_cons]
  cases l.lintFile d path with
  | error failure => rfl
  | ok file => rfl

end Host

/-- How a run ends with a failure: with an exit code if it expects the failure. -/
def failureEnding (failure : Failure) : Ending :=
  if failure.isExpected then .code codeFault else .failed failure

/-- How a run ends with a report, if that can be written. -/
def reportEnding (report : Except Failure String) (passed : Bool) : Ending :=
  match report with
  | .error failure => .failed failure
  | .ok _ => .code (if passed then codePassed else codeErrors)

/-- The end of a run, by what its check comes to. -/
theorem ending_eq [Host] (a : Arguments) (d : Disk) (terminal : Bool) :
    (a.run d terminal).ending = match (a.check d).2 with
      | .noFiles => .code codeFault
      | .failed failure => failureEnding failure
      | .checked result => reportEnding (a.report terminal result) result.passed := by
  rw [Arguments.run]
  cases a.check d with
  | mk events outcome =>
      cases outcome with
      | noFiles => rfl
      | failed failure =>
          show (if failure.isExpected then _ else _ : Transcript).ending
            = if failure.isExpected then _ else _
          cases failure.isExpected with
          | true => rfl
          | false => rfl
      | checked result =>
          dsimp only
          cases a.report terminal result with
          | error failure => rfl
          | ok text => rfl

/-! ## Reports -/

/-- The numbers that a report shows of a location. -/
def shownNumbers (format : Format) (l : Location) : List Int :=
  positionNumbers l ++ if format = .json then endNumbers l else []

/-- A report of diagnostics with plain rule names can be written, in any format, if its
    numbers can be shown. -/
theorem succeeds_report_iff [Host] (a : Arguments) (terminal : Bool) {r : LintResult}
    (hplain : ∀ d ∈ r.diagnostics, Markup.IsPlain d.ruleId.toList) :
    Succeeds (a.report terminal r) ↔
      ∀ d ∈ r.diagnostics, Showable (shownNumbers a.format d.location) := by
  have hother : ∀ {format : Format}, format ≠ .json →
      ∀ l, shownNumbers format l = positionNumbers l := by
    intro format hformat l
    rw [shownNumbers, if_neg hformat, List.append_nil]
  rw [Arguments.report]
  cases a.format with
  | json => exact succeeds_machine_iff (some 2) r
  | plain =>
      simp only [hother (show Format.plain ≠ .json by decide)]
      exact succeeds_plain_iff r
  | console =>
      simp only [hother (show Format.console ≠ .json by decide)]
      rw [succeeds_console_iff]
      exact forall₂_congr fun d hd => and_iff_left (Markup.exists_render_plain (hplain d hd))

/-- The name of the rule holds nothing that a report reads as a tag. -/
theorem isPlain_ruleId : Markup.IsPlain ruleId.toList := by
  decide +kernel

/-- A report of what a check found can be written if its numbers can be shown. -/
theorem succeeds_report_of_lint [Host] {l : Linter} {o : RuleOptions} {severity : Severity}
    (hrules : l.rules = [⟨o, severity⟩]) {text : String} {path : Path} {result : FileResult}
    (h : (Program.ofText text path >>= fun program => l.lint program path) = .ok result)
    (a : Arguments) (terminal : Bool) :
    Succeeds (a.report terminal ⟨[result]⟩) ↔
      ∀ f ∈ result.diagnostics, Showable (shownNumbers a.format f.location) := by
  have hplain : ∀ f ∈ result.diagnostics, Markup.IsPlain f.ruleId.toList := by
    intro f hf
    cases hprogram : Program.ofText text path with
    | error failure =>
        -- what cannot be loaded has no result
        rw [hprogram] at h
        cases h
    | ok program =>
        rw [hprogram] at h
        rw [ruleId_of_lint hrules (isNode_of_hasType (hasType_of_ofText hprogram)) h f hf]
        exact isPlain_ruleId
  have hall : (LintResult.mk [result]).diagnostics = result.diagnostics :=
    List.flatMap_singleton _ result
  have hreport := succeeds_report_iff a terminal (r := ⟨[result]⟩) (by rw [hall]; exact hplain)
  rwa [hall] at hreport

/-! ## The end of a run -/

/-- A run ends with an exit code: none, one or two. -/
def EndsWithCode (ending : Ending) : Prop :=
  ∃ n ≤ 2, ending = .code n ∨ ending = .early n

/-- A run that fails has no exit code. -/
theorem not_endsWithCode_failed (failure : Failure) : ¬EndsWithCode (.failed failure) := by
  rintro ⟨n, -, h | h⟩
  · cases h
  · cases h

/-- A failure is an end with an exit code if a run expects it. -/
theorem endsWithCode_failure_iff (failure : Failure) :
    EndsWithCode (failureEnding failure) ↔ failure.isExpected = true := by
  rw [failureEnding]
  by_cases hexpected : failure.isExpected = true
  · rw [if_pos hexpected]
    exact iff_of_true ⟨codeFault, Nat.le_refl 2, Or.inl rfl⟩ hexpected
  · rw [if_neg hexpected]
    exact iff_of_false (not_endsWithCode_failed failure) hexpected

/-- A report is an end with an exit code if it can be written. -/
theorem endsWithCode_report_iff (report : Except Failure String) (passed : Bool) :
    EndsWithCode (reportEnding report passed) ↔ Succeeds report := by
  cases report with
  | error failure =>
      exact iff_of_false (not_endsWithCode_failed failure) (not_succeeds_error failure)
  | ok written =>
      refine iff_of_true ⟨_, ?_, Or.inl rfl⟩ (succeeds_ok written)
      split
      · exact Nat.zero_le 2
      · exact Nat.le_succ 1

section Host

variable [Host]

/-- Too few workers are refused before anything is checked. -/
theorem ending_of_jobs_lt {argv : List String} {a : Arguments} (hread : Arguments.read argv = .ok a)
    (hjobs : a.jobs < 1) (d : Disk) (terminal : Bool) :
    (run d terminal argv).ending = .early codeFault := by
  rw [run, hread]
  show (if a.jobs < 1 then _ else _ : Transcript).ending = _
  rw [if_pos hjobs]
  rfl

/-- With enough workers a run is that of its arguments. -/
theorem run_of_read {argv : List String} {a : Arguments} (hread : Arguments.read argv = .ok a)
    (hjobs : 1 ≤ a.jobs) (d : Disk) (terminal : Bool) :
    run d terminal argv = a.run d terminal := by
  rw [run, hread]
  show (if a.jobs < 1 then _ else _) = _
  rw [if_neg (by omega)]

/-- The end of a run over one file with the rule, by what is found in the file. -/
theorem ending_of_file {argv : List String} {a : Arguments} (hread : Arguments.read argv = .ok a)
    {path : Path} (hpaths : a.paths = [path]) {d : Disk} {l : Linter}
    (hlinter : a.linter d = .ok l) {text : String} (hread' : d.readText path = .ok text.toList)
    (htext : Bounded text) (hjobs : 1 ≤ a.jobs) (terminal : Bool) :
    (run d terminal argv).ending =
      match (Program.ofText text path >>= fun program => l.lint program path) with
      | .error failure => failureEnding failure
      | .ok file => reportEnding (a.report terminal ⟨[file]⟩) (LintResult.mk [file]).passed := by
  rw [run_of_read hread hjobs, ending_eq,
    check_snd_of_file hlinter hpaths (isFile_of_readText hread') hjobs,
    lintFile_of_readText hread' htext]
  cases (Program.ofText text path >>= fun program => l.lint program path) with
  | error failure => rfl
  | ok file => rfl

/-- **How a document with the rule ends.**  Checking a text within bounds ends with a
    result, a document that cannot be loaded or a malformed tree if and only if the text
    does not break the run.  A run of the command that is given the text as its one file
    ends with an exit code of at most two if and only if it is not checked at all, or the
    text does not break the run and the numbers of what is found can be shown. -/
theorem run_ends_iff {fields : List (String × Json)} {o : RuleOptions}
    (hoptions : readOptions (.obj fields) = .ok o) (severity : Severity) {text : String}
    (htext : Bounded text) (path : Path) :
    ∃ l, Linter.ofConfig ⟨[(ruleId, ⟨severity, fields⟩)]⟩ = .ok l ∧
      (EndsProperly path (Program.ofText text path >>= fun program => l.lint program path) ↔
        ¬TextBreaks o path text) ∧
      ∀ (d : Disk) (terminal : Bool) (argv : List String) (a : Arguments),
        Arguments.read argv = .ok a → a.paths = [path] →
        a.resolve d = .ok ⟨[(ruleId, ⟨severity, fields⟩)]⟩ →
        d.readText path = .ok text.toList →
        (EndsWithCode (run d terminal argv).ending ↔
          a.jobs < 1 ∨ (¬TextBreaks o path text ∧
            ∀ result, (Program.ofText text path >>= fun program => l.lint program path)
              = .ok result →
                ∀ f ∈ result.diagnostics, Showable (shownNumbers a.format f.location))) := by
  have hlinter := ofConfig_eq_ok hoptions severity
  obtain ⟨l, hl⟩ : ∃ l, l = Linter.mk ⟨[(ruleId, ⟨severity, fields⟩)]⟩ [⟨o, severity⟩] := ⟨_, rfl⟩
  rw [← hl] at hlinter
  have hrules : l.rules = [⟨o, severity⟩] := by
    rw [hl]
  have hends : EndsProperly path (Program.ofText text path >>= fun program => l.lint program path) ↔
      ¬TextBreaks o path text :=
    endsProperly_iff hrules htext
  refine ⟨l, hlinter, hends, ?_⟩
  intro d terminal argv a hread hpaths hresolve hcontent
  by_cases hjobs : a.jobs < 1
  · rw [ending_of_jobs_lt hread hjobs]
    exact iff_of_true ⟨codeFault, Nat.le_refl 2, Or.inr rfl⟩ (Or.inl hjobs)
  · have hready : a.linter d = .ok l := by
      rw [Arguments.linter, hresolve]
      exact hlinter
    rw [ending_of_file hread hpaths hready hcontent htext (by omega), ← hends, or_iff_right hjobs]
    cases houtcome : (Program.ofText text path >>= fun program => l.lint program path) with
    | error failure =>
        -- nothing is reported, so the numbers do not matter
        have hproper := isExpected_iff_endsProperly hrules htext houtcome
        refine (endsWithCode_failure_iff failure).trans (hproper.trans ?_)
        constructor
        · intro h
          exact ⟨h, fun result hresult => by cases hresult⟩
        · intro h
          exact h.1
    | ok result =>
        -- the check ends as it should, so only the report can fail
        have hreport := succeeds_report_of_lint hrules houtcome a terminal
        refine (endsWithCode_report_iff _ _).trans (hreport.trans ?_)
        constructor
        · intro hshowable
          refine ⟨Or.inl (succeeds_ok result), ?_⟩
          intro other hother
          cases hother
          exact hshowable
        · intro h
          exact h.2 result rfl

end Host

/-- A disk with one file in the working directory. -/
def pageDisk (text : List Char) : Disk :=
  ⟨.dir [("work", .dir [("page.json", .file (text.map fun c => UInt8.ofNat c.toNat))])], ["work"]⟩

/-- Arguments that ask for this file and nothing else. -/
def pageArguments : Arguments := { Arguments.blank with paths := [.ofString "page.json"] }

/-- They are what the name of the file is read as. -/
theorem read_page : Arguments.read ["page.json"] = .ok pageArguments := by
  decide +kernel

section Standard

attribute [local instance] Host.standard

/-- They ask for the rule as it is recommended. -/
theorem resolve_page (d : Disk) :
    pageArguments.resolve d = .ok ⟨[(ruleId, ⟨.error, []⟩)]⟩ := by
  rfl

theorem bounded_secretModuleText : Bounded secretModuleText := by
  refine .of_ofText (ofText_secretModule (.ofString "page.json")) (fun _ _ => rfl) ?_
  rw [secretModuleText, String.toList_join]
  decide +kernel

/-- A run over a module that reads a secret ends with an exit code. -/
theorem run_ends_secretModule :
    EndsWithCode (run (pageDisk secretModuleText.toList) false ["page.json"]).ending := by
  have hprogram := ofText_secretModule (.ofString "page.json")
  obtain ⟨o, hoptions, hfound⟩ := lint_secretModule
  obtain ⟨l, hl, -, hrun⟩ := run_ends_iff hoptions .error bounded_secretModuleText
    (.ofString "page.json")
  have hrules := rules_of_ofConfig hoptions hl
  have hlint : (Program.ofText secretModuleText (.ofString "page.json") >>= fun program =>
      l.lint program (.ofString "page.json"))
        = .ok ⟨.ofString "page.json", [secretReport (.ofString "page.json")]⟩ := by
    rw [hprogram]
    exact hfound l hrules
  have htext : (pageDisk secretModuleText.toList).readText (.ofString "page.json")
      = .ok secretModuleText.toList := by
    rw [secretModuleText, String.toList_join]
    decide +kernel
  refine (hrun _ false _ pageArguments read_page rfl (resolve_page _) htext).mpr
    (Or.inr ⟨?_, ?_⟩)
  · intro hbreaks
    obtain ⟨failure, herror, -⟩ := lint_of_textBreaks hrules hbreaks
    rw [hlint] at herror
    cases herror
  · -- the one report is on line two, column five
    intro result hresult f hf
    rw [hlint] at hresult
    cases hresult
    rw [List.mem_singleton.mp hf, Showable]
    decide +kernel

/-- A document that reads a secret on line zero. -/
def misplacedText : String := String.join (secretText "0" ++ ["]\x7d"])

/-- The program of that document. -/
def misplacedModule : Json :=
  .obj [("type", .str "Program"), ("body", .arr [accessorImport, secretRead 0])]

/-- A run over it ends without an exit code, with a failure that no run expects. -/
theorem run_fails_misplacedText :
    ∃ l, Linter.ofConfig ⟨[(ruleId, ⟨.error, []⟩)]⟩ = .ok l ∧
      (Program.ofText misplacedText (.ofString "page.json") >>=
        fun program => l.lint program (.ofString "page.json")) = .error (.location (.line (.number 0))) ∧
      (run (pageDisk misplacedText.toList) false ["page.json"]).ending
        = .failed (.location (.line (.number 0))) := by
  have hread : (Json.readDocument misplacedText.toList).toOption = some misplacedModule := by
    rw [misplacedText, String.toList_join]
    decide +kernel
  have htext : (pageDisk misplacedText.toList).readText (.ofString "page.json")
      = .ok misplacedText.toList := by
    rw [misplacedText, String.toList_join]
    decide +kernel
  have hknown : ((readOptions (.obj [])).toOption.map fun o =>
      firstFault o (.ofString "page.json") [] (Tree.nodes misplacedModule))
        = some (some (.location (.line (.number 0)))) := by
    decide +kernel
  obtain ⟨o, hoptions, hfault⟩ := exists_eq_ok_of_map hknown
  have hprogram := ofText_eq_ok hread rfl (by decide +kernel) (.ofString "page.json")
  have hlinter := ofConfig_eq_ok hoptions .error
  have hbounded : Bounded misplacedText := by
    refine .of_ofText hprogram (fun _ _ => rfl) ?_
    rw [misplacedText, String.toList_join]
    decide +kernel
  refine ⟨_, hlinter, ?_⟩
  have hlint : (Program.ofText misplacedText (.ofString "page.json") >>= fun program =>
      (Linter.mk ⟨[(ruleId, ⟨.error, []⟩)]⟩ [⟨o, .error⟩]).lint program (.ofString "page.json"))
        = .error (.location (.line (.number 0))) := by
    rw [hprogram]
    show Linter.lint _ misplacedModule _ = _
    rw [lint_eq rfl (by decide +kernel), hfault]
  refine ⟨hlint, ?_⟩
  rw [ending_of_file read_page rfl hlinter htext hbounded (by decide) false, hlint]
  rfl

end Standard

end EnvLint.Cli
