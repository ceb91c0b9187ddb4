import EnvLint.Proofs.Report.Decoded
import Mathlib

/-! # Plain reports told from documents

    A plain report says nothing that the document of a report for programs does
    not say.  `retold?` writes it from the decoded document alone: a line per
    message object, with the path of the file object that holds it, and a summary
    of the counts.  The two reports agree because

    * a described message is told as the line of its diagnostic, provided that the
      diagnostic lies in the file that it is listed for (`retoldLine?_of_describes`);
    * the counts of the file objects add up to the counts of the run
      (`errorCount_eq_sum`, `warningCount_eq_sum`), and the two of them to the number
      of diagnostics (`problemCount_eq_add`).

    A result with a number that cannot be shown may have a plain report and no
    document at all (`plain_longEnd`). -/

namespace EnvLint

open Report

/-! ## Counts -/

namespace LintResult

theorem errorCount_eq_sum (r : LintResult) :
    r.errorCount = (r.files.map FileResult.errorCount).sum :=
  List.countP_flatMap

theorem warningCount_eq_sum (r : LintResult) :
    r.warningCount = (r.files.map FileResult.warningCount).sum :=
  List.countP_flatMap

/-- A diagnostic is an error or a warning. -/
theorem problemCount_eq_add (r : LintResult) :
    r.problemCount = r.errorCount + r.warningCount := by
  have hother : ∀ d : Diagnostic,
      decide (¬(d.severity == .error) = true) = (d.severity == .warning) := by
    intro d
    cases d.severity with
    | error => rfl
    | warning => rfl
  rw [problemCount, List.length_eq_countP_add_countP fun d => d.severity == .error]
  simp only [hother]
  rfl

/-- There are no problems if there are no errors and no warnings. -/
theorem problemCount_eq_zero_iff (r : LintResult) :
    r.problemCount = 0 ↔ r.errorCount = 0 ∧ r.warningCount = 0 := by
  rw [problemCount_eq_add, Nat.add_eq_zero_iff]

end LintResult

namespace Report

/-! ## Telling a plain report from a document -/

/-- Word for the number of a severity. -/
def labelOf? : Json → Option String
  | .int 2 => some "error"
  | .int 1 => some "warning"
  | _ => none

/-- A number of diagnostics. -/
def countOf? : Json → Option Nat
  | .int (.ofNat n) => some n
  | _ => none

/-- The items of a list. -/
def listOf? : Json → Option (List Json)
  | .arr items => some items
  | _ => none

/-- The line for a message object of a file: `filePath:line:column: label message [ruleId]`. -/
def retoldLine? (filePath : String) (message : Json) : Option String := do
  let line ← message.get? "line"
  let column ← message.get? "column"
  let label ← (message.get? "severity").bind labelOf?
  let words ← (message.get? "message").bind Json.str?
  let ruleId ← (message.get? "ruleId").bind Json.str?
  some (filePath ++ ":" ++ line.text ++ ":" ++ column.text ++ ": " ++ label ++ " " ++ words
    ++ " [" ++ ruleId ++ "]" ++ "\n")

/-- The lines for a file object. -/
def retoldFile? (file : Json) : Option String := do
  let filePath ← (file.get? "filePath").bind Json.str?
  let messages ← (file.get? "messages").bind listOf?
  let lines ← messages.mapM (retoldLine? filePath)
  some (String.join lines)

/-- A count, added up over file objects. -/
def total? (key : String) (files : List Json) : Option Nat := do
  let counts ← files.mapM fun file => (file.get? key).bind countOf?
  some counts.sum

/-- The summary of a number of files with errors and warnings. -/
def retoldSummary (files errors warnings : Nat) : String :=
  if errors = 0 ∧ warnings = 0 then "No problems found in " ++ toString files ++ " file(s)"
  else
    toString (errors + warnings) ++ " problem(s) (" ++ toString errors ++ " error(s), "
      ++ toString warnings ++ " warning(s))"

/-- A plain report, told from the document of a report for programs. -/
def retold? (v : Json) : Option String := do
  let files ← listOf? v
  let lines ← files.mapM retoldFile?
  let errors ← total? "errorCount" files
  let warnings ← total? "warningCount" files
  some (String.join lines ++ retoldSummary files.length errors warnings ++ "\n")

/-- Results whose diagnostics lie in the file that they are listed for. -/
def Located (r : LintResult) : Prop :=
  ∀ f ∈ r.files, ∀ d ∈ f.diagnostics, d.location.file = f.path

/-! ## What is described is told -/

/-- Related lists are told item by item. -/
theorem mapM_eq_some_of_forall₂ {α β γ : Type} {related : α → β → Prop} {f : α → Option γ}
    {g : β → γ} {xs : List α} {ys : List β} (h : List.Forall₂ related xs ys)
    (hf : ∀ x, ∀ y ∈ ys, related x y → f x = some (g y)) : xs.mapM f = some (ys.map g) := by
  induction h with
  | nil => rfl
  | @cons x y xs ys hxy _ ih =>
      have hrest := ih fun x' y' hy' => hf x' y' (List.mem_cons_of_mem y hy')
      rw [List.mapM_cons, hf x y List.mem_cons_self hxy, hrest]
      rfl

/-- The label of a diagnostic is told from its level. -/
theorem labelOf?_severity (s : Severity) :
    labelOf? (.int (if s = .error then 2 else 1)) = some s.label := by
  cases s with
  | error => rfl
  | warning => rfl

/-- The line of a diagnostic is told from its object, if it lies in its file. -/
theorem retoldLine?_of_describes {v : Json} {d : Diagnostic} (h : DescribesMessage v d)
    {path : Path} (hpath : d.location.file = path) :
    retoldLine? path.text v = some (plainLine d ++ "\n") := by
  rw [retoldLine?, h.line, h.column, h.severity, h.message, h.ruleId, Option.bind_some,
    labelOf?_severity, ← hpath]
  show some _ = some _
  simp only [plainLine, position, String.append_assoc]
  rfl

/-- The lines of the diagnostics of a file. -/
def linesOf (f : FileResult) : String :=
  String.join (f.diagnostics.map fun d => plainLine d ++ "\n")

/-- The lines of a file are told from its object. -/
theorem retoldFile?_of_describes {v : Json} {f : FileResult} (h : DescribesFile v f)
    (hlocated : ∀ d ∈ f.diagnostics, d.location.file = f.path) :
    retoldFile? v = some (linesOf f) := by
  obtain ⟨messages, hmessages, hdescribes⟩ := h.messages
  have hlines : messages.mapM (retoldLine? f.path.text)
      = some (f.diagnostics.map fun d => plainLine d ++ "\n") := by
    refine mapM_eq_some_of_forall₂ hdescribes ?_
    intro message d hd hmessage
    exact retoldLine?_of_describes hmessage (hlocated d hd)
  rw [retoldFile?, h.filePath, hmessages]
  show (messages.mapM (retoldLine? f.path.text) >>= _) = _
  rw [hlines]
  rfl

/-- A count of a result is told from the counts of its files. -/
theorem total?_of_describes {key : String} {count : FileResult → Nat} {files : List Json}
    {results : List FileResult} (h : List.Forall₂ DescribesFile files results)
    (hcount : ∀ v f, DescribesFile v f → v.get? key = some (.int (count f))) :
    total? key files = some (results.map count).sum := by
  have hcounts : (files.mapM fun file => (file.get? key).bind countOf?)
      = some (results.map count) := by
    refine mapM_eq_some_of_forall₂ h ?_
    intro v f _ hfile
    rw [hcount v f hfile]
    rfl
  rw [total?, hcounts]
  rfl

/-- The error counts of a described run add up to the number of its errors. -/
theorem total?_errorCount {files : List Json} {r : LintResult}
    (h : List.Forall₂ DescribesFile files r.files) :
    total? "errorCount" files = some r.errorCount := by
  rw [LintResult.errorCount_eq_sum]
  exact total?_of_describes h fun _ _ hfile => hfile.errorCount

theorem total?_warningCount {files : List Json} {r : LintResult}
    (h : List.Forall₂ DescribesFile files r.files) :
    total? "warningCount" files = some r.warningCount := by
  rw [LintResult.warningCount_eq_sum]
  exact total?_of_describes h fun _ _ hfile => hfile.warningCount

/-- The summary is told from three counts. -/
theorem retoldSummary_eq (r : LintResult) :
    retoldSummary r.fileCount r.errorCount r.warningCount = summary r := by
  rw [retoldSummary, summary, summaryOf, ← r.problemCount_eq_add]
  by_cases h : r.problemCount = 0
  · rw [if_pos h, if_pos (r.problemCount_eq_zero_iff.mp h)]
  · rw [if_neg h, if_neg (mt r.problemCount_eq_zero_iff.mpr h)]

/-- A line feed between lines and after the last is one after each. -/
theorem intercalate_concat (lines : List String) (last : String) :
    "\n".intercalate (lines ++ [last]) ++ "\n"
      = String.join (lines.map (· ++ "\n")) ++ last ++ "\n" := by
  induction lines with
  | nil => simp
  | cons line lines ih =>
      have hne : lines ++ [last] ≠ [] := by simp
      rw [List.cons_append, String.intercalate_cons_of_ne_nil hne, String.append_assoc, ih,
        List.map_cons, String.join_cons]
      simp only [String.append_assoc]

/-- A plain report, if it can be written, is the lines of the files and the summary. -/
theorem plain_eq_ok {r : LintResult}
    (h : ∀ d ∈ r.diagnostics, Showable (positionNumbers d.location)) :
    plain r = .ok (String.join (r.files.map linesOf) ++ summary r ++ "\n") := by
  obtain ⟨_, hcheck⟩ := succeeds_checkNumbers_iff.mpr (showable_flatMap_iff.mpr h)
  have hlines : String.join (r.diagnostics.map fun d => plainLine d ++ "\n")
      = String.join (r.files.map linesOf) := by
    rw [LintResult.diagnostics]
    induction r.files with
    | nil => rfl
    | cons f files ih =>
        rw [List.flatMap_cons, List.map_append, String.join_append, List.map_cons,
          String.join_cons, ih]
        rfl
  rw [plain, hcheck, ← hlines]
  show Except.ok ("\n".intercalate (plainLines r) ++ "\n") = _
  rw [plainLines, intercalate_concat, List.map_map]
  rfl

/-- What describes a run is told as its plain report. -/
theorem retold?_of_describes {v : Json} {r : LintResult} (h : Describes v r)
    (hlocated : Located r) :
    retold? v = some (String.join (r.files.map linesOf) ++ summary r ++ "\n") := by
  obtain ⟨files, rfl, hfiles⟩ := h
  have hlines : files.mapM retoldFile? = some (r.files.map linesOf) := by
    refine mapM_eq_some_of_forall₂ hfiles ?_
    intro file f hf hfile
    exact retoldFile?_of_describes hfile (hlocated f hf)
  rw [retold?]
  show (files.mapM retoldFile? >>= _) = _
  rw [hlines, total?_errorCount hfiles, total?_warningCount hfiles, hfiles.length_eq,
    ← retoldSummary_eq]
  rfl

/-- **The two reports agree.**  If the numbers of a run can be shown, its report for
    programs decodes to one value for every indent, and the plain report is what this value
    is told as.  Its counts add up to those of the run. -/
theorem plain_eq_retold (r : LintResult) (hlocated : Located r) (hfits : Fits r) :
    ∃ files report,
      (∀ indent, ∃ text, machine indent r = .ok text ∧ Json.decode text = .ok (.arr files)) ∧
      retold? (.arr files) = some report ∧ plain r = .ok report ∧
      total? "errorCount" files = some r.errorCount ∧
      total? "warningCount" files = some r.warningCount ∧
      r.problemCount = r.errorCount + r.warningCount ∧
      r.problemCount = (r.files.map fun f => f.diagnostics.length).sum ∧
      (r.passed = true ↔ total? "errorCount" files = some 0) := by
  have hshown : ∀ d ∈ r.diagnostics, Showable (positionNumbers d.location) := by
    intro d hd n hn
    obtain ⟨f, hf, hd⟩ := List.mem_flatMap.mp hd
    exact (hfits f hf).2.2 d hd n (List.mem_append_left _ hn)
  have hdescribes := describes_machineDocument r
  obtain ⟨files, hdocument, hfiles⟩ := hdescribes
  have herrors := total?_errorCount hfiles
  refine ⟨files, _, ?_, ?_, plain_eq_ok hshown, herrors, total?_warningCount hfiles,
    r.problemCount_eq_add, List.length_flatMap, ?_⟩
  · intro indent
    rw [← hdocument]
    exact ⟨_, machine_eq_ok hfits indent,
      (holds_encode (exact_machineDocument hfits) (layoutOf indent)).decodes⟩
  · exact retold?_of_describes ⟨files, rfl, hfiles⟩ hlocated
  · rw [herrors, LintResult.passed, beq_iff_eq, Option.some.injEq]

/-- A diagnostic in a file, on a line that is spelled as a truth value. -/
def findingIn (file : Path) (severity : Severity) : Diagnostic where
  ruleId := "rule"
  messageId := "id"
  message := "a \"quoted\" [text]"
  location := ⟨file, .flag true, .number 6, some (.number 2), some (.number 0)⟩
  severity := severity
  data := []

/-- A clean file between two files with findings. -/
def mixedFindings : LintResult where
  files := [
    ⟨.ofString "a.json", [findingIn (.ofString "a.json") .error,
      findingIn (.ofString "a.json") .warning]⟩,
    ⟨.ofString "b.json", []⟩,
    ⟨.ofString "ü/c.json", [findingIn (.ofString "ü/c.json") .warning]⟩]

theorem plain_eq_retold_mixedFindings :
    Located mixedFindings ∧ Fits mixedFindings ∧ ∃ files report,
      (∀ indent, ∃ text,
        machine indent mixedFindings = .ok text ∧ Json.decode text = .ok (.arr files)) ∧
      retold? (.arr files) = some report ∧ plain mixedFindings = .ok report ∧
      total? "errorCount" files = some 1 ∧ total? "warningCount" files = some 2 := by
  have hlocated : Located mixedFindings := by
    simp only [Located]
    decide +kernel
  have hfits : Fits mixedFindings := by
    simp only [Fits, Showable]
    decide +kernel
  obtain ⟨files, report, hdecodes, htold, hplain, herrors, hwarnings, -⟩ :=
    plain_eq_retold mixedFindings hlocated hfits
  exact ⟨hlocated, hfits, files, report, hdecodes, htold, hplain, herrors, hwarnings⟩

/-- A place that ends at a column with as many digits as a document may give it, all
    nines. -/
def longEnd : Location :=
  ⟨.ofString "page.json", .number 1, .number 0, some (.number 1), some (.number (leastUnshown - 1))⟩

/-- A result with a diagnostic at that place. -/
def longEndFinding : LintResult where
  files := [⟨longEnd.file, [⟨"rule", "id", "text", longEnd, .error, []⟩]⟩]

/-- The place is valid, and a plain report, which shows no ends, is written.  There is no
    report for programs that it could be told from, since the end counted from one has a
    digit too many. -/
theorem plain_longEnd :
    longEnd.Valid ∧ Located longEndFinding ∧
      plain longEndFinding = .ok ("page.json:1:1: error text [rule]\n"
        ++ "1 problem(s) (1 error(s), 0 warning(s))\n") ∧
      ∀ indent, machine indent longEndFinding = .error .unshownNumber := by
  have hplain : (plain longEndFinding).toOption.map id
      = some ("page.json:1:1: error text [rule]\n"
        ++ "1 problem(s) (1 error(s), 0 warning(s))\n") := by
    decide +kernel
  obtain ⟨report, hreport, rfl⟩ := exists_eq_ok_of_map hplain
  refine ⟨⟨by decide, by decide, ?_, ?_, ?_⟩, ?_, hreport, ?_⟩
  · rintro e ⟨⟩
    decide
  · rintro c ⟨⟩
    decide +kernel
  · rintro e c ⟨⟩ ⟨⟩ -
    decide +kernel
  · simp only [Located]
    decide +kernel
  · intro indent
    rw [machine, checkNumbers, if_pos]
    · rfl
    · decide +kernel

end Report

end EnvLint
