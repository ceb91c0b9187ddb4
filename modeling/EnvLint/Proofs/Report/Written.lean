import EnvLint.Proofs.Outcome
import EnvLint.Proofs.Report.Markup
import EnvLint.Report.Machine
import EnvLint.Report.Plain

/-! # When a report can be written

    A report fails for two reasons only: a number has too many digits to be
    shown, or a text acts as markup.  Paths and messages are escaped, positions
    and labels are plain, so only a rule name can act as markup, and a terminal
    report fails for numbers and rule names only (`succeeds_console_iff`).  The
    other reports fail for numbers. -/

namespace EnvLint.Report

/-! ## Numbers -/

/-- Numbers with no more digits than can be shown. -/
def Showable (numbers : List Int) : Prop :=
  ∀ n ∈ numbers, n.natAbs < leastUnshown

/-- Numbers are accepted if they can be shown. -/
theorem succeeds_checkNumbers_iff {numbers : List Int} :
    Succeeds (checkNumbers numbers) ↔ Showable numbers := by
  rw [checkNumbers]
  by_cases h : numbers.any (fun n => leastUnshown ≤ n.natAbs) = true
  · rw [if_pos h]
    obtain ⟨n, hn, hlong⟩ := List.any_eq_true.mp h
    constructor
    · intro hsucceeds
      exact absurd hsucceeds (not_succeeds_error _)
    · intro hshowable
      exact absurd (of_decide_eq_true hlong) (Nat.not_le.mpr (hshowable n hn))
  · rw [if_neg h]
    constructor
    · intro _ n hn
      refine Nat.not_le.mp ?_
      intro hlong
      exact h (List.any_eq_true.mpr ⟨n, hn, decide_eq_true hlong⟩)
    · intro _
      exact succeeds_ok ()

/-- Numbers from several places can be shown if those of each place can. -/
theorem showable_flatMap_iff {α : Type} {xs : List α} {f : α → List Int} :
    Showable (xs.flatMap f) ↔ ∀ x ∈ xs, Showable (f x) := by
  constructor
  · intro h x hx n hn
    exact h n (List.mem_flatMap.mpr ⟨x, hx, hn⟩)
  · intro h n hn
    obtain ⟨x, hx, hn⟩ := List.mem_flatMap.mp hn
    exact h x hx n hn

/-- A plain report can be written if its positions can be shown. -/
theorem succeeds_plain_iff (r : LintResult) :
    Succeeds (plain r) ↔ ∀ d ∈ r.diagnostics, Showable (positionNumbers d.location) := by
  rw [← showable_flatMap_iff, ← succeeds_checkNumbers_iff, plain]
  exact succeeds_bind_ok_iff

/-- A report for programs can be written if its positions and ends can be shown. -/
theorem succeeds_machine_iff (indent : Option Int) (r : LintResult) :
    Succeeds (machine indent r) ↔
      ∀ d ∈ r.diagnostics, Showable (positionNumbers d.location ++ endNumbers d.location) := by
  rw [← showable_flatMap_iff, ← succeeds_checkNumbers_iff, machine]
  exact succeeds_bind_ok_iff

/-! ## Texts -/

/-- The tags that reports use. -/
def reportTags : List String :=
  ["underline", "green", "red", "yellow", "bold red", "bold yellow", "bold green"]

/-- The words that reports write by themselves. -/
def ownWords : List String :=
  ["True", "False", "error", "warning", "  ", "clean", "  clean", "No problems found in ",
    " file(s)", " problem(s) (", " error(s), ", " warning(s))"] ++ reportTags

/-- The characters of those words, and of numbers. -/
def ownLetters : List Char :=
  ['0', '1', '2', '3', '4', '5', '6', '7', '8', '9', '-', ' ', '(', ')', ',', 'F', 'N', 'T',
    'a', 'b', 'c', 'd', 'e', 'f', 'g', 'i', 'l', 'm', 'n', 'o', 'p', 'r', 's', 'u', 'w', 'y']

/-- A property of characters is checked over a text one by one. -/
theorem forall_of_all {p : Char → Prop} [DecidablePred p] {cs : List Char}
    (h : cs.all (fun c => decide (p c)) = true) : ∀ c ∈ cs, p c :=
  fun c hc => of_decide_eq_true (List.all_eq_true.mp h c hc)

theorem mem_ownLetters_of_word {word : String} (hword : word ∈ ownWords) :
    ∀ c ∈ word.toList, c ∈ ownLetters := by
  have hall : ∀ word ∈ ownWords, word.toList.all (fun c => decide (c ∈ ownLetters)) = true := by
    decide +kernel
  exact forall_of_all (hall word hword)

/-- Digits are letters of a report. -/
theorem mem_ownLetters_of_isDigit {c : Char} (h : c.isDigit = true) : c ∈ ownLetters := by
  have hdigits : ∀ n, n < 58 → 48 ≤ n → Char.ofNat n ∈ ownLetters := by decide
  obtain ⟨hle, hge⟩ := Char.isDigit_iff_toNat.mp h
  rw [← Char.ofNat_toNat c]
  exact hdigits c.toNat (Nat.lt_succ_of_le hge) hle

theorem mem_ownLetters_of_digits {n : Nat} {c : Char} (h : c ∈ Nat.toDigits 10 n) :
    c ∈ ownLetters :=
  mem_ownLetters_of_isDigit (Nat.isDigit_of_mem_toDigits (by decide) (by decide) h)

theorem mem_ownLetters_of_intText {n : Int} {c : Char} (h : c ∈ Decimal.intText n) :
    c ∈ ownLetters := by
  rw [Decimal.intText] at h
  split at h
  · rcases List.mem_cons.mp h with rfl | h
    · decide
    · exact mem_ownLetters_of_digits h
  · exact mem_ownLetters_of_digits h

/-- A coordinate is written in letters of a report. -/
theorem mem_ownLetters_of_coord {k : Coord} {c : Char} (h : c ∈ k.text.toList) :
    c ∈ ownLetters := by
  cases k with
  | number n =>
      rw [show (Coord.number n).text = String.ofList (Decimal.intText n) from rfl,
        String.toList_ofList] at h
      exact mem_ownLetters_of_intText h
  | flag b =>
      have hflags : ∀ b : Bool, (Coord.flag b).text ∈ ownWords := by decide +kernel
      exact mem_ownLetters_of_word (hflags b) c h

/-- A position is two numbers with a colon between them. -/
theorem mem_position {l : Location} {c : Char} (h : c ∈ (position l).toList) :
    c = ':' ∨ c ∈ ownLetters := by
  simp only [position, String.toList_append, List.mem_append] at h
  rcases h with (h | h) | h
  · exact Or.inr (mem_ownLetters_of_coord h)
  · exact Or.inl (List.mem_singleton.mp h)
  · rw [intString, String.toList_ofList] at h
    exact Or.inr (mem_ownLetters_of_intText h)

/-- A position holds one colon. -/
theorem count_position_le (l : Location) : (position l).toList.count ':' ≤ 1 := by
  have hline : l.line.text.toList.count ':' = 0 :=
    List.count_eq_zero.mpr fun hmem => absurd (mem_ownLetters_of_coord hmem) (by decide)
  have hcolumn : (Decimal.intText (displayColumn l)).count ':' = 0 :=
    List.count_eq_zero.mpr fun hmem => absurd (mem_ownLetters_of_intText hmem) (by decide)
  simp only [position, intString, String.toList_append, String.toList_ofList, List.count_append]
  rw [hline, hcolumn]
  exact Nat.le_refl 1

/-- The summary is written in letters of a report. -/
theorem mem_ownLetters_of_summary {r : LintResult} {c : Char} (h : c ∈ (summary r).toList) :
    c ∈ ownLetters := by
  have hcount : ∀ n : Nat, c ∈ (toString n).toList → c ∈ ownLetters := by
    intro n hn
    rw [show toString n = n.repr from rfl, Nat.toList_repr] at hn
    exact mem_ownLetters_of_digits hn
  rw [summary, summaryOf] at h
  split at h
  · simp only [String.toList_append, List.mem_append] at h
    rcases h with (h | h) | h
    · exact mem_ownLetters_of_word (by simp [ownWords]) c h
    · exact hcount _ h
    · exact mem_ownLetters_of_word (by simp [ownWords]) c h
  · simp only [String.toList_append, List.mem_append] at h
    rcases h with ((((h | h) | h) | h) | h) | h
    · exact hcount _ h
    · exact mem_ownLetters_of_word (by simp [ownWords]) c h
    · exact hcount _ h
    · exact mem_ownLetters_of_word (by simp [ownWords]) c h
    · exact hcount _ h
    · exact mem_ownLetters_of_word (by simp [ownWords]) c h

theorem mem_ownLetters_of_label {severity : Severity} {c : Char}
    (h : c ∈ severity.label.toList) : c ∈ ownLetters := by
  cases severity with
  | error => exact mem_ownLetters_of_word (by simp [Severity.label, ownWords]) c h
  | warning => exact mem_ownLetters_of_word (by simp [Severity.label, ownWords]) c h

theorem mem_ownLetters_of_tag {tag : String} (htag : tag ∈ reportTags) {c : Char}
    (h : c ∈ tag.toList) : c ∈ ownLetters :=
  mem_ownLetters_of_word (List.mem_append_right _ htag) c h

/-- Nothing that reports write by themselves acts as markup. -/
theorem isPlain_ownLetters : Markup.IsPlain ownLetters := by
  decide

theorem isPlain_position (l : Location) : Markup.IsPlain (position l).toList :=
  fun c hc => (mem_position hc).elim (fun h => h ▸ by decide) (isPlain_ownLetters c)

theorem isPlain_label (severity : Severity) : Markup.IsPlain severity.label.toList :=
  fun c hc => isPlain_ownLetters c (mem_ownLetters_of_label hc)

/-! ## Terminal reports -/

/-- Each tag is the name of a style. -/
theorem styleTag_of_mem {tag : String} (h : tag ∈ reportTags) : Markup.StyleTag tag.toList := by
  have hcheck : ∀ tag ∈ reportTags, tag.toList.head?.any Markup.startsTag = true ∧
      (tag.toList.tail.all fun d => d != ']' && d != '[') = true ∧
      tag.toList.head? ≠ some '/' ∧ '=' ∉ tag.toList ∧ Text.trim tag.toList = tag.toList := by
    decide +kernel
  obtain ⟨hstart, hmore, hopens, hbare, htrimmed⟩ := hcheck tag h
  obtain ⟨c, hc, hstart⟩ := (Option.any_eq_true _ _).mp hstart
  obtain ⟨more, heq⟩ := List.head?_eq_some_iff.mp hc
  rw [heq, List.tail_cons] at hmore
  exact ⟨⟨c, more, heq, hstart, by simpa using hmore⟩, hopens, hbare, htrimmed⟩

theorem severityTag_mem (severity : Severity) : severityTag severity ∈ reportTags := by
  cases severity with
  | error => simp [severityTag, reportTags]
  | warning => simp [severityTag, reportTags]

/-- The colours and signs of summaries. -/
def summarySigns : List (String × String) :=
  [("bold red", "✖ "), ("bold yellow", "⚠ "), ("bold green", "✔ ")]

theorem summarySign_mem (r : LintResult) : summarySign r ∈ summarySigns := by
  rw [summarySign]
  split
  · simp [summarySigns]
  · split
    · simp [summarySigns]
    · simp [summarySigns]

/-- The characters of the signs. -/
def signLetters : List Char := ['✖', '⚠', '✔', ' ']

/-- The colours are tags of reports, and the signs have letters of their own. -/
theorem tag_and_sign {sign : String × String} (h : sign ∈ summarySigns) :
    sign.1 ∈ reportTags ∧ ∀ c ∈ sign.2.toList, c ∈ signLetters := by
  have hall : ∀ sign ∈ summarySigns, sign.1 ∈ reportTags ∧
      sign.2.toList.all (fun c => decide (c ∈ signLetters)) = true := by
    decide +kernel
  exact ⟨(hall sign h).1, forall_of_all (hall sign h).2⟩

theorem isPlain_signLetters : Markup.IsPlain signLetters := by
  decide

/-- The files that a report lists. -/
def listed (showClean : Bool) (r : LintResult) : List FileResult :=
  r.files.filter fun f => showClean || !f.clean

/-- A file with a diagnostic is never left out. -/
theorem mem_listed {r : LintResult} {f : FileResult} {d : Diagnostic} (showClean : Bool)
    (hf : f ∈ r.files) (hd : d ∈ f.diagnostics) : f ∈ listed showClean r := by
  have hdirty : f.clean = false := List.isEmpty_eq_false_iff.mpr (List.ne_nil_of_mem hd)
  refine List.mem_filter.mpr ⟨hf, ?_⟩
  rw [hdirty, Bool.not_false, Bool.or_true]

/-- What is said about a clean file, as it is read. -/
theorem pieces_clean :
    Markup.pieces ("  ".toList ++ tagged "green" "clean".toList).length 0
        ("  ".toList ++ tagged "green" "clean".toList)
      = "  ".toList.map .char ++ .tag "green".toList 2 ::
          ("clean".toList.map .char ++ [.tag ('/' :: "green".toList) 14]) := by
  decide +kernel

section Host

variable [Host]

/-- Markup that can be shown. -/
def Readable (cs : List Char) : Prop :=
  ∃ text, Markup.render cs = .ok text

/-- Markup that is rendered can be read. -/
theorem readable_of_isOk {cs : List Char} (h : (Markup.render cs).isOk = true) : Readable cs := by
  cases hrender : Markup.render cs with
  | error fault =>
      rw [hrender] at h
      exact Bool.noConfusion h
  | ok text => exact ⟨text, hrender⟩

/-- Just what is readable can be read. -/
theorem succeeds_readMarkup_iff {cs : List Char} : Succeeds (readMarkup cs) ↔ Readable cs :=
  exists_congr fun _ => mapError_eq_ok_iff

/-- Just what is readable can be printed, in any width. -/
theorem succeeds_markupLines_iff {cs : List Char} (width : Nat) :
    Succeeds (markupLines width cs) ↔ Readable cs := by
  rw [markupLines, succeeds_bind_ok_iff, succeeds_readMarkup_iff]

/-- A label in its colour is readable. -/
theorem readable_label (severity : Severity) :
    Readable (tagged (severityTag severity) severity.label.toList) := by
  have hrender := Markup.exists_render_tagged (styleTag_of_mem (severityTag_mem severity))
    (isPlain_label severity) []
  rwa [show Markup.escape [] = [] from rfl, List.append_nil] at hrender

/-- The cells of a diagnostic can be read if its rule name can. -/
theorem succeeds_rowCells_iff {d : Diagnostic} :
    Succeeds (rowCells d) ↔ Readable d.ruleId.toList := by
  rw [rowCells, succeeds_mapM_iff]
  simp only [rowMarkup, List.forall_mem_cons, succeeds_readMarkup_iff]
  constructor
  · rintro ⟨-, -, -, hrule, -⟩
    exact hrule
  · intro hrule
    exact ⟨Markup.exists_render_plain (isPlain_position d.location), readable_label d.severity,
      Markup.exists_render_escape d.message.toList, hrule, List.forall_mem_nil _⟩

/-- A diagnostic that a terminal report can show. -/
def Reportable (d : Diagnostic) : Prop :=
  Showable (positionNumbers d.location) ∧ Readable d.ruleId.toList

theorem readable_clean : Readable ("  ".toList ++ tagged "green" "clean".toList) :=
  (styleTag_of_mem (by simp [reportTags] : "green" ∈ reportTags)).exists_render
    (Markup.tagless_map_char _) (Markup.tagless_map_char _) (Or.inr rfl) pieces_clean

/-- What is said about a file fails for numbers and rule names only. -/
theorem succeeds_findingLines_iff (config : ConsoleConfig) {f : FileResult} :
    Succeeds (findingLines config f) ↔ ∀ d ∈ f.diagnostics, Reportable d := by
  rw [findingLines]
  by_cases hclean : f.clean = true
  · have hempty : f.diagnostics = [] := List.isEmpty_iff.mp hclean
    rw [if_pos hclean, hempty]
    exact iff_of_true ((succeeds_markupLines_iff _).mpr readable_clean) (List.forall_mem_nil _)
  · rw [if_neg hclean, succeeds_bind_iff]
    simp only [succeeds_bind_ok_iff, succeeds_mapM_iff, succeeds_rowCells_iff, exists_and_right]
    show Succeeds _ ∧ _ ↔ _
    rw [succeeds_checkNumbers_iff, showable_flatMap_iff]
    exact forall₂_and.symm

/-- A path is readable, whatever is in it. -/
theorem readable_path (path : Path) :
    Readable (tagged "underline" (Markup.escape path.text.toList)) := by
  have hlead : Markup.IsPlain [] := fun c hc => absurd hc List.not_mem_nil
  exact Markup.exists_render_tagged
    (styleTag_of_mem (by simp [reportTags] : "underline" ∈ reportTags)) hlead path.text.toList

/-- The lines about a file fail for numbers and rule names only. -/
theorem succeeds_fileLines_iff (config : ConsoleConfig) {f : FileResult} :
    Succeeds (fileLines config f) ↔ ∀ d ∈ f.diagnostics, Reportable d := by
  obtain ⟨path, hpath⟩ := (succeeds_markupLines_iff config.usedWidth).mpr (readable_path f.path)
  rw [← succeeds_findingLines_iff config, fileLines, hpath]
  exact succeeds_bind_ok_iff

/-- The summary can be written. -/
theorem succeeds_summaryLines (config : ConsoleConfig) (r : LintResult) :
    Succeeds (summaryLines config r) := by
  obtain ⟨htag, hsign⟩ := tag_and_sign (summarySign_mem r)
  exact (succeeds_markupLines_iff config.usedWidth).mpr
    (Markup.exists_render_tagged (styleTag_of_mem htag)
      (fun c hc => isPlain_signLetters c (hsign c hc)) (summary r).toList)

/-- **When a terminal report can be written.**  It fails for numbers and rule names only:
    whatever paths and messages hold, they are shown. -/
theorem succeeds_console_iff (config : ConsoleConfig) {r : LintResult} :
    Succeeds (console config r) ↔ ∀ d ∈ r.diagnostics, Reportable d := by
  obtain ⟨last, hlast⟩ := succeeds_summaryLines config r
  have hfiles : Succeeds (console config r) ↔
      Succeeds ((listed config.showClean r).mapM (fileLines config)) := by
    rw [console, consoleLines, hlast, succeeds_bind_ok_iff]
    exact succeeds_bind_ok_iff
  rw [hfiles, succeeds_mapM_iff]
  simp only [succeeds_fileLines_iff]
  constructor
  · intro h d hd
    obtain ⟨f, hf, hd⟩ := List.mem_flatMap.mp hd
    exact h f (mem_listed config.showClean hf hd) d hd
  · intro h f hf d hd
    exact h d (List.mem_flatMap.mpr ⟨f, (List.mem_filter.mp hf).1, hd⟩)

end Host

end EnvLint.Report
