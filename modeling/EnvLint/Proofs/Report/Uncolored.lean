import EnvLint.Proofs.Report.Layout
import EnvLint.Proofs.Report.Styles

/-! # Colour changes nothing that is said

    A report in colour is the report without, with style sequences put around
    some of its runs.  So taking the sequences away gives the other report, as
    long as no text brings a sequence of its own.

    * `withoutStyles_printLines`: the sequences that printing puts in are found
      and taken away, and nothing else is, if no run holds their first character
      or is a link;
    * `codeless_consoleLines`: no run does, if no path, message and rule name does
      and no rule name holds a bracket.  Emoji bring no such character;
    * `stripped_console`: the report in colour without its styles is the report
      that has no colour and the width of the terminal;
    * `console_uncolored`: a terminal that heeds the width shows both reports
      alike, and they fail alike.  On a dumb one of unknown height the report in
      colour is 80 cells wide, whatever width was asked for. -/

namespace EnvLint.Report

/-! ## Style sequences -/

/-- The character that a style sequence starts with. -/
def escapeMark : Char := '\x1b'

/-- A text without its style sequences: each goes from an escape mark with a bracket
    behind it to the next `m`.  `inside` says whether one is being read. -/
def dropStyles : (inside : Bool) → List Char → List Char
  | _, [] => []
  | true, c :: cs => dropStyles (c != 'm') cs
  | false, c :: cs =>
      if c = escapeMark ∧ cs.head? = some '[' then dropStyles true cs else c :: dropStyles false cs

/-- A text without its style sequences. -/
def withoutStyles (cs : List Char) : List Char := dropStyles false cs

/-- A text in which no style sequence starts. -/
def Unmarked (cs : List Char) : Prop :=
  ∀ c ∈ cs, c ≠ escapeMark

/-- Whether a text is unmarked can be seen character by character. -/
instance (cs : List Char) : Decidable (Unmarked cs) :=
  decidable_of_iff (cs.all (fun c => c != escapeMark) = true) (by simp [Unmarked])

/-- A text without escape marks in front stays in front. -/
theorem withoutStyles_append {cs : List Char} (h : Unmarked cs) (rest : List Char) :
    withoutStyles (cs ++ rest) = cs ++ withoutStyles rest := by
  induction cs with
  | nil => rfl
  | cons c cs ih =>
      obtain ⟨hc, hcs⟩ := List.forall_mem_cons.mp h
      rw [List.cons_append, withoutStyles, dropStyles, if_neg (fun hmark => hc hmark.1)]
      exact congrArg (c :: ·) (ih hcs)

/-- A style sequence is dropped up to its last letter. -/
theorem dropStyles_append {cs : List Char} (h : 'm' ∉ cs) (rest : List Char) :
    dropStyles true (cs ++ 'm' :: rest) = withoutStyles rest := by
  induction cs with
  | nil => rfl
  | cons c cs ih =>
      rw [List.mem_cons, not_or] at h
      have hc : (c != 'm') = true := bne_iff_ne.mpr (Ne.symm h.1)
      rw [List.cons_append, dropStyles, hc]
      exact ih h.2

/-- Codes are written with digits and semicolons. -/
theorem not_mem_codes (codes : List Nat) :
    'm' ∉ (";".intercalate (codes.map toString)).toList := by
  have hdigits : ∀ n : Nat, 'm' ∉ (toString n).toList := by
    intro n hn
    rw [show toString n = n.repr from rfl, Nat.toList_repr] at hn
    have hdigit := Nat.isDigit_of_mem_toDigits (by decide) (by decide) hn
    exact absurd hdigit (by decide)
  rw [String.toList_intercalate, List.map_map]
  induction codes with
  | nil => exact List.not_mem_nil
  | cons code codes ih =>
      cases codes with
      | nil => simpa using hdigits code
      | cons next codes =>
          rw [List.map_cons, List.map_cons, List.intercalate_cons_cons, List.mem_append,
            List.mem_append, not_or, not_or]
          exact ⟨⟨hdigits code, by decide⟩, ih⟩

/-- A control sequence is taken away. -/
theorem withoutStyles_control (codes : List Nat) (rest : List Char) :
    withoutStyles (TextRun.control codes ++ rest) = withoutStyles rest := by
  have hbody : 'm' ∉ '[' :: (";".intercalate (codes.map toString)).toList := by
    rw [List.mem_cons, not_or]
    exact ⟨by decide, not_mem_codes codes⟩
  have hshape : TextRun.control codes ++ rest
      = escapeMark :: ('[' :: (";".intercalate (codes.map toString)).toList ++ 'm' :: rest) := by
    simp [TextRun.control, escapeMark]
  rw [hshape, withoutStyles, dropStyles, if_pos ⟨rfl, rfl⟩]
  exact dropStyles_append hbody rest

theorem unmarked_markupLetters : ∀ c ∈ markupLetters, c ≠ escapeMark :=
  forall_of_all (by decide)

/-- A run that brings no code of its own: no escape mark, and no link. -/
def CodelessRun (s : TextRun) : Prop := Unmarked s.chars ∧ Linkless s.style

/-- A line of such runs. -/
def Codeless (line : Line) : Prop := ∀ s ∈ line, CodelessRun s

/-- A line brings no code if no character of it is an escape mark and no style a link. -/
theorem codeless_iff {line : Line} :
    Codeless line ↔ AllChars (· ≠ escapeMark) line ∧ Styled Linkless line :=
  forall₂_and

/-- Lines are codeless if their characters and their styles bring no code. -/
theorem codeless_of {lines : List Line} (hchars : ∀ line ∈ lines, AllChars (· ≠ escapeMark) line)
    (hstyles : ∀ line ∈ lines, Styled Linkless line) : ∀ line ∈ lines, Codeless line :=
  fun line hline => codeless_iff.mpr ⟨hchars line hline, hstyles line hline⟩

/-- A run without its styles is its characters. -/
theorem withoutStyles_print {s : TextRun} (h : CodelessRun s) (number : Nat) (rest : List Char) :
    withoutStyles (s.print true number ++ rest) = s.chars ++ withoutStyles rest := by
  have hcoded : withoutStyles (s.coded ++ rest) = s.chars ++ withoutStyles rest := by
    rw [TextRun.coded]
    split
    · exact withoutStyles_append h.1 rest
    · rw [List.append_assoc, List.append_assoc, withoutStyles_control, withoutStyles_append h.1,
        withoutStyles_control]
  rw [TextRun.print]
  split
  · rw [h.2]
    exact hcoded
  · exact withoutStyles_append h.1 rest

/-- A printed line without its style sequences is its characters. -/
theorem withoutStyles_line {line : Line} (h : Codeless line) (number : Nat → Nat) (start : Nat)
    (rest : List Char) :
    withoutStyles ((line.zipIdx start).flatMap (fun s => s.1.print true (number s.2)) ++ rest)
      = line.flatMap TextRun.chars ++ withoutStyles rest := by
  induction line generalizing start with
  | nil => rfl
  | cons s line ih =>
      obtain ⟨hs, hline⟩ := List.forall_mem_cons.mp h
      rw [List.zipIdx_cons, List.flatMap_cons, List.flatMap_cons, List.append_assoc,
        List.append_assoc, withoutStyles_print hs, ih hline]

section Host

variable [Host]

/-- **Printing in colour adds style sequences only.** -/
theorem withoutStyles_printLines {lines : List Line} (h : ∀ line ∈ lines, Codeless line) :
    withoutStyles (printLines true lines) = printLines false lines := by
  have hfeed : Unmarked ['\n'] := by decide
  -- lines are numbered from any line on
  suffices hfrom : ∀ start, withoutStyles ((lines.zipIdx start).flatMap fun line =>
      line.1.zipIdx.flatMap (fun s => s.1.print true (Host.linkNumber line.2 s.2)) ++ ['\n'])
        = lines.flatMap fun line => line.flatMap TextRun.chars ++ ['\n'] by
    rw [printLines_false, printed, List.flatMap_map]
    exact hfrom 0
  induction lines with
  | nil => exact fun _ => rfl
  | cons line lines ih =>
      intro start
      obtain ⟨hline, hlines⟩ := List.forall_mem_cons.mp h
      rw [List.zipIdx_cons, List.flatMap_cons, List.flatMap_cons, List.append_assoc,
        withoutStyles_line hline, withoutStyles_append hfeed, ih hlines, List.append_assoc]

/-- Without colour only characters of the runs are printed. -/
theorem unmarked_printLines {lines : List Line} (h : ∀ line ∈ lines, Codeless line) :
    Unmarked (printLines false lines) := by
  rw [printLines_false, printed, List.flatMap_map]
  intro c hc
  obtain ⟨line, hline, hc⟩ := List.mem_flatMap.mp hc
  rcases List.mem_append.mp hc with hc | hc
  · obtain ⟨s, hs, hc⟩ := List.mem_flatMap.mp hc
    exact (h line hline s hs).1 c hc
  · rw [List.mem_singleton.mp hc]
    decide

/-! ## Emoji -/

/-- An emoji brings no escape mark. -/
theorem unmarked_emoji {name : List Char} (h : Unmarked name) : Unmarked (Markup.emoji name) := by
  have hvariants : ∀ v ∈ Markup.variants, v.2 ≠ escapeMark := by decide
  rw [Markup.emoji]
  split
  · rename_i text htext
    refine List.forall_mem_append.mpr ⟨?_, ?_⟩
    · exact fun c hc => ne_of_mem_of_not_mem hc (Host.emoji_unmarked _ _ htext)
    · intro c hc
      obtain ⟨v, hv, rfl⟩ := Option.map_eq_some_iff.mp (Option.mem_toList.mp hc)
      exact hvariants v (List.mem_of_find?_eq_some hv)
  · have hcolon : ':' ≠ escapeMark := by decide
    exact List.forall_mem_cons.mpr
      ⟨hcolon, List.forall_mem_append.mpr ⟨h, List.forall_mem_singleton.mpr hcolon⟩⟩

/-- Replacing the names of pictures brings in no escape mark: their texts hold none. -/
theorem unmarked_replaceNames {name : Option (List Char)} {cs : List Char}
    (hname : ∀ n ∈ name, Unmarked n) (h : Unmarked cs) :
    Unmarked (Markup.replaceNames name cs) := by
  have hcolon : ':' ≠ escapeMark := by decide
  have hread : ∀ {n : List Char}, Unmarked n → Unmarked n.reverse :=
    fun hn c hc => hn c (List.mem_reverse.mp hc)
  induction cs generalizing name with
  | nil =>
      cases name with
      | none => exact List.forall_mem_nil _
      | some n => exact List.forall_mem_cons.mpr ⟨hcolon, hread (hname n rfl)⟩
  | cons c cs ih =>
      obtain ⟨hc, hcs⟩ := List.forall_mem_cons.mp h
      have hrest : Unmarked (Markup.replaceNames none cs) := ih (fun n hn => nomatch hn) hcs
      cases name with
      | none =>
          rw [Markup.replaceNames]
          split
          · refine ih (fun n hn => ?_) hcs
            cases hn
            exact List.forall_mem_nil _
          · exact List.forall_mem_cons.mpr ⟨hc, hrest⟩
      | some n =>
          have hn := hname n rfl
          rw [Markup.replaceNames]
          split
          · -- a second colon ends the name
            exact List.forall_mem_append.mpr ⟨unmarked_emoji (hread hn), hrest⟩
          · split
            · -- a blank shows that it was no name
              exact List.forall_mem_append.mpr ⟨List.forall_mem_cons.mpr ⟨hcolon, hread hn⟩,
                List.forall_mem_cons.mpr ⟨hc, hrest⟩⟩
            · refine ih (fun m hm => ?_) hcs
              cases hm
              exact List.forall_mem_cons.mpr ⟨hc, hn⟩

/-- Emoji bring no escape mark into markup. -/
theorem unmarked_withEmoji {stretch : List Char} {ps : List Markup.Piece}
    (hstretch : Unmarked stretch) (h : Unmarked (Markup.charsOf ps)) :
    Unmarked (Markup.charsOf (Markup.withEmoji stretch ps)) := by
  have hread : Unmarked (Markup.replaceNames none stretch.reverse) :=
    unmarked_replaceNames (fun n hn => nomatch hn)
      (fun c hc => hstretch c (List.mem_reverse.mp hc))
  induction ps generalizing stretch with
  | nil =>
      rw [Markup.withEmoji, Markup.charsOf_map_char]
      exact hread
  | cons p ps ih =>
      cases hp : p.char? with
      | some c =>
          cases Markup.eq_char hp
          obtain ⟨hc, hps⟩ := List.forall_mem_cons.mp h
          have hmore : Unmarked (c :: stretch) := List.forall_mem_cons.mpr ⟨hc, hstretch⟩
          exact ih hmore hps (unmarked_replaceNames (fun n hn => nomatch hn)
            fun d hd => hmore d (List.mem_reverse.mp hd))
      | none =>
          rw [Markup.charsOf_cons_of_char?_eq_none hp] at h
          rw [Markup.withEmoji_of_char?_eq_none hp, Markup.charsOf_append, Markup.charsOf_map_char,
            Markup.charsOf_cons_of_char?_eq_none hp]
          exact List.forall_mem_append.mpr
            ⟨hread, ih (List.forall_mem_nil _) h (List.forall_mem_nil _)⟩

/-! ## Texts of a report -/

/-- What markup renders to is unmarked if the markup is. -/
theorem unmarked_readMarkup {cs : List Char} (h : Unmarked cs) {text : StyledText}
    (hread : readMarkup cs = .ok text) : Unmarked text.chars := by
  have hpieces : Unmarked (Markup.charsOf (Markup.pieces cs.length 0 cs)) :=
    fun c hc => h c ((Markup.sublist_pieces cs).subset hc)
  rw [Markup.chars_render (mapError_eq_ok_iff.mp hread)]
  intro c hc
  exact unmarked_withEmoji (List.forall_mem_nil _) hpieces c (List.mem_filter.mp hc).1

/-- The lines of unmarked markup with the tags of reports bring no codes. -/
theorem codeless_markupLines {cs : List Char} (h : Unmarked cs) (hown : OwnMarkup cs)
    {width : Nat} {lines : List Line} (hlines : markupLines width cs = .ok lines) :
    ∀ line ∈ lines, Codeless line := by
  obtain ⟨text, htext, hlines⟩ := bind_eq_ok_iff.mp hlines
  cases hlines
  refine codeless_of ?_ ?_
  · rw [List.forall_mem_map]
    intro part hpart
    refine allChars_cropLine (by decide) (allChars_runs ?_) width
    exact StyledText.forall_wrap (by decide) (by decide) _ _ (unmarked_readMarkup h htext) part
      hpart
  · rw [List.forall_mem_map]
    intro part hpart
    refine styled_cropLine (styled_runs styleRule_linkless ?_) width
    exact StyledText.allStyles_wrap _ _ (linkless_readMarkup hown htext) part hpart

/-- A diagnostic whose texts bring no style sequence, and whose rule name no tag. -/
structure CodelessTexts (d : Diagnostic) : Prop where
  message : Unmarked d.message.toList
  ruleId : Unmarked d.ruleId.toList
  bracketless : '[' ∉ d.ruleId.toList

/-- What is found in a file brings no code of its own. -/
theorem codeless_findingLines {config : ConsoleConfig} {f : FileResult}
    (h : ∀ d ∈ f.diagnostics, CodelessTexts d) {lines : List Line}
    (hlines : findingLines config f = .ok lines) : ∀ line ∈ lines, Codeless line := by
  rw [findingLines] at hlines
  split at hlines
  · exact codeless_markupLines (forall_clean unmarked_markupLetters) ownMarkup_clean hlines
  · obtain ⟨_, -, hlines⟩ := bind_eq_ok_iff.mp hlines
    obtain ⟨rows, hrows, hlines⟩ := bind_eq_ok_iff.mp hlines
    cases hlines
    -- every cell is the markup of a diagnostic
    have hcells : ∀ row ∈ rows, ∀ cell ∈ row,
        Unmarked cell.chars ∧ cell.AllStyles Linkless := by
      intro row hrow cell hcell
      obtain ⟨d, hd, hrow⟩ := mem_of_mapM hrows hrow
      obtain ⟨markup, hmarkup, hcell⟩ := mem_of_mapM hrow hcell
      have hletters := forall_rowMarkup unmarked_markupLetters (h d hd).message (h d hd).ruleId
      exact ⟨unmarked_readMarkup (hletters markup hmarkup) hcell,
        linkless_readMarkup (ownMarkup_rowMarkup (h d hd).bracketless markup hmarkup) hcell⟩
    refine codeless_of ?_ ?_
    · rw [List.forall_mem_map]
      intro line hline
      refine allChars_cropLine (by decide) ?_ _
      exact allChars_tableLines (by decide) (by decide) _ _
        (fun row hrow cell hcell => (hcells row hrow cell hcell).1) line hline
    · rw [List.forall_mem_map]
      intro line hline
      refine styled_cropLine ?_ _
      exact styled_tableLines styleRule_linkless _ linkless_columns
        (fun row hrow cell hcell => (hcells row hrow cell hcell).2) line hline

/-- A diagnostic whose texts bring no style sequence. -/
def UnmarkedTexts (d : Diagnostic) : Prop :=
  Unmarked d.message.toList ∧ Unmarked d.ruleId.toList

/-- A run whose texts bring no style sequence. -/
def UnmarkedResult (r : LintResult) : Prop :=
  ∀ f ∈ r.files, Unmarked f.path.text.toList ∧ ∀ d ∈ f.diagnostics, UnmarkedTexts d

/-- The lines about a file bring no code of their own. -/
theorem codeless_fileLines {config : ConsoleConfig} {f : FileResult}
    (hpath : Unmarked f.path.text.toList) (h : ∀ d ∈ f.diagnostics, CodelessTexts d)
    {lines : List Line} (hlines : fileLines config f = .ok lines) :
    ∀ line ∈ lines, Codeless line := by
  obtain ⟨path, hshown, hlines⟩ := bind_eq_ok_iff.mp hlines
  obtain ⟨findings, hfindings, hlines⟩ := bind_eq_ok_iff.mp hlines
  cases hlines
  refine List.forall_mem_append.mpr ⟨List.forall_mem_append.mpr ⟨?_, ?_⟩, ?_⟩
  · exact codeless_markupLines (forall_path unmarked_markupLetters hpath) (ownMarkup_path f.path)
      hshown
  · exact codeless_findingLines h hfindings
  · exact List.forall_mem_singleton.mpr (List.forall_mem_nil _)

theorem codeless_summaryLines {config : ConsoleConfig} {r : LintResult} {lines : List Line}
    (hlines : summaryLines config r = .ok lines) : ∀ line ∈ lines, Codeless line :=
  codeless_markupLines (forall_summaryMarkup unmarked_markupLetters r) (ownMarkup_summary r) hlines

/-- **No line of a report brings a code of its own** if no text of the run holds an escape
    mark and no rule name a bracket. -/
theorem codeless_consoleLines {config : ConsoleConfig} {r : LintResult} (h : UnmarkedResult r)
    (hrules : ∀ d ∈ r.diagnostics, '[' ∉ d.ruleId.toList) {lines : List Line}
    (hlines : consoleLines config r = .ok lines) : ∀ line ∈ lines, Codeless line := by
  obtain ⟨files, hfiles, hlines⟩ := bind_eq_ok_iff.mp hlines
  obtain ⟨last, hlast, hlines⟩ := bind_eq_ok_iff.mp hlines
  cases hlines
  refine List.forall_mem_append.mpr ⟨?_, codeless_summaryLines hlast⟩
  intro line hline
  obtain ⟨block, hblock, hline⟩ := List.mem_flatten.mp hline
  obtain ⟨f, hf, hblock⟩ := mem_of_mapM hfiles hblock
  have hmem := (List.mem_filter.mp hf).1
  obtain ⟨hpath, htexts⟩ := h f hmem
  refine codeless_fileLines hpath (fun d hd => ?_) hblock line hline
  exact ⟨(htexts d hd).1, (htexts d hd).2, hrules d (List.mem_flatMap.mpr ⟨f, hmem, hd⟩)⟩

/-! ## Both reports -/

/-- Colour and the asked width reach the lines of a report through the width that it gets. -/
theorem consoleLines_congr {a b : ConsoleConfig} (hwidth : a.usedWidth = b.usedWidth)
    (hclean : a.showClean = b.showClean) (r : LintResult) :
    consoleLines a r = consoleLines b r := by
  have hfile : fileLines a = fileLines b := by
    funext f
    simp only [fileLines, findingLines, hwidth]
  simp only [consoleLines, summaryLines, hfile, hwidth, hclean]

/-- A report is its printed lines. -/
theorem console_eq_map (config : ConsoleConfig) (r : LintResult) :
    console config r = (consoleLines config r).map
      fun lines => String.ofList (printLines config.printsCodes lines) := by
  rw [console]
  cases consoleLines config r with
  | error failure => rfl
  | ok lines => rfl

/-- **A report without its styles** is the report without colour that has the width of the
    terminal. -/
theorem stripped_console (config : ConsoleConfig) {r : LintResult} (htexts : UnmarkedResult r)
    (hrules : ∀ d ∈ r.diagnostics, '[' ∉ d.ruleId.toList) :
    (console config r).map (fun text => String.ofList (withoutStyles text.toList))
      = console ⟨false, config.usedWidth, config.showClean⟩ r := by
  have hsame : consoleLines config r
      = consoleLines ⟨false, config.usedWidth, config.showClean⟩ r := consoleLines_congr rfl rfl r
  rw [console_eq_map, console_eq_map, ← hsame]
  cases hlines : consoleLines config r with
  | error failure => rfl
  | ok lines =>
      have hcodeless := codeless_consoleLines htexts hrules hlines
      show Except.ok (String.ofList (withoutStyles
        (String.ofList (printLines config.printsCodes lines)).toList)) = Except.ok _
      rw [String.toList_ofList]
      cases config.printsCodes with
      | true => rw [withoutStyles_printLines hcodeless]; rfl
      | false =>
          have hself := withoutStyles_append (unmarked_printLines hcodeless) []
          rw [List.append_nil] at hself
          rw [hself]
          exact congrArg (fun cs => Except.ok (String.ofList cs)) (List.append_nil _)

/-- The width of a report on a terminal that heeds it, and on one that does not. -/
theorem usedWidth_colored (width : Nat) (showClean : Bool) :
    ConsoleConfig.usedWidth ⟨true, width, showClean⟩
      = if Host.terminal.HeedsWidth then width else ConsoleConfig.dumbWidth := by
  cases hdumb : Host.terminal.dumb with
  | false => simp [ConsoleConfig.usedWidth, ConsoleConfig.isDumb, Terminal.HeedsWidth, hdumb]
  | true =>
      cases hsized : Host.terminal.sized with
      | false =>
          simp [ConsoleConfig.usedWidth, ConsoleConfig.isDumb, Terminal.HeedsWidth, hdumb, hsized]
      | true =>
          simp [ConsoleConfig.usedWidth, ConsoleConfig.isDumb, Terminal.HeedsWidth, hdumb, hsized]

/-- **Colour never changes what a report says.**  For texts without escape marks and rule
    names without brackets, the report in colour, its style sequences taken away, is the
    report without colour, or both fail alike; they fail only for a position with too many
    digits, and the report without colour holds no escape mark.

    That is so on a terminal that heeds the width of a report.  One that says it is dumb
    and does not say how many lines it has gives a report in colour 80 cells instead; then
    the report is the one without colour of that width. -/
theorem console_uncolored (r : LintResult) (width : Int) (showClean : Bool)
    (hwidth : 40 ≤ width) (htexts : UnmarkedResult r)
    (hrules : ∀ d ∈ r.diagnostics, '[' ∉ d.ruleId.toList) :
    ∃ colored bare, ConsoleConfig.make true width showClean = .ok colored ∧
      ConsoleConfig.make false width showClean = .ok bare ∧
      (Host.terminal.HeedsWidth →
        (console colored r).map (fun text => String.ofList (withoutStyles text.toList))
          = console bare r) ∧
      (¬Host.terminal.HeedsWidth →
        (console colored r).map (fun text => String.ofList (withoutStyles text.toList))
          = console { bare with width := ConsoleConfig.dumbWidth } r) ∧
      (Succeeds (console bare r) ↔
        ∀ d ∈ r.diagnostics, Showable (positionNumbers d.location)) ∧
      ∀ text, console bare r = .ok text → Unmarked text.toList := by
  have hmake : ∀ color, ConsoleConfig.make color width showClean
      = .ok ⟨color, width.toNat, showClean⟩ := by
    intro color
    rw [ConsoleConfig.make, if_neg (Int.not_lt.mpr hwidth)]
  refine ⟨_, _, hmake true, hmake false, ?_, ?_, ?_, ?_⟩
  · intro hheeds
    rw [stripped_console _ htexts hrules, usedWidth_colored, if_pos hheeds]
  · intro hdumb
    rw [stripped_console _ htexts hrules, usedWidth_colored, if_neg hdumb]
  · rw [succeeds_console_iff]
    exact forall₂_congr fun d hd => and_iff_left (Markup.exists_render_bracketless (hrules d hd))
  · intro text htext
    rw [console_eq_map] at htext
    obtain ⟨lines, hlines, rfl⟩ := map_eq_ok_iff.mp htext
    rw [String.toList_ofList]
    exact unmarked_printLines (codeless_consoleLines htexts hrules hlines)

end Host

/-- A finding with a tab, wide characters, a line feed and tags in its message, beside a
    clean file. -/
def foldedFinding : LintResult where
  files := [
    ⟨.ofString "app/[slug]/頁.json",
      [⟨"rule\\", "id", "a\tlong 文 [bold]text[/bold]\nthat is folded, \\[1] and [red]cut",
        ⟨.ofString "app/[slug]/頁.json", .number 120, .flag true, none, none⟩, .error, []⟩]⟩,
    ⟨.ofString "clean.json", []⟩]

section Standard

attribute [local instance] Host.standard

theorem console_uncolored_foldedFinding :
    UnmarkedResult foldedFinding ∧ (∀ d ∈ foldedFinding.diagnostics, '[' ∉ d.ruleId.toList) ∧
      ∃ colored bare styled text, ConsoleConfig.make true 40 true = .ok colored ∧
        ConsoleConfig.make false 40 true = .ok bare ∧
        console colored foldedFinding = .ok styled ∧ console bare foldedFinding = .ok text ∧
        String.ofList (withoutStyles styled.toList) = text ∧ Unmarked text.toList := by
  have htexts : UnmarkedResult foldedFinding := by
    simp only [UnmarkedResult, UnmarkedTexts]
    decide +kernel
  have hrules : ∀ d ∈ foldedFinding.diagnostics, '[' ∉ d.ruleId.toList := by
    decide +kernel
  have hshown : ∀ d ∈ foldedFinding.diagnostics, Showable (positionNumbers d.location) := by
    simp only [Showable]
    decide +kernel
  obtain ⟨colored, bare, hcolored, hbare, hsame, -, hsucceeds, hunmarked⟩ :=
    console_uncolored foldedFinding 40 true (by decide) htexts hrules
  obtain ⟨text, htext⟩ := hsucceeds.mpr hshown
  obtain ⟨styled, hstyled, heq⟩ := map_eq_ok_iff.mp ((hsame (by decide)).trans htext)
  exact ⟨htexts, hrules, colored, bare, styled, text, hcolored, hbare, hstyled, htext, heq,
    hunmarked text htext⟩

end Standard

end EnvLint.Report
