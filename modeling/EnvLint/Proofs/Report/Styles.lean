import EnvLint.Proofs.Report.Shown

/-! # Where the styles of a report come from

    A report has a few tags of its own.  Escaped texts open no tag, and neither does
    a rule name without brackets, so every style in the report stands for one of
    those tags, belongs to a column, or is put together from such styles.

    The statements are about a property of styles that lasts when styles are put
    together (`StyleRule`).  A rendered text has it in all its stretches if the tags
    of its markup have it (`allStyles_render`), every step of the layout keeps it
    (`allStyles_wrap`, `styled_tableLines`), and the tags in the markup of a report
    are those of reports (`OwnMarkup`). -/

namespace EnvLint.Report

/-- A property that lasts when styles are put together. -/
structure StyleRule (q : Style → Prop) : Prop where
  plain : q .plain
  add {a b : Style} : q a → q b → q (a.add b)

variable {q : Style → Prop}

/-! ## Stretches of a text -/

namespace StyledText

/-- A text all of whose stretches have styles with a property. -/
def AllStyles (q : Style → Prop) (r : StyledText) : Prop := ∀ s ∈ r.spans, q s.style

variable {r : StyledText}

theorem allStyles_slice (h : r.AllStyles q) (start stop : Nat) :
    (r.slice start stop).AllStyles q := by
  intro s hs
  obtain ⟨t, ht, hs⟩ := List.mem_filterMap.mp hs
  dsimp only at hs
  split at hs
  · cases hs
    exact h t ht
  · cases hs

theorem allStyles_cutFrom (h : r.AllStyles q) (start : Nat) (places : List Nat) :
    ∀ part ∈ r.cutFrom start places, part.AllStyles q := by
  induction places generalizing start with
  | nil => exact List.forall_mem_singleton.mpr (allStyles_slice h _ _)
  | cons place places ih =>
      exact List.forall_mem_cons.mpr ⟨allStyles_slice h start place, ih place⟩

theorem allStyles_cutAt (h : r.AllStyles q) (places : List Nat) :
    ∀ part ∈ r.cutAt places, part.AllStyles q := by
  cases places with
  | nil => exact List.forall_mem_singleton.mpr h
  | cons place places => exact allStyles_cutFrom h 0 _

theorem allStyles_lines (h : r.AllStyles q) : ∀ line ∈ r.lines, line.AllStyles q := by
  rw [lines]
  split
  · rw [List.forall_mem_map]
    intro range _
    exact allStyles_slice h _ _
  · exact List.forall_mem_singleton.mpr h

theorem allStyles_append {a b : StyledText} (ha : a.AllStyles q) (hb : b.AllStyles q) :
    (a.append b).AllStyles q :=
  List.forall_mem_append.mpr ⟨ha, List.forall_mem_map.mpr fun s hs => hb s hs⟩

/-- Widening a tab brings in no style. -/
theorem allStyles_widenTab (start : Nat) (h : r.AllStyles q) : (r.widenTab start).AllStyles q := by
  rw [widenTab]
  split
  · rw [AllStyles, List.forall_mem_map]
    intro s hs
    split
    · exact h s hs
    · exact h s hs
  · exact h

/-- Texts joined at tabs have their styles. -/
theorem allStyles_joinTabs {done : StyledText} (start : Nat) {parts : List StyledText}
    (hdone : done.AllStyles q) (hparts : ∀ part ∈ parts, part.AllStyles q) :
    (joinTabs done start parts).AllStyles q := by
  induction parts generalizing done start with
  | nil => exact hdone
  | cons part parts ih =>
      rw [List.forall_mem_cons] at hparts
      exact ih _ (allStyles_append hdone (allStyles_widenTab start hparts.1)) hparts.2

theorem allStyles_expandTabs (h : r.AllStyles q) : r.expandTabs.AllStyles q := by
  rw [expandTabs]
  split
  · exact allStyles_joinTabs 0 (List.forall_mem_nil _) (allStyles_cutFrom h 0 _)
  · exact h

/-- Other characters keep the styles where there are any left. -/
theorem allStyles_withChars (h : r.AllStyles q) (cs : List Char) :
    (r.withChars cs).AllStyles q := by
  rw [withChars]
  split
  · intro s hs
    obtain ⟨t, ht, hs⟩ := List.mem_filterMap.mp hs
    split at hs
    · cases hs
      exact h t ht
    · cases hs
  · exact h

theorem allStyles_trimBeyond (width : Nat) (h : r.AllStyles q) :
    (r.trimBeyond width).AllStyles q := by
  rw [trimBeyond]
  split
  · exact allStyles_withChars h _
  · exact h

/-- A cropped text has the styles of the text. -/
theorem allStyles_crop (overflow : Overflow) (width : Nat) (h : r.AllStyles q) :
    (r.crop overflow width).AllStyles q := by
  cases overflow with
  | fold =>
      rw [crop]
      split
      · exact allStyles_withChars h _
      · exact h
  | ellipsis =>
      rw [crop]
      split
      · exact allStyles_withChars h _
      · exact h

/-- **The lines of a text** have its styles. -/
theorem allStyles_wrap (overflow : Overflow) (width : Nat) (h : r.AllStyles q) :
    ∀ part ∈ r.wrap overflow width, part.AllStyles q := by
  intro part hpart
  rw [wrap, List.mem_flatMap] at hpart
  obtain ⟨line, hline, hpart⟩ := hpart
  have hwide := allStyles_expandTabs (allStyles_lines h line hline)
  obtain ⟨piece, hpiece, rfl⟩ := List.mem_map.mp hpart
  refine allStyles_crop overflow width (allStyles_trimBeyond width ?_)
  cases overflow with
  | fold => exact allStyles_cutAt hwide _ piece hpiece
  | ellipsis =>
      cases List.mem_singleton.mp hpiece
      exact hwide

end StyledText

/-! ## Printed lines -/

/-- A line all of whose runs have styles with a property. -/
def Styled (q : Style → Prop) (line : Line) : Prop := ∀ s ∈ line, q s.style

/-- Styles that are laid over each other keep a property that adding keeps. -/
theorem StyleRule.foldl (hq : StyleRule q) {spans : List Span} (h : ∀ s ∈ spans, q s.style)
    {style : Style} (hstyle : q style) :
    q (spans.foldl (fun style s => style.add s.style) style) := by
  induction spans generalizing style with
  | nil => exact hstyle
  | cons s spans ih =>
      obtain ⟨hs, hspans⟩ := List.forall_mem_cons.mp h
      exact ih hspans (hq.add hstyle hs)

/-- Runs have the styles of the stretches that reach over them, put together. -/
theorem styled_runs (hq : StyleRule q) {r : StyledText} (h : r.AllStyles q) : Styled q r.runs := by
  rw [Styled, StyledText.runs, List.forall_mem_map]
  intro edge _
  exact hq.foldl (fun s hs => h s (List.mem_filter.mp hs).1) hq.plain

/-- A cropped line has the styles of the line. -/
theorem styled_cropLine {line : Line} (h : Styled q line) (width : Nat) :
    Styled q (cropLine width line) :=
  forall_cropLine (fun _ hs _ => hs) h width

/-! ## Tables -/

/-- The lines of a cell have the styles of its column and its text. -/
theorem styled_cellLines (hq : StyleRule q) {column : Column} (hcolumn : q column.style)
    (width : Nat) {cell : StyledText} (h : cell.AllStyles q) :
    ∀ line ∈ cellLines column width cell, Styled q line := by
  rw [cellLines]
  split
  · exact List.forall_mem_nil _
  · rw [List.forall_mem_map]
    intro part hpart
    have hpart := StyledText.allStyles_wrap _ _ h part hpart
    rw [Styled, List.forall_mem_map]
    -- the style of the column lies below those of the runs
    suffices hruns : Styled q (TextRun.blanks leftBlanks .plain ::
        (part.pad (width - cellBlanks)).runs ++ [TextRun.blanks rightBlanks .plain]) from
      fun s hs => hq.add hcolumn (hruns s hs)
    refine List.forall_mem_append.mpr ⟨List.forall_mem_cons.mpr ⟨hq.plain, ?_⟩, ?_⟩
    · exact styled_runs hq hpart
    · exact List.forall_mem_singleton.mpr hq.plain

/-- **The lines of a table** have the styles of its columns and cells. -/
theorem styled_tableLines (hq : StyleRule q) (limit : Nat) {columns : List Column}
    (hcolumns : ∀ c ∈ columns, q c.style) {rows : List (List StyledText)}
    (h : ∀ row ∈ rows, ∀ cell ∈ row, cell.AllStyles q) :
    ∀ line ∈ tableLines limit columns rows, Styled q line := by
  refine forall_tableLines limit ?_ ?_
  · exact fun column hcolumn _ => hcolumns column hcolumn
  · intro column hcolumn row hrow cell hcell width
    exact styled_cellLines hq (hcolumns column hcolumn) width (h row hrow cell hcell)

/-! ## Markup -/

namespace Markup

/-- Where rendering stands, with a property of all styles so far. -/
structure StyledState (q : Style → Prop) (s : State) : Prop where
  spans : ∀ span ∈ s.spans, q span.style
  opened : ∀ o ∈ s.opened, q o.style

section Host

variable [Host]

/-- Closing a tag gives a stretch the style of the tag. -/
theorem StyledState.close {s t : State} (h : StyledState q s) {o : Open} (ho : o ∈ s.opened)
    {opened : List Open} (hsub : opened ⊆ s.opened) (hclose : s.close o opened = .ok t) :
    StyledState q t := by
  rw [State.close] at hclose
  split at hclose
  · cases hclose
  · cases hclose
    exact ⟨List.forall_mem_cons.mpr ⟨h.opened o ho, h.spans⟩, fun p hp => h.opened p (hsub hp)⟩

/-- A tag brings its own style at most. -/
theorem StyledState.takeTag {s t : State} (h : StyledState q s) {tag : List Char} {position : Nat}
    (htag : ∀ start, q (Open.ofTag start tag).style) (htake : s.takeTag tag position = .ok t) :
    StyledState q t := by
  rw [State.takeTag] at htake
  split at htake
  · split at htake
    · split at htake
      · rename_i o opened hopened
        refine h.close ?_ ?_ htake
        · rw [hopened]
          exact List.mem_cons_self
        · rw [hopened]
          exact List.subset_cons_self o opened
      · cases htake
    · dsimp only at htake
      split at htake
      · rename_i o hfind
        refine h.close (List.mem_of_find?_eq_some hfind) ?_ htake
        refine List.append_subset.mpr ⟨(List.takeWhile_sublist _).subset, ?_⟩
        exact fun p hp => (List.dropWhile_sublist _).subset (List.mem_of_mem_drop hp)
      · cases htake
  · cases htake
    exact ⟨h.spans, List.forall_mem_cons.mpr ⟨htag _, h.opened⟩⟩

/-- Rendering brings the styles of tags only. -/
theorem StyledState.foldlM {ps : List Piece}
    (htags : ∀ tag position, .tag tag position ∈ ps → ∀ start, q (Open.ofTag start tag).style)
    {s t : State} (h : StyledState q s) (hfold : ps.foldlM State.take s = .ok t) :
    StyledState q t := by
  induction ps generalizing s with
  | nil =>
      cases hfold
      exact h
  | cons p ps ih =>
      rw [List.foldlM_cons] at hfold
      obtain ⟨u, hu, hfold⟩ := bind_eq_ok_iff.mp hfold
      refine ih (fun tag position hmem => htags tag position (List.mem_cons_of_mem _ hmem)) ?_ hfold
      cases p with
      | bound =>
          cases hu
          exact h
      | tag text position => exact h.takeTag (htags text position List.mem_cons_self) hu
      | char c =>
          cases hu
          split
          · exact h
          · exact ⟨h.spans, h.opened⟩

/-- Emoji bring no tag. -/
theorem mem_of_mem_withEmoji {stretch : List Char} {ps : List Piece} {tag : List Char}
    {position : Nat} (h : .tag tag position ∈ withEmoji stretch ps) : .tag tag position ∈ ps := by
  induction ps generalizing stretch with
  | nil =>
      obtain ⟨c, -, hc⟩ := List.mem_map.mp h
      cases hc
  | cons p ps ih =>
      cases hp : p.char? with
      | some c =>
          cases eq_char hp
          exact List.mem_cons_of_mem _ (ih h)
      | none =>
          rw [withEmoji_of_char?_eq_none hp] at h
          rcases List.mem_append.mp h with h | h
          · obtain ⟨c, -, hc⟩ := List.mem_map.mp h
            cases hc
          · exact List.mem_cons.mpr ((List.mem_cons.mp h).imp_right ih)

/-- **A rendered text** has the styles of the tags of its markup. -/
theorem allStyles_render {cs : List Char} {text : StyledText} (h : render cs = .ok text)
    (htags : ∀ tag position, .tag tag position ∈ pieces cs.length 0 cs →
      ∀ start, q (Open.ofTag start tag).style) : text.AllStyles q := by
  obtain ⟨s, hs, hfinish⟩ := bind_eq_ok_iff.mp h
  cases hfinish
  have hstate : StyledState q s := StyledState.foldlM
    (fun tag position hmem => htags tag position (mem_of_mem_withEmoji hmem))
    ⟨List.forall_mem_nil _, List.forall_mem_nil _⟩ hs
  -- tags that are still open reach to the end
  intro span hspan
  rcases List.mem_append.mp (List.mem_mergeSort.mp hspan) with hopen | hclosed
  · obtain ⟨o, ho, rfl⟩ := List.mem_map.mp (List.mem_reverse.mp hopen)
    exact hstate.opened o ho
  · exact hstate.spans span hclosed

end Host

end Markup

/-! ## Tags of a report -/

/-- A tag of reports, opening or closing. -/
def IsOwnTag (tag : List Char) : Prop :=
  ∃ name ∈ reportTags, tag = name.toList ∨ tag = '/' :: name.toList

/-- Markup in which all tags are those of reports. -/
def OwnMarkup (cs : List Char) : Prop :=
  ∀ tag position, .tag tag position ∈ Markup.pieces cs.length 0 cs → IsOwnTag tag

/-- Text without tags holds no tag of others. -/
theorem ownMarkup_of_tagless {cs : List Char} (h : Markup.Tagless (Markup.pieces cs.length 0 cs)) :
    OwnMarkup cs :=
  fun _ _ hmem => absurd (h _ hmem) Bool.noConfusion

/-- Escaped text holds no tag of others. -/
theorem ownMarkup_escape (cs : List Char) : OwnMarkup (Markup.escape cs) := by
  rw [Markup.escape_eq]
  obtain ⟨ps, hps, -, heq⟩ := (Markup.escaped_escapeTags (Nat.le_refl cs.length)).pieces_replicate
    (if Markup.slashesAtEnd cs = 1 then 1 else 0)
  rw [← heq] at hps
  exact ownMarkup_of_tagless hps

theorem ownMarkup_bracketless {cs : List Char} (h : '[' ∉ cs) : OwnMarkup cs := by
  obtain ⟨ps, hps, -, heq⟩ := (Markup.escaped_self h).pieces_replicate 0
  rw [← heq, List.replicate_zero, List.append_nil] at hps
  exact ownMarkup_of_tagless hps

/-- Between the tags of a style an escaped text brings no other tag. -/
theorem ownMarkup_tagged {tag : String} (htag : tag ∈ reportTags) {lead : List Char}
    (hlead : Markup.IsPlain lead) (cs : List Char) :
    OwnMarkup (tagged tag (lead ++ Markup.escape cs)) := by
  intro found place hmem
  rw [Markup.escape_eq, ← List.append_assoc] at hmem
  have hescaped := (Markup.escaped_escapeTags (Nat.le_refl cs.length)).plain_append hlead
  obtain ⟨text, position, ps, last, -, hlast, hps, -, hread⟩ :=
    hescaped.pieces_tagged (styleTag_of_mem htag) (if Markup.slashesAtEnd cs = 1 then 1 else 0)
  rw [hread, List.mem_cons, List.mem_append] at hmem
  rcases hmem with hopen | hinside | hclose
  · cases hopen
    exact ⟨tag, htag, Or.inl rfl⟩
  · exact absurd (hps _ hinside) Bool.noConfusion
  · rcases hlast with rfl | rfl
    · exact absurd hclose List.not_mem_nil
    · cases List.mem_singleton.mp hclose
      exact ⟨tag, htag, Or.inr rfl⟩

theorem ownMarkup_clean : OwnMarkup ("  ".toList ++ tagged "green" "clean".toList) := by
  have hgreen : "green" ∈ reportTags := by simp [reportTags]
  intro tag position hmem
  rw [pieces_clean, List.mem_append, List.mem_cons, List.mem_append] at hmem
  rcases hmem with hlead | hopen | hinside | hclose
  · exact absurd (Markup.tagless_map_char _ _ hlead) Bool.noConfusion
  · cases hopen
    exact ⟨"green", hgreen, Or.inl rfl⟩
  · exact absurd (Markup.tagless_map_char _ _ hinside) Bool.noConfusion
  · cases List.mem_singleton.mp hclose
    exact ⟨"green", hgreen, Or.inr rfl⟩

/-- The markup of a diagnostic brings no other tags if its rule name holds no bracket. -/
theorem ownMarkup_rowMarkup {d : Diagnostic} (hrule : '[' ∉ d.ruleId.toList) :
    ∀ cs ∈ rowMarkup d, OwnMarkup cs := by
  have hlabel := ownMarkup_tagged (severityTag_mem d.severity) (isPlain_label d.severity) []
  rw [show Markup.escape [] = [] from rfl, List.append_nil] at hlabel
  simp only [rowMarkup, List.forall_mem_cons]
  refine ⟨?_, hlabel, ownMarkup_escape _, ownMarkup_bracketless hrule, List.forall_mem_nil _⟩
  exact ownMarkup_bracketless fun hmem => (isPlain_position d.location _ hmem).2 rfl

/-- The markup of a path holds the tags around it and no others. -/
theorem ownMarkup_path (path : Path) :
    OwnMarkup (tagged "underline" (Markup.escape path.text.toList)) := by
  have hlead : Markup.IsPlain [] := fun c hc => absurd hc List.not_mem_nil
  exact ownMarkup_tagged (by simp [reportTags]) hlead path.text.toList

/-- The markup of the summary holds the tags around it and no others. -/
theorem ownMarkup_summary (r : LintResult) :
    OwnMarkup (tagged (summarySign r).1
      ((summarySign r).2.toList ++ Markup.escape (summary r).toList)) := by
  obtain ⟨htag, hsign⟩ := tag_and_sign (summarySign_mem r)
  exact ownMarkup_tagged htag (fun c hc => isPlain_signLetters c (hsign c hc)) _

/-! ## Links -/

/-- A style that leads nowhere. -/
def Linkless (style : Style) : Prop := style.link = none

/-- Adding styles makes no link. -/
theorem styleRule_linkless : StyleRule Linkless where
  plain := rfl
  add ha hb := by
    rw [Linkless, Style.add, ha, hb]
    rfl

/-- No tag of reports is a link. -/
theorem linkless_of_isOwnTag {tag : List Char} (h : IsOwnTag tag) (start : Nat) :
    Linkless (Markup.Open.ofTag start tag).style := by
  have hcheck : ∀ name ∈ reportTags,
      (Markup.Open.ofTag 0 name.toList).style.link = none ∧
        (Markup.Open.ofTag 0 ('/' :: name.toList)).style.link = none := by
    decide +kernel
  obtain ⟨name, hname, rfl | rfl⟩ := h
  · exact (hcheck name hname).1
  · exact (hcheck name hname).2

theorem linkless_columns : ∀ c ∈ columns, Linkless c.style := by
  simp only [columns, List.forall_mem_cons]
  exact ⟨rfl, rfl, rfl, rfl, List.forall_mem_nil _⟩

/-- Markup with the tags of reports holds no link. -/
theorem linkless_readMarkup [Host] {cs : List Char} (h : OwnMarkup cs) {text : StyledText}
    (hread : readMarkup cs = .ok text) : text.AllStyles Linkless :=
  Markup.allStyles_render (mapError_eq_ok_iff.mp hread)
    fun tag position hmem => linkless_of_isOwnTag (h tag position hmem)

end EnvLint.Report
