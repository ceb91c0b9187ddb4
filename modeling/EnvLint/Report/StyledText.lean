import EnvLint.Report.TextRun

/-! # Styled texts

    A text with styled stretches, and how it is laid out in lines: tabs become
    blanks, long lines are broken between words or cut, and each line becomes
    runs of one style. -/

namespace EnvLint.Report

/-- A styled stretch of a text, from one character to another. -/
structure Span where
  /-- First character. -/
  start : Nat
  /-- First character after it. -/
  stop : Nat
  /-- Style of the stretch. -/
  style : Style
deriving DecidableEq, Repr

/-- A text with styled stretches. -/
structure StyledText where
  /-- Characters. -/
  chars : List Char
  /-- Stretches; of two that overlap the later one wins. -/
  spans : List Span
deriving DecidableEq, Repr

namespace StyledText

/-- A text without styles. -/
def ofChars (cs : List Char) : StyledText := ⟨cs, []⟩

/-- The part of a text from one character to another; empty stretches are lost. -/
def slice (r : StyledText) (start stop : Nat) : StyledText where
  chars := (r.chars.take stop).drop start
  spans := r.spans.filterMap fun s =>
    let a := max s.start start
    let b := min s.stop stop
    if a < b then some ⟨a - start, b - start, s.style⟩ else none

/-- The parts of a text from a place on, cut at increasing places. -/
def cutFrom (r : StyledText) (start : Nat) : List Nat → List StyledText
  | [] => [r.slice start r.chars.length]
  | place :: places => r.slice start place :: cutFrom r place places

/-- Cuts a text at increasing places; without any it stays as it is. -/
def cutAt (r : StyledText) : List Nat → List StyledText
  | [] => [r]
  | places => r.cutFrom 0 places

/-- The lines of a text, without the line feeds; one at the end adds an empty line. -/
def lines (r : StyledText) : List StyledText :=
  if r.chars.contains '\n' then
    let ends := (r.chars.zipIdx.filter fun c => c.1 == '\n').map Prod.snd
    let starts := 0 :: ends.map (· + 1)
    (starts.zip (ends ++ [r.chars.length])).map fun range => r.slice range.1 range.2
  else [r]

/-- One text after another. -/
def append (a b : StyledText) : StyledText where
  chars := a.chars ++ b.chars
  spans := a.spans ++ b.spans.map fun s =>
    ⟨s.start + a.chars.length, s.stop + a.chars.length, s.style⟩

/-- Replaces a tab at the end of a piece that starts at a cell by blanks up to the
    next multiple of eight; styles that reach the tab reach over the blanks. -/
def widenTab (start : Nat) (r : StyledText) : StyledText :=
  match r.chars.getLast? with
  | some '\t' =>
      let body := r.chars.dropLast ++ [' ']
      let used := (start + Text.cells body) % 8
      let more := if used = 0 then 0 else 8 - used
      { chars := body ++ List.replicate more ' '
        spans := r.spans.map fun s =>
          if s.stop ≥ r.chars.length then { s with stop := s.stop + more } else s }
  | _ => r

/-- Puts pieces together, widening their tabs. -/
def joinTabs (done : StyledText) (start : Nat) : List StyledText → StyledText
  | [] => done
  | piece :: pieces =>
      let wide := widenTab start piece
      joinTabs (done.append wide) (start + Text.cells wide.chars) pieces

/-- Replaces tabs by blanks. -/
def expandTabs (r : StyledText) : StyledText :=
  if r.chars.contains '\t' then
    let places := (r.chars.zipIdx.filter fun c => c.1 == '\t').map fun c => c.2 + 1
    let places := if r.chars.getLast? == some '\t' then places.dropLast else places
    joinTabs (ofChars []) 0 (r.cutFrom 0 places)
  else r

/-- Sets the characters of a text; styles reach no further than before, and no further
    than the text. -/
def withChars (r : StyledText) (cs : List Char) : StyledText :=
  if cs.length < r.chars.length then
    ⟨cs, r.spans.filterMap fun s =>
      if s.start < cs.length then some { s with stop := min s.stop cs.length } else none⟩
  else ⟨cs, r.spans⟩

/-- Drops blanks at the end that lie beyond a number of characters. -/
def trimBeyond (width : Nat) (r : StyledText) : StyledText :=
  let blank := (r.chars.reverse.takeWhile Text.isBlank).length
  if r.chars.length > width then
    r.withChars (r.chars.take (r.chars.length - min blank (r.chars.length - width)))
  else r

/-- What happens to a line that is too long. -/
inductive Overflow where
  /-- It is broken over lines. -/
  | fold
  /-- It ends in an ellipsis. -/
  | ellipsis
deriving DecidableEq, Repr

/-- Cuts a line that is too long. -/
def crop (overflow : Overflow) (width : Nat) (r : StyledText) : StyledText :=
  if Text.cells r.chars > width then
    match overflow with
    | .fold => r.withChars (Text.fitCells width r.chars)
    | .ellipsis => r.withChars (Text.fitCells (width - 1) r.chars ++ ['…'])
  else r

/-- Fills a line to a width. -/
def pad (width : Nat) (r : StyledText) : StyledText :=
  { r with chars := r.chars ++ List.replicate (width - Text.cells r.chars) ' ' }

/-- The lines of a text in a width, broken if they may be. -/
def wrap (overflow : Overflow) (width : Nat) (r : StyledText) : List StyledText :=
  r.lines.flatMap fun line =>
    let line := line.expandTabs
    let parts := match overflow with
      | .fold => line.cutAt (Text.breaks width line.chars)
      | .ellipsis => [line]
    parts.map fun part => (part.trimBeyond width).crop overflow width

/-- The places where the style of a text may change, in order. -/
def edges (r : StyledText) : List Nat :=
  ((0 :: r.chars.length :: r.spans.flatMap fun s => [s.start, s.stop]).mergeSort).eraseDups

/-- The style from one edge to the next. -/
def styleAt (r : StyledText) (start stop : Nat) : Style :=
  (r.spans.filter fun s => s.start ≤ start && stop ≤ s.stop).foldl
    (fun style s => style.add s.style) .plain

/-- A line as runs, cut where styles change. -/
def runs (r : StyledText) : Line :=
  (r.edges.zip (r.edges.drop 1)).map fun e =>
    ⟨(r.chars.take e.2).drop e.1, r.styleAt e.1 e.2⟩

/-- The longest line of a text in cells.  Here line breaks are those of every kind. -/
def longest (r : StyledText) : Nat :=
  let isBreak := fun c : Char =>
    c == '\n' || ('\x1c' ≤ c && c ≤ '\x1e') || c == '\x85' || c == '\u2028' || c == '\u2029'
  ((r.chars.splitOnP isBreak).map Text.cells).foldl max 0

end StyledText

end EnvLint.Report
