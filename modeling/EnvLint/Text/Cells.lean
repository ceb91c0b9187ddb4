import EnvLint.Text.Blank
import EnvLint.Text.Width

/-! # Cells

    The width of a text on a terminal, and cutting a text by width.  Characters
    that take no cells belong to the character before them, a joiner also binds
    the character after it, and a variation selector 16 widens a narrow emoji. -/

namespace EnvLint.Text

/-- Binds two characters into one. -/
def joiner : Char := '\u200d'

/-- Asks for the emoji form of the character before it. -/
def emojiSelector : Char := '\ufe0f'

/-- How many cells a selector adds to the last character that takes any. -/
def selectorGain : Option Char → Nat
  | some c => if emojiWidenedPoints.contains c.toNat then 1 else 0
  | none => 0

/-- Cells of a text, after a last character that takes cells. -/
def cellsAfter (last : Option Char) : List Char → Nat
  | [] => 0
  | c :: cs =>
      if c = joiner then
        match cs with
        | [] => 0
        | _ :: rest => cellsAfter last rest
      else if c = emojiSelector then selectorGain last + cellsAfter none cs
      else if charCells c = 0 then cellsAfter last cs
      else charCells c + cellsAfter (some c) cs

/-- Cells that a text takes. -/
def cells (cs : List Char) : Nat := cellsAfter none cs

/-- Characters that are shown as one, and their cells. -/
structure Cluster where
  /-- The characters. -/
  chars : List Char
  /-- The cells they take. -/
  cells : Nat
deriving DecidableEq, Repr

/-- Adds a character to the last of the clusters, which are given last one first. -/
def extendLast (c : List Char) (gain : Nat) : List Cluster → List Cluster
  | [] => [⟨c, gain⟩]
  | last :: done => ⟨last.chars ++ c, last.cells + gain⟩ :: done

/-- Clusters of a text, after those that are done, last one first. -/
def clustersAfter (last : Option Char) (done : List Cluster) : List Char → List Cluster
  | [] => done.reverse
  | c :: cs =>
      if c = joiner && !done.isEmpty then
        match cs with
        | [] => clustersAfter last (extendLast [c] 0 done) []
        | d :: rest => clustersAfter last (extendLast [c, d] 0 done) rest
      else if c = emojiSelector && !done.isEmpty then
        let gain := selectorGain last
        clustersAfter (if gain = 0 then last else none) (extendLast [c] gain done) cs
      else if c = joiner || c = emojiSelector || charCells c = 0 then
        clustersAfter last (extendLast [c] 0 done) cs
      else clustersAfter (some c) (⟨[c], charCells c⟩ :: done) cs

/-- Clusters of a text. -/
def clusters (cs : List Char) : List Cluster := clustersAfter none [] cs

/-- The first clusters that fit into some cells; a wide one that fits by half is
    replaced by a blank. -/
def takeCells : (width : Nat) → List Cluster → List Char
  | _, [] => []
  | width, c :: cs =>
      if width = 0 then []
      else if c.cells ≤ width then c.chars ++ takeCells (width - c.cells) cs
      else [' ']

/-- Cuts or fills a text to a width. -/
def fitCells (width : Nat) (cs : List Char) : List Char :=
  if cells cs ≤ width then cs ++ List.replicate (width - cells cs) ' '
  else takeCells width (clusters cs)

/-- Cuts clusters into lines of a width; `line` holds the characters of the current
    line, which take `used` cells. -/
def foldClusters (width : Nat) (line : List Char) (used : Nat) :
    List Cluster → List (List Char)
  | [] => if used = 0 then [] else [line]
  | c :: cs =>
      if used + c.cells > width then line :: foldClusters width c.chars c.cells cs
      else foldClusters width (line ++ c.chars) (used + c.cells) cs

/-- Cuts a text into lines of a width. -/
def foldCells (width : Nat) (cs : List Char) : List (List Char) :=
  foldClusters width [] 0 (clusters cs)

/-- The first word with the blanks around it, and the rest. -/
def nextWord (cs : List Char) : Option (List Char × List Char) :=
  let lead := cs.takeWhile isBlank
  let rest := cs.drop lead.length
  let core := rest.takeWhile fun c => !isBlank c
  let after := rest.drop core.length
  let trail := after.takeWhile isBlank
  if core.isEmpty then none else some (lead ++ core ++ trail, after.drop trail.length)

/-- The words of a text, each with the blanks after it; at most `fuel` of them. -/
def spacedWords : (fuel : Nat) → List Char → List (List Char)
  | 0, _ => []
  | fuel + 1, cs =>
      match nextWord cs with
      | none => []
      | some (word, rest) => word :: spacedWords fuel rest

/-- Where a text is broken: the next word's start, the cells used on the line, and
    the breaks so far, last one first. -/
structure Breaks where
  /-- Start of the next word. -/
  start : Nat
  /-- Cells used on the line. -/
  used : Nat
  /-- Breaks so far, last one first. -/
  found : List Nat
deriving DecidableEq, Repr

namespace Breaks

/-- Breaks at a place, unless it is the start of the text. -/
def cut (b : Breaks) (place : Nat) : List Nat := if place = 0 then b.found else place :: b.found

/-- Breaks a word over lines. -/
def fold (b : Breaks) : List (List Char) → Breaks
  | [] => b
  | [line] => { b with used := cells line, found := b.cut b.start }
  | line :: lines => fold { b with start := b.start + line.length, found := b.cut b.start } lines

/-- Takes a word: it stays on the line if it fits, goes to the next line if it fits
    there, and is broken otherwise. -/
def take (width : Nat) (b : Breaks) (word : List Char) : Breaks :=
  let length := cells (trimRight word)
  let next := b.start + word.length
  if b.used + length ≤ width then { b with start := next, used := b.used + cells word }
  else if length > width then { b.fold (foldCells width word) with start := next }
  else if b.used ≠ 0 && b.start ≠ 0 then ⟨next, cells word, b.cut b.start⟩
  else { b with start := next }

end Breaks

/-- Where a line is broken so that it fits into a width. -/
def breaks (width : Nat) (cs : List Char) : List Nat :=
  ((spacedWords cs.length cs).foldl (Breaks.take width) ⟨0, 0, []⟩).found.reverse

end EnvLint.Text
