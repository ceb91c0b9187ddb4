/-! # Pattern trees

    The tree of a regular expression.  Characters are code points, so a pattern
    may name one that no text holds.  Flags stand only on the groups that set
    them: what a node matches depends on the flags in force around it. -/

namespace EnvLint.Pattern

/-- A flag that a pattern can set. -/
inductive Flag where
  /-- Letters match in either case. -/
  | ignoreCase
  /-- Anchors match at line ends. -/
  | multiline
  /-- The dot matches line feeds. -/
  | dotAll
  /-- Blanks and comments in the pattern are skipped. -/
  | verbose
  /-- Classes and case know ASCII only. -/
  | ascii
  /-- Classes and case know all of Unicode. -/
  | unicode
  /-- Repetition is refused. -/
  | template
deriving DecidableEq, Repr

/-- The flags in force at a place of a pattern, as far as they matter to matching. -/
structure Scope where
  /-- Letters match in either case. -/
  ignoreCase : Bool
  /-- Anchors match at line ends. -/
  multiline : Bool
  /-- The dot matches line feeds. -/
  dotAll : Bool
  /-- Classes and case know ASCII only. -/
  ascii : Bool
deriving DecidableEq, Repr

namespace Scope

/-- No flags. -/
def plain : Scope := ⟨false, false, false, false⟩

/-- The scope inside a group that turns flags on and off. -/
def within (s : Scope) (on off : List Flag) : Scope where
  ignoreCase := (s.ignoreCase || on.contains .ignoreCase) && !off.contains .ignoreCase
  multiline := (s.multiline || on.contains .multiline) && !off.contains .multiline
  dotAll := (s.dotAll || on.contains .dotAll) && !off.contains .dotAll
  ascii := on.contains .ascii || (s.ascii && !on.contains .unicode)

end Scope

/-- A class of characters. -/
inductive Category where
  /-- Decimal digits. -/
  | digit
  /-- White space. -/
  | space
  /-- Letters, numeric characters and the underscore. -/
  | word
deriving DecidableEq, Repr

/-- A member of a character set. -/
inductive Member where
  /-- One code point. -/
  | point (c : Nat)
  /-- All code points from one to another. -/
  | range (low high : Nat)
  /-- A class, or everything outside it. -/
  | category (negated : Bool) (k : Category)
deriving DecidableEq, Repr

/-- A place that matches without consuming. -/
inductive Anchor where
  /-- The start of the text, or of a line. -/
  | start
  /-- The end of the text, before a last line feed or not, or the end of a line. -/
  | stop
  /-- The start of the text. -/
  | textStart
  /-- The end of the text. -/
  | textEnd
  /-- An edge of a word. -/
  | boundary
  /-- A place inside or outside of words. -/
  | nonBoundary
deriving DecidableEq, Repr

/-- Which of its repetitions a loop prefers. -/
inductive Greed where
  /-- As many as possible first. -/
  | greedy
  /-- As few as possible first. -/
  | lazy
  /-- As many as possible, and no others. -/
  | possessive
deriving DecidableEq, Repr

/-- Least and greatest number of characters that a pattern consumes. -/
structure Width where
  /-- The least number. -/
  least : Nat
  /-- The greatest number. -/
  most : Nat
deriving DecidableEq, Repr

/-- A pattern tree. -/
inductive Node where
  /-- Matches without consuming. -/
  | empty
  /-- One code point, or any but that one. -/
  | char (negated : Bool) (c : Nat)
  /-- A member of a set, or any character outside it. -/
  | set (negated : Bool) (members : List Member)
  /-- Any character, line feeds depending on the scope. -/
  | any
  /-- A place. -/
  | anchor (a : Anchor)
  /-- One pattern after another. -/
  | cat (first second : Node)
  /-- One pattern or else another. -/
  | alt (first second : Node)
  /-- A repeated pattern; no upper bound if `most` is none. -/
  | rep (greed : Greed) (least : Nat) (most : Option Nat) (body : Node)
  /-- A numbered group. -/
  | capture (index : Nat) (body : Node)
  /-- A group that sets flags. -/
  | scoped (on off : List Flag) (body : Node)
  /-- A look ahead or behind that has to match, or has to fail. -/
  | look (behind negated : Bool) (body : Node)
  /-- A group that is matched once and for all. -/
  | atomic (body : Node)
  /-- The text that a group matched; its width is that of the group. -/
  | same (index : Nat) (width : Width)
  /-- One of two patterns, depending on whether a group has matched. -/
  | cond (index : Nat) (yes no : Node)
deriving DecidableEq, Repr

namespace Width

/-- Stands for a width without bound. -/
def unbounded : Nat := 0x10000000000000000

/-- Widths are counted up to the bound. -/
def clamp (w : Width) : Width := ⟨min w.least unbounded, min w.most unbounded⟩

/-- Width of one pattern after another. -/
def add (a b : Width) : Width := clamp ⟨a.least + b.least, a.most + b.most⟩

/-- Width of one pattern or another. -/
def join (a b : Width) : Width := ⟨min a.least b.least, max a.most b.most⟩

/-- Width of a repeated pattern. -/
def times (w : Width) (least : Nat) (most : Option Nat) : Width :=
  clamp ⟨w.least * least, match most with
    | some n => w.most * n
    | none => if w.most = 0 then 0 else unbounded⟩

end Width

/-- The width of a pattern. -/
def Node.width : Node → Width
  | .empty | .anchor _ | .look .. => ⟨0, 0⟩
  | .char .. | .set .. | .any => ⟨1, 1⟩
  | .cat a b => a.width.add b.width
  | .alt a b => a.width.join b.width
  | .rep _ least most body => body.width.times least most
  | .capture _ body | .scoped _ _ body | .atomic body => body.width
  | .same _ w => w
  | .cond _ yes no => yes.width.join no.width

end EnvLint.Pattern
