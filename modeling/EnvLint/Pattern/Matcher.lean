import EnvLint.Pattern.CharTest

/-! # Matchers

    A matcher tries to go on from a place in a text; what follows it is given as
    a continuation, so that a choice can be taken back when the rest fails.  The
    combinators below are the meanings of the node kinds.

    A loop never starts a round, beyond the ones it needs, at the place where the
    round before it started.  Rounds only move forward, so a loop makes at most
    two more rounds than it needs and than there are characters left. -/

namespace EnvLint.Pattern

/-- The text that a group matched, and where it ended. -/
structure Capture where
  /-- Number of the group. -/
  index : Nat
  /-- Offset of its end. -/
  stop : Nat
  /-- The text. -/
  text : List Char
deriving DecidableEq, Repr

/-- What the groups have matched so far. -/
structure Groups where
  /-- Matched texts, latest first. -/
  captured : List Capture
  /-- Groups that were entered, with the offset, latest first. -/
  entered : List (Nat × Nat)
deriving DecidableEq, Repr

namespace Groups

/-- No group was entered. -/
def none : Groups := ⟨[], []⟩

/-- Enters a group at an offset. -/
def enter (g : Groups) (index offset : Nat) : Groups :=
  { g with entered := (index, offset) :: g.entered }

/-- Leaves a group. -/
def leave (g : Groups) (c : Capture) : Groups :=
  { g with captured := c :: g.captured }

/-- The latest match of a group. -/
def capture? (g : Groups) (index : Nat) : Option Capture :=
  g.captured.find? fun c => c.index == index

/-- Whether a group has matched.  Inside of a group that was entered again, its
    last match counts as long as it ended no earlier than the group was entered. -/
def has (g : Groups) (index : Nat) : Bool :=
  match g.capture? index, g.entered.find? fun e => e.1 == index with
  | some c, some e => e.2 ≤ c.stop
  | _, _ => false

end Groups

/-- A place in a text and what the groups have matched so far. -/
structure Place where
  /-- Characters before the place, last one first. -/
  before : List Char
  /-- Characters after the place. -/
  after : List Char
  /-- What the groups have matched. -/
  groups : Groups
deriving DecidableEq, Repr

namespace Place

/-- How far the place is from the start. -/
def offset (p : Place) : Nat := p.before.length

/-- Moves back by some characters; none if there are too few. -/
def back? (p : Place) (n : Nat) : Option Place :=
  if n ≤ p.before.length then
    some { p with before := p.before.drop n, after := (p.before.take n).reverse ++ p.after }
  else none

/-- Whether an anchor holds at a place. -/
def meets (p : Place) (scope : Scope) : Anchor → Bool
  | .start => p.before.isEmpty || (scope.multiline && p.before.head? == some '\n')
  | .stop =>
      p.after.isEmpty || p.after == ['\n'] || (scope.multiline && p.after.head? == some '\n')
  | .textStart => p.before.isEmpty
  | .textEnd => p.after.isEmpty
  | .boundary => atEdge p
  | .nonBoundary => !(p.before.isEmpty && p.after.isEmpty) && !atEdge p
where
  /-- Whether exactly one neighbour is part of a word. -/
  atEdge (p : Place) : Bool :=
    p.before.head?.any (isWordChar scope) != p.after.head?.any (isWordChar scope)

end Place

/-- Tries to go on from a place, given what follows. -/
abbrev Matcher : Type := Place → (Place → Option Place) → Option Place

namespace Matcher

/-- Goes on without consuming. -/
def empty : Matcher := fun p k => k p

/-- Consumes one character that passes a test. -/
def one (test : Char → Bool) : Matcher := fun p k =>
  match p.after with
  | c :: rest => if test c then k { p with before := c :: p.before, after := rest } else none
  | [] => none

/-- Goes on where an anchor holds. -/
def anchor (scope : Scope) (a : Anchor) : Matcher := fun p k =>
  if p.meets scope a then k p else none

/-- One matcher after another. -/
def cat (a b : Matcher) : Matcher := fun p k => a p fun q => b q k

/-- One matcher, or else another. -/
def alt (a b : Matcher) : Matcher := fun p k => (a p k).or (b p k)

/-- The final place of a matcher taken by itself. -/
def alone (m : Matcher) (p : Place) : Option Place := m p some

/-- Remembers the text that a matcher consumes. -/
def capture (index : Nat) (m : Matcher) : Matcher := fun p k =>
  m { p with groups := p.groups.enter index p.offset } fun q =>
    let text := p.after.take (p.after.length - q.after.length)
    k { q with groups := q.groups.leave ⟨index, q.offset, text⟩ }

/-- Takes the first way through a matcher once and for all. -/
def atomic (m : Matcher) : Matcher := fun p k => (m.alone p).bind k

/-- Looks ahead without consuming; what groups match inside is kept. -/
def ahead (m : Matcher) : Matcher := fun p k =>
  (m.alone p).bind fun q => k { p with groups := q.groups }

/-- Goes on where a matcher fails. -/
def notAhead (m : Matcher) : Matcher := fun p k =>
  match m.alone p with
  | some _ => none
  | none => k p

/-- Looks at the last `width` characters. -/
def behind (width : Nat) (m : Matcher) : Matcher := fun p k =>
  ((p.back? width).bind m.alone).bind fun q => k { p with groups := q.groups }

/-- Goes on where a matcher fails on the last `width` characters. -/
def notBehind (width : Nat) (m : Matcher) : Matcher := fun p k =>
  match (p.back? width).bind m.alone with
  | some _ => none
  | none => k p

/-- Consumes given characters up to equality. -/
def text (same : Char → Char → Bool) : List Char → Matcher
  | [] => empty
  | c :: cs => (one (same c)).cat (text same cs)

/-- Consumes the text that a group has matched. -/
def same (scope : Scope) (index : Nat) : Matcher := fun p k =>
  match p.groups.capture? index with
  | some c => text (sameChar scope) c.text p k
  | none => none

/-- One of two matchers, depending on whether a group has matched. -/
def cond (index : Nat) (yes no : Matcher) : Matcher := fun p k =>
  if p.groups.has index then yes p k else no p k

/-- Where a loop stands: rounds that it still needs, rounds that it may still make
    if they are bounded, and where the last free round started. -/
structure Loop where
  /-- Rounds still needed. -/
  need : Nat
  /-- Rounds still allowed. -/
  room : Option Nat
  /-- Offset where the last free round started. -/
  last : Option Nat

namespace Loop

/-- Whether a round may start at a place. -/
def mayGo (l : Loop) (p : Place) : Bool :=
  l.room != some 0 && l.last != some p.offset

/-- The loop after a needed round. -/
def needed (l : Loop) : Loop := ⟨l.need - 1, l.room.map (· - 1), l.last⟩

/-- The loop after a free round that started at a place. -/
def free (l : Loop) (p : Place) : Loop := ⟨0, l.room.map (· - 1), some p.offset⟩

end Loop

/-- Rounds of a greedy loop: another round first, then what follows. -/
def greedyRounds (m : Matcher) : (fuel : Nat) → Loop → Matcher
  | 0, _ => fun _ _ => none
  | fuel + 1, l => fun p k =>
      if l.need > 0 then m p fun q => greedyRounds m fuel l.needed q k
      else
        (if l.mayGo p then m p fun q => greedyRounds m fuel (l.free p) q k else none).or (k p)

/-- Rounds of a lazy loop: what follows first, then another round. -/
def lazyRounds (m : Matcher) : (fuel : Nat) → Loop → Matcher
  | 0, _ => fun _ _ => none
  | fuel + 1, l => fun p k =>
      if l.need > 0 then m p fun q => lazyRounds m fuel l.needed q k
      else
        (k p).or
          (if l.mayGo p then m p fun q => lazyRounds m fuel (l.free p) q k else none)

/-- Rounds of a possessive loop: each round is final, and so is their number. -/
def possessiveRounds (m : Matcher) : (fuel : Nat) → Loop → Matcher
  | 0, _ => fun _ _ => none
  | fuel + 1, l => fun p k =>
      if l.need > 0 then (m.alone p).bind fun q => possessiveRounds m fuel l.needed q k
      else if l.mayGo p then
        match m.alone p with
        | some q => possessiveRounds m fuel (l.free p) q k
        | none => k p
      else k p

/-- A repeated matcher. -/
def rep (greed : Greed) (least : Nat) (most : Option Nat) (m : Matcher) : Matcher := fun p k =>
  let fuel := least + p.after.length + 2
  let loop : Loop := ⟨least, most, none⟩
  match greed with
  | .greedy => greedyRounds m fuel loop p k
  | .lazy => lazyRounds m fuel loop p k
  | .possessive => possessiveRounds m fuel loop p k

end Matcher

end EnvLint.Pattern
