import EnvLint.Pattern.Node
import EnvLint.Text.Blank
import EnvLint.Text.Case
import EnvLint.Text.Letters

/-! # Testing characters

    Whether a character belongs to a class or a set, and what changes where case
    is ignored: the character is lowered first, and a member stands for every
    lowercase letter that shares a case form with it. -/

namespace EnvLint.Pattern

/-- Blanks of ASCII. -/
def isAsciiBlank (c : Char) : Bool :=
  c == ' ' || (9 ≤ c.toNat && c.toNat ≤ 13)

/-- Whether a character is in a class. -/
def Category.holds (ascii : Bool) : Category → Char → Bool
  | .digit, c => if ascii then c.isDigit else Text.isDecimal c
  | .space, c => if ascii then isAsciiBlank c else Text.isBlank c
  | .word, c => (if ascii then c.isAlphanum else Text.isAlphanumeric c) || c == '_'

/-- Lowercase of a code point by the rules in force. -/
def Scope.lower (scope : Scope) (c : Nat) : Nat :=
  if scope.ascii then Text.lowerPointAscii c else Text.lowerPoint c

/-- The lowercase letters that share a case form with a lowercase letter. -/
def Scope.siblings (scope : Scope) (c : Nat) : List Nat :=
  if scope.ascii then [c] else Text.caseSiblings c

/-- The code points whose lowercase is `c`, by the rules in force. -/
def Scope.sources (scope : Scope) (c : Nat) : List Nat :=
  if scope.ascii then
    (if 65 ≤ c && c ≤ 90 then [] else [c]) ++ (if 97 ≤ c && c ≤ 122 then [c - 32] else [])
  else Text.lowerSources c

/-- The first code point beyond the basic plane. -/
def planeEnd : Nat := 0x10000

/-- The first code point beyond ASCII. -/
def asciiEnd : Nat := 0x80

/-- Whether a lowered code point is covered by a member of a set where case is
    ignored.  Beyond the basic plane a single code point is compared as it is
    written, and a range also covers what its code points are lowered to, ASCII
    apart. -/
def Member.coversLowered (scope : Scope) (y : Nat) : Member → Bool
  | .point c =>
      if scope.lower c < planeEnd then (scope.siblings (scope.lower c)).contains y else y == c
  | .range low high =>
      let basic := (scope.siblings y).any fun z =>
        (scope.sources z).any fun i => low ≤ i && i ≤ high && i < planeEnd
      let beyond := high ≥ planeEnd &&
        ((low ≤ y && y ≤ high) ||
          (y ≥ asciiEnd && (Text.lowerSources y).any fun i => low ≤ i && i ≤ high))
      basic || beyond
  | .category negated k => k.holds scope.ascii (Char.ofNat y) != negated

/-- Whether a character is covered by a member of a set where case counts. -/
def Member.covers (scope : Scope) (c : Char) : Member → Bool
  | .point p => c.toNat == p
  | .range low high => low ≤ c.toNat && c.toNat ≤ high
  | .category negated k => k.holds scope.ascii c != negated

/-- Whether a character is in a set. -/
def inSet (scope : Scope) (members : List Member) (c : Char) : Bool :=
  if scope.ignoreCase then
    members.any (·.coversLowered scope (scope.lower c.toNat))
  else members.any (·.covers scope c)

/-- Whether a character stands for a code point. -/
def samePoint (scope : Scope) (p : Nat) (c : Char) : Bool :=
  if scope.ignoreCase then
    (scope.siblings (scope.lower p)).contains (scope.lower c.toNat)
  else c.toNat == p

/-- Whether two characters of a repeated text are the same. -/
def sameChar (scope : Scope) (a b : Char) : Bool :=
  if scope.ignoreCase then scope.lower a.toNat == scope.lower b.toNat else a == b

/-- Whether a character is part of a word. -/
def isWordChar (scope : Scope) (c : Char) : Bool := Category.word.holds scope.ascii c

end EnvLint.Pattern
