import EnvLint.Text.CodeSet

/-! # Blanks

    White space in the wide Unicode sense: the separators, the ASCII blanks and
    the four information separators U+001C to U+001F. -/

namespace EnvLint.Text

/-- White-space code points. -/
def blankPoints : CodeSet where
  flips := [
    9, 14, 28, 33, 133, 134, 160, 161, 5760, 5761, 8192, 8203, 8232, 8234, 8239, 8240, 8287, 8288, 12288, 12289]

/-- Whether `c` is white space. -/
def isBlank (c : Char) : Bool :=
  blankPoints.contains c.toNat

/-- Drops white space on the left. -/
def trimLeft (cs : List Char) : List Char :=
  cs.dropWhile isBlank

/-- Drops white space on the right. -/
def trimRight (cs : List Char) : List Char :=
  (cs.reverse.dropWhile isBlank).reverse

/-- Drops white space at both ends. -/
def trim (cs : List Char) : List Char :=
  trimRight (trimLeft cs)

/-- The words of a text: its maximal runs without white space. -/
def words (cs : List Char) : List (List Char) :=
  (cs.splitBy fun a b => isBlank a == isBlank b).filter fun run => !run.any isBlank

end EnvLint.Text
