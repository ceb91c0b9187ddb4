import EnvLint.Text.Blank
import EnvLint.Text.Letters

/-! # Whole numerals

    A numeral that a user writes: blanks around it, a sign in front, decimal
    digits of any script, and single underscores between digits. -/

namespace EnvLint.Decimal

/-- The most digits that a numeral may have. -/
def maxNumeralDigits : Nat := 4300

/-- Blanks around a numeral: those of ASCII without the information separators,
    and all others. -/
def isNumeralBlank (c : Char) : Bool :=
  Text.isBlank c && !(28 ≤ c.toNat && c.toNat ≤ 31)

/-- Drops blanks around a numeral. -/
def trimNumeral (cs : List Char) : List Char :=
  ((cs.dropWhile isNumeralBlank).reverse.dropWhile isNumeralBlank).reverse

/-- Values of digits with single underscores between them, the first one a digit. -/
def readDigits? : List Char → Option (List Nat)
  | [] => none
  | [d] => (Text.decimalValue? d).map ([·])
  | d :: '_' :: rest => do
      let v ← Text.decimalValue? d
      let vs ← readDigits? rest
      some (v :: vs)
  | d :: rest => do
      let v ← Text.decimalValue? d
      let vs ← readDigits? rest
      some (v :: vs)

/-- Reads digits without a sign. -/
def readNat? (cs : List Char) : Option Nat := do
  let ds ← readDigits? cs
  if ds.length > maxNumeralDigits then none
  else some (ds.foldl (fun n d => 10 * n + d) 0)

/-- Reads a whole numeral; none if the text is no numeral or too long. -/
def readInt? (cs : List Char) : Option Int :=
  match trimNumeral cs with
  | '-' :: ds => (readNat? ds).map fun n => -(Int.ofNat n)
  | '+' :: ds => (readNat? ds).map Int.ofNat
  | ds => (readNat? ds).map Int.ofNat

end EnvLint.Decimal
