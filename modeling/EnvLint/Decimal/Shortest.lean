import EnvLint.Decimal.Binary64

/-! # Shortest decimals

    A double-precision number is written with the fewest digits that read back
    as the same number, the nearest such decimal if there are two.  For one
    digit, two digits and so on, the number's two neighbours on that decimal
    grid are tried; seventeen digits always suffice. -/

namespace EnvLint.Decimal

/-- `digits * 10 ^ exponent`. -/
structure Scientific where
  /-- All digits, as one number. -/
  digits : Nat
  /-- Power of ten of the last digit. -/
  exponent : Int
deriving DecidableEq, Repr

/-- The value `m * 2 ^ e / 10 ^ p` as a quotient of natural numbers. -/
def gridQuotient (m : Nat) (e p : Int) : Nat × Nat :=
  (m * Nat.pow 2 e.toNat * Nat.pow 10 (-p).toNat, Nat.pow 2 (-e).toNat * Nat.pow 10 p.toNat)

/-- The power of ten just above `m * 2 ^ e`, for a positive `m`. -/
def decimalMagnitude (m : Nat) (e : Int) : Int :=
  let whole := gridQuotient m e (-400)
  Int.ofNat (digitsOf (whole.1 / whole.2)).length - 400

/-- The nearer of a number's two neighbours with `n` digits, if one of them reads
    back as the number. -/
def roundTrip? (m : Nat) (e : Int) (n : Nat) : Option Scientific :=
  let p := decimalMagnitude m e - Int.ofNat n
  let (num, den) := gridQuotient m e p
  let low := num / den
  let reads := fun d => decide (Binary64.ofDecimal false d p = .finite false m e)
  let nearest := roundHalfEven num den
  let other := if nearest = low then low + 1 else low
  if reads nearest then some ⟨nearest, p⟩
  else if reads other then some ⟨other, p⟩
  else none

/-- The shortest decimal that reads back as `m * 2 ^ e`, for a positive `m`. -/
def shortest (m : Nat) (e : Int) : Scientific :=
  ((List.range 17).findSome? fun n => roundTrip? m e (n + 1)).getD ⟨m, 0⟩

/-- Decisions of a decimal format: up to which magnitude a number is written
    positionally, and how many digits an exponent has at least. -/
structure NumeralStyle where
  /-- Least magnitude written positionally. -/
  least : Int
  /-- Greatest magnitude written positionally. -/
  most : Int
  /-- Least number of exponent digits. -/
  exponentDigits : Nat

/-- Numbers are written positionally from `0.0001` to below `10 ^ 16`, and
    exponents have two digits at least. -/
def NumeralStyle.standard : NumeralStyle := ⟨-3, 16, 2⟩

/-- Drops zeros at the end of a digit string, one digit at least staying. -/
def dropTrailingZeros (ds : List Char) : List Char :=
  match (ds.reverse.dropWhile (· == '0')).reverse with
  | [] => ['0']
  | kept => kept

/-- Writes a positive decimal: positionally with a point, or as a mantissa with a
    signed exponent. -/
def NumeralStyle.write (style : NumeralStyle) (d : Scientific) : List Char :=
  let all := digitsOf d.digits
  let magnitude := Int.ofNat all.length + d.exponent
  let ds := dropTrailingZeros all
  if style.least ≤ magnitude ∧ magnitude ≤ style.most then
    if magnitude ≤ 0 then
      "0.".toList ++ List.replicate (-magnitude).toNat '0' ++ ds
    else
      let n := magnitude.toNat
      let padded := ds ++ List.replicate (n - ds.length) '0'
      let fraction := padded.drop n
      padded.take n ++ '.' :: (if fraction.isEmpty then ['0'] else fraction)
  else
    let e := magnitude - 1
    let mantissa := match ds with
      | [d] => [d]
      | d :: rest => d :: '.' :: rest
      | [] => []
    mantissa ++ ['e', if e < 0 then '-' else '+']
      ++ padZeros style.exponentDigits (digitsOf e.natAbs)

/-- A double-precision number as text, with `nan` and `inf` for the numbers that
    have no digits. -/
def Binary64.text (x : Binary64) : List Char :=
  match x with
  | .nan => "nan".toList
  | .infinite negative => if negative then "-inf".toList else "inf".toList
  | .finite negative m e =>
      let body := if m = 0 then "0.0".toList else NumeralStyle.standard.write (shortest m e)
      if negative then '-' :: body else body

/-- A whole number as text. -/
def intText (n : Int) : List Char :=
  if n < 0 then '-' :: digitsOf n.natAbs else digitsOf n.natAbs

end EnvLint.Decimal
