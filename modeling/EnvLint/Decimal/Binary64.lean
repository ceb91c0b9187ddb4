import EnvLint.Decimal.Rounding

/-! # Double-precision numbers

    A decimal numeral with a point or an exponent stands for the nearest
    double-precision number.  Such a number is kept exactly, as a whole
    mantissa times a power of two, so that reading and printing it is exact
    arithmetic on natural numbers. -/

namespace EnvLint.Decimal

/-- A double-precision number.  A finite one is `mantissa * 2 ^ exponent` with
    `mantissa < 2 ^ 53`, and `mantissa ≥ 2 ^ 52` unless `exponent = -1074`. -/
inductive Binary64 where
  /-- Not a number. -/
  | nan
  /-- Beyond the largest finite number. -/
  | infinite (negative : Bool)
  /-- A finite number, zero included. -/
  | finite (negative : Bool) (mantissa : Nat) (exponent : Int)
deriving DecidableEq, Repr, Inhabited

namespace Binary64

/-- Zero with a sign. -/
def zero (negative : Bool) : Binary64 := .finite negative 0 (-1074)

/-- Whether the number is zero. -/
def isZero : Binary64 → Bool
  | .finite _ m _ => m == 0
  | _ => false

/-- The least mantissa of a normal number, `2 ^ 52`. -/
def leastNormal : Nat := 0x10000000000000

/-- The bound of mantissas, `2 ^ 53`. -/
def mantissaBound : Nat := 0x20000000000000

/-- `num / den / 2 ^ e` as a quotient of natural numbers. -/
def scaled (num den : Nat) (e : Int) : Nat × Nat :=
  if 0 ≤ e then (num, den * Nat.pow 2 e.toNat) else (num * Nat.pow 2 (-e).toNat, den)

/-- The double-precision number nearest to `num / den`, a half going to the even
    mantissa; both numbers are positive. -/
def ofQuotient (negative : Bool) (num den : Nat) : Binary64 :=
  let guess := max (-1074) (Int.ofNat num.log2 - Int.ofNat den.log2 - 53)
  let low := scaled num den guess
  let e := if low.1 / low.2 ≥ mantissaBound then guess + 1 else guess
  let exact := scaled num den e
  let m := roundHalfEven exact.1 exact.2
  let (m, e) := if m = mantissaBound then (leastNormal, e + 1) else (m, e)
  if e > 971 then .infinite negative else .finite negative m e

/-- The double-precision number nearest to `digits * 10 ^ exponent`.  Powers far
    outside the range are settled by counting digits. -/
def ofDecimal (negative : Bool) (digits : Nat) (exponent : Int) : Binary64 :=
  if digits = 0 then zero negative
  else
    let magnitude := Int.ofNat (digitsOf digits).length + exponent
    if magnitude > 310 then .infinite negative
    else if magnitude < -330 then zero negative
    else if 0 ≤ exponent then ofQuotient negative (digits * Nat.pow 10 exponent.toNat) 1
    else ofQuotient negative digits (Nat.pow 10 (-exponent).toNat)

end Binary64

end EnvLint.Decimal
