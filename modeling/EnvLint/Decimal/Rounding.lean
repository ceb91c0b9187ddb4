/-! # Rounding

    Quotients of natural numbers rounded to the nearest whole number, a half
    going to the even neighbour. -/

namespace EnvLint.Decimal

/-- `num / den` rounded to the nearest whole number, a half to the even
    neighbour. -/
def roundHalfEven (num den : Nat) : Nat :=
  let q := num / den
  let r := num % den
  if 2 * r < den then q
  else if den < 2 * r then q + 1
  else if q % 2 = 0 then q
  else q + 1

/-- Decimal digits of a natural number, most significant first. -/
def digitsOf (n : Nat) : List Char :=
  Nat.toDigits 10 n

/-- Reads decimal digits, most significant first. -/
def ofDigits (ds : List Char) : Nat :=
  ds.foldl (fun n d => 10 * n + (d.toNat - 48)) 0

/-- Pads digits on the left with zeros to a least width. -/
def padZeros (width : Nat) (ds : List Char) : List Char :=
  List.replicate (width - ds.length) '0' ++ ds

end EnvLint.Decimal
