/-!
# Binary fractions

Scores are read from decimal text, kept with 53 binary digits, and written again with a fixed number
of decimal places. The value kept is exact: a sign, a whole number and a power of two. So rounding
happens twice and in the open, once when a decimal is read and once when places are cut, each time
to the nearest value and to the even one of two that are equally near.

`Binary64.ofDecimal` reads and `Binary64.fixed` writes; `roundHalfEven` is the rule both use.
-/

namespace Advisory

/-- The whole number nearest to `num / den`, the even one if two are equally near. -/
def roundHalfEven (num den : Nat) : Nat :=
  let quotient := num / den
  let rest := num % den
  if 2 * rest > den ∨ (2 * rest = den ∧ quotient % 2 = 1) then quotient + 1 else quotient

/-- A number `± mantissa * 2 ^ exponent`. Zero has a sign, too. -/
structure Binary64 where
  negative : Bool
  mantissa : Nat
  exponent : Int
deriving DecidableEq, Repr

namespace Binary64

/-- The least exponent, that of the smallest positive value. -/
def minExponent : Int := -1074

/-- A fraction divided by `2 ^ e`. -/
def scale (num den : Nat) (e : Int) : Nat × Nat :=
  if e ≥ 0 then (num, den * Nat.pow 2 e.toNat) else (num * Nat.pow 2 (-e).toNat, den)

/-- The exponent with which a positive fraction has 53 binary digits before the point, or the least
exponent if that is greater. -/
def exponentFor (num den : Nat) : Int :=
  let guess : Int := (num.log2 : Int) - den.log2 - 52
  let (n, d) := scale num den guess
  max minExponent (if n < d * Nat.pow 2 52 then guess - 1 else guess)

/-- The value nearest to a fraction; none if it is too large. -/
def ofRatio (negative : Bool) (num den : Nat) : Option Binary64 :=
  if num = 0 then some ⟨negative, 0, minExponent⟩
  else
    let e := exponentFor num den
    let (n, d) := scale num den e
    let m := roundHalfEven n d
    if e > 971 ∨ (e = 971 ∧ m ≥ Nat.pow 2 53) then none else some ⟨negative, m, e⟩

/-- Number of decimal digits. -/
def decimalLength (n : Nat) : Nat := (Nat.toDigits 10 n).length

/-- The value nearest to `significand * 10 ^ power`; none if it is too large. A power far out of
range is settled by the number of digits, before any power of ten is computed. -/
def ofDecimal (negative : Bool) (significand : Nat) (power : Int) : Option Binary64 :=
  let size := (decimalLength significand : Int) + power
  if significand = 0 ∨ size < -400 then some ⟨negative, 0, minExponent⟩
  else if size > 400 then none
  else if power ≥ 0 then ofRatio negative (significand * Nat.pow 10 power.toNat) 1
  else ofRatio negative significand (Nat.pow 10 (-power).toNat)

/-- The value nearest to a whole number; 64-bit integers are never too large. -/
def ofInt (n : Int) : Binary64 :=
  (ofRatio (n < 0) n.natAbs 1).getD ⟨n < 0, 0, minExponent⟩

/-- Fills up with zeros on the left. -/
def padLeft (width : Nat) (digits : List Char) : List Char :=
  List.replicate (width - digits.length) '0' ++ digits

/-- Writes a value with some decimal places, at least one. The sign is that of the value, also where
the digits are all zero. -/
def fixed (places : Nat) (x : Binary64) : String :=
  let (num, den) := scale (x.mantissa * Nat.pow 10 places) 1 (-x.exponent)
  let digits := padLeft (places + 1) (Nat.toDigits 10 (roundHalfEven num den))
  let whole := digits.take (digits.length - places)
  let part := digits.drop (digits.length - places)
  String.ofList ((if x.negative then ['-'] else []) ++ whole ++ ['.'] ++ part)

end Binary64

/-- Scores are written with three places; an absent score is an empty text. -/
def renderScore (score : Option Binary64) : String :=
  match score with
  | some x => x.fixed 3
  | none => ""

end Advisory
