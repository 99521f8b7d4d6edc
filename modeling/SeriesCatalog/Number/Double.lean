/-
Finite binary floating-point numbers of double precision, as a sign, a whole mantissa and a power of
two, with products and quotients rounded once to the nearest number and, half-way between two, to
the even mantissa. All arithmetic is on natural numbers, so nothing is left to a machine.
-/
namespace SeriesCatalog

/-- The number `± mantissa · 2 ^ exponent`. The mantissa is below `2 ^ 53`; it is at least `2 ^ 52`
unless the exponent is the least one, `-1074`. -/
structure Double where
  negative : Bool
  mantissa : Nat
  exponent : Int
  deriving DecidableEq, Repr

namespace Double

/-- The least exponent, that of zero and of the numbers close to it. -/
def minExponent : Int := -1074

/-- The greatest exponent. -/
def maxExponent : Int := 971

/-- Zero, which has either sign. -/
def zero (negative : Bool) : Double := ⟨negative, 0, minExponent⟩

/-- The number is a zero. -/
def isZero (x : Double) : Bool := x.mantissa == 0

/-- The whole number nearest to a quotient; half-way it is the even one. -/
def roundDiv (num den : Nat) : Nat :=
  let q := num / den
  let r := num % den
  if 2 * r < den || (2 * r == den && q % 2 == 0) then q else q + 1

/-- The `k` with `2 ^ k ≤ num / den < 2 ^ (k + 1)`, for positive `num` and `den`. -/
def log2Ratio (num den : Nat) : Int :=
  let k : Int := num.log2 - den.log2
  let reached : Bool := if 0 ≤ k then den * Nat.pow 2 k.toNat ≤ num else den ≤ num * Nat.pow 2 (-k).toNat
  if reached then k else k - 1

/-- The double nearest to `num / den`, or none if that is past the greatest one. -/
def ofRatio (negative : Bool) (num den : Nat) : Option Double :=
  if num = 0 then some (zero negative)
  else
    let e := max (log2Ratio num den - 52) minExponent
    let m := if 0 ≤ e then roundDiv num (den * Nat.pow 2 e.toNat) else roundDiv (num * Nat.pow 2 (-e).toNat) den
    let (m, e) := if m = Nat.pow 2 53 then (Nat.pow 2 52, e + 1) else (m, e)
    if maxExponent < e then none else some ⟨negative, m, e⟩

/-- `ofRatio` of `num / den · 2 ^ e`. -/
def ofScaled (negative : Bool) (num den : Nat) (e : Int) : Option Double :=
  if 0 ≤ e then ofRatio negative (num * Nat.pow 2 e.toNat) den
  else ofRatio negative num (den * Nat.pow 2 (-e).toNat)

/-- The rounded product. -/
def times (x y : Double) : Option Double :=
  ofScaled (x.negative != y.negative) (x.mantissa * y.mantissa) 1 (x.exponent + y.exponent)

/-- The rounded quotient by a number that is not zero. -/
def quotient (x y : Double) : Option Double :=
  ofScaled (x.negative != y.negative) x.mantissa y.mantissa (x.exponent - y.exponent)

/-- The double nearest to a whole number. -/
def ofNat (n : Nat) : Option Double := ofRatio false n 1

/-- The double nearest to `digits · 10 ^ e`, or none if that is past the greatest one. Exponents far
out of range are answered without forming the power. -/
def ofDecimal (digits : Nat) (e : Int) : Option Double :=
  let places : Int := (Nat.toDigits 10 digits).length + e
  if digits = 0 ∨ places < -400 then some (zero false)
  else if 400 < places then none
  else if 0 ≤ e then ofRatio false (digits * Nat.pow 10 e.toNat) 1
  else ofRatio false digits (Nat.pow 10 (-e).toNat)

example : ofRatio false 1 10 = some ⟨false, 7205759403792794, -56⟩ := by decide +kernel
example : ofDecimal 5 (-324) = some ⟨false, 1, -1074⟩ := by decide +kernel
example : ofDecimal 18 307 = none := by decide +kernel
example : ofDecimal 17976931348623157 292 = some ⟨false, Nat.pow 2 53 - 1, 971⟩ := by decide +kernel

end Double

end SeriesCatalog
