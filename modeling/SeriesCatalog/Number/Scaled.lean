/-
Reading a decimal in the way of a quick reader: as many leading digits as fit 64 bits form a whole
number, which is scaled by powers of ten up to `10 ^ 308`, each step rounded to the nearest double.
Digits that no longer fit only move the point (before it) or are passed over (behind it). The result
is the nearest double for up to fifteen digits and moderate exponents and may be off by one unit in
the last place otherwise.
-/
import SeriesCatalog.Number.Double
import SeriesCatalog.Number.Bounded

namespace SeriesCatalog.Double

/-- A number part way through being read: `significand · 10 ^ exponent`. -/
structure Decimal where
  significand : Nat := 0
  exponent : Int := 0
  deriving DecidableEq, Repr

/-- The digits before the point. The first that does not fit, and all after it, move the point. -/
def Decimal.whole : Decimal → List Nat → Decimal
  | n, [] => n
  | n, d :: ds =>
    if n.significand * 10 + d ≤ Bounded.max64 then
      whole { n with significand := n.significand * 10 + d } ds
    else { n with exponent := n.exponent + (ds.length + 1) }

/-- The digits behind the point. The first that does not fit, and all after it, are passed over. -/
def Decimal.fraction : Decimal → List Nat → Decimal
  | n, [] => n
  | n, d :: ds =>
    if n.significand * 10 + d ≤ Bounded.max64 then
      fraction ⟨n.significand * 10 + d, n.exponent - 1⟩ ds
    else n

/-- The double nearest to a power of ten up to `10 ^ 308`. -/
def tenPower (n : Nat) : Double := (ofRatio false (Nat.pow 10 n) 1).getD (zero false)

/-- The double scaled by a power of ten, in at most two divisions; none if it grows past the greatest
double. A significand of 64 bits is gone after two divisions by `10 ^ 308`. -/
def scale (x : Double) (e : Int) : Option Double :=
  if 308 < e then if x.isZero then some x else none
  else if 0 ≤ e then x.times (tenPower e.toNat)
  else if -308 ≤ e then x.quotient (tenPower (-e).toNat)
  else if -616 ≤ e then (x.quotient (tenPower 308)).bind (·.quotient (tenPower (-e - 308).toNat))
  else some (zero x.negative)

/-- The greatest exponent that a number may spell without overflow. -/
def maxSpelledExponent : Nat := 0x7fffffff

/-- The double that a decimal spells: its sign, its digits before and behind the point, and its
exponent. None if it is too large. -/
def read (negative : Bool) (whole fraction : List Nat) (exponent : Int) : Option Double :=
  let n := (Decimal.whole {} whole).fraction fraction
  if maxSpelledExponent < exponent.natAbs then
    if 0 < exponent ∧ n.significand ≠ 0 then none else some (zero negative)
  else
    ((ofNat n.significand).bind (scale · (n.exponent + exponent))).map fun x =>
      { x with negative := negative }

end SeriesCatalog.Double
