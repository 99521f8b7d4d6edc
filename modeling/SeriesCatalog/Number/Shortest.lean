/-
The shortest decimal text of a double: of all decimals that read back as the number, one with the
fewest digits, and of those the nearest. Numbers that read back are those between the half-way
points to the two neighbours, the points themselves included when the mantissa is even. The text is
positional for decimal exponents from -5 to 15 and scientific otherwise.
-/
import SeriesCatalog.Number.Double

namespace SeriesCatalog.Double

/-! ## The interval of decimals that read back -/

/-- A non-negative rational number. -/
structure Ratio where
  num : Nat
  den : Nat
  deriving DecidableEq, Repr

/-- `n · 2 ^ e`. -/
def Ratio.ofBinary (n : Nat) (e : Int) : Ratio :=
  if 0 ≤ e then ⟨n * Nat.pow 2 e.toNat, 1⟩ else ⟨n, Nat.pow 2 (-e).toNat⟩

/-- `n · 10 ^ p`. -/
def Ratio.ofDecimal (n : Nat) (p : Int) : Ratio :=
  if 0 ≤ p then ⟨n * Nat.pow 10 p.toNat, 1⟩ else ⟨n, Nat.pow 10 (-p).toNat⟩

/-- The order of two ratios. -/
def Ratio.compare (a b : Ratio) : Ordering := Ord.compare (a.num * b.den) (b.num * a.den)

/-- The magnitude of the number. -/
def magnitude (x : Double) : Ratio := .ofBinary x.mantissa x.exponent

/-- Half-way to the neighbour below. The gap below a power of two is half as wide as the one above,
except at the least exponent. -/
def lowerBound (x : Double) : Ratio :=
  let narrow := x.mantissa == Nat.pow 2 52 && decide (minExponent < x.exponent)
  .ofBinary (4 * x.mantissa - if narrow then 1 else 2) (x.exponent - 2)

/-- Half-way to the neighbour above. -/
def upperBound (x : Double) : Ratio := .ofBinary (4 * x.mantissa + 2) (x.exponent - 2)

/-- The decimal reads back as the number. -/
def readsBack (x : Double) (r : Ratio) : Bool :=
  let even := x.mantissa % 2 == 0
  let low := (lowerBound x).compare r
  let high := r.compare (upperBound x)
  (low == .lt || (even && low == .eq)) && (high == .lt || (even && high == .eq))

/-! ## The search -/

/-- The `k` with `10 ^ (k - 1) ≤ num / den < 10 ^ k`, for positive `num` and `den`. -/
def decimalPlaces (r : Ratio) : Int :=
  let k : Int := (Nat.toDigits 10 r.num).length - (Nat.toDigits 10 r.den).length
  if (Ratio.ofDecimal 1 k).compare r == .gt then k else k + 1

/-- Of two neighbours on a decimal grid, the number of grid steps nearest to the ratio `r` among
those that read back; half-way it is the even one. -/
def nearestStep (x : Double) (p : Int) : Option Nat :=
  let r := magnitude x
  let scaled : Ratio :=
    if 0 ≤ p then ⟨r.num, r.den * Nat.pow 10 p.toNat⟩ else ⟨r.num * Nat.pow 10 (-p).toNat, r.den⟩
  let below := scaled.num / scaled.den
  let above := below + 1
  match readsBack x (.ofDecimal below p), readsBack x (.ofDecimal above p) with
  | true, true => some (roundDiv scaled.num scaled.den)
  | true, false => some below
  | false, true => some above
  | false, false => none

/-- The digits and the power of ten of the shortest decimal, trying grids of `n`, `n + 1`, ... digits
for as many grids as are left. -/
def searchDigits (x : Double) (places : Int) (n : Nat) : Nat → Nat × Int
  | 0 => (x.mantissa, x.exponent)
  | left + 1 =>
    match nearestStep x (places - n) with
    | some d => (d, places - n)
    | none => searchDigits x places (n + 1) left

/-- The digits of a positive double, without zeros at the end, and its decimal exponent: the power
of ten of the first digit. Seventeen digits always suffice. -/
def shortest (x : Double) : List Char × Int :=
  let (d, p) := searchDigits x (decimalPlaces (magnitude x)) 1 17
  let digits := Nat.toDigits 10 d
  ((digits.reverse.dropWhile (· == '0')).reverse, digits.length + p - 1)

/-! ## The text -/

/-- Where the point goes: positional notation for these decimal exponents, both ends included. -/
structure Layout where
  leastPositional : Int
  greatestPositional : Int
  deriving DecidableEq, Repr

/-- Positional from `0.00001` up to `9999999999999999.0`. -/
def Layout.standard : Layout := ⟨-5, 15⟩

/-- The digits laid out with a point and, outside the positional range, a signed exponent. -/
def Layout.place (layout : Layout) (digits : List Char) (e : Int) : List Char :=
  if layout.leastPositional ≤ e ∧ e ≤ layout.greatestPositional then
    if e < 0 then '0' :: '.' :: List.replicate (-e - 1).toNat '0' ++ digits
    else
      let whole := digits.take (e.toNat + 1)
      let rest := digits.drop (e.toNat + 1)
      whole ++ List.replicate (e.toNat + 1 - whole.length) '0' ++ '.' :: (if rest = [] then ['0'] else rest)
  else
    let first := digits.take 1
    let rest := digits.drop 1
    first ++ (if rest = [] then [] else '.' :: rest) ++
      'e' :: (if e < 0 then '-' else '+') :: Nat.toDigits 10 e.natAbs

/-- The text of a double. -/
def text (x : Double) : List Char :=
  let body :=
    if x.isZero then ['0', '.', '0']
    else
      let (digits, e) := shortest x
      Layout.standard.place digits e
  if x.negative then '-' :: body else body

end SeriesCatalog.Double
