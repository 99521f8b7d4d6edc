/-
The values of TOML that are written without quotes: booleans, whole numbers of 64 bits, other
numbers, and dates and times of day. A value is the whole run of characters up to the next delimiter.
-/
import SeriesCatalog.Number.Double
import SeriesCatalog.Number.Bounded
import SeriesCatalog.Text.Cut
import SeriesCatalog.Text.Hex

namespace SeriesCatalog.Toml

open Text

/-- An unquoted value. Of a number that is no whole one only its being one is kept, and of a date or
time its text. -/
inductive Scalar
  | bool (b : Bool)
  | whole (n : Int)
  | real
  | moment (text : String)
  deriving DecidableEq, Repr

/-! ## Numbers -/

/-- The values of digits that single underscores may divide; there is at least one digit. -/
def digits? (digit? : Char → Option Nat) (cs : List Char) : Option (List Nat) :=
  let groups := pieces '_' cs
  if groups.contains [] then none else groups.flatten.mapM digit?

/-- A digit below a base. -/
def digitBelow? (base : Nat) (c : Char) : Option Nat := (Hex.digit? c).filter (· < base)

/-- The digits of a decimal number: a zero does not stand before others. -/
def decimalDigits? (cs : List Char) : Option (List Nat) :=
  (digits? Digits.digit? cs).filter fun ds => ds.length = 1 || ds.head? != some 0

/-- The sign of a number, true for minus, and the rest. -/
def splitSign : List Char → Bool × List Char
  | '-' :: cs => (true, cs)
  | '+' :: cs => (false, cs)
  | cs => (false, cs)

/-- The number with this sign and these decimal digits. -/
def signed (negative : Bool) (ds : List Nat) : Int :=
  if negative then -(Digits.number 10 ds : Int) else Digits.number 10 ds

/-- A whole number, in decimal with a sign or in base 16, 8 or 2 without. -/
def whole? (cs : List Char) : Option Int :=
  let value : Option Int :=
    match cs with
    | '0' :: 'x' :: ds => (digits? (digitBelow? 16) ds).map fun ds => Digits.number 16 ds
    | '0' :: 'o' :: ds => (digits? (digitBelow? 8) ds).map fun ds => Digits.number 8 ds
    | '0' :: 'b' :: ds => (digits? (digitBelow? 2) ds).map fun ds => Digits.number 2 ds
    | cs =>
      let (negative, ds) := splitSign cs
      (decimalDigits? ds).map (signed negative)
  value.filter Bounded.isSigned64

/-- The exponent of a number. -/
def exponent? (cs : List Char) : Option Int :=
  let (negative, ds) := splitSign cs
  (digits? Digits.digit? ds).map (signed negative)

/-- The text before and after the first `e` of either case. -/
def cutExponent (cs : List Char) : List Char × Option (List Char) :=
  let isMark := fun c => c == 'e' || c == 'E'
  match cs.dropWhile (!isMark ·) with
  | [] => (cs, none)
  | _ :: rest => (cs.takeWhile (!isMark ·), some rest)

/-- The text is a number with a fraction or an exponent. One that is too large for a double has to be
negative. -/
def isDecimal (cs : List Char) : Bool :=
  let (negative, cs) := splitSign cs
  let (front, exponent) := cutExponent cs
  let point := cutFirst ['.'] front
  let number := do
    let ds ← decimalDigits? ((point.map (·.1)).getD front)
    let fs ← match point with
      | none => some []
      | some (_, fs) => digits? Digits.digit? fs
    let e ← match exponent with
      | none => some 0
      | some e => exponent? e
    return (ds ++ fs, e - fs.length)
  match number with
  | none => false
  | some (ds, e) =>
    (point.isSome || exponent.isSome) &&
      (negative || (Double.ofDecimal (Digits.number 10 ds) e).isSome)

/-- The text is one of the numbers that are not finite. -/
def isSpecial (cs : List Char) : Bool :=
  let (_, name) := splitSign cs
  name == "inf".toList || name == "nan".toList

/-! ## Dates and times -/

/-- A number of exactly so many digits, between two bounds. -/
def field? (width low high : Nat) (cs : List Char) : Option Nat :=
  if cs.length = width then
    ((cs.mapM Digits.digit?).map (Digits.number 10)).filter fun n => low ≤ n && n ≤ high
  else none

/-- The number of days of a month. -/
def monthLength (year month : Nat) : Nat :=
  if month = 2 then
    if (year % 4 = 0 ∧ year % 100 ≠ 0) ∨ year % 400 = 0 then 29 else 28
  else if month = 4 ∨ month = 6 ∨ month = 9 ∨ month = 11 then 30
  else 31

/-- The text is a date that exists. -/
def isDate (cs : List Char) : Bool :=
  match pieces '-' cs with
  | [y, m, d] =>
    (do
      let y ← field? 4 0 9999 y
      let m ← field? 2 1 12 m
      field? 2 1 (monthLength y m) d).isSome
  | _ => false

/-- The text is an hour and a minute. -/
def isHourMinute (cs : List Char) : Bool :=
  match pieces ':' cs with
  | [h, m] => (field? 2 0 23 h).isSome && (field? 2 0 59 m).isSome
  | _ => false

/-- The text is a second, perhaps with a fraction. -/
def isSecond (cs : List Char) : Bool :=
  match pieces '.' cs with
  | [s] => (field? 2 0 60 s).isSome
  | [s, fraction] => (field? 2 0 60 s).isSome && fraction != [] && fraction.all Char.isDigit
  | _ => false

/-- The text is a time of day. -/
def isTime (cs : List Char) : Bool :=
  match cutLast ':' cs with
  | some (hourMinute, second) => isHourMinute hourMinute && isSecond second
  | none => false

/-- The text is a time of day, perhaps with its distance from universal time. -/
def isZonedTime (cs : List Char) : Bool :=
  let time := cs.takeWhile fun c => c.isDigit || c == ':' || c == '.'
  isTime time &&
    match cs.drop time.length with
    | [] => true
    | ['Z'] | ['z'] => true
    | c :: offset => (c == '+' || c == '-') && isHourMinute offset

/-- The text is a date, a time of day, or a date and a time parted by `T` or one space. -/
def isMoment (cs : List Char) : Bool :=
  isTime cs || isDate cs ||
    (isDate (cs.take 10) &&
      match cs.drop 10 with
      | c :: time => (c == 'T' || c == 't' || c == ' ') && isZonedTime time
      | [] => false)

/-! ## Values -/

/-- The value that a run of characters spells. -/
def Scalar.ofChars? (cs : List Char) : Option Scalar :=
  if cs = "true".toList then some (.bool true)
  else if cs = "false".toList then some (.bool false)
  else
    match whole? cs with
    | some n => some (.whole n)
    | none =>
      if isDecimal cs || isSpecial cs then some .real
      else if isMoment cs then some (.moment (String.ofList cs))
      else none

example : Scalar.ofChars? "-1_000".toList = some (.whole (-1000)) ∧
    Scalar.ofChars? "0xfF".toList = some (.whole 255) ∧ Scalar.ofChars? "01".toList = none := by decide
example : Scalar.ofChars? "6.02e+2_3".toList = some .real ∧ Scalar.ofChars? "1.".toList = none ∧
    Scalar.ofChars? "1e999".toList = none ∧ Scalar.ofChars? "-1e999".toList = some .real := by
  decide +kernel
example : isMoment "2000-02-29 23:59:60.5-07:00".toList = true ∧ isMoment "1900-02-29".toList = false ∧
    isMoment "07:32Z".toList = false := by decide

end SeriesCatalog.Toml
