/-
Reading a JSON value from its text. A whole number of 64 bits, signed or not, keeps its digits; any
other numeral, negative zero included, is a double, and must not be past the greatest one. Arrays
and objects nest at most 127 deep. Of members with one name the last counts, and members come out in
ascending order of their names.
-/
import SeriesCatalog.Json.Basic
import SeriesCatalog.Json.Spelled
import SeriesCatalog.Number.Scaled
import SeriesCatalog.Ascending

namespace SeriesCatalog.Json

/-- The numeral is a whole number of 64 bits. -/
def Numeral.whole? (n : Numeral) : Option Int :=
  if n.fraction.isSome || n.exponent.isSome then none
  else
    let m := Digits.number 10 n.whole
    if n.negative then if 0 < m ∧ m ≤ 0x8000000000000000 then some (-m) else none
    else if m ≤ Bounded.max64 then some m else none

/-- The number that a numeral spells; none if it is too large for a double. -/
def Numeral.number? (n : Numeral) : Option Number :=
  match n.whole? with
  | some k => some (.whole k)
  | none =>
    (Double.read n.negative n.whole (n.fraction.getD []) (n.exponent.getD 0)).map Number.real

/-- The text that a spelled string stands for. -/
def string? (units : List StringUnit) : Option String := (unitsText? units).map String.ofList

mutual

/-- The value of a form, with room for so many levels of nesting. -/
def evaluate (room : Nat) : Spelled → Option Json
  | .null => some .null
  | .bool b => some (.bool b)
  | .numeral n => n.number?.map .number
  | .string units => (string? units).map .string
  | .array items =>
    match room with
    | 0 => none
    | room + 1 => (evaluateItems room items).map .array
  | .object members =>
    match room with
    | 0 => none
    | room + 1 => (evaluateMembers room members).map fun ms => .object (Ascending.ofList (·.1) ms)

/-- The values of the items of an array. -/
def evaluateItems (room : Nat) : List Spelled → Option (List Json)
  | [] => some []
  | v :: vs => do
    let v ← evaluate room v
    let vs ← evaluateItems room vs
    return v :: vs

/-- The names and values of the members of an object. -/
def evaluateMembers (room : Nat) : List (List StringUnit × Spelled) → Option (List (String × Json))
  | [] => some []
  | (k, v) :: ms => do
    let k ← string? k
    let v ← evaluate room v
    let ms ← evaluateMembers room ms
    return (k, v) :: ms

end

/-- The number of levels that arrays and objects may nest. -/
def maxDepth : Nat := 127

/-- The value that a text spells. -/
def ofText? (cs : List Char) : Option Json := (Spelled.ofText? cs).bind (evaluate maxDepth)

/-- The value that encoded text spells. -/
def ofBytes? (bs : List UInt8) : Option Json := (Spelled.ofBytes? bs).bind (evaluate maxDepth)

end SeriesCatalog.Json
