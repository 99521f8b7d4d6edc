/-
JSON values, and their text without blanks. Whole numbers keep their digits; every other number is
a double. Members of an object are written in the order in which they stand.
-/
import SeriesCatalog.Number.Shortest
import SeriesCatalog.Text.Hex

namespace SeriesCatalog

/-- A JSON number. -/
inductive Json.Number
  | whole (n : Int)
  | real (x : Double)
  deriving DecidableEq, Repr

/-- A JSON value. -/
inductive Json
  | null
  | bool (b : Bool)
  | number (n : Json.Number)
  | string (s : String)
  | array (items : List Json)
  | object (members : List (String × Json))
  deriving Repr, Inhabited

namespace Json

/-- A whole number as a value. -/
def int (n : Int) : Json := .number (.whole n)

/-- The member of an object with this name; none if the value is no object or has no such member. -/
def member? (name : String) : Json → Option Json
  | object members => (members.find? (·.1 == name)).map (·.2)
  | _ => none

/-! ## Text -/

/-- The decimal text of a whole number. -/
def wholeText (n : Int) : List Char :=
  if n < 0 then '-' :: Nat.toDigits 10 n.natAbs else Nat.toDigits 10 n.natAbs

/-- The text of a number. -/
def Number.text : Number → List Char
  | whole n => wholeText n
  | real x => x.text

/-- The two-character escape of a character, by its second character. -/
def shortEscape? : Char → Option Char
  | '"' => some '"'
  | '\\' => some '\\'
  | '\x08' => some 'b'
  | '\x0c' => some 'f'
  | '\n' => some 'n'
  | '\r' => some 'r'
  | '\t' => some 't'
  | _ => none

/-- A character inside a string: quotes, backslashes and control characters are escaped and nothing
else. -/
def escapeChar (c : Char) : List Char :=
  match shortEscape? c with
  | some e => ['\\', e]
  | none =>
    if c.toNat < 0x20 then
      ['\\', 'u', '0', '0', Hex.small (c.toNat / 16), Hex.small (c.toNat % 16)]
    else [c]

/-- A string in quotes. -/
def stringText (s : String) : List Char := '"' :: s.toList.flatMap escapeChar ++ ['"']

mutual

/-- The text of a value. -/
def text : Json → List Char
  | null => "null".toList
  | bool true => "true".toList
  | bool false => "false".toList
  | number n => n.text
  | string s => stringText s
  | array items => '[' :: itemsText items ++ [']']
  | object members => '{' :: membersText members ++ ['}']

/-- The texts of items with commas between them. -/
def itemsText : List Json → List Char
  | [] => []
  | [v] => text v
  | v :: w :: vs => text v ++ ',' :: itemsText (w :: vs)

/-- The texts of members with commas between them. -/
def membersText : List (String × Json) → List Char
  | [] => []
  | [(k, v)] => stringText k ++ ':' :: text v
  | (k, v) :: m :: ms => stringText k ++ ':' :: text v ++ ',' :: membersText (m :: ms)

end

end Json

end SeriesCatalog
