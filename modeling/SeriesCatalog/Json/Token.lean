/-
The tokens of a JSON text. The text is given character by character, with a hole wherever bytes were
no character; a hole is allowed inside a string only and stays in the token, so that a string which
nobody looks at may hold one. Numerals and escapes are checked for their form here and for their
value where the value is taken.
-/
import SeriesCatalog.Text.Hex

namespace SeriesCatalog.Json

/-- One element of a string as it is spelled: a character, a UTF-16 unit given by an escape, or a
hole. -/
inductive StringUnit
  | char (c : Char)
  | escape (unit : Nat)
  | hole
  deriving DecidableEq, Repr

/-- A numeral: its sign, its digits before and behind the point, and its exponent. -/
structure Numeral where
  negative : Bool
  whole : List Nat
  fraction : Option (List Nat)
  exponent : Option Int
  deriving DecidableEq, Repr

/-- A token. -/
inductive Token
  | openArray
  | closeArray
  | openObject
  | closeObject
  | colon
  | comma
  | null
  | bool (b : Bool)
  | numeral (n : Numeral)
  | string (units : List StringUnit)
  deriving DecidableEq, Repr

/-! ## Numerals -/

/-- The values of a run of digits. -/
def digits (cs : List Char) : List Nat := cs.filterMap Digits.digit?

/-- The number of a non-empty run of digits that makes up the whole text. -/
def allDigits? (cs : List Char) : Option Nat :=
  if cs ≠ [] ∧ cs.all Char.isDigit then some (Digits.number 10 (digits cs)) else none

/-- An exponent: an optional sign and at least one digit. -/
def exponent? : List Char → Option Int
  | '+' :: cs => (allDigits? cs).map Int.ofNat
  | '-' :: cs => (allDigits? cs).map fun n => -(n : Int)
  | cs => (allDigits? cs).map Int.ofNat

/-- What may follow the digits before the point. -/
def tail? : List Char → Option (Option (List Nat) × Option Int)
  | [] => some (none, none)
  | '.' :: cs =>
    let ds := cs.takeWhile Char.isDigit
    let rest := cs.dropWhile Char.isDigit
    if ds = [] then none
    else
      match rest with
      | [] => some (some (digits ds), none)
      | e :: rest =>
        if e = 'e' ∨ e = 'E' then (exponent? rest).map fun x => (some (digits ds), some x) else none
  | e :: cs => if e = 'e' ∨ e = 'E' then (exponent? cs).map fun x => (none, some x) else none

/-- The numeral that characters spell: no zero stands before other digits, and a point has digits on
both sides. -/
def numeral? (cs : List Char) : Option Numeral :=
  let negative := cs.head? = some '-'
  let cs := if negative then cs.drop 1 else cs
  let ds := cs.takeWhile Char.isDigit
  if ds = [] ∨ (ds.head? = some '0' ∧ ds.length ≠ 1) then none
  else (tail? (cs.dropWhile Char.isDigit)).map fun (f, e) => ⟨negative, digits ds, f, e⟩

/-! ## Scanning -/

/-- Where the scanner stands: between tokens, inside a word or a numeral, or inside a string, perhaps
within an escape. What has been read of the token is kept in reverse. -/
inductive Scan
  | between
  | word (letters : List Char)
  | numeral (chars : List Char)
  | string (units : List StringUnit)
  | escape (units : List StringUnit)
  | unicode (units : List StringUnit) (unit : Nat) (missing : Nat)
  deriving DecidableEq, Repr

/-- The token of a complete word. -/
def wordToken? (letters : List Char) : Option Token :=
  if letters = "null".toList then some .null
  else if letters = "true".toList then some (.bool true)
  else if letters = "false".toList then some (.bool false)
  else none

/-- The token of one structural character. -/
def signToken? : Char → Option Token
  | '[' => some .openArray
  | ']' => some .closeArray
  | '{' => some .openObject
  | '}' => some .closeObject
  | ':' => some .colon
  | ',' => some .comma
  | _ => none

/-- A blank between tokens. -/
def isSpace (c : Char) : Bool := c == ' ' || c == '\n' || c == '\t' || c == '\r'

/-- A character of which numerals are made. -/
def isNumeric (c : Char) : Bool :=
  c.isDigit || c == '-' || c == '+' || c == '.' || c == 'e' || c == 'E'

/-- The character that a short escape stands for. -/
def escaped? : Char → Option Char
  | '"' => some '"'
  | '\\' => some '\\'
  | '/' => some '/'
  | 'b' => some '\x08'
  | 'f' => some '\x0c'
  | 'n' => some '\n'
  | 'r' => some '\r'
  | 't' => some '\t'
  | _ => none

/-- One character between tokens: the tokens it completes and the state after it. -/
def scanBetween (c : Char) : Option (List Token × Scan) :=
  if isSpace c then some ([], .between)
  else if c = '"' then some ([], .string [])
  else if c = '-' ∨ c.isDigit then some ([], .numeral [c])
  else if c.isLower then some ([], .word [c])
  else (signToken? c).map fun t => ([t], .between)

/-- One character, or a hole: the tokens it completes and the state after it. -/
def scanStep : Scan → Option Char → Option (List Token × Scan)
  | .string units, none => some ([], .string (.hole :: units))
  | _, none => none
  | .between, some c => scanBetween c
  | .word letters, some c =>
    if c.isLower then some ([], .word (c :: letters))
    else do
      let t ← wordToken? letters.reverse
      let (ts, s) ← scanBetween c
      return (t :: ts, s)
  | .numeral chars, some c =>
    if isNumeric c then some ([], .numeral (c :: chars))
    else do
      let n ← numeral? chars.reverse
      let (ts, s) ← scanBetween c
      return (.numeral n :: ts, s)
  | .string units, some c =>
    if c = '"' then some ([.string units.reverse], .between)
    else if c = '\\' then some ([], .escape units)
    else if c.toNat < 0x20 then none
    else some ([], .string (.char c :: units))
  | .escape units, some c =>
    if c = 'u' then some ([], .unicode units 0 4)
    else (escaped? c).map fun e => ([], .string (.char e :: units))
  | .unicode units unit missing, some c => do
    let d ← Hex.digit? c
    let unit := unit * 16 + d
    if missing = 1 then return ([], .string (.escape unit :: units))
    else return ([], .unicode units unit (missing - 1))

/-- The tokens that the end of the text completes. -/
def scanEnd : Scan → Option (List Token)
  | .between => some []
  | .word letters => (wordToken? letters.reverse).map ([·])
  | .numeral chars => (numeral? chars.reverse).map ([.numeral ·])
  | .string _ | .escape _ | .unicode .. => none

/-- The tokens from a state on, behind those already found, which are kept in reverse. -/
def tokensFrom (done : List Token) : Scan → List (Option Char) → Option (List Token)
  | s, [] => (scanEnd s).map fun ts => done.reverse ++ ts
  | s, c :: cs =>
    match scanStep s c with
    | none => none
    | some (ts, s) => tokensFrom (ts.reverse ++ done) s cs

/-- The tokens of a text. -/
def tokens (cs : List (Option Char)) : Option (List Token) := tokensFrom [] .between cs

/-! ## The text of a string -/

/-- The text that the elements of a string spell: escaped UTF-16 units pair up to characters where
they are surrogates. None if a hole or half a pair is among them. -/
def unitsText? : List StringUnit → Option (List Char)
  | [] => some []
  | .hole :: _ => none
  | .char c :: us => (c :: ·) <$> unitsText? us
  | .escape high :: .escape low :: us =>
    if 0xD800 ≤ high ∧ high ≤ 0xDBFF then
      if 0xDC00 ≤ low ∧ low ≤ 0xDFFF then
        (Char.ofNat (0x10000 + (high - 0xD800) * 0x400 + (low - 0xDC00)) :: ·) <$> unitsText? us
      else none
    else if 0xDC00 ≤ high ∧ high ≤ 0xDFFF then none
    else (Char.ofNat high :: ·) <$> unitsText? (.escape low :: us)
  | .escape unit :: us =>
    if 0xD800 ≤ unit ∧ unit ≤ 0xDFFF then none else (Char.ofNat unit :: ·) <$> unitsText? us

end SeriesCatalog.Json
