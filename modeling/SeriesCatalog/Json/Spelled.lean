/-
JSON text taken apart but not evaluated: the nesting is known, while numerals and strings are still
as they are spelled. Every JSON text has such a form, however deep it nests and however large its
numerals are; limits come in only where a value is taken from it.
-/
import SeriesCatalog.Json.Token
import SeriesCatalog.Text.Utf8

namespace SeriesCatalog.Json

/-- A JSON text taken apart. -/
inductive Spelled
  | null
  | bool (b : Bool)
  | numeral (n : Numeral)
  | string (units : List StringUnit)
  | array (items : List Spelled)
  | object (members : List (List StringUnit × Spelled))
  deriving Repr, Inhabited

/-- An array or object that is still open, with what it holds so far in reverse. An object waits for
the value of a key. -/
inductive Frame
  | array (done : List Spelled)
  | object (done : List (List StringUnit × Spelled)) (key : List StringUnit)

/-- What may come next: a value, a key, the colon behind a key, or what follows a complete value.
A container may close only right after it opened or after a value. -/
inductive Build
  | value (frames : List Frame) (mayClose : Bool)
  | key (done : List (List StringUnit × Spelled)) (frames : List Frame) (mayClose : Bool)
  | colon (done : List (List StringUnit × Spelled)) (key : List StringUnit) (frames : List Frame)
  | complete (v : Spelled) (frames : List Frame)

/-- One token. -/
def Build.step : Build → Token → Option Build
  | .value frames _, .null => some (.complete .null frames)
  | .value frames _, .bool b => some (.complete (.bool b) frames)
  | .value frames _, .numeral n => some (.complete (.numeral n) frames)
  | .value frames _, .string units => some (.complete (.string units) frames)
  | .value frames _, .openArray => some (.value (.array [] :: frames) true)
  | .value frames _, .openObject => some (.key [] frames true)
  | .value (.array [] :: frames) true, .closeArray => some (.complete (.array []) frames)
  | .key done frames _, .string units => some (.colon done units frames)
  | .key [] frames true, .closeObject => some (.complete (.object []) frames)
  | .colon done name frames, .colon => some (.value (.object done name :: frames) false)
  | .complete v (.array done :: frames), .comma => some (.value (.array (v :: done) :: frames) false)
  | .complete v (.array done :: frames), .closeArray =>
    some (.complete (.array (v :: done).reverse) frames)
  | .complete v (.object done name :: frames), .comma => some (.key ((name, v) :: done) frames false)
  | .complete v (.object done name :: frames), .closeObject =>
    some (.complete (.object ((name, v) :: done).reverse) frames)
  | _, _ => none

/-- The form that a list of tokens makes up. -/
def Spelled.ofTokens? (ts : List Token) : Option Spelled :=
  match ts.foldlM Build.step (.value [] false) with
  | some (.complete v []) => some v
  | _ => none

/-- The form of a text with holes. -/
def Spelled.read? (cs : List (Option Char)) : Option Spelled := (tokens cs).bind ofTokens?

/-- The form of a text. -/
def Spelled.ofText? (cs : List Char) : Option Spelled := read? (cs.map some)

/-- The form of the text that bytes encode. -/
def Spelled.ofBytes? (bs : List UInt8) : Option Spelled :=
  read? ((Utf8.pieces bs).map Utf8.Piece.char?)

end SeriesCatalog.Json
