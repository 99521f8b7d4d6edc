/-
Records in JSON. A record has declared members in a fixed order. It is written as an object, in which
members that are not declared are passed over and declared ones occur at most once, or as an array
of its members in their order, which may end early but not run over.
-/
import SeriesCatalog.Json.Reader

namespace SeriesCatalog.Json

/-- What an object gives for each declared member; a member may go by several names. -/
def recordOfMembers? {α : Type} (declared : List (List String)) (members : List (String × α)) :
    Option (List (Option α)) :=
  declared.mapM fun names =>
    match members.filter fun m => names.contains m.1 with
    | [] => some none
    | [(_, v)] => some (some v)
    | _ => none

/-- What an array gives for each declared member. -/
def recordOfItems? {α : Type} (declared : List (List String)) (items : List α) :
    Option (List (Option α)) :=
  if items.length ≤ declared.length then
    some (items.map some ++ List.replicate (declared.length - items.length) none)
  else none

/-- What a value gives for each declared member. -/
def record? (declared : List (List String)) : Json → Option (List (Option Json))
  | .object members => recordOfMembers? declared members
  | .array items => recordOfItems? declared items
  | _ => none

/-- What a text taken apart gives for each declared member. The names of all members have to be
text; the values of members that are not declared are not looked at. -/
def Spelled.record? (declared : List (List String)) : Spelled → Option (List (Option Spelled))
  | .object members => do
    recordOfMembers? declared (← members.mapM fun (k, v) => return (← string? k, v))
  | .array items => recordOfItems? declared items
  | _ => none

/-! ## Members -/

/-- A text. -/
def Spelled.text? : Spelled → Option String
  | .string units => string? units
  | _ => none

/-- A whole number of 64 bits with a sign. -/
def Spelled.word? : Spelled → Option Int
  | .numeral n => n.whole?.filter Bounded.isSigned64
  | _ => none

/-- A value or null. -/
def Spelled.orNull? {α : Type} (read : Spelled → Option α) : Spelled → Option (Option α)
  | .null => some none
  | v => (read v).map some

/-- A text. -/
def text? : Json → Option String
  | .string s => some s
  | _ => none

/-- A whole number of 64 bits with a sign. -/
def word? : Json → Option Int
  | .number (.whole n) => (some n).filter Bounded.isSigned64
  | _ => none

/-- A list of values of one kind. -/
def list? {α : Type} (read : Json → Option α) : Json → Option (List α)
  | .array items => items.mapM read
  | _ => none

/-- A value or null. -/
def orNull? {α : Type} (read : Json → Option α) : Json → Option (Option α)
  | .null => some none
  | v => (read v).map some

/-- A member that has a default. -/
def orDefault {α β : Type} (read : β → Option α) (default : α) : Option β → Option α
  | none => some default
  | some v => read v

end SeriesCatalog.Json
