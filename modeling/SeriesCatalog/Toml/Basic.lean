/-
TOML values and tables. A table remembers how it came about, because that decides what may still be
added to it: a table with a header is opened once, a table that only deeper headers mention may get
its own header later, a table made by dotted keys grows by dotted keys only, and an inline table is
complete.
-/
namespace SeriesCatalog

namespace Toml

/-- How a table came about. -/
inductive Origin
  | header
  | deeperHeader
  | dottedKey
  | inline
  deriving DecidableEq, Repr

end Toml

/-- A TOML value. Of a number that is no whole one only its being one is kept, and of a date or time
its text. The tables of a list of tables stand in it in the order of their headers. -/
inductive Toml
  | string (s : String)
  | bool (b : Bool)
  | whole (n : Int)
  | real
  | moment (text : String)
  | array (items : List Toml)
  | table (origin : Toml.Origin) (entries : List (String × Toml))
  | tables (elements : List (List (String × Toml)))
  deriving Repr, Inhabited

namespace Toml

/-- The keys of a table with their values, each key once. -/
abbrev Entries := List (String × Toml)

/-- The entries with this value at a key, in the place of the one that was there. -/
def store (key : String) (v : Toml) : Entries → Entries
  | [] => [(key, v)]
  | (k, w) :: es => if k = key then (key, v) :: es else (k, w) :: store key v es

/-- Entries with a change made to the table at the end of a path. The step from a table to the next
is taken by `enter`, which gives the entries of the table behind a key, perhaps a new one, and the
way to put changed ones back. -/
def changeAt (enter : Option Toml → Option (Origin × Entries × (Entries → Toml)))
    (change : Origin → Entries → Option Entries) :
    Origin → List String → Entries → Option Entries
  | origin, [], es => change origin es
  | _, key :: path, es => do
    let (origin, inner, back) ← enter (es.lookup key)
    let changed ← changeAt enter change origin path inner
    return store key (back changed) es

/-- The last element of a list of tables, and the list with another one in its place. -/
def lastTable? (elements : List Entries) : Option (Origin × Entries × (Entries → Toml)) :=
  elements.getLast?.map fun es => (.header, es, fun es => .tables (elements.dropLast ++ [es]))

/-- Behind a key that a header mentions: any table that is not inline, the last of a list of tables,
or a new table. -/
def enterByHeader : Option Toml → Option (Origin × Entries × (Entries → Toml))
  | none => some (.deeperHeader, [], .table .deeperHeader)
  | some (.table .inline _) => none
  | some (.table origin es) => some (origin, es, .table origin)
  | some (.tables elements) => lastTable? elements
  | some _ => none

/-- Behind a key that stands before a dot: a table without a header of its own, the last of a list of
tables, or a new table. -/
def enterByDot : Option Toml → Option (Origin × Entries × (Entries → Toml))
  | none => some (.dottedKey, [], .table .dottedKey)
  | some (.table .header _) | some (.table .inline _) => none
  | some (.table origin es) => some (origin, es, .table origin)
  | some (.tables elements) => lastTable? elements
  | some _ => none

/-- A key with dots in it, at least one name long. -/
structure Key where
  path : List String
  last : String
  deriving DecidableEq, Repr

/-- The entries with a value added under a new key. A dotted key ends in a table that dotted keys
made. -/
def add (entries : Entries) (key : Key) (v : Toml) : Option Entries :=
  changeAt enterByDot
    (fun origin es =>
      if key.path ≠ [] ∧ origin ≠ .dottedKey then none
      else if (es.lookup key.last).isSome then none
      else some (store key.last v es))
    .header key.path entries

/-- The entries with all these values added one after another. -/
def addAll (entries : Entries) (pairs : List (Key × Toml)) : Option Entries :=
  pairs.foldlM (fun es (key, v) => add es key v) entries

/-- The entries with the values below a table header added. The table is new, or only deeper headers
have mentioned it. -/
def addTable (entries : Entries) (key : Key) (pairs : List (Key × Toml)) : Option Entries :=
  changeAt enterByHeader
    (fun _ es => do
      let before ← match es.lookup key.last with
        | none => some []
        | some (.table .deeperHeader inner) => some inner
        | some _ => none
      return store key.last (.table .header (← addAll before pairs)) es)
    .header key.path entries

/-- The entries with the values below the header of one more element of a list of tables added. -/
def addElement (entries : Entries) (key : Key) (pairs : List (Key × Toml)) : Option Entries :=
  changeAt enterByHeader
    (fun _ es => do
      let before ← match es.lookup key.last with
        | none => some []
        | some (.tables elements) => some elements
        | some _ => none
      return store key.last (.tables (before ++ [← addAll [] pairs])) es)
    .header key.path entries

end Toml

end SeriesCatalog
