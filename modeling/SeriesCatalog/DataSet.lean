/-
Data sets: the form in which rows travel. A data set lists its values column by column, beside an
optional list of instants. As a table it has one row for every instant or value of its longest
column; cells that are missing are null. A table survives being sent, but that its rows are cut or
filled up to the length of the header.
-/
import SeriesCatalog.Table
import SeriesCatalog.Json.Record

namespace SeriesCatalog

/-- Values by columns. -/
structure DataSet where
  columnNames : Option (List String) := none
  expressions : Option (List String) := none
  timestamps : Option (List Int) := none
  values : List (List Json) := []
  deriving Repr, Inhabited

namespace DataSet

/-! ## Tables -/

/-- The names of the value columns: the column names if there are any, and otherwise the
expressions. -/
def names (d : DataSet) : List String :=
  match d.columnNames.filter (· ≠ []) with
  | some names => names
  | none => d.expressions.getD []

/-- The instants. -/
def instants (d : DataSet) : List Int := d.timestamps.getD []

/-- The number of rows, that of the longest column. -/
def rowCount (d : DataSet) : Nat :=
  (d.values.map List.length).foldl max d.instants.length

/-- The columns of cells, the instants among them. -/
def cells (d : DataSet) : List (List Json) :=
  if d.instants = [] then d.values else d.instants.map Json.int :: d.values

/-- The header, the column of instants in it. -/
def header (d : DataSet) : List String := if d.instants = [] then d.names else "Time" :: d.names

/-- The data set row by row. -/
def toTable (d : DataSet) : Table where
  columns := d.header
  rows := (List.range d.rowCount).map fun r => d.cells.map fun column => column[r]?.getD .null

/-- The data set in which the rows of a listing are sent. -/
def ofTable (t : Table) : DataSet where
  columnNames := some t.columns
  timestamps := some []
  values := t.columnMajor

/-! ## JSON -/

/-- A list of texts, or null. -/
def namesJson : Option (List String) → Json
  | none => .null
  | some names => .array (names.map .string)

/-- A list of instants, or null. -/
def instantsJson : Option (List Int) → Json
  | none => .null
  | some instants => .array (instants.map Json.int)

/-- The data set as JSON. -/
def toJson (d : DataSet) : Json :=
  .object
    [("expressions", namesJson d.expressions), ("column_names", namesJson d.columnNames),
      ("timestamps", instantsJson d.timestamps), ("values", .array (d.values.map .array))]

/-- The members of a data set in the order in which an array gives them. -/
def declared : List (List String) :=
  [["column_names", "columnNames"], ["expressions"], ["timestamps"], ["values"]]

/-- The data set that a value gives. Only the three lists beside the values may be null. -/
def ofJson? (v : Json) : Option DataSet := do
  match ← v.record? declared with
  | [columnNames, expressions, timestamps, values] =>
    return {
      columnNames := ← Json.orDefault (Json.orNull? (Json.list? Json.text?)) none columnNames
      expressions := ← Json.orDefault (Json.orNull? (Json.list? Json.text?)) none expressions
      timestamps := ← Json.orDefault (Json.orNull? (Json.list? Json.word?)) none timestamps
      values := ← Json.orDefault (Json.list? (Json.list? some)) [] values }
  | _ => none

end DataSet

end SeriesCatalog
