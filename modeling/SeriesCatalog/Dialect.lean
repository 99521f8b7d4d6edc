/-
The relational view of the metadata tree: a database is a schema, a device below it is a table, and
the series of a device are the columns of that table. Each catalog call has a listing statement and
a reading of the listing's rows. Names that could change the meaning of a statement are refused.
-/
import SeriesCatalog.CatalogError
import SeriesCatalog.Column
import SeriesCatalog.Table
import SeriesCatalog.Ascending

namespace SeriesCatalog.Dialect

open Text

/-- The name of the dialect. -/
def name : String := "iotdb"

/-! ## Statements -/

/-- The name may stand in a path pattern: it is not empty, has no dot at either end, and no blank,
quote, semicolon or star anywhere. -/
def isIdentifier (name : String) : Bool :=
  let cs := name.toList
  cs != [] && cs.head? != some '.' && cs.getLast? != some '.' &&
    cs.all fun c => !isBlank c && c != '\'' && c != '"' && c != ';' && c != '*'

/-- The name is accepted, or refused with an error that holds it. -/
def validate (name : String) : Except CatalogError Unit :=
  if isIdentifier name then .ok () else .error (.invalidIdentifier name)

/-- The statement that lists the schemas. -/
def schemaNamesSql : String := "SHOW DATABASES"

/-- The statement that lists the tables of a schema. -/
def tableNamesSql (schema : String) : Except CatalogError String := do
  validate schema
  return "SHOW DEVICES " ++ schema ++ ".**"

/-- The statement that lists the columns of a table. -/
def columnsSql (schema table : String) : Except CatalogError String := do
  validate schema
  validate table
  return "SHOW TIMESERIES " ++ schema ++ "." ++ table ++ ".*"

/-! ## Rows -/

/-- The text behind a beginning, if the text begins so. -/
def behind? (front s : String) : Option String :=
  (front.toList.isPrefixOf? s.toList).map String.ofList

/-- The schemas of a listing, in ascending order and each once. -/
def schemaNames (rows : Table) : List String :=
  Ascending.texts ((rows.columnOrFirst "Database").filter (· ≠ ""))

/-- The tables of a schema in a listing, without the schema's name, in ascending order and each
once. -/
def tableNames (schema : String) (rows : Table) : List String :=
  Ascending.texts
    (((rows.columnOrFirst "Device").filterMap (behind? (schema ++ "."))).filter (· ≠ ""))

/-- The text of a cell that need not be there; an empty text counts as none. -/
def optionalCell (row : List Json) (i : Option Nat) : Option String :=
  (i.map fun i => cellText row[i]?).filter (· ≠ "")

/-- The column that a row of a listing describes. -/
def columnOf (schema table : String) (rows : Table) (row : List Json) : Column :=
  let path := cellText row[(rows.columnIndex? "Timeseries").getD 0]?
  { name := (behind? (schema ++ "." ++ table ++ ".") path).getD path
    type := .ofDataType ((optionalCell row (rows.columnIndex? "DataType")).getD "")
    nullable := true
    default := none
    encoding := optionalCell row (rows.columnIndex? "Encoding")
    compression := optionalCell row (rows.columnIndex? "Compression") }

/-- The columns of a table in a listing: the column of instants, then one for every row. -/
def columns (schema table : String) (rows : Table) : List Column :=
  .time :: rows.rows.map (columnOf schema table rows)

end SeriesCatalog.Dialect
