/-
Columns of a table as a relational client sees them. Every stored data type has a relational type; a
name that is no stored data type is kept as it is.
-/
import SeriesCatalog.Statement
import SeriesCatalog.Text.Cut

namespace SeriesCatalog

/-- The relational type of a column. -/
inductive SqlType
  | boolean
  | integer
  | bigInteger
  | float
  | text
  | unknown (name : String)
  deriving DecidableEq, Repr, Inhabited

namespace SqlType

/-- The relational type of the data type of this name. Blanks around the name and the case of its
letters do not count. -/
def ofDataType (name : String) : SqlType :=
  let known := String.ofList (Text.upper (Text.trim name.toList))
  if known = "BOOLEAN" then boolean
  else if known = "INT32" then integer
  else if known = "INT64" ∨ known = "LONG" ∨ known = "TIMESTAMP" then bigInteger
  else if known = "FLOAT" ∨ known = "DOUBLE" then float
  else if known = "TEXT" ∨ known = "STRING" then text
  else unknown name

/-- The type as it is shown. -/
def shown : SqlType → String
  | boolean => "BOOLEAN"
  | integer => "INTEGER"
  | bigInteger => "BIGINT"
  | float => "FLOAT"
  | text => "TEXT"
  | unknown name => "UNKNOWN(" ++ name ++ ")"

/-- Stored data types are all known. -/
theorem ofDataType_name_ne_unknown (t : DataType) (name : String) :
    ofDataType t.name ≠ unknown name := by
  cases t <;> simp +decide [ofDataType]

end SqlType

/-- A column of a table. -/
structure Column where
  name : String
  type : SqlType
  nullable : Bool
  default : Option String
  encoding : Option String
  compression : Option String
  deriving DecidableEq, Repr, Inhabited

namespace Column

/-- The column of instants, which every table has. -/
def time : Column := ⟨"Time", .bigInteger, false, none, none, none⟩

/-- The column as it is shown. -/
def shown (c : Column) : String :=
  c.name ++ " " ++ c.type.shown ++ if c.nullable then "" else " NOT NULL"

example : time.shown = "Time BIGINT NOT NULL" := by decide

end Column

end SeriesCatalog
