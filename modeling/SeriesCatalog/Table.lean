/-
Tables: named columns and rows of JSON cells, as a listing produces them and as a client receives
them. Rows need not be as long as the header; a cell that is missing counts as empty. Columns are
looked up without regard to ASCII case, and the first of that name counts.
-/
import SeriesCatalog.Json.Basic
import SeriesCatalog.Text.Cut

namespace SeriesCatalog

/-- Named columns and rows of cells. -/
structure Table where
  columns : List String := []
  rows : List (List Json) := []
  deriving Repr, Inhabited

/-- The text of a cell: a string as it is, nothing for a missing cell or null, and the JSON text of
any other value. -/
def cellText : Option Json → String
  | some (.string s) => s
  | some .null | none => ""
  | some v => String.ofList v.text

namespace Table

/-- The position of a column. -/
def columnIndex? (t : Table) (name : String) : Option Nat :=
  t.columns.findIdx? fun c => Text.sameLetters c name

/-- The texts of the cells at one position of every row. -/
def cellsAt (t : Table) (i : Nat) : List String := t.rows.map fun row => cellText row[i]?

/-- The texts of a column. -/
def column? (t : Table) (name : String) : Option (List String) :=
  (t.columnIndex? name).map t.cellsAt

/-- The texts of the first column, whatever its name. -/
def firstColumn (t : Table) : List String := t.cellsAt 0

/-- The texts of a column, or of the first one if there is none of this name. -/
def columnOrFirst (t : Table) (name : String) : List String := (t.column? name).getD t.firstColumn

/-- The cells column by column, one list for every column of the header, as long as there are rows.
Cells beyond the header are left out and missing ones are null. -/
def columnMajor (t : Table) : List (List Json) :=
  (List.range t.columns.length).map fun c => t.rows.map fun row => row[c]?.getD .null

theorem length_columnMajor (t : Table) : t.columnMajor.length = t.columns.length := by
  simp [columnMajor]

end Table

end SeriesCatalog
