/-
Reasons for which a statement is turned down, each with the status code that the service reports for
it and with its wording.
-/
import SeriesCatalog.Statement

namespace SeriesCatalog

/-- Why a statement is turned down. -/
inductive Rejection
  | malformed (fault : Statement.Fault)
  | invalidDatabasePath (path : Path)
  | underSystemDatabase (path : Path)
  | conflictingSeries (path : Path)
  | queryExpected
  | queryUnexpected
  | databaseExists (path : Path)
  | databaseMissing (patterns : List Path)
  | seriesExists (path : Path)
  | seriesMissing (pattern : Path)
  deriving DecidableEq, Repr

namespace Rejection

/-- The status code of the service. -/
def code : Rejection → Int
  | malformed _ => 700
  | invalidDatabasePath _ | underSystemDatabase _ | conflictingSeries _ | queryExpected
  | queryUnexpected => 701
  | seriesExists _ => 501
  | seriesMissing _ => 508
  | databaseMissing _ => 526
  | databaseExists _ => 903

/-- The reason in words. -/
def message : Rejection → String
  | malformed fault => "Parse error: " ++ fault.message
  | invalidDatabasePath path => "Semantic error: '" ++ path.text ++ "' is not a valid database path"
  | underSystemDatabase path =>
    "Semantic error: '" ++ path.text ++ "' is under the system database"
  | conflictingSeries path =>
    "Semantic error: '" ++ path.text ++ "' conflicts with an existing series path"
  | queryExpected =>
    "Semantic error: non-query statements must be sent to the nonQuery endpoint"
  | queryUnexpected => "Semantic error: query statements must be sent to the query endpoint"
  | databaseExists path => path.text ++ " has already been created as database"
  | databaseMissing patterns =>
    "Database " ++ ",".intercalate (patterns.map Path.text) ++ " does not exist"
  | seriesExists path => "Path [" ++ path.text ++ "] already exist"
  | seriesMissing pattern => "Path [" ++ pattern.text ++ "] does not exist"

end Rejection

end SeriesCatalog
