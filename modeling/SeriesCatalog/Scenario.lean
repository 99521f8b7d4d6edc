/-
The acceptance scenario: it creates two databases and three series, checks what the catalog calls
report about them, deletes the databases and checks that they are gone. A check that fails is
recorded and never ends the run. The databases are deleted whether or not all of them could be
created, and the engine is disposed at the end. Everything that is asked of the server depends on its
answers alone, so the answers of a run are collected first and its report is read off them.
-/
import SeriesCatalog.Inspector
import SeriesCatalog.Report
import SeriesCatalog.Tree

namespace SeriesCatalog.Scenario

open Report

/-! ## Fixture -/

/-- The database with the devices. -/
def fixtureSchema : String := "root.cursor"

/-- The database that stays empty. -/
def secondSchema : String := "root.cursor_s1"

/-- The statements that create everything. -/
def setupStatements : List String :=
  ["create database root.cursor",
    "create database root.cursor_s1",
    "create timeseries root.cursor.device1.temperature with datatype=FLOAT,encoding=RLE",
    "create timeseries root.cursor.device1.status with datatype=FLOAT,encoding=RLE",
    "create timeseries root.cursor.device2.temperature with datatype=FLOAT,encoding=RLE"]

/-- The statements that delete everything. -/
def teardownStatements : List String :=
  ["delete database root.cursor", "delete database root.cursor_s1"]

/-! ## Answers -/

/-- A statement that was run for its effect, and what became of it. -/
structure Attempt where
  sql : String
  answer : Except CatalogError Unit

/-- How statements ended that were run up to the first that failed. -/
def ended (l : List Attempt) : Except CatalogError Unit := l.forM (·.answer)

/-- The answers to the calls between setup and teardown. -/
structure Listings where
  schemas : Except CatalogError (List String)
  tables : Except CatalogError (List String)
  columns : Except CatalogError (List Column)

/-- Everything that a run is answered. There are no listings if setup failed. -/
structure Answers where
  setup : List Attempt
  listings : Except CatalogError Listings
  teardown : List Attempt
  left : Except CatalogError (List String)

variable {σ : Type}

/-- Runs a statement. -/
def attempt (e : Engine σ) (sql : String) : StateM σ Attempt := do
  return ⟨sql, ← (e.execute sql).run⟩

/-- Runs statements one after another up to the first that fails. -/
def attemptUpToFailure (e : Engine σ) : List String → StateM σ (List Attempt)
  | [] => return []
  | sql :: rest => do
    let a ← attempt e sql
    match a.answer with
    | .ok () => return a :: (← attemptUpToFailure e rest)
    | .error _ => return [a]

/-- Runs the first statements up to one that fails. -/
def setup (e : Engine σ) : StateM σ (List Attempt) := attemptUpToFailure e setupStatements

/-- Makes the calls between setup and teardown, each whatever became of the others. -/
def inspect (e : Engine σ) : StateM σ Listings := do
  let schemas ← e.schemaNames.run
  let tables ← (e.tableNames fixtureSchema).run
  let columns ← (e.columns "device1" fixtureSchema).run
  return ⟨schemas, tables, columns⟩

/-- Makes these calls if setup ended well. -/
def inspectAfter (e : Engine σ) : Except CatalogError Unit → StateM σ (Except CatalogError Listings)
  | .ok () => .ok <$> inspect e
  | .error error => return .error error

/-- Runs the last statements, each whatever became of the others. -/
def teardown (e : Engine σ) : StateM σ (List Attempt) := teardownStatements.mapM (attempt e)

/-- Asks for everything that a run asks for. -/
def ask (e : Engine σ) : StateM σ Answers := do
  let setup ← setup e
  let listings ← inspectAfter e (ended setup)
  let teardown ← teardown e
  let left ← e.schemaNames.run
  return ⟨setup, listings, teardown, left⟩

/-! ## Checks -/

/-- The check of the schemas. -/
def schemaCheck : String := "get_schema_names"

/-- The check of the tables of the fixture. -/
def tableCheck : String := "get_table_names"

/-- The check of the columns of a table of the fixture. -/
def columnCheck : String := "get_columns"

/-- The check that nothing is left. -/
def cleanupCheck : String := "cleanup"

/-- The name under which a failed setup is reported. -/
def setupCheck : String := "fixture_setup"

/-- The message of a check that failed. -/
def failed (check : String) : String := check ++ " failed!"

/-- The system's database and both of the fixture are listed. -/
def judgeSchemas : Except CatalogError (List String) → Outcome
  | .ok names =>
    let missing :=
      [Tree.systemDatabase.text, fixtureSchema, secondSchema].filter (!names.contains ·)
    if missing = [] then .pass schemaCheck (Quoted.list names)
    else
      .fail schemaCheck (Quoted.list names)
        (failed schemaCheck ++ " missing: " ++ ", ".intercalate missing)
  | .error e => .fail schemaCheck e.message (failed schemaCheck)

/-- The tables are the two devices. -/
def judgeTables : Except CatalogError (List String) → Outcome
  | .ok names =>
    if names = ["device1", "device2"] then .pass tableCheck (Quoted.list names)
    else .fail tableCheck (Quoted.list names) (failed tableCheck)
  | .error e => .fail tableCheck e.message (failed tableCheck)

/-- There are three columns. -/
def judgeColumns : Except CatalogError (List Column) → Outcome
  | .ok columns =>
    if columns.length = 3 then .pass columnCheck (toString columns.length)
    else
      .fail columnCheck
        (toString columns.length ++ " " ++ Quoted.list (columns.map Column.name)) (failed columnCheck)
  | .error e => .fail columnCheck e.message (failed columnCheck)

/-- Neither database of the fixture is listed any more. -/
def judgeCleanup : Except CatalogError (List String) → Outcome
  | .ok names =>
    let left := names.filter fun name => name == fixtureSchema || name == secondSchema
    if left = [] then .pass cleanupCheck (Quoted.list names)
    else
      .fail cleanupCheck (Quoted.list names) ("teardown left databases: " ++ ", ".intercalate left)
  | .error e => .fail cleanupCheck e.message "cleanup check failed!"

/-- The outcomes of the checks between setup and teardown. -/
def Listings.outcomes (l : Listings) : List Outcome :=
  [judgeSchemas l.schemas, judgeTables l.tables, judgeColumns l.columns]

/-- The outcomes when setup failed, so that nothing could be checked. -/
def skipped (e : CatalogError) : List Outcome :=
  .fail setupCheck e.message "fixture setup failed!" ::
    [schemaCheck, tableCheck, columnCheck].map fun check =>
      .fail check "not run" (check ++ " skipped: fixture setup failed")

/-- The outcomes up to teardown. -/
def checks : Except CatalogError Listings → List Outcome
  | .ok l => l.outcomes
  | .error e => skipped e

/-- The outcomes of all checks. -/
def Answers.outcomes (a : Answers) : List Outcome := checks a.listings ++ [judgeCleanup a.left]

/-- The report on what was answered. -/
def Answers.report (a : Answers) : Report := ⟨a.outcomes⟩

/-! ## The run -/

/-- Runs the scenario. The engine comes back disposed. -/
def run (e : Engine σ) : StateM σ (Report × Engine σ) := do
  return ((← ask e).report, e.dispose)

end SeriesCatalog.Scenario
