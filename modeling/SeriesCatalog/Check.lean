/-
Acceptance runs against a server that is named by a URL, and what they log. A run logs what it sends, what
fails, every check, and the data types it has no mapping for; all of that is told by what it is answered.
-/
import SeriesCatalog.Log
import SeriesCatalog.Scenario
import SeriesCatalog.Settings.Check

namespace SeriesCatalog.Check

open Log Report Scenario

/-! ## Events -/

/-- A text is sent to the server. -/
def sent (s : Sent) : Event := ⟨.debug, "iotdb_dialect::transport", s.text⟩

/-- The listing of this text is asked for; a text that could not be made is not sent. -/
def asked : Except CatalogError String → List Event
  | .ok sql => [sent (.query sql)]
  | .error _ => []

/-- A statement is run in a session. -/
def attempted (a : Attempt) : List Event :=
  sent (.execute a.sql) ::
    match a.answer with
    | .ok () => []
    | .error e => [⟨.warn, "iotdb_dialect::engine", "Statement failed: " ++ a.sql ++ ": " ++ e.message⟩]

/-- A session with these statements is closed. -/
def closed (l : List Attempt) : Event :=
  let completed := l.filter fun a => a.answer.isOk
  ⟨.debug, "iotdb_dialect::engine", "Session closed after " ++ toString completed.length ++ " statements"⟩

/-- The outcome of a check is recorded. -/
def recorded (o : Outcome) : Event :=
  if o.passed then ⟨.info, "dialect_harness::report", "check passed: " ++ o.name⟩
  else ⟨.warn, "dialect_harness::report", "check failed: " ++ o.name ++ ": " ++ o.message⟩

/-- The data type of a column has no mapping. -/
def unmapped (c : Column) : Option Event :=
  match c.type with
  | .unknown name =>
    some ⟨.warn, "iotdb_dialect::types", "No relational mapping for data type '" ++ name ++ "'"⟩
  | _ => none

/-- The columns of a listing are read. -/
def read : Except CatalogError (List Column) → List Event
  | .ok columns => columns.filterMap unmapped
  | .error _ => []

/-- The events of setup. Its session is closed only if no statement fails. -/
def setupEvents (l : List Attempt) : List Event :=
  l.flatMap attempted ++
    match ended l with
    | .ok () => [closed l]
    | .error _ => []

/-- The events between setup and teardown. -/
def checkEvents : Except CatalogError Listings → List Event
  | .ok l =>
    asked (.ok Dialect.schemaNamesSql) ++ [recorded (judgeSchemas l.schemas)] ++
      (asked (Dialect.tableNamesSql fixtureSchema) ++ [recorded (judgeTables l.tables)]) ++
      (asked (Dialect.columnsSql fixtureSchema "device1") ++ read l.columns ++ [recorded (judgeColumns l.columns)])
  | .error e => (skipped e).map recorded

/-- The events of one statement of teardown. -/
def teardownEvent (a : Attempt) : List Event :=
  attempted a ++
    match a.answer with
    | .ok () => []
    | .error e => [⟨.warn, "dialect_harness::scenario", "Teardown statement failed: " ++ e.message⟩]

/-- The events of the scenario over an engine that is connected to this server. -/
def scenarioEvents (target : String) (a : Answers) : List Event :=
  setupEvents a.setup ++ checkEvents a.listings ++ (a.teardown.flatMap teardownEvent ++ [closed a.teardown]) ++
    (asked (.ok Dialect.schemaNamesSql) ++ [recorded (judgeCleanup a.left)]) ++
    [⟨.info, "iotdb_dialect::engine", "Disposed engine for " ++ target⟩]

/-- An engine is connected by the driver of the URL's scheme. -/
def connecting (registry : Registry) (url : ServerUrl) : List Event :=
  match registry.driver? url.scheme with
  | some driver =>
    [⟨.info, "iotdb_dialect::engine", "Connecting to " ++ url.redacted ++ " with driver " ++ driver.name⟩]
  | none => []

/-! ## Runs -/

variable {σ : Type}

/-- Connects to the server that a URL names and runs the scenario there, and keeps what is logged. If no
driver serves the URL's scheme, nothing is sent. -/
def logged (settings : Settings.Check) (registry : Registry) (url : ServerUrl) (link : Http.Link σ) :
    StateM σ (Except CheckError Report × List Event) := do
  match Engine.connect registry url settings.engine link with
  | .ok engine =>
    let answers ← ask engine
    return (.ok answers.report, connecting registry url ++ scenarioEvents engine.target answers)
  | .error e => return (.error (.catalog e), connecting registry url)

/-- Connects to the server that a URL names and runs the scenario there. -/
def runAgainst (settings : Settings.Check) (registry : Registry) (url : ServerUrl) (link : Http.Link σ) :
    StateM σ (Except CheckError Report) :=
  Prod.fst <$> logged settings registry url link

end SeriesCatalog.Check
