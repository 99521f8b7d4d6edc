/-
The scenario as the server hears it. Whatever the server answers, and however its answers depend on what
was sent before, setup is sent up to the first statement that fails; the three listings follow exactly if
none did; both deletions and one last listing end every conversation. The report has one outcome for each
check, and the one on what is left is judged by the last listing. An engine that has been disposed sends
nothing, and fails every check.
-/
import SeriesCatalog.Proofs.Ascending
import SeriesCatalog.Proofs.Engine.Recorded
import SeriesCatalog.Proofs.Scenario.Protocol

namespace SeriesCatalog.Scenario

open Report

variable {σ : Type} {e : Engine σ}

/-! ## Outcomes -/

theorem name_judgeSchemas (r : Except CatalogError (List String)) : (judgeSchemas r).name = schemaCheck := by
  unfold judgeSchemas
  split
  · dsimp only
    split <;> rfl
  · rfl

theorem name_judgeTables (r : Except CatalogError (List String)) : (judgeTables r).name = tableCheck := by
  unfold judgeTables
  split
  · split <;> rfl
  · rfl

theorem name_judgeColumns (r : Except CatalogError (List Column)) : (judgeColumns r).name = columnCheck := by
  unfold judgeColumns
  split
  · split <;> rfl
  · rfl

theorem name_judgeCleanup (r : Except CatalogError (List String)) : (judgeCleanup r).name = cleanupCheck := by
  unfold judgeCleanup
  split
  · dsimp only
    split <;> rfl
  · rfl

/-- The last check passes if the names were told and neither database is among them. -/
theorem passed_judgeCleanup_iff {r : Except CatalogError (List String)} :
    (judgeCleanup r).passed = true ↔ ∃ names, r = .ok names ∧ fixtureSchema ∉ names ∧ secondSchema ∉ names := by
  unfold judgeCleanup
  cases r with
  | error error => exact iff_of_false nofun nofun
  | ok names =>
    simp only [Except.ok.injEq, exists_eq_left', ← filter_left_eq_nil_iff]
    split
    · rename_i hnone
      exact iff_of_true rfl hnone
    · rename_i hsome
      exact iff_of_false nofun hsome

/-- The listing was answered and names neither database. -/
def CleanedUp (listing : Except CatalogError Table) : Prop :=
  ∃ table, listing = .ok table ∧ fixtureSchema ∉ table.columnOrFirst "Database" ∧
    secondSchema ∉ table.columnOrFirst "Database"

theorem passed_judgeCleanup_iff_cleanedUp {listing : Except CatalogError Table} :
    (judgeCleanup (listing.map Dialect.schemaNames)).passed = true ↔ CleanedUp listing := by
  have hlisted : ∀ (table : Table) (schema : String), schema ≠ "" →
      (schema ∈ Dialect.schemaNames table ↔ schema ∈ table.columnOrFirst "Database") := by
    intro table schema hne
    rw [Dialect.schemaNames, Ascending.mem_texts, List.mem_filter]
    simp [hne]
  rw [passed_judgeCleanup_iff, CleanedUp]
  cases listing with
  | error error => exact iff_of_false nofun nofun
  | ok table =>
    simp only [Except.map, Except.ok.injEq, exists_eq_left', hlisted table fixtureSchema (by decide),
      hlisted table secondSchema (by decide)]

/-! ## Parts of the conversation -/

variable {s : σ} {heard : List Turn}

/-- The checks between setup and teardown are three listings, each asked for whatever became of the others. -/
theorem run_inspect_recorded (h : e.isDisposed = false) (s : σ) (heard : List Turn) :
    ∃ schemas tables columns,
      ((inspect e).run s).1.outcomes = [judgeSchemas (schemas.map Dialect.schemaNames),
        judgeTables (tables.map (Dialect.tableNames fixtureSchema)),
        judgeColumns (columns.map (Dialect.columns fixtureSchema "device1"))] ∧
      (inspect e.recorded).run (s, heard) = (((inspect e).run s).1, (((inspect e).run s).2, heard ++
        [.query "SHOW DATABASES" schemas, .query "SHOW DEVICES root.cursor.**" tables,
          .query "SHOW TIMESERIES root.cursor.device1.*" columns])) := by
  have htables : Dialect.tableNamesSql fixtureSchema = .ok "SHOW DEVICES root.cursor.**" := by decide +kernel
  have hcolumns : Dialect.columnsSql fixtureSchema "device1" = .ok "SHOW TIMESERIES root.cursor.device1.*" := by
    decide +kernel
  simp only [run_inspect, Engine.on_schemaNames, Engine.on_tableNames htables, Engine.on_columns hcolumns,
    Engine.on_query_recorded h]
  exact ⟨_, _, _, rfl, by simp [Dialect.schemaNamesSql]⟩

/-- Both deletions are sent, whatever becomes of them. -/
theorem run_teardown_recorded (h : e.isDisposed = false) (s : σ) (heard : List Turn) :
    ∃ first second, ((teardown e.recorded).run (s, heard)).2 = (((teardown e).run s).2, heard ++
      [.execute "delete database root.cursor" first, .execute "delete database root.cursor_s1" second]) := by
  simp only [run_teardown, Engine.on_execute_recorded h]
  exact ⟨_, _, by rw [List.append_assoc]; rfl⟩

/-! ## The whole run -/

/-- How a run begins over an engine that is not disposed, with the outcomes it records: setup up to the first statement
that fails, and, if none does, the three listings. -/
inductive Opening : List Turn → List Outcome → Prop
  | checked {begun : List Turn} {checks : List Outcome} (hsetup : Engine.RunUp setupStatements begun (.ok ()))
      (schemas tables columns : Except CatalogError Table)
      (hchecks : checks = [judgeSchemas (schemas.map Dialect.schemaNames),
        judgeTables (tables.map (Dialect.tableNames fixtureSchema)),
        judgeColumns (columns.map (Dialect.columns fixtureSchema "device1"))])
      (hnames : checks.map Outcome.name = ["get_schema_names", "get_table_names", "get_columns"]) :
      Opening (begun ++ [.query "SHOW DATABASES" schemas, .query "SHOW DEVICES root.cursor.**" tables,
        .query "SHOW TIMESERIES root.cursor.device1.*" columns]) checks
  | stopped {begun : List Turn} {checks : List Outcome} {error : CatalogError}
      (hsetup : Engine.RunUp setupStatements begun (.error error))
      (hnames : checks.map Outcome.name = ["fixture_setup", "get_schema_names", "get_table_names", "get_columns"])
      (hfailed : ∀ o ∈ checks, o.passed = false) : Opening begun checks

/-- A run over an engine that is not disposed, with the outcomes it records: both deletions and a last listing follow
what went before, whatever that was and whatever they are answered, and the last check goes by that listing. -/
inductive Course : List Turn → List Outcome → Prop
  | ended {opening : List Turn} {checks : List Outcome} (hopening : Opening opening checks)
      (first second : Except CatalogError Unit) (listing : Except CatalogError Table) {cleanup : Outcome}
      (hname : cleanup.name = "cleanup") (hpassed : cleanup.passed = true ↔ CleanedUp listing) :
      Course (opening ++ [.execute "delete database root.cursor" first,
        .execute "delete database root.cursor_s1" second, .query "SHOW DATABASES" listing]) (checks ++ [cleanup])

theorem opening_skipped {begun : List Turn} {error : CatalogError}
    (h : Engine.RunUp setupStatements begun (.error error)) : Opening begun (skipped error) := by
  refine .stopped h rfl fun o ho => ?_
  simp only [skipped, List.map_cons, List.map_nil, List.mem_cons, List.not_mem_nil, or_false] at ho
  rcases ho with rfl | rfl | rfl | rfl <;> rfl

/-- The same is said and recorded up to teardown, whether or not anybody listens. -/
theorem exists_opening (h : e.isDisposed = false) (s : σ) :
    ∃ opening checks s', Opening opening checks ∧ (run e).run s = ending e checks s' ∧
      (run e.recorded).run (s, []) = ending e.recorded checks (s', opening) := by
  obtain ⟨begun, hbegun, hsetup⟩ := Engine.on_forM_recorded h setupStatements s []
  -- by how setup ended, which is the same with and without a listener
  rcases hplain : Call.on (setupStatements.forM e.execute) s with ⟨error | _, s'⟩
  · rw [hplain] at hbegun hsetup
    exact ⟨begun, _, s', opening_skipped hbegun, run_of_setup_error hplain, run_of_setup_error hsetup⟩
  · rw [hplain] at hbegun hsetup
    obtain ⟨schemas, tables, columns, hchecks, hinspect⟩ := run_inspect_recorded h s' begun
    have hnames : ((inspect e).run s').1.outcomes.map Outcome.name =
        ["get_schema_names", "get_table_names", "get_columns"] := by
      rw [hchecks]
      simp [name_judgeSchemas, name_judgeTables, name_judgeColumns, schemaCheck, tableCheck, columnCheck]
    refine ⟨_, _, _, .checked hbegun schemas tables columns hchecks hnames, run_of_setup_ok hplain, ?_⟩
    rw [run_of_setup_ok hsetup, List.nil_append, hinspect]

/-- Teardown and the last listing come after whatever was said before. -/
theorem exists_ending (h : e.isDisposed = false) (checks : List Outcome) (s : σ) (heard : List Turn) :
    ∃ first second listing s',
      ending e checks s = ((⟨checks ++ [judgeCleanup (listing.map Dialect.schemaNames)]⟩, e.dispose), s') ∧
      ending e.recorded checks (s, heard) =
        ((⟨checks ++ [judgeCleanup (listing.map Dialect.schemaNames)]⟩, e.recorded.dispose),
          (s', heard ++ [.execute "delete database root.cursor" first,
            .execute "delete database root.cursor_s1" second, .query "SHOW DATABASES" listing])) := by
  obtain ⟨first, second, hteardown⟩ := run_teardown_recorded h s heard
  refine ⟨first, second, _, _, by rw [ending, Engine.on_schemaNames], ?_⟩
  rw [ending, hteardown, Engine.on_schemaNames, Engine.on_query_recorded h]
  dsimp only
  rw [List.append_assoc]
  rfl

/-- Over an engine that has been disposed every check fails without a word. -/
theorem run_of_isDisposed (h : e.isDisposed = true) (s : σ) :
    (run e).run s = ((⟨skipped .disposed ++ [judgeCleanup (.error .disposed)]⟩, e.dispose), s) := by
  have hexecute : ∀ sql s, (e.execute sql).on s = (.error .disposed, s) := fun sql s => Engine.on_call_of_isDisposed h _
  have hschemas : ∀ s, e.schemaNames.on s = (.error .disposed, s) := by
    intro s
    rw [Engine.on_schemaNames, Engine.query, Engine.on_call_of_isDisposed h]
    rfl
  have hsetup : Call.on (setupStatements.forM e.execute) s = (.error .disposed, s) := by
    rw [setupStatements, Call.on_forM_cons, hexecute]
  rw [run_of_setup_error hsetup, ending, run_teardown, hexecute, hexecute, hschemas]

/-- The course of the scenario over any server. It runs the same whether or not its turns are kept, and leaves the
engine disposed. What is said, and what is recorded, goes by the answers; over an engine that had been disposed nothing
is said and all five checks fail. -/
theorem course_of_run (e : Engine σ) (s : σ) :
    ∃ report after s' heard, (run e).run s = ((report, after), s') ∧
      (run e.recorded).run (s, []) = ((report, after.recorded), (s', heard)) ∧ after.isDisposed = true ∧
      (e.isDisposed = false → Course heard report.outcomes) ∧
      (e.isDisposed = true → heard = [] ∧ s' = s ∧
        report.outcomes.map Outcome.name =
          ["fixture_setup", "get_schema_names", "get_table_names", "get_columns", "cleanup"] ∧
        ∀ o ∈ report.outcomes, o.passed = false) := by
  cases h : e.isDisposed with
  | false =>
    obtain ⟨opening, checks, s', hopening, hplain, hrecorded⟩ := exists_opening h s
    obtain ⟨first, second, listing, s'', hend, hendRecorded⟩ := exists_ending h checks s' opening
    exact ⟨_, e.dispose, s'', _, hplain.trans hend, hrecorded.trans hendRecorded, rfl,
      fun _ => .ended hopening first second listing (name_judgeCleanup _) passed_judgeCleanup_iff_cleanedUp, nofun⟩
  | true =>
    refine ⟨_, _, _, [], run_of_isDisposed h s, run_of_isDisposed (by simpa using h) _, rfl, nofun,
      fun _ => ⟨rfl, rfl, rfl, fun o ho => ?_⟩⟩
    simp only [skipped, List.map_cons, List.map_nil, List.cons_append, List.nil_append, List.mem_cons,
      List.not_mem_nil, or_false] at ho
    rcases ho with rfl | rfl | rfl | rfl | rfl <;> rfl

end SeriesCatalog.Scenario
