/-
Catalog calls: the schemas of a server, the tables of a schema and the columns of a table. Each is a
listing statement and a reading of its rows. Names are checked before anything is sent.
-/
import SeriesCatalog.Engine

namespace SeriesCatalog.Engine

variable {σ : Type}

/-- The schemas, the system's included, in ascending order. -/
def schemaNames (e : Engine σ) : Call σ (List String) := do
  return Dialect.schemaNames (← e.query Dialect.schemaNamesSql)

/-- The tables of a schema, without its name, in ascending order. -/
def tableNames (e : Engine σ) (schema : String) : Call σ (List String) := do
  let sql ← Dialect.tableNamesSql schema
  return Dialect.tableNames schema (← e.query sql)

/-- The columns of a table, the column of instants first. -/
def columns (e : Engine σ) (table schema : String) : Call σ (List Column) := do
  let sql ← Dialect.columnsSql schema table
  return Dialect.columns schema table (← e.query sql)

/-- There is a schema of this name. -/
def hasSchema (e : Engine σ) (schema : String) : Call σ Bool := do
  return (← e.schemaNames).contains schema

/-- There is a table of this name, one with a column beside that of instants. -/
def hasTable (e : Engine σ) (table schema : String) : Call σ Bool := do
  return 1 < (← e.columns table schema).length

/-- The columns of a table's primary key. There are none. -/
def primaryKey (_ : Engine σ) (_table _schema : String) : List String := []

/-- The foreign keys of a table. There are none. -/
def foreignKeys (_ : Engine σ) (_table _schema : String) : List String := []

/-- The indexes of a table. There are none. -/
def indexes (_ : Engine σ) (_table _schema : String) : List String := []

/-! ## Listings behind the calls -/

/-- Rows are read where they are answered, and an error is passed on. -/
theorem on_read {α : Type} (e : Engine σ) (sql : String) (read : Table → α) (s : σ) :
    ((do return read (← e.query sql)) : Call σ α).on s = (((e.query sql).on s).1.map read, ((e.query sql).on s).2) := by
  rw [Call.on_bind]
  rcases (e.query sql).on s with ⟨r, s'⟩
  cases r <;> rfl

theorem on_schemaNames (e : Engine σ) (s : σ) :
    e.schemaNames.on s =
      (((e.query Dialect.schemaNamesSql).on s).1.map Dialect.schemaNames, ((e.query Dialect.schemaNamesSql).on s).2) :=
  e.on_read _ _ s

theorem on_tableNames {schema sql : String} (h : Dialect.tableNamesSql schema = .ok sql) (e : Engine σ) (s : σ) :
    (e.tableNames schema).on s =
      (((e.query sql).on s).1.map (Dialect.tableNames schema), ((e.query sql).on s).2) := by
  rw [tableNames, h, Call.on_bind, Call.on_lift]
  exact e.on_read _ _ s

theorem on_columns {schema table sql : String} (h : Dialect.columnsSql schema table = .ok sql) (e : Engine σ) (s : σ) :
    (e.columns table schema).on s =
      (((e.query sql).on s).1.map (Dialect.columns schema table), ((e.query sql).on s).2) := by
  rw [columns, h, Call.on_bind, Call.on_lift]
  exact e.on_read _ _ s

end SeriesCatalog.Engine
