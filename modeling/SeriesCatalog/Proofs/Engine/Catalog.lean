/-
Catalog calls as one kind of call. Each builds a statement from names, sends it and reads the rows of the
answer. A name that is no identifier keeps the statement from being built, and then nothing is sent.
-/
import SeriesCatalog.Inspector
import SeriesCatalog.Proofs.Engine.Recorded

namespace SeriesCatalog

variable {σ α β : Type}

/-- What is answered is read without a further request. -/
theorem Call.on_read (call : Call σ α) (read : α → β) (s : σ) :
    Call.on (do return read (← call)) s = ((call.on s).1.map read, (call.on s).2) := by
  rw [bind_pure_comp, Call.on_map]

namespace Dialect

/-- The statement, unless one of the names is no identifier; the first that is none is reported. -/
def built (names : List String) (sql : String) : Except CatalogError String :=
  match names.find? (!isIdentifier ·) with
  | some name => .error (.invalidIdentifier name)
  | none => .ok sql

theorem find?_eq_none_iff {names : List String} :
    names.find? (!isIdentifier ·) = none ↔ ∀ name ∈ names, isIdentifier name = true := by
  simp

theorem tableNamesSql_eq_built (schema : String) :
    tableNamesSql schema = built [schema] ("SHOW DEVICES " ++ schema ++ ".**") := by
  unfold tableNamesSql validate built
  cases h : isIdentifier schema <;> simp only [List.find?_cons, List.find?_nil, h] <;> rfl

theorem columnsSql_eq_built (schema table : String) :
    columnsSql schema table = built [schema, table] ("SHOW TIMESERIES " ++ schema ++ "." ++ table ++ ".*") := by
  unfold columnsSql validate built
  cases h : isIdentifier schema <;> cases h' : isIdentifier table <;>
    simp only [List.find?_cons, List.find?_nil, h, h'] <;> rfl

end Dialect

namespace Engine

variable {e : Engine σ}

/-- The call that asks for the rows of a statement, if it could be built, and reads them. -/
def ask (e : Engine σ) (statement : Except CatalogError String) (read : Table → α) : Call σ α := do
  let sql ← statement
  return read (← e.query sql)

theorem ask_ok (sql : String) (read : Table → α) : e.ask (.ok sql) read = (do return read (← e.query sql)) := rfl

theorem ask_error (error : CatalogError) (read : Table → α) : e.ask (.error error) read = throw error := rfl

theorem schemaNames_eq_ask : e.schemaNames = e.ask (Dialect.built [] "SHOW DATABASES") Dialect.schemaNames := rfl

theorem tableNames_eq_ask (schema : String) :
    e.tableNames schema =
      e.ask (Dialect.built [schema] ("SHOW DEVICES " ++ schema ++ ".**")) (Dialect.tableNames schema) := by
  rw [← Dialect.tableNamesSql_eq_built]
  rfl

theorem columns_eq_ask (table schema : String) :
    e.columns table schema =
      e.ask (Dialect.built [schema, table] ("SHOW TIMESERIES " ++ schema ++ "." ++ table ++ ".*"))
        (Dialect.columns schema table) := by
  rw [← Dialect.columnsSql_eq_built]
  rfl

theorem read_ask (statement : Except CatalogError String) (read : Table → α) (f : α → β) :
    (do return f (← e.ask statement read)) = e.ask statement fun rows => f (read rows) := by
  cases statement with
  | error error => rfl
  | ok sql => simp [ask_ok]

theorem hasSchema_eq_ask (schema : String) :
    e.hasSchema schema =
      e.ask (Dialect.built [] "SHOW DATABASES") fun rows => (Dialect.schemaNames rows).contains schema := by
  rw [hasSchema, schemaNames_eq_ask, read_ask]

theorem hasTable_eq_ask (table schema : String) :
    e.hasTable table schema =
      e.ask (Dialect.built [schema, table] ("SHOW TIMESERIES " ++ schema ++ "." ++ table ++ ".*"))
        fun rows => decide (1 < (Dialect.columns schema table rows).length) := by
  rw [hasTable, columns_eq_ask, read_ask]

/-! ## After disposal -/

/-- What a call is refused for that puts these names into its statement, once the engine has been disposed. -/
def refusal (names : List String) : CatalogError :=
  match names.find? (!Dialect.isIdentifier ·) with
  | some name => .invalidIdentifier name
  | none => .disposed

theorem refusal_eq_disposed_iff {names : List String} :
    refusal names = .disposed ↔ ∀ name ∈ names, Dialect.isIdentifier name = true := by
  rw [← Dialect.find?_eq_none_iff, refusal]
  cases names.find? (!Dialect.isIdentifier ·) <;> simp

theorem refusal_of_not_isIdentifier {before after : List String} {name : String}
    (hbefore : ∀ valid ∈ before, Dialect.isIdentifier valid = true) (h : Dialect.isIdentifier name = false) :
    refusal (before ++ name :: after) = .invalidIdentifier name := by
  rw [refusal, List.find?_append, Dialect.find?_eq_none_iff.2 hbefore]
  simp [h]

theorem on_ask_of_isDisposed (h : e.isDisposed = true) (names : List String) (sql : String) (read : Table → α) (s : σ) :
    (e.ask (Dialect.built names sql) read).on s = (.error (refusal names), s) := by
  unfold Dialect.built refusal
  cases names.find? (!Dialect.isIdentifier ·) with
  | some name => rfl
  | none =>
    rw [ask_ok, Call.on_read, query, on_call_of_isDisposed h]
    rfl

end Engine

end SeriesCatalog
