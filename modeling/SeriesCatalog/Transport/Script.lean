/-
Scripted transports, which answer from a list of rules instead of a server. A statement takes the
answers of the rules that name it, one call after another, and keeps to the last of them. Without a
rule it succeeds with no rows.
-/
import SeriesCatalog.Transport

namespace SeriesCatalog

/-- The answer to one call of one statement. -/
structure Script.Rule where
  sql : String
  answer : Except CatalogError Table

/-- The rules that are left. -/
abbrev Script := List Script.Rule

namespace Script

/-- The rules without the first that names the statement. -/
def dropRule (sql : String) (script : Script) : Script :=
  script.eraseP (·.sql == sql)

/-- The answer to a statement and the rules left after it. A rule goes unless it is the only one of
its statement. -/
def take (script : Script) (sql : String) : Except CatalogError Table × Script :=
  match script.find? (·.sql == sql) with
  | none => (.ok {}, script)
  | some rule =>
    if (dropRule sql script).any (·.sql == sql) then (rule.answer, dropRule sql script)
    else (rule.answer, script)

/-- The answer to a statement as a call. -/
def answer (sql : String) : Call Script Table := fun script => script.take sql

/-- The transport that answers from a script. -/
def transport : Transport Script where
  ping := discard (answer "ping")
  execute sql := discard (answer sql)
  query sql := answer sql

end Script

end SeriesCatalog
