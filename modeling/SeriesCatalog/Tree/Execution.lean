/-
Running statements on the tree. A statement that creates or deletes is done or turned down; a
listing answers with rows. The tree changes only when something was done.
-/
import SeriesCatalog.Tree.Listing
import SeriesCatalog.Statement.Parser

namespace SeriesCatalog.Tree

/-- What a statement that was accepted answers. -/
inductive Outcome
  | done
  | rows (table : Table)
  deriving Repr

/-- The answer to a change, and the tree after it. -/
def settle (t : Tree) : Except Rejection Tree → Except Rejection Outcome × Tree
  | .ok changed => (.ok .done, changed)
  | .error reason => (.error reason, t)

/-- Runs a statement. -/
def apply (t : Tree) : Statement → Except Rejection Outcome × Tree
  | .createDatabase path => t.settle (t.createDatabase path)
  | .deleteDatabases patterns => t.settle (t.deleteDatabases patterns)
  | .createSeries path info => t.settle (t.createSeries path info)
  | .deleteSeries pattern => t.settle (t.deleteSeries pattern)
  | .showDatabases pattern => (.ok (.rows (t.showDatabases pattern)), t)
  | .showDevices pattern => (.ok (.rows (t.showDevices pattern)), t)
  | .showSeries pattern => (.ok (.rows (t.showSeries pattern)), t)

/-- Reads a statement and runs it. -/
def execute (t : Tree) (sql : String) : Except Rejection Outcome × Tree :=
  match Statement.parse sql with
  | .ok statement => t.apply statement
  | .error fault => (.error (.malformed fault), t)

/-- Runs texts one after another, whatever becomes of each. -/
def run (t : Tree) (texts : List String) : Tree := texts.foldl (fun t sql => (t.execute sql).2) t

/-- Runs texts one after another up to the first that is turned down. -/
def seed (t : Tree) : List String → Except Rejection Unit × Tree
  | [] => (.ok (), t)
  | sql :: rest =>
    match t.execute sql with
    | (.ok _, t) => t.seed rest
    | (.error reason, t) => (.error reason, t)

end SeriesCatalog.Tree
