/-
The metadata tree: databases and the series under them, both in ascending order of their paths. One
database belongs to the system; it is listed but never written. Creating and deleting either yields
the changed tree or a reason, and then the tree stays as it was.
-/
import SeriesCatalog.Rejection
import SeriesCatalog.Path.Pattern
import SeriesCatalog.Ascending

namespace SeriesCatalog

/-- A stored series. -/
structure Series where
  path : Path
  info : SeriesInfo
  deriving DecidableEq, Repr

/-- Databases and series. -/
structure Tree where
  databases : List Path
  series : List Series
  deriving DecidableEq, Repr

namespace Tree

/-- The database that the service keeps for itself. -/
def systemDatabase : Path := ⟨"root.__system"⟩

/-- The tree that holds the system database and nothing else. -/
def initial : Tree := ⟨[systemDatabase], []⟩

instance : Inhabited Tree := ⟨initial⟩

/-- The databases other than the system's. -/
def userDatabases (t : Tree) : List Path := t.databases.filter (· ≠ systemDatabase)

/-- The properties of the series at a path. -/
def info? (t : Tree) (path : Path) : Option SeriesInfo :=
  (t.series.find? (·.path == path)).map Series.info

/-- The database above a path. -/
def ownerOf? (t : Tree) (path : Path) : Option Path := t.databases.find? (·.isAncestorOf path)

/-- Neither path may be a database while the other is one: they are equal or one is above the
other. -/
def overlaps (a b : Path) : Bool := a == b || a.isAncestorOf b || b.isAncestorOf a

/-- The tree with a new database. Its path has at least two nodes and no star, and lies neither on,
above nor below another database. -/
def createDatabase (t : Tree) (path : Path) : Except Rejection Tree :=
  if path.hasStar || path.nodes.length < 2 then .error (.invalidDatabasePath path)
  else if t.databases.any (overlaps · path) then .error (.databaseExists path)
  else .ok { t with databases := Ascending.insert Path.text path t.databases }

/-- The user databases that fit one of the patterns. -/
def selectedDatabases (t : Tree) (patterns : List Path) : List Path :=
  t.userDatabases.filter fun db => patterns.any db.fits

/-- The tree without the user databases that fit one of the patterns, and without the series under
them. There must be one. -/
def deleteDatabases (t : Tree) (patterns : List Path) : Except Rejection Tree :=
  let targets := t.selectedDatabases patterns
  if targets = [] then .error (.databaseMissing patterns)
  else
    .ok
      { databases := t.databases.filter (· ∉ targets)
        series := t.series.filter fun s => !targets.any (·.isAncestorOf s.path) }

/-- The tree with a new series. A user database lies above its path, and no series on, above or
below it. -/
def createSeries (t : Tree) (path : Path) (info : SeriesInfo) : Except Rejection Tree :=
  match t.ownerOf? path with
  | none => .error (.databaseMissing [path])
  | some owner =>
    if owner = systemDatabase then .error (.underSystemDatabase path)
    else if t.series.any (·.path == path) then .error (.seriesExists path)
    else if t.series.any fun s => s.path.isAncestorOf path || path.isAncestorOf s.path then
      .error (.conflictingSeries path)
    else .ok { t with series := Ascending.insert (·.path.text) ⟨path, info⟩ t.series }

/-- The tree without the series that fit a pattern. There must be one. -/
def deleteSeries (t : Tree) (pattern : Path) : Except Rejection Tree :=
  if t.series.any (·.path.fits pattern) then
    .ok { t with series := t.series.filter fun s => !s.path.fits pattern }
  else .error (.seriesMissing pattern)

end Tree

end SeriesCatalog
