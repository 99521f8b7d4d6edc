/-
Listings of the tree: its databases, its series, and its devices, which are the paths directly above
a series. A listing selects by a pattern and comes in ascending order of its first column.
-/
import SeriesCatalog.Tree
import SeriesCatalog.Table

namespace SeriesCatalog.Tree

/-- The pattern of a listing that gives none. -/
def everything : Path := ⟨"root.**"⟩

/-- The databases that fit the pattern, the system's included. -/
def showDatabases (t : Tree) (pattern : Option Path) : Table where
  columns :=
    ["Database", "SchemaReplicationFactor", "DataReplicationFactor", "TimePartitionInterval"]
  rows :=
    (t.databases.filter (·.fits (pattern.getD everything))).map fun db =>
      [.string db.text, .int 1, .int 1, .int 604800000]

/-- The paths directly above a series, each once. -/
def devices (t : Tree) : List Path :=
  (Ascending.texts ((t.series.filterMap (·.path.parent?)).map Path.text)).map Path.mk

/-- The devices that fit the pattern. -/
def showDevices (t : Tree) (pattern : Option Path) : Table where
  columns := ["Device", "IsAligned", "Template", "TTL(ms)"]
  rows :=
    (t.devices.filter (·.fits (pattern.getD everything))).map fun device =>
      [.string device.text, .string "false", .string "null", .string "INF"]

/-- The row of a series. -/
def seriesRow (t : Tree) (s : Series) : List Json :=
  [.string s.path.text, .null, .string (((t.ownerOf? s.path).map Path.text).getD ""),
    .string s.info.dataType.name, .string s.info.encoding, .string s.info.compression, .null, .null,
    .null, .null, .string "BASE"]

/-- The series that fit the pattern. -/
def showSeries (t : Tree) (pattern : Option Path) : Table where
  columns :=
    ["Timeseries", "Alias", "Database", "DataType", "Encoding", "Compression", "Tags", "Attributes",
      "Deadband", "DeadbandParameters", "ViewType"]
  rows := (t.series.filter (·.path.fits (pattern.getD everything))).map t.seriesRow

end SeriesCatalog.Tree
