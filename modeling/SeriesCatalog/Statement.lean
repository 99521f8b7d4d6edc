/-
Statements of the metadata language: creating and deleting databases and series, and listing
databases, devices and series. Every path in them is already split off the text; a listing without
a path lists everything.
-/
import SeriesCatalog.Path

namespace SeriesCatalog

/-- What a series stores at each instant. -/
inductive DataType
  | boolean
  | int32
  | int64
  | float
  | double
  | text
  deriving DecidableEq, Repr, Inhabited

namespace DataType

/-- The name a statement declares the type by. -/
def name : DataType → String
  | boolean => "BOOLEAN"
  | int32 => "INT32"
  | int64 => "INT64"
  | float => "FLOAT"
  | double => "DOUBLE"
  | text => "TEXT"

/-- All types, in the order of their declaration. -/
def all : List DataType := [boolean, int32, int64, float, double, text]

/-- The type of this name, spelled in capitals. -/
def ofName? (s : String) : Option DataType := all.find? (·.name == s)

/-- The encoding of a series that declares none. -/
def defaultEncoding : DataType → String
  | boolean | text => "PLAIN"
  | int32 | int64 => "TS_2DIFF"
  | float | double => "GORILLA"

theorem ofName?_name (t : DataType) : ofName? t.name = some t := by cases t <;> decide

theorem name_of_ofName? {s : String} {t : DataType} (h : ofName? s = some t) : t.name = s := by
  simpa using List.find?_some h

end DataType

/-- The declared properties of a series. -/
structure SeriesInfo where
  dataType : DataType
  encoding : String
  compression : String
  deriving DecidableEq, Repr, Inhabited

/-- The compression of a series that declares none. -/
def SeriesInfo.defaultCompression : String := "LZ4"

/-- A statement. -/
inductive Statement
  | createDatabase (path : Path)
  | deleteDatabases (patterns : List Path)
  | createSeries (path : Path) (info : SeriesInfo)
  | deleteSeries (pattern : Path)
  | showDatabases (pattern : Option Path)
  | showDevices (pattern : Option Path)
  | showSeries (pattern : Option Path)
  deriving DecidableEq, Repr

namespace Statement

/-- The statement asks for rows. -/
def isQuery : Statement → Bool
  | showDatabases _ | showDevices _ | showSeries _ => true
  | createDatabase _ | deleteDatabases _ | createSeries .. | deleteSeries _ => false

/-- Why a text is no statement. -/
inductive Fault
  | unsupported (text : String)
  | notUnderRoot (path : String)
  | emptyNode (path : String)
  | wildcardInSeries (path : String)
  | attributeWithoutValue (pair : String)
  | unknownAttribute (key : String)
  | noDataType
  | unsupportedDataType (name : String)
  deriving DecidableEq, Repr

namespace Fault

/-- The fault in words. -/
def message : Fault → String
  | unsupported text => "unsupported statement '" ++ text ++ "'"
  | notUnderRoot path => "path '" ++ path ++ "' must start with root"
  | emptyNode path => "path '" ++ path ++ "' has an empty node"
  | wildcardInSeries path => "wildcard in series path '" ++ path ++ "'"
  | attributeWithoutValue pair => "attribute '" ++ pair ++ "' has no value"
  | unknownAttribute key => "unknown attribute '" ++ key ++ "'"
  | noDataType => "datatype is required"
  | unsupportedDataType name => "unsupported datatype '" ++ name ++ "'"

end Fault

end Statement

end SeriesCatalog
