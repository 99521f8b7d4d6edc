/-
The schemes for which a driver is registered. Schemes are compared without regard to ASCII case,
held in small letters and listed in ascending order. There is one driver, so registering a scheme a
second time changes nothing.
-/
import SeriesCatalog.Ascending
import SeriesCatalog.Text.Cut
import SeriesCatalog.Dialect

namespace SeriesCatalog

/-- The drivers that a scheme may stand for. -/
inductive Driver
  | rest
  deriving DecidableEq, Repr

namespace Driver

/-- The name of a driver. -/
def name : Driver → String
  | rest => "iotdb-rest"

/-- The name of the dialect that a driver speaks. -/
def dialect : Driver → String
  | rest => Dialect.name

end Driver

/-- The registered schemes, each with its driver. -/
structure Registry where
  entries : List (String × Driver) := []
  deriving DecidableEq, Repr, Inhabited

namespace Registry

/-- The scheme that stands for the REST driver from the start. -/
def defaultScheme : String := "iotdb"

/-- The registry of the default scheme. -/
def withDefaults : Registry := ⟨[(defaultScheme, .rest)]⟩

/-- A scheme in small letters. -/
def key (scheme : String) : String := String.ofList (Text.lower scheme.toList)

/-- The registered schemes. -/
def schemes (r : Registry) : List String := r.entries.map (·.1)

/-- The driver of a scheme, in whatever case it is written. -/
def driver? (r : Registry) (scheme : String) : Option Driver := r.entries.lookup (key scheme)

/-- The driver of a scheme, or an error that names the scheme as it is written. -/
def resolve (r : Registry) (scheme : String) : Except CatalogError Driver :=
  match r.driver? scheme with
  | some driver => .ok driver
  | none => .error (.unknownScheme scheme)

/-- The registry with the scheme in it, and whether it is new there. -/
def register (r : Registry) (scheme : String) (driver : Driver) : Bool × Registry :=
  match r.driver? scheme with
  | some _ => (false, r)
  | none => (true, ⟨Ascending.insert (·.1) (key scheme, driver) r.entries⟩)

/-- The registry with each of the schemes in it. -/
def registerAll (r : Registry) (schemes : List String) : Registry :=
  schemes.foldl (fun r scheme => (r.register scheme .rest).2) r

example : ((withDefaults.register "IoTDB" .rest).1, (withDefaults.registerAll ["Ä", "B"]).schemes) =
    (false, ["b", "iotdb", "Ä"]) := by decide +kernel

end Registry

end SeriesCatalog
