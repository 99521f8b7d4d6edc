/-
Reading a statement from its text. Blanks and semicolons around the statement do not count, words
are separated by any blanks, and keywords are read without regard to ASCII case. Paths keep their
case. A list of paths and a list of attributes are separated by commas, with or without blanks;
pieces between commas that are empty are passed over.
-/
import SeriesCatalog.Statement
import SeriesCatalog.Text.Cut

namespace SeriesCatalog.Statement

open Text

/-! ## Words -/

/-- A word that has a meaning of its own at some place of a statement. -/
inductive Keyword
  | create
  | delete
  | drop
  | set
  | present
  | database
  | databases
  | storage
  | group
  | onto
  | timeseries
  | devices
  | having
  deriving DecidableEq, Repr

/-- The spelling of each keyword. -/
def Keyword.spelling : Keyword → String
  | create => "create"
  | delete => "delete"
  | drop => "drop"
  | set => "set"
  | present => "show"
  | database => "database"
  | databases => "databases"
  | storage => "storage"
  | group => "group"
  | onto => "to"
  | timeseries => "timeseries"
  | devices => "devices"
  | having => "with"

/-- All keywords. -/
def Keyword.all : List Keyword :=
  [create, delete, drop, set, present, database, databases, storage, group, onto, timeseries, devices,
    having]

/-- The keyword that a word spells, in whatever case. -/
def Keyword.ofWord? (word : List Char) : Option Keyword :=
  all.find? fun k => k.spelling.toList == lower word

theorem Keyword.ofWord?_lower (word : List Char) : ofWord? (lower word) = ofWord? word := by
  have h : lower (lower word) = lower word := by
    simp only [lower, List.map_map]
    apply List.map_congr_left
    intro c _
    simp only [Function.comp_apply]
    delta Char.toLower
    split <;> rename_i hc
    · split
      · rename_i hc'
        exfalso
        obtain ⟨h1, h2⟩ := hc
        simp only [ge_iff_le, UInt32.le_iff_toNat_le] at h1 h2 hc'
        simp [UInt32.toNat_add] at hc' h1 h2
        omega
      · rfl
    · rfl
  simp [ofWord?, h]

/-! ## Paths -/

/-- The path that a word spells. Commas at its end do not count; the first node is `root` and no
node is empty. -/
def path (word : List Char) : Except Fault Path :=
  let p : Path := ⟨String.ofList (Cut.trimEnd (· == ',') (trim word))⟩
  if p.nodes.head? ≠ some "root" then .error (.notUnderRoot p.text)
  else if p.nodes.contains "" then .error (.emptyNode p.text)
  else .ok p

/-- The non-empty pieces between commas, without the blanks around them. -/
def listed (cs : List Char) : List (List Char) := ((pieces ',' cs).map trim).filter (· ≠ [])

/-- The paths of a list that takes up these words. -/
def paths (ws : List (List Char)) : Except Fault (List Path) := (listed (join ' ' ws)).mapM path

/-! ## Attributes of a series -/

/-- The attributes given so far. -/
structure Attributes where
  dataType : Option String := none
  encoding : Option String := none
  compression : Option String := none
  deriving DecidableEq, Repr

namespace Attributes

/-- One attribute added; a later value of the same attribute takes the place of an earlier one.
Keys are read without regard to case and values are kept in capitals. -/
def add (given : Attributes) (pair : List Char) : Except Fault Attributes :=
  match cutFirst ['='] pair with
  | none => .error (.attributeWithoutValue (String.ofList pair))
  | some (before, after) =>
    let value := String.ofList (upper (trim after))
    let key := String.ofList (lower (trim before))
    if key = "datatype" then .ok { given with dataType := some value }
    else if key = "encoding" then .ok { given with encoding := some value }
    else if key = "compression" ∨ key = "compressor" then
      .ok { given with compression := some value }
    else .error (.unknownAttribute key)

/-- The properties of the series; the data type must be given and known. -/
def info (given : Attributes) : Except Fault SeriesInfo :=
  match given.dataType with
  | none => .error .noDataType
  | some name =>
    match DataType.ofName? name with
    | none => .error (.unsupportedDataType name)
    | some t =>
      .ok
        { dataType := t
          encoding := given.encoding.getD t.defaultEncoding
          compression := given.compression.getD SeriesInfo.defaultCompression }

end Attributes

/-- The creation of a series from the word of its path and the text of its attributes. -/
def creation (word attributes : List Char) : Except Fault Statement := do
  let p ← path word
  if p.hasStar then throw (.wildcardInSeries p.text)
  let given ← (listed attributes).foldlM Attributes.add {}
  return .createSeries p (← given.info)

/-! ## Statements -/

/-- The statement that a list of words makes up; none if it has no known form. -/
def ofWords? (ws : List (List Char)) : Option (Except Fault Statement) :=
  match ws.map fun w => (Keyword.ofWord? w, w) with
  | [(some .create, _), (some .database, _), (_, p)]
  | [(some .create, _), (some .storage, _), (some .group, _), (_, p)]
  | [(some .set, _), (some .storage, _), (some .group, _), (some .onto, _), (_, p)] =>
    some (.createDatabase <$> path p)
  | (some .delete, _) :: (some .database, _) :: p :: ps
  | (some .drop, _) :: (some .database, _) :: p :: ps
  | (some .delete, _) :: (some .storage, _) :: (some .group, _) :: p :: ps =>
    some (.deleteDatabases <$> paths ((p :: ps).map (·.2)))
  | (some .create, _) :: (some .timeseries, _) :: (_, p) :: (some .having, _) :: a :: as =>
    some (creation p (join ' ' ((a :: as).map (·.2))))
  | [(some .delete, _), (some .timeseries, _), (_, p)] => some (.deleteSeries <$> path p)
  | [(some .present, _), (some .databases, _)]
  | [(some .present, _), (some .storage, _), (some .group, _)] => some (.ok (.showDatabases none))
  | [(some .present, _), (some .databases, _), (_, p)]
  | [(some .present, _), (some .storage, _), (some .group, _), (_, p)] =>
    some ((.showDatabases ∘ some) <$> path p)
  | [(some .present, _), (some .devices, _)] => some (.ok (.showDevices none))
  | [(some .present, _), (some .devices, _), (_, p)] => some ((.showDevices ∘ some) <$> path p)
  | [(some .present, _), (some .timeseries, _)] => some (.ok (.showSeries none))
  | [(some .present, _), (some .timeseries, _), (_, p)] => some ((.showSeries ∘ some) <$> path p)
  | _ => none

/-- The text of a statement without what may surround it. -/
def core (cs : List Char) : List Char := trim (Cut.trimEnd (· == ';') (trim cs))

/-- Reads a statement. -/
def parse (sql : String) : Except Fault Statement :=
  let cs := core sql.toList
  (ofWords? (words cs)).getD (.error (.unsupported (String.ofList cs)))

end SeriesCatalog.Statement
