/-
Reading a TOML text. A text is a list of lines: headers of tables, headers of elements of a list of
tables, and keys with values. What follows a header belongs to its table. Arrays and inline tables
nest fewer than 80 deep, and a dotted key has fewer than 80 names.
-/
import SeriesCatalog.Cut
import SeriesCatalog.Toml.Basic
import SeriesCatalog.Toml.Group
import SeriesCatalog.Toml.Scalar

namespace SeriesCatalog.Toml

open Cut

/-- The bound on the depth of nesting and on the length of keys. -/
def limit : Nat := 80

/-! ## Keys -/

/-- One name of a key: a word, or a string on one line. -/
def name? (gs : List Group) : Option String :=
  match trimBy Group.isGap gs with
  | [.leaf (.word cs)] => some (String.ofList cs)
  | [.leaf (.string cs false)] => some (String.ofList cs)
  | _ => none

/-- A key: names with dots between them. -/
def key? (gs : List Group) : Option Key := do
  let names ← (piecesBy (Group.isSign '.') gs).mapM name?
  if limit ≤ names.length then none
  else return ⟨names.dropLast, ← names.getLast?⟩

/-- A key and what stands behind its equals sign. -/
def keyed? (gs : List Group) : Option (Key × List Group) :=
  match gs.span (!Group.isSign '=' ·) with
  | (front, _ :: rest) => (key? front).map (·, rest)
  | (_, []) => none

/-! ## Values -/

/-- The characters of one group of an unquoted value. The one blank that a value may hold is a
space. -/
def scalarChars? : Group → Option (List Char)
  | .leaf (.word cs) => some cs
  | .leaf (.sign c) => if c = '.' ∨ c = '+' ∨ c = ':' then some [c] else none
  | .leaf (.gap [' ']) => some [' ']
  | _ => none

/-- An unquoted value. -/
def scalar? (gs : List Group) : Option Toml := do
  match ← Scalar.ofChars? (← gs.mapM scalarChars?).flatten with
  | .bool b => return .bool b
  | .whole n => return .whole n
  | .real => return .real
  | .moment text => return .moment text

/-- A blank or the end of a line, neither of which counts between the items of an array. -/
def isLoose (g : Group) : Bool := g.isGap || g.isNewline

/-- The items between the commas of an array, the last of which may be missing. -/
def items (gs : List Group) : List (List Group) :=
  let pieces := (piecesBy (Group.isSign ',') gs).map (trimBy isLoose)
  match pieces.getLast? with
  | some [] => pieces.dropLast
  | _ => pieces

/-- The pairs between the commas of an inline table. -/
def inlinePairs (gs : List Group) : List (List Group) :=
  if (trimBy Group.isGap gs).isEmpty then [] else piecesBy (Group.isSign ',') gs

/-- The value that groups spell, with room for so many levels of arrays and inline tables. -/
def value? : Nat → List Group → Option Toml
  | room, gs =>
    match trimBy Group.isGap gs, room with
    | [.leaf (.string cs _)], _ => some (.string (String.ofList cs))
    | [.square _], 0 | [.curly _], 0 => none
    | [.square inside], room + 1 => ((items inside).mapM (value? room)).map .array
    | [.curly inside], room + 1 => do
      let pairs ← (inlinePairs inside).mapM fun gs => do
        let (key, rest) ← keyed? gs
        return (key, ← value? room rest)
      return .table .inline (← addAll [] pairs)
    | gs, _ => scalar? gs

/-! ## Lines -/

/-- A header and the table that it opens. -/
inductive Header
  | table (key : Key)
  | element (key : Key)
  deriving DecidableEq, Repr

/-- A line that says something. -/
inductive Line
  | header (h : Header)
  | pair (key : Key) (v : Toml)
  deriving Repr

/-- The header between brackets. The brackets of a doubled pair stand side by side. -/
def header? : List Group → Option Header
  | [.square inside] => (key? inside).map .element
  | inside => (key? inside).map .table

/-- The lines that groups make up, without the blank ones. -/
def lines? (gs : List Group) : Option (List Line) :=
  (((piecesBy Group.isNewline gs).map (trimBy Group.isGap)).filter (!·.isEmpty)).mapM
    fun
      | [.square inside] => (header? inside).map .header
      | gs => do
        let (key, rest) ← keyed? gs
        return .pair key (← value? (limit - 1) rest)

/-- The pairs up to the first header, and every header with the pairs below it. -/
def sections (lines : List Line) : List (Key × Toml) × List (Header × List (Key × Toml)) :=
  lines.foldr
    (fun line (pairs, rest) =>
      match line with
      | .pair key v => ((key, v) :: pairs, rest)
      | .header h => ([], (h, pairs) :: rest))
    ([], [])

/-- The entries with those below a header added. -/
def addSection (entries : Entries) : Header × List (Key × Toml) → Option Entries
  | (.table key, pairs) => addTable entries key pairs
  | (.element key, pairs) => addElement entries key pairs

/-- The entries of the table that a text spells. -/
def ofText? (cs : List Char) : Option Entries := do
  let (first, rest) := sections (← lines? (← groups (← tokens cs)))
  rest.foldlM addSection (← addAll [] first)

end SeriesCatalog.Toml
