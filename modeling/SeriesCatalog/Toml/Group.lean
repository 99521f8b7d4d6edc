/-
Tokens of a TOML text with their brackets matched. Every array, inline table and table header
becomes one group, so that the line ends and commas which stand between groups are those that
divide lines and items.
-/
import SeriesCatalog.Toml.Token

namespace SeriesCatalog.Toml

/-- A token that is no bracket, or what stands between two brackets of a pair. -/
inductive Group
  | leaf (t : Token)
  | square (inside : List Group)
  | curly (inside : List Group)
  deriving Repr, Inhabited

/-- A pair of brackets that is still open: what stood before it, in reverse, and whether it is a pair
of braces. -/
structure OpenPair where
  before : List Group
  braces : Bool

/-- One token. What has been read inside the innermost open pair is kept in reverse. -/
def groupStep : List OpenPair × List Group → Token → Option (List OpenPair × List Group)
  | (pairs, done), .sign '[' => some (⟨done, false⟩ :: pairs, [])
  | (pairs, done), .sign '{' => some (⟨done, true⟩ :: pairs, [])
  | (⟨before, false⟩ :: pairs, done), .sign ']' => some (pairs, .square done.reverse :: before)
  | (⟨before, true⟩ :: pairs, done), .sign '}' => some (pairs, .curly done.reverse :: before)
  | _, .sign ']' | _, .sign '}' => none
  | (pairs, done), t => some (pairs, .leaf t :: done)

/-- The groups of a list of tokens; every bracket has its partner. -/
def groups (ts : List Token) : Option (List Group) :=
  match ts.foldlM groupStep ([], []) with
  | some ([], done) => some done.reverse
  | _ => none

namespace Group

/-- The group is this sign. -/
def isSign (c : Char) : Group → Bool
  | leaf (.sign d) => c == d
  | _ => false

/-- The group is a blank inside a line. -/
def isGap : Group → Bool
  | leaf (.gap _) => true
  | _ => false

/-- The group is the end of a line. -/
def isNewline : Group → Bool
  | leaf .newline => true
  | _ => false

end Group

end SeriesCatalog.Toml
