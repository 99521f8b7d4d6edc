/-
Paths of the metadata tree: dotted names such as `root.plant.line1.speed`. A path is its text; its
nodes are the pieces between the dots, and the two determine each other. A database, a device and a
series are all named by a path.
-/
import SeriesCatalog.Text.Cut

namespace SeriesCatalog

/-- A dotted name. -/
structure Path where
  text : String
  deriving DecidableEq, Repr, Inhabited

namespace Path

/-- The names between the dots. -/
def nodes (p : Path) : List String := (Text.pieces '.' p.text.toList).map String.ofList

/-- The path with these names between its dots. -/
def ofNodes (names : List String) : Path := ⟨String.ofList (Text.join '.' (names.map String.toList))⟩

/-- The path is a strict prefix of the other and ends where a node of the other ends. -/
def isAncestorOf (a p : Path) : Bool := (a.text.toList ++ ['.']).isPrefixOf p.text.toList

/-- The path without its last node; a path of one node has none. -/
def parent? (p : Path) : Option Path :=
  (Text.cutLast '.' p.text.toList).map fun (before, _) => ⟨String.ofList before⟩

/-- A star occurs in the path. -/
def hasStar (p : Path) : Bool := p.text.toList.contains '*'

theorem ext_text {p q : Path} (h : p.text = q.text) : p = q := by
  cases p; cases q; simpa using h

theorem nodes_ne_nil (p : Path) : p.nodes ≠ [] := by
  simpa [nodes] using Text.pieces_ne_nil '.' p.text.toList

/-- The nodes determine the path. -/
theorem ofNodes_nodes (p : Path) : ofNodes p.nodes = p := by
  apply ext_text
  simp [ofNodes, nodes, Function.comp_def, Text.join_pieces]

/-- Dot-free names, at least one of them, are the nodes of the path made from them. -/
theorem nodes_ofNodes {names : List String} (hne : names ≠ []) (h : ∀ n ∈ names, '.' ∉ n.toList) :
    (ofNodes names).nodes = names := by
  have hps : ∀ p ∈ names.map String.toList, '.' ∉ p := by
    intro p hp
    obtain ⟨n, hn, rfl⟩ := List.mem_map.1 hp
    exact h n hn
  unfold nodes ofNodes
  rw [String.toList_ofList, Text.pieces_join (by simpa using hne) hps]
  simp [Function.comp_def]

theorem nodes_inj {p q : Path} : p.nodes = q.nodes ↔ p = q :=
  ⟨fun h => by rw [← ofNodes_nodes p, h, ofNodes_nodes], fun h => h ▸ rfl⟩

theorem isAncestorOf_iff_text {a p : Path} :
    a.isAncestorOf p = true ↔ ∃ rest : List Char, p.text.toList = a.text.toList ++ '.' :: rest := by
  unfold isAncestorOf
  rw [List.isPrefixOf_iff_prefix]
  constructor
  · rintro ⟨rest, h⟩
    exact ⟨rest, by simpa using h.symm⟩
  · rintro ⟨rest, h⟩
    exact ⟨rest, by simpa using h.symm⟩

end Path

end SeriesCatalog
