/-
The pattern language. A path fits a pattern exactly if its nodes can be cut into consecutive blocks,
one for each node of the pattern: any nodes, at least one, for the wildcard of one or more nodes, a
single node for the wildcard of one node, and for every other node that node itself. The matcher cuts
one block off after another, so one lemma about the first node of a pattern carries the rest.

The patterns that the catalog sends follow from it. Where a pattern has no wildcard it selects the
path of its own nodes; with the wildcard of one or more nodes at its end it selects everything below
the path before the wildcard, and with that of one node what lies directly below.
-/
import SeriesCatalog.Path.Pattern
import SeriesCatalog.Proofs.Path.Order

namespace SeriesCatalog.Path

/-! ## Blocks -/

/-- A node of a pattern stands for a block of nodes. -/
inductive StandsFor : String → List String → Prop
  | some {block : List String} (h : block ≠ []) : StandsFor someNodes block
  | one (n : String) : StandsFor oneNode [n]
  | itself {p : String} (hsome : p ≠ someNodes) (hone : p ≠ oneNode) : StandsFor p [p]

theorem StandsFor.ne_nil {p : String} {block : List String} (h : StandsFor p block) : block ≠ [] := by
  cases h with
  | some h => exact h
  | one | itself => exact List.cons_ne_nil _ _

theorem standsFor_someNodes {block : List String} : StandsFor someNodes block ↔ block ≠ [] :=
  ⟨StandsFor.ne_nil, .some⟩

theorem standsFor_oneNode {block : List String} : StandsFor oneNode block ↔ ∃ n, block = [n] := by
  constructor
  · intro h
    generalize hp : oneNode = p at h
    cases h with
    | some => exact absurd hp (by decide)
    | one n => exact ⟨n, rfl⟩
    | itself _ hone => exact absurd hp.symm hone
  · rintro ⟨n, rfl⟩
    exact .one n

theorem standsFor_literal {p : String} (hsome : p ≠ someNodes) (hone : p ≠ oneNode) {block : List String} :
    StandsFor p block ↔ block = [p] := by
  constructor
  · intro h
    cases h with
    | some => exact absurd rfl hsome
    | one => exact absurd rfl hone
    | itself => rfl
  · rintro rfl
    exact .itself hsome hone

/-- The first node of a pattern takes a block off the nodes, and the others take what is left. -/
theorem nodesMatch_cons_iff {p : String} {ps ns : List String} :
    nodesMatch (p :: ps) ns = true ↔
      ∃ block rest, ns = block ++ rest ∧ StandsFor p block ∧ nodesMatch ps rest = true := by
  cases ns with
  | nil =>
    refine iff_of_false Bool.false_ne_true ?_
    rintro ⟨block, rest, hns, hblock, -⟩
    exact hblock.ne_nil (List.append_eq_nil_iff.1 hns.symm).1
  | cons n ns =>
    rw [nodesMatch]
    split
    · -- the block is the first node with any beginning of the others
      rename_i hsome
      subst hsome
      rw [anySuffix_iff]
      constructor
      · rintro ⟨more, rest, rfl, hrest⟩
        exact ⟨n :: more, rest, rfl, .some (List.cons_ne_nil _ _), hrest⟩
      · rintro ⟨block, rest, hns, hblock, hrest⟩
        obtain ⟨m, more, rfl⟩ := List.exists_cons_of_ne_nil hblock.ne_nil
        exact ⟨more, rest, (List.cons.inj hns).2, hrest⟩
    · rename_i hsome
      split
      · rename_i hone
        subst hone
        constructor
        · exact fun hrest => ⟨[n], ns, rfl, .one n, hrest⟩
        · rintro ⟨block, rest, hns, hblock, hrest⟩
          obtain ⟨m, rfl⟩ := standsFor_oneNode.1 hblock
          rwa [(List.cons.inj hns).2]
      · rename_i hone
        rw [Bool.and_eq_true, beq_iff_eq]
        constructor
        · rintro ⟨rfl, hrest⟩
          exact ⟨[p], ns, rfl, .itself hsome hone, hrest⟩
        · rintro ⟨block, rest, hns, hblock, hrest⟩
          obtain rfl := (standsFor_literal hsome hone).1 hblock
          obtain ⟨rfl, rfl⟩ := List.cons.inj hns
          exact ⟨rfl, hrest⟩

theorem nodesMatch_nil (ns : List String) : nodesMatch [] ns = true ↔ ns = [] := by simp [nodesMatch]

theorem nodesMatch_iff_blocks {ps ns : List String} :
    nodesMatch ps ns = true ↔ ∃ blocks, ns = blocks.flatten ∧ List.Forall₂ StandsFor ps blocks := by
  induction ps generalizing ns with
  | nil =>
    rw [nodesMatch_nil]
    constructor
    · rintro rfl
      exact ⟨[], rfl, .nil⟩
    · rintro ⟨blocks, rfl, hblocks⟩
      rw [List.forall₂_nil_left_iff.1 hblocks, List.flatten_nil]
  | cons p ps ih =>
    rw [nodesMatch_cons_iff]
    constructor
    · rintro ⟨block, rest, rfl, hblock, hrest⟩
      obtain ⟨blocks, rfl, hblocks⟩ := ih.1 hrest
      exact ⟨block :: blocks, rfl, .cons hblock hblocks⟩
    · rintro ⟨_, rfl, hblocks⟩
      cases hblocks with
      | cons hblock hblocks => exact ⟨_, _, List.flatten_cons, hblock, ih.2 ⟨_, rfl, hblocks⟩⟩

/-- The path fits the pattern exactly if its nodes are the nodes of consecutive blocks, one for each node of
the pattern, which stands for it. Any number of the nodes may be wildcards, wherever they are. -/
theorem fits_iff_blocks (path pattern : Path) :
    path.fits pattern = true ↔
      ∃ blocks : List (List String), path.nodes = blocks.flatten ∧ List.Forall₂ StandsFor pattern.nodes blocks :=
  nodesMatch_iff_blocks

example : (mk "root.a.b.c").fits (mk "**.**.b.**") = true := by decide
example : (mk "root.a.b").fits (mk "**.**.b.**") = false := by decide

/-! ## Nodes -/

/-- No node stands for others. -/
def IsLiteral (ps : List String) : Prop := ∀ p ∈ ps, p ≠ someNodes ∧ p ≠ oneNode

/-- Literal nodes fit themselves only, and the rest of the pattern takes what follows. -/
theorem nodesMatch_append {ps : List String} (h : IsLiteral ps) (qs ns : List String) :
    nodesMatch (ps ++ qs) ns = true ↔ ∃ rest, ns = ps ++ rest ∧ nodesMatch qs rest = true := by
  induction ps generalizing ns with
  | nil => simp
  | cons p ps ih =>
    obtain ⟨hsome, hone⟩ := h p (List.mem_cons_self ..)
    have hps := ih fun q hq => h q (List.mem_cons_of_mem _ hq)
    rw [List.cons_append, nodesMatch_cons_iff]
    simp only [standsFor_literal hsome hone, hps]
    constructor
    · rintro ⟨_, _, rfl, rfl, rest, rfl, hm⟩
      exact ⟨rest, rfl, hm⟩
    · rintro ⟨rest, rfl, hm⟩
      exact ⟨[p], ps ++ rest, rfl, rfl, rest, rfl, hm⟩

theorem nodesMatch_singleton (p : String) (ns : List String) : nodesMatch [p] ns = true ↔ StandsFor p ns := by
  rw [nodesMatch_cons_iff]
  simp [nodesMatch_nil]

theorem nodesMatch_oneNode (ns : List String) : nodesMatch [oneNode] ns = true ↔ ∃ n, ns = [n] := by
  rw [nodesMatch_singleton, standsFor_oneNode]

theorem nodesMatch_someNodes (ns : List String) : nodesMatch [someNodes] ns = true ↔ ns ≠ [] := by
  rw [nodesMatch_singleton, standsFor_someNodes]

/-! ## Paths -/

section Literal

variable {p : Path} {s : String}

/-- A path of literal nodes fits itself only. -/
theorem IsLiteral.fits_iff_eq (h : IsLiteral p.nodes) (q : Path) : q.fits p = true ↔ q = p := by
  have hm := nodesMatch_append h [] q.nodes
  rw [List.append_nil] at hm
  rw [fits, hm]
  simp only [nodesMatch_nil]
  constructor
  · rintro ⟨rest, hq, rfl⟩
    exact nodes_inj.1 (by rw [hq, List.append_nil])
  · rintro rfl
    exact ⟨[], by simp, rfl⟩

theorem nodes_wildcard (s w : String) (hw : '.' ∉ w.toList) : (mk (s ++ "." ++ w)).nodes = (mk s).nodes ++ [w] := by
  rw [nodes_dot, nodes_of_noDot hw]

/-- Everything below a path fits the path with the wildcard of one or more nodes behind it. -/
theorem IsLiteral.fits_below_iff (h : IsLiteral (mk s).nodes) (q : Path) :
    q.fits (mk (s ++ "." ++ someNodes)) = true ↔ (mk s).isAncestorOf q = true := by
  rw [fits, nodes_wildcard s someNodes (by decide), nodesMatch_append h, isAncestorOf_iff_nodes]
  simp only [nodesMatch_someNodes]
  constructor
  · rintro ⟨rest, hq, hne⟩
    exact ⟨rest, hne, hq⟩
  · rintro ⟨rest, hne, hq⟩
    exact ⟨rest, hq, hne⟩

/-- What lies directly below a path fits the path with the wildcard of one node behind it. -/
theorem IsLiteral.fits_child_iff (h : IsLiteral (mk s).nodes) (q : Path) :
    q.fits (mk (s ++ "." ++ oneNode)) = true ↔ q.parent? = some (mk s) := by
  rw [fits, nodes_wildcard s oneNode (by decide), nodesMatch_append h, parent?_eq_some_iff]
  simp only [nodesMatch_oneNode]
  constructor
  · rintro ⟨rest, hq, n, rfl⟩
    exact ⟨n, hq⟩
  · rintro ⟨n, hq⟩
    exact ⟨[n], hq, n, rfl⟩

/-- Either wildcard has a star. -/
theorem isLiteral_nodes (h : '*' ∉ p.text.toList) : IsLiteral p.nodes := by
  intro n hn
  constructor <;> rintro rfl
  · exact h (mem_text_of_mem_nodes hn (by decide))
  · exact h (mem_text_of_mem_nodes hn (by decide))

theorem fits_iff_eq (h : '*' ∉ p.text.toList) (q : Path) : q.fits p = true ↔ q = p := (isLiteral_nodes h).fits_iff_eq q

theorem fits_below_iff (h : '*' ∉ s.toList) (q : Path) :
    q.fits (mk (s ++ "." ++ someNodes)) = true ↔ (mk s).isAncestorOf q = true := (isLiteral_nodes h).fits_below_iff q

theorem fits_child_iff (h : '*' ∉ s.toList) (q : Path) :
    q.fits (mk (s ++ "." ++ oneNode)) = true ↔ q.parent? = some (mk s) := (isLiteral_nodes h).fits_child_iff q

end Literal

end SeriesCatalog.Path
