/-
Patterns over paths. A pattern is itself a path; its node `*` stands for exactly one node, its node
`**` for one or more, and every other node for itself. SHOW and DELETE statements select by them.
-/
import SeriesCatalog.Path

namespace SeriesCatalog.Path

/-- The node of a pattern that stands for exactly one node. -/
def oneNode : String := "*"

/-- The node of a pattern that stands for one or more nodes. -/
def someNodes : String := "**"

/-- Some suffix of the list passes the test, the list itself and the empty one included. -/
def anySuffix (test : List String → Bool) : List String → Bool
  | [] => test []
  | n :: ns => test (n :: ns) || anySuffix test ns

/-- The nodes fit the pattern nodes one after another. -/
def nodesMatch : List String → List String → Bool
  | [], ns => ns.isEmpty
  | _ :: _, [] => false
  | p :: ps, n :: ns =>
    if p = someNodes then anySuffix (nodesMatch ps) ns
    else if p = oneNode then nodesMatch ps ns
    else p == n && nodesMatch ps ns

/-- The path fits the pattern. -/
def fits (path pattern : Path) : Bool := nodesMatch pattern.nodes path.nodes

theorem anySuffix_iff {test : List String → Bool} {ns : List String} :
    anySuffix test ns = true ↔ ∃ a b, ns = a ++ b ∧ test b = true := by
  induction ns with
  | nil =>
    constructor
    · exact fun h => ⟨[], [], rfl, h⟩
    · rintro ⟨a, b, hab, h⟩
      obtain ⟨rfl, rfl⟩ := List.append_eq_nil_iff.1 hab.symm
      exact h
  | cons n ns ih =>
    rw [anySuffix, Bool.or_eq_true, ih]
    constructor
    · rintro (h | ⟨a, b, rfl, h⟩)
      · exact ⟨[], n :: ns, rfl, h⟩
      · exact ⟨n :: a, b, rfl, h⟩
    · rintro ⟨a, b, hab, h⟩
      cases a with
      | nil => exact .inl (by rw [List.nil_append] at hab; exact hab ▸ h)
      | cons m a =>
        rw [List.cons_append, List.cons.injEq] at hab
        exact .inr ⟨a, b, hab.2, h⟩

end SeriesCatalog.Path
