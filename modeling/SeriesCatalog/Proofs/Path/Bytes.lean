/-
The order of paths, three times over. On bytes, a path lies above a longer one that begins with it and
goes on with a dot; on nodes, above one whose nodes are its own and some more; and for a pattern of
literal nodes, above whatever fits the pattern with the wildcard of some nodes behind it. The three
agree for all texts, those with empty nodes and those of several bytes to a character among them. The
byte behind the beginning is always there to be looked at.
-/
import SeriesCatalog.Proofs.Text.Utf8
import SeriesCatalog.Proofs.Path.Pattern

namespace SeriesCatalog.Path

/-! ## Bytes -/

/-- The bytes of the path. -/
def bytes (p : Path) : List UInt8 := p.text.toUTF8.data.toList

/-- The byte of a dot. -/
def dotByte : UInt8 := 0x2E

/-- Whether the path lies above the other, by their bytes: the other one is longer, begins with the path and has a dot
right behind that beginning. None if the byte looked at there were past the end. -/
def isAncestorByBytes? (a p : Path) : Option Bool :=
  if a.bytes.length < p.bytes.length && a.bytes.isPrefixOf p.bytes then
    p.bytes[a.bytes.length]?.map (· == dotByte)
  else some false

variable {α : Type} {xs ys : List α} {y : α} {a b p : Path}

theorem concat_prefix_iff : xs ++ [y] <+: ys ↔ xs <+: ys ∧ ys[xs.length]? = some y := by
  constructor
  · rintro ⟨rest, rfl⟩
    exact ⟨⟨y :: rest, by simp⟩, by simp⟩
  · rintro ⟨⟨rest, rfl⟩, hy⟩
    rw [List.getElem?_append_right (Nat.le_refl _), Nat.sub_self, ← List.head?_eq_getElem?] at hy
    obtain ⟨rest, rfl⟩ := List.head?_eq_some_iff.1 hy
    exact ⟨rest, by simp⟩

theorem encode_toList_text (p : Path) : Utf8.encode p.text.toList = p.bytes := Utf8.encode_toList p.text

/-- The bytes of the path come first in the other, and then a dot. -/
theorem isAncestorOf_iff_bytes :
    a.isAncestorOf p = true ↔ a.bytes <+: p.bytes ∧ p.bytes[a.bytes.length]? = some dotByte := by
  have hdot : Utf8.encode ['.'] = [dotByte] := rfl
  rw [isAncestorOf, List.isPrefixOf_iff_prefix, ← Utf8.encode_prefix_iff, Utf8.encode_append, hdot, encode_toList_text,
    encode_toList_text, concat_prefix_iff]

/-- The bytes always give an answer, and it is that of the characters. -/
theorem isAncestorByBytes?_eq (a p : Path) : a.isAncestorByBytes? p = some (a.isAncestorOf p) := by
  unfold isAncestorByBytes?
  split
  · rename_i h
    rw [Bool.and_eq_true, decide_eq_true_eq, List.isPrefixOf_iff_prefix] at h
    have hread : p.bytes[a.bytes.length]? = some p.bytes[a.bytes.length] := List.getElem?_eq_getElem h.1
    rw [hread, Option.map_some, Option.some.injEq, Bool.eq_iff_iff, beq_iff_eq, isAncestorOf_iff_bytes, hread,
      Option.some.injEq, and_iff_right h.2]
  · rename_i h
    rw [Option.some.injEq, eq_comm, Bool.eq_false_iff, Ne, isAncestorOf_iff_bytes]
    rintro ⟨hfront, hread⟩
    obtain ⟨hlonger, -⟩ := List.getElem?_eq_some_iff.1 hread
    exact h (by rw [Bool.and_eq_true, decide_eq_true_eq, List.isPrefixOf_iff_prefix]; exact ⟨hlonger, hfront⟩)

/-! ## Nodes -/

theorem isAncestorOf_iff_prefix : a.isAncestorOf p = true ↔ a.nodes <+: p.nodes ∧ a.nodes ≠ p.nodes := by
  rw [isAncestorOf_iff_nodes]
  constructor
  · rintro ⟨rest, hrest, hnodes⟩
    rw [hnodes]
    exact ⟨List.prefix_append _ _, fun he => hrest (List.append_right_eq_self.1 he.symm)⟩
  · rintro ⟨⟨rest, hnodes⟩, hne⟩
    refine ⟨rest, ?_, hnodes.symm⟩
    rintro rfl
    exact hne (by rw [← hnodes, List.append_nil])

theorem isStrictOrder_isAncestorOf : IsStrictOrder Path fun a p => a.isAncestorOf p = true where
  irrefl a := by simp [isAncestorOf_irrefl]
  trans _ _ _ := isAncestorOf_trans

/-! ## Agreement -/

/-- The comparison of bytes has an answer for every two paths, and it is whether the nodes of the one are a
strict beginning of the nodes of the other. This is a strict order in which the paths above one path are
comparable. Where no node of a path is a wildcard, the paths below it are those that fit it with `.**` behind
it; those of just one node more fit it with `.*` behind it; and only the path itself fits it as it is. -/
theorem ancestors_agree :
    (∀ a p : Path, a.isAncestorByBytes? p = some (a.isAncestorOf p) ∧
      (a.isAncestorOf p = true ↔ a.nodes <+: p.nodes ∧ a.nodes ≠ p.nodes)) ∧
    (IsStrictOrder Path fun a p => a.isAncestorOf p = true) ∧
    (∀ a b p : Path, a.isAncestorOf p = true → b.isAncestorOf p = true →
      a = b ∨ a.isAncestorOf b = true ∨ b.isAncestorOf a = true) ∧
    ∀ a : Path, (∀ n ∈ a.nodes, n ≠ "**" ∧ n ≠ "*") → ∀ p : Path,
      (p.fits ⟨a.text ++ ".**"⟩ = true ↔ a.isAncestorOf p = true) ∧
      (p.fits ⟨a.text ++ ".*"⟩ = true ↔ ∃ n, p.nodes = a.nodes ++ [n]) ∧
      (p.fits a = true ↔ a = p) := by
  refine ⟨fun a p => ⟨isAncestorByBytes?_eq a p, isAncestorOf_iff_prefix⟩, isStrictOrder_isAncestorOf,
    fun a b p => eq_or_isAncestorOf, fun a hliteral p => ?_⟩
  have hliteral : IsLiteral a.nodes := hliteral
  have hbelow : a.text ++ ".**" = a.text ++ "." ++ someNodes := by rw [String.append_assoc]; rfl
  have hchild : a.text ++ ".*" = a.text ++ "." ++ oneNode := by rw [String.append_assoc]; rfl
  rw [hbelow, hchild, hliteral.fits_below_iff, hliteral.fits_child_iff, parent?_eq_some_iff, hliteral.fits_iff_eq]
  exact ⟨Iff.rfl, Iff.rfl, eq_comm⟩

/-- A path with an empty node, a star inside a name and a character of two bytes. -/
theorem ancestors_agree_awkward :
    (∀ n ∈ (mk "root..é*").nodes, n ≠ "**" ∧ n ≠ "*") ∧
      (mk "root").isAncestorOf ⟨"root..é*.x"⟩ = true ∧ (mk "root..é*").isAncestorOf ⟨"root..é*.x"⟩ = true ∧
      (mk "root" = mk "root..é*" ∨ (mk "root").isAncestorOf ⟨"root..é*"⟩ = true ∨
        (mk "root..é*").isAncestorOf ⟨"root"⟩ = true) ∧
      (mk "root..é*.x").fits ⟨"root..é*" ++ ".**"⟩ = true ∧ (mk "root..é*.x").fits ⟨"root..é*" ++ ".*"⟩ = true ∧
      ¬ (mk "root..é*.x").fits ⟨"root..é*"⟩ = true := by
  obtain ⟨-, -, hcomparable, hpatterns⟩ := ancestors_agree
  have hliteral : ∀ n ∈ (mk "root..é*").nodes, n ≠ "**" ∧ n ≠ "*" := by decide
  have hroot : (mk "root").isAncestorOf ⟨"root..é*.x"⟩ = true := by decide
  have habove : (mk "root..é*").isAncestorOf ⟨"root..é*.x"⟩ = true := by decide
  obtain ⟨hbelow, hchild, hself⟩ := hpatterns ⟨"root..é*"⟩ hliteral ⟨"root..é*.x"⟩
  exact ⟨hliteral, hroot, habove, hcomparable _ _ _ hroot habove, hbelow.2 habove, hchild.2 ⟨"x", by decide⟩,
    fun hfits => absurd (hself.1 hfits) (by decide)⟩

end SeriesCatalog.Path
