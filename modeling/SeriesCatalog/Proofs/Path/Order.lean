/-
The order of paths: one path lies above another when its nodes are a strict prefix of the other's.
It is a strict order, and two paths above the same third one are equal or one lies above the other;
hence databases that overlap in no way never share a path below them. The comparison of texts agrees
with the comparison of nodes, so `root.cursor` does not lie above `root.cursor_s1.x`.
-/
import SeriesCatalog.Path
import SeriesCatalog.Proofs.Text.Cut

namespace SeriesCatalog.Path

/-! ## Nodes of a text -/

@[simp] theorem toList_dot : ".".toList = ['.'] := rfl

/-- A dot divides the nodes of two texts. -/
theorem nodes_dot (s t : String) : (mk (s ++ "." ++ t)).nodes = (mk s).nodes ++ (mk t).nodes := by
  simp [nodes, Text.pieces_append]

theorem nodes_of_noDot {s : String} (h : '.' ∉ s.toList) : (mk s).nodes = [s] := by
  simp [nodes, Text.pieces_of_notMem h]

theorem hasStar_eq_false_iff {p : Path} : p.hasStar = false ↔ '*' ∉ p.text.toList := by simp [hasStar]

theorem dot_notMem_of_mem_nodes {p : Path} {n : String} (h : n ∈ p.nodes) : '.' ∉ n.toList := by
  obtain ⟨cs, hcs, rfl⟩ := List.mem_map.1 h
  rw [String.toList_ofList]
  exact Text.sep_notMem_of_mem_pieces hcs

/-- A node holds no character that is not in the path. -/
theorem mem_text_of_mem_nodes {p : Path} {n : String} {c : Char} (h : n ∈ p.nodes) (hc : c ∈ n.toList) :
    c ∈ p.text.toList := by
  obtain ⟨cs, hcs, rfl⟩ := List.mem_map.1 h
  rw [String.toList_ofList] at hc
  exact Cut.mem_of_mem_piecesBy hcs hc

theorem ofNodes_append {ms ns : List String} (hm : ms ≠ []) (hn : ns ≠ []) :
    (ofNodes (ms ++ ns)).text = (ofNodes ms).text ++ "." ++ (ofNodes ns).text := by
  apply String.toList_injective
  simp only [ofNodes, List.map_append, String.toList_ofList, String.toList_append, toList_dot]
  rw [Text.join_append '.' (by simpa using hm) (by simpa using hn)]
  simp

/-- The nodes of a path divide where its text has a dot. -/
theorem text_of_nodes_append {p : Path} {ms ns : List String} (hm : ms ≠ []) (hn : ns ≠ [])
    (h : p.nodes = ms ++ ns) : p.text = (ofNodes ms).text ++ "." ++ (ofNodes ns).text := by
  rw [← ofNodes_append hm hn, ← h, ofNodes_nodes]

/-! ## Ancestors -/

theorem isAncestorOf_iff {a p : Path} : a.isAncestorOf p = true ↔ ∃ t, p.text = a.text ++ "." ++ t := by
  rw [isAncestorOf_iff_text]
  constructor
  · rintro ⟨rest, h⟩
    exact ⟨String.ofList rest, String.toList_injective (by simp [h])⟩
  · rintro ⟨t, h⟩
    exact ⟨t.toList, by simp [h]⟩

/-- The path above has fewer nodes, and they come first in the other. -/
theorem isAncestorOf_iff_nodes {a p : Path} :
    a.isAncestorOf p = true ↔ ∃ ns, ns ≠ [] ∧ p.nodes = a.nodes ++ ns := by
  rw [isAncestorOf_iff]
  constructor
  · rintro ⟨t, h⟩
    refine ⟨(mk t).nodes, nodes_ne_nil _, ?_⟩
    rw [← nodes_dot, ← h]
  · rintro ⟨ns, hns, h⟩
    refine ⟨(ofNodes ns).text, ?_⟩
    rw [text_of_nodes_append (nodes_ne_nil a) hns h, ofNodes_nodes]

theorem isAncestorOf_irrefl (a : Path) : a.isAncestorOf a = false := by
  rw [Bool.eq_false_iff, Ne, isAncestorOf_iff_nodes]
  rintro ⟨ns, hns, h⟩
  exact hns (List.append_right_eq_self.1 h.symm)

theorem isAncestorOf_trans {a b p : Path} (hab : a.isAncestorOf b = true) (hbp : b.isAncestorOf p = true) :
    a.isAncestorOf p = true := by
  obtain ⟨ms, hms, hb⟩ := isAncestorOf_iff_nodes.1 hab
  obtain ⟨ns, -, hp⟩ := isAncestorOf_iff_nodes.1 hbp
  exact isAncestorOf_iff_nodes.2 ⟨ms ++ ns, by simp [hms], by rw [hp, hb, List.append_assoc]⟩

/-- Two paths above the same path are equal or one lies above the other. -/
theorem eq_or_isAncestorOf {a b p : Path} (ha : a.isAncestorOf p = true) (hb : b.isAncestorOf p = true) :
    a = b ∨ a.isAncestorOf b = true ∨ b.isAncestorOf a = true := by
  obtain ⟨ms, hms, h1⟩ := isAncestorOf_iff_nodes.1 ha
  obtain ⟨ns, hns, h2⟩ := isAncestorOf_iff_nodes.1 hb
  -- both are beginnings of the same nodes, so one is a beginning of the other
  rcases List.append_eq_append_iff.1 (h1.symm.trans h2) with ⟨k, hk, -⟩ | ⟨k, hk, -⟩
  · rcases eq_or_ne k [] with rfl | hne
    · exact .inl (nodes_inj.1 (by rw [hk, List.append_nil]))
    · exact .inr (.inl (isAncestorOf_iff_nodes.2 ⟨k, hne, hk⟩))
  · rcases eq_or_ne k [] with rfl | hne
    · exact .inl (nodes_inj.1 (by rw [hk, List.append_nil]))
    · exact .inr (.inr (isAncestorOf_iff_nodes.2 ⟨k, hne, hk⟩))

/-! ## The path directly above -/

/-- The path without its last node. -/
theorem parent?_eq_some_iff {p d : Path} : p.parent? = some d ↔ ∃ m, p.nodes = d.nodes ++ [m] := by
  rw [parent?, Option.map_eq_some_iff]
  constructor
  · rintro ⟨⟨before, after⟩, hcut, rfl⟩
    obtain ⟨h, hafter⟩ := Text.cutLast_eq_some_iff.1 hcut
    refine ⟨String.ofList after, ?_⟩
    have hp : p = mk (String.ofList before ++ "." ++ String.ofList after) :=
      ext_text (String.toList_injective (by simp [h]))
    have ha : '.' ∉ (String.ofList after).toList := by rwa [String.toList_ofList]
    rw [hp, nodes_dot, nodes_of_noDot ha]
  · rintro ⟨m, h⟩
    have hm : '.' ∉ m.toList := dot_notMem_of_mem_nodes (p := p) (h ▸ by simp)
    have htext := text_of_nodes_append (nodes_ne_nil d) (by simp) h
    rw [ofNodes_nodes] at htext
    refine ⟨(d.text.toList, m.toList), ?_, by simp⟩
    rw [htext]
    simp only [ofNodes, Text.join, List.map_cons, List.map_nil, String.ofList_toList, String.toList_append,
      toList_dot, List.append_assoc, List.singleton_append]
    exact Text.cutLast_append _ hm

end SeriesCatalog.Path
