/-
Names in listing statements. An accepted name holds no blank and no star, so the pattern made from it
is one word and selects by the name alone; the statement is the listing of that pattern if the name is
rooted and has no empty node, and is refused otherwise.
-/
import SeriesCatalog.Proofs.Statement.Listing
import SeriesCatalog.Proofs.Tree.Answers

namespace SeriesCatalog

namespace Path

/-- The pattern of everything below a path. -/
def below (s : String) : Path := ⟨s ++ "." ++ someNodes⟩

/-- The pattern of everything directly below a path. -/
def children (s : String) : Path := ⟨s ++ "." ++ oneNode⟩

theorem rooted_append_iff {s t : String} :
    (mk (s ++ "." ++ t)).Rooted ↔ (mk s).Rooted ∧ "" ∉ (mk t).nodes := by
  have hhead : ((mk s).nodes ++ (mk t).nodes).head? = (mk s).nodes.head? :=
    List.head?_append_of_ne_nil _ (nodes_ne_nil _)
  constructor
  · rintro ⟨hroot, hempty⟩
    rw [nodes_dot, hhead] at hroot
    rw [nodes_dot, List.mem_append, not_or] at hempty
    exact ⟨⟨hroot, hempty.1⟩, hempty.2⟩
  · rintro ⟨⟨hroot, hs⟩, ht⟩
    refine ⟨?_, ?_⟩
    · rw [nodes_dot, hhead, hroot]
    · rw [nodes_dot, List.mem_append, not_or]
      exact ⟨hs, ht⟩

theorem rooted_below_iff {s : String} : (below s).Rooted ↔ (mk s).Rooted := by
  have hstar : "" ∉ (mk someNodes).nodes := by rw [nodes_of_noDot (by decide)]; decide
  rw [below, rooted_append_iff]
  exact and_iff_left hstar

theorem rooted_children_iff {s : String} : (children s).Rooted ↔ (mk s).Rooted := by
  have hstar : "" ∉ (mk oneNode).nodes := by rw [nodes_of_noDot (by decide)]; decide
  rw [children, rooted_append_iff]
  exact and_iff_left hstar

end Path

namespace Dialect

open Text SeriesCatalog.Path

variable {s table sql : String}

/-! ## Accepted names -/

theorem forall_of_isIdentifier (h : isIdentifier s = true) :
    ∀ c ∈ s.toList, isBlank c = false ∧ c ≠ '*' := by
  unfold isIdentifier at h
  simp only [Bool.and_eq_true, List.all_eq_true, Bool.not_eq_true', bne_iff_ne] at h
  intro c hc
  exact ⟨(h.2 c hc).1.1.1.1, (h.2 c hc).2⟩

theorem noBlank_of_isIdentifier (h : isIdentifier s = true) : ∀ c ∈ s.toList, isBlank c = false :=
  fun c hc => (forall_of_isIdentifier h c hc).1

theorem star_notMem_of_isIdentifier (h : isIdentifier s = true) : '*' ∉ s.toList :=
  fun hm => (forall_of_isIdentifier h '*' hm).2 rfl

/-- A path without empty nodes begins and ends with a name. -/
theorem ends_of_noEmptyNode {s : String} (h : "" ∉ (Path.mk s).nodes) :
    s.toList ≠ [] ∧ s.toList.head? ≠ some '.' ∧ s.toList.getLast? ≠ some '.' := by
  have hpieces : [] ∉ Text.pieces '.' s.toList := fun hm => h (List.mem_map.2 ⟨[], hm, rfl⟩)
  refine ⟨fun hnil => ?_, fun hhead => ?_, fun hlast => ?_⟩
  · rw [hnil] at hpieces
    exact hpieces (by decide)
  · obtain ⟨cs, hcs⟩ := List.head?_eq_some_iff.1 hhead
    have hsplit : Text.pieces '.' ([] ++ '.' :: cs) = [] :: Text.pieces '.' cs := Text.pieces_append '.' [] cs
    rw [hcs] at hpieces
    exact hpieces (hsplit ▸ List.mem_cons_self ..)
  · obtain ⟨cs, hcs⟩ := List.getLast?_eq_some_iff.1 hlast
    rw [hcs, Text.pieces_append '.' cs []] at hpieces
    exact hpieces (List.mem_append_right _ (by decide))

/-- A path of characters of an identifier is an identifier. -/
theorem isIdentifier_of_subset {s part : String} (h : isIdentifier s = true) (hempty : "" ∉ (Path.mk part).nodes)
    (hsubset : part.toList ⊆ s.toList) : isIdentifier part = true := by
  obtain ⟨hnil, hhead, hlast⟩ := ends_of_noEmptyNode hempty
  unfold isIdentifier at h ⊢
  simp only [Bool.and_eq_true, List.all_eq_true] at h ⊢
  exact ⟨⟨⟨by simpa using hnil, by simpa using hhead⟩, by simpa using hlast⟩, fun c hc => h.2 c (hsubset hc)⟩

theorem noBlank_append {s t : String} (hs : ∀ c ∈ s.toList, isBlank c = false)
    (ht : ∀ c ∈ t.toList, isBlank c = false) :
    ∀ c ∈ (s ++ "." ++ t).toList, isBlank c = false := by
  intro c hc
  rw [String.toList_append, String.toList_append, List.mem_append, List.mem_append] at hc
  rcases hc with (hc | hc) | hc
  · exact hs c hc
  · rw [toList_dot, List.mem_singleton] at hc
    exact hc ▸ by decide
  · exact ht c hc

/-! ## Statements -/

theorem validate_of_isIdentifier (h : isIdentifier s = true) : validate s = .ok () := by
  rw [validate, if_pos h]

theorem tableNamesSql_of_isIdentifier (h : isIdentifier s = true) :
    tableNamesSql s = .ok ("SHOW DEVICES " ++ (below s).text) := by
  have htext : "SHOW DEVICES " ++ s ++ ".**" = "SHOW DEVICES " ++ (below s).text :=
    String.toList_injective (by simp [below, someNodes])
  rw [← htext, tableNamesSql, validate_of_isIdentifier h]
  rfl

theorem columnsSql_of_isIdentifier (hs : isIdentifier s = true) (ht : isIdentifier table = true) :
    columnsSql s table = .ok ("SHOW TIMESERIES " ++ (children (s ++ "." ++ table)).text) := by
  have htext : "SHOW TIMESERIES " ++ s ++ "." ++ table ++ ".*" =
      "SHOW TIMESERIES " ++ (children (s ++ "." ++ table)).text :=
    String.toList_injective (by simp [children, oneNode])
  rw [← htext, columnsSql, validate_of_isIdentifier hs, validate_of_isIdentifier ht]
  rfl

/-! ## What they read as -/

/-- The statement is the listing of the pattern where the pattern is rooted, and is refused elsewhere. -/
def ReadsAs (sql : String) (listing : Option Path → Statement) (p : Path) : Prop :=
  (p.Rooted → Statement.parse sql = .ok (listing (some p))) ∧
    (¬ p.Rooted → Statement.parse sql = .error (.ofPath p))

theorem readsAs_of_parse {p : Path} {cs : List Char} {listing : Option Path → Statement}
    (hp : p.text.toList = cs ++ ['*']) (hblank : ∀ c ∈ p.text.toList, isBlank c = false)
    (hparse : Statement.parse sql = (listing ∘ some) <$> Statement.path p.text.toList) : ReadsAs sql listing p := by
  constructor
  · intro h
    rw [hparse, Statement.path_eq_ok hp hblank h]
    rfl
  · intro h
    rw [hparse, Statement.path_of_not_rooted hp hblank h]
    rfl

theorem readsAs_below (hs : ∀ c ∈ s.toList, isBlank c = false) :
    ReadsAs ("SHOW DEVICES " ++ (below s).text) .showDevices (below s) := by
  have hp : (below s).text.toList = (s.toList ++ ['.', '*']) ++ ['*'] := by simp [below, someNodes]
  have hblank : ∀ c ∈ (below s).text.toList, isBlank c = false := noBlank_append hs (noBlank_of_all (by decide))
  exact readsAs_of_parse hp hblank (Statement.parse_showDevices hp hblank)

theorem readsAs_children (hs : ∀ c ∈ s.toList, isBlank c = false) :
    ReadsAs ("SHOW TIMESERIES " ++ (children s).text) .showSeries (children s) := by
  have hp : (children s).text.toList = (s.toList ++ ['.']) ++ ['*'] := by simp [children, oneNode]
  have hblank : ∀ c ∈ (children s).text.toList, isBlank c = false := noBlank_append hs (noBlank_of_all (by decide))
  exact readsAs_of_parse hp hblank (Statement.parse_showSeries hp hblank)

/-! ## Answers -/

variable {t : Tree}

theorem queried_schemaNamesSql : t.queried schemaNamesSql = .ok (t.showDatabases none) := by
  have hparse : Statement.parse schemaNamesSql = .ok (.showDatabases none) := by decide +kernel
  rw [Tree.queried, hparse]
  rfl

theorem ReadsAs.queried {p : Path} {listing : Option Path → Statement} {rows : Option Path → Table}
    (h : ReadsAs sql listing p) (happly : ∀ o, t.apply (listing o) = (.ok (.rows (rows o)), t)) :
    (p.Rooted → t.queried sql = .ok (rows (some p))) ∧
      (¬ p.Rooted → ∃ fault, t.queried sql = .error (.malformed fault)) := by
  constructor
  · intro hroot
    rw [Tree.queried, h.1 hroot]
    simp only [happly]
  · intro hroot
    exact ⟨_, Tree.queried_of_parse_error (h.2 hroot)⟩

theorem queried_below (hs : ∀ c ∈ s.toList, isBlank c = false) :
    ((mk s).Rooted → t.queried ("SHOW DEVICES " ++ (below s).text) = .ok (t.showDevices (some (below s)))) ∧
      (¬ (mk s).Rooted → ∃ fault, t.queried ("SHOW DEVICES " ++ (below s).text) = .error (.malformed fault)) := by
  rw [← rooted_below_iff]
  exact (readsAs_below hs).queried fun _ => rfl

theorem queried_children (hs : ∀ c ∈ s.toList, isBlank c = false) :
    ((mk s).Rooted → t.queried ("SHOW TIMESERIES " ++ (children s).text) = .ok (t.showSeries (some (children s)))) ∧
      (¬ (mk s).Rooted → ∃ fault, t.queried ("SHOW TIMESERIES " ++ (children s).text) = .error (.malformed fault)) := by
  rw [← rooted_children_iff]
  exact (readsAs_children hs).queried fun _ => rfl

end Dialect

end SeriesCatalog
