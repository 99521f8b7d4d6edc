/-
Names stay inside the statements that are built from them. An accepted name holds no blank and no
star, and a statement that is built ends in a star, so nothing around the pattern is trimmed, the
pattern is one word, and the wildcard at its end is its only one. The statement therefore reads as the
listing of that very pattern, or is refused because the pattern is not rooted or has an empty node.
The pattern selects what its name says: everything below a schema, or what lies directly below a table.
-/
import SeriesCatalog.Proofs.Dialect.Names

namespace SeriesCatalog.Dialect

open Text SeriesCatalog.Path

variable {s table sql : String}

/-! ## Built statements -/

theorem validate_eq_ok_iff : validate s = .ok () ↔ isIdentifier s = true := by
  unfold validate
  split
  · exact iff_of_true rfl ‹_›
  · exact iff_of_false nofun ‹_›

theorem tableNamesSql_eq_ok_iff :
    tableNamesSql s = .ok sql ↔ isIdentifier s = true ∧ sql = "SHOW DEVICES " ++ (below s).text := by
  constructor
  · intro h
    obtain ⟨_, hvalid, _⟩ := bind_eq_ok_iff.1 h
    have hs := validate_eq_ok_iff.1 hvalid
    rw [tableNamesSql_of_isIdentifier hs] at h
    exact ⟨hs, (Except.ok.inj h).symm⟩
  · rintro ⟨hs, rfl⟩
    exact tableNamesSql_of_isIdentifier hs

theorem columnsSql_eq_ok_iff :
    columnsSql s table = .ok sql ↔ isIdentifier s = true ∧ isIdentifier table = true ∧
      sql = "SHOW TIMESERIES " ++ (children (s ++ "." ++ table)).text := by
  constructor
  · intro h
    obtain ⟨_, hvalid, hrest⟩ := bind_eq_ok_iff.1 h
    obtain ⟨_, hvalid', _⟩ := bind_eq_ok_iff.1 hrest
    have hs := validate_eq_ok_iff.1 hvalid
    have htable := validate_eq_ok_iff.1 hvalid'
    rw [columnsSql_of_isIdentifier hs htable] at h
    exact ⟨hs, htable, (Except.ok.inj h).symm⟩
  · rintro ⟨hs, htable, rfl⟩
    exact columnsSql_of_isIdentifier hs htable

theorem readsAs_tableNamesSql (h : tableNamesSql s = .ok sql) : ReadsAs sql .showDevices (below s) := by
  obtain ⟨hs, rfl⟩ := tableNamesSql_eq_ok_iff.1 h
  exact readsAs_below (noBlank_of_isIdentifier hs)

theorem readsAs_columnsSql (h : columnsSql s table = .ok sql) :
    ReadsAs sql .showSeries (children (s ++ "." ++ table)) := by
  obtain ⟨hs, htable, rfl⟩ := columnsSql_eq_ok_iff.1 h
  exact readsAs_children (noBlank_append (noBlank_of_isIdentifier hs) (noBlank_of_isIdentifier htable))

/-! ## What they select -/

theorem below_eq (s : String) : below s = ⟨s ++ ".**"⟩ :=
  ext_text (String.toList_injective (by simp [below, someNodes]))

theorem children_eq (s : String) : children s = ⟨s ++ ".*"⟩ :=
  ext_text (String.toList_injective (by simp [children, oneNode]))

theorem fits_below_iff_nodes (h : '*' ∉ s.toList) (q : Path) :
    q.fits (below s) = true ↔ ∃ rest, rest ≠ [] ∧ q.nodes = (mk s).nodes ++ rest := by
  rw [below, fits_below_iff h, isAncestorOf_iff_nodes]

theorem fits_children_iff_nodes (h : '*' ∉ s.toList) (q : Path) :
    q.fits (children s) = true ↔ ∃ n, q.nodes = (mk s).nodes ++ [n] := by
  rw [children, fits_child_iff h, parent?_eq_some_iff]

/-- A statement that is built from names reads as the listing of the pattern that the names make up, if the first node
of the schema is `root` and no node of a name is empty, and otherwise does not read at all. The pattern of a schema
fits what lies below the schema, and that of a table what lies one node below the table, and nothing else. -/
theorem parse_of_built (s table : String) :
    (∀ sql, tableNamesSql s = .ok sql →
      ((mk s).nodes.head? = some "root" ∧ "" ∉ (mk s).nodes →
        Statement.parse sql = .ok (.showDevices (some ⟨s ++ ".**"⟩)) ∧
        ∀ q : Path, q.fits ⟨s ++ ".**"⟩ = true ↔ ∃ rest, rest ≠ [] ∧ q.nodes = (mk s).nodes ++ rest) ∧
      (¬ ((mk s).nodes.head? = some "root" ∧ "" ∉ (mk s).nodes) →
        Statement.parse sql = .error (.ofPath ⟨s ++ ".**"⟩))) ∧
    (∀ sql, columnsSql s table = .ok sql →
      ((mk s).nodes.head? = some "root" ∧ "" ∉ (mk s).nodes ∧ "" ∉ (mk table).nodes →
        Statement.parse sql = .ok (.showSeries (some ⟨s ++ "." ++ table ++ ".*"⟩)) ∧
        ∀ q : Path, q.fits ⟨s ++ "." ++ table ++ ".*"⟩ = true ↔
          ∃ n, q.nodes = (mk s).nodes ++ (mk table).nodes ++ [n]) ∧
      (¬ ((mk s).nodes.head? = some "root" ∧ "" ∉ (mk s).nodes ∧ "" ∉ (mk table).nodes) →
        Statement.parse sql = .error (.ofPath ⟨s ++ "." ++ table ++ ".*"⟩))) := by
  constructor
  · intro sql h
    have hstar := star_notMem_of_isIdentifier (tableNamesSql_eq_ok_iff.1 h).1
    have hrooted : (below s).Rooted ↔ (mk s).nodes.head? = some "root" ∧ "" ∉ (mk s).nodes :=
      rooted_below_iff.trans ⟨fun hr => ⟨hr.root, hr.noEmptyNode⟩, fun hr => ⟨hr.1, hr.2⟩⟩
    obtain ⟨haccepted, hrefused⟩ := readsAs_tableNamesSql h
    rw [← below_eq, ← hrooted]
    exact ⟨fun hr => ⟨haccepted hr, fits_below_iff_nodes hstar⟩, hrefused⟩
  · intro sql h
    obtain ⟨hs, htable, -⟩ := columnsSql_eq_ok_iff.1 h
    have hstar : '*' ∉ (s ++ "." ++ table).toList := by
      simp [star_notMem_of_isIdentifier hs, star_notMem_of_isIdentifier htable]
    have hrooted : (children (s ++ "." ++ table)).Rooted ↔
        (mk s).nodes.head? = some "root" ∧ "" ∉ (mk s).nodes ∧ "" ∉ (mk table).nodes :=
      (rooted_children_iff.trans rooted_append_iff).trans
        ⟨fun hr => ⟨hr.1.root, hr.1.noEmptyNode, hr.2⟩, fun hr => ⟨⟨hr.1, hr.2.1⟩, hr.2.2⟩⟩
    obtain ⟨haccepted, hrefused⟩ := readsAs_columnsSql h
    rw [← children_eq, ← hrooted, ← nodes_dot]
    exact ⟨fun hr => ⟨haccepted hr, fits_children_iff_nodes hstar⟩, hrefused⟩

/-- A comma at the end of a name is part of the pattern, and a name that is not rooted is refused. -/
theorem parse_of_built_comma :
    tableNamesSql "root.plant," = .ok "SHOW DEVICES root.plant,.**" ∧
      Statement.parse "SHOW DEVICES root.plant,.**" = .ok (.showDevices (some ⟨"root.plant,.**"⟩)) ∧
      columnsSql "plant" "line.1" = .ok "SHOW TIMESERIES plant.line.1.*" ∧
      Statement.parse "SHOW TIMESERIES plant.line.1.*" = .error (.notUnderRoot "plant.line.1.*") := by
  have htables : tableNamesSql "root.plant," = .ok "SHOW DEVICES root.plant,.**" := rfl
  have hcolumns : columnsSql "plant" "line.1" = .ok "SHOW TIMESERIES plant.line.1.*" := rfl
  obtain ⟨haccepted, -⟩ := (parse_of_built "root.plant," "line.1").1 _ htables
  obtain ⟨-, hrefused⟩ := (parse_of_built "plant" "line.1").2 _ hcolumns
  exact ⟨htables, (haccepted (by decide)).1, hcolumns, hrefused (by decide)⟩

end SeriesCatalog.Dialect
