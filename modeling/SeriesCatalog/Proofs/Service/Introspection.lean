/-
Introspection over the service is exact. The catalog calls of an engine that is connected to the
service send a listing, and what the dialect reads off its rows is what the tree holds: its databases,
the tables of a schema and the columns of a table. No call changes the tree. A name that makes no
pattern, because it is not rooted or has an empty node, is refused by the service.
-/
import SeriesCatalog.Inspector
import SeriesCatalog.Proofs.Dialect.Rows
import SeriesCatalog.Proofs.Service.Connected

namespace SeriesCatalog.Service

open SeriesCatalog.Path Dialect

variable {config : Service} {e : Engine Tree} {t : Tree} {s table : String}

/-! ## The calls -/

theorem Serves.on_schemaNames (h : config.Serves e) (ht : t.Invariant) :
    e.schemaNames.on t = (.ok (t.databases.map Path.text), t) := by
  rw [Engine.on_schemaNames, h.on_query, queried_schemaNamesSql]
  simp [Except.mapError, Except.map, schemaNames_showDatabases ht]

theorem Serves.on_tableNames (h : config.Serves e) (hs : isIdentifier s = true) (t : Tree) :
    (e.tableNames s).on t =
      (((t.queried ("SHOW DEVICES " ++ (below s).text)).mapError
        (·.reported ("SHOW DEVICES " ++ (below s).text))).map (tableNames s), t) := by
  rw [Engine.on_tableNames (tableNamesSql_of_isIdentifier hs), h.on_query]

theorem Serves.on_columns (h : config.Serves e) (hs : isIdentifier s = true) (htable : isIdentifier table = true)
    (t : Tree) :
    (e.columns table s).on t =
      (((t.queried ("SHOW TIMESERIES " ++ (children (s ++ "." ++ table)).text)).mapError
        (·.reported ("SHOW TIMESERIES " ++ (children (s ++ "." ++ table)).text))).map (columns s table), t) := by
  rw [Engine.on_columns (columnsSql_of_isIdentifier hs htable), h.on_query]

/-! ## What they answer -/

theorem Serves.tableNames_of_rooted (h : config.Serves e) (ht : t.Invariant) (hs : isIdentifier s = true)
    (hroot : (Path.mk s).Rooted) :
    ∃ names, (e.tableNames s).on t = (.ok names, t) ∧ Ascending.Holds id names ∧
      ∀ n, n ∈ names ↔ ∃ r ∈ t.series, r.path.parent? = some (Path.mk (s ++ "." ++ n)) := by
  have hblank := noBlank_of_isIdentifier hs
  refine ⟨_, ?_, Ascending.holds_texts _, fun n => mem_tableNames_showDevices ht (star_notMem_of_isIdentifier hs)⟩
  rw [h.on_tableNames hs, (queried_below hblank).1 hroot]
  rfl

theorem Serves.tableNames_of_not_rooted (h : config.Serves e) (hs : isIdentifier s = true)
    (hroot : ¬ (Path.mk s).Rooted) (t : Tree) :
    ∃ message sql, (e.tableNames s).on t = (.error (.server 700 message sql), t) := by
  have hblank := noBlank_of_isIdentifier hs
  obtain ⟨fault, hfault⟩ := (queried_below (t := t) hblank).2 hroot
  refine ⟨(Rejection.malformed fault).message, "SHOW DEVICES " ++ (below s).text, ?_⟩
  rw [h.on_tableNames hs, hfault]
  rfl

theorem Serves.columns_of_rooted (h : config.Serves e) (ht : t.Invariant) (hs : isIdentifier s = true)
    (htable : isIdentifier table = true) (hroot : (Path.mk (s ++ "." ++ table)).Rooted) :
    ∃ cols, (e.columns table s).on t = (.ok (.time :: cols), t) ∧ Ascending.Holds Column.name cols ∧
      ∀ c, c ∈ cols ↔ ∃ r ∈ t.series, '.' ∉ c.name.toList ∧
        r.path.text = s ++ "." ++ table ++ "." ++ c.name ∧ c = storedColumn c.name r.info := by
  have hblank := noBlank_append (noBlank_of_isIdentifier hs) (noBlank_of_isIdentifier htable)
  obtain ⟨cols, hcols, hascending, hmem⟩ :=
    columns_showSeries ht (star_notMem_of_isIdentifier hs) (star_notMem_of_isIdentifier htable)
  refine ⟨cols, ?_, hascending, hmem⟩
  rw [h.on_columns hs htable, (queried_children hblank).1 hroot, ← hcols]
  rfl

theorem Serves.columns_of_not_rooted (h : config.Serves e) (hs : isIdentifier s = true)
    (htable : isIdentifier table = true) (hroot : ¬ (Path.mk (s ++ "." ++ table)).Rooted) (t : Tree) :
    ∃ message sql, (e.columns table s).on t = (.error (.server 700 message sql), t) := by
  have hblank := noBlank_append (noBlank_of_isIdentifier hs) (noBlank_of_isIdentifier htable)
  obtain ⟨fault, hfault⟩ := (queried_children (t := t) hblank).2 hroot
  refine ⟨(Rejection.malformed fault).message, "SHOW TIMESERIES " ++ (children (s ++ "." ++ table)).text, ?_⟩
  rw [h.on_columns hs htable, hfault]
  rfl

/-! ## Exactness -/

/-- The catalog calls of an engine tell what a tree holds. -/
structure Introspects (e : Engine Tree) (t : Tree) : Prop where
  /-- The schemas are the databases, in ascending order and the system's among them. -/
  schemas : ∃ names, e.schemaNames.on t = (.ok names, t) ∧ names.Pairwise (· < ·) ∧
    names = t.databases.map Path.text ∧ Tree.systemDatabase.text ∈ names
  /-- The tables of a schema are the single names between it and a node of a series, in ascending order. -/
  tables : ∀ s, isIdentifier s = true → (Path.mk s).nodes.head? = some "root" → "" ∉ (Path.mk s).nodes →
    ∃ names, (e.tableNames s).on t = (.ok names, t) ∧ names.Pairwise (· < ·) ∧
      ∀ n, n ∈ names ↔ ∃ r ∈ t.series, ∃ m, '.' ∉ m.toList ∧ r.path.text = s ++ "." ++ n ++ "." ++ m
  tablesRefused : ∀ s, isIdentifier s = true → ((Path.mk s).nodes.head? ≠ some "root" ∨ "" ∈ (Path.mk s).nodes) →
    ∃ message sql, (e.tableNames s).on t = (.error (.server 700 message sql), t)
  /-- The columns of a table are that of instants and one for every series directly below it, in the order of their
  names, each with the type and the properties of its series. -/
  columns : ∀ s table, isIdentifier s = true → isIdentifier table = true →
    (Path.mk s).nodes.head? = some "root" → "" ∉ (Path.mk s).nodes → "" ∉ (Path.mk table).nodes →
    ∃ cols, (e.columns table s).on t = (.ok (.time :: cols), t) ∧ cols.Pairwise (fun c d => c.name < d.name) ∧
      (∀ c, c ∈ cols ↔ ∃ r ∈ t.series, '.' ∉ c.name.toList ∧
        r.path.text = s ++ "." ++ table ++ "." ++ c.name ∧ c = storedColumn c.name r.info) ∧
      (Column.time.nullable = false ∧ ∀ c ∈ cols, c.nullable = true ∧ ∀ name, c.type ≠ .unknown name)
  columnsRefused : ∀ s table, isIdentifier s = true → isIdentifier table = true →
    ((Path.mk s).nodes.head? ≠ some "root" ∨ "" ∈ (Path.mk s).nodes ∨ "" ∈ (Path.mk table).nodes) →
    ∃ message sql, (e.columns table s).on t = (.error (.server 700 message sql), t)

/-- An engine that is connected to the service tells what the tree holds, whatever texts led to it. -/
theorem introspects_of_reachable (h : config.Serves e) (ht : t.Reachable) : Introspects e t where
  schemas := by
    have hinv := ht.invariant
    refine ⟨_, h.on_schemaNames hinv, ?_, rfl, List.mem_map_of_mem hinv.system⟩
    exact List.pairwise_map.2 hinv.databasesAscending
  tables s hs hroot hempty := by
    obtain ⟨names, hcall, hascending, hmem⟩ := h.tableNames_of_rooted ht.invariant hs ⟨hroot, hempty⟩
    refine ⟨names, hcall, hascending, fun n => ?_⟩
    simp only [hmem, parent?_eq_some_mk_iff]
  tablesRefused s hs hbad := by
    refine h.tableNames_of_not_rooted hs (fun hroot => ?_) t
    rcases hbad with hbad | hbad
    · exact hbad hroot.root
    · exact hroot.noEmptyNode hbad
  columns s table hs htable hroot hempty htempty := by
    obtain ⟨cols, hcall, hascending, hmem⟩ := h.columns_of_rooted ht.invariant hs htable
      (rooted_append_iff.2 ⟨⟨hroot, hempty⟩, htempty⟩)
    refine ⟨cols, hcall, hascending, hmem, rfl, fun c hc => ?_⟩
    obtain ⟨r, -, -, -, hcol⟩ := (hmem c).1 hc
    rw [hcol]
    refine ⟨rfl, fun name => ?_⟩
    show storedType r.info.dataType ≠ _
    rw [← ofDataType_name]
    exact SqlType.ofDataType_name_ne_unknown _ name
  columnsRefused s table hs htable hbad := by
    refine h.columns_of_not_rooted hs htable (fun hrooted => ?_) t
    obtain ⟨hroot, htempty⟩ := rooted_append_iff.1 hrooted
    rcases hbad with hbad | hbad | hbad
    · exact hbad hroot.root
    · exact hroot.noEmptyNode hbad
    · exact htempty hbad

/-- A tree with similar names and devices that nest, below a database and below one inside a schema. -/
theorem introspects_local :
    let t := Tree.initial.run ["create database root.cursor", "create database root.cursor_s1",
      "create timeseries root.cursor.device1.temperature with datatype=FLOAT,encoding=RLE",
      "create timeseries root.cursor.device1.inner.status with datatype=TEXT,compression="]
    Serves {} localEngine ∧ t.Reachable ∧ Introspects localEngine t := by
  intro t
  exact ⟨serves_local, ⟨_, rfl⟩, introspects_of_reachable serves_local ⟨_, rfl⟩⟩

end SeriesCatalog.Service
