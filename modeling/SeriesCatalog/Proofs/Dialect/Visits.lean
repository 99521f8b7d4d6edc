/-
The columns of a tree, gone through schema by schema and table by table. A column belongs to the series
whose path is the name of the column behind those of its table and its schema, and no two columns belong
to the same series: the schema is the only database above the series, and the table is what lies between
the database and the last node. Where nothing lies between them there is no table, and the series has no
column.
-/
import SeriesCatalog.Proofs.Dialect.Rows

namespace SeriesCatalog

open SeriesCatalog.Path Dialect

/-! ## Lists of parts -/

/-- Parts that can be told by their elements have no element twice if none of them has. -/
theorem nodup_flatMap_of_key {α β : Type} {f : α → List β} {l : List α} (key : β → α) (hl : l.Nodup)
    (hkey : ∀ a ∈ l, ∀ b ∈ f a, key b = a) (hf : ∀ a ∈ l, (f a).Nodup) : (l.flatMap f).Nodup := by
  refine List.nodup_flatMap.2 ⟨hf, hl.imp_of_mem fun {a a'} ha ha' hne b hb hb' => hne ?_⟩
  rw [← hkey a ha b hb, hkey a' ha' b hb']

/-- Where a path lies below another one but not directly, the nodes between them make the name of a table. -/
theorem Path.exists_table_of_isAncestorOf {d p : Path} (h : d.isAncestorOf p = true) (hne : p.parent? ≠ some d) :
    ∃ table m, '.' ∉ m.toList ∧ p.text = d.text ++ "." ++ table ++ "." ++ m := by
  obtain ⟨ns, hns, hnodes⟩ := isAncestorOf_iff_nodes.1 h
  obtain ⟨ms, m, rfl⟩ := (List.eq_nil_or_concat ns).resolve_left hns
  rw [List.concat_eq_append] at hnodes
  have hm : '.' ∉ m.toList := dot_notMem_of_mem_nodes (p := p) (hnodes ▸ by simp)
  have hms : ms ≠ [] := fun hnil => hne (parent?_eq_some_iff.2 ⟨m, by rw [hnodes, hnil, List.nil_append]⟩)
  refine ⟨(ofNodes ms).text, m, hm, ?_⟩
  have htext := text_of_nodes_append (nodes_ne_nil d) (by simp) hnodes
  have hlast : (ofNodes [m]).text = m := by simp [ofNodes, Text.join]
  rw [htext, ofNodes_nodes, ofNodes_append hms (by simp), hlast]
  simp only [String.append_assoc]

/-- A column, with its table and its schema. -/
@[ext] structure Visit where
  schema : String
  table : String
  column : Column

/-- The path that a column stands for. -/
def Visit.text (v : Visit) : String := v.schema ++ "." ++ v.table ++ "." ++ v.column.name

namespace Tree

variable {t : Tree} {s table : String} {v w : Visit}

/-- Some node lies between the database above the path and the last node of the path. -/
def inTable (t : Tree) (p : Path) : Bool := p.parent? != t.ownerOf? p

/-- The tables of a schema. -/
def tables (t : Tree) (s : String) : List String := tableNames s (t.showDevices (some (below s)))

/-- The columns of a table but for that of instants. -/
def visitsOf (t : Tree) (s table : String) : List Visit :=
  ((columns s table (t.showSeries (some (children (s ++ "." ++ table))))).filter (· ≠ .time)).map (Visit.mk s table)

/-- The columns of all tables of all schemas. -/
def visits (t : Tree) : List Visit :=
  (t.databases.map Path.text).flatMap fun s => (t.tables s).flatMap (t.visitsOf s)

/-! ## One table -/

theorem Invariant.mem_tables_iff (h : t.Invariant) (hs : '*' ∉ s.toList) :
    table ∈ t.tables s ↔ ∃ r ∈ t.series, r.path.parent? = some (Path.mk (s ++ "." ++ table)) :=
  mem_tableNames_showDevices h hs

theorem Invariant.star_notMem_of_mem_tables (h : t.Invariant) (hs : '*' ∉ s.toList) (ht : table ∈ t.tables s) :
    '*' ∉ table.toList := by
  obtain ⟨r, hr, hparent⟩ := (h.mem_tables_iff hs).1 ht
  obtain ⟨m, -, htext⟩ := parent?_eq_some_mk_iff.1 hparent
  have hstar := (h.seriesStorable r hr).noStar
  rw [htext] at hstar
  simp only [String.toList_append, List.mem_append, not_or] at hstar
  exact hstar.1.1.2

/-- The column of instants is the only one that takes no nulls. -/
theorem Invariant.visitsOf_eq (h : t.Invariant) (hs : '*' ∉ s.toList) (htable : '*' ∉ table.toList) :
    ∃ cols, t.visitsOf s table = cols.map (Visit.mk s table) ∧ Ascending.Holds Column.name cols ∧
      ∀ c, c ∈ cols ↔ ∃ r ∈ t.series, '.' ∉ c.name.toList ∧
        r.path.text = s ++ "." ++ table ++ "." ++ c.name ∧ c = storedColumn c.name r.info := by
  obtain ⟨cols, hcols, hascending, hmem⟩ := columns_showSeries h hs htable
  refine ⟨cols, ?_, hascending, hmem⟩
  have hrest : cols.filter (· ≠ .time) = cols := by
    refine List.filter_eq_self.2 fun c hc => decide_eq_true ?_
    rintro rfl
    obtain ⟨r, -, -, -, he⟩ := (hmem _).1 hc
    cases congrArg Column.nullable he
  rw [visitsOf, hcols, List.filter_cons_of_neg (by simp), hrest]

theorem Invariant.mem_visitsOf_iff (h : t.Invariant) (hs : '*' ∉ s.toList) (htable : '*' ∉ table.toList) :
    v ∈ t.visitsOf s table ↔ v.schema = s ∧ v.table = table ∧ ∃ r ∈ t.series, '.' ∉ v.column.name.toList ∧
      r.path.text = v.text ∧ v.column = storedColumn v.column.name r.info := by
  obtain ⟨cols, he, -, hmem⟩ := h.visitsOf_eq hs htable
  rw [he, List.mem_map]
  constructor
  · rintro ⟨c, hc, rfl⟩
    exact ⟨rfl, rfl, (hmem c).1 hc⟩
  · rintro ⟨rfl, rfl, hr⟩
    exact ⟨v.column, (hmem _).2 hr, rfl⟩

theorem Invariant.nodup_visitsOf (h : t.Invariant) (hs : '*' ∉ s.toList) (htable : '*' ∉ table.toList) :
    (t.visitsOf s table).Nodup := by
  obtain ⟨cols, he, hascending, -⟩ := h.visitsOf_eq hs htable
  rw [he]
  exact hascending.nodup.map fun c d hcd => congrArg Visit.column hcd

/-! ## All tables -/

theorem Invariant.star_notMem_of_mem_schemas (h : t.Invariant) (hs : s ∈ t.databases.map Path.text) :
    '*' ∉ s.toList := by
  obtain ⟨db, hdb, rfl⟩ := List.mem_map.1 hs
  exact (h.databasesStorable db hdb).1.noStar

theorem Invariant.mem_visits_iff (h : t.Invariant) :
    v ∈ t.visits ↔ Path.mk v.schema ∈ t.databases ∧ ∃ r ∈ t.series, '.' ∉ v.column.name.toList ∧ r.path.text = v.text ∧
      v.column = storedColumn v.column.name r.info := by
  simp only [visits, List.mem_flatMap]
  constructor
  · rintro ⟨s, hs, table, htable, hv⟩
    have hstar := h.star_notMem_of_mem_schemas hs
    obtain ⟨rfl, rfl, hr⟩ := (h.mem_visitsOf_iff hstar (h.star_notMem_of_mem_tables hstar htable)).1 hv
    obtain ⟨db, hdb, he⟩ := List.mem_map.1 hs
    exact ⟨he ▸ hdb, hr⟩
  · rintro ⟨hdb, r, hr, hname, htext, hcolumn⟩
    have hs : v.schema ∈ t.databases.map Path.text := List.mem_map.2 ⟨_, hdb, rfl⟩
    have hstar := h.star_notMem_of_mem_schemas hs
    have htable : v.table ∈ t.tables v.schema :=
      (h.mem_tables_iff hstar).2 ⟨r, hr, parent?_eq_some_mk_iff.2 ⟨_, hname, htext⟩⟩
    exact ⟨_, hs, _, htable, (h.mem_visitsOf_iff hstar (h.star_notMem_of_mem_tables hstar htable)).2
      ⟨rfl, rfl, r, hr, hname, htext, hcolumn⟩⟩

theorem Invariant.nodup_visits (h : t.Invariant) : t.visits.Nodup := by
  refine nodup_flatMap_of_key Visit.schema ?_ (fun s hs v hv => ?_) fun s hs => ?_
  · exact (Ascending.holds_map.2 h.databasesAscending : Ascending.Holds id _).nodup
  · have hstar := h.star_notMem_of_mem_schemas hs
    obtain ⟨table, htable, hv⟩ := List.mem_flatMap.1 hv
    exact ((h.mem_visitsOf_iff hstar (h.star_notMem_of_mem_tables hstar htable)).1 hv).1
  · have hstar := h.star_notMem_of_mem_schemas hs
    refine nodup_flatMap_of_key Visit.table (Ascending.holds_texts _).nodup (fun table htable v hv => ?_)
      fun table htable => ?_
    · exact ((h.mem_visitsOf_iff hstar (h.star_notMem_of_mem_tables hstar htable)).1 hv).2.1
    · exact h.nodup_visitsOf hstar (h.star_notMem_of_mem_tables hstar htable)

/-! ## Series and their columns -/

theorem Visit.isAncestorOf_of_text {p : Path} (h : p.text = v.text) : (Path.mk v.schema).isAncestorOf p = true :=
  isAncestorOf_iff.2 ⟨v.table ++ "." ++ v.column.name, by simp [h, Visit.text, String.append_assoc]⟩

/-- A path has one column at most. -/
theorem Invariant.visit_eq (h : t.Invariant) (hv : v ∈ t.visits) (hw : w ∈ t.visits) (he : v.text = w.text) :
    v = w := by
  obtain ⟨hdb, r, hr, hname, htext, hcolumn⟩ := h.mem_visits_iff.1 hv
  obtain ⟨hdb', r', hr', hname', htext', hcolumn'⟩ := h.mem_visits_iff.1 hw
  obtain rfl : r = r' := h.series_eq hr hr' (ext_text (by rw [htext, htext', he]))
  -- the database above the series, then what is directly above it, then its last node
  have hschema : v.schema = w.schema := congrArg Path.text
    (h.owner_unique hdb hdb' (Visit.isAncestorOf_of_text htext) (Visit.isAncestorOf_of_text htext'))
  have hparent : Path.mk (v.schema ++ "." ++ v.table) = Path.mk (w.schema ++ "." ++ w.table) := Option.some.inj
    ((parent?_eq_some_mk_iff.2 ⟨_, hname, htext⟩).symm.trans (parent?_eq_some_mk_iff.2 ⟨_, hname', htext'⟩))
  have htable : v.table = w.table := by
    rw [Path.mk.injEq, hschema] at hparent
    exact (String.append_right_inj _).1 hparent
  have hlast : v.column.name = w.column.name := by
    rw [Visit.text, Visit.text, hschema, htable] at he
    exact (String.append_right_inj _).1 he
  exact Visit.ext hschema htable (by rw [hcolumn, hcolumn', hlast])

/-- The paths with a column are those of the series that lie in a table. -/
theorem Invariant.mem_texts_visits_iff (h : t.Invariant) {text : String} :
    text ∈ t.visits.map Visit.text ↔ ∃ r ∈ t.series, t.inTable r.path = true ∧ r.path.text = text := by
  rw [List.mem_map]
  simp only [inTable, bne_iff_ne]
  constructor
  · rintro ⟨v, hv, rfl⟩
    obtain ⟨hdb, r, hr, hname, htext, -⟩ := h.mem_visits_iff.1 hv
    refine ⟨r, hr, fun he => ?_, htext⟩
    -- the database itself would be directly above the series
    rw [h.ownerOf?_eq_some_iff.2 ⟨hdb, Visit.isAncestorOf_of_text htext⟩, parent?_eq_some_mk_iff.2 ⟨_, hname, htext⟩,
      Option.some_inj] at he
    have hself : (Path.mk v.schema).isAncestorOf (Path.mk v.schema) = true :=
      isAncestorOf_iff.2 ⟨v.table, (congrArg Path.text he).symm⟩
    rw [isAncestorOf_irrefl] at hself
    cases hself
  · rintro ⟨r, hr, hne, rfl⟩
    obtain ⟨db, hdb, howner, -, hanc⟩ := h.exists_owner hr
    obtain ⟨table, m, hm, htext⟩ := exists_table_of_isAncestorOf hanc (howner ▸ hne)
    exact ⟨⟨db.text, table, storedColumn m r.info⟩, h.mem_visits_iff.2 ⟨hdb, r, hr, hm, htext, rfl⟩, htext.symm⟩

theorem Invariant.nodup_texts_visits (h : t.Invariant) : (t.visits.map Visit.text).Nodup :=
  h.nodup_visits.map_on fun _ hv _ hw he => h.visit_eq hv hw he

/-- The paths of the columns are those of the series that lie in a table, each once. -/
theorem Invariant.perm_visits (h : t.Invariant) :
    (t.visits.map Visit.text).Perm ((t.series.filter (t.inTable ·.path)).map (·.path.text)) := by
  refine (List.perm_ext_iff_of_nodup h.nodup_texts_visits ?_).2 fun text => ?_
  · exact (Ascending.holds_map.2 (h.seriesAscending.filter _) : Ascending.Holds id _).nodup
  · rw [h.mem_texts_visits_iff]
    simp only [List.mem_map, List.mem_filter, and_assoc]

/-- A series in a table has one column, and any other series has none. -/
theorem Invariant.countP_visits (h : t.Invariant) {r : Series} (hr : r ∈ t.series) :
    t.visits.countP (·.text = r.path.text) = if t.inTable r.path then 1 else 0 := by
  have hmem : r.path.text ∈ t.visits.map Visit.text ↔ t.inTable r.path = true := by
    rw [h.mem_texts_visits_iff]
    constructor
    · rintro ⟨r', hr', htable, he⟩
      rwa [← ext_text he]
    · exact fun htable => ⟨r, hr, htable, rfl⟩
  have hcount : t.visits.countP (·.text = r.path.text) = (t.visits.map Visit.text).count r.path.text := by
    rw [List.count_eq_countP, List.countP_map]
    rfl
  rw [hcount, h.nodup_texts_visits.count]
  simp only [hmem]

/-- There are as many columns as there are series in a table. -/
theorem Invariant.length_visits (h : t.Invariant) : t.visits.length = t.series.countP (t.inTable ·.path) := by
  rw [← List.length_map Visit.text, h.perm_visits.length_eq, List.length_map, List.countP_eq_length_filter]

end Tree

end SeriesCatalog
