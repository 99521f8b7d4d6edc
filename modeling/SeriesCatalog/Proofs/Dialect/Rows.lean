/-
What the dialect reads off the tree's listings. The schemas are the databases. A device is a table of
a schema when it lies below the schema, and the name of the table is the rest of its path; whether the
schema is a database makes no difference, nor do devices that nest. The rows of a table's series are
its columns, in the order of their names, because one beginning common to all paths does not change
their order.
-/
import SeriesCatalog.Proofs.Dialect.Listing
import SeriesCatalog.Proofs.Dialect.Names
import SeriesCatalog.Proofs.Tree.Listing
import Mathlib.Tactic

namespace SeriesCatalog

open SeriesCatalog.Path

/-! ## Texts with a common beginning -/

theorem append_lt_append_left {front a b : String} (h : a < b) : front ++ a < front ++ b := by
  rw [String.lt_iff] at h ⊢
  rw [String.toList_append, String.toList_append]
  exact List.append_left_lt h

/-- A common beginning does not change the order. -/
theorem lt_of_append_lt_append_left {front a b : String} (h : front ++ a < front ++ b) : a < b := by
  rcases String.le_total b a with hle | hle
  · rcases eq_or_ne a b with rfl | hne
    · exact absurd h (String.lt_irrefl _)
    · have hlt : b < a := Ascending.lt_of_not_lt_of_ne (String.not_lt.2 hle) hne
      exact absurd h (String.lt_asymm (append_lt_append_left hlt))
  · -- the other way round both orders would hold
    by_contra hnot
    have heq : a = b := String.le_antisymm hle (String.not_lt.1 hnot)
    exact String.lt_irrefl _ (heq ▸ h)

/-! ## Paths directly below a path -/

namespace Path

theorem parent?_eq_some_mk_iff {p : Path} {d : String} :
    p.parent? = some (mk d) ↔ ∃ m, '.' ∉ m.toList ∧ p.text = d ++ "." ++ m := by
  rw [parent?_eq_some_iff]
  constructor
  · rintro ⟨m, h⟩
    have hm : '.' ∉ m.toList := dot_notMem_of_mem_nodes (p := p) (h ▸ by simp)
    refine ⟨m, hm, congrArg Path.text (nodes_inj.1 (?_ : p.nodes = (mk (d ++ "." ++ m)).nodes))⟩
    rw [h, nodes_dot, nodes_of_noDot hm]
  · rintro ⟨m, hm, h⟩
    refine ⟨m, ?_⟩
    rw [show p = mk (d ++ "." ++ m) from ext_text h, nodes_dot, nodes_of_noDot hm]

end Path

namespace Dialect

variable {t : Tree} {s table : String}

/-! ## Schemas -/

theorem text_ne_empty {p : Path} (h : p.Rooted) : p.text ≠ "" := by
  intro he
  have hroot := h.root
  rw [show p = mk "" from ext_text he] at hroot
  revert hroot
  decide

/-- The schemas are the databases. -/
theorem schemaNames_showDatabases (h : t.Invariant) :
    schemaNames (t.showDatabases none) = t.databases.map Path.text := by
  have hfilter : t.databases.filter (·.fits (none.getD Tree.everything)) = t.databases :=
    List.filter_eq_self.2 fun db hdb => (h.fits_database_iff hdb none).2 nofun
  have hindex : (t.showDatabases none).columnIndex? "Database" = some 0 := by
    show List.findIdx? _ ["Database", _, _, _] = some 0
    decide
  have hcolumn : (t.showDatabases none).columnOrFirst "Database" = t.databases.map Path.text := by
    rw [Table.columnOrFirst, Table.column?, hindex]
    simp only [Option.map_some, Option.getD_some, Table.cellsAt, Tree.showDatabases, hfilter, List.map_map]
    rfl
  refine (namesOf_schemaNames _).ascending.ext (Ascending.holds_map.2 h.databasesAscending) fun text => ?_
  rw [(namesOf_schemaNames _).mem_iff, ← Table.mem_columnOrFirst_iff, hcolumn]
  refine and_iff_right_of_imp fun htext => ?_
  obtain ⟨db, hdb, rfl⟩ := List.mem_map.1 htext
  exact text_ne_empty (h.databasesStorable db hdb).1.toRooted

/-! ## Tables -/

/-- A table of a schema is what lies between the schema and a series. -/
theorem mem_tableNames_showDevices (h : t.Invariant) (hs : '*' ∉ s.toList) {n : String} :
    n ∈ tableNames s (t.showDevices (some (below s))) ↔ ∃ r ∈ t.series, r.path.parent? = some (mk (s ++ "." ++ n)) := by
  have hindex : (t.showDevices (some (below s))).columnIndex? "Device" = some 0 := by
    show List.findIdx? _ ["Device", _, _, _] = some 0
    decide
  have hcolumn : (t.showDevices (some (below s))).columnOrFirst "Device" =
      (t.devices.filter (·.fits (below s))).map Path.text := by
    rw [Table.columnOrFirst, Table.column?, hindex]
    simp only [Option.map_some, Option.getD_some, Table.cellsAt, Tree.showDevices, List.map_map]
    rfl
  rw [(namesOf_tableNames s _).mem_iff, ← Table.mem_columnOrFirst_iff, hcolumn]
  simp only [List.mem_map, List.mem_filter, Tree.mem_devices_iff, below, fits_below_iff hs]
  constructor
  · rintro ⟨-, d, ⟨⟨r, hr, hparent⟩, -⟩, htext⟩
    exact ⟨r, hr, by rw [hparent, ← htext]⟩
  · rintro ⟨r, hr, hparent⟩
    refine ⟨?_, mk (s ++ "." ++ n), ⟨⟨r, hr, hparent⟩, isAncestorOf_iff.2 ⟨n, rfl⟩⟩, rfl⟩
    -- a table without a name would be an empty node of the series
    rintro rfl
    obtain ⟨m, hnodes⟩ := parent?_eq_some_iff.1 hparent
    refine (h.seriesStorable r hr).noEmptyNode ?_
    rw [hnodes, nodes_dot]
    simp [nodes, Text.pieces, Cut.piecesBy]

/-- What lies directly below a table makes the table and its schema rooted. -/
theorem rooted_of_parent (h : t.Invariant) {r : Series} (hr : r ∈ t.series)
    (hparent : r.path.parent? = some (mk (s ++ "." ++ table))) : (mk (s ++ "." ++ table)).Rooted := by
  obtain ⟨m, -, htext⟩ := parent?_eq_some_mk_iff.1 hparent
  have hrooted : (mk (s ++ "." ++ table ++ "." ++ m)).Rooted := htext ▸ (h.seriesStorable r hr).toRooted
  exact (rooted_append_iff.1 hrooted).1

/-! ## Columns -/

/-- The relational type of a stored data type. -/
def storedType : DataType → SqlType
  | .boolean => .boolean
  | .int32 => .integer
  | .int64 => .bigInteger
  | .float | .double => .float
  | .text => .text

theorem ofDataType_name (d : DataType) : SqlType.ofDataType d.name = storedType d := by
  cases d <;> decide

/-- A stored text; an empty one counts as none. -/
def storedText (text : String) : Option String := if text = "" then none else some text

/-- The column of a series, by its last node and its properties. -/
def storedColumn (name : String) (info : SeriesInfo) : Column where
  name := name
  type := storedType info.dataType
  nullable := true
  default := none
  encoding := storedText info.encoding
  compression := storedText info.compression

theorem filter_ne_empty (text : String) : (some text).filter (· ≠ "") = storedText text := by
  rw [Option.filter_some, storedText]
  by_cases h : text = "" <;> simp [h]

/-- The row of a series directly below a table describes the column of the series. -/
theorem columnOf_seriesRow {pattern : Option Path} {r : Series} {m : String}
    (h : r.path.text = s ++ "." ++ table ++ "." ++ m) :
    columnOf s table (t.showSeries pattern) (t.seriesRow r) = storedColumn m r.info := by
  have hpath : (t.showSeries pattern).columnIndex? "Timeseries" = some 0 := by
    show List.findIdx? _ ["Timeseries", _, _, _, _, _, _, _, _, _, _] = some 0
    decide
  have htype : (t.showSeries pattern).columnIndex? "DataType" = some 3 := by
    show List.findIdx? _ ["Timeseries", "Alias", "Database", "DataType", _, _, _, _, _, _, _] = some 3
    decide
  have hencoding : (t.showSeries pattern).columnIndex? "Encoding" = some 4 := by
    show List.findIdx? _ ["Timeseries", "Alias", "Database", "DataType", "Encoding", _, _, _, _, _, _] = some 4
    decide
  have hcompression : (t.showSeries pattern).columnIndex? "Compression" = some 5 := by
    show List.findIdx? _
      ["Timeseries", "Alias", "Database", "DataType", "Encoding", "Compression", _, _, _, _, _] = some 5
    decide
  have hname : behind? (s ++ "." ++ table ++ ".") r.path.text = some m := behind?_eq_some_iff.2 h
  have htypeName : (optionalCell (t.seriesRow r) (some 3)).getD "" = r.info.dataType.name := by
    show ((some r.info.dataType.name).filter (· ≠ "")).getD "" = _
    cases r.info.dataType <;> decide
  unfold columnOf
  rw [hpath, htype, hencoding, hcompression, htypeName, ofDataType_name]
  show Column.mk ((behind? (s ++ "." ++ table ++ ".") r.path.text).getD r.path.text) _ _ _
    ((some r.info.encoding).filter (· ≠ "")) ((some r.info.compression).filter (· ≠ "")) = _
  rw [hname, filter_ne_empty, filter_ne_empty]
  rfl

/-- The columns of a table are that of instants and one for every series directly below it, in the order of their
names. -/
theorem columns_showSeries (h : t.Invariant) (hs : '*' ∉ s.toList) (htable : '*' ∉ table.toList) :
    ∃ cols, columns s table (t.showSeries (some (children (s ++ "." ++ table)))) = .time :: cols ∧
      Ascending.Holds Column.name cols ∧
      ∀ c, c ∈ cols ↔ ∃ r ∈ t.series, '.' ∉ c.name.toList ∧
        r.path.text = s ++ "." ++ table ++ "." ++ c.name ∧ c = storedColumn c.name r.info := by
  have hstar : '*' ∉ (s ++ "." ++ table).toList := by simp [hs, htable]
  -- the series directly below the table, in ascending order
  obtain ⟨below, hbelow⟩ : ∃ l, l = t.series.filter (·.path.fits (children (s ++ "." ++ table))) := ⟨_, rfl⟩
  have hmem : ∀ r, r ∈ below ↔ r ∈ t.series ∧ ∃ m, '.' ∉ m.toList ∧ r.path.text = s ++ "." ++ table ++ "." ++ m := by
    intro r
    rw [hbelow, List.mem_filter, children, fits_child_iff hstar, parent?_eq_some_mk_iff]
  have hcolumn : ∀ r ∈ below, ∃ m, '.' ∉ m.toList ∧ r.path.text = s ++ "." ++ table ++ "." ++ m ∧
      columnOf s table (t.showSeries (some (children (s ++ "." ++ table)))) (t.seriesRow r) =
        storedColumn m r.info := by
    intro r hr
    obtain ⟨-, m, hm, htext⟩ := (hmem r).1 hr
    exact ⟨m, hm, htext, columnOf_seriesRow htext⟩
  refine ⟨below.map fun r => columnOf s table (t.showSeries (some (children (s ++ "." ++ table)))) (t.seriesRow r),
    ?_, ?_, fun c => ?_⟩
  · rw [columns, Tree.showSeries, Option.getD_some, hbelow, List.map_map]
    rfl
  · rw [Ascending.holds_map]
    have hascending : Ascending.Holds (fun r : Series => r.path.text) below := hbelow ▸ h.seriesAscending.filter _
    -- the paths are in order, and all of them begin with the table
    refine List.Pairwise.imp_of_mem (fun {a b} ha hb hlt => ?_) hascending
    obtain ⟨m, -, htext, hcol⟩ := hcolumn a ha
    obtain ⟨m', -, htext', hcol'⟩ := hcolumn b hb
    have hpaths : a.path.text < b.path.text := hlt
    rw [htext, htext'] at hpaths
    rw [Function.comp_apply, Function.comp_apply, hcol, hcol']
    exact lt_of_append_lt_append_left hpaths
  · rw [List.mem_map]
    constructor
    · rintro ⟨r, hr, rfl⟩
      obtain ⟨m, hm, htext, hcol⟩ := hcolumn r hr
      rw [hcol]
      exact ⟨r, ((hmem r).1 hr).1, hm, htext, rfl⟩
    · rintro ⟨r, hr, hname, htext, hc⟩
      refine ⟨r, (hmem r).2 ⟨hr, c.name, hname, htext⟩, ?_⟩
      rw [columnOf_seriesRow htext, ← hc]

end Dialect

end SeriesCatalog
