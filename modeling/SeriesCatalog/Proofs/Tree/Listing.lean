/-
What the listings of the tree show. A listing has one row for each path that it lists and no other
rows, in ascending order of the bytes of their texts; it lists the databases, the series or the
devices that its pattern selects, and all of them if it gives none, because every path of the tree
lies below `root`. The row of a series names the only database above it.
-/
import SeriesCatalog.Proofs.Path.Pattern
import SeriesCatalog.Proofs.Text.Utf8
import SeriesCatalog.Proofs.Tree.Answers
import SeriesCatalog.Proofs.Tree.Reachable

namespace SeriesCatalog

open SeriesCatalog.Path

/-! ## Tables -/

namespace Table

/-- The cell of a row in the column of this name. -/
def cell? (table : Table) (name : String) (row : List Json) : Option Json :=
  (table.columnIndex? name).bind fun i => row[i]?

/-- The table has one row for each of these paths, which are those with some property, in ascending order of their
bytes. A row begins with its path and is as long as the header. -/
structure Lists (table : Table) (P : Path → Prop) (paths : List Path) : Prop where
  firstCells : table.rows.map List.head? = paths.map fun p => some (.string p.text)
  ascending : paths.Pairwise fun p q => Utf8.encode p.text.toList < Utf8.encode q.text.toList
  nodup : paths.Nodup
  mem_iff : ∀ p, p ∈ paths ↔ P p
  rectangular : ∀ row ∈ table.rows, row.length = table.columns.length

/-- The rows of entries in order of their paths. -/
theorem lists_of_map {α : Type} {table : Table} {P : Path → Prop} {entries : List α} (path : α → Path)
    {row : α → List Json} (hsendable : table.Sendable) (hrows : table.rows = entries.map row)
    (hfirst : ∀ a, (row a).head? = some (.string (path a).text))
    (hascending : Ascending.Holds (fun a => (path a).text) entries) (hmem : ∀ p, p ∈ entries.map path ↔ P p) :
    table.Lists P (entries.map path) := by
  have hpaths : Ascending.Holds Path.text (entries.map path) := Ascending.holds_map.2 hascending
  refine ⟨?_, hpaths.imp fun hlt => Utf8.encode_lt_encode (String.lt_iff.1 hlt), hpaths.nodup, hmem,
    hsendable.rectangular⟩
  simp [hrows, hfirst]

end Table

/-! ## Selection -/

/-- A listing with this pattern lets the path through. -/
def Path.Selected (pattern : Option Path) (p : Path) : Prop := ∀ q ∈ pattern, p.fits q = true

/-- Without a pattern everything below `root` is selected. -/
theorem Path.fits_getD_iff {p : Path} (hroot : p.nodes.head? = some "root") (hlen : 2 ≤ p.nodes.length)
    (pattern : Option Path) : p.fits (pattern.getD Tree.everything) = true ↔ p.Selected pattern := by
  cases pattern with
  | some q => simp [Selected]
  | none =>
    refine iff_of_true ?_ nofun
    obtain ⟨rest, hnodes⟩ := List.head?_eq_some_iff.1 hroot
    have hbelow : p.fits (mk ("root" ++ "." ++ someNodes)) = true := by
      rw [fits_below_iff (by decide), isAncestorOf_iff_nodes, nodes_of_noDot (s := "root") (by decide)]
      refine ⟨rest, ?_, hnodes⟩
      rintro rfl
      rw [hnodes] at hlen
      exact absurd hlen (by decide)
    exact hbelow

theorem Path.parent?_eq_some_iff_dropLast {p d : Path} : p.parent? = some d ↔ d.nodes = p.nodes.dropLast := by
  rw [parent?_eq_some_iff]
  constructor
  · rintro ⟨m, h⟩
    rw [h, List.dropLast_concat]
  · intro h
    exact ⟨p.nodes.getLast (nodes_ne_nil p), by rw [h, List.dropLast_concat_getLast]⟩

namespace Tree

variable {t : Tree} {d : Path} {s : Series}

/-- A series is at least two nodes below `root`, for a database lies between. -/
theorem Invariant.three_le_length_nodes (h : t.Invariant) (hs : s ∈ t.series) : 3 ≤ s.path.nodes.length := by
  obtain ⟨db, hdb, -, hanc⟩ := h.owned s hs
  obtain ⟨ns, hne, hnodes⟩ := isAncestorOf_iff_nodes.1 hanc
  have hlen := (h.databasesStorable db hdb).2
  have hpos := List.length_pos_iff.2 hne
  rw [hnodes, List.length_append]
  omega

theorem Invariant.fits_database_iff (h : t.Invariant) (hd : d ∈ t.databases) (pattern : Option Path) :
    d.fits (pattern.getD everything) = true ↔ d.Selected pattern :=
  fits_getD_iff (h.databasesStorable d hd).1.root (h.databasesStorable d hd).2 pattern

theorem Invariant.fits_series_iff (h : t.Invariant) (hs : s ∈ t.series) (pattern : Option Path) :
    s.path.fits (pattern.getD everything) = true ↔ s.path.Selected pattern :=
  fits_getD_iff (h.seriesStorable s hs).root (by have := h.three_le_length_nodes hs; omega) pattern

theorem mem_devices_iff : d ∈ t.devices ↔ ∃ s ∈ t.series, s.path.parent? = some d := by
  unfold devices
  constructor
  · intro h
    obtain ⟨text, htext, rfl⟩ := List.mem_map.1 h
    obtain ⟨d', hd', rfl⟩ := List.mem_map.1 (Ascending.mem_texts.1 htext)
    exact List.mem_filterMap.1 hd'
  · rintro ⟨s, hs, hd⟩
    refine List.mem_map.2 ⟨d.text, Ascending.mem_texts.2 ?_, rfl⟩
    exact List.mem_map.2 ⟨d, List.mem_filterMap.2 ⟨s, hs, hd⟩, rfl⟩

theorem devicesAscending (t : Tree) : Ascending.Holds Path.text t.devices :=
  Ascending.holds_map.2 (Ascending.holds_texts _)

theorem Invariant.fits_device_iff (h : t.Invariant) (hd : d ∈ t.devices) (pattern : Option Path) :
    d.fits (pattern.getD everything) = true ↔ d.Selected pattern := by
  obtain ⟨s, hs, hparent⟩ := mem_devices_iff.1 hd
  obtain ⟨m, hnodes⟩ := parent?_eq_some_iff.1 hparent
  have hlen := h.three_le_length_nodes hs
  have hroot := (h.seriesStorable s hs).root
  rw [hnodes, List.length_append, List.length_singleton] at hlen
  rw [hnodes, List.head?_append_of_ne_nil _ (nodes_ne_nil d)] at hroot
  exact fits_getD_iff hroot (by omega) pattern

/-! ## The listings -/

theorem Invariant.lists_databases (h : t.Invariant) (pattern : Option Path) :
    ∃ paths, (t.showDatabases pattern).Lists (fun p => p ∈ t.databases ∧ p.Selected pattern) paths := by
  refine ⟨_, Table.lists_of_map id (sendable_showDatabases pattern) rfl (fun _ => rfl)
    (h.databasesAscending.filter _) fun p => ?_⟩
  rw [List.map_id, List.mem_filter]
  exact and_congr_right fun hp => h.fits_database_iff hp pattern

theorem Invariant.lists_series (h : t.Invariant) (pattern : Option Path) :
    ∃ paths, (t.showSeries pattern).Lists (fun p => (∃ s ∈ t.series, s.path = p) ∧ p.Selected pattern) paths := by
  refine ⟨_, Table.lists_of_map Series.path (sendable_showSeries pattern) rfl (fun _ => rfl)
    (h.seriesAscending.filter _) fun p => ?_⟩
  rw [List.mem_map]
  constructor
  · rintro ⟨s, hs, rfl⟩
    obtain ⟨hs, hfits⟩ := List.mem_filter.1 hs
    exact ⟨⟨s, hs, rfl⟩, (h.fits_series_iff hs pattern).1 hfits⟩
  · rintro ⟨⟨s, hs, rfl⟩, hselected⟩
    exact ⟨s, List.mem_filter.2 ⟨hs, (h.fits_series_iff hs pattern).2 hselected⟩, rfl⟩

theorem Invariant.lists_devices (h : t.Invariant) (pattern : Option Path) :
    ∃ paths, (t.showDevices pattern).Lists
      (fun p => (∃ s ∈ t.series, p.nodes = s.path.nodes.dropLast) ∧ p.Selected pattern) paths := by
  refine ⟨_, Table.lists_of_map id (sendable_showDevices pattern) rfl (fun _ => rfl)
    (t.devicesAscending.filter _) fun p => ?_⟩
  simp only [List.map_id, List.mem_filter, ← parent?_eq_some_iff_dropLast, ← mem_devices_iff]
  exact and_congr_right fun hp => h.fits_device_iff hp pattern

/-- The row tells what is stored of the series, and the only database above it. -/
structure Describes (t : Tree) (table : Table) (row : List Json) (s : Series) : Prop where
  path : table.cell? "Timeseries" row = some (.string s.path.text)
  dataType : table.cell? "DataType" row = some (.string s.info.dataType.name)
  encoding : table.cell? "Encoding" row = some (.string s.info.encoding)
  compression : table.cell? "Compression" row = some (.string s.info.compression)
  database : ∃ db ∈ t.databases, table.cell? "Database" row = some (.string db.text) ∧
    ∀ other ∈ t.databases, other.isAncestorOf s.path = true ↔ other = db

theorem cell?_database (t : Tree) (pattern : Option Path) (s : Series) :
    (t.showSeries pattern).cell? "Database" (t.seriesRow s) =
      some (.string (((t.ownerOf? s.path).map Path.text).getD "")) := by rfl

theorem Invariant.describes_seriesRow (h : t.Invariant) (pattern : Option Path) (hs : s ∈ t.series) :
    t.Describes (t.showSeries pattern) (t.seriesRow s) s where
  path := by rfl
  dataType := by rfl
  encoding := by rfl
  compression := by rfl
  database := by
    obtain ⟨db, hdb, howner, -, hanc⟩ := h.exists_owner hs
    refine ⟨db, hdb, by rw [cell?_database, howner]; rfl, fun other hother => ?_⟩
    exact ⟨fun habove => h.owner_unique hother hdb habove hanc, fun he => he ▸ hanc⟩

/-- The listings with a pattern, or without one, show what the tree holds. -/
structure Shows (t : Tree) (pattern : Option Path) : Prop where
  /-- The databases that are selected, the system's among them. -/
  databases : systemDatabase ∈ t.databases ∧ ∃ table paths, (t.apply (.showDatabases pattern)).1 = .ok (.rows table) ∧
    table.Lists (fun p => p ∈ t.databases ∧ p.Selected pattern) paths
  /-- The series that are selected, each row with what is stored of its series. -/
  series : ∃ table paths, (t.apply (.showSeries pattern)).1 = .ok (.rows table) ∧
    table.Lists (fun p => (∃ s ∈ t.series, s.path = p) ∧ p.Selected pattern) paths ∧
    ∀ row ∈ table.rows, ∃ s ∈ t.series, t.Describes table row s
  /-- The selected paths of series without their last nodes. -/
  devices : ∃ table paths, (t.apply (.showDevices pattern)).1 = .ok (.rows table) ∧
    table.Lists (fun p => (∃ s ∈ t.series, p.nodes = s.path.nodes.dropLast) ∧ p.Selected pattern) paths

/-- The listings show what the tree holds, whatever texts led to it. -/
theorem shows_of_reachable (ht : t.Reachable) (pattern : Option Path) : t.Shows pattern where
  databases := by
    obtain ⟨paths, hlists⟩ := ht.invariant.lists_databases pattern
    exact ⟨ht.invariant.system, _, paths, rfl, hlists⟩
  series := by
    obtain ⟨paths, hlists⟩ := ht.invariant.lists_series pattern
    refine ⟨_, paths, rfl, hlists, fun row hrow => ?_⟩
    obtain ⟨s, hs, rfl⟩ := List.mem_map.1 hrow
    have hstored := (List.mem_filter.1 hs).1
    exact ⟨s, hstored, ht.invariant.describes_seriesRow pattern hstored⟩
  devices := by
    obtain ⟨paths, hlists⟩ := ht.invariant.lists_devices pattern
    exact ⟨_, paths, rfl, hlists⟩

/-- Of two devices one lies below the other, and the series of the lower one comes first. -/
theorem shows_local :
    let t := initial.run ["create database root.é", "create timeseries root.é.d.x with datatype=INT32",
      "create timeseries root.é.d.e.y with datatype=TEXT"]
    t.Reachable ∧ t.Shows none ∧ (t.showDevices none).firstColumn = ["root.é.d", "root.é.d.e"] ∧
      (t.showSeries (some ⟨"root.**.d.**"⟩)).firstColumn = ["root.é.d.e.y", "root.é.d.x"] :=
  ⟨⟨_, rfl⟩, shows_of_reachable ⟨_, rfl⟩ none, by rfl, by rfl⟩

end Tree

end SeriesCatalog
