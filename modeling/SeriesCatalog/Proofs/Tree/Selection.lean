/-
Listings and deletions select by a pattern in the same way. What a deletion takes away is what the
listing of the same pattern showed before, and it is refused exactly if that listing had nothing to
take away; every other listing keeps its rows, in their order, but for those. With a database go the
rows of the series that name it: the rows tell the database that is found above the series, the
deletion takes what lies below a database, and both are the same because no two databases lie above
one series.
-/
import SeriesCatalog.Proofs.Tree.Edit
import SeriesCatalog.Proofs.Tree.Listing

namespace SeriesCatalog

open SeriesCatalog.Path

/-! ## Rows left out -/

namespace Table

/-- The table but for the rows whose cell in the column has one of these texts. -/
def without (table : Table) (name : String) (texts : List String) : Table :=
  { table with rows := table.rows.filter fun row => cellText (table.cell? name row) ∉ texts }

/-- Leaving out rows of entries is leaving out the entries whose text is named. -/
theorem without_eq {α : Type} {table : Table} {name : String} {texts : List String} {entries : List α}
    {row : α → List Json} {keep : α → Bool} (hrows : table.rows = entries.map row)
    (hkeep : ∀ a ∈ entries, keep a = true ↔ cellText (table.cell? name (row a)) ∉ texts) :
    table.without name texts = { table with rows := (entries.filter keep).map row } := by
  have hfilter : entries.filter ((fun row => decide (cellText (table.cell? name row) ∉ texts)) ∘ row) =
      entries.filter keep := by
    refine List.filter_congr fun a ha => ?_
    rw [Bool.eq_iff_iff, hkeep a ha]
    exact decide_eq_true_iff
  rw [without, hrows, List.filter_map, hfilter]

end Table

namespace Tree

variable {t : Tree} {p q : Path} {s : Series}

/-! ## Texts that a listing shows -/

/-- The paths in a listing of series. -/
def shownSeries (t : Tree) (p : Path) : List String := (t.showSeries (some p)).columnOrFirst "Timeseries"

/-- The paths in a listing of databases but for that of the system's. -/
def shownDatabases (t : Tree) (p : Path) : List String :=
  ((t.showDatabases (some p)).columnOrFirst "Database").filter (· ≠ systemDatabase.text)

theorem shownSeries_eq (t : Tree) (p : Path) :
    t.shownSeries p = (t.series.filter (·.path.fits p)).map (·.path.text) := by
  have hcolumn : t.shownSeries p = (t.showSeries (some p)).cellsAt 0 := rfl
  rw [hcolumn, Table.cellsAt, showSeries, List.map_map]
  rfl

/-- They are the databases that the deletion selects. -/
theorem shownDatabases_eq (t : Tree) (p : Path) : t.shownDatabases p = (t.selectedDatabases [p]).map Path.text := by
  have hcolumn : (t.showDatabases (some p)).columnOrFirst "Database" =
      (t.databases.filter (·.fits p)).map Path.text := by
    show (t.showDatabases (some p)).cellsAt 0 = _
    rw [Table.cellsAt, showDatabases, List.map_map]
    rfl
  have hselected : t.selectedDatabases [p] = (t.databases.filter (·.fits p)).filter (· ≠ systemDatabase) := by
    rw [selectedDatabases, userDatabases, List.filter_comm]
    simp
  have hsystem : ((fun text => decide (text ≠ systemDatabase.text)) ∘ Path.text) =
      fun db => decide (db ≠ systemDatabase) := by
    funext db
    exact decide_eq_decide.2 (not_congr ⟨ext_text, congrArg Path.text⟩)
  rw [shownDatabases, hcolumn, hselected, List.filter_map, hsystem]

/-! ## Listings after a deletion -/

theorem fits_iff_mem_shownSeries (hs : s ∈ t.series) : s.path.fits p = true ↔ s.path.text ∈ t.shownSeries p := by
  rw [shownSeries_eq, List.mem_map]
  constructor
  · exact fun hfits => ⟨s, List.mem_filter.2 ⟨hs, hfits⟩, rfl⟩
  · rintro ⟨r, hr, htext⟩
    rw [← ext_text htext]
    exact (List.mem_filter.1 hr).2

theorem text_mem_shownDatabases {d : Path} : d.text ∈ t.shownDatabases p ↔ d ∈ t.selectedDatabases [p] := by
  rw [shownDatabases_eq, List.mem_map]
  exact ⟨fun ⟨db, hdb, htext⟩ => ext_text htext ▸ hdb, fun hd => ⟨d, hd, rfl⟩⟩

/-- A deletion of series leaves a listing of series the rows that its own listing did not show. -/
theorem showSeries_deleteSeries (t : Tree) (p q : Path) :
    (t.apply (.deleteSeries p)).2.showSeries (some q) =
      (t.showSeries (some q)).without "Timeseries" (t.shownSeries p) := by
  have hkeep : ∀ s ∈ t.series.filter (·.path.fits q), (!s.path.fits p) = true ↔
      cellText ((t.showSeries (some q)).cell? "Timeseries" (t.seriesRow s)) ∉ t.shownSeries p := by
    intro s hs
    have hcell : cellText ((t.showSeries (some q)).cell? "Timeseries" (t.seriesRow s)) = s.path.text := rfl
    rw [hcell, Bool.not_eq_true', Bool.eq_false_iff, Ne, fits_iff_mem_shownSeries (List.mem_filter.1 hs).1]
  rw [apply_deleteSeries_snd, Table.without_eq rfl hkeep, List.filter_comm]
  rfl

/-- A deletion of databases leaves a listing of databases the rows that its own listing did not show. -/
theorem showDatabases_deleteDatabases (t : Tree) (p q : Path) :
    (t.apply (.deleteDatabases [p])).2.showDatabases (some q) =
      (t.showDatabases (some q)).without "Database" (t.shownDatabases p) := by
  have hkeep : ∀ db ∈ t.databases.filter (·.fits q), decide (db ∉ t.selectedDatabases [p]) = true ↔
      cellText ((t.showDatabases (some q)).cell? "Database" [.string db.text, .int 1, .int 1, .int 604800000]) ∉
        t.shownDatabases p := by
    intro db _
    have hcell : cellText ((t.showDatabases (some q)).cell? "Database"
        [.string db.text, .int 1, .int 1, .int 604800000]) = db.text := rfl
    rw [hcell, text_mem_shownDatabases, decide_eq_true_iff]
  rw [apply_deleteDatabases_snd, Table.without_eq rfl hkeep, List.filter_comm]
  rfl

/-- It leaves a listing of series the rows that name none of the databases that its own listing showed. -/
theorem Invariant.showSeries_deleteDatabases (h : t.Invariant) (p q : Path) :
    (t.apply (.deleteDatabases [p])).2.showSeries (some q) =
      (t.showSeries (some q)).without "Database" (t.shownDatabases p) := by
  have hkeep : ∀ s ∈ t.series.filter (·.path.fits q), (!(t.selectedDatabases [p]).any (·.isAncestorOf s.path)) = true ↔
      cellText ((t.showSeries (some q)).cell? "Database" (t.seriesRow s)) ∉ t.shownDatabases p := by
    intro s hs
    obtain ⟨db, -, howner, -⟩ := h.exists_owner (List.mem_filter.1 hs).1
    have hcell : cellText ((t.showSeries (some q)).cell? "Database" (t.seriesRow s)) = db.text := by
      rw [cell?_database, howner]
      rfl
    rw [hcell, text_mem_shownDatabases, Bool.not_eq_true', Bool.eq_false_iff, Ne,
      h.any_isAncestorOf_iff howner (t.selectedDatabases_subset [p])]
  rw [apply_deleteDatabases_snd, Table.without_eq rfl hkeep, List.filter_comm, showSeries, showSeries, Table.mk.injEq]
  refine ⟨rfl, List.map_congr_left fun s hs => ?_⟩
  have howner := h.ownerOf?_without (t.systemDatabase_notMem_selectedDatabases [p]) (List.mem_filter.1 hs).1
  rw [seriesRow, seriesRow, howner]

/-! ## Deletions that are done -/

theorem deleteSeries_isOk_iff (t : Tree) (p : Path) :
    (t.apply (.deleteSeries p)).1.isOk = true ↔ (t.showSeries (some p)).rows ≠ [] := by
  show (t.settle (t.deleteSeries p)).1.isOk = true ↔ _
  rw [settle_isOk_iff]
  simp [deleteSeries_eq_ok_iff, showSeries, List.filter_eq_nil_iff]

theorem deleteDatabases_isOk_iff (t : Tree) (p : Path) :
    (t.apply (.deleteDatabases [p])).1.isOk = true ↔ t.shownDatabases p ≠ [] := by
  show (t.settle (t.deleteDatabases [p])).1.isOk = true ↔ _
  rw [settle_isOk_iff, shownDatabases_eq]
  simp [deleteDatabases_eq_ok_iff]

/-- Deletions and listings agree on what a pattern selects. -/
structure DeletesShown (t : Tree) (p q : Path) : Prop where
  /-- A deletion of series is done exactly if the listing of its pattern has rows, and takes the series in these rows
  away from every other listing. -/
  series : ((t.apply (.deleteSeries p)).1.isOk = true ↔ (t.showSeries (some p)).rows ≠ []) ∧
    (t.apply (.deleteSeries p)).2.showSeries (some q) = (t.showSeries (some q)).without "Timeseries" (t.shownSeries p)
  /-- A deletion of databases is done exactly if the listing of its pattern has another database than the system's, and
  takes these away from every other listing, together with the series that name one of them. -/
  databases : ((t.apply (.deleteDatabases [p])).1.isOk = true ↔ t.shownDatabases p ≠ []) ∧
    (t.apply (.deleteDatabases [p])).2.showDatabases (some q) =
      (t.showDatabases (some q)).without "Database" (t.shownDatabases p) ∧
    (t.apply (.deleteDatabases [p])).2.showSeries (some q) =
      (t.showSeries (some q)).without "Database" (t.shownDatabases p)

/-- On every tree that statements lead to, deletions take away what listings show. -/
theorem deletesShown_of_reachable (ht : t.Reachable) (p q : Path) : t.DeletesShown p q where
  series := ⟨t.deleteSeries_isOk_iff p, t.showSeries_deleteSeries p q⟩
  databases := ⟨t.deleteDatabases_isOk_iff p, t.showDatabases_deleteDatabases p q,
    ht.invariant.showSeries_deleteDatabases p q⟩

/-- The database `root.a` goes with its series, and the series of `root.ab` stays. -/
theorem deletesShown_local :
    let t := initial.run ["create database root.a", "create database root.ab",
      "create timeseries root.a.x with datatype=INT32", "create timeseries root.ab.x with datatype=INT32"]
    t.Reachable ∧ t.DeletesShown ⟨"root.a"⟩ ⟨"root.**"⟩ ∧ t.shownDatabases ⟨"root.a"⟩ = ["root.a"] ∧
      ((t.apply (.deleteDatabases [⟨"root.a"⟩])).2.showSeries (some ⟨"root.**"⟩)).firstColumn = ["root.ab.x"] :=
  ⟨⟨_, rfl⟩, deletesShown_of_reachable ⟨_, rfl⟩ _ _, by rfl, by rfl⟩

end Tree

end SeriesCatalog
