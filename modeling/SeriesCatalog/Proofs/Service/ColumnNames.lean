/-
Names of columns over the service. A table has the column of instants and one column for each series directly
below it. Different series have different paths, so their columns have different names. The column of instants
is added by the dialect, and nothing in the tree keeps a series from its name: only such a series takes a name
that is there already.
-/
import SeriesCatalog.Proofs.Service.Lookup

namespace SeriesCatalog.Service

open SeriesCatalog.Path Dialect

variable {config : Service} {e : Engine Tree} {t : Tree} {s table : String} {columns cols : List Column}

/-- A call that is answered names a table that makes a pattern, and is answered with the columns of the table. -/
theorem Serves.exists_of_on_columns (h : config.Serves e) (ht : t.Invariant)
    (hcall : ((e.columns table s).on t).1 = .ok columns) :
    ∃ cols, columns = .time :: cols ∧ Ascending.Holds Column.name cols ∧
      ∀ c, c ∈ cols ↔ ∃ r ∈ t.series, '.' ∉ c.name.toList ∧
        r.path.text = s ++ "." ++ table ++ "." ++ c.name ∧ c = storedColumn c.name r.info := by
  by_cases hid : isIdentifier s = true ∧ isIdentifier table = true
  · by_cases hroot : (Path.mk (s ++ "." ++ table)).Rooted
    · obtain ⟨cols, hanswer, hcols⟩ := h.columns_of_rooted ht hid.1 hid.2 hroot
      rw [hanswer, Except.ok.injEq] at hcall
      exact ⟨cols, hcall.symm, hcols⟩
    · obtain ⟨message, sql, hanswer⟩ := h.columns_of_not_rooted hid.1 hid.2 hroot t
      rw [hanswer] at hcall
      cases hcall
  · rw [on_columns_of_not_isIdentifier e t hid] at hcall
    cases hcall

/-- A name without a dot is that of a column exactly if the tree holds the series that the name makes. -/
theorem mem_names_iff
    (hcols : ∀ c, c ∈ cols ↔ ∃ r ∈ t.series, '.' ∉ c.name.toList ∧
      r.path.text = s ++ "." ++ table ++ "." ++ c.name ∧ c = storedColumn c.name r.info)
    {name : String} (hname : '.' ∉ name.toList) :
    name ∈ cols.map Column.name ↔ ∃ r ∈ t.series, r.path.text = s ++ "." ++ table ++ "." ++ name := by
  rw [List.mem_map]
  constructor
  · rintro ⟨c, hc, rfl⟩
    obtain ⟨r, hr, -, htext, -⟩ := (hcols c).1 hc
    exact ⟨r, hr, htext⟩
  · rintro ⟨r, hr, htext⟩
    exact ⟨storedColumn name r.info, (hcols _).2 ⟨r, hr, hname, htext, rfl⟩, rfl⟩

/-- The column of instants comes first, and the columns of the series behind it all have different names. All names are
different exactly if no series directly below the table has the name of the column of instants. -/
theorem nodup_names_iff (h : config.Serves e) (ht : t.Reachable) (hcall : ((e.columns table s).on t).1 = .ok columns) :
    ∃ cols, columns = .time :: cols ∧ (cols.map Column.name).Nodup ∧
      ((columns.map Column.name).Nodup ↔ ∀ r ∈ t.series, r.path.text ≠ s ++ "." ++ table ++ ".Time") := by
  obtain ⟨cols, rfl, hascending, hmem⟩ := h.exists_of_on_columns ht.invariant hcall
  have hnames : Ascending.Holds id (cols.map Column.name) := Ascending.holds_map.2 hascending
  have hnodup := hnames.nodup
  refine ⟨cols, rfl, hnodup, ?_⟩
  have htime : Column.time.name ∈ cols.map Column.name ↔
      ∃ r ∈ t.series, r.path.text = s ++ "." ++ table ++ ".Time" := by
    rw [mem_names_iff hmem (by decide), Column.time, String.append_assoc]
    rfl
  rw [List.map_cons, List.nodup_cons, and_iff_left hnodup, htime]
  simp

/-- Names that differ in case only, and a series one level too deep for the table. -/
theorem nodup_names_local :
    let t := Tree.initial.run ["create database root.a", "create timeseries root.a.d.time with datatype=INT64",
      "create timeseries root.a.d.TIME with datatype=INT64", "create timeseries root.a.d.Time.x with datatype=INT64"]
    ∃ columns, ((localEngine.columns "d" "root.a").on t).1 = .ok columns ∧ "time" ∈ columns.map Column.name ∧
      "TIME" ∈ columns.map Column.name ∧ (columns.map Column.name).Nodup := by
  intro t
  have ht : t.Reachable := ⟨_, rfl⟩
  have htexts : t.series.map (·.path.text) = ["root.a.d.TIME", "root.a.d.Time.x", "root.a.d.time"] := by rfl
  have hstored : ∀ text, (∃ r ∈ t.series, r.path.text = text) ↔
      text ∈ ["root.a.d.TIME", "root.a.d.Time.x", "root.a.d.time"] :=
    fun text => by rw [← htexts, List.mem_map]
  have hroot : (Path.mk ("root.a" ++ "." ++ "d")).Rooted := ⟨by decide, by decide⟩
  obtain ⟨cols, hanswer, -, hmem⟩ := serves_local.columns_of_rooted ht.invariant (by decide) (by decide) hroot
  have hcall : ((localEngine.columns "d" "root.a").on t).1 = .ok (.time :: cols) := by rw [hanswer]
  obtain ⟨_, -, -, hnodup⟩ := nodup_names_iff serves_local ht hcall
  refine ⟨_, hcall, List.mem_cons_of_mem _ ?_, List.mem_cons_of_mem _ ?_, hnodup.2 fun r hr htext => ?_⟩
  · exact (mem_names_iff hmem (by decide)).2 ((hstored _).2 (by decide))
  · exact (mem_names_iff hmem (by decide)).2 ((hstored _).2 (by decide))
  · have hnone := (hstored _).1 ⟨r, hr, htext⟩
    revert hnone
    decide

/-- A series has the name of the column of instants, so two columns have it. -/
theorem not_nodup_names_local :
    let t := Tree.initial.run ["create database root.a", "create timeseries root.a.d.Time with datatype=INT64"]
    Serves {} localEngine ∧ t.Reachable ∧ ∃ columns, ((localEngine.columns "d" "root.a").on t).1 = .ok columns ∧
      ¬ (columns.map Column.name).Nodup := by
  intro t
  have ht : t.Reachable := ⟨_, rfl⟩
  have htexts : t.series.map (·.path.text) = ["root.a.d.Time"] := by rfl
  have hroot : (Path.mk ("root.a" ++ "." ++ "d")).Rooted := ⟨by decide, by decide⟩
  obtain ⟨cols, hanswer, -, hmem⟩ := serves_local.columns_of_rooted ht.invariant (by decide) (by decide) hroot
  have htime : "Time" ∈ cols.map Column.name := by
    rw [mem_names_iff hmem (by decide), ← List.mem_map, htexts]
    decide
  refine ⟨serves_local, ht, .time :: cols, by rw [hanswer], fun hnodup => ?_⟩
  rw [List.map_cons, List.nodup_cons] at hnodup
  exact hnodup.1 htime

end SeriesCatalog.Service
