/-
Deleting what was just created. The creation of a path and its deletion take the path from the same
text in different ways: databases are deleted by a list between commas, and a semicolon at the end of
a statement is never read, although either character may stand in a path that is created. Where both
read the same path the deletion restores the tree; elsewhere it passes over what was created.
-/
import SeriesCatalog.Proofs.Statement.Single
import SeriesCatalog.Proofs.Tree.Edit
import SeriesCatalog.Proofs.Tree.History

namespace SeriesCatalog.Tree

open SeriesCatalog.Path Statement

variable {t : Tree} {sql s : String} {q : Path} {info : SeriesInfo}

theorem exists_does (h : (t.execute sql).1 = .ok .done) : ∃ st, t.Does sql st := by
  cases hparse : Statement.parse sql with
  | ok st => exact ⟨st, hparse, h⟩
  | error fault =>
    rw [execute_of_parse_error hparse] at h
    cases h

/-! ## Databases -/

/-- A database that is created is new, and holds nothing. -/
theorem Invariant.holding_of_does (ht : t.Invariant) (h : t.Does sql (.createDatabase q)) :
    t.Free q ∧ Holding t q [] (t.execute sql).2 := by
  cases h.makes with
  | createDatabase hcreate =>
    obtain ⟨hstar, hlen, hfree, -⟩ := createDatabase_eq_ok_iff.1 hcreate
    obtain ⟨hroot, hblank⟩ := createsSoundly_of_parse h.1
    obtain ⟨u, hu, hholding⟩ := ht.createDatabase_free ⟨hroot, hblank, hstar⟩ hlen hfree
    rw [hcreate, Except.ok.injEq] at hu
    exact ⟨hfree, hu ▸ hholding⟩

/-- A database whose path has no comma goes again. -/
theorem Invariant.undone_database (ht : t.Invariant) (hs : ∀ c ∈ s.toList, Text.isBlank c = false)
    (h : t.Does ("create database " ++ s) (.createDatabase q)) (hcomma : ',' ∉ q.text.toList) :
    (t.execute ("create database " ++ s)).2.execute ("delete database " ++ s) = (.ok .done, t) := by
  obtain ⟨hfree, hholding⟩ := ht.holding_of_does h
  generalize (t.execute ("create database " ++ s)).2 = u at hholding
  obtain ⟨p, hpath, hp⟩ := (parse_createDatabase_eq_ok_iff hs).1 h.1
  cases hp
  have hword : lastWord s ≠ [] := fun hnil => by
    rw [hnil] at hpath
    cases hpath
  have hparse : Statement.parse ("delete database " ++ s) = .ok (.deleteDatabases [q]) :=
    (parse_deleteDatabase_eq_ok_iff hs).2
      ⟨hword, [q], paths_eq_singleton (noBlank_lastWord hs) hpath hcomma, rfl⟩
  have hmem : q ∈ u.databases := (hholding.databases q).2 (.inl rfl)
  have hsys : q ≠ systemDatabase := ht.ne_systemDatabase_of_does h
  have hrestored : (u.apply (.deleteDatabases [q])).2 = t := by
    rw [apply_deleteDatabases (hholding.invariant.databasesStorable q hmem).1.noStar hsys]
    exact hholding.dropped ht hsys hfree
  have hdone : (u.apply (.deleteDatabases [q])).1 = .ok .done := by
    rw [apply_eq_done_iff, hrestored]
    rintro rfl
    exact hfree.notMem hmem
  rw [execute_of_parse_ok hparse]
  exact Prod.ext hdone hrestored

/-- A database whose path has a comma stays, whatever else its deletion meets. -/
theorem Invariant.kept_database (ht : t.Invariant) (hs : ∀ c ∈ s.toList, Text.isBlank c = false)
    (h : t.Does ("create database " ++ s) (.createDatabase q)) (hcomma : ',' ∈ q.text.toList) :
    q ∈ ((t.execute ("create database " ++ s)).2.execute ("delete database " ++ s)).2.databases := by
  obtain ⟨-, hholding⟩ := ht.holding_of_does h
  generalize (t.execute ("create database " ++ s)).2 = u at hholding
  obtain ⟨p, hpath, hp⟩ := (parse_createDatabase_eq_ok_iff hs).1 h.1
  cases hp
  have hblank := noBlank_lastWord hs
  have hmem : q ∈ u.databases := (hholding.databases q).2 (.inl rfl)
  have hstar : '*' ∉ q.text.toList := (hholding.invariant.databasesStorable q hmem).1.noStar
  refine (mem_userDatabases_iff.1 ((hholding.invariant.mem_userDatabases_execute _).2 (.inr ⟨?_, ?_⟩))).1
  · exact mem_userDatabases_iff.2 ⟨hmem, ht.ne_systemDatabase_of_does h⟩
  · rintro ⟨patterns, hdoes, pattern, hpattern, hfits⟩
    obtain ⟨-, ps, hps, he⟩ := (parse_deleteDatabase_eq_ok_iff hs).1 hdoes.1
    cases he
    -- the patterns have no star, so the database would be one of them, but they have no comma either
    obtain ⟨hnocomma, hchars⟩ := notMem_of_mem_paths hblank hps hpattern
    have hnostar : '*' ∉ pattern.text.toList := fun hc =>
      (mem_or_eq_comma_of_path hblank hpath (hchars _ hc)).elim hstar (by decide)
    rw [(fits_iff_eq hnostar q).1 hfits] at hcomma
    exact hnocomma hcomma

/-! ## Series -/

/-- What the creation of a series does to the tree. -/
theorem Invariant.created_of_does (ht : t.Invariant) (h : t.Does sql (.createSeries q info)) :
    (∀ r ∈ t.series, r.path ≠ q) ∧ '*' ∉ q.text.toList ∧ (t.execute sql).2.databases = t.databases ∧
      ∀ r, r ∈ (t.execute sql).2.series ↔ r = ⟨q, info⟩ ∨ r ∈ t.series := by
  cases h.makes with
  | createSeries hcreate =>
    obtain ⟨-, hapart, he⟩ := createSeries_eq_ok_iff.1 hcreate
    rw [he]
    have hnew : ∀ r ∈ t.series, r.path ≠ q := fun r hr => (hapart r hr).1
    exact ⟨hnew, (createsSoundly_of_parse h.1).noStar, rfl, fun _ => ht.mem_withSeries hnew⟩

/-- A series that is created goes again when its path is deleted. -/
theorem Invariant.undone_series (ht : t.Invariant) (h : t.Does sql (.createSeries q info)) {later : String}
    (hlater : Statement.parse later = .ok (.deleteSeries q)) : (t.execute sql).2.execute later = (.ok .done, t) := by
  obtain ⟨hnew, hstar, hdatabases, hseries⟩ := ht.created_of_does h
  have hu : (t.execute sql).2.Invariant := ht.execute sql
  generalize (t.execute sql).2 = u at hdatabases hseries hu
  have hdelete : u.deleteSeries q = .ok { u with series := u.series.filter fun r => !r.path.fits q } :=
    deleteSeries_eq_ok_iff.2 ⟨⟨⟨q, info⟩, (hseries _).2 (.inl rfl), (fits_iff_eq hstar q).2 rfl⟩, rfl⟩
  have hrestored : { u with series := u.series.filter fun r => !r.path.fits q } = t := by
    refine (hu.deleteSeries hdelete).ext ht (fun db => by rw [hdatabases]) fun r => ?_
    rw [List.mem_filter, hseries, Bool.not_eq_true', Bool.eq_false_iff, Ne, fits_iff_eq hstar]
    constructor
    · rintro ⟨rfl | hr, hne⟩
      · exact absurd rfl hne
      · exact hr
    · exact fun hr => ⟨.inr hr, hnew r hr⟩
  rw [execute_of_parse_ok hlater]
  show u.settle (u.deleteSeries q) = _
  rw [hdelete, hrestored]
  rfl

/-- A series that is created stays when another path without a star is deleted. -/
theorem Invariant.kept_series (ht : t.Invariant) (h : t.Does sql (.createSeries q info)) {later : String}
    (hlater : ∀ st, Statement.parse later = .ok st → ∃ p, st = .deleteSeries p ∧ '*' ∉ p.text.toList ∧ p ≠ q) :
    ⟨q, info⟩ ∈ ((t.execute sql).2.execute later).2.series := by
  obtain ⟨-, -, -, hseries⟩ := ht.created_of_does h
  have hu : (t.execute sql).2.Invariant := ht.execute sql
  have hmem : ⟨q, info⟩ ∈ (t.execute sql).2.series := (hseries _).2 (.inl rfl)
  rcases execute_snd_eq_or_does (t.execute sql).2 later with hsame | ⟨st, hdoes⟩
  · rwa [hsame]
  · obtain ⟨p, rfl, hstar, hne⟩ := hlater st hdoes.1
    refine (hdoes.makes.mem_series_iff hu).2 (.inr ⟨hmem, ?_, nofun⟩)
    rintro pattern he
    cases he
    exact Bool.eq_false_iff.2 fun hfits => hne ((fits_iff_eq hstar q).1 hfits).symm

/-! ## Creation and deletion of the same text -/

/-- For every text without blanks, on every tree that statements lead to. If the creation of a database at the
text is done, the deletion of databases at the same text restores the tree exactly if the path that was
created has no comma, which would divide the list of what is to be deleted. If the creation of a series at the
text is done, the deletion of series at the same text restores the tree exactly if the text does not end in a
semicolon, which is of the statement and not of the path where the path comes last. Otherwise what was created
is still stored. -/
theorem undone_iff (ht : t.Reachable) (hs : ∀ c ∈ s.toList, Text.isBlank c = false) :
    ((t.execute ("create database " ++ s)).1 = .ok .done →
      let after := (t.execute ("create database " ++ s)).2.execute ("delete database " ++ s)
      ∃ q, t.Does ("create database " ++ s) (.createDatabase q) ∧
        (after = (.ok .done, t) ↔ ',' ∉ q.text.toList) ∧ (',' ∈ q.text.toList → q ∈ after.2.databases)) ∧
    ((t.execute ("create timeseries " ++ s ++ " with datatype=FLOAT")).1 = .ok .done →
      let after := (t.execute ("create timeseries " ++ s ++ " with datatype=FLOAT")).2.execute
        ("delete timeseries " ++ s)
      ∃ q, t.Does ("create timeseries " ++ s ++ " with datatype=FLOAT") (.createSeries q floatInfo) ∧
        (after = (.ok .done, t) ↔ s.toList.getLast? ≠ some ';') ∧
          (s.toList.getLast? = some ';' → ⟨q, floatInfo⟩ ∈ after.2.series)) := by
  have hinv := ht.invariant
  refine ⟨fun hdone => ?_, fun hdone => ?_⟩
  · obtain ⟨st, hdoes⟩ := exists_does hdone
    obtain ⟨q, -, rfl⟩ := (parse_createDatabase_eq_ok_iff hs).1 hdoes.1
    have hkept := fun hcomma : ',' ∈ q.text.toList => hinv.kept_database hs hdoes hcomma
    refine ⟨q, hdoes, ⟨fun hback hcomma => ?_, hinv.undone_database hs hdoes⟩, hkept⟩
    have hmem := hkept hcomma
    rw [hback] at hmem
    exact (hinv.holding_of_does hdoes).1.notMem hmem
  · obtain ⟨st, hdoes⟩ := exists_does hdone
    obtain ⟨q, hpath, hstar, rfl⟩ := (parse_createSeries_eq_ok_iff hs).1 hdoes.1
    have hkept : s.toList.getLast? = some ';' → ⟨q, floatInfo⟩ ∈ ((t.execute
        ("create timeseries " ++ s ++ " with datatype=FLOAT")).2.execute ("delete timeseries " ++ s)).2.series := by
      intro hlast
      refine hinv.kept_series hdoes fun st hst => ?_
      obtain ⟨p, hp, rfl⟩ := (parse_deleteSeries_eq_ok_iff hs).1 hst
      refine ⟨p, rfl, fun hc => ?_, ne_of_getLast?_semicolon hlast hs hpath hp⟩
      have hmem : '*' ∈ s.toList := Cut.mem_of_mem_trimEnd ((rooted_of_path hp).2 _ hc)
      exact (mem_or_eq_comma_of_path hs hpath hmem).elim (hasStar_eq_false_iff.1 hstar) (by decide)
    refine ⟨q, hdoes, ⟨fun hback hlast => ?_, fun hlast => hinv.undone_series hdoes ?_⟩, hkept⟩
    · have hmem := hkept hlast
      rw [hback] at hmem
      exact (hinv.created_of_does hdoes).1 _ hmem rfl
    · exact (parse_deleteSeries_eq_ok_iff hs).2 ⟨q, by rw [lastWord_eq_self hlast, hpath], rfl⟩

/-- Commas and semicolons at the end of the text are not of the path of a database, and a semicolon inside is. The same
characters at the end of the text of a series may leave it stored. -/
theorem undone_local :
    let t := initial.run ["create database root.a"]
    (t.execute "create database root.b;c,;").2.execute "delete database root.b;c,;" = (.ok .done, t) ∧
      ⟨⟨"root.a.x,;"⟩, floatInfo⟩ ∈ ((t.execute "create timeseries root.a.x,; with datatype=FLOAT").2.execute
        "delete timeseries root.a.x,;").2.series := by
  intro t
  have ht : t.Reachable := ⟨_, rfl⟩
  have hdatabase : t.Does ("create database " ++ "root.b;c,;") (.createDatabase ⟨"root.b;c"⟩) := ⟨by rfl, by rfl⟩
  have hseries : t.Does ("create timeseries " ++ "root.a.x,;" ++ " with datatype=FLOAT")
      (.createSeries ⟨"root.a.x,;"⟩ floatInfo) := ⟨by rfl, by rfl⟩
  obtain ⟨q, hq, hback, -⟩ := (undone_iff ht (Text.noBlank_of_all (by decide))).1 hdatabase.2
  obtain ⟨r, hr, -, hkept⟩ := (undone_iff ht (Text.noBlank_of_all (by decide))).2 hseries.2
  cases hdatabase.unique hq
  cases hseries.unique hr
  exact ⟨hback.2 (by decide), hkept (by decide)⟩

/-- The deletion of a database with a comma in its path is refused, and so is that of a series with a
semicolon at its end. -/
theorem not_undone_local :
    let t := initial.run ["create database root.a"]
    ((t.execute "create database root.b,c").1 = .ok .done ∧
      ((t.execute "create database root.b,c").2.execute "delete database root.b,c").1 =
        .error (.malformed (.notUnderRoot "c"))) ∧
    ((t.execute "create timeseries root.a.x; with datatype=FLOAT").1 = .ok .done ∧
      ((t.execute "create timeseries root.a.x; with datatype=FLOAT").2.execute "delete timeseries root.a.x;").1 =
        .error (.seriesMissing ⟨"root.a.x"⟩)) :=
  ⟨⟨by rfl, by rfl⟩, by rfl, by rfl⟩

end SeriesCatalog.Tree
