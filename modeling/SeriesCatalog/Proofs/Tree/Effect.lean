/-
A statement is done exactly if the tree is another one afterwards. What is done changes the number of
entries of the tree: a creation comes in beside the others because nothing of its path was there, and a
deletion takes at least one entry away because something fits. What is turned down, and what answers
with rows, hands back the tree as it was.
-/
import SeriesCatalog.Proofs.Tree.Answers
import SeriesCatalog.Proofs.Tree.Invariant

namespace SeriesCatalog.Tree

open SeriesCatalog.Path

variable {t t' : Tree}

/-! ## The number of entries -/

/-- The number of databases and series. -/
def size (t : Tree) : Nat := t.databases.length + t.series.length

theorem size_of_createDatabase {p : Path} (h : t.createDatabase p = .ok t') : t'.size = t.size + 1 := by
  obtain ⟨-, -, hfree, rfl⟩ := createDatabase_eq_ok_iff.1 h
  have hnew : ∀ db ∈ t.databases, db.text ≠ p.text := fun db hdb he =>
    (overlaps_eq_false_iff.1 (hfree db hdb)).1 (ext_text he)
  have hlength := Ascending.length_insert_of_new hnew
  simp only [size, withDatabase]
  omega

theorem size_of_createSeries {p : Path} {info : SeriesInfo} (h : t.createSeries p info = .ok t') :
    t'.size = t.size + 1 := by
  obtain ⟨-, hapart, rfl⟩ := createSeries_eq_ok_iff.1 h
  have hnew : ∀ s ∈ t.series, s.path.text ≠ (Series.mk p info).path.text := fun s hs he =>
    (hapart s hs).1 (ext_text he)
  have hlength := Ascending.length_insert_of_new hnew
  simp only [size, withSeries]
  omega

/-- The databases that are selected go, whatever becomes of the series. -/
theorem size_of_deleteDatabases {patterns : List Path} (h : t.deleteDatabases patterns = .ok t') :
    t'.size < t.size := by
  obtain ⟨hne, rfl⟩ := deleteDatabases_eq_ok_iff.1 h
  obtain ⟨db, hdb⟩ := List.exists_mem_of_ne_nil _ hne
  have hmem : db ∈ t.databases := t.selectedDatabases_subset patterns hdb
  have hdatabases : (t.databases.filter (· ∉ t.selectedDatabases patterns)).length < t.databases.length :=
    List.length_filter_lt_length_iff_exists.2 ⟨db, hmem, by simpa using hdb⟩
  have hseries : (t.series.filter fun s => !(t.selectedDatabases patterns).any (·.isAncestorOf s.path)).length ≤
      t.series.length :=
    List.length_filter_le ..
  simp only [size, without]
  omega

theorem size_of_deleteSeries {pattern : Path} (h : t.deleteSeries pattern = .ok t') : t'.size < t.size := by
  obtain ⟨⟨s, hs, hfits⟩, rfl⟩ := deleteSeries_eq_ok_iff.1 h
  have hseries : (t.series.filter fun s => !s.path.fits pattern).length < t.series.length :=
    List.length_filter_lt_length_iff_exists.2 ⟨s, hs, by simp [hfits]⟩
  simp only [size]
  omega

/-! ## Done and changed -/

theorem settle_eq_done_iff {r : Except Rejection Tree} (h : ∀ t', r = .ok t' → t'.size ≠ t.size) :
    (t.settle r).1 = .ok .done ↔ (t.settle r).2 ≠ t := by
  cases r with
  | ok changed => exact iff_of_true rfl fun he => h changed rfl (congrArg size he)
  | error reason => exact iff_of_false nofun fun hne => hne rfl

theorem apply_eq_done_iff (t : Tree) (st : Statement) : (t.apply st).1 = .ok .done ↔ (t.apply st).2 ≠ t := by
  cases st with
  | createDatabase p => exact settle_eq_done_iff fun t' hc => by have := size_of_createDatabase hc; omega
  | deleteDatabases ps => exact settle_eq_done_iff fun t' hc => by have := size_of_deleteDatabases hc; omega
  | createSeries p info => exact settle_eq_done_iff fun t' hc => by have := size_of_createSeries hc; omega
  | deleteSeries p => exact settle_eq_done_iff fun t' hc => by have := size_of_deleteSeries hc; omega
  | showDatabases | showDevices | showSeries => exact iff_of_false nofun fun hne => hne rfl

/-- Databases are deleted as soon as some pattern fits one of them, and whether or not the others fit any. -/
theorem apply_deleteDatabases_eq_done_iff (t : Tree) (patterns : List Path) :
    (t.apply (.deleteDatabases patterns)).1 = .ok .done ↔ ∃ db ∈ t.userDatabases, ∃ p ∈ patterns, db.fits p = true := by
  have hselected : t.selectedDatabases patterns = [] ↔ ¬ ∃ db ∈ t.userDatabases, ∃ p ∈ patterns, db.fits p = true := by
    simp [selectedDatabases, List.filter_eq_nil_iff]
  show (t.settle (t.deleteDatabases patterns)).1 = .ok .done ↔ _
  constructor
  · intro hdone
    obtain ⟨hne, -⟩ := deleteDatabases_eq_ok_iff.1 (eq_ok_of_settle hdone)
    exact by_contra fun hnone => hne (hselected.2 hnone)
  · intro hsome
    rw [deleteDatabases_eq_ok_iff.2 ⟨fun hnil => hselected.1 hnil hsome, rfl⟩]
    rfl

/-- A statement is done exactly if the tree is another one afterwards. Whatever is turned down and whatever answers with
rows leaves the tree as it was, and a deletion is done even if only some of its patterns fit. -/
theorem done_iff_changed (t : Tree) (st : Statement) :
    ((t.apply st).1 = .ok .done ↔ (t.apply st).2 ≠ t) ∧
      (∀ reason, (t.apply st).1 = .error reason → (t.apply st).2 = t) ∧
      (∀ table, (t.apply st).1 = .ok (.rows table) → (t.apply st).2 = t) ∧
      ∀ patterns, st = .deleteDatabases patterns →
        ((t.apply st).1 = .ok .done ↔ ∃ db ∈ t.userDatabases, ∃ p ∈ patterns, db.fits p = true) := by
  have hkept : (t.apply st).1 ≠ .ok .done → (t.apply st).2 = t := fun hne =>
    by_contra fun hchanged => hne ((apply_eq_done_iff t st).2 hchanged)
  refine ⟨apply_eq_done_iff t st, fun reason h => hkept ?_, fun table h => hkept ?_, ?_⟩
  · rw [h]
    nofun
  · rw [h]
    nofun
  · rintro patterns rfl
    exact apply_deleteDatabases_eq_done_iff t patterns

/-- Of three patterns only one fits, which is enough; no series lies on the path of a database. -/
theorem done_iff_changed_local :
    let t := initial.run ["create database root.a", "create timeseries root.a.x with datatype=INT32",
      "create database root.b", "create timeseries root.b.x with datatype=TEXT"]
    (t.apply (.deleteDatabases [⟨"root.c"⟩, ⟨"root.a*"⟩, ⟨"root.a"⟩])).1 = .ok .done ∧
      (t.apply (.deleteDatabases [⟨"root.c"⟩, ⟨"root.a*"⟩, ⟨"root.a"⟩])).2 ≠ t ∧
      (t.apply (.deleteSeries ⟨"root.a"⟩)).2 = t := by
  intro t
  have hdone : (t.apply (.deleteDatabases [⟨"root.c"⟩, ⟨"root.a*"⟩, ⟨"root.a"⟩])).1 = .ok .done := by rfl
  have herror : (t.apply (.deleteSeries ⟨"root.a"⟩)).1 = .error (.seriesMissing ⟨"root.a"⟩) := by rfl
  exact ⟨hdone, (done_iff_changed t _).1.1 hdone, (done_iff_changed t _).2.1 _ herror⟩

end SeriesCatalog.Tree
