/-
What the tree takes in. A creation is refused exactly if there is nothing to create, because the
entry is there already, or if the tree with the new entry would no longer be consistent. The checks
look at the new entry and its neighbours only: a new database is compared with the other databases
and not with the series, a new series with the first database above it that is found. On a consistent
tree this is enough. The invariant makes one direction, since what is created keeps it; for the other
each check is read off the consistent tree in which the entry is.
-/
import SeriesCatalog.Proofs.Tree.Edit
import SeriesCatalog.Proofs.Tree.Reachable

namespace SeriesCatalog.Tree

open SeriesCatalog.Path

variable {t : Tree} {d p x : Path} {info : SeriesInfo} {s : Series}

/-- How the entries of a tree lie to each other: the system database is there; databases lie apart, are no patterns and
have at least two nodes; one database lies above each series, and it is not the system's; series lie apart. -/
structure Consistent (t : Tree) : Prop where
  system : systemDatabase ∈ t.databases
  databasesApart : ∀ a ∈ t.databases, ∀ b ∈ t.databases, a.isAncestorOf b = false
  databasesFormed : ∀ db ∈ t.databases, '*' ∉ db.text.toList ∧ 2 ≤ db.nodes.length
  owned : ∀ s ∈ t.series, ∃ db ∈ t.databases, db ≠ systemDatabase ∧
    ∀ other ∈ t.databases, other.isAncestorOf s.path = true ↔ other = db
  seriesApart : ∀ r ∈ t.series, ∀ s ∈ t.series, r.path.isAncestorOf s.path = false

theorem Invariant.consistent (h : t.Invariant) : t.Consistent where
  system := h.system
  databasesApart := h.databasesApart
  databasesFormed := fun db hdb => ⟨(h.databasesStorable db hdb).1.noStar, (h.databasesStorable db hdb).2⟩
  owned := by
    intro s hs
    obtain ⟨db, hdb, -, hne, hanc⟩ := h.exists_owner hs
    exact ⟨db, hdb, hne, fun other hother => ⟨fun habove => h.owner_unique hother hdb habove hanc, fun he => he ▸ hanc⟩⟩
  seriesApart := h.seriesApart

/-! ## Databases -/

/-- Where the tree with the database is consistent, the database is well formed and overlaps no other. -/
theorem Invariant.free_of_consistent (h : t.Invariant) (hnew : d ∉ t.databases) (hc : (t.withDatabase d).Consistent) :
    '*' ∉ d.text.toList ∧ 2 ≤ d.nodes.length ∧ t.Free d := by
  have hmem : d ∈ (t.withDatabase d).databases := (h.mem_withDatabase hnew).2 (.inl rfl)
  obtain ⟨hstar, hlen⟩ := hc.databasesFormed d hmem
  refine ⟨hstar, hlen, fun db hdb => overlaps_eq_false_iff.2 ⟨fun he => hnew (he ▸ hdb), ?_, ?_⟩⟩
  · exact hc.databasesApart db ((h.mem_withDatabase hnew).2 (.inr hdb)) d hmem
  · exact hc.databasesApart d hmem db ((h.mem_withDatabase hnew).2 (.inr hdb))

theorem Invariant.createDatabase_eq_ok_iff_consistent (h : t.Invariant) (hroot : d.Rooted)
    (hblank : ∀ c ∈ d.text.toList, Text.isBlank c = false) {t' : Tree} :
    t.createDatabase d = .ok t' ↔ (d ∉ t.databases ∧ (t.withDatabase d).Consistent) ∧ t' = t.withDatabase d := by
  constructor
  · intro hc
    obtain ⟨-, -, hfree, rfl⟩ := createDatabase_eq_ok_iff.1 hc
    exact ⟨⟨Free.notMem hfree, (h.createDatabase hroot hblank hc).consistent⟩, rfl⟩
  · rintro ⟨⟨hnew, hc⟩, rfl⟩
    obtain ⟨hstar, hlen, hfree⟩ := h.free_of_consistent hnew hc
    exact createDatabase_eq_ok_iff.2 ⟨hstar, hlen, hfree, rfl⟩

/-! ## Series -/

/-- Where the tree with the series is consistent, the series lies below a user database and apart from the others. -/
theorem Invariant.apart_of_consistent (h : t.Invariant) (hnew : ∀ r ∈ t.series, r.path ≠ s.path)
    (hc : (t.withSeries s).Consistent) :
    (∃ db, t.ownerOf? s.path = some db ∧ db ≠ systemDatabase) ∧
      ∀ r ∈ t.series, r.path ≠ s.path ∧ r.path.isAncestorOf s.path = false ∧ s.path.isAncestorOf r.path = false := by
  have hmem : s ∈ (t.withSeries s).series := (h.mem_withSeries hnew).2 (.inl rfl)
  obtain ⟨db, hdb, hne, habove⟩ := hc.owned s hmem
  refine ⟨⟨db, h.ownerOf?_eq_some_iff.2 ⟨hdb, (habove db hdb).2 rfl⟩, hne⟩, fun r hr => ⟨hnew r hr, ?_, ?_⟩⟩
  · exact hc.seriesApart r ((h.mem_withSeries hnew).2 (.inr hr)) s hmem
  · exact hc.seriesApart s hmem r ((h.mem_withSeries hnew).2 (.inr hr))

theorem Invariant.createSeries_eq_ok_iff_consistent (h : t.Invariant) (hp : p.Storable) {t' : Tree} :
    t.createSeries p info = .ok t' ↔
      ((∀ r ∈ t.series, r.path ≠ p) ∧ (t.withSeries ⟨p, info⟩).Consistent) ∧ t' = t.withSeries ⟨p, info⟩ := by
  constructor
  · intro hc
    obtain ⟨-, hapart, rfl⟩ := createSeries_eq_ok_iff.1 hc
    exact ⟨⟨fun r hr => (hapart r hr).1, (h.createSeries hp hc).consistent⟩, rfl⟩
  · rintro ⟨⟨hnew, hc⟩, rfl⟩
    obtain ⟨howner, hapart⟩ := h.apart_of_consistent (s := ⟨p, info⟩) hnew hc
    exact createSeries_eq_ok_iff.2 ⟨howner, hapart, rfl⟩

/-! ## Statements that create -/

/-- A creation is accepted exactly if its entry is new and the tree with the entry is consistent; then this is the tree
that it leads to. With a new entry the tree holds that entry and what it held before. -/
def Admits (t : Tree) : Statement → Prop
  | .createDatabase d =>
    ((t.apply (.createDatabase d)).1.isOk = true ↔ d ∉ t.databases ∧ (t.withDatabase d).Consistent) ∧
    ((t.apply (.createDatabase d)).1.isOk = true → (t.apply (.createDatabase d)).2 = t.withDatabase d) ∧
    (d ∉ t.databases → ∀ x, x ∈ (t.withDatabase d).databases ↔ x = d ∨ x ∈ t.databases)
  | .createSeries p info =>
    ((t.apply (.createSeries p info)).1.isOk = true ↔
      (∀ r ∈ t.series, r.path ≠ p) ∧ (t.withSeries ⟨p, info⟩).Consistent) ∧
    ((t.apply (.createSeries p info)).1.isOk = true → (t.apply (.createSeries p info)).2 = t.withSeries ⟨p, info⟩) ∧
    ((∀ r ∈ t.series, r.path ≠ p) → ∀ r, r ∈ (t.withSeries ⟨p, info⟩).series ↔ r = ⟨p, info⟩ ∨ r ∈ t.series)
  | _ => True

/-- A change that is possible on a condition, and to one tree only, is done on that condition and leads to that tree. -/
theorem settle_of_eq_ok_iff {r : Except Rejection Tree} {u : Tree} {P : Prop} (h : ∀ t', r = .ok t' ↔ P ∧ t' = u) :
    ((t.settle r).1.isOk = true ↔ P) ∧ ((t.settle r).1.isOk = true → (t.settle r).2 = u) := by
  have hdone : (t.settle r).1.isOk = true ↔ P := by
    rw [settle_isOk_iff]
    simp only [h, exists_and_left, exists_eq, and_true]
  refine ⟨hdone, fun hok => ?_⟩
  have hr : r = .ok u := (h u).2 ⟨hdone.1 hok, rfl⟩
  rw [hr]
  rfl

/-- On every tree that statements lead to, creations are refused exactly where they have to be. -/
theorem admits_of_parse (ht : t.Reachable) {sql : String} {st : Statement} (h : Statement.parse sql = .ok st) :
    t.Admits st := by
  have hst := Statement.createsSoundly_of_parse h
  cases st with
  | createDatabase d =>
    obtain ⟨hroot, hblank⟩ := hst
    obtain ⟨hdone, hafter⟩ := settle_of_eq_ok_iff (t := t) fun _ =>
      ht.invariant.createDatabase_eq_ok_iff_consistent hroot hblank
    exact ⟨hdone, hafter, fun hnew _ => ht.invariant.mem_withDatabase hnew⟩
  | createSeries p info =>
    obtain ⟨hdone, hafter⟩ := settle_of_eq_ok_iff (t := t) fun _ =>
      ht.invariant.createSeries_eq_ok_iff_consistent hst
    exact ⟨hdone, hafter, fun hnew _ => ht.invariant.mem_withSeries (s := ⟨p, info⟩) hnew⟩
  | deleteDatabases | deleteSeries | showDatabases | showDevices | showSeries => trivial

/-- Beside `root.a` there is room for `root.ab`, which is accepted, and none for `root.a.b`. -/
theorem admits_local :
    let t := initial.run ["create database root.a"]
    t.Reachable ∧ Statement.parse "create database root.ab" = .ok (.createDatabase ⟨"root.ab"⟩) ∧
      t.Admits (.createDatabase ⟨"root.ab"⟩) ∧ (t.apply (.createDatabase ⟨"root.ab"⟩)).1.isOk = true ∧
      (t.apply (.createDatabase ⟨"root.a.b"⟩)).1.isOk = false :=
  have hparse : Statement.parse "create database root.ab" = .ok (.createDatabase ⟨"root.ab"⟩) := by rfl
  ⟨⟨_, rfl⟩, hparse, admits_of_parse ⟨_, rfl⟩ hparse, by rfl, by rfl⟩

end SeriesCatalog.Tree
