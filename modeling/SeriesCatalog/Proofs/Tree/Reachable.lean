/-
The trees that statement texts lead to, starting from the initial tree. The main statement lists
what holds of each of them at once; in particular the database that a listing of series names in
each of its rows is always there.
-/
import SeriesCatalog.Proofs.Tree.Invariant

namespace SeriesCatalog.Tree

/-- Some run of texts leads from the initial tree to this one. -/
def Reachable (t : Tree) : Prop := ∃ texts : List String, t = initial.run texts

theorem reachable_initial : initial.Reachable := ⟨[], rfl⟩

theorem run_append (t : Tree) (texts more : List String) : t.run (texts ++ more) = (t.run texts).run more := by
  simp only [Tree.run, List.foldl_append]

theorem Reachable.run {t : Tree} (h : t.Reachable) (texts : List String) : (t.run texts).Reachable := by
  obtain ⟨before, rfl⟩ := h
  exact ⟨before ++ texts, (run_append initial before texts).symm⟩

theorem Reachable.execute {t : Tree} (h : t.Reachable) (sql : String) : (t.execute sql).2.Reachable := by
  have := h.run [sql]
  rwa [run_cons, run_nil] at this

theorem Reachable.invariant {t : Tree} (h : t.Reachable) : t.Invariant := by
  obtain ⟨texts, rfl⟩ := h
  exact invariant_initial.run texts

/-- A row of a series listing names the series and the database above it. -/
theorem Invariant.exists_of_mem_showSeries {t : Tree} (h : t.Invariant) {pattern : Option Path} {row : List Json}
    (hrow : row ∈ (t.showSeries pattern).rows) :
    ∃ s ∈ t.series, ∃ db ∈ t.databases, db.isAncestorOf s.path = true ∧
      row[0]? = some (.string s.path.text) ∧ row[2]? = some (.string db.text) := by
  obtain ⟨s, hs, rfl⟩ := List.mem_map.1 hrow
  obtain ⟨hs, -⟩ := List.mem_filter.1 hs
  obtain ⟨db, hdb, howner, -, hp⟩ := h.exists_owner hs
  refine ⟨s, hs, db, hdb, hp, rfl, ?_⟩
  simp [seriesRow, howner]

/-- After any run of texts, failing ones among them: the system database is there; databases lie
apart; every series has exactly one database above it, which is not the system's; series lie apart;
every path is rooted, without blanks and stars, and a database has at least two nodes. Hence the
owner of a stored series is always found, and every row of a series listing names it. -/
theorem stored_of_run_initial (texts : List String) :
    let t := initial.run texts
    systemDatabase ∈ t.databases ∧
    (∀ a ∈ t.databases, ∀ b ∈ t.databases, a.isAncestorOf b = false) ∧
    (∀ s ∈ t.series, ∃ db ∈ t.databases, db.isAncestorOf s.path = true ∧ db ≠ systemDatabase ∧
      ∀ other ∈ t.databases, other.isAncestorOf s.path = true → other = db) ∧
    (∀ r ∈ t.series, ∀ s ∈ t.series, r.path.isAncestorOf s.path = false) ∧
    (∀ p, p ∈ t.databases ∨ p ∈ t.series.map Series.path →
      p.nodes.head? = some "root" ∧ "" ∉ p.nodes ∧ (∀ c ∈ p.text.toList, Text.isBlank c = false) ∧
        '*' ∉ p.text.toList) ∧
    (∀ db ∈ t.databases, 2 ≤ db.nodes.length) ∧
    (∀ s ∈ t.series, ∃ db ∈ t.databases, t.ownerOf? s.path = some db) ∧
    (∀ pattern, ∀ row ∈ (t.showSeries pattern).rows, ∃ s ∈ t.series, ∃ db ∈ t.databases,
      db.isAncestorOf s.path = true ∧ row[0]? = some (.string s.path.text) ∧ row[2]? = some (.string db.text)) := by
  intro t
  have h : t.Invariant := invariant_initial.run texts
  refine ⟨h.system, h.databasesApart, fun s hs => ?_, h.seriesApart, fun p hp => ?_,
    fun db hdb => (h.databasesStorable db hdb).2, fun s hs => ?_, fun pattern row => h.exists_of_mem_showSeries⟩
  · obtain ⟨db, hdb, -, hne, hanc⟩ := h.exists_owner hs
    exact ⟨db, hdb, hanc, hne, fun other ho hother => h.owner_unique ho hdb hother hanc⟩
  · have hstorable : p.Storable := by
      rcases hp with hdb | hs
      · exact (h.databasesStorable p hdb).1
      · obtain ⟨s, hmem, rfl⟩ := List.mem_map.1 hs
        exact h.seriesStorable s hmem
    exact ⟨hstorable.root, hstorable.noEmptyNode, hstorable.noBlank, hstorable.noStar⟩
  · obtain ⟨db, hdb, howner, -, -⟩ := h.exists_owner hs
    exact ⟨db, hdb, howner⟩

end SeriesCatalog.Tree
