/-
The invariant of the tree. The system database is there; databases lie apart, none above another;
every series lies below a database other than the system's, and no series above another; and every
path is spelled by one word, rooted and without a star. Each of the four operations that change the
tree keeps it, hence so does every run of statement texts, whatever becomes of each.

That databases lie apart makes the database above a series unique. It also keeps a new database from
capturing series that are stored already: both it and their owner would lie above them, so the two
would overlap, and the new one is refused.
-/
import SeriesCatalog.Tree.Execution
import SeriesCatalog.Proofs.Ascending
import SeriesCatalog.Proofs.Statement.Made

namespace SeriesCatalog.Tree

open SeriesCatalog.Path

/-- What holds of every tree that statements lead to. -/
structure Invariant (t : Tree) : Prop where
  databasesAscending : Ascending.Holds Path.text t.databases
  seriesAscending : Ascending.Holds (fun s : Series => s.path.text) t.series
  system : systemDatabase ∈ t.databases
  databasesApart : ∀ a ∈ t.databases, ∀ b ∈ t.databases, a.isAncestorOf b = false
  owned : ∀ s ∈ t.series, ∃ db ∈ t.databases, db ≠ systemDatabase ∧ db.isAncestorOf s.path = true
  seriesApart : ∀ r ∈ t.series, ∀ s ∈ t.series, r.path.isAncestorOf s.path = false
  databasesStorable : ∀ db ∈ t.databases, db.Storable ∧ 2 ≤ db.nodes.length
  seriesStorable : ∀ s ∈ t.series, s.path.Storable

theorem invariant_initial : initial.Invariant where
  databasesAscending := List.pairwise_singleton _ _
  seriesAscending := .nil
  system := List.mem_singleton_self _
  databasesApart := by simp [initial, isAncestorOf_irrefl]
  owned := nofun
  seriesApart := nofun
  databasesStorable := by
    intro db hdb
    rw [List.mem_singleton.1 hdb]
    have hblank := Text.noBlank_of_all (w := systemDatabase.text.toList) (by decide)
    exact ⟨⟨⟨by decide, by decide⟩, hblank, by decide⟩, by decide⟩
  seriesStorable := nofun

/-! ## Overlap -/

theorem overlaps_eq_true_iff {a b : Path} :
    overlaps a b = true ↔ a = b ∨ a.isAncestorOf b = true ∨ b.isAncestorOf a = true := by
  simp [overlaps, or_assoc]

theorem overlaps_eq_false_iff {a b : Path} :
    overlaps a b = false ↔ a ≠ b ∧ a.isAncestorOf b = false ∧ b.isAncestorOf a = false := by
  rw [Bool.eq_false_iff, Ne, overlaps_eq_true_iff, not_or, not_or, Bool.not_eq_true, Bool.not_eq_true]

/-- Two paths above the same path overlap. -/
theorem overlaps_of_common {a b p : Path} (ha : a.isAncestorOf p = true) (hb : b.isAncestorOf p = true) :
    overlaps a b = true :=
  overlaps_eq_true_iff.2 (eq_or_isAncestorOf ha hb)

section

variable {t t' : Tree}

/-- Databases that overlap are equal. -/
theorem Invariant.eq_of_overlaps (h : t.Invariant) {a b : Path} (ha : a ∈ t.databases) (hb : b ∈ t.databases)
    (ho : overlaps a b = true) : a = b := by
  rcases overlaps_eq_true_iff.1 ho with he | hab | hba
  · exact he
  · rw [h.databasesApart a ha b hb] at hab; cases hab
  · rw [h.databasesApart b hb a ha] at hba; cases hba

/-- Only one database lies above a path. -/
theorem Invariant.owner_unique (h : t.Invariant) {a b p : Path} (ha : a ∈ t.databases) (hb : b ∈ t.databases)
    (hap : a.isAncestorOf p = true) (hbp : b.isAncestorOf p = true) : a = b :=
  h.eq_of_overlaps ha hb (overlaps_of_common hap hbp)

/-- The database above a path is the one that the tree finds. -/
theorem Invariant.ownerOf?_eq_some_iff (h : t.Invariant) {p db : Path} :
    t.ownerOf? p = some db ↔ db ∈ t.databases ∧ db.isAncestorOf p = true := by
  unfold ownerOf?
  constructor
  · intro hf
    exact ⟨List.mem_of_find?_eq_some hf, by simpa using List.find?_some hf⟩
  · rintro ⟨hdb, hp⟩
    cases hf : t.databases.find? (·.isAncestorOf p) with
    | none =>
      have := List.find?_eq_none.1 hf db hdb
      exact absurd hp this
    | some owner =>
      -- what is found first is above the path too
      have ho : owner.isAncestorOf p = true := by simpa using List.find?_some hf
      rw [h.owner_unique (List.mem_of_find?_eq_some hf) hdb ho hp]

/-- Every series has an owner, which is not the system database. -/
theorem Invariant.exists_owner (h : t.Invariant) {s : Series} (hs : s ∈ t.series) :
    ∃ db ∈ t.databases, t.ownerOf? s.path = some db ∧ db ≠ systemDatabase ∧ db.isAncestorOf s.path = true := by
  obtain ⟨db, hdb, hne, hp⟩ := h.owned s hs
  exact ⟨db, hdb, h.ownerOf?_eq_some_iff.2 ⟨hdb, hp⟩, hne, hp⟩

/-- Of some databases one lies above the path exactly if the owner is among them. -/
theorem Invariant.any_isAncestorOf_iff (h : t.Invariant) {p owner : Path} (howner : t.ownerOf? p = some owner)
    {targets : List Path} (htargets : targets ⊆ t.databases) :
    targets.any (·.isAncestorOf p) = true ↔ owner ∈ targets := by
  obtain ⟨hdb, hanc⟩ := h.ownerOf?_eq_some_iff.1 howner
  rw [List.any_eq_true]
  constructor
  · rintro ⟨db, hmem, habove⟩
    rwa [h.owner_unique hdb (htargets hmem) hanc habove]
  · exact fun hmem => ⟨owner, hmem, hanc⟩

/-- Series of one path are equal. -/
theorem Invariant.series_eq (h : t.Invariant) {r s : Series} (hr : r ∈ t.series) (hs : s ∈ t.series)
    (hp : r.path = s.path) : r = s :=
  h.seriesAscending.eq_of_key hr hs (congrArg Path.text hp)

/-! ## Trees with one more entry -/

/-- The tree with one more database. -/
def withDatabase (t : Tree) (d : Path) : Tree := { t with databases := Ascending.insert Path.text d t.databases }

/-- The tree with one more series. -/
def withSeries (t : Tree) (s : Series) : Tree := { t with series := Ascending.insert (·.path.text) s t.series }

theorem Invariant.mem_withDatabase (h : t.Invariant) {d x : Path} (hnew : d ∉ t.databases) :
    x ∈ (t.withDatabase d).databases ↔ x = d ∨ x ∈ t.databases :=
  Ascending.mem_insert_of_new h.databasesAscending fun _ hdb he => hnew (ext_text he ▸ hdb)

theorem Invariant.mem_withSeries (h : t.Invariant) {r s : Series} (hnew : ∀ r ∈ t.series, r.path ≠ s.path) :
    r ∈ (t.withSeries s).series ↔ r = s ∨ r ∈ t.series :=
  Ascending.mem_insert_of_new h.seriesAscending fun r hr he => hnew r hr (ext_text he)

/-! ## What each operation does -/

/-- A new database is refused for its form or for an overlap, and otherwise comes in. -/
theorem createDatabase_eq_ok_iff {p : Path} :
    t.createDatabase p = .ok t' ↔
      '*' ∉ p.text.toList ∧ 2 ≤ p.nodes.length ∧ (∀ db ∈ t.databases, overlaps db p = false) ∧
        t' = t.withDatabase p := by
  unfold createDatabase
  split
  · rename_i hbad
    refine ⟨nofun, fun ⟨hstar, hlen, _⟩ => ?_⟩
    rcases Bool.or_eq_true_iff.1 hbad with hs | hl
    · rw [hasStar_eq_false_iff.2 hstar] at hs; cases hs
    · exact absurd (of_decide_eq_true hl) (by omega)
  · rename_i hgood
    rw [Bool.or_eq_true_iff, not_or, Bool.not_eq_true, hasStar_eq_false_iff, decide_eq_true_iff, not_lt] at hgood
    split
    · rename_i hover
      refine ⟨nofun, fun ⟨_, _, hnone, _⟩ => ?_⟩
      obtain ⟨db, hdb, ho⟩ := List.any_eq_true.1 hover
      rw [hnone db hdb] at ho; cases ho
    · rename_i hover
      rw [List.any_eq_true, not_exists] at hover
      constructor
      · intro he
        cases he
        exact ⟨hgood.1, hgood.2, fun db hdb => by simpa using fun ho => hover db ⟨hdb, ho⟩, rfl⟩
      · rintro ⟨-, -, -, rfl⟩
        rfl

/-- The tree without some databases and without the series below them. -/
def without (t : Tree) (targets : List Path) : Tree where
  databases := t.databases.filter (· ∉ targets)
  series := t.series.filter fun s => !targets.any (·.isAncestorOf s.path)

theorem deleteDatabases_eq_ok_iff {patterns : List Path} :
    t.deleteDatabases patterns = .ok t' ↔
      t.selectedDatabases patterns ≠ [] ∧ t' = t.without (t.selectedDatabases patterns) := by
  unfold deleteDatabases
  dsimp only
  split
  · rename_i hnil
    exact ⟨nofun, fun ⟨hne, _⟩ => absurd hnil hne⟩
  · rename_i hne
    exact ⟨fun he => ⟨hne, (Except.ok.inj he).symm⟩, fun ⟨_, he⟩ => congrArg _ he.symm⟩

/-- A new series is refused unless it lies below a user database, and unless no series is stored on,
above or below its path. -/
theorem createSeries_eq_ok_iff {p : Path} {info : SeriesInfo} :
    t.createSeries p info = .ok t' ↔
      (∃ db, t.ownerOf? p = some db ∧ db ≠ systemDatabase) ∧
        (∀ s ∈ t.series, s.path ≠ p ∧ s.path.isAncestorOf p = false ∧ p.isAncestorOf s.path = false) ∧
        t' = t.withSeries ⟨p, info⟩ := by
  unfold createSeries
  cases ho : t.ownerOf? p with
  | none => exact ⟨nofun, fun ⟨⟨db, hdb, _⟩, _⟩ => by cases hdb⟩
  | some owner =>
    dsimp only
    split
    · rename_i hsys
      refine ⟨nofun, fun ⟨⟨db, hdb, hne⟩, _⟩ => ?_⟩
      cases hdb
      exact absurd hsys hne
    · rename_i hsys
      split
      · rename_i hstored
        refine ⟨nofun, fun ⟨_, hnone, _⟩ => ?_⟩
        obtain ⟨s, hs, he⟩ := List.any_eq_true.1 hstored
        exact absurd (by simpa using he) (hnone s hs).1
      · rename_i hnew
        split
        · rename_i hconflict
          refine ⟨nofun, fun ⟨_, hnone, _⟩ => ?_⟩
          obtain ⟨s, hs, he⟩ := List.any_eq_true.1 hconflict
          obtain ⟨-, h1, h2⟩ := hnone s hs
          rw [h1, h2] at he; cases he
        · rename_i hapart
          simp only [Bool.not_eq_true, List.any_eq_false, beq_iff_eq, Bool.or_eq_true, not_or] at hnew hapart
          refine ⟨fun he => ⟨⟨owner, rfl, hsys⟩, fun s hs => ⟨hnew s hs, by simpa using hapart s hs⟩,
            (Except.ok.inj he).symm⟩, fun ⟨_, _, he⟩ => congrArg _ he.symm⟩

theorem deleteSeries_eq_ok_iff {pattern : Path} :
    t.deleteSeries pattern = .ok t' ↔
      (∃ s ∈ t.series, s.path.fits pattern = true) ∧
        t' = { t with series := t.series.filter fun s => !s.path.fits pattern } := by
  unfold deleteSeries
  split
  · rename_i hsome
    exact ⟨fun he => ⟨List.any_eq_true.1 hsome, (Except.ok.inj he).symm⟩, fun ⟨_, he⟩ => congrArg _ he.symm⟩
  · rename_i hnone
    exact ⟨nofun, fun ⟨hsome, _⟩ => absurd (List.any_eq_true.2 hsome) hnone⟩

/-! ## Every operation keeps the invariant -/

theorem Invariant.createDatabase (h : t.Invariant) {p : Path} (hroot : p.Rooted)
    (hblank : ∀ c ∈ p.text.toList, Text.isBlank c = false) (hc : t.createDatabase p = .ok t') : t'.Invariant := by
  obtain ⟨hstar, hlen, hover, rfl⟩ := createDatabase_eq_ok_iff.1 hc
  have hapart : ∀ db ∈ t.databases, db ≠ p ∧ db.isAncestorOf p = false ∧ p.isAncestorOf db = false :=
    fun db hdb => overlaps_eq_false_iff.1 (hover db hdb)
  have hmem : ∀ x, x ∈ (t.withDatabase p).databases ↔ x = p ∨ x ∈ t.databases := fun _ =>
    h.mem_withDatabase fun hp => (hapart p hp).1 rfl
  refine ⟨h.databasesAscending.insert p, h.seriesAscending, (hmem _).2 (.inr h.system), ?_, ?_, h.seriesApart, ?_,
    h.seriesStorable⟩
  · intro a ha b hb
    -- the new database on either side, on both or on neither
    rcases (hmem a).1 ha with rfl | ha <;> rcases (hmem b).1 hb with hbp | hb
    · exact hbp ▸ isAncestorOf_irrefl a
    · exact (hapart b hb).2.2
    · exact hbp ▸ (hapart a ha).2.1
    · exact h.databasesApart a ha b hb
  · -- a series keeps its owner
    intro s hs
    obtain ⟨db, hdb, hne, hp⟩ := h.owned s hs
    exact ⟨db, (hmem db).2 (.inr hdb), hne, hp⟩
  · intro db hdb
    rcases (hmem db).1 hdb with rfl | hdb
    · exact ⟨⟨hroot, hblank, hstar⟩, hlen⟩
    · exact h.databasesStorable db hdb

/-- Databases may go together with the series below them, but for the system's. -/
theorem Invariant.without (h : t.Invariant) {targets : List Path} (hsys : systemDatabase ∉ targets) :
    (t.without targets).Invariant := by
  have hdb : ∀ {db}, db ∈ (t.without targets).databases → db ∈ t.databases := fun hm => (List.mem_filter.1 hm).1
  have hs : ∀ {s}, s ∈ (t.without targets).series → s ∈ t.series := fun hm => (List.mem_filter.1 hm).1
  refine ⟨h.databasesAscending.filter _, h.seriesAscending.filter _, ?_,
    fun a ha b hb => h.databasesApart a (hdb ha) b (hdb hb),
    fun s hm => ?_, fun r hr s hm => h.seriesApart r (hs hr) s (hs hm), fun db hm => h.databasesStorable db (hdb hm),
    fun s hm => h.seriesStorable s (hs hm)⟩
  · exact List.mem_filter.2 ⟨h.system, by simpa using hsys⟩
  · -- the owner stays, since the series would have gone with it
    obtain ⟨db, hdb', hne, hp⟩ := h.owned s (hs hm)
    refine ⟨db, List.mem_filter.2 ⟨hdb', decide_eq_true fun ht => ?_⟩, hne, hp⟩
    have hnone := (List.mem_filter.1 hm).2
    simp only [Bool.not_eq_true', List.any_eq_false] at hnone
    exact hnone db ht hp

/-- What stays keeps its owner. -/
theorem Invariant.ownerOf?_without (h : t.Invariant) {targets : List Path} (hsys : systemDatabase ∉ targets)
    {s : Series}
    (hs : s ∈ (t.without targets).series) : (t.without targets).ownerOf? s.path = t.ownerOf? s.path := by
  obtain ⟨db, hdb, howner, -, hanc⟩ := (h.without hsys).exists_owner hs
  rw [howner, h.ownerOf?_eq_some_iff.2 ⟨(List.mem_filter.1 hdb).1, hanc⟩]

theorem selectedDatabases_subset (t : Tree) (patterns : List Path) : t.selectedDatabases patterns ⊆ t.databases :=
  fun _ hdb => (List.mem_filter.1 (List.mem_filter.1 hdb).1).1

theorem systemDatabase_notMem_selectedDatabases (t : Tree) (patterns : List Path) :
    systemDatabase ∉ t.selectedDatabases patterns := by
  simp [selectedDatabases, userDatabases]

theorem Invariant.deleteDatabases (h : t.Invariant) {patterns : List Path}
    (hc : t.deleteDatabases patterns = .ok t') : t'.Invariant := by
  obtain ⟨-, rfl⟩ := deleteDatabases_eq_ok_iff.1 hc
  exact h.without (t.systemDatabase_notMem_selectedDatabases patterns)

theorem Invariant.createSeries (h : t.Invariant) {p : Path} {info : SeriesInfo} (hp : p.Storable)
    (hc : t.createSeries p info = .ok t') : t'.Invariant := by
  obtain ⟨⟨owner, howner, hne⟩, hapart, rfl⟩ := createSeries_eq_ok_iff.1 hc
  obtain ⟨hdb, hanc⟩ := h.ownerOf?_eq_some_iff.1 howner
  have hmem : ∀ r, r ∈ (t.withSeries ⟨p, info⟩).series ↔ r = ⟨p, info⟩ ∨ r ∈ t.series := fun _ =>
    h.mem_withSeries fun s hs => (hapart s hs).1
  refine ⟨h.databasesAscending, h.seriesAscending.insert _, h.system, h.databasesApart, ?_, ?_, h.databasesStorable, ?_⟩
  · intro s hs
    rcases (hmem s).1 hs with rfl | hs
    · exact ⟨owner, hdb, hne, hanc⟩
    · exact h.owned s hs
  · intro r hr s hs
    -- the new series on either side, on both or on neither
    rcases (hmem r).1 hr with rfl | hr <;> rcases (hmem s).1 hs with rfl | hs
    · exact isAncestorOf_irrefl p
    · exact (hapart s hs).2.2
    · exact (hapart r hr).2.1
    · exact h.seriesApart r hr s hs
  · intro s hs
    rcases (hmem s).1 hs with rfl | hs
    · exact hp
    · exact h.seriesStorable s hs

theorem Invariant.deleteSeries (h : t.Invariant) {pattern : Path}
    (hc : t.deleteSeries pattern = .ok t') : t'.Invariant := by
  obtain ⟨-, rfl⟩ := deleteSeries_eq_ok_iff.1 hc
  have hs : ∀ {s}, s ∈ t.series.filter (fun s => !s.path.fits pattern) → s ∈ t.series := fun hm =>
    (List.mem_filter.1 hm).1
  exact ⟨h.databasesAscending, h.seriesAscending.filter _, h.system, h.databasesApart, fun s hm => h.owned s (hs hm),
    fun r hr s hm => h.seriesApart r (hs hr) s (hs hm), h.databasesStorable, fun s hm => h.seriesStorable s (hs hm)⟩

/-! ## Runs -/

theorem Invariant.settle (h : t.Invariant) {r : Except Rejection Tree} (hr : ∀ t', r = .ok t' → t'.Invariant) :
    (t.settle r).2.Invariant := by
  cases r with
  | ok t' => exact hr t' rfl
  | error e => exact h

/-- One statement keeps the invariant, whatever becomes of it. -/
theorem Invariant.apply (h : t.Invariant) {st : Statement} (hst : st.CreatesSoundly) : (t.apply st).2.Invariant := by
  cases st with
  | createDatabase p =>
    show (t.settle (t.createDatabase p)).2.Invariant
    exact h.settle fun t' hc => h.createDatabase hst.1 hst.2 hc
  | deleteDatabases ps =>
    show (t.settle (t.deleteDatabases ps)).2.Invariant
    exact h.settle fun t' hc => h.deleteDatabases hc
  | createSeries p info =>
    show (t.settle (t.createSeries p info)).2.Invariant
    exact h.settle fun t' hc => h.createSeries hst hc
  | deleteSeries p =>
    show (t.settle (t.deleteSeries p)).2.Invariant
    exact h.settle fun t' hc => h.deleteSeries hc
  | showDatabases | showDevices | showSeries => exact h

theorem Invariant.execute (h : t.Invariant) (sql : String) : (t.execute sql).2.Invariant := by
  unfold Tree.execute
  cases hp : Statement.parse sql with
  | ok st => exact h.apply (Statement.createsSoundly_of_parse hp)
  | error fault => exact h

@[simp] theorem run_nil (t : Tree) : t.run [] = t := rfl

@[simp] theorem run_cons (t : Tree) (sql : String) (texts : List String) :
    t.run (sql :: texts) = (t.execute sql).2.run texts := by
  simp only [Tree.run, List.foldl_cons]

/-- Any run keeps the invariant. -/
theorem Invariant.run (h : t.Invariant) (texts : List String) : (t.run texts).Invariant := by
  induction texts generalizing t with
  | nil => exact h
  | cons sql texts ih =>
    rw [run_cons]
    exact ih (h.execute sql)

end

end SeriesCatalog.Tree
